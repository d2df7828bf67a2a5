/-
This file reads and writes UTF-8. Text is written one scalar value at a time,
so the bytes of a concatenation are the concatenation of the bytes. Reading
goes the other way: one well-formed sequence is taken from the front, overlong
forms, surrogates and values beyond the last code point are refused, and a
failed reading returns the bytes from the first ill-formed sequence on.
-/

namespace RippleServer

/-- A string of bytes, such as a payload, a file's content or a part of the input stream. -/
abbrev Bytes := List UInt8

namespace Text

/-! ### Writing -/

/-- The bytes of a list of characters. -/
def encodeChars (chars : List Char) : Bytes :=
  chars.flatMap String.utf8EncodeChar

/-- The bytes of a text. -/
def encode (text : String) : Bytes :=
  encodeChars text.toList

@[simp] theorem encodeChars_nil : encodeChars [] = [] := rfl

@[simp] theorem encodeChars_cons (char : Char) (chars : List Char) :
    encodeChars (char :: chars) = String.utf8EncodeChar char ++ encodeChars chars := by
  simp [encodeChars]

@[simp] theorem encodeChars_append (front back : List Char) :
    encodeChars (front ++ back) = encodeChars front ++ encodeChars back := by
  simp [encodeChars]

/-! ### Reading -/

/-- Continuation bytes are `10xxxxxx`; this is the value of their low six bits. -/
def continuation? (byte : UInt8) : Option Nat :=
  if 0x80 ≤ byte ∧ byte < 0xC0 then some (byte.toNat - 0x80) else none

/-- The character of a code point that lies between `least` and the end of the code space and
is no surrogate. A sequence of a given length must not spell a value below `least`. -/
def scalar? (least value : Nat) : Option Char :=
  if least ≤ value ∧ (value < 0xD800 ∨ 0xDFFF < value ∧ value < 0x110000) then
    some (Char.ofNat value)
  else none

/-- The first character and the bytes behind it, if the bytes start with a well-formed
sequence. -/
def decodeChar? : Bytes → Option (Char × Bytes)
  | [] => none
  | first :: rest =>
    if first < 0x80 then some (Char.ofNat first.toNat, rest)
    else if first < 0xC0 then none
    else if first < 0xE0 then
      match rest with
      | second :: rest => do
        let low ← continuation? second
        let char ← scalar? 0x80 ((first.toNat - 0xC0) * 64 + low)
        pure (char, rest)
      | _ => none
    else if first < 0xF0 then
      match rest with
      | second :: third :: rest => do
        let middle ← continuation? second
        let low ← continuation? third
        let char ← scalar? 0x800 (((first.toNat - 0xE0) * 64 + middle) * 64 + low)
        pure (char, rest)
      | _ => none
    else if first < 0xF8 then
      match rest with
      | second :: third :: fourth :: rest => do
        let high ← continuation? second
        let middle ← continuation? third
        let low ← continuation? fourth
        let char ← scalar? 0x10000
          ((((first.toNat - 0xF0) * 64 + high) * 64 + middle) * 64 + low)
        pure (char, rest)
      | _ => none
    else none

/-- The characters of at most `budget` leading sequences, behind those read so far, the last of
them first. Every sequence has at least one byte, so the number of bytes is budget enough for all
of them. -/
def decodeUpTo : Nat → List Char → Bytes → Except Bytes (List Char)
  | _, done, [] => .ok done.reverse
  | 0, _, bytes => .error bytes
  | budget + 1, done, bytes =>
    match decodeChar? bytes with
    | none => .error bytes
    | some (char, rest) => decodeUpTo budget (char :: done) rest

/-- The characters of well-formed bytes, or the bytes from the first ill-formed sequence on. -/
def decodeChars (bytes : Bytes) : Except Bytes (List Char) :=
  decodeUpTo bytes.length [] bytes

/-- The text of well-formed bytes. -/
def decode? (bytes : Bytes) : Option String :=
  match decodeChars bytes with
  | .ok chars => some (String.ofList chars)
  | .error _ => none

/-- The length of the ill-formed sequence at the front: the bytes that could have begun a
well-formed one, and at least one. A lenient reading shows it as one replacement character. -/
def illFormedLength : Bytes → Nat
  | first :: second :: rest =>
    let startsPair :=
      if first < 0xE0 then false
      else if first = 0xE0 then 0xA0 ≤ second ∧ second < 0xC0
      else if first = 0xED then 0x80 ≤ second ∧ second < 0xA0
      else if first < 0xF0 then 0x80 ≤ second ∧ second < 0xC0
      else if first = 0xF0 then 0x90 ≤ second ∧ second < 0xC0
      else if first < 0xF4 then 0x80 ≤ second ∧ second < 0xC0
      else if first = 0xF4 then 0x80 ≤ second ∧ second < 0x90
      else false
    if startsPair then
      match rest with
      | third :: _ => if 0xF0 ≤ first ∧ (continuation? third).isSome then 3 else 2
      | [] => 2
    else 1
  | _ => 1

/-- At most `budget` characters, each ill-formed sequence read as a replacement character. -/
def decodeLossyUpTo : Nat → Bytes → List Char
  | _, [] => []
  | 0, _ => []
  | budget + 1, bytes =>
    match decodeChar? bytes with
    | none => Char.ofNat 0xFFFD :: decodeLossyUpTo budget (bytes.drop (illFormedLength bytes))
    | some (char, rest) => char :: decodeLossyUpTo budget rest

/-- A text for any bytes: ill-formed sequences are shown as replacement characters. -/
def decodeLossy (bytes : Bytes) : String :=
  String.ofList (decodeLossyUpTo bytes.length bytes)

end Text

end RippleServer
