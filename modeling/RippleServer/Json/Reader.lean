/-
This file reads JSON from bytes. Every reading goes from left to right, stops at
the first fault, and returns what it read together with the bytes behind it.
Containers nest only to a given depth, which is what the recursion goes down on;
the loops over the items of a list and the members of an object count down the
bytes that are left, of which every round takes at least one.
-/

import RippleServer.Json.Problem

namespace RippleServer.Json

/-- The outcome of reading from bytes: the first fault, or a result that in most cases is a pair
of what was read and the bytes behind it. -/
abbrev Reading := Except Fault

/-! ### Bytes -/

/-- The four blanks that may stand between the parts of a text. -/
def isSpace (byte : UInt8) : Bool :=
  byte = 0x20 || byte = 0x0A || byte = 0x09 || byte = 0x0D

/-- The bytes from the first one that is not blank on. -/
def skipSpace (input : Bytes) : Bytes :=
  input.dropWhile isSpace

/-- The byte of an ASCII character. -/
def ascii (char : Char) : UInt8 :=
  char.toNat.toUInt8

def isDigit (byte : UInt8) : Bool :=
  0x30 ≤ byte && byte ≤ 0x39

def digitValue (byte : UInt8) : Nat :=
  byte.toNat - 0x30

/-- Whether the bytes go on with an exponent. -/
def startsExponent (input : Bytes) : Bool :=
  input.head? = some (ascii 'e') || input.head? = some (ascii 'E')

/-- The rest of one of the three words, of which the first letter has been seen. -/
def literal : Bytes → Bytes → Reading Bytes
  | [], input => .ok input
  | _ :: _, [] => .error ⟨.endInValue, [], true⟩
  | wanted :: more, byte :: rest =>
    if byte = wanted then literal more rest else .error ⟨.expectedIdent, rest, true⟩

/-! ### Strings -/

/-- The value of a hexadecimal digit of either case. -/
def hexValue? (byte : UInt8) : Option Nat :=
  if isDigit byte then some (digitValue byte)
  else if 0x41 ≤ byte ∧ byte ≤ 0x46 then some (byte.toNat - 0x37)
  else if 0x61 ≤ byte ∧ byte ≤ 0x66 then some (byte.toNat - 0x57)
  else none

/-- Four hexadecimal digits. -/
def hexEscape : Bytes → Reading (Nat × Bytes)
  | first :: second :: third :: fourth :: rest =>
    match hexValue? first, hexValue? second, hexValue? third, hexValue? fourth with
    | some a, some b, some c, some d => .ok (((a * 16 + b) * 16 + c) * 16 + d, rest)
    | _, _, _, _ => .error ⟨.invalidEscape, rest, true⟩
  | _ => .error ⟨.endInString, [], true⟩

/-- The second half of a surrogate pair, of which the first half has been read. -/
def lowSurrogate (high : Nat) : Bytes → Reading (Char × Bytes)
  | [] => .error ⟨.endInString, [], true⟩
  | backslash :: rest =>
    if backslash ≠ ascii '\\' then .error ⟨.endInHexEscape, rest, true⟩
    else
      match rest with
      | [] => .error ⟨.endInString, [], true⟩
      | letter :: rest =>
        if letter ≠ ascii 'u' then .error ⟨.endInHexEscape, rest, true⟩
        else do
          let (low, rest) ← hexEscape rest
          if 0xDC00 ≤ low ∧ low ≤ 0xDFFF then
            .ok (Char.ofNat ((high - 0xD800) * 0x400 + (low - 0xDC00) + 0x10000), rest)
          else .error ⟨.loneSurrogate, rest, true⟩

/-- The character spelled by one hexadecimal escape or by a pair of them. -/
def unicodeEscape (input : Bytes) : Reading (Char × Bytes) := do
  let (unit, rest) ← hexEscape input
  if 0xDC00 ≤ unit ∧ unit ≤ 0xDFFF then .error ⟨.loneSurrogate, rest, true⟩
  else if 0xD800 ≤ unit ∧ unit ≤ 0xDBFF then lowSurrogate unit rest
  else .ok (Char.ofNat unit, rest)

/-- The character of an escape, behind the backslash. -/
def escape : Bytes → Reading (Char × Bytes)
  | [] => .error ⟨.endInString, [], true⟩
  | byte :: rest =>
    if byte = ascii '"' then .ok ('"', rest)
    else if byte = ascii '\\' then .ok ('\\', rest)
    else if byte = ascii '/' then .ok ('/', rest)
    else if byte = ascii 'b' then .ok ('\x08', rest)
    else if byte = ascii 'f' then .ok ('\x0c', rest)
    else if byte = ascii 'n' then .ok ('\n', rest)
    else if byte = ascii 'r' then .ok ('\r', rest)
    else if byte = ascii 't' then .ok ('\t', rest)
    else if byte = ascii 'u' then unicodeEscape rest
    else .error ⟨.invalidEscape, rest, true⟩

/-- The bytes a string stands for, up to its closing quote, behind the bytes read so far, the last
of them first. -/
def stringBytes : Nat → Bytes → Bytes → Reading (Bytes × Bytes)
  | _, _, [] => .error ⟨.endInString, [], true⟩
  | 0, _, input => .error ⟨.endInString, input, true⟩
  | budget + 1, done, byte :: rest =>
    if byte = ascii '"' then .ok (done.reverse, rest)
    else if byte = ascii '\\' then do
      let (char, rest) ← escape rest
      stringBytes budget ((String.utf8EncodeChar char).reverse ++ done) rest
    else if byte < 0x20 then .error ⟨.controlCharacter, rest, true⟩
    else stringBytes budget (byte :: done) rest

/-- The string whose opening quote has been read. Ill-formed UTF-8 is only a fault of a string that
is otherwise complete; its place is found by counting back from the closing quote the bytes that
the string stands for from the ill-formed ones on. -/
def string (input : Bytes) : Reading (String × Bytes) := do
  let (bytes, rest) ← stringBytes input.length [] input
  match Text.decodeChars bytes with
  | .ok chars => .ok (String.ofList chars, rest)
  | .error left =>
    .error ⟨.invalidCodePoint, input.drop (input.length - (rest.length + left.length)), true⟩

/-! ### Numbers -/

/-- The number `significand * 10 ^ exponent`, if a fraction can hold it. -/
def scaled (negative : Bool) (significand : Nat) (exponent : Int) (rest : Bytes) :
    Reading (Number × Bytes) :=
  match magnitude? significand exponent with
  | some magnitude => .ok (.ofMagnitude negative magnitude, rest)
  | none => .error ⟨.numberOutOfRange, rest, true⟩

/-- The digits of an exponent behind the first one. An exponent that does not fit 32 bits makes
the number zero or puts it out of range. -/
def exponentDigits (negative down : Bool) (significand : Nat) (start : Int) :
    Nat → Bytes → Reading (Number × Bytes)
  | exponent, [] =>
    scaled negative significand (if down then start - exponent else start + exponent) []
  | exponent, byte :: rest =>
    if isDigit byte then
      if exponent * 10 + digitValue byte ≤ 2147483647 then
        exponentDigits negative down significand start (exponent * 10 + digitValue byte) rest
      else if significand ≠ 0 ∧ !down then .error ⟨.numberOutOfRange, rest, true⟩
      else .ok (.ofMagnitude negative 0, rest.dropWhile isDigit)
    else
      scaled negative significand (if down then start - exponent else start + exponent)
        (byte :: rest)

/-- The exponent of a number, behind its letter. -/
def exponentPart (negative : Bool) (significand : Nat) (start : Int) (input : Bytes) :
    Reading (Number × Bytes) :=
  let down := input.head? = some (ascii '-')
  let digits := if down || input.head? = some (ascii '+') then input.drop 1 else input
  match digits with
  | [] => .error ⟨.endInValue, [], true⟩
  | byte :: rest =>
    if isDigit byte then exponentDigits negative down significand start (digitValue byte) rest
    else .error ⟨.invalidNumber, rest, true⟩

/-- A number whose digits have all been read, unless an exponent follows. -/
def finishFraction (negative : Bool) (significand : Nat) (exponent : Int) (input : Bytes) :
    Reading (Number × Bytes) :=
  if startsExponent input then exponentPart negative significand exponent (input.drop 1)
  else scaled negative significand exponent input

/-- The digits behind the point. Once a digit does not fit the significand, it and all digits
after it are passed over. -/
def fractionDigits (negative : Bool) : Nat → Int → Bool → Bytes → Reading (Number × Bytes)
  | significand, exponent, anyDigit, [] =>
    if anyDigit then scaled negative significand exponent []
    else .error ⟨.endInValue, [], true⟩
  | significand, exponent, anyDigit, byte :: rest =>
    if isDigit byte then
      if significand * 10 + digitValue byte ≤ significandBound then
        fractionDigits negative (significand * 10 + digitValue byte) (exponent - 1) true rest
      else finishFraction negative significand exponent (rest.dropWhile isDigit)
    else if anyDigit then finishFraction negative significand exponent (byte :: rest)
    else .error ⟨.invalidNumber, rest, true⟩

/-- A number whose whole part, times a power of ten, has been read. -/
def finishLong (negative : Bool) (significand exponent : Nat) (input : Bytes) :
    Reading (Number × Bytes) :=
  if input.head? = some (ascii '.') then
    fractionDigits negative significand exponent false (input.drop 1)
  else finishFraction negative significand exponent input

/-- A number whose whole part has been read. -/
def finishWhole (negative : Bool) (significand : Nat) (input : Bytes) : Reading (Number × Bytes) :=
  if input.head? = some (ascii '.') || startsExponent input then
    finishLong negative significand 0 input
  else .ok (.ofWhole negative significand, input)

/-- The digits of the whole part behind the first one. Digits that do not fit the significand
only raise the power of ten. -/
def wholeDigits (negative : Bool) : Nat → Bytes → Reading (Number × Bytes)
  | significand, [] => finishWhole negative significand []
  | significand, byte :: rest =>
    if isDigit byte then
      if significand * 10 + digitValue byte ≤ significandBound then
        wholeDigits negative (significand * 10 + digitValue byte) rest
      else
        let left := rest.dropWhile isDigit
        finishLong negative significand (rest.length - left.length + 1) left
    else finishWhole negative significand (byte :: rest)

/-- A number behind its sign. A leading zero stands alone. -/
def number (negative : Bool) : Bytes → Reading (Number × Bytes)
  | [] => .error ⟨.endInValue, [], true⟩
  | byte :: rest =>
    if byte = ascii '0' then
      if rest.head?.any isDigit then .error (.peek .invalidNumber rest)
      else finishWhole negative 0 rest
    else if isDigit byte then wholeDigits negative (digitValue byte) rest
    else .error ⟨.invalidNumber, rest, true⟩

/-! ### Lists and objects -/

/-- Whether another item follows, and the bytes it starts at; otherwise the closing bracket comes
next. -/
def nextItem (first : Bool) (input : Bytes) : Reading (Bool × Bytes) :=
  match skipSpace input with
  | [] => .error ⟨.endInList, [], true⟩
  | byte :: rest =>
    if byte = ascii ']' then .ok (false, byte :: rest)
    else if first then .ok (true, byte :: rest)
    else if byte = ascii ',' then
      let item := skipSpace rest
      if item.head? = some (ascii ']') then .error (.peek .trailingComma item)
      else .ok (true, item)
    else .error (.peek .expectedListEnd (byte :: rest))

/-- The key of the next member, or none if the closing brace comes next. -/
def nextKey (first : Bool) (input : Bytes) : Reading (Option String × Bytes) :=
  match skipSpace input with
  | [] => .error ⟨.endInObject, [], true⟩
  | byte :: rest =>
    if byte = ascii '\x7d' then .ok (none, byte :: rest)
    else if first then
      if byte = ascii '"' then (string rest).map fun (key, rest) => (some key, rest)
      else .error (.peek .keyNotString (byte :: rest))
    else if byte = ascii ',' then
      match skipSpace rest with
      | [] => .error ⟨.endInValue, [], true⟩
      | byte :: rest =>
        if byte = ascii '"' then (string rest).map fun (key, rest) => (some key, rest)
        else if byte = ascii '\x7d' then .error (.peek .trailingComma (byte :: rest))
        else .error (.peek .keyNotString (byte :: rest))
    else .error (.peek .expectedObjectEnd (byte :: rest))

/-- The colon between a key and its value. -/
def colon (input : Bytes) : Reading Bytes :=
  match skipSpace input with
  | [] => .error ⟨.endInObject, [], true⟩
  | byte :: rest =>
    if byte = ascii ':' then .ok rest else .error (.peek .expectedColon (byte :: rest))

/-- Reads the items of a list one after another into a state, up to the closing bracket. -/
def foldItems {State : Type} (item : State → Bytes → Reading (State × Bytes)) :
    Nat → Bool → State → Bytes → Reading (State × Bytes)
  | budget, first, state, input => do
    let (more, rest) ← nextItem first input
    if more then
      match budget with
      | 0 => .error ⟨.endInList, rest, true⟩
      | budget + 1 =>
        let (state, rest) ← item state rest
        foldItems item budget false state rest
    else .ok (state, rest)

/-- Reads the members of an object one after another into a state, up to the closing brace. The
step is given the key and starts before the colon. -/
def foldMembers {State : Type} (member : State → String → Bytes → Reading (State × Bytes)) :
    Nat → Bool → State → Bytes → Reading (State × Bytes)
  | budget, first, state, input => do
    let (key, rest) ← nextKey first input
    match key with
    | none => .ok (state, rest)
    | some key =>
      match budget with
      | 0 => .error ⟨.endInObject, rest, true⟩
      | budget + 1 =>
        let (state, rest) ← member state key rest
        foldMembers member budget false state rest

/-! ### Values -/

/-- Reads a value in which containers nest at most to the depth given. -/
def value : Nat → Bytes → Reading (Json × Bytes)
  | depth, input =>
    match skipSpace input with
    | [] => .error ⟨.endInValue, [], true⟩
    | byte :: rest =>
      if byte = ascii 'n' then
        (literal [0x75, 0x6C, 0x6C] rest).map fun rest => (.null, rest)
      else if byte = ascii 't' then
        (literal [0x72, 0x75, 0x65] rest).map fun rest => (.bool true, rest)
      else if byte = ascii 'f' then
        (literal [0x61, 0x6C, 0x73, 0x65] rest).map fun rest => (.bool false, rest)
      else if byte = ascii '-' then
        (number true rest).map fun (number, rest) => (.num number, rest)
      else if isDigit byte then
        (number false (byte :: rest)).map fun (number, rest) => (.num number, rest)
      else if byte = ascii '"' then
        (string rest).map fun (text, rest) => (.str text, rest)
      else if byte = ascii '[' then
        match depth with
        | 0 => .error ⟨.recursionLimit, rest, true⟩
        | depth + 1 => do
          let item := fun (items : List Json) (rest : Bytes) =>
            (value depth rest).map fun (item, rest) => (item :: items, rest)
          let (items, rest) ← foldItems item rest.length true [] rest
          .ok (.arr items.reverse, rest.drop 1)
      else if byte = ascii '\x7b' then
        match depth with
        | 0 => .error ⟨.recursionLimit, rest, true⟩
        | depth + 1 => do
          let member := fun (members : List (String × Json)) (key : String) (rest : Bytes) => do
            let rest ← colon rest
            let (item, rest) ← value depth rest
            .ok (insert key item members, rest)
          let (members, rest) ← foldMembers member rest.length true [] rest
          .ok (.obj members, rest.drop 1)
      else .error (.peek .expectedValue (byte :: rest))

/-- Only blanks may follow the value of a text. -/
def endOfText {α : Type} (reading : Reading (α × Bytes)) : Reading α := do
  let (result, rest) ← reading
  match skipSpace rest with
  | [] => .ok result
  | left => .error (.peek .trailingCharacters left)

/-- How deep the containers of a text may nest. -/
def depthLimit : Nat := 127

/-- The value of a text. -/
def read (input : Bytes) : Reading Json :=
  endOfText (value depthLimit input)

end RippleServer.Json
