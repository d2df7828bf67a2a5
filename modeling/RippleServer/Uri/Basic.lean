/-
This file checks URI references, absolute and relative ones alike. A reference
is read from left to right: a scheme if one is there, an authority behind two
slashes, a path, a query and a fragment. The first byte that fits nowhere is the
fault, with four exceptions: a scheme that does not start with a letter is
faulted at its beginning, the port of an authority is looked at from its end, an
address in brackets is faulted as a whole, and a path that should have begun with
a slash is faulted only when all of it has been passed over.
-/

import RippleServer.Text.Blank
import RippleServer.Text.Decimal
import RippleServer.Text.Utf8

namespace RippleServer

/-- A text that has the form of a URI reference. -/
structure Uri where
  text : String
deriving DecidableEq, Repr

namespace Uri

/-! ### Faults -/

/-- Why a text is not a URI reference, with the bytes from the fault on. -/
inductive Fault
  | unexpected (rest : Bytes)
  | percent (rest : Bytes)
  | address (rest : Bytes)
deriving DecidableEq, Repr

/-- The words for a fault in the text given. -/
def Fault.message (fault : Fault) (input : Bytes) : String :=
  let index := fun (rest : Bytes) => Text.natural (input.length - rest.length)
  match fault with
  | .unexpected rest => "unexpected character at index " ++ index rest
  | .percent rest => "invalid percent-encoded octet at index " ++ index rest
  | .address rest => "invalid IP literal at index " ++ index rest

/-! ### Character classes -/

def isLetter (byte : UInt8) : Bool :=
  (0x41 ≤ byte && byte ≤ 0x5A) || (0x61 ≤ byte && byte ≤ 0x7A)

def isDigit (byte : UInt8) : Bool :=
  0x30 ≤ byte && byte ≤ 0x39

def isHexDigit (byte : UInt8) : Bool :=
  isDigit byte || (0x41 ≤ byte && byte ≤ 0x46) || (0x61 ≤ byte && byte ≤ 0x66)

/-- Whether the byte is one of the ASCII characters given. -/
def isOneOf (chars : String) (byte : UInt8) : Bool :=
  (Text.encode chars).contains byte

def isScheme (byte : UInt8) : Bool :=
  isLetter byte || isDigit byte || isOneOf "+-." byte

/-- The characters of a host name. -/
def isName (byte : UInt8) : Bool :=
  isLetter byte || isDigit byte || isOneOf "-._~!$&'()*+,;=" byte

def isUserInfo (byte : UInt8) : Bool :=
  isName byte || byte = 0x3A

/-- The characters of the first segment of a path without a scheme before it. -/
def isPlainSegment (byte : UInt8) : Bool :=
  isName byte || byte = 0x40

def isPath (byte : UInt8) : Bool :=
  isName byte || isOneOf ":@/" byte

def isQuery (byte : UInt8) : Bool :=
  isPath byte || byte = 0x3F

/-! ### Reading -/

/-- Passes over allowed bytes and percent-encoded ones. -/
def skipEncoded (allowed : UInt8 → Bool) : Bytes → Except Fault Bytes
  | [] => .ok []
  | byte :: rest =>
    if byte = 0x25 then
      match rest with
      | high :: low :: rest =>
        if isHexDigit high && isHexDigit low then skipEncoded allowed rest
        else .error (.percent (byte :: high :: low :: rest))
      | _ => .error (.percent (byte :: rest))
    else if allowed byte then skipEncoded allowed rest
    else .ok (byte :: rest)

/-- A decimal number below 256 without leading zeros. -/
def isOctet (text : List Char) : Bool :=
  !text.isEmpty && text.all Char.isDigit && (text.length = 1 || text.head? ≠ some '0') &&
    (Text.natural? 255 (String.ofList text)).isSome

/-- An address of four decimal numbers. -/
def isDottedQuad (text : List Char) : Bool :=
  let parts := Text.splitChars '.' text
  parts.length = 4 && parts.all isOctet

/-- How many groups of 16 bits a part of an address stands for: one for up to four hexadecimal
digits, two for a dotted quad at the end, none for anything else. -/
def groupSize (last : Bool) (text : List Char) : Option Nat :=
  if !text.isEmpty && text.length ≤ 4 && text.all (fun char => isHexDigit char.toNat.toUInt8) then
    some 1
  else if last && isDottedQuad text then some 2
  else none

/-- The number of groups in parts that were separated by single colons. -/
def groupCount (atEnd : Bool) : List (List Char) → Option Nat
  | [] => some 0
  | part :: rest => do
    let size ← groupSize (atEnd && rest.isEmpty) part
    let more ← groupCount atEnd rest
    some (size + more)

/-- The text before the first pair of colons and the text behind it. -/
def cutAtGap : List Char → Option (List Char × List Char)
  | ':' :: ':' :: rest => some ([], rest)
  | char :: rest => (cutAtGap rest).map fun (front, back) => (char :: front, back)
  | [] => none

/-- The parts between single colons; nothing has no parts. -/
def colonParts (text : List Char) : List (List Char) :=
  if text.isEmpty then [] else Text.splitChars ':' text

/-- Whether a text is an address of eight groups, of which a pair of colons may leave out some. -/
def isAddress (text : List Char) : Bool :=
  match cutAtGap text with
  | none => groupCount true (colonParts text) == some 8
  | some (front, back) =>
    match groupCount false (colonParts front), groupCount true (colonParts back) with
    | some before, some behind => before + behind ≤ 7
    | _, _ => false

/-- Passes over an address in brackets, if one comes next. -/
def skipAddress (input : Bytes) : Except Fault Bytes :=
  match input with
  | 0x5B :: rest =>
    match rest.span (· ≠ 0x5D) with
    | (address, _ :: rest) =>
      if isAddress (address.map fun byte => Char.ofNat byte.toNat) then .ok rest
      else .error (.address input)
    | (_, []) => .error (.address input)
  | _ => .ok input

/-- Passes over a colon and a port, if they come next. -/
def skipPort : Bytes → Bytes
  | 0x3A :: rest => rest.dropWhile isDigit
  | input => input

/-- The bytes from the last byte that is no digit on, if there is one before the end given. -/
def lastNonDigit : Bytes → Bytes → Option Bytes
  | [], _ => none
  | byte :: rest, behind =>
    match lastNonDigit rest behind with
    | some found => some found
    | none => if isDigit byte then none else some (byte :: (rest ++ behind))

/-- Checks an authority that has no user in front of its host: it may hold one colon, behind
which only digits stand. -/
def checkPort (authority behind : Bytes) : Except Fault Unit :=
  match authority.dropWhile (· ≠ 0x3A) with
  | [] => .ok ()
  | colon :: port =>
    if port.contains 0x3A then .error (.unexpected (colon :: (port ++ behind)))
    else
      match lastNonDigit port behind with
      | some found => .error (.unexpected found)
      | none => .ok ()

/-- Passes over an authority behind its two slashes. -/
def skipAuthority (input : Bytes) : Except Fault Bytes := do
  let rest ← skipEncoded isUserInfo input
  match rest with
  | 0x40 :: host =>
    let behind ← skipAddress host
    let behind ← if behind.length = host.length then skipEncoded isName host else .ok behind
    .ok (skipPort behind)
  | _ =>
    if rest.length = input.length then do
      let behind ← skipAddress input
      .ok (if behind.length = input.length then behind else skipPort behind)
    else do
      checkPort (input.take (input.length - rest.length)) rest
      .ok rest

/-- Checks a query, a fragment and the end. -/
def checkTail (input : Bytes) : Except Fault Unit := do
  let rest ← match input with
    | 0x3F :: query => skipEncoded isQuery query
    | _ => Except.ok input
  let rest ← match rest with
    | 0x23 :: fragment => skipEncoded isQuery fragment
    | _ => Except.ok rest
  if rest.isEmpty then .ok () else .error (.unexpected rest)

/-- Checks the authority and all that follows it. A path behind an authority begins with a slash,
which is looked at when the whole path has been passed over. -/
def checkAuthority (input : Bytes) : Except Fault Unit := do
  let path ← skipAuthority input
  let rest ← skipEncoded isPath path
  if rest.length < path.length ∧ path.head? ≠ some 0x2F then .error (.unexpected path)
  else checkTail rest

/-- Checks what follows a scheme. -/
def checkHierarchy (input : Bytes) : Except Fault Unit :=
  match input with
  | 0x2F :: 0x2F :: rest => checkAuthority rest
  | _ => do
    let rest ← skipEncoded isPath input
    checkTail rest

/-- Checks a reference without a scheme. Its first segment must not hold a colon. -/
def checkRelative (input : Bytes) : Except Fault Unit :=
  match input with
  | 0x2F :: 0x2F :: rest => checkAuthority rest
  | _ => do
    let rest ← skipEncoded isPlainSegment input
    if rest.head? = some 0x3A then .error (.unexpected rest)
    else do
      let rest ← skipEncoded isPath rest
      checkTail rest

/-- Checks a whole reference. -/
def check (input : Bytes) : Except Fault Unit :=
  match input.dropWhile isScheme with
  | 0x3A :: rest =>
    if input.head?.any isLetter then checkHierarchy rest else .error (.unexpected input)
  | _ => checkRelative input

/-- The reference a text spells, or the words for what is wrong with it. -/
def ofText (text : String) : Except String Uri :=
  match check (Text.encode text) with
  | .ok () => .ok ⟨text⟩
  | .error fault => .error (fault.message (Text.encode text))

end Uri

end RippleServer
