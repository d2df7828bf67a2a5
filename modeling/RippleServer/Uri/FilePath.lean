/-
This file finds the path a file URI stands for. The scheme may be written in
any case, slashes may be missing behind it, and an authority must be empty or
the local host. Dot segments are resolved also when they are percent-encoded,
except that nothing goes up from a drive letter. What is left is percent-decoded
segment by segment and has to be text.
-/

import RippleServer.Host.Name
import RippleServer.Path
import RippleServer.Uri.Basic

namespace RippleServer.Uri

/-! ### Percent-encoding -/

/-- The value of a hexadecimal digit. -/
def hexValue (byte : UInt8) : Nat :=
  if isDigit byte then byte.toNat - 0x30
  else if byte ≤ 0x46 then byte.toNat - 0x37
  else byte.toNat - 0x57

/-- Replaces each percent-encoded byte by the byte. -/
def percentDecode : Bytes → Bytes
  | 0x25 :: high :: low :: rest =>
    if isHexDigit high && isHexDigit low then
      (hexValue high * 16 + hexValue low).toUInt8 :: percentDecode rest
    else 0x25 :: percentDecode (high :: low :: rest)
  | byte :: rest => byte :: percentDecode rest
  | [] => []

/-! ### Segments -/

/-- The parts between the slashes. -/
def segments : Bytes → List Bytes
  | [] => [[]]
  | byte :: rest =>
    if byte = 0x2F then [] :: segments rest
    else
      match segments rest with
      | [] => [[byte]]
      | segment :: others => (byte :: segment) :: others

/-- A segment with its percent-encoded dots written out. -/
def plainDots : Bytes → Bytes
  | 0x25 :: 0x32 :: 0x65 :: rest => 0x2E :: plainDots rest
  | 0x25 :: 0x32 :: 0x45 :: rest => 0x2E :: plainDots rest
  | byte :: rest => byte :: plainDots rest
  | [] => []

def isSingleDot (segment : Bytes) : Bool :=
  plainDots segment == [0x2E]

def isDoubleDot (segment : Bytes) : Bool :=
  plainDots segment == [0x2E, 0x2E]

/-- A letter and a colon name a drive. -/
def isDrive : Bytes → Bool
  | [letter, mark] => isLetter letter && (mark = 0x3A || mark = 0x7C)
  | _ => false

/-- Leaves the last of the segments done, the last one first, unless it names a drive. -/
def leave : List Bytes → List Bytes
  | [] => []
  | segment :: before => if isDrive segment then segment :: before else before

/-- Resolves the dot segments, given the segments done so far, the last one first. A dot segment
at the end leaves an empty one in its place. -/
def resolveDots : List Bytes → List Bytes → List Bytes
  | done, [] => done.reverse
  | done, [segment] =>
    if isDoubleDot segment then ([] :: leave done).reverse
    else if isSingleDot segment then ([] :: done).reverse
    else (segment :: done).reverse
  | done, segment :: rest =>
    if isDoubleDot segment then resolveDots (leave done) rest
    else if isSingleDot segment then resolveDots done rest
    else resolveDots (segment :: done) rest

/-! ### Hosts -/

/-- The labels between the dots of a name; a final dot does not count. -/
def labels (name : List Char) : List (List Char) :=
  match (Text.splitChars '.' name).reverse with
  | [] :: label :: rest => (label :: rest).reverse
  | others => others.reverse

/-- The value of a digit below the base. -/
def digitValue? (base : Nat) (char : Char) : Option Nat :=
  if char.toNat < 0x80 then
    let byte := char.toNat.toUInt8
    if isHexDigit byte && hexValue byte < base then some (hexValue byte) else none
  else none

/-- The value of a number in base 8, 10 or 16, as its beginning tells. -/
def labelValue? (label : List Char) : Option Nat :=
  let (base, digits) := match label with
    | '0' :: 'x' :: digits => (16, digits)
    | '0' :: digit :: digits => (8, digit :: digits)
    | digits => (10, digits)
  digits.foldlM (fun total char => (digitValue? base char).map fun value => total * base + value) 0

/-- Whether the last label of a name makes it an address of numbers. -/
def endsInNumber (name : List Char) : Bool :=
  (labels name).getLast?.any fun label =>
    !label.isEmpty && (label.all Char.isDigit ||
      label.take 2 == ['0', 'x'] && (labelValue? label).isSome)

/-- Whether the labels are an address: up to four numbers, of which the last one stands for all
bytes that are left. -/
def isNumericAddress (name : List Char) : Bool :=
  let found := labels name
  match found.mapM fun label => if label.isEmpty then none else labelValue? label with
  | none => false
  | some values =>
    values.length ≤ 4 && values.dropLast.all (· ≤ 255) &&
      values.getLast?.any fun value => value < Nat.pow 256 (5 - values.length)

/-- What an authority says about the host. -/
inductive HostKind
  | localhost
  | other
  | invalid
deriving DecidableEq, Repr

/-- The kind of host with a given name, which must not be empty. -/
def kindOfName (name : List Char) : HostKind :=
  match Host.canonical? name with
  | none => .invalid
  | some name =>
    if name.isEmpty then .invalid
    else if name = "localhost".toList then .localhost
    else if endsInNumber name && !isNumericAddress name then .invalid
    else .other

/-- The kind of host an authority names. An address in brackets has nothing behind it. -/
def hostKind (authority : Bytes) : HostKind :=
  if authority.isEmpty then .localhost
  else if authority.head? = some 0x5B then
    if authority.getLast? = some 0x5D then .other else .invalid
  else
    match Text.decode? (percentDecode authority) with
    | none => .invalid
    | some name => kindOfName name.toList

/-! ### Paths -/

/-- The segments of the path of a file URI, behind its scheme and without query and fragment; none
if the URI names another host. A drive letter at the start of the path takes the place of the
host. -/
def fileSegments (input : Bytes) : Option (List Bytes) :=
  match input with
  | 0x2F :: 0x2F :: rest =>
    let authority := rest.takeWhile (· ≠ 0x2F)
    let path := rest.dropWhile (· ≠ 0x2F)
    if isDrive authority then some (resolveDots [] (segments rest))
    else
      let found := resolveDots [] (segments (path.drop 1))
      match hostKind authority with
      | .localhost => some found
      | .other => if found.head?.any isDrive then some found else none
      | .invalid => none
  | 0x2F :: rest => some (resolveDots [] (segments rest))
  | _ => some (resolveDots [] (segments input))

/-- The bytes of a path with these segments. Leading empty segments do not count, and a path that
ends in a drive gets a slash. -/
def pathBytes (found : List Bytes) : Bytes :=
  let kept := found.dropWhile (·.isEmpty)
  let bytes := (if kept.isEmpty then [[]] else kept).flatMap fun segment =>
    0x2F :: percentDecode segment
  match bytes.reverse with
  | mark :: letter :: _ :: _ =>
    if isLetter letter && (mark = 0x3A || mark = 0x7C) then bytes ++ [0x2F] else bytes
  | _ => bytes

/-- The path a URI stands for, if it is the URI of a local file. -/
def toPath? (uri : Uri) : Option Path :=
  let input := (Text.encode uri.text).takeWhile fun byte => byte ≠ 0x3F && byte ≠ 0x23
  match input.span (· ≠ 0x3A) with
  | (scheme, _ :: rest) =>
    if scheme.map (fun byte => if isLetter byte then byte ||| 0x20 else byte) =
        Text.encode "file" then do
      let found ← fileSegments rest
      let text ← Text.decode? (pathBytes found)
      some ⟨text⟩
    else none
  | _ => none

end RippleServer.Uri
