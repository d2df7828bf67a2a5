/-
This file lists everything that can be wrong with a JSON text or with a value
that should have had another shape, and the words for it. A problem found in a
text comes with the bytes that were not consumed when it was found, which is
where its line and column are counted from.
-/

import RippleServer.Json.Number
import RippleServer.Text.Quoted
import RippleServer.Text.Blank
import RippleServer.Text.Utf8

namespace RippleServer.Json

/-! ### What was found in place of something else -/

/-- A value as far as a message about its type mentions it. -/
inductive Found
  | null
  | bool (value : Bool)
  | number (value : Number)
  | string (text : String)
  | sequence
  | map
deriving DecidableEq, Repr

/-- The words for a value of the wrong type. -/
def Found.text : Found → String
  | .null => "null"
  | .bool value => "boolean `" ++ (if value then "true" else "false") ++ "`"
  | .number (.int value) => "integer `" ++ Text.integer value ++ "`"
  | .number (.float bits) => "floating point `" ++ String.ofList (floatChars bits) ++ "`"
  | .string text => "string " ++ Text.quoted text
  | .sequence => "sequence"
  | .map => "map"

/-- A value as a message mentions it. -/
def found : Json → Found
  | .null => .null
  | .bool value => .bool value
  | .num number => .number number
  | .str text => .string text
  | .arr _ => .sequence
  | .obj _ => .map

/-! ### Problems -/

/-- What is wrong with a JSON text or value. -/
inductive Problem
  | endInValue
  | endInList
  | endInObject
  | endInString
  | expectedIdent
  | expectedValue
  | expectedListEnd
  | expectedObjectEnd
  | expectedColon
  | keyNotString
  | trailingComma
  | trailingCharacters
  | invalidNumber
  | numberOutOfRange
  | invalidEscape
  | controlCharacter
  | invalidCodePoint
  | loneSurrogate
  | endInHexEscape
  | recursionLimit
  | wrongType (found : Found) (expected : String)
  | outOfRange (value : Int) (expected : String)
  | missingField (name : String)
  | duplicateField (name : String)
  | wrongLength (length : Nat) (expected : String)
  | noVariant (choice : String)
  | unknownVariant (text : String) (known : List String)
  | badText (message : String)
deriving DecidableEq, Repr

/-- The words for a choice between names. -/
def oneOf (names : List String) : String :=
  match names.map fun name => "`" ++ name ++ "`" with
  | [only] => only
  | [first, second] => first ++ " or " ++ second
  | several => "one of " ++ Text.join ", " several

/-- The words for a problem, without its place. -/
def Problem.message : Problem → String
  | .endInValue => "EOF while parsing a value"
  | .endInList => "EOF while parsing a list"
  | .endInObject => "EOF while parsing an object"
  | .endInString => "EOF while parsing a string"
  | .expectedIdent => "expected ident"
  | .expectedValue => "expected value"
  | .expectedListEnd => "expected `,` or `]`"
  | .expectedObjectEnd => "expected `,` or `\x7d`"
  | .expectedColon => "expected `:`"
  | .keyNotString => "key must be a string"
  | .trailingComma => "trailing comma"
  | .trailingCharacters => "trailing characters"
  | .invalidNumber => "invalid number"
  | .numberOutOfRange => "number out of range"
  | .invalidEscape => "invalid escape"
  | .controlCharacter => "control character (\\u0000-\\u001F) found while parsing a string"
  | .invalidCodePoint => "invalid unicode code point"
  | .loneSurrogate => "lone leading surrogate in hex escape"
  | .endInHexEscape => "unexpected end of hex escape"
  | .recursionLimit => "recursion limit exceeded"
  | .wrongType found expected => "invalid type: " ++ found.text ++ ", expected " ++ expected
  | .outOfRange value expected =>
    "invalid value: integer `" ++ Text.integer value ++ "`, expected " ++ expected
  | .missingField name => "missing field `" ++ name ++ "`"
  | .duplicateField name => "duplicate field `" ++ name ++ "`"
  | .wrongLength length expected =>
    "invalid length " ++ Text.natural length ++ ", expected " ++ expected
  | .noVariant choice => "data did not match any variant of untagged enum " ++ choice
  | .unknownVariant text known => "unknown variant `" ++ text ++ "`, expected " ++ oneOf known
  | .badText message => message

/-- What is expected of an array that stands for a record of a given size. -/
def recordOfSize (name : String) (size : Nat) : String :=
  "struct " ++ name ++ " with " ++ Text.natural size ++
    (if size = 1 then " element" else " elements")

/-- Too few items in an array that stands for a record of a given size. -/
def Problem.tooFew (length : Nat) (name : String) (size : Nat) : Problem :=
  .wrongLength length (recordOfSize name size)

/-- Too many items in an array that stands for a record. -/
def Problem.tooMany (length : Nat) : Problem :=
  .wrongLength length "fewer elements in array"

/-! ### Places -/

/-- A problem found in a text, with the bytes that were left when it was found. A problem between
the parts of a record has no place yet: the record gives it the place where it ends. -/
structure Fault where
  problem : Problem
  rest : Bytes
  placed : Bool := true
deriving DecidableEq, Repr

/-- A problem with the byte that was looked at but not consumed; its place is behind that
byte. -/
def Fault.peek (problem : Problem) (rest : Bytes) : Fault :=
  ⟨problem, rest.drop 1, true⟩

/-- A problem that waits for its record to end. -/
def Fault.loose (problem : Problem) (rest : Bytes) : Fault :=
  ⟨problem, rest, false⟩

/-- The line, counted from one, and the column, counted in bytes, behind the bytes consumed. -/
def place (consumed : Bytes) : Nat × Nat :=
  (1 + consumed.count 10, (consumed.reverse.takeWhile (· ≠ 10)).length)

/-- The words for a fault in the text given. -/
def Fault.message (fault : Fault) (input : Bytes) : String :=
  let (line, column) := place (input.take (input.length - fault.rest.length))
  fault.problem.message ++ " at line " ++ Text.natural line ++ " column " ++ Text.natural column

end RippleServer.Json
