/-
This file reads records from a text: values with named fields that are written
as an object, or as an array of the fields in their order. Known fields must
not come twice and unknown ones are passed over. A fault between the fields,
such as one that is missing, is placed where the reading of the record ends,
behind its closing bracket if that comes next.
-/

import RippleServer.Json.Skip

namespace RippleServer.Json

/-! ### Scalars of a given type -/

/-- The fault of a value that is not of the type expected. Scalars are read to the end; a list or
an object is not entered. -/
def mismatch (expected : String) (input : Bytes) : Fault :=
  let start := skipSpace input
  if start.head? = some (ascii '[') then ⟨.wrongType .sequence expected, start, true⟩
  else if start.head? = some (ascii '\x7b') then ⟨.wrongType .map expected, start, true⟩
  else
    match value 0 start with
    | .ok (other, rest) => ⟨.wrongType other.found expected, rest, true⟩
    | .error fault => fault

/-- Reads a text. -/
def readText (input : Bytes) : Reading (String × Bytes) :=
  match skipSpace input with
  | [] => .error ⟨.endInValue, [], true⟩
  | byte :: rest =>
    if byte = ascii '"' then string rest else .error (mismatch "a string" (byte :: rest))

/-- Reads a whole number of 64 bits with a sign. -/
def readInt64 (input : Bytes) : Reading (Int × Bytes) :=
  match skipSpace input with
  | [] => .error ⟨.endInValue, [], true⟩
  | byte :: rest =>
    if byte = ascii '-' || isDigit byte then do
      let (read, rest) ← value 0 (byte :: rest)
      match read with
      | .num (.int number) =>
        if number ≤ Text.signedBound then .ok (number, rest)
        else .error ⟨.outOfRange number "i64", rest, true⟩
      | other => .error ⟨.wrongType other.found "i64", rest, true⟩
    else .error (mismatch "i64" (byte :: rest))

/-- Reads null as nothing. -/
def readOptional {α : Type} (reader : Bytes → Reading (α × Bytes)) (input : Bytes) :
    Reading (Option α × Bytes) :=
  match skipSpace input with
  | byte :: rest =>
    if byte = ascii 'n' then
      (literal [0x75, 0x6C, 0x6C] rest).map fun rest => (none, rest)
    else (reader (byte :: rest)).map fun (result, rest) => (some result, rest)
  | [] => (reader []).map fun (result, rest) => (some result, rest)

/-! ### The end of a record -/

/-- Looks for the brace that ends a record: the fault if it does not come next, and the bytes
left after looking. -/
def closeObject (input : Bytes) : Option Fault × Bytes :=
  match skipSpace input with
  | [] => (some ⟨.endInObject, [], true⟩, [])
  | byte :: rest =>
    if byte = ascii '\x7d' then (none, rest)
    else if byte = ascii ',' then (some (.peek .trailingComma (byte :: rest)), byte :: rest)
    else (some (.peek .trailingCharacters (byte :: rest)), byte :: rest)

/-- Looks for the bracket that ends a record written as an array. -/
def closeList (input : Bytes) : Option Fault × Bytes :=
  match skipSpace input with
  | [] => (some ⟨.endInList, [], true⟩, [])
  | byte :: rest =>
    if byte = ascii ']' then (none, rest)
    else if byte = ascii ',' then
      let next := skipSpace rest
      if next.head? = some (ascii ']') then (some (.peek .trailingComma next), next)
      else (some (.peek .trailingCharacters next), next)
    else (some (.peek .trailingCharacters (byte :: rest)), byte :: rest)

/-- Ends a record: a fault without a place gets the place where the record ends. -/
def settle {α : Type} (close : Bytes → Option Fault × Bytes) :
    Reading (α × Bytes) → Reading (α × Bytes)
  | .ok (result, rest) =>
    match close rest with
    | (none, rest) => .ok (result, rest)
    | (some fault, _) => .error fault
  | .error fault =>
    if fault.placed then .error fault
    else .error ⟨fault.problem, (close fault.rest).2, true⟩

/-! ### Records -/

/-- A record that is filled field by field. The state holds the fields seen so far. -/
structure RecordReader (State Result : Type) where
  /-- The name messages call the record by. -/
  name : String
  /-- The fields, in the order of the array form. -/
  fields : List String
  /-- The state before any field was seen. -/
  start : State
  /-- Whether the field was seen. -/
  seen : State → String → Bool
  /-- Reads the value of a field, with the depth left for containers. -/
  field : Nat → State → String → Bytes → Reading (State × Bytes)
  /-- Fields that may be missing at the end of the array form. -/
  optional : String → Bool
  /-- The record, or the first field of it that is missing. -/
  finish : State → Except Problem Result

/-- Reads one member of a record. -/
def RecordReader.member {State Result : Type} (record : RecordReader State Result) (depth : Nat)
    (state : State) (key : String) (input : Bytes) : Reading (State × Bytes) :=
  if record.fields.contains key then
    if record.seen state key then .error (.loose (.duplicateField key) input)
    else do
      let rest ← colon input
      record.field depth state key rest
  else do
    let rest ← colon input
    let rest ← skipValue rest
    .ok (state, rest)

/-- Reads the fields of the array form, of which some have been read. -/
def RecordReader.items {State Result : Type} (record : RecordReader State Result) (depth : Nat) :
    Nat → List String → State → Bytes → Reading (State × Bytes)
  | _, [], state, input => .ok (state, input)
  | done, field :: fields, state, input => do
    let (more, rest) ← nextItem (done = 0) input
    if more then
      let (state, rest) ← record.field depth state field rest
      record.items depth (done + 1) fields state rest
    else if record.optional field then record.items depth (done + 1) fields state rest
    else .error (.loose (.tooFew done record.name record.fields.length) rest)

/-- Turns the fields into a record once no more follow. -/
def RecordReader.conclude {State Result : Type} (record : RecordReader State Result) :
    Reading (State × Bytes) → Reading (Result × Bytes)
  | .error fault => .error fault
  | .ok (state, rest) =>
    match record.finish state with
    | .ok result => .ok (result, rest)
    | .error problem => .error (.loose problem rest)

/-- Reads a record in which containers nest at most to the depth given, the record itself
counted. -/
def RecordReader.read {State Result : Type} (record : RecordReader State Result) (depth : Nat)
    (input : Bytes) : Reading (Result × Bytes) :=
  match skipSpace input with
  | [] => .error ⟨.endInValue, [], true⟩
  | byte :: rest =>
    if byte = ascii '\x7b' then
      match depth with
      | 0 => .error ⟨.recursionLimit, rest, true⟩
      | depth + 1 =>
        settle closeObject (record.conclude
          (foldMembers (record.member depth) rest.length true record.start rest))
    else if byte = ascii '[' then
      match depth with
      | 0 => .error ⟨.recursionLimit, rest, true⟩
      | depth + 1 =>
        settle closeList (record.conclude
          (record.items depth 0 record.fields record.start rest))
    else .error (mismatch ("struct " ++ record.name) (byte :: rest))

end RippleServer.Json
