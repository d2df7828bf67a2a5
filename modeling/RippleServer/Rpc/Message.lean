/-
This file reads the messages a client sends. A payload is the text of a record
with an id, a method, parameters, a result and an error, all of which may be
missing, and the message is classified by which of them are there: a request
has an id and a method, a notification has a method but no id, and a response has
no method but an id, a result or an error.
-/

import RippleServer.Json.Printer
import RippleServer.Json.Record

namespace RippleServer.Rpc

/-! ### Identifiers and errors -/

/-- What a request is called by. -/
inductive Id
  | number (value : Int)
  | text (value : String)
deriving DecidableEq, Repr

/-- The identifier as a value. -/
def Id.toJson : Id → Json
  | .number value => .int value
  | .text value => .str value

/-- An identifier that may be absent, as a value. -/
def Id.optionToJson : Option Id → Json
  | none => .null
  | some id => id.toJson

/-- An identifier that may be absent, as the logs show it. -/
def Id.shown : Option Id → String
  | none => "None"
  | some (.number value) => "Some(Number(" ++ Text.integer value ++ "))"
  | some (.text value) => "Some(String(" ++ Text.quoted value ++ "))"

/-- The kinds of errors the server answers with. -/
inductive ErrorCode
  | parseError
  | invalidRequest
  | methodNotFound
  | invalidParams
  | internalError
  | serverNotInitialized
deriving DecidableEq, Repr

/-- The number a kind of error has on the wire. -/
def ErrorCode.code : ErrorCode → Int
  | .parseError => -32700
  | .invalidRequest => -32600
  | .methodNotFound => -32601
  | .invalidParams => -32602
  | .internalError => -32603
  | .serverNotInitialized => -32002

/-- The error of a response. -/
structure ResponseError where
  code : Int
  message : String
  data : Option Json := none
deriving Repr

namespace ResponseError

/-- An error of a known kind. -/
def of (code : ErrorCode) (message : String) : ResponseError :=
  { code := code.code, message }

/-- The error with a value attached to it. -/
def withData (error : ResponseError) (data : Json) : ResponseError :=
  { error with data := some data }

/-- The error as a value; data appears only if there is some. -/
def toJson (error : ResponseError) : Json :=
  .obj ([("code", .int error.code), ("message", .str error.message)] ++
    (error.data.map fun data => ("data", data)).toList)

/-- The fields of an error seen so far. -/
structure Draft where
  code : Option Int := none
  message : Option String := none
  data : Option (Option Json) := none

/-- How an error is read. -/
def record : Json.RecordReader Draft ResponseError where
  name := "ResponseError"
  fields := ["code", "message", "data"]
  start := {}
  seen := fun draft name =>
    if name = "code" then draft.code.isSome
    else if name = "message" then draft.message.isSome
    else draft.data.isSome
  field := fun depth draft name input =>
    if name = "code" then do
      let (code, rest) ← Json.readInt64 input
      .ok ({ draft with code := some code }, rest)
    else if name = "message" then do
      let (message, rest) ← Json.readText input
      .ok ({ draft with message := some message }, rest)
    else do
      let (data, rest) ← Json.readOptional (Json.value depth) input
      .ok ({ draft with data := some data }, rest)
  optional := fun name => name == "data"
  finish := fun draft =>
    match draft.code, draft.message with
    | none, _ => .error (.missingField "code")
    | some _, none => .error (.missingField "message")
    | some code, some message => .ok { code, message, data := draft.data.join }

end ResponseError

/-! ### Messages -/

/-- A message of the client. -/
inductive Message
  | request (id : Id) (method : String) (params : Json)
  | notification (method : String) (params : Json)
  | response (id : Option Id) (result : Option Json) (error : Option ResponseError)
deriving Repr

namespace Message

/-- The fields of a message seen so far; a field that was null is seen but holds nothing. -/
structure Draft where
  id : Option (Option Id) := none
  method : Option (Option String) := none
  params : Option (Option Json) := none
  result : Option (Option Json) := none
  error : Option (Option ResponseError) := none

/-- The identifier a value spells: a whole number of 32 bits or a text. -/
def idOfJson? : Json → Option Id
  | .num (.int value) =>
    if -2147483648 ≤ value ∧ value ≤ 2147483647 then some (.number value) else none
  | .str text => some (.text text)
  | _ => none

/-- Reads an identifier. The whole value is read before it is looked at. -/
def readId (depth : Nat) (input : Bytes) : Json.Reading (Id × Bytes) := do
  let (value, rest) ← Json.value depth input
  match idOfJson? value with
  | some id => .ok (id, rest)
  | none => .error (.loose (.noVariant "NumberOrString") rest)

/-- How a message is read. -/
def record : Json.RecordReader Draft Draft where
  name := "RawMessage"
  fields := ["id", "method", "params", "result", "error"]
  start := {}
  seen := fun draft name =>
    if name = "id" then draft.id.isSome
    else if name = "method" then draft.method.isSome
    else if name = "params" then draft.params.isSome
    else if name = "result" then draft.result.isSome
    else draft.error.isSome
  field := fun depth draft name input =>
    if name = "id" then do
      let (id, rest) ← Json.readOptional (readId depth) input
      .ok ({ draft with id := some id }, rest)
    else if name = "method" then do
      let (method, rest) ← Json.readOptional Json.readText input
      .ok ({ draft with method := some method }, rest)
    else if name = "params" then do
      let (params, rest) ← Json.readOptional (Json.value depth) input
      .ok ({ draft with params := some params }, rest)
    else if name = "result" then do
      let (result, rest) ← Json.readOptional (Json.value depth) input
      .ok ({ draft with result := some result }, rest)
    else do
      let (error, rest) ← Json.readOptional (ResponseError.record.read depth) input
      .ok ({ draft with error := some error }, rest)
  optional := fun _ => true
  finish := .ok

/-- Classifies a message by the fields that are there. -/
def classify (draft : Draft) : Except ResponseError Message :=
  let params := draft.params.join.getD .null
  match draft.id.join, draft.method.join with
  | some id, some method => .ok (.request id method params)
  | none, some method => .ok (.notification method params)
  | id, none =>
    if id.isNone && draft.result.join.isNone && draft.error.join.isNone then
      .error (.of .invalidRequest "message has neither a method nor an id")
    else .ok (.response id draft.result.join draft.error.join)

/-- Reads and classifies a payload. -/
def parse (payload : Bytes) : Except ResponseError Message :=
  match Json.endOfText (record.read Json.depthLimit payload) with
  | .error fault => .error (.of .parseError (fault.message payload))
  | .ok draft => classify draft

end Message

end RippleServer.Rpc
