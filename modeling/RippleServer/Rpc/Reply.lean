/-
This file writes the messages the server sends: responses to the client's
requests, and requests of its own. The members come in a fixed order.
-/

import RippleServer.Rpc.Message

namespace RippleServer.Rpc

/-- The version of the protocol every message names. -/
def protocolVersion : String := "2.0"

/-- A response to a request of the client. A payload that cannot be read is answered without an
identifier. -/
structure Response where
  id : Option Id
  outcome : Except ResponseError Json

namespace Response

def success (id : Option Id) (result : Json) : Response :=
  ⟨id, .ok result⟩

def failure (id : Option Id) (error : ResponseError) : Response :=
  ⟨id, .error error⟩

/-- The error of a response that failed. -/
def error? (response : Response) : Option ResponseError :=
  match response.outcome with
  | .ok _ => none
  | .error error => some error

/-- The response as it goes over the wire. -/
def toJson (response : Response) : Json :=
  .obj [("jsonrpc", .str protocolVersion), ("id", Id.optionToJson response.id),
    match response.outcome with
    | .ok result => ("result", result)
    | .error error => ("error", error.toJson)]

end Response

/-- A request of the server. -/
structure Request where
  id : Id
  method : String
  params : Json

/-- The request as it goes over the wire. -/
def Request.toJson (request : Request) : Json :=
  .obj [("jsonrpc", .str protocolVersion), ("id", request.id.toJson),
    ("method", .str request.method), ("params", request.params)]

end RippleServer.Rpc
