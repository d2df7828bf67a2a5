/-
This file answers messages. Every payload that cannot be read and every request
gets one response, a notification or a response of the client gets none, and the
only request of the server itself is the one to watch files. The loop takes the
payloads of the stream in order until it is told to exit, the stream ends or the
framing is broken.
-/

import RippleServer.Frame
import RippleServer.Session

namespace RippleServer

/-- The server of one client. -/
structure Server where
  session : Session := {}
  /-- Whether the client asked for a shutdown. -/
  shutdownRequested : Bool := false
  /-- The identifier of the next request of the server. -/
  nextRequest : Nat := 1
deriving DecidableEq, Repr, Inhabited

namespace Server

/-! ### Requests -/

/-- The error for a handshake that failed; trying again is no use. -/
def handshakeError (error : InitializeError) : Rpc.ResponseError :=
  (Rpc.ResponseError.of .internalError error.message).withData
    (Json.object [("retry", .bool false)])

/-- Opens the session. -/
def establish (surroundings : Surroundings) (server : Server) (params : Json) :
    Traced (Except Rpc.ResponseError Json × Server) :=
  match InitializeParams.ofJson params with
  | .error problem =>
    pure (.error (.of .invalidParams ("invalid initialize params: " ++ problem.message)), server)
  | .ok params => do
    let (outcome, session) ← server.session.establish surroundings params
    let answer := match outcome with
      | .ok composed => .ok composed.initializeResult.toJson
      | .error error => .error (handshakeError error)
    pure (answer, { server with session })

/-- Why a request for a feature is not answered. -/
def refusal (server : Server) (method : String) : Rpc.ResponseError :=
  if server.shutdownRequested then .of .invalidRequest "server is shutting down"
  else if server.session.state = .ready then
    .of .methodNotFound ("method '" ++ method ++ "' is not handled by this server")
  else
    .of .serverNotInitialized
      ("server is not initialized; session is " ++ server.session.state.text)

/-- Answers a request. -/
def answer (surroundings : Surroundings) (server : Server) (method : String) (params : Json) :
    Traced (Except Rpc.ResponseError Json × Server) :=
  if method = "initialize" then server.establish surroundings params
  else if method = "shutdown" then pure (.ok .null, { server with shutdownRequested := true })
  else pure (.error (server.refusal method), server)

/-! ### Notifications -/

/-- The request to the client to watch files. -/
def watchRequest (number : Nat) (registration : Registration) : Rpc.Request where
  id := .number number
  method := "client/registerCapability"
  params := Json.object [("registrations", .arr [registration.toJson])]

/-- Asks the client to watch files, once it is ready. -/
def armWatch (server : Server) : Traced Server := do
  let (outcome, session) ← server.session.initialized
  match outcome with
  | .error error => do
    Traced.emit (.initializedIgnored error)
    pure { server with session }
  | .ok none => pure { server with session }
  | .ok (some registration) => do
    Traced.emit (.sent (watchRequest server.nextRequest registration).toJson)
    pure { server with session, nextRequest := server.nextRequest + 1 }

/-- Takes note of a document that was opened. -/
def openDocument (server : Server) (params : Json) : Traced Server :=
  match OpenedDocument.ofJson params with
  | .error problem => do
    Traced.emit (.openMalformed problem)
    pure server
  | .ok document => do
    let (outcome, session) ← server.session.openDocument document.uri
    match outcome with
    | .error error => Traced.emit (.openedTooEarly error)
    | .ok none => pure ()
    | .ok (some project) => Traced.emit (.documentOpened document.uri.text project.root)
    pure { server with session }

/-- How the loop ends when the client tells the server to exit. -/
def exitReason (server : Server) : ExitReason :=
  if server.shutdownRequested then .requested else .withoutShutdown

/-- Takes note of a notification. -/
def notice (server : Server) (method : String) (params : Json) :
    Traced (Option ExitReason × Server) :=
  if method = "initialized" then do
    let server ← server.armWatch
    pure (none, server)
  else if method = "exit" then do
    Traced.emit (.exiting server.exitReason)
    pure (some server.exitReason, server)
  else if method = "textDocument/didOpen" then do
    let server ← server.openDocument params
    pure (none, server)
  else do
    Traced.emit (.notificationIgnored method)
    pure (none, server)

/-! ### Messages -/

/-- Handles a message, and says if the loop ends with it. -/
def handle (surroundings : Surroundings) (server : Server) :
    Rpc.Message → Traced (Option ExitReason × Server)
  | .request id method params => do
    let (outcome, server) ← server.answer surroundings method params
    Traced.emit (.sent (Rpc.Response.mk (some id) outcome).toJson)
    pure (none, server)
  | .notification method params => server.notice method params
  | .response id _ (some error) => do
    Traced.emit (.requestRejected id error.code error.message)
    pure (none, server)
  | .response id _ none => do
    Traced.emit (.requestAcknowledged id)
    pure (none, server)

/-- Handles a payload. -/
def receive (surroundings : Surroundings) (server : Server) (payload : Bytes) :
    Traced (Option ExitReason × Server) :=
  match Rpc.Message.parse payload with
  | .ok message => server.handle surroundings message
  | .error error => do
    Traced.emit (.messageRejected error.message)
    Traced.emit (.sent (Rpc.Response.failure none error).toJson)
    pure (none, server)

/-- Handles payloads until one of them ends the loop. -/
def receiveAll (surroundings : Surroundings) :
    Server → List Bytes → Traced (Option ExitReason × Server)
  | server, [] => pure (none, server)
  | server, payload :: rest => do
    let (reason, server) ← server.receive surroundings payload
    match reason with
    | some reason => pure (some reason, server)
    | none => receiveAll surroundings server rest

/-! ### The loop -/

/-- What the loop ends with when the stream does. -/
def conclude : Except Frame.Error Unit → Traced (Except Frame.Error ExitReason)
  | .error error => pure (.error error)
  | .ok () => do
    Traced.emit .connectionClosed
    pure (.ok .disconnected)

/-- Runs the loop over a stream. -/
def run (surroundings : Surroundings) (server : Server) (input : Bytes) :
    Traced (Except Frame.Error ExitReason × Server) := do
  let (payloads, ending) := Frame.payloads input
  let (reason, server) ← server.receiveAll surroundings payloads
  match reason with
  | some reason => pure (.ok reason, server)
  | none => do
    let outcome ← conclude ending
    pure (outcome, server)

end Server

end RippleServer
