/-
This file computes the exchanges of a run: the payloads the loop handles, each
with the messages that answer it. What the loop writes is the concatenation of
these answers, and what it does is done payload by payload, so a statement about
a whole run can be proved by looking at one payload and one server at a time.
-/

import RippleServer.Proofs.Dialogue

namespace RippleServer

/-! ### Messages without parameters -/

namespace Rpc.Message

/-- Whether a message was read that has a method, an identifier if it is a request, and nothing
else. -/
def isBare (id? : Option Id) (method : String) : Except ResponseError Message → Bool
  | .ok (.request id found .null) => decide (id? = some id ∧ found = method)
  | .ok (.notification found .null) => decide (id? = none ∧ found = method)
  | _ => false

theorem eq_request_of_isBare {outcome : Except ResponseError Message} {id : Id} {method : String}
    (bare : isBare (some id) method outcome = true) : outcome = .ok (.request id method .null) := by
  unfold isBare at bare
  split at bare
  · obtain ⟨sameId, rfl⟩ := of_decide_eq_true bare
    rw [Option.some.inj sameId]
  · exact nomatch (of_decide_eq_true bare).1
  · cases bare

theorem eq_notification_of_isBare {outcome : Except ResponseError Message} {method : String}
    (bare : isBare none method outcome = true) : outcome = .ok (.notification method .null) := by
  unfold isBare at bare
  split at bare
  · exact nomatch (of_decide_eq_true bare).1
  · obtain ⟨-, rfl⟩ := of_decide_eq_true bare
    rfl
  · cases bare

end Rpc.Message

namespace Server

/-! ### The answer to one payload -/

/-- The request to watch files that goes out when the client is ready, if there is one. -/
def watchBlock (server : Server) : List Outgoing :=
  match server.session.initialized.value.1 with
  | .ok (some registration) => [.request (watchRequest server.nextRequest registration)]
  | _ => []

/-- The messages that answer a payload. -/
def block (surroundings : Surroundings) (server : Server) (payload : Bytes) : List Outgoing :=
  match Rpc.Message.parse payload with
  | .error error => [.response (.failure none error)]
  | .ok (.request id method params) =>
    [.response ⟨some id, (server.answer surroundings method params).value.1⟩]
  | .ok (.notification method _) => if method = "initialized" then server.watchBlock else []
  | .ok (.response _ _ _) => []

theorem armWatch_sent_eq (server : Server) :
    server.armWatch.sent = server.watchBlock.map Outgoing.toJson := by
  have quiet := server.session.initialized_modest.sent_eq_nil
  unfold armWatch watchBlock
  rcases value : server.session.initialized.value with ⟨outcome, session⟩
  rw [Traced.sent_bind, quiet, value]
  rcases outcome with error | registration
  · rfl
  · cases registration <;> rfl

theorem notice_sent_eq (server : Server) (method : String) (params : Json) :
    (server.notice method params).sent =
      (if method = "initialized" then server.watchBlock else []).map Outgoing.toJson := by
  unfold notice
  split
  · rw [Traced.sent_bind, armWatch_sent_eq]
    exact List.append_nil _
  · split
    · rfl
    · split
      · rw [Traced.sent_bind, openDocument_sent]
        rfl
      · rfl

/-- Handling a payload sends the messages that answer it. -/
theorem receive_sent (surroundings : Surroundings) (server : Server) (payload : Bytes) :
    (server.receive surroundings payload).sent =
      (server.block surroundings payload).map Outgoing.toJson := by
  unfold receive block
  cases parsed : Rpc.Message.parse payload with
  | error error => rfl
  | ok message =>
    cases message with
    | request id method params =>
      show (server.answer surroundings method params >>= _).sent = _
      rw [Traced.sent_bind, answer_sent]
      rfl
    | notification method params => exact notice_sent_eq server method params
    | response id result error => cases error <;> rfl

/-! ### The answer to a request to open the session -/

/-- The payload is a request to open the session with parameters that can be read. -/
def AsksToOpen (payload : Bytes) : Prop :=
  ∃ id params opening, Rpc.Message.parse payload = .ok (.request id "initialize" params) ∧
    InitializeParams.ofJson params = .ok opening

/-- The answer to a request to open the session, by what came of it. -/
def handshakeAnswer : Except InitializeError ComposedServer → Except Rpc.ResponseError Json
  | .ok composed => .ok composed.initializeResult.toJson
  | .error error => .error (handshakeError error)

theorem answer_of_read (surroundings : Surroundings) (server : Server) {params : Json}
    {opening : InitializeParams} (read : InitializeParams.ofJson params = .ok opening) :
    server.answer surroundings "initialize" params =
      (fun step => (handshakeAnswer step.1, { server with session := step.2 })) <$>
        server.session.establish surroundings opening := by
  rw [answer, if_pos rfl, establish, read]
  show (server.session.establish surroundings opening >>= _) = _
  ext1
  · rw [Traced.value_bind, Traced.value_map]
    rcases (server.session.establish surroundings opening).value with ⟨outcome, session⟩
    cases outcome <;> rfl
  · rw [Traced.events_map]
    exact List.append_nil _

theorem answer_of_unread (surroundings : Surroundings) (server : Server) {params : Json}
    {problem : Json.Problem} (unread : InitializeParams.ofJson params = .error problem) :
    server.answer surroundings "initialize" params =
      pure (.error (.of .invalidParams ("invalid initialize params: " ++ problem.message)),
        server) := by
  rw [answer, if_pos rfl, establish, unread]

theorem receive_of_request (surroundings : Surroundings) (server : Server) {payload : Bytes}
    {id : Rpc.Id} {method : String} {params : Json}
    (parsed : Rpc.Message.parse payload = .ok (.request id method params)) :
    server.receive surroundings payload =
      ⟨(none, (server.answer surroundings method params).value.2),
        (server.answer surroundings method params).events ++
          [.sent (Rpc.Response.mk (some id)
            (server.answer surroundings method params).value.1).toJson]⟩ := by
  rw [receive, parsed]
  rfl

/-! ### The server behind a payload -/

/-- What a payload can make of a server. Whatever is not listed here leaves it as it is. -/
inductive Becomes (surroundings : Surroundings) (server : Server) (payload : Bytes) :
    Server → Prop
  | same : Becomes surroundings server payload server
  | shutDown {id : Rpc.Id} {params : Json}
    (parsed : Rpc.Message.parse payload = .ok (.request id "shutdown" params)) :
    Becomes surroundings server payload { server with shutdownRequested := true }
  | opened {id : Rpc.Id} {params : Json} {opening : InitializeParams}
    (parsed : Rpc.Message.parse payload = .ok (.request id "initialize" params))
    (read : InitializeParams.ofJson params = .ok opening) :
    Becomes surroundings server payload
      { server with session := (server.session.establish surroundings opening).value.2 }
  | ready {params : Json}
    (parsed : Rpc.Message.parse payload = .ok (.notification "initialized" params)) :
    Becomes surroundings server payload server.armWatch.value
  | document {params : Json} {document : OpenedDocument}
    (parsed : Rpc.Message.parse payload = .ok (.notification "textDocument/didOpen" params))
    (read : OpenedDocument.ofJson params = .ok document) :
    Becomes surroundings server payload
      { server with session := (server.session.openDocument document.uri).value.2 }

theorem openDocument_of_read (server : Server) {params : Json} {document : OpenedDocument}
    (read : OpenedDocument.ofJson params = .ok document) :
    (server.openDocument params).value =
      { server with session := (server.session.openDocument document.uri).value.2 } := by
  rw [openDocument, read]
  show (server.session.openDocument document.uri >>= _).value = _
  rw [Traced.value_bind]
  rcases (server.session.openDocument document.uri).value with ⟨outcome, session⟩
  rcases outcome with error | project
  · rfl
  · cases project <;> rfl

theorem receive_becomes (surroundings : Surroundings) (server : Server) (payload : Bytes) :
    server.Becomes surroundings payload (server.receive surroundings payload).value.2 := by
  cases parsed : Rpc.Message.parse payload with
  | error error =>
    rw [receive, parsed]
    exact .same
  | ok message =>
    cases message with
    | response id result error =>
      rw [receive, parsed]
      cases error <;> exact .same
    | request id method params =>
      rw [receive_of_request surroundings server parsed]
      by_cases opens : method = "initialize"
      · subst opens
        cases read : InitializeParams.ofJson params with
        | error problem =>
          rw [answer_of_unread surroundings server read]
          exact .same
        | ok opening =>
          rw [answer_of_read surroundings server read]
          exact .opened parsed read
      · rw [answer, if_neg opens]
        split
        · rename_i shutDown
          exact .shutDown (shutDown ▸ parsed)
        · exact .same
    | notification method params =>
      rw [receive, parsed]
      show server.Becomes surroundings payload (server.notice method params).value.2
      unfold notice
      split
      · rename_i ready
        exact .ready (ready ▸ parsed)
      · split
        · exact .same
        · split
          · rename_i opened
            cases read : OpenedDocument.ofJson params with
            | error problem =>
              rw [openDocument, read]
              exact .same
            | ok document =>
              rw [Traced.value_bind, openDocument_of_read server read]
              exact .document (opened ▸ parsed) read
          · exact .same

/-! ### The exchanges of a run -/

/-- The exchanges of some payloads, up to the payload that ends the loop. -/
def exchanges (surroundings : Surroundings) : Server → List Bytes → List Exchange
  | _, [] => []
  | server, payload :: rest =>
    ⟨payload, server.block surroundings payload⟩ ::
      match (server.receive surroundings payload).value with
      | (some _, _) => []
      | (none, next) => exchanges surroundings next rest

/-- The messages the exchanges send, as frames. -/
def framesOf (exchanges : List Exchange) : List Bytes :=
  (exchanges.flatMap Exchange.block).map Outgoing.frame

section Cons

variable {surroundings : Surroundings} {server next : Server} {payload : Bytes} {rest : List Bytes}

theorem receiveAll_cons_of_some {reason : ExitReason}
    (ends : (server.receive surroundings payload).value = (some reason, next)) :
    server.receiveAll surroundings (payload :: rest) =
      ⟨(some reason, next), (server.receive surroundings payload).events⟩ := by
  rw [receiveAll_cons]
  ext1
  · rw [Traced.value_bind, ends]
    rfl
  · rw [Traced.events_bind, ends]
    exact List.append_nil _

theorem receiveAll_cons_of_none
    (goesOn : (server.receive surroundings payload).value = (none, next)) :
    server.receiveAll surroundings (payload :: rest) =
      ⟨(next.receiveAll surroundings rest).value, (server.receive surroundings payload).events ++
        (next.receiveAll surroundings rest).events⟩ := by
  rw [receiveAll_cons]
  ext1
  · rw [Traced.value_bind, goesOn]
  · rw [Traced.events_bind, goesOn]

theorem exchanges_cons_of_some {reason : ExitReason}
    (ends : (server.receive surroundings payload).value = (some reason, next)) :
    server.exchanges surroundings (payload :: rest) =
      [⟨payload, server.block surroundings payload⟩] := by
  rw [exchanges, ends]

theorem exchanges_cons_of_none
    (goesOn : (server.receive surroundings payload).value = (none, next)) :
    server.exchanges surroundings (payload :: rest) =
      ⟨payload, server.block surroundings payload⟩ :: next.exchanges surroundings rest := by
  rw [exchanges, goesOn]

end Cons

/-- Every exchange of a run is the answer some server gives to a payload. -/
theorem exists_of_mem_exchanges {surroundings : Surroundings} {server : Server}
    {payloads : List Bytes} {exchange : Exchange}
    (member : exchange ∈ server.exchanges surroundings payloads) :
    ∃ (reached : Server) (payload : Bytes),
      exchange = ⟨payload, reached.block surroundings payload⟩ := by
  induction payloads generalizing server with
  | nil => exact absurd member List.not_mem_nil
  | cons payload payloads inductionHypothesis =>
    rcases value : (server.receive surroundings payload).value with ⟨reason, next⟩
    cases reason with
    | some reason =>
      rw [exchanges_cons_of_some value] at member
      exact ⟨server, payload, List.mem_singleton.mp member⟩
    | none =>
      rw [exchanges_cons_of_none value] at member
      rcases List.mem_cons.mp member with first | later
      · exact ⟨server, payload, first⟩
      · exact inductionHypothesis later

/-- An exchange is the answer of the server that the exchanges before it lead to. -/
theorem receiveAll_of_exchange {surroundings : Surroundings} {server : Server}
    {payloads : List Bytes} {before behind : List Exchange} {exchange : Exchange}
    (divided : server.exchanges surroundings payloads = before ++ exchange :: behind) :
    ∃ next, (server.receiveAll surroundings (payloads.take before.length)).value = (none, next) ∧
      exchange.block = next.block surroundings exchange.payload ∧
      (server.receiveAll surroundings (payloads.take (before.length + 1))).value =
        (next.receive surroundings exchange.payload).value := by
  induction before generalizing server payloads with
  | nil =>
    cases payloads with
    | nil => cases divided
    | cons payload payloads =>
      refine ⟨server, rfl, ?_⟩
      rw [exchanges] at divided
      cases (List.cons.inj divided).1
      refine ⟨rfl, ?_⟩
      rcases value : (server.receive surroundings payload).value with ⟨reason, next⟩
      cases reason with
      | some reason => exact congrArg Traced.value (receiveAll_cons_of_some value)
      | none => exact congrArg Traced.value (receiveAll_cons_of_none value)
  | cons first before inductionHypothesis =>
    cases payloads with
    | nil => cases divided
    | cons payload payloads =>
      rcases value : (server.receive surroundings payload).value with ⟨reason, next⟩
      cases reason with
      | some reason =>
        -- The loop ended with the first payload, so no exchange can stand behind it.
        rw [exchanges_cons_of_some value] at divided
        exact absurd (List.cons.inj divided).2.symm
          (List.append_ne_nil_of_right_ne_nil before (List.cons_ne_nil _ _))
      | none =>
        rw [exchanges_cons_of_none value] at divided
        rw [List.length_cons, List.take_succ_cons, List.take_succ_cons,
          receiveAll_cons_of_none value, receiveAll_cons_of_none value]
        exact inductionHypothesis (List.cons.inj divided).2

/-- The exchanges of the first payloads are the first exchanges. -/
theorem exchanges_take (surroundings : Surroundings) (server : Server) (payloads : List Bytes)
    (count : Nat) :
    server.exchanges surroundings (payloads.take count) =
      (server.exchanges surroundings payloads).take count := by
  induction payloads generalizing server count with
  | nil => rw [List.take_nil, exchanges, List.take_nil]
  | cons payload payloads inductionHypothesis =>
    cases count with
    | zero => rfl
    | succ count =>
      rcases value : (server.receive surroundings payload).value with ⟨reason, next⟩
      rw [List.take_succ_cons]
      cases reason with
      | some reason =>
        rw [exchanges_cons_of_some value, exchanges_cons_of_some value, List.take_succ_cons,
          List.take_nil]
      | none =>
        rw [exchanges_cons_of_none value, exchanges_cons_of_none value, List.take_succ_cons,
          inductionHypothesis]

/-- The loop sends the blocks of its exchanges. -/
theorem receiveAll_sent (surroundings : Surroundings) (server : Server) (payloads : List Bytes) :
    (server.receiveAll surroundings payloads).sent =
      ((server.exchanges surroundings payloads).flatMap Exchange.block).map Outgoing.toJson := by
  induction payloads generalizing server with
  | nil => rfl
  | cons payload payloads inductionHypothesis =>
    have sent := receive_sent surroundings server payload
    rw [Traced.sent] at sent
    rcases value : (server.receive surroundings payload).value with ⟨reason, next⟩
    cases reason with
    | some reason =>
      rw [receiveAll_cons_of_some value, exchanges_cons_of_some value, Traced.sent, sent,
        List.flatMap_singleton]
    | none =>
      have others := inductionHypothesis next
      rw [Traced.sent] at others
      rw [receiveAll_cons_of_none value, exchanges_cons_of_none value, Traced.sent,
        List.filterMap_append, sent, others, List.flatMap_cons, List.map_append]

/-- A run writes the frames of its exchanges. -/
theorem run_frames (surroundings : Surroundings) (server : Server) (input : Bytes) :
    (server.run surroundings input).frames =
      framesOf (server.exchanges surroundings (Frame.payloads input).1) := by
  rw [Traced.frames, run_sent, receiveAll_sent, framesOf, List.map_map]
  rfl

/-- Nothing is reported when the loop has ended. -/
theorem run_reports (surroundings : Surroundings) (server : Server) (input : Bytes) :
    (server.run surroundings input).reports =
      (server.receiveAll surroundings (Frame.payloads input).1).reports := by
  rcases found : Frame.payloads input with ⟨payloads, ending⟩
  unfold run
  rw [found, Traced.reports_bind]
  rcases (server.receiveAll surroundings payloads).value with ⟨reason, after⟩
  cases reason with
  | some reason => exact List.append_nil _
  | none => cases ending <;> exact List.append_nil _

end Server

end RippleServer
