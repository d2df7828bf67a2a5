/-
This file tells what the server says to its client over a whole run. What goes
out is a sequence of blocks, one for each payload that comes in, and a block
depends on its own payload and on two facts about the payloads before it:
whether one of them asked for a shutdown, and whether one of them opened the
session.
-/

import RippleServer.Proofs.Framing
import RippleServer.Proofs.Lifecycle
import RippleServer.Server

namespace RippleServer

/-! ### Exchanges -/

/-- A message to the client. -/
inductive Outgoing
  | response (response : Rpc.Response)
  | request (request : Rpc.Request)

/-- The message as it goes over the wire. -/
def Outgoing.toJson : Outgoing → Json
  | .response reply => reply.toJson
  | .request demand => demand.toJson

/-- The frame of the message. -/
def Outgoing.frame (outgoing : Outgoing) : Bytes :=
  Frame.encode outgoing.toJson.bytes

/-- The frames a computation writes, in order. -/
def Traced.frames {α : Type} (traced : Traced α) : List Bytes :=
  traced.sent.map fun message => Frame.encode message.bytes

/-- The messages are a single request to watch files. -/
def IsWatchBlock (block : List Outgoing) : Prop :=
  ∃ request : Rpc.Request,
    block = [.request request] ∧ request.method = "client/registerCapability"

/-- A payload and the block of messages that answers it. -/
structure Exchange where
  payload : Bytes
  block : List Outgoing

namespace Exchange

/-- The payload is a request for a method. -/
def Asks (exchange : Exchange) (method : String) : Prop :=
  ∃ id params, Rpc.Message.parse exchange.payload = .ok (.request id method params)

/-- The payload asks to open the session, and the answer is a result. -/
def Opens (exchange : Exchange) : Prop :=
  exchange.Asks "initialize" ∧
    ∃ id result, exchange.block = [.response (.success id result)]

/-- The code of the error a request for a feature is refused with, by what came before it. -/
inductive RefusalCode (earlier : List Exchange) : Int → Prop
  | shuttingDown (shutDown : ∃ exchange ∈ earlier, exchange.Asks "shutdown") :
    RefusalCode earlier (-32600)
  | unknown (running : ∀ exchange ∈ earlier, ¬ exchange.Asks "shutdown")
    (opened : ∃ exchange ∈ earlier, exchange.Opens) : RefusalCode earlier (-32601)
  | tooEarly (running : ∀ exchange ∈ earlier, ¬ exchange.Asks "shutdown")
    (closed : ∀ exchange ∈ earlier, ¬ exchange.Opens) : RefusalCode earlier (-32002)

/-- The block is the answer to the payload, after what came before it. -/
def Answers (earlier : List Exchange) (exchange : Exchange) : Prop :=
  match Rpc.Message.parse exchange.payload with
  | .error error => exchange.block = [.response (.failure none error)]
  | .ok (.request id method _) =>
    ∃ outcome, exchange.block = [.response ⟨some id, outcome⟩] ∧
      (method ≠ "initialize" → method ≠ "shutdown" →
        ∃ error, outcome = .error error ∧ RefusalCode earlier error.code)
  | .ok (.notification method _) =>
    exchange.block = [] ∨ method = "initialized" ∧ IsWatchBlock exchange.block
  | .ok (.response _ _ _) => exchange.block = []

end Exchange

/-- The payload tells the server to exit. -/
def IsExit (payload : Bytes) : Prop :=
  ∃ params, Rpc.Message.parse payload = .ok (.notification "exit" params)

/-- The payloads the loop receives from a stream: up to and with the first that tells it to exit,
or up to the end of the stream or the first broken frame. -/
inductive Receives : Bytes → List Bytes → Prop
  | ended {input : Bytes} (silent : (Frame.receive input).1 = .ok none) : Receives input []
  | broken {input : Bytes} {error : Frame.Error}
    (broken : (Frame.receive input).1 = .error error) : Receives input []
  | exit {input payload rest : Bytes}
    (received : Frame.receive input = (.ok (some payload), rest)) (exits : IsExit payload) :
    Receives input [payload]
  | more {input payload rest : Bytes} {payloads : List Bytes}
    (received : Frame.receive input = (.ok (some payload), rest)) (stays : ¬ IsExit payload)
    (others : Receives rest payloads) : Receives input (payload :: payloads)

/-! ### The session says nothing -/

namespace Session

theorem establish_sent (surroundings : Surroundings) (session : Session)
    (params : InitializeParams) : (session.establish surroundings params).sent = [] := by
  by_cases new : session.state = .uninitialized
  · have quiet := (Handshake.stages_modest surroundings params).sent_eq_nil
    rw [Traced.sent] at quiet ⊢
    rw [(establish_eq_stages new Event.sent? (fun _ _ => rfl) (fun _ => rfl) fun _ _ _ => rfl).2,
      quiet]
  · rw [establish_of_opened new]
    rfl

/-- A handshake makes the session ready exactly if it has a result. -/
theorem establish_ready (surroundings : Surroundings) (session : Session)
    (params : InitializeParams) :
    (session.establish surroundings params).value.2.state = .ready ↔
      session.state = .ready ∨
        ∃ server, (session.establish surroundings params).value.1 = .ok server := by
  by_cases new : session.state = .uninitialized
  · obtain ⟨server, value, -⟩ | ⟨error, value, -⟩ := establish_cases surroundings session new params
    · rw [value]
      exact ⟨fun _ => .inr ⟨server, rfl⟩, fun _ => rfl⟩
    · rw [value, new]
      exact ⟨nofun, by rintro (ready | ⟨server, succeeded⟩) <;> contradiction⟩
  · rw [establish_of_opened new]
    exact ⟨.inl, by rintro (ready | ⟨server, succeeded⟩); exacts [ready, nomatch succeeded]⟩

end Session

/-! ### Requests -/

namespace Server

theorem establish_sent (surroundings : Surroundings) (server : Server) (params : Json) :
    (server.establish surroundings params).sent = [] := by
  unfold establish
  split
  · rfl
  · rw [Traced.sent_bind, Session.establish_sent]
    rfl

theorem establish_shutdownRequested (surroundings : Surroundings) (server : Server)
    (params : Json) :
    (server.establish surroundings params).value.2.shutdownRequested =
      server.shutdownRequested := by
  unfold establish
  split <;> rfl

theorem establish_ready (surroundings : Surroundings) (server : Server) (params : Json) :
    (server.establish surroundings params).value.2.session.state = .ready ↔
      server.session.state = .ready ∨
        ∃ result, (server.establish surroundings params).value.1 = .ok result := by
  unfold establish
  split
  · exact ⟨.inl, by rintro (ready | ⟨result, succeeded⟩); exacts [ready, nomatch succeeded]⟩
  · rename_i params read
    have ready := Session.establish_ready surroundings server.session params
    rw [Traced.value_bind]
    rcases value : (server.session.establish surroundings params).value with ⟨outcome, session⟩
    rw [value] at ready
    cases outcome <;> simpa using ready

theorem answer_sent (surroundings : Surroundings) (server : Server) (method : String)
    (params : Json) : (server.answer surroundings method params).sent = [] := by
  unfold answer
  split
  · exact establish_sent surroundings server params
  · split <;> rfl

theorem answer_shutdownRequested (surroundings : Surroundings) (server : Server)
    (method : String) (params : Json) :
    (server.answer surroundings method params).value.2.shutdownRequested = true ↔
      server.shutdownRequested = true ∨ method = "shutdown" := by
  unfold answer
  split
  · rename_i asked
    rw [establish_shutdownRequested, asked]
    simp
  · split
    · rename_i asked
      exact ⟨fun _ => .inr asked, fun _ => rfl⟩
    · rename_i other
      exact ⟨.inl, fun requested => requested.resolve_right other⟩

theorem answer_ready (surroundings : Surroundings) (server : Server) (method : String)
    (params : Json) :
    (server.answer surroundings method params).value.2.session.state = .ready ↔
      server.session.state = .ready ∨ method = "initialize" ∧
        ∃ result, (server.answer surroundings method params).value.1 = .ok result := by
  unfold answer
  split
  · rename_i asked
    rw [establish_ready]
    simp only [asked, true_and]
  · rename_i other
    have unchanged : ∀ {outcome : Prop},
        server.session.state = .ready ∨ method = "initialize" ∧ outcome ↔
          server.session.state = .ready :=
      ⟨fun ready => ready.resolve_right fun opens => other opens.1, .inl⟩
    rw [unchanged]
    split <;> rfl

theorem answer_of_other (surroundings : Surroundings) (server : Server) {method : String}
    (notInitialize : method ≠ "initialize") (notShutdown : method ≠ "shutdown") (params : Json) :
    (server.answer surroundings method params).value.1 = .error (server.refusal method) := by
  rw [answer, if_neg notInitialize, if_neg notShutdown]
  rfl

/-! ### Notifications -/

/-- A step that leaves alone what the server remembers of the requests so far. -/
structure Keeps (before after : Server) : Prop where
  shutdownRequested : after.shutdownRequested = before.shutdownRequested
  state : after.session.state = before.session.state

theorem armWatch_keeps (server : Server) : server.Keeps server.armWatch.value := by
  have grows := server.session.initialized_growsTo
  unfold armWatch
  rcases value : server.session.initialized.value with ⟨outcome, session⟩
  rw [value] at grows
  rw [Traced.value_bind, value]
  rcases outcome with error | registration
  · exact ⟨rfl, grows.state⟩
  · cases registration <;> exact ⟨rfl, grows.state⟩

/-- The client is asked to watch files once at most. -/
theorem armWatch_sent (server : Server) :
    ∃ block, server.armWatch.sent = block.map Outgoing.toJson ∧
      (block = [] ∨ IsWatchBlock block) := by
  unfold armWatch
  rcases value : server.session.initialized.value with ⟨outcome, session⟩
  rw [Traced.sent_bind, server.session.initialized_modest.sent_eq_nil, value]
  rcases outcome with error | registration
  · exact ⟨[], rfl, .inl rfl⟩
  · cases registration with
    | none => exact ⟨[], rfl, .inl rfl⟩
    | some registration =>
      exact ⟨[.request (watchRequest server.nextRequest registration)], rfl, .inr ⟨_, rfl, rfl⟩⟩

theorem openDocument_keeps (server : Server) (params : Json) :
    server.Keeps (server.openDocument params).value := by
  unfold openDocument
  split
  · exact ⟨rfl, rfl⟩
  · rename_i document read
    have grows := server.session.openDocument_growsTo document.uri
    rcases value : (server.session.openDocument document.uri).value with ⟨outcome, session⟩
    rw [value] at grows
    rw [Traced.value_bind, value]
    rcases outcome with error | project
    · exact ⟨rfl, grows.state⟩
    · cases project <;> exact ⟨rfl, grows.state⟩

theorem openDocument_sent (server : Server) (params : Json) :
    (server.openDocument params).sent = [] := by
  unfold openDocument
  split
  · rfl
  · rename_i document read
    rw [Traced.sent_bind, (server.session.openDocument_modest document.uri).sent_eq_nil]
    rcases (server.session.openDocument document.uri).value with ⟨outcome, session⟩
    rcases outcome with error | project
    · rfl
    · cases project <;> rfl

theorem notice_keeps (server : Server) (method : String) (params : Json) :
    server.Keeps (server.notice method params).value.2 := by
  unfold notice
  split
  · exact armWatch_keeps server
  · split
    · exact ⟨rfl, rfl⟩
    · split
      · exact openDocument_keeps server params
      · exact ⟨rfl, rfl⟩

theorem notice_sent (server : Server) (method : String) (params : Json) :
    ∃ block, (server.notice method params).sent = block.map Outgoing.toJson ∧
      (block = [] ∨ method = "initialized" ∧ IsWatchBlock block) := by
  unfold notice
  split
  · rename_i asked
    obtain ⟨block, sent, shape⟩ := armWatch_sent server
    refine ⟨block, ?_, shape.imp_right fun isWatch => ⟨asked, isWatch⟩⟩
    rw [Traced.sent_bind, sent]
    exact List.append_nil _
  · refine ⟨[], ?_, .inl rfl⟩
    split
    · rfl
    · split
      · rw [Traced.sent_bind, openDocument_sent]
        rfl
      · rfl

theorem notice_exits (server : Server) (method : String) (params : Json) :
    (server.notice method params).value.1.isSome = true ↔ method = "exit" := by
  unfold notice
  split
  · rename_i asked
    rw [asked]
    exact ⟨nofun, nofun⟩
  · split
    · rename_i asked
      exact ⟨fun _ => asked, fun _ => rfl⟩
    · rename_i other
      refine ⟨fun ended => ?_, fun asked => absurd asked other⟩
      split at ended <;> cases ended

/-! ### What the server remembers -/

/-- The server knows of the exchanges so far whether the client asked for a shutdown and whether
the session was opened. -/
structure Remembers (server : Server) (earlier : List Exchange) : Prop where
  shutDown : server.shutdownRequested = true ↔ ∃ exchange ∈ earlier, exchange.Asks "shutdown"
  opened : server.session.state = .ready ↔ ∃ exchange ∈ earlier, exchange.Opens

theorem remembers_nil : Remembers {} [] :=
  ⟨⟨nofun, by simp⟩, ⟨nofun, by simp⟩⟩

theorem Remembers.append {server next : Server} {earlier : List Exchange} {exchange : Exchange}
    (remembers : server.Remembers earlier)
    (shutDown : next.shutdownRequested = true ↔
      server.shutdownRequested = true ∨ exchange.Asks "shutdown")
    (opened : next.session.state = .ready ↔ server.session.state = .ready ∨ exchange.Opens) :
    next.Remembers (earlier ++ [exchange]) := by
  refine ⟨shutDown.trans ?_, opened.trans ?_⟩
  · rw [remembers.shutDown]
    simp only [List.mem_append, List.mem_singleton, or_and_right, exists_or, exists_eq_left]
  · rw [remembers.opened]
    simp only [List.mem_append, List.mem_singleton, or_and_right, exists_or, exists_eq_left]

/-- Nothing new is to be remembered of a payload that is no request. -/
theorem Remembers.keep {server next : Server} {earlier : List Exchange} {exchange : Exchange}
    (remembers : server.Remembers earlier) (keeps : server.Keeps next)
    (other : ∀ method, ¬ exchange.Asks method) : next.Remembers (earlier ++ [exchange]) := by
  refine remembers.append ?_ ?_
  · rw [keeps.shutdownRequested, or_iff_left (other "shutdown")]
  · rw [keeps.state, or_iff_left fun opens => other "initialize" opens.1]

/-- What is remembered decides the error of a request for a feature. -/
theorem Remembers.refusalCode {server : Server} {earlier : List Exchange}
    (remembers : server.Remembers earlier) (method : String) :
    Exchange.RefusalCode earlier (server.refusal method).code := by
  unfold refusal
  split
  · rename_i requested
    exact .shuttingDown (remembers.shutDown.mp requested)
  · rename_i running
    rw [remembers.shutDown] at running
    split
    · rename_i ready
      exact .unknown (by simpa using running) (remembers.opened.mp ready)
    · rename_i unready
      rw [remembers.opened] at unready
      exact .tooEarly (by simpa using running) (by simpa using unready)

/-! ### One payload -/

/-- What handling a payload comes to: a block that answers it, a server that remembers it, and an
end of the loop exactly if the payload says so. -/
structure Handled (earlier : List Exchange) (payload : Bytes)
    (step : Traced (Option ExitReason × Server)) (block : List Outgoing) : Prop where
  sent : step.sent = block.map Outgoing.toJson
  answers : Exchange.Answers earlier ⟨payload, block⟩
  remembers : step.value.2.Remembers (earlier ++ [⟨payload, block⟩])
  exits : step.value.1.isSome = true ↔ IsExit payload

section OnePayload

variable {server : Server} {earlier : List Exchange} {payload : Bytes}
  {outcome : Except Rpc.ResponseError Rpc.Message}

theorem not_asks (parsed : Rpc.Message.parse payload = outcome)
    (other : ∀ id method params, outcome ≠ .ok (.request id method params))
    (block : List Outgoing) (method : String) : ¬ Exchange.Asks ⟨payload, block⟩ method := by
  rintro ⟨id, params, read⟩
  exact other id method params (parsed.symm.trans read)

theorem not_isExit (parsed : Rpc.Message.parse payload = outcome)
    (other : ∀ params, outcome ≠ .ok (.notification "exit" params)) : ¬ IsExit payload := by
  rintro ⟨params, read⟩
  exact other params (parsed.symm.trans read)

theorem handled_of_error (surroundings : Surroundings) {error : Rpc.ResponseError}
    (remembers : server.Remembers earlier) (parsed : Rpc.Message.parse payload = .error error) :
    Handled earlier payload (server.receive surroundings payload)
      [.response (.failure none error)] := by
  have other := not_asks parsed nofun
  have stays := not_isExit parsed nofun
  unfold receive
  rw [parsed]
  refine ⟨rfl, ?_, remembers.keep ⟨rfl, rfl⟩ (other _), nofun, fun exits => absurd exits stays⟩
  simp only [Exchange.Answers, parsed]

theorem handled_of_request (surroundings : Surroundings) {id : Rpc.Id} {method : String}
    {params : Json} (remembers : server.Remembers earlier)
    (parsed : Rpc.Message.parse payload = .ok (.request id method params)) :
    Handled earlier payload (server.receive surroundings payload)
      [.response ⟨some id, (server.answer surroundings method params).value.1⟩] := by
  have stays := not_isExit parsed nofun
  have asks : ∀ block other, Exchange.Asks ⟨payload, block⟩ other ↔ method = other := by
    refine fun block other => ⟨?_, fun same => ⟨id, params, same ▸ parsed⟩⟩
    rintro ⟨id', params', read⟩
    cases parsed.symm.trans read
    rfl
  have succeeds : ∀ outcome : Except Rpc.ResponseError Json,
      (∃ id' result, [Outgoing.response ⟨some id, outcome⟩] = [.response (.success id' result)]) ↔
        ∃ result, outcome = .ok result := by
    refine fun outcome => ⟨?_, ?_⟩
    · rintro ⟨id', result, same⟩
      cases same
      exact ⟨result, rfl⟩
    · rintro ⟨result, rfl⟩
      exact ⟨some id, result, rfl⟩
  unfold receive
  rw [parsed]
  refine ⟨?_, ?_, remembers.append ?_ ?_, nofun, fun exits => absurd exits stays⟩
  · show (server.answer surroundings method params >>= _).sent = _
    rw [Traced.sent_bind, answer_sent]
    rfl
  · simp only [Exchange.Answers, parsed]
    refine ⟨_, rfl, fun notInitialize notShutdown => ⟨server.refusal method, ?_, ?_⟩⟩
    · exact answer_of_other surroundings server notInitialize notShutdown params
    · exact remembers.refusalCode method
  · rw [asks]
    exact answer_shutdownRequested surroundings server method params
  · rw [Exchange.Opens, asks, succeeds]
    exact answer_ready surroundings server method params

theorem handled_of_notification (surroundings : Surroundings) {method : String} {params : Json}
    (remembers : server.Remembers earlier)
    (parsed : Rpc.Message.parse payload = .ok (.notification method params)) :
    ∃ block, Handled earlier payload (server.receive surroundings payload) block := by
  obtain ⟨block, sent, shape⟩ := notice_sent server method params
  have other := not_asks parsed nofun block
  unfold receive
  rw [parsed]
  refine ⟨block, sent, ?_, remembers.keep (notice_keeps server method params) other, ?_⟩
  · simp only [Exchange.Answers, parsed]
    exact shape
  · refine (notice_exits server method params).trans ⟨fun exits => ⟨params, exits ▸ parsed⟩, ?_⟩
    rintro ⟨params', read⟩
    cases parsed.symm.trans read
    rfl

theorem handled_of_response (surroundings : Surroundings) {id : Option Rpc.Id}
    {result : Option Json} {error : Option Rpc.ResponseError}
    (remembers : server.Remembers earlier)
    (parsed : Rpc.Message.parse payload = .ok (.response id result error)) :
    Handled earlier payload (server.receive surroundings payload) [] := by
  have other := not_asks parsed nofun []
  have stays := not_isExit parsed nofun
  have answers : Exchange.Answers earlier ⟨payload, []⟩ := by
    simp only [Exchange.Answers, parsed]
  unfold receive
  rw [parsed]
  cases error <;>
    exact ⟨rfl, answers, remembers.keep ⟨rfl, rfl⟩ other, nofun, fun exits => absurd exits stays⟩

theorem receive_handled (surroundings : Surroundings) (remembers : server.Remembers earlier)
    (payload : Bytes) :
    ∃ block, Handled earlier payload (server.receive surroundings payload) block := by
  cases parsed : Rpc.Message.parse payload with
  | error error => exact ⟨_, handled_of_error surroundings remembers parsed⟩
  | ok message =>
    cases message with
    | request id method params => exact ⟨_, handled_of_request surroundings remembers parsed⟩
    | notification method params => exact handled_of_notification surroundings remembers parsed
    | response id result error => exact ⟨_, handled_of_response surroundings remembers parsed⟩

end OnePayload

/-! ### The loop -/

theorem receiveAll_cons (surroundings : Surroundings) (server : Server) (payload : Bytes)
    (rest : List Bytes) :
    server.receiveAll surroundings (payload :: rest) =
      server.receive surroundings payload >>= fun step =>
        match step.1 with
        | some reason => pure (some reason, step.2)
        | none => step.2.receiveAll surroundings rest :=
  rfl

/-- The messages sent over a stream are those of its exchanges, and each exchange answers after
those before it. -/
theorem receiveAll_exchanges (surroundings : Surroundings) {server : Server}
    {earlier : List Exchange} (remembers : server.Remembers earlier) (input : Bytes) :
    ∃ exchanges : List Exchange,
      Receives input (exchanges.map Exchange.payload) ∧
        (server.receiveAll surroundings (Frame.payloads input).1).sent =
          (exchanges.flatMap Exchange.block).map Outgoing.toJson ∧
        ∀ before exchange behind, exchanges = before ++ exchange :: behind →
          Exchange.Answers (earlier ++ before) exchange := by
  induction sizeEq : input.length using Nat.strongRecOn generalizing input server earlier with
  | ind size inductionHypothesis =>
    have none : ∀ before exchange behind, [] = before ++ exchange :: behind →
        Exchange.Answers (earlier ++ before) exchange := by simp
    rcases received : Frame.receive input with ⟨outcome, rest⟩
    rcases outcome with error | found
    · have broken : (Frame.receive input).1 = .error error := by rw [received]
      rw [Frame.payloads_of_error broken]
      exact ⟨[], .broken broken, rfl, none⟩
    · cases found with
      | none =>
        have silent : (Frame.receive input).1 = .ok .none := by rw [received]
        rw [Frame.payloads_of_none silent]
        exact ⟨[], .ended silent, rfl, none⟩
      | some payload =>
        have shorter := (Frame.receive_eq_some_iff.mp received).length_lt
        obtain ⟨block, handled⟩ := receive_handled surroundings remembers payload
        have exits := handled.exits
        have next := handled.remembers
        rw [Frame.payloads_of_some received, receiveAll_cons, Traced.sent_bind, handled.sent]
        rcases value : (server.receive surroundings payload).value with ⟨reason, after⟩
        rw [value] at exits next
        cases reason with
        | some reason =>
          refine ⟨[⟨payload, block⟩], .exit received (exits.mp rfl), ?_, ?_⟩
          · rw [List.flatMap_singleton]
            exact List.append_nil _
          · intro before exchange behind divided
            obtain ⟨rfl, rfl⟩ : before = [] ∧ exchange = ⟨payload, block⟩ := by
              cases before <;> simp_all
            rw [List.append_nil]
            exact handled.answers
        | none =>
          have stays : ¬ IsExit payload := fun exit => nomatch exits.mpr exit
          obtain ⟨exchanges, receives, sent, answers⟩ :=
            inductionHypothesis rest.length (sizeEq ▸ shorter) next rest rfl
          refine ⟨⟨payload, block⟩ :: exchanges, .more received stays receives, ?_, ?_⟩
          · rw [List.flatMap_cons, List.map_append, ← sent]
          · intro before exchange behind divided
            rcases List.cons_eq_append_iff.mp divided with ⟨rfl, first⟩ | ⟨others, rfl, rfl⟩
            · cases first
              rw [List.append_nil]
              exact handled.answers
            · rw [List.append_cons]
              exact answers others exchange behind rfl

/-- Nothing is sent when the loop has ended. -/
theorem run_sent (surroundings : Surroundings) (server : Server) (input : Bytes) :
    (server.run surroundings input).sent =
      (server.receiveAll surroundings (Frame.payloads input).1).sent := by
  rcases found : Frame.payloads input with ⟨payloads, ending⟩
  unfold run
  rw [found, Traced.sent_bind]
  rcases (server.receiveAll surroundings payloads).value with ⟨reason, after⟩
  cases reason with
  | some reason => exact List.append_nil _
  | none => cases ending <;> exact List.append_nil _

/-- Over any stream, the server writes one block of frames for each payload it receives, in order
and nothing else. The block of a payload that cannot be read is the error, without an identifier;
the block of a request is one response with the identifier of the request, and the error it is
refused with depends on the exchanges before it; and the only other block that is not empty is the
request to watch files. -/
theorem run_dialogue (surroundings : Surroundings) (input : Bytes) :
    ∃ exchanges : List Exchange,
      Receives input (exchanges.map Exchange.payload) ∧
        (Server.run surroundings {} input).frames =
          (exchanges.flatMap Exchange.block).map Outgoing.frame ∧
        ∀ before exchange behind, exchanges = before ++ exchange :: behind →
          Exchange.Answers before exchange := by
  obtain ⟨exchanges, receives, sent, answers⟩ :=
    receiveAll_exchanges surroundings remembers_nil input
  refine ⟨exchanges, receives, ?_, answers⟩
  rw [Traced.frames, run_sent, sent, List.map_map]
  rfl

end Server

end RippleServer
