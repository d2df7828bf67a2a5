/-
This file tells what a server still does after it was told to shut down. It
remembers the request and refuses whatever it is asked for from then on, with
one exception: the request to open the session is answered before anybody looks
whether the server is shutting down. So the server is closed to new work exactly
as long as nobody asks it to open the session.
-/

import RippleServer.Proofs.Coherence
import RippleServer.Proofs.FailureReports
import RippleServer.Proofs.MessageRoundTrip

namespace RippleServer

theorem Exchange.asks_iff_of_request {exchange : Exchange} {id : Rpc.Id} {method : String}
    {params : Json}
    (parsed : Rpc.Message.parse exchange.payload = .ok (.request id method params))
    (other : String) : exchange.Asks other ↔ method = other := by
  refine ⟨?_, fun same => ⟨id, params, same ▸ parsed⟩⟩
  rintro ⟨id', params', read⟩
  cases parsed.symm.trans read
  rfl

namespace Server

variable {surroundings : Surroundings} {server : Server} {payload : Bytes}

/-! ### Sessions that are not opened -/

theorem armWatch_growsTo (server : Server) :
    server.session.GrowsTo server.armWatch.value.session := by
  have grows := server.session.initialized_growsTo
  unfold armWatch
  rcases value : server.session.initialized.value with ⟨outcome, session⟩
  rw [value] at grows
  rw [Traced.value_bind, value]
  rcases outcome with error | registration
  · exact grows
  · cases registration <;> exact grows

/-- Only a request to open the session does more to it than let it grow. -/
theorem receive_growsTo (surroundings : Surroundings) (server : Server) {exchange : Exchange}
    (other : ¬ exchange.Asks "initialize") :
    server.session.GrowsTo (server.receive surroundings exchange.payload).value.2.session := by
  have becomes := receive_becomes surroundings server exchange.payload
  generalize (server.receive surroundings exchange.payload).value.2 = next at becomes ⊢
  cases becomes with
  | same => exact .refl server.session
  | shutDown => exact .refl server.session
  | opened parsed => exact absurd ⟨_, _, parsed⟩ other
  | ready => exact armWatch_growsTo server
  | document => exact server.session.openDocument_growsTo _

/-! ### The memory of a shutdown -/

theorem receive_shutdownRequested (surroundings : Surroundings) (server : Server)
    (payload : Bytes) (block : List Outgoing) :
    (server.receive surroundings payload).value.2.shutdownRequested = true ↔
      server.shutdownRequested = true ∨ Exchange.Asks ⟨payload, block⟩ "shutdown" := by
  cases parsed : Rpc.Message.parse payload with
  | error error =>
    rw [(Inert.unreadable parsed).passes.value, or_iff_left (not_asks parsed nofun block _)]
  | ok message =>
    cases message with
    | response id result error =>
      rw [(Inert.response parsed).passes.value, or_iff_left (not_asks parsed nofun block _)]
    | notification method params =>
      rw [or_iff_left (not_asks parsed nofun block _), receive, parsed]
      exact (notice_keeps server method params).shutdownRequested ▸ Iff.rfl
    | request id method params =>
      rw [receive_of_request surroundings server parsed, Exchange.asks_iff_of_request parsed]
      exact answer_shutdownRequested surroundings server method params

/-- The server remembers exactly whether it was told to shut down. -/
theorem receiveAll_shutdownRequested (surroundings : Surroundings) (server : Server)
    (payloads : List Bytes) :
    (server.receiveAll surroundings payloads).value.2.shutdownRequested = true ↔
      server.shutdownRequested = true ∨
        ∃ exchange ∈ server.exchanges surroundings payloads, exchange.Asks "shutdown" := by
  induction payloads generalizing server with
  | nil => simp [receiveAll, exchanges]
  | cons payload payloads inductionHypothesis =>
    have step := receive_shutdownRequested surroundings server payload
      (server.block surroundings payload)
    rcases value : (server.receive surroundings payload).value with ⟨reason, next⟩
    rw [value] at step
    cases reason with
    | some reason =>
      rw [receiveAll_cons_of_some value, exchanges_cons_of_some value, step]
      simp only [List.mem_singleton, exists_eq_left]
    | none =>
      rw [receiveAll_cons_of_none value, exchanges_cons_of_none value, inductionHypothesis, step]
      simp only [List.mem_cons, or_and_right, exists_or, exists_eq_left, or_assoc]

/-! ### The server an exchange takes place with -/

/-- The server after some number of the payloads of a stream. -/
def reached (surroundings : Surroundings) (input : Bytes) (count : Nat) : Server :=
  (Server.receiveAll surroundings {} ((Frame.payloads input).1.take count)).value.2

theorem shutdownRequested_of_exchanges {payloads : List Bytes} {before behind : List Exchange}
    (divided : Server.exchanges surroundings {} payloads = before ++ behind)
    (shutDown : ∃ earlier ∈ before, earlier.Asks "shutdown") :
    (Server.receiveAll surroundings {}
      (payloads.take before.length)).value.2.shutdownRequested = true := by
  rw [receiveAll_shutdownRequested, exchanges_take, divided, List.take_left]
  exact .inr shutDown

/-- The loop has ended by the time the last exchange has taken place. -/
theorem receiveAll_take_length_exchanges (surroundings : Surroundings) (server : Server)
    (payloads : List Bytes) :
    server.receiveAll surroundings
        (payloads.take (server.exchanges surroundings payloads).length) =
      server.receiveAll surroundings payloads := by
  induction payloads generalizing server with
  | nil => rfl
  | cons payload payloads inductionHypothesis =>
    rcases value : (server.receive surroundings payload).value with ⟨reason, next⟩
    cases reason with
    | some reason =>
      rw [exchanges_cons_of_some value, List.length_singleton, List.take_succ_cons,
        receiveAll_cons_of_some value, receiveAll_cons_of_some value]
    | none =>
      rw [exchanges_cons_of_none value, List.length_cons, List.take_succ_cons,
        receiveAll_cons_of_none value, receiveAll_cons_of_none value, inductionHypothesis]

theorem run_server (surroundings : Surroundings) (input : Bytes) :
    (Server.run surroundings {} input).value.2 =
      reached surroundings input
        (Server.exchanges surroundings {} (Frame.payloads input).1).length := by
  rw [reached, receiveAll_take_length_exchanges]
  rcases found : Frame.payloads input with ⟨payloads, ending⟩
  unfold run
  rw [found, Traced.value_bind]
  rcases (Server.receiveAll surroundings {} payloads).value with ⟨reason, after⟩
  cases reason with
  | some reason => rfl
  | none => cases ending <;> rfl

/-! ### Closed to new work -/

/-- A server that is closed to new work: a request is refused, unless it asks once more for the
shutdown, and the session stays where it is. -/
structure TurnsAway (before after : Server) (exchange : Exchange) : Prop where
  refused : ∀ id method params,
    Rpc.Message.parse exchange.payload = .ok (.request id method params) → method ≠ "shutdown" →
      exchange.block =
        [.response (.failure (some id) (.of .invalidRequest "server is shutting down"))]
  state : after.session.state = before.session.state
  composed : after.session.server.isSome = before.session.server.isSome

section OneExchange

variable {exchange : Exchange}

/-- A request to open the session is never refused because of the shutdown: whatever the answer
says, it says it of the session. -/
theorem not_turnsAway_of_asks {before after : Server}
    (given : exchange.block = server.block surroundings exchange.payload)
    (asks : exchange.Asks "initialize") : ¬ TurnsAway before after exchange := by
  intro closed
  obtain ⟨id, params, parsed⟩ := asks
  have answers := block_answersOpening surroundings server parsed
  rw [← given, closed.refused id "initialize" params parsed (by decide),
    Exchange.AnswersOpening] at answers
  -- None of the answers to such a request has the code of the refusal.
  split at answers
  · obtain ⟨error, same, code⟩ := answers
    cases same
    cases code
  · obtain ⟨result, same⟩ | ⟨error, same, code, -⟩ := answers
    · cases same
    · cases same
      cases code

theorem turnsAway_of_not_asks (requested : server.shutdownRequested = true)
    (given : exchange.block = server.block surroundings exchange.payload)
    (other : ¬ exchange.Asks "initialize") :
    TurnsAway server (server.receive surroundings exchange.payload).value.2 exchange := by
  have grows := receive_growsTo surroundings server other
  refine ⟨fun id method params parsed notShutdown => ?_, grows.state, grows.isSome_server⟩
  rw [Exchange.asks_iff_of_request parsed] at other
  rw [given, block_of_request parsed, answer_of_other surroundings server other notShutdown,
    refusal, if_pos requested]
  rfl

/-- Once it was told to shut down, a server turns away exactly what does not ask it to open the
session. -/
theorem turnsAway_iff (requested : server.shutdownRequested = true)
    (given : exchange.block = server.block surroundings exchange.payload) :
    TurnsAway server (server.receive surroundings exchange.payload).value.2 exchange ↔
      ¬ exchange.Asks "initialize" :=
  ⟨fun closed asks => not_turnsAway_of_asks given asks closed,
    turnsAway_of_not_asks requested given⟩

end OneExchange

/-- Over a whole run, the server turns away every exchange after one that asks for a shutdown. -/
def ClosedAfterShutdown (surroundings : Surroundings) (input : Bytes) : Prop :=
  ∀ before exchange behind,
    Server.exchanges surroundings {} (Frame.payloads input).1 = before ++ exchange :: behind →
      (∃ earlier ∈ before, earlier.Asks "shutdown") →
        TurnsAway (reached surroundings input before.length)
          (reached surroundings input (before.length + 1)) exchange

/-- After a shutdown the server turns away whatever it is sent, until the loop ends, but for
requests to open the session. These it answers as if nobody had asked for a shutdown: parameters
that cannot be read are refused, and otherwise the answer is a result or an internal error. -/
theorem run_after_shutdown (surroundings : Surroundings) (input : Bytes) :
    let exchanges := Server.exchanges surroundings {} (Frame.payloads input).1
    (Server.run surroundings {} input).frames = framesOf exchanges ∧
      (Server.run surroundings {} input).value.2 = reached surroundings input exchanges.length ∧
      (∀ before exchange behind, exchanges = before ++ exchange :: behind →
        (∃ earlier ∈ before, earlier.Asks "shutdown") →
          (TurnsAway (reached surroundings input before.length)
              (reached surroundings input (before.length + 1)) exchange ↔
            ¬ exchange.Asks "initialize") ∧
          ∀ id params,
            Rpc.Message.parse exchange.payload = .ok (.request id "initialize" params) →
              Exchange.AnswersOpening id params exchange.block) := by
  intro exchanges
  refine ⟨run_frames surroundings {} input, run_server surroundings input, ?_⟩
  intro before exchange behind divided shutDown
  have requested := shutdownRequested_of_exchanges divided shutDown
  obtain ⟨server, early, given, late⟩ := receiveAll_of_exchange divided
  rw [early] at requested
  rw [reached, reached, early, late]
  refine ⟨turnsAway_iff requested given, fun id params parsed => ?_⟩
  rw [given]
  exact block_answersOpening surroundings server parsed

/-- A client that asks for a shutdown and then to open the session, as if it were the first thing it
asks for: the session is opened. -/
theorem not_closedAfterShutdown_of_reopened :
    let surroundings : Surroundings :=
      ⟨⟨fun path => .ok { path }, fun path => .error (.notFound path)⟩,
        .directory (some ⟨"/extension"⟩),
        ⟨[("RIPPLE_COMPILER_PATH", Text.encode "/ripple"), ("TSDK_PATH", Text.encode "/ts")]⟩⟩
    let shutdown := Text.encode "\x7b\"id\":1,\"method\":\"shutdown\"\x7d"
    let opening := (Rpc.Request.toJson
      ⟨.number 2, "initialize", .obj [("capabilities", .obj [])]⟩).bytes
    let input := [shutdown, opening].flatMap Frame.encode
    ¬ ClosedAfterShutdown surroundings input ∧
      (reached surroundings input 1).session.state = .uninitialized ∧
      (reached surroundings input 2).session.state = .ready := by
  intro surroundings shutdown opening input
  have payloads : Frame.payloads input = ([shutdown, opening], .ok ()) :=
    Frame.payloads_flatMap_encode (by decide +kernel)
  have asksShutdown : Rpc.Message.parse (Text.encode "\x7b\"id\":1,\"method\":\"shutdown\"\x7d") =
      .ok (.request (.number 1) "shutdown" .null) :=
    Rpc.Message.eq_request_of_isBare (by decide +kernel)
  have asksOpening : Rpc.Message.parse opening =
      .ok (.request (.number 2) "initialize" (.obj [("capabilities", .obj [])])) :=
    Rpc.Message.parse_request ⟨by decide, by decide⟩ (Json.exact_obj_nil.obj_singleton _)
      (by decide)
  have first : (Server.receive surroundings {} shutdown).value =
      (none, { shutdownRequested := true }) :=
    congrArg Traced.value (receive_of_request surroundings {} asksShutdown)
  have second : (Server.receive surroundings { shutdownRequested := true } opening).value =
      (none, { session := (Session.establish surroundings {} {}).value.2,
               shutdownRequested := true }) := by
    have read : InitializeParams.ofJson (.obj [("capabilities", .obj [])]) = .ok {} := rfl
    rw [receive_of_request surroundings _ asksOpening, answer_of_read surroundings _ read]
    rfl
  have exchanges : Server.exchanges surroundings {} (Frame.payloads input).1 =
      [⟨shutdown, Server.block surroundings {} shutdown⟩,
        ⟨opening, Server.block surroundings { shutdownRequested := true } opening⟩] := by
    rw [payloads, exchanges_cons_of_none first, exchanges_cons_of_none second]
    rfl
  refine ⟨fun closed => ?_, ?_, ?_⟩
  · have turnedAway := closed [_] _ [] exchanges
      ⟨_, List.mem_singleton_self _, .number 1, .null, asksShutdown⟩
    exact not_turnsAway_of_asks rfl ⟨.number 2, _, asksOpening⟩ turnedAway
  · rw [reached, payloads, List.take_succ_cons, receiveAll_cons_of_none first]
    rfl
  · rw [reached, payloads, List.take_succ_cons, receiveAll_cons_of_none first, List.take_succ_cons,
      receiveAll_cons_of_none second]
    decide +kernel

end Server

end RippleServer
