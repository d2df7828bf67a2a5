/-
This file proves that a handshake that fails is reported once and in the words
the client reads. The session reports a failure where it fails, and the server
makes its answer out of what the session returns; both are done once for each
request to open the session that can be read, so over a whole run the reports
are the messages of these answers. Which of them fail is up to the sessions they
are made to: one that is not new, or one for which a stage of the handshake fails.
-/

import RippleServer.Proofs.Composition
import RippleServer.Proofs.InertTraffic

namespace RippleServer

/-! ### What the session reports -/

theorem Traced.Modest.reports_eq_nil {α : Type} {traced : Traced α} (modest : traced.Modest) :
    traced.reports = [] :=
  modest.filterMap_eq_nil fun event free => by cases event <;> first | rfl | cases free

/-- The context of a report and the words it has for the failure. -/
def Report.shown (report : Report) : String × String :=
  (report.context, report.error.message)

namespace Session

theorem compose_reports (surroundings : Surroundings) (session : Session)
    (params : InitializeParams) : (session.compose surroundings params).reports = [] := by
  have quiet := (Handshake.stages_modest surroundings params).reports_eq_nil
  rw [Traced.reports] at quiet ⊢
  rw [(compose_eq_stages surroundings session params fun _ _ => rfl).2, quiet]

/-- A handshake that fails reports its error, and one that succeeds reports nothing. -/
theorem establish_reports (surroundings : Surroundings) (session : Session)
    (params : InitializeParams) :
    (session.establish surroundings params).reports =
      match (session.establish surroundings params).value.1 with
      | .ok _ => []
      | .error error => [⟨reportContext, error⟩] := by
  by_cases new : session.state = .uninitialized
  · have quiet := compose_reports surroundings session params
    rw [Traced.reports] at quiet
    rcases composed : (session.compose surroundings params).value with ⟨outcome, reached⟩
    cases outcome with
    | ok server =>
      rw [establish_of_composed new composed, Traced.reports, List.filterMap_append, quiet]
      rfl
    | error error =>
      rw [establish_of_failed new composed, Traced.reports, List.filterMap_append, quiet]
      rfl
  · rw [establish_of_opened new]
    rfl

end Session

/-! ### What the client reads -/

namespace Exchange

/-- The error that answers a request to open the session, if it is answered with one. -/
def openingError? (exchange : Exchange) : Option Rpc.ResponseError :=
  match Rpc.Message.parse exchange.payload, exchange.block with
  | .ok (.request _ method _), [.response reply] =>
    if method = "initialize" then reply.error? else none
  | _, _ => none

/-- The message of an internal error that answers a request to open the session. -/
def fatal? (exchange : Exchange) : Option String :=
  exchange.openingError?.bind fun error => if error.code = -32603 then some error.message else none

/-- A message as the operator hears of it. -/
def inContext (message : String) : String × String :=
  ("Failed during onInitialize", message)

/-- The value that tells the client not to try again. -/
def noRetry : Json :=
  .obj [("retry", .bool false)]

/-- The block answers a request to open the session: parameters that cannot be read are refused,
and otherwise the answer is a result, or an internal error that tells the client not to try
again. -/
def AnswersOpening (id : Rpc.Id) (params : Json) (block : List Outgoing) : Prop :=
  match InitializeParams.ofJson params with
  | .error _ => ∃ error, block = [.response (.failure (some id) error)] ∧ error.code = -32602
  | .ok _ =>
    (∃ result, block = [.response (.success (some id) result)]) ∨
      ∃ error, block = [.response (.failure (some id) error)] ∧ error.code = -32603 ∧
        error.data = some noRetry

/-- The block tells what came of the handshake of a session, and an error came of it exactly if the
session was not new or a stage failed. -/
structure TellsOutcome (surroundings : Surroundings) (session : Session) (id : Rpc.Id)
    (opening : InitializeParams) (block : List Outgoing) : Prop where
  answer : block = [.response ⟨some id,
    Server.handshakeAnswer (session.establish surroundings opening).value.1⟩]
  fails : ∀ error, (session.establish surroundings opening).value.1 = .error error ↔
    session.Refuses surroundings opening error

theorem fatal?_of_not_request {exchange : Exchange}
    (other : ∀ id params,
      Rpc.Message.parse exchange.payload ≠ .ok (.request id "initialize" params)) :
    exchange.fatal? = none := by
  unfold fatal? openingError?
  split
  · rename_i id method params reply parsed _
    have notInitialize : method ≠ "initialize" := by
      rintro rfl
      exact other id params parsed
    rw [if_neg notInitialize]
    rfl
  · rfl

theorem fatal?_of_request {payload : Bytes} {id : Rpc.Id} {params : Json}
    (parsed : Rpc.Message.parse payload = .ok (.request id "initialize" params))
    (reply : Rpc.Response) :
    fatal? ⟨payload, [.response reply]⟩ =
      reply.error?.bind fun error => if error.code = -32603 then some error.message else none := by
  simp only [fatal?, openingError?, parsed, if_true]

end Exchange

namespace Server

variable {surroundings : Surroundings} {server : Server} {payload : Bytes} {id : Rpc.Id}
  {params : Json}

theorem block_of_request {method : String}
    (parsed : Rpc.Message.parse payload = .ok (.request id method params)) :
    server.block surroundings payload =
      [.response ⟨some id, (server.answer surroundings method params).value.1⟩] := by
  rw [block, parsed]

theorem block_of_read {opening : InitializeParams}
    (parsed : Rpc.Message.parse payload = .ok (.request id "initialize" params))
    (read : InitializeParams.ofJson params = .ok opening) :
    server.block surroundings payload =
      [.response ⟨some id,
        handshakeAnswer (server.session.establish surroundings opening).value.1⟩] := by
  rw [block_of_request parsed, answer_of_read surroundings server read]
  rfl

theorem block_of_unread {problem : Json.Problem}
    (parsed : Rpc.Message.parse payload = .ok (.request id "initialize" params))
    (unread : InitializeParams.ofJson params = .error problem) :
    server.block surroundings payload =
      [.response (.failure (some id)
        (.of .invalidParams ("invalid initialize params: " ++ problem.message)))] := by
  rw [block_of_request parsed, answer_of_unread surroundings server unread]
  rfl

theorem block_answersOpening (surroundings : Surroundings) (server : Server)
    (parsed : Rpc.Message.parse payload = .ok (.request id "initialize" params)) :
    Exchange.AnswersOpening id params (server.block surroundings payload) := by
  unfold Exchange.AnswersOpening
  cases read : InitializeParams.ofJson params with
  | error problem => exact ⟨_, block_of_unread parsed read, rfl⟩
  | ok opening =>
    rw [block_of_read parsed read]
    cases (server.session.establish surroundings opening).value.1 with
    | ok composed => exact .inl ⟨_, rfl⟩
    | error error => exact .inr ⟨_, rfl, rfl, rfl⟩

theorem block_tellsOutcome (surroundings : Surroundings) (server : Server)
    {opening : InitializeParams}
    (parsed : Rpc.Message.parse payload = .ok (.request id "initialize" params))
    (read : InitializeParams.ofJson params = .ok opening) :
    Exchange.TellsOutcome surroundings server.session id opening
      (server.block surroundings payload) :=
  ⟨block_of_read parsed read, fun _ => Session.establish_eq_error_iff⟩

/-- The answer is an internal error exactly if parameters that can be read did not lead to a
result. -/
theorem fatal?_isSome_iff (surroundings : Surroundings) (server : Server) (payload : Bytes) :
    (Exchange.fatal? ⟨payload, server.block surroundings payload⟩).isSome = true ↔
      AsksToOpen payload ∧ ¬ Exchange.Opens ⟨payload, server.block surroundings payload⟩ := by
  by_cases asks : ∃ id params, Rpc.Message.parse payload = .ok (.request id "initialize" params)
  · obtain ⟨id, params, parsed⟩ := asks
    cases read : InitializeParams.ofJson params with
    | error problem =>
      rw [block_of_unread parsed read, Exchange.fatal?_of_request parsed]
      refine ⟨nofun, ?_⟩
      rintro ⟨⟨id', params', opening, parsed', read'⟩, -⟩
      cases parsed.symm.trans parsed'
      cases read.symm.trans read'
    | ok opening =>
      rw [block_of_read parsed read, Exchange.fatal?_of_request parsed]
      cases (server.session.establish surroundings opening).value.1 with
      | ok composed =>
        exact ⟨nofun, fun failed => absurd ⟨⟨id, params, parsed⟩, some id, _, rfl⟩ failed.2⟩
      | error error =>
        refine ⟨fun _ => ⟨⟨id, params, opening, parsed, read⟩, ?_⟩, fun _ => rfl⟩
        rintro ⟨-, id', result, same⟩
        cases same
  · rw [Exchange.fatal?_of_not_request fun id params parsed => asks ⟨id, params, parsed⟩]
    refine ⟨nofun, ?_⟩
    rintro ⟨⟨id, params, opening, parsed, -⟩, -⟩
    exact absurd ⟨id, params, parsed⟩ asks

/-! ### One payload -/

theorem armWatch_reports (server : Server) : server.armWatch.reports = [] := by
  unfold armWatch
  rw [Traced.reports_bind, server.session.initialized_modest.reports_eq_nil]
  rcases server.session.initialized.value with ⟨outcome, session⟩
  rcases outcome with error | registration
  · rfl
  · cases registration <;> rfl

theorem openDocument_reports (server : Server) (params : Json) :
    (server.openDocument params).reports = [] := by
  unfold openDocument
  split
  · rfl
  · rename_i document read
    rw [Traced.reports_bind, (server.session.openDocument_modest document.uri).reports_eq_nil]
    rcases (server.session.openDocument document.uri).value with ⟨outcome, session⟩
    rcases outcome with error | project
    · rfl
    · cases project <;> rfl

theorem notice_reports (server : Server) (method : String) (params : Json) :
    (server.notice method params).reports = [] := by
  unfold notice
  split
  · rw [Traced.reports_bind, armWatch_reports]
    rfl
  · split
    · rfl
    · split
      · rw [Traced.reports_bind, openDocument_reports]
        rfl
      · rfl

/-- Only a request to open the session makes the server report anything. -/
theorem receive_reports_of_other (surroundings : Surroundings) (server : Server) {payload : Bytes}
    (other : ∀ id params, Rpc.Message.parse payload ≠ .ok (.request id "initialize" params)) :
    (server.receive surroundings payload).reports = [] := by
  cases parsed : Rpc.Message.parse payload with
  | error error => exact (Inert.unreadable parsed).passes.reports
  | ok message =>
    cases message with
    | response id result error => exact (Inert.response parsed).passes.reports
    | notification method params =>
      rw [receive, parsed]
      exact notice_reports server method params
    | request id method params =>
      have notInitialize : method ≠ "initialize" := by
        rintro rfl
        exact other id params parsed
      rw [receive_of_request surroundings server parsed, answer, if_neg notInitialize]
      split <;> rfl

/-- Handling a payload reports what the client is told in an internal error. -/
theorem receive_reports (surroundings : Surroundings) (server : Server) (payload : Bytes) :
    (server.receive surroundings payload).reports.map Report.shown =
      ((Exchange.fatal? ⟨payload, server.block surroundings payload⟩).map
        Exchange.inContext).toList := by
  by_cases asks : ∃ id params, Rpc.Message.parse payload = .ok (.request id "initialize" params)
  · obtain ⟨id, params, parsed⟩ := asks
    cases read : InitializeParams.ofJson params with
    | error problem =>
      rw [(Inert.malformed parsed read).passes.reports, block_of_unread parsed read,
        Exchange.fatal?_of_request parsed]
      rfl
    | ok opening =>
      have reports := server.session.establish_reports surroundings opening
      rw [Traced.reports] at reports
      rw [receive_of_request surroundings server parsed, answer_of_read surroundings server read,
        block_of_read parsed read, Exchange.fatal?_of_request parsed, Traced.reports,
        List.filterMap_append, Traced.events_map, reports]
      cases (server.session.establish surroundings opening).value.1 <;> rfl
  · have other := fun id params parsed => asks ⟨id, params, parsed⟩
    rw [receive_reports_of_other surroundings server other, Exchange.fatal?_of_not_request other]
    rfl

/-! ### Runs -/

theorem receiveAll_reports (surroundings : Surroundings) (server : Server)
    (payloads : List Bytes) :
    (server.receiveAll surroundings payloads).reports.map Report.shown =
      ((server.exchanges surroundings payloads).filterMap Exchange.fatal?).map
        Exchange.inContext := by
  induction payloads generalizing server with
  | nil => rfl
  | cons payload payloads inductionHypothesis =>
    have first := receive_reports surroundings server payload
    rw [Traced.reports] at first
    rcases value : (server.receive surroundings payload).value with ⟨reason, next⟩
    cases reason with
    | some reason =>
      rw [receiveAll_cons_of_some value, exchanges_cons_of_some value, Traced.reports, first,
        List.filterMap_cons]
      cases Exchange.fatal? _ <;> rfl
    | none =>
      have others := inductionHypothesis next
      rw [Traced.reports] at others
      rw [receiveAll_cons_of_none value, exchanges_cons_of_none value, Traced.reports,
        List.filterMap_append, List.map_append, first, others, List.filterMap_cons]
      cases Exchange.fatal? _ <;> rfl

/-- Every failed handshake is reported once, in the words the client reads. Over any run, what is
reported, always in the same context, are the messages of the internal errors that answer requests
to open the session, in order. There is one for each such request that can be read and does not
succeed, and it tells the client not to try again. Whether a request succeeds is told by the session
that the payloads before it lead to: it fails if the session is not new, or if one of the stages of
the handshake does. A request that cannot be read is refused, is not reported and leaves the server
as it was. -/
theorem run_reports_failures (surroundings : Surroundings) (server : Server) (input : Bytes) :
    let run := server.run surroundings input
    let exchanges := server.exchanges surroundings (Frame.payloads input).1
    run.frames = framesOf exchanges ∧
      (run.reports.map fun report => (report.context, report.error.message)) =
        (exchanges.filterMap Exchange.fatal?).map
          (fun message => ("Failed during onInitialize", message)) ∧
      (∀ exchange ∈ exchanges,
        (exchange.fatal?.isSome = true ↔ AsksToOpen exchange.payload ∧ ¬ exchange.Opens) ∧
        ∀ id params,
          Rpc.Message.parse exchange.payload = .ok (.request id "initialize" params) →
            Exchange.AnswersOpening id params exchange.block) ∧
      (∀ before exchange behind, exchanges = before ++ exchange :: behind →
        let reached := (server.receiveAll surroundings
          ((Frame.payloads input).1.take before.length)).value.2
        ∀ id params opening,
          Rpc.Message.parse exchange.payload = .ok (.request id "initialize" params) →
            InitializeParams.ofJson params = .ok opening →
              Exchange.TellsOutcome surroundings reached.session id opening exchange.block) ∧
      ∀ (reached : Server) (payload : Bytes) (id : Rpc.Id) (params : Json)
        (problem : Json.Problem),
        Rpc.Message.parse payload = .ok (.request id "initialize" params) →
          InitializeParams.ofJson params = .error problem →
            (reached.receive surroundings payload).value = (none, reached) ∧
              (reached.receive surroundings payload).reports = [] := by
  intro run exchanges
  refine ⟨run_frames surroundings server input, ?_, ?_, ?_, ?_⟩
  · have reports := receiveAll_reports surroundings server (Frame.payloads input).1
    rwa [← run_reports] at reports
  · intro exchange member
    obtain ⟨reached, payload, rfl⟩ := exists_of_mem_exchanges member
    refine ⟨fatal?_isSome_iff surroundings reached payload, fun id params parsed => ?_⟩
    exact block_answersOpening surroundings reached parsed
  · intro before exchange behind divided reached id params opening parsed read
    obtain ⟨next, early, given, -⟩ := receiveAll_of_exchange divided
    have same : reached = next := congrArg Prod.snd early
    rw [given, same]
    exact block_tellsOutcome surroundings next parsed read
  · intro reached payload id params problem parsed unread
    have passes : reached.Passes (reached.receive surroundings payload) :=
      (Inert.malformed parsed unread).passes
    exact ⟨passes.value, passes.reports⟩

end Server

end RippleServer
