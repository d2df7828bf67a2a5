/-
This file proves that traffic the server has no use for does not interfere. A
payload is inert for a server if the server ignores it or refuses it: handling
it changes nothing, reports nothing and does not end the loop, so the server
behind it is the server in front of it. Two runs that differ only in inert
payloads therefore agree in everything but the answers to these.
-/

import RippleServer.Proofs.Exchanges
import RippleServer.Proofs.FrameRoundTrip

namespace RippleServer.Server

/-! ### Inert payloads -/

/-- The payloads a server ignores or refuses. -/
inductive Inert (server : Server) (payload : Bytes) : Prop
  /-- It cannot be read. -/
  | unreadable {error : Rpc.ResponseError} (parsed : Rpc.Message.parse payload = .error error)
  /-- It answers a request of the server. -/
  | response {id : Option Rpc.Id} {result : Option Json} {error : Option Rpc.ResponseError}
    (parsed : Rpc.Message.parse payload = .ok (.response id result error))
  /-- It is a notification that no part of the server listens to. -/
  | unheard {method : String} {params : Json}
    (parsed : Rpc.Message.parse payload = .ok (.notification method params))
    (notExit : method ≠ "exit") (notInitialized : method ≠ "initialized")
    (notOpened : method ≠ "textDocument/didOpen")
  /-- It is a request for a feature. -/
  | refused {id : Rpc.Id} {method : String} {params : Json}
    (parsed : Rpc.Message.parse payload = .ok (.request id method params))
    (notInitialize : method ≠ "initialize") (notShutdown : method ≠ "shutdown")
  /-- It asks to open the session with parameters that are none. -/
  | malformed {id : Rpc.Id} {params : Json} {problem : Json.Problem}
    (parsed : Rpc.Message.parse payload = .ok (.request id "initialize" params))
    (unread : InitializeParams.ofJson params = .error problem)
  /-- It is a notification for a session that is not ready. -/
  | early {method : String} {params : Json}
    (parsed : Rpc.Message.parse payload = .ok (.notification method params))
    (listened : method = "initialized" ∨ method = "textDocument/didOpen")
    (unready : server.session.state ≠ .ready)

end Server

/-! ### Handling them -/

namespace Session

variable {session : Session}

theorem ready_of_ne (unready : session.state ≠ .ready) :
    session.ready = .error (.notReady session.state) := by
  unfold ready
  split
  · rename_i isReady _
    exact absurd isReady unready
  · rfl

theorem initialized_of_ne (unready : session.state ≠ .ready) :
    session.initialized = pure (.error (.notReady session.state), session) := by
  rw [initialized, ready_of_ne unready]

theorem openDocument_of_ne (unready : session.state ≠ .ready) (uri : Uri) :
    session.openDocument uri = pure (.error (.notReady session.state), session) := by
  rw [openDocument, ready_of_ne unready]

end Session

namespace Server

/-- A step that leaves the server as it is, goes on, and reports nothing. -/
structure Passes (server : Server) (step : Traced (Option ExitReason × Server)) : Prop where
  value : step.value = (none, server)
  reports : step.reports = []

variable {surroundings : Surroundings} {server : Server} {payload : Bytes}

theorem armWatch_of_ne (unready : server.session.state ≠ .ready) :
    server.armWatch = ⟨server, [.initializedIgnored (.notReady server.session.state)]⟩ := by
  rw [armWatch, Session.initialized_of_ne unready]
  rfl

theorem openDocument_of_ne (unready : server.session.state ≠ .ready) (params : Json) :
    (server.openDocument params).value = server ∧ (server.openDocument params).reports = [] := by
  unfold openDocument
  split
  · exact ⟨rfl, rfl⟩
  · rw [Session.openDocument_of_ne unready]
    exact ⟨rfl, rfl⟩

theorem notice_passes_of_ne (unready : server.session.state ≠ .ready) {method : String}
    (notExit : method ≠ "exit") (params : Json) : server.Passes (server.notice method params) := by
  unfold notice
  by_cases initialized : method = "initialized"
  · rw [if_pos initialized, armWatch_of_ne unready]
    exact ⟨rfl, rfl⟩
  · rw [if_neg initialized, if_neg notExit]
    split
    · obtain ⟨value, reports⟩ := openDocument_of_ne unready params
      refine ⟨?_, ?_⟩
      · rw [Traced.value_bind, value]
        rfl
      · rw [Traced.reports_bind, reports]
        rfl
    · exact ⟨rfl, rfl⟩

theorem notice_passes_of_unheard {method : String} (notExit : method ≠ "exit")
    (notInitialized : method ≠ "initialized") (notOpened : method ≠ "textDocument/didOpen")
    (params : Json) : server.Passes (server.notice method params) := by
  rw [notice, if_neg notInitialized, if_neg notExit, if_neg notOpened]
  exact ⟨rfl, rfl⟩

/-- An inert payload passes the server by. -/
theorem Inert.passes (inert : server.Inert payload) :
    server.Passes (server.receive surroundings payload) := by
  unfold receive
  cases inert with
  | unreadable parsed =>
    rw [parsed]
    exact ⟨rfl, rfl⟩
  | @response id result error parsed =>
    rw [parsed]
    cases error <;> exact ⟨rfl, rfl⟩
  | unheard parsed notExit notInitialized notOpened =>
    rw [parsed]
    exact notice_passes_of_unheard notExit notInitialized notOpened _
  | refused parsed notInitialize notShutdown =>
    rw [parsed]
    show server.Passes (server.answer surroundings _ _ >>= _)
    rw [answer, if_neg notInitialize, if_neg notShutdown]
    exact ⟨rfl, rfl⟩
  | malformed parsed unread =>
    rw [parsed]
    show server.Passes (server.answer surroundings _ _ >>= _)
    rw [answer_of_unread surroundings server unread]
    exact ⟨rfl, rfl⟩
  | early parsed listened unready =>
    rw [parsed]
    refine notice_passes_of_ne unready ?_ _
    rcases listened with rfl | rfl <;> decide

end Server

/-! ### Thinning a run -/

/-- A payload, and whether it stays when a run is thinned out. -/
structure Delivery where
  payload : Bytes
  kept : Bool

/-- The payloads that stay. -/
def keptPayloads (deliveries : List Delivery) : List Bytes :=
  (deliveries.filter Delivery.kept).map Delivery.payload

/-- The exchanges of the payloads that stay. -/
def keptExchanges (deliveries : List Delivery) (exchanges : List Exchange) : List Exchange :=
  ((deliveries.zip exchanges).filter fun pair => pair.1.kept).map Prod.snd

namespace Server

/-- Every payload that does not stay is inert when it arrives. -/
def DropsInert (surroundings : Surroundings) (server : Server) (deliveries : List Delivery) :
    Prop :=
  ∀ before delivery behind, deliveries = before ++ delivery :: behind → delivery.kept = false →
    ∀ reached : Server,
      (server.receiveAll surroundings (before.map Delivery.payload)).value = (none, reached) →
        reached.Inert delivery.payload

variable {surroundings : Surroundings} {server : Server}

theorem dropsInert_nil : server.DropsInert surroundings [] := by
  intro before delivery behind divided
  exact absurd divided.symm (List.append_ne_nil_of_right_ne_nil before (List.cons_ne_nil _ _))

/-- What stays and what goes is decided payload by payload, along the run of all of them. -/
theorem dropsInert_cons_iff {delivery : Delivery} {rest : List Delivery} :
    server.DropsInert surroundings (delivery :: rest) ↔
      (delivery.kept = false → server.Inert delivery.payload) ∧
        ∀ next, (server.receive surroundings delivery.payload).value = (none, next) →
          next.DropsInert surroundings rest := by
  constructor
  · intro drops
    refine ⟨fun dropped => drops [] delivery rest rfl dropped server rfl, ?_⟩
    intro next goesOn before later behind divided dropped reached value
    refine drops (delivery :: before) later behind (congrArg (delivery :: ·) divided) dropped
      reached ?_
    rw [List.map_cons, receiveAll_cons_of_none goesOn]
    exact value
  · rintro ⟨head, tail⟩ before later behind divided dropped reached value
    rcases List.cons_eq_append_iff.mp divided with ⟨rfl, first⟩ | ⟨others, rfl, rfl⟩
    · cases first
      cases value
      exact head dropped
    · rw [List.map_cons] at value
      rcases step : (server.receive surroundings delivery.payload).value with ⟨reason, next⟩
      cases reason with
      | some reason =>
        rw [receiveAll_cons_of_some step] at value
        cases value
      | none =>
        rw [receiveAll_cons_of_none step] at value
        exact tail next step others later behind rfl dropped reached value

theorem receiveAll_of_passes {payload : Bytes} (passes : server.Passes
    (server.receive surroundings payload)) (rest : List Bytes) :
    (server.receiveAll surroundings (payload :: rest)).value =
        (server.receiveAll surroundings rest).value ∧
      (server.receiveAll surroundings (payload :: rest)).reports =
        (server.receiveAll surroundings rest).reports := by
  have reports := passes.reports
  rw [Traced.reports] at reports
  rw [receiveAll_cons_of_none passes.value, Traced.reports, List.filterMap_append, reports]
  exact ⟨rfl, rfl⟩

/-- Without its inert payloads, the loop does the same to the server, reports the same, and has the
exchanges of the payloads that stay. -/
theorem receiveAll_of_thinned {deliveries : List Delivery}
    (drops : server.DropsInert surroundings deliveries) :
    (server.receiveAll surroundings (keptPayloads deliveries)).value =
        (server.receiveAll surroundings (deliveries.map Delivery.payload)).value ∧
      (server.receiveAll surroundings (keptPayloads deliveries)).reports =
        (server.receiveAll surroundings (deliveries.map Delivery.payload)).reports ∧
      server.exchanges surroundings (keptPayloads deliveries) =
        keptExchanges deliveries
          (server.exchanges surroundings (deliveries.map Delivery.payload)) := by
  induction deliveries generalizing server with
  | nil => exact ⟨rfl, rfl, rfl⟩
  | cons delivery deliveries inductionHypothesis =>
    obtain ⟨payload, kept⟩ := delivery
    obtain ⟨head, tail⟩ := dropsInert_cons_iff.mp drops
    cases kept with
    | false =>
      have passes : server.Passes (server.receive surroundings payload) := (head rfl).passes
      obtain ⟨value, reports, exchanges⟩ := inductionHypothesis (tail server passes.value)
      obtain ⟨sameValue, sameReports⟩ :=
        receiveAll_of_passes passes (deliveries.map Delivery.payload)
      rw [List.map_cons, sameValue, sameReports, exchanges_cons_of_none passes.value]
      exact ⟨value, reports, exchanges⟩
    | true =>
      show (server.receiveAll surroundings (payload :: keptPayloads deliveries)).value = _ ∧
        (server.receiveAll surroundings (payload :: keptPayloads deliveries)).reports = _ ∧
        server.exchanges surroundings (payload :: keptPayloads deliveries) = _
      rcases step : (server.receive surroundings payload).value with ⟨reason, next⟩
      cases reason with
      | some reason =>
        rw [List.map_cons, receiveAll_cons_of_some step, receiveAll_cons_of_some step,
          exchanges_cons_of_some step, exchanges_cons_of_some step]
        refine ⟨rfl, rfl, ?_⟩
        rw [keptExchanges, List.zip_cons_cons, List.zip_nil_right]
        rfl
      | none =>
        obtain ⟨value, reports, exchanges⟩ := inductionHypothesis (tail next step)
        rw [List.map_cons, receiveAll_cons_of_none step, receiveAll_cons_of_none step,
          exchanges_cons_of_none step, exchanges_cons_of_none step, Traced.reports, Traced.reports,
          List.filterMap_append, List.filterMap_append]
        refine ⟨value, congrArg (_ ++ ·) reports, ?_⟩
        rw [exchanges]
        rfl

/-! ### Traffic before the first handshake -/

/-- A session that has stayed in its state, and unless that is ready, is the same. -/
structure StaysClosed (before after : Session) : Prop where
  state : after.state = before.state
  session : before.state ≠ .ready → after = before

theorem StaysClosed.refl (session : Session) : StaysClosed session session :=
  ⟨rfl, fun _ => rfl⟩

theorem StaysClosed.trans {first second third : Session} (early : StaysClosed first second)
    (late : StaysClosed second third) : StaysClosed first third :=
  ⟨late.state.trans early.state, fun unready =>
    (late.session (early.state ▸ unready)).trans (early.session unready)⟩

/-- Whatever is no exit and does not open the session leaves it closed. -/
theorem receive_of_early (surroundings : Surroundings) (server : Server) {payload : Bytes}
    (stays : ¬ IsExit payload) (closed : ¬ AsksToOpen payload) :
    ∃ next, (server.receive surroundings payload).value = (none, next) ∧
      StaysClosed server.session next.session := by
  cases parsed : Rpc.Message.parse payload with
  | error error => exact ⟨server, (Inert.unreadable parsed).passes.value, .refl _⟩
  | ok message =>
    cases message with
    | response id result error =>
      exact ⟨server, (Inert.response parsed).passes.value, .refl _⟩
    | request id method params =>
      rw [receive_of_request surroundings server parsed]
      refine ⟨_, rfl, ?_⟩
      by_cases opens : method = "initialize"
      · subst opens
        cases read : InitializeParams.ofJson params with
        | ok opening => exact absurd ⟨id, params, opening, parsed, read⟩ closed
        | error problem =>
          rw [answer_of_unread surroundings server read]
          exact .refl _
      · rw [answer, if_neg opens]
        split <;> exact .refl _
    | notification method params =>
      have notExit : method ≠ "exit" := fun exits => stays ⟨params, exits ▸ parsed⟩
      rw [receive, parsed]
      show ∃ next, (server.notice method params).value = (none, next) ∧ _
      have goesOn : (server.notice method params).value.1 = none :=
        Option.not_isSome_iff_eq_none.mp (mt (notice_exits server method params).mp notExit)
      refine ⟨_, Prod.ext goesOn rfl, (notice_keeps server method params).state, fun unready => ?_⟩
      rw [(notice_passes_of_ne unready notExit params).value]

theorem receiveAll_of_early (surroundings : Surroundings) (server : Server)
    {payloads : List Bytes}
    (early : ∀ payload ∈ payloads, ¬ IsExit payload ∧ ¬ AsksToOpen payload) :
    ∃ reached, (server.receiveAll surroundings payloads).value = (none, reached) ∧
      StaysClosed server.session reached.session := by
  induction payloads generalizing server with
  | nil => exact ⟨server, rfl, .refl _⟩
  | cons payload payloads inductionHypothesis =>
    obtain ⟨⟨stays, closed⟩, others⟩ := List.forall_mem_cons.mp early
    obtain ⟨next, value, first⟩ := receive_of_early surroundings server stays closed
    obtain ⟨reached, rest, later⟩ := inductionHypothesis next others
    rw [receiveAll_cons_of_none value]
    exact ⟨reached, rest, first.trans later⟩

/-- Two servers open their sessions alike: with the same events, the answer among them, to the same
state, and unless they were ready before, to the same session. -/
structure OpensAlike (surroundings : Surroundings) (server other : Server) (payload : Bytes) :
    Prop where
  events : (other.receive surroundings payload).events =
    (server.receive surroundings payload).events
  state : (other.receive surroundings payload).value.2.session.state =
    (server.receive surroundings payload).value.2.session.state
  session : server.session.state ≠ .ready →
    (other.receive surroundings payload).value.2.session =
      (server.receive surroundings payload).value.2.session

theorem StaysClosed.opensAlike {other : Server}
    (closed : StaysClosed server.session other.session) {payload : Bytes}
    (asks : AsksToOpen payload) : OpensAlike surroundings server other payload := by
  obtain ⟨id, params, opening, parsed, read⟩ := asks
  have one := receive_of_request surroundings server parsed
  have two := receive_of_request surroundings other parsed
  rw [answer_of_read surroundings server read] at one
  rw [answer_of_read surroundings other read] at two
  by_cases ready : server.session.state = .ready
  · have opened : server.session.state ≠ .uninitialized := by
      rw [ready]
      decide
    have openedToo : other.session.state ≠ .uninitialized := by
      rw [closed.state]
      exact opened
    rw [Session.establish_of_opened opened] at one
    rw [Session.establish_of_opened openedToo, closed.state] at two
    refine ⟨?_, ?_, fun unready => absurd ready unready⟩
    · rw [one, two]
      rfl
    · rw [one, two]
      exact closed.state
  · rw [closed.session ready] at two
    refine ⟨?_, ?_, fun _ => ?_⟩ <;> rw [one, two] <;> rfl

/-! ### Runs -/

/-- Inert payloads do not interfere. Take any stream and another one that has the same payloads in
the same order but for some that are inert when they arrive. The frames written to the second are
those of the exchanges that stay; both runs end alike, with the same server and the same reports.
And a session that is opened after any traffic is opened as if there had been none. -/
theorem run_of_thinned (surroundings : Surroundings) (server : Server)
    {deliveries : List Delivery} (drops : server.DropsInert surroundings deliveries)
    {whole thinned : Bytes} {ending : Except Frame.Error Unit}
    (wholePayloads : Frame.payloads whole = (deliveries.map Delivery.payload, ending))
    (thinnedPayloads : Frame.payloads thinned = (keptPayloads deliveries, ending)) :
    let exchanges := server.exchanges surroundings (deliveries.map Delivery.payload)
    (server.run surroundings whole).frames = framesOf exchanges ∧
      (server.run surroundings thinned).frames = framesOf (keptExchanges deliveries exchanges) ∧
      (server.run surroundings thinned).value = (server.run surroundings whole).value ∧
      (server.run surroundings thinned).reports = (server.run surroundings whole).reports ∧
      ∀ (traffic : List Bytes) (payload : Bytes),
        (∀ early ∈ traffic, ¬ IsExit early ∧ ¬ AsksToOpen early) → AsksToOpen payload →
          ∃ reached, (server.receiveAll surroundings traffic).value = (none, reached) ∧
            OpensAlike surroundings server reached payload := by
  intro exchanges
  obtain ⟨value, reports, sameExchanges⟩ := receiveAll_of_thinned drops
  refine ⟨?_, ?_, ?_, ?_, ?_⟩
  · rw [run_frames, wholePayloads]
  · rw [run_frames, thinnedPayloads, sameExchanges]
  · rw [run, run, wholePayloads, thinnedPayloads, Traced.value_bind, Traced.value_bind, value]
  · rw [run_reports, run_reports, wholePayloads, thinnedPayloads, reports]
  · intro traffic payload early asks
    obtain ⟨reached, reachedValue, closed⟩ := receiveAll_of_early surroundings server early
    exact ⟨reached, reachedValue, closed.opensAlike asks⟩

/-- A client that is ready too early and asks for a feature after it has asked for a shutdown: the
server would end the same way without either. -/
theorem run_of_thinned_around_shutdown :
    let surroundings : Surroundings :=
      ⟨⟨fun path => .ok { path }, fun path => .error (.notFound path)⟩, .directory none, ⟨[]⟩⟩
    let deliveries : List Delivery :=
      [⟨Text.encode "\x7b\"method\":\"initialized\"\x7d", false⟩,
        ⟨Text.encode "\x7b\"id\":1,\"method\":\"shutdown\"\x7d", true⟩,
        ⟨Text.encode "\x7b\"id\":2,\"method\":\"hover\"\x7d", false⟩,
        ⟨Text.encode "\x7b\"method\":\"exit\"\x7d", true⟩]
    let whole := (deliveries.map Delivery.payload).flatMap Frame.encode
    let thinned := (keptPayloads deliveries).flatMap Frame.encode
    Server.DropsInert surroundings {} deliveries ∧
      Frame.payloads whole = (deliveries.map Delivery.payload, .ok ()) ∧
      Frame.payloads thinned = (keptPayloads deliveries, .ok ()) ∧
      (Server.run surroundings {} thinned).frames =
        framesOf (keptExchanges deliveries
          (Server.exchanges surroundings {} (deliveries.map Delivery.payload))) ∧
      (Server.run surroundings {} thinned).value = (Server.run surroundings {} whole).value ∧
      (Server.run surroundings {} thinned).reports =
        (Server.run surroundings {} whole).reports := by
  intro surroundings deliveries whole thinned
  have early : Rpc.Message.parse (Text.encode "\x7b\"method\":\"initialized\"\x7d") =
      .ok (.notification "initialized" .null) :=
    Rpc.Message.eq_notification_of_isBare (by decide +kernel)
  have refused : Rpc.Message.parse (Text.encode "\x7b\"id\":2,\"method\":\"hover\"\x7d") =
      .ok (.request (.number 2) "hover" .null) :=
    Rpc.Message.eq_request_of_isBare (by decide +kernel)
  have drops : Server.DropsInert surroundings {} deliveries := by
    refine dropsInert_cons_iff.mpr ⟨fun _ => .early early (.inl rfl) nofun, fun _ _ => ?_⟩
    refine dropsInert_cons_iff.mpr ⟨nofun, fun _ _ => ?_⟩
    refine dropsInert_cons_iff.mpr
      ⟨fun _ => .refused refused (by decide) (by decide), fun _ _ => ?_⟩
    exact dropsInert_cons_iff.mpr ⟨nofun, fun _ _ => dropsInert_nil⟩
  have wholePayloads : Frame.payloads whole = (deliveries.map Delivery.payload, .ok ()) :=
    Frame.payloads_flatMap_encode (by decide)
  have thinnedPayloads : Frame.payloads thinned = (keptPayloads deliveries, .ok ()) :=
    Frame.payloads_flatMap_encode (by decide)
  obtain ⟨-, frames, value, reports, -⟩ :=
    run_of_thinned surroundings {} drops wholePayloads thinnedPayloads
  exact ⟨drops, wholePayloads, thinnedPayloads, frames, value, reports⟩

end Server

end RippleServer
