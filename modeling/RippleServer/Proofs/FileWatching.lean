/-
This file proves that the client is asked to watch files once at most. A session
wants patterns to be watched when it is ready and its client can be asked; the
server asks when the client is ready too, and remembers in the watcher what it
asked for. Over a run the server passes through three phases: it has nothing to
ask for, it waits for the client to be ready, and it has asked. No phase is
left but for the next one, and the only request is made on the way to the last.
-/

import RippleServer.Proofs.Coherence
import RippleServer.Proofs.FailureReports
import RippleServer.Proofs.MessageRoundTrip

namespace RippleServer

/-! ### What a session wants to be watched -/

namespace Session

/-- The patterns of a session that is ready, if its client can be asked to watch files. -/
def wanted? (session : Session) : Option (List String) :=
  match session.ready with
  | .ok server => if server.watchesOnRequest then some server.watchPatterns else none
  | .error _ => none

variable {session before after : Session}

theorem initialized_of_wanted {patterns : List String}
    (wanted : session.wanted? = some patterns) :
    session.initialized.value =
      (.ok (session.watcher.watch patterns).value.1,
        { session with watcher := (session.watcher.watch patterns).value.2 }) := by
  unfold wanted? at wanted
  unfold initialized
  cases ready : session.ready with
  | error error =>
    rw [ready] at wanted
    cases wanted
  | ok server =>
    rw [ready] at wanted
    dsimp only at wanted ⊢
    split at wanted
    · rename_i asks
      cases wanted
      rw [if_pos asks]
      rfl
    · cases wanted

theorem initialized_of_unwanted (unwanted : session.wanted? = none) :
    session.initialized.value.2 = session ∧
      ∀ registration, session.initialized.value.1 ≠ .ok (some registration) := by
  unfold wanted? at unwanted
  unfold initialized
  cases ready : session.ready with
  | error error => exact ⟨rfl, nofun⟩
  | ok server =>
    rw [ready] at unwanted
    dsimp only at unwanted ⊢
    split at unwanted
    · cases unwanted
    · rename_i silent
      rw [if_neg silent]
      exact ⟨rfl, nofun⟩

theorem wanted?_of_ne (unready : session.state ≠ .ready) : session.wanted? = none := by
  rw [wanted?, ready_of_ne unready]

theorem wanted?_of_ready {server : ComposedServer} (ready : session.state = .ready)
    (present : session.server = some server) :
    session.wanted? = if server.watchesOnRequest then some server.watchPatterns else none := by
  rw [wanted?, Session.ready, ready, present]

theorem GrowsTo.wanted?_eq (grows : before.GrowsTo after) : after.wanted? = before.wanted? := by
  by_cases ready : before.state = .ready
  · cases present : before.server with
    | none =>
      have absent : after.server = none := by simpa [present] using grows.isSome_server
      rw [wanted?, wanted?, Session.ready, Session.ready, absent, present, grows.state]
    | some server =>
      obtain ⟨later, presentToo, same⟩ := grows.exists_server present
      rw [wanted?_of_ready ready present, wanted?_of_ready (grows.state.trans ready) presentToo,
        same.watchesOnRequest, ComposedServer.watchPatterns, same.languages]
      rfl
  · rw [wanted?_of_ne ready, wanted?_of_ne (grows.state ▸ ready)]

theorem openDocument_watcher (session : Session) (uri : Uri) :
    (session.openDocument uri).value.2.watcher = session.watcher := by
  unfold openDocument
  split
  · rfl
  · split <;> rfl

/-- A handshake leaves the watcher alone. The session wants the same as before it, unless the
handshake succeeded and the client can be asked: then it wants Ripple files to be watched. -/
theorem establish_wanted? {surroundings : Surroundings}
    (ripple : surroundings.extensions.SpeaksRipple) (session : Session)
    (params : InitializeParams) :
    (session.establish surroundings params).value.2.watcher = session.watcher ∧
      (session.wanted? = none ∧
          (session.establish surroundings params).value.2.wanted? = some ["**/*.ripple"] ∧
          (∃ server, (session.establish surroundings params).value.1 = .ok server) ∧
          params.capabilities.watchesOnRequest = true ∨
        (session.establish surroundings params).value.2.wanted? = session.wanted? ∧
          ∀ server, (session.establish surroundings params).value.1 = .ok server →
            params.capabilities.watchesOnRequest = false) := by
  by_cases new : session.state = .uninitialized
  · have unwanted : session.wanted? = none := wanted?_of_ne (by rw [new]; decide)
    obtain ⟨server, value, -⟩ | ⟨error, value, -⟩ := establish_cases surroundings session new params
    · obtain ⟨-, ⟨parts, composes⟩, -⟩ := establish_eq_ok (congrArg Prod.fst value)
      have wanted : ({ session with server := some server, state := .ready } : Session).wanted? =
          if params.capabilities.watchesOnRequest then some ["**/*.ripple"] else none := by
        rw [wanted?_of_ready rfl rfl, composes.watchesOnRequest, ComposedServer.watchPatterns,
          composes.languages_eq ripple]
        rfl
      rw [value]
      refine ⟨rfl, ?_⟩
      cases asks : params.capabilities.watchesOnRequest with
      | true =>
        rw [asks] at wanted
        exact .inl ⟨unwanted, wanted, ⟨server, rfl⟩, rfl⟩
      | false =>
        rw [asks] at wanted
        exact .inr ⟨wanted.trans unwanted.symm, fun _ _ => rfl⟩
    · have unready : SessionState.failed ≠ .ready := by decide
      rw [value]
      refine ⟨rfl, .inr ⟨?_, ?_⟩⟩
      · rw [unwanted]
        exact wanted?_of_ne unready
      · rintro server ⟨⟩
  · rw [establish_of_opened new]
    refine ⟨rfl, .inr ⟨rfl, ?_⟩⟩
    rintro server ⟨⟩

end Session

theorem Watcher.watch_new :
    (Watcher.watch {} ["**/*.ripple"]).value =
      (some ⟨"ripple-lsp/watched-files", ["**/*.ripple"]⟩, ⟨["**/*.ripple"], 1⟩) := by
  decide

theorem Watcher.watch_again :
    (Watcher.watch ⟨["**/*.ripple"], 1⟩ ["**/*.ripple"]).value =
      (none, ⟨["**/*.ripple"], 1⟩) := by
  decide

/-! ### Requests of the server -/

/-- The request to the client, if the message is one. -/
def Outgoing.request? : Outgoing → Option Rpc.Request
  | .request demand => some demand
  | .response _ => none

/-- The payload says that the client is ready too. -/
def IsInitialized (payload : Bytes) : Prop :=
  ∃ params, Rpc.Message.parse payload = .ok (.notification "initialized" params)

namespace Exchange

/-- The requests to the client among the messages that answer the payload. -/
def requests (exchange : Exchange) : List Rpc.Request :=
  exchange.block.filterMap Outgoing.request?

/-- The session is opened by a client that says it can be asked to watch files. -/
def OpensWatching (exchange : Exchange) : Prop :=
  exchange.Opens ∧
    ∃ id params opening workspace watching,
      Rpc.Message.parse exchange.payload = .ok (.request id "initialize" params) ∧
        InitializeParams.ofJson params = .ok opening ∧
        opening.capabilities.workspace = some workspace ∧
        workspace.watching = some watching ∧ watching.dynamicRegistration = some true

/-- The client is ready, after it has opened the session and said it can be asked. -/
def Arms (earlier : List Exchange) (exchange : Exchange) : Prop :=
  IsInitialized exchange.payload ∧ ∃ opening ∈ earlier, opening.OpensWatching

/-- At some exchange the client could be asked to watch files. -/
def Armed (exchanges : List Exchange) : Prop :=
  ∃ before exchange behind, exchanges = before ++ exchange :: behind ∧ Arms before exchange

/-- The requests to the client over some exchanges. -/
def requestsOf (exchanges : List Exchange) : List Rpc.Request :=
  exchanges.flatMap requests

/-- The request to watch Ripple files. -/
def rippleWatch : Rpc.Request where
  id := .number 1
  method := "client/registerCapability"
  params := .obj [("registrations", .arr [.obj [
    ("id", .str "ripple-lsp/watched-files"),
    ("method", .str "workspace/didChangeWatchedFiles"),
    ("registerOptions", .obj [("watchers", .arr [.obj [("globPattern", .str "**/*.ripple")]])])]])]

theorem armed_append_singleton_iff {earlier : List Exchange} {exchange : Exchange} :
    Armed (earlier ++ [exchange]) ↔ Armed earlier ∨ Arms earlier exchange := by
  constructor
  · rintro ⟨before, found, behind, divided, arms⟩
    rcases List.eq_nil_or_concat behind with rfl | ⟨others, last, rfl⟩
    · obtain ⟨rfl, same⟩ := List.append_inj' divided rfl
      obtain rfl : exchange = found := List.singleton_inj.mp same
      exact .inr arms
    · rw [List.concat_eq_append, ← List.cons_append, ← List.append_assoc] at divided
      obtain ⟨rfl, -⟩ := List.append_inj' divided rfl
      exact .inl ⟨before, found, others, rfl, arms⟩
  · rintro (⟨before, found, behind, rfl, arms⟩ | arms)
    · exact ⟨before, found, behind ++ [exchange], by simp, arms⟩
    · exact ⟨earlier, exchange, [], rfl, arms⟩

/-- Nobody is asked before a client that can be asked has opened the session. -/
theorem not_armed_of_closed {exchanges : List Exchange}
    (closed : ∀ exchange ∈ exchanges, ¬ exchange.OpensWatching) : ¬ Armed exchanges := by
  rintro ⟨before, exchange, behind, rfl, -, opening, member, opens⟩
  exact closed opening (List.mem_append_left _ member) opens

theorem requestsOf_append_singleton (earlier : List Exchange) (exchange : Exchange) :
    requestsOf (earlier ++ [exchange]) = requestsOf earlier ++ exchange.requests := by
  rw [requestsOf, List.flatMap_append, List.flatMap_singleton]
  rfl

end Exchange

namespace Server

open Exchange (Arms Armed requestsOf rippleWatch)

/-! ### The phases of a run -/

/-- How far the server has come with asking its client to watch files. -/
inductive WatchPhase (server : Server) (earlier : List Exchange) : Prop
  /-- There is nothing to ask for. -/
  | closed (wanted : server.session.wanted? = none) (watcher : server.session.watcher = {})
    (nextRequest : server.nextRequest = 1)
    (closed : ∀ exchange ∈ earlier, ¬ exchange.OpensWatching) (silent : requestsOf earlier = [])
  /-- The client is to be asked when it is ready. -/
  | waiting (wanted : server.session.wanted? = some ["**/*.ripple"])
    (watcher : server.session.watcher = {}) (nextRequest : server.nextRequest = 1)
    (opened : ∃ exchange ∈ earlier, exchange.OpensWatching) (unarmed : ¬ Armed earlier)
    (silent : requestsOf earlier = [])
  /-- The client has been asked. -/
  | armed (wanted : server.session.wanted? = some ["**/*.ripple"])
    (watcher : server.session.watcher = ⟨["**/*.ripple"], 1⟩) (nextRequest : server.nextRequest = 2)
    (armed : Armed earlier) (once : requestsOf earlier = [rippleWatch])

/-- A step that leaves alone what the server remembers about watching files. -/
structure KeepsWatch (before after : Server) : Prop where
  wanted : after.session.wanted? = before.session.wanted?
  watcher : after.session.watcher = before.session.watcher
  nextRequest : after.nextRequest = before.nextRequest

theorem KeepsWatch.refl (server : Server) : server.KeepsWatch server :=
  ⟨rfl, rfl, rfl⟩

variable {surroundings : Surroundings} {server next : Server} {earlier : List Exchange}
  {exchange : Exchange}

/-- A phase lasts over a step that leaves the watching alone, and an exchange without a request. -/
theorem WatchPhase.keep (phase : server.WatchPhase earlier) (keeps : server.KeepsWatch next)
    (silent : exchange.requests = []) (unopened : ¬ exchange.OpensWatching)
    (unarmed : Arms earlier exchange → Armed earlier) :
    next.WatchPhase (earlier ++ [exchange]) := by
  have same : requestsOf (earlier ++ [exchange]) = requestsOf earlier := by
    rw [Exchange.requestsOf_append_singleton, silent, List.append_nil]
  cases phase with
  | closed wanted watcher nextRequest closed before =>
    refine .closed (keeps.wanted.trans wanted) (keeps.watcher.trans watcher)
      (keeps.nextRequest.trans nextRequest) ?_ (same.trans before)
    intro other member
    rcases List.mem_append.mp member with old | new
    · exact closed other old
    · exact List.mem_singleton.mp new ▸ unopened
  | waiting wanted watcher nextRequest opened waits before =>
    obtain ⟨opening, member, opens⟩ := opened
    refine .waiting (keeps.wanted.trans wanted) (keeps.watcher.trans watcher)
      (keeps.nextRequest.trans nextRequest) ⟨opening, List.mem_append_left _ member, opens⟩ ?_
      (same.trans before)
    rw [Exchange.armed_append_singleton_iff]
    exact fun arms => waits (arms.elim id unarmed)
  | armed wanted watcher nextRequest armed once =>
    exact .armed (keeps.wanted.trans wanted) (keeps.watcher.trans watcher)
      (keeps.nextRequest.trans nextRequest)
      (Exchange.armed_append_singleton_iff.mpr (.inl armed)) (same.trans once)

/-! ### One payload -/

theorem block_requests_of_other {payload : Bytes} (other : ¬ IsInitialized payload) :
    Exchange.requests ⟨payload, server.block surroundings payload⟩ = [] := by
  unfold Exchange.requests block
  cases parsed : Rpc.Message.parse payload with
  | error error => rfl
  | ok message =>
    cases message with
    | request id method params => rfl
    | response id result error => rfl
    | notification method params =>
      have notInitialized : method ≠ "initialized" := by
        rintro rfl
        exact other ⟨params, parsed⟩
      dsimp only
      rw [if_neg notInitialized]
      rfl

/-- Only a request to open the session and the client being ready matter to the watching. -/
theorem receive_keepsWatch (surroundings : Surroundings) (server : Server) {payload : Bytes}
    (early : ¬ IsInitialized payload) (unasked : ¬ AsksToOpen payload) :
    server.KeepsWatch (server.receive surroundings payload).value.2 := by
  have becomes := receive_becomes surroundings server payload
  generalize (server.receive surroundings payload).value.2 = next at becomes ⊢
  cases becomes with
  | same => exact .refl server
  | shutDown => exact ⟨rfl, rfl, rfl⟩
  | opened parsed read => exact absurd ⟨_, _, _, parsed, read⟩ unasked
  | ready parsed => exact absurd ⟨_, parsed⟩ early
  | document =>
    exact ⟨(server.session.openDocument_growsTo _).wanted?_eq,
      server.session.openDocument_watcher _, rfl⟩

theorem not_opensWatching_of_not_asksToOpen {payload : Bytes} (unasked : ¬ AsksToOpen payload)
    (block : List Outgoing) : ¬ Exchange.OpensWatching ⟨payload, block⟩ := by
  rintro ⟨-, id, params, opening, _, _, parsed, read, -⟩
  exact unasked ⟨id, params, opening, parsed, read⟩

/-- The client can be asked to watch files exactly if it says so. -/
theorem watchesOnRequest_eq_true_iff {client : ClientCapabilities} :
    client.watchesOnRequest = true ↔
      ∃ workspace watching, client.workspace = some workspace ∧
        workspace.watching = some watching ∧ watching.dynamicRegistration = some true := by
  unfold ClientCapabilities.watchesOnRequest
  constructor
  · intro asks
    cases workspace : client.workspace with
    | none => simp [workspace] at asks
    | some found =>
      cases watching : found.watching with
      | none => simp [workspace, watching] at asks
      | some told =>
        cases flag : told.dynamicRegistration with
        | none => simp [workspace, watching, flag] at asks
        | some value =>
          obtain rfl : value = true := by simpa [workspace, watching, flag] using asks
          exact ⟨found, told, rfl, watching, flag⟩
  · rintro ⟨workspace, watching, hasWorkspace, hasWatching, flag⟩
    simp [hasWorkspace, hasWatching, flag]

theorem opens_iff_of_read {payload : Bytes} {id : Rpc.Id} {params : Json}
    {opening : InitializeParams}
    (parsed : Rpc.Message.parse payload = .ok (.request id "initialize" params))
    (read : InitializeParams.ofJson params = .ok opening) :
    Exchange.Opens ⟨payload, server.block surroundings payload⟩ ↔
      ∃ composed, (server.session.establish surroundings opening).value.1 = .ok composed := by
  rw [block_of_read parsed read]
  cases (server.session.establish surroundings opening).value.1 with
  | ok composed =>
    exact ⟨fun _ => ⟨composed, rfl⟩, fun _ => ⟨⟨id, params, parsed⟩, some id, _, rfl⟩⟩
  | error error =>
    constructor
    · rintro ⟨-, id', result, same⟩
      cases same
    · rintro ⟨composed, same⟩
      cases same

/-- A request to open the session makes the server wait, if it succeeds and the client can be
asked. -/
theorem WatchPhase.receive_of_asksToOpen (ripple : surroundings.extensions.SpeaksRipple)
    (phase : server.WatchPhase earlier) {payload : Bytes} (asks : AsksToOpen payload) :
    (server.receive surroundings payload).value.2.WatchPhase
      (earlier ++ [⟨payload, server.block surroundings payload⟩]) := by
  obtain ⟨id, params, opening, parsed, read⟩ := asks
  obtain ⟨watcher, outcome⟩ := server.session.establish_wanted? ripple opening
  have early : ¬ IsInitialized payload := by
    rintro ⟨params', parsed'⟩
    cases parsed.symm.trans parsed'
  have silent : Exchange.requests ⟨payload, server.block surroundings payload⟩ = [] :=
    block_requests_of_other early
  have step : (server.receive surroundings payload).value.2 =
      { server with session := (server.session.establish surroundings opening).value.2 } := by
    rw [receive_of_request surroundings server parsed, answer_of_read surroundings server read]
    rfl
  rw [step]
  rcases outcome with ⟨unwanted, wanted, succeeds, flag⟩ | ⟨same, unasked⟩
  · -- A session that wanted nothing before is only found in the first phase.
    cases phase with
    | closed _ unused nextRequest closed before =>
      obtain ⟨workspace, watching, told⟩ := watchesOnRequest_eq_true_iff.mp flag
      have opens : Exchange.OpensWatching ⟨payload, server.block surroundings payload⟩ :=
        ⟨(opens_iff_of_read parsed read).mpr succeeds, id, params, opening, workspace, watching,
          parsed, read, told⟩
      refine .waiting wanted (watcher.trans unused) nextRequest
        ⟨_, List.mem_append_right _ List.mem_cons_self, opens⟩ ?_ ?_
      · rw [Exchange.armed_append_singleton_iff]
        rintro (armed | arms)
        · exact Exchange.not_armed_of_closed closed armed
        · exact early arms.1
      · rw [Exchange.requestsOf_append_singleton, before, silent, List.append_nil]
    | waiting wants | armed wants => cases unwanted.symm.trans wants
  · refine phase.keep ⟨same, watcher, rfl⟩ silent ?_ fun arms => absurd arms.1 early
    rintro ⟨opens, id', params', opening', workspace, watching, parsed', read', told⟩
    cases parsed.symm.trans parsed'
    cases read.symm.trans read'
    obtain ⟨composed, succeeded⟩ := (opens_iff_of_read parsed read).mp opens
    have flag := watchesOnRequest_eq_true_iff.mpr ⟨workspace, watching, told⟩
    rw [unasked composed succeeded] at flag
    cases flag

theorem armWatch_of_some {registration : Registration} {session : Session}
    (value : server.session.initialized.value = (.ok (some registration), session)) :
    server.armWatch.value = { server with session, nextRequest := server.nextRequest + 1 } ∧
      server.watchBlock = [.request (watchRequest server.nextRequest registration)] := by
  constructor
  · rw [armWatch, Traced.value_bind, value]
    rfl
  · rw [watchBlock, value]

theorem armWatch_of_silent {session : Session}
    (unchanged : server.session.initialized.value.2 = session)
    (silent : ∀ registration, server.session.initialized.value.1 ≠ .ok (some registration)) :
    server.armWatch.value = { server with session } ∧ server.watchBlock = [] := by
  rcases value : server.session.initialized.value with ⟨outcome, reached⟩
  rw [value] at unchanged silent
  obtain rfl : reached = session := unchanged
  rw [armWatch, watchBlock, Traced.value_bind, value]
  rcases outcome with error | registration
  · exact ⟨rfl, rfl⟩
  · cases registration with
    | none => exact ⟨rfl, rfl⟩
    | some registration => exact absurd rfl (silent registration)

/-- When the client is ready, a server that waits for it asks, and no other does. -/
theorem WatchPhase.receive_of_isInitialized (phase : server.WatchPhase earlier) {payload : Bytes}
    (ready : IsInitialized payload) :
    (server.receive surroundings payload).value.2.WatchPhase
      (earlier ++ [⟨payload, server.block surroundings payload⟩]) := by
  have unopened : ∀ block, ¬ Exchange.OpensWatching ⟨payload, block⟩ := by
    rintro block ⟨-, id, params, opening, _, _, parsed, -⟩
    obtain ⟨params', parsed'⟩ := ready
    cases parsed.symm.trans parsed'
  have step : (server.receive surroundings payload).value.2 = server.armWatch.value ∧
      server.block surroundings payload = server.watchBlock := by
    obtain ⟨params, parsed⟩ := ready
    rw [receive, block, parsed]
    exact ⟨rfl, rfl⟩
  rw [step.1, step.2]
  cases phase with
  | closed wanted watcher nextRequest closed before =>
    obtain ⟨unchanged, silent⟩ := Session.initialized_of_unwanted wanted
    obtain ⟨value, block⟩ := armWatch_of_silent unchanged silent
    rw [value, block]
    refine (WatchPhase.closed wanted watcher nextRequest closed before).keep (.refl server) rfl
      (unopened []) ?_
    rintro ⟨-, opening, member, opens⟩
    exact absurd opens (closed opening member)
  | waiting wanted watcher nextRequest opened unarmed before =>
    have value := Session.initialized_of_wanted wanted
    rw [watcher, Watcher.watch_new] at value
    obtain ⟨after, block⟩ := armWatch_of_some value
    rw [after, block, nextRequest]
    refine .armed ?_ rfl rfl (Exchange.armed_append_singleton_iff.mpr (.inr ⟨ready, opened⟩)) ?_
    · rw [← wanted]
      rfl
    · rw [Exchange.requestsOf_append_singleton, before]
      rfl
  | armed wanted watcher nextRequest armed once =>
    -- The watcher knows the pattern already, so it registers nothing.
    have value := Session.initialized_of_wanted wanted
    rw [watcher, Watcher.watch_again] at value
    have unchanged : server.session.initialized.value.2 = server.session := by
      rw [value, ← watcher]
    obtain ⟨after, block⟩ := armWatch_of_silent unchanged fun registration asked => by
      rw [value] at asked
      cases asked
    rw [after, block]
    exact (WatchPhase.armed wanted watcher nextRequest armed once).keep (.refl server) rfl
      (unopened []) fun _ => armed

/-- Whatever the payload, the server behind it is in one of the phases. -/
theorem WatchPhase.receive (ripple : surroundings.extensions.SpeaksRipple)
    (phase : server.WatchPhase earlier) (payload : Bytes) :
    (server.receive surroundings payload).value.2.WatchPhase
      (earlier ++ [⟨payload, server.block surroundings payload⟩]) := by
  by_cases ready : IsInitialized payload
  · exact phase.receive_of_isInitialized ready
  · by_cases asks : AsksToOpen payload
    · exact phase.receive_of_asksToOpen ripple asks
    · exact phase.keep (receive_keepsWatch surroundings server ready asks)
        (block_requests_of_other ready) (not_opensWatching_of_not_asksToOpen asks _)
        fun arms => absurd arms.1 ready

/-! ### Runs -/

theorem WatchPhase.receiveAll (ripple : surroundings.extensions.SpeaksRipple)
    (phase : server.WatchPhase earlier) (payloads : List Bytes) :
    (server.receiveAll surroundings payloads).value.2.WatchPhase
      (earlier ++ server.exchanges surroundings payloads) := by
  induction payloads generalizing server earlier with
  | nil =>
    rw [exchanges, List.append_nil]
    exact phase
  | cons payload payloads inductionHypothesis =>
    have step := phase.receive ripple payload
    rcases value : (server.receive surroundings payload).value with ⟨reason, next⟩
    rw [value] at step
    cases reason with
    | some reason =>
      rw [receiveAll_cons_of_some value, exchanges_cons_of_some value]
      exact step
    | none =>
      rw [receiveAll_cons_of_none value, exchanges_cons_of_none value, List.append_cons]
      exact inductionHypothesis step

theorem watchPhase_new : WatchPhase {} [] :=
  .closed rfl rfl rfl (fun _ member => absurd member List.not_mem_nil) rfl

/-- In any phase, the request was made exactly if the client could be asked, and once. -/
theorem WatchPhase.requestsOf_cases (phase : server.WatchPhase earlier) :
    requestsOf earlier = [rippleWatch] ∧ Armed earlier ∨
      requestsOf earlier = [] ∧ ¬ Armed earlier := by
  cases phase with
  | closed _ _ _ closed silent => exact .inr ⟨silent, Exchange.not_armed_of_closed closed⟩
  | waiting _ _ _ _ unarmed silent => exact .inr ⟨silent, unarmed⟩
  | armed _ _ _ armed once => exact .inl ⟨once, armed⟩

theorem WatchPhase.nextRequest_le (phase : server.WatchPhase earlier) :
    server.nextRequest ≤ 2 := by
  cases phase with
  | closed _ _ nextRequest => omega
  | waiting _ _ nextRequest => omega
  | armed _ _ nextRequest => omega

/-- What was asked by the time any number of exchanges has passed. -/
theorem requestsOf_cases_of_prefix (ripple : surroundings.extensions.SpeaksRipple)
    {payloads : List Bytes} {before behind : List Exchange}
    (divided : Server.exchanges surroundings {} payloads = before ++ behind) :
    requestsOf before = [rippleWatch] ∧ Armed before ∨
      requestsOf before = [] ∧ ¬ Armed before := by
  have phase := watchPhase_new.receiveAll ripple (payloads.take before.length)
  rw [exchanges_take, divided, List.take_left, List.nil_append] at phase
  exact phase.requestsOf_cases

/-- The client is asked to watch files once at most. Over any run, there is a request to the client
exactly if it became ready after it opened the session and said it can be asked. The request is
made when that happens first, it is the one to watch Ripple files, and the number of the next
request never exceeds two. -/
theorem run_watches_once {surroundings : Surroundings}
    (ripple : surroundings.extensions.SpeaksRipple) (input : Bytes) :
    let payloads := (Frame.payloads input).1
    let exchanges := Server.exchanges surroundings {} payloads
    (Server.run surroundings {} input).frames = framesOf exchanges ∧
      (requestsOf exchanges = [rippleWatch] ∧ Armed exchanges ∨
        requestsOf exchanges = [] ∧ ¬ Armed exchanges) ∧
      (∀ before exchange behind, exchanges = before ++ exchange :: behind →
        exchange.requests = [rippleWatch] ∧ Arms before exchange ∧ ¬ Armed before ∨
          exchange.requests = [] ∧ (Arms before exchange → Armed before)) ∧
      ∀ count,
        (Server.receiveAll surroundings {} (payloads.take count)).value.2.nextRequest ≤ 2 := by
  intro payloads exchanges
  refine ⟨run_frames surroundings {} input, ?_, ?_, ?_⟩
  · exact requestsOf_cases_of_prefix ripple (List.append_nil exchanges).symm
  · intro before exchange behind divided
    have early := requestsOf_cases_of_prefix ripple divided
    have late := requestsOf_cases_of_prefix ripple (divided.trans (List.append_cons ..))
    rw [Exchange.requestsOf_append_singleton, Exchange.armed_append_singleton_iff] at late
    rcases early with ⟨asked, armed⟩ | ⟨silent, unarmed⟩
    · right
      rw [asked] at late
      rcases late with ⟨once, -⟩ | ⟨never, -⟩
      · exact ⟨(List.cons_inj_right _).mp once, fun _ => armed⟩
      · cases never
    · rw [silent, List.nil_append] at late
      rcases late with ⟨once, arms⟩ | ⟨never, unarmedStill⟩
      · exact .inl ⟨once, arms.resolve_left unarmed, unarmed⟩
      · exact .inr ⟨never, fun arms => absurd (.inr arms) unarmedStill⟩
  · intro count
    exact (watchPhase_new.receiveAll ripple (payloads.take count)).nextRequest_le

/-- A client that says it is ready before it opens the session and twice behind that: it is asked
once. -/
theorem run_watches_once_for_eager_client :
    let surroundings : Surroundings :=
      ⟨⟨fun path => .ok { path }, fun path => .error (.notFound path)⟩,
        .directory (some ⟨"/extension"⟩),
        ⟨[("RIPPLE_COMPILER_PATH", Text.encode "/ripple"), ("TSDK_PATH", Text.encode "/ts")]⟩⟩
    let params : Json := .obj [("capabilities", .obj [("workspace", .obj
      [("didChangeWatchedFiles", .obj [("dynamicRegistration", .bool true)])])])]
    let opening := (Rpc.Request.toJson ⟨.number 1, "initialize", params⟩).bytes
    let ready := Text.encode "\x7b\"method\":\"initialized\"\x7d"
    let input := [ready, opening, ready, ready].flatMap Frame.encode
    surroundings.extensions.SpeaksRipple ∧
      requestsOf (Server.exchanges surroundings {} (Frame.payloads input).1) = [rippleWatch] := by
  intro surroundings params opening ready input
  have ripple : surroundings.extensions.SpeaksRipple :=
    ExtensionSource.directory_speaksRipple (some ⟨"/extension"⟩)
  have payloads : Frame.payloads input = ([ready, opening, ready, ready], .ok ()) :=
    Frame.payloads_flatMap_encode (by decide +kernel)
  have isReady : Rpc.Message.parse (Text.encode "\x7b\"method\":\"initialized\"\x7d") =
      .ok (.notification "initialized" .null) :=
    Rpc.Message.eq_notification_of_isBare (by decide +kernel)
  have exact : params.Exact :=
    ((((Json.Exact.bool true).obj_singleton _).obj_singleton _).obj_singleton _).obj_singleton _
  have asks : Rpc.Message.parse opening = .ok (.request (.number 1) "initialize" params) :=
    Rpc.Message.parse_request ⟨by decide, by decide⟩ exact (by decide)
  have read : InitializeParams.ofJson params = .ok
      { capabilities := { workspace := some { watching := some ⟨some true⟩ } } } := rfl
  have succeeds : ∃ composed, (Session.establish surroundings {}
      { capabilities := { workspace := some { watching := some ⟨some true⟩ } } }).value.1 =
        .ok composed :=
    ((Session.establish_ready surroundings {} _).mp (by decide +kernel)).resolve_left (by decide)
  have armed : Armed (Server.exchanges surroundings {} (Frame.payloads input).1) := by
    rw [payloads, exchanges_cons_of_none (Inert.early isReady (.inl rfl) (by decide)).passes.value,
      exchanges_cons_of_none (congrArg Traced.value (receive_of_request surroundings {} asks)),
      exchanges]
    refine ⟨[_, _], _, _, rfl, ⟨.null, isReady⟩, _, List.mem_cons_of_mem _ List.mem_cons_self,
      (opens_iff_of_read asks read).mpr succeeds, _, _, _, _, _, asks, read, rfl, rfl, rfl⟩
  obtain ⟨-, ⟨once, -⟩ | ⟨-, unarmed⟩, -⟩ := run_watches_once ripple input
  · exact ⟨ripple, once⟩
  · exact absurd armed unarmed

end Server

end RippleServer
