/-
This file follows a session through any sequence of operations. Between two
operations a session rests: it is new, ready or failed, and it has a server
exactly if it is ready. Only the first handshake moves it. From then on its
state, its server and everything the server was composed of stay as they are;
what may still be added are projects and watched patterns.
-/

import RippleServer.Proofs.Handshake

namespace RippleServer

/-! ### Operations -/

/-- What can be asked of a session. The last two go to the project service of its server. -/
inductive Operation
  | establish (params : InitializeParams)
  | initialized
  | openDocument (uri : Uri)
  | projectFor (root : Path)
  | projectForDocument (document : Path)

/-- The parameters of an operation that asks for the handshake. -/
def Operation.params? : Operation → Option InitializeParams
  | .establish params => some params
  | _ => none

namespace Session

/-- Asks the project service of the server, if there is one. -/
def askProjects (session : Session)
    (ask : ProjectService → Traced (Project × ProjectService)) : Traced Session :=
  match session.server with
  | none => pure session
  | some server => do
    let (_, projects) ← ask server.projects
    pure (session.withProjects server projects)

/-- The session after an operation. -/
def perform (surroundings : Surroundings) (session : Session) : Operation → Traced Session
  | .establish params => Prod.snd <$> session.establish surroundings params
  | .initialized => Prod.snd <$> session.initialized
  | .openDocument uri => Prod.snd <$> session.openDocument uri
  | .projectFor root => session.askProjects fun service => service.projectFor root
  | .projectForDocument document =>
    session.askProjects fun service => service.projectForDocument document

/-- The session after some operations in a row. -/
def performAll (surroundings : Surroundings) : Session → List Operation → Traced Session
  | session, [] => pure session
  | session, operation :: rest => do
    let session ← session.perform surroundings operation
    performAll surroundings session rest

end Session

/-! ### Growth -/

/-- A project service that has at most got more projects. -/
structure ProjectService.GrowsTo (before after : ProjectService) : Prop where
  sdk : after.sdk = before.sdk
  messages : after.messages = before.messages
  languages : after.languages = before.languages
  folders : after.folders = before.folders
  projects : before.projects <+: after.projects

/-- A composed server that is the same up to the growth of its project service. -/
structure ComposedServer.GrowsTo (before after : ComposedServer) : Prop where
  compiler : after.compiler = before.compiler
  sdk : after.sdk = before.sdk
  messages : after.messages = before.messages
  languages : after.languages = before.languages
  plugins : after.plugins = before.plugins
  initializeResult : after.initializeResult = before.initializeResult
  watchesOnRequest : after.watchesOnRequest = before.watchesOnRequest
  projects : before.projects.GrowsTo after.projects

/-- A watcher that has at most registered more patterns. -/
structure Watcher.GrowsTo (before after : Watcher) : Prop where
  patterns : before.patterns <+: after.patterns
  registrations : before.registrations ≤ after.registrations

/-- A session that has stayed in its state and has at most got more projects and patterns. -/
structure Session.GrowsTo (before after : Session) : Prop where
  state : after.state = before.state
  server : Option.Rel ComposedServer.GrowsTo before.server after.server
  watcher : before.watcher.GrowsTo after.watcher

theorem ProjectService.GrowsTo.refl (service : ProjectService) : service.GrowsTo service :=
  ⟨rfl, rfl, rfl, rfl, List.prefix_rfl⟩

theorem ProjectService.GrowsTo.trans {first second third : ProjectService}
    (early : first.GrowsTo second) (late : second.GrowsTo third) : first.GrowsTo third :=
  ⟨late.sdk.trans early.sdk, late.messages.trans early.messages,
    late.languages.trans early.languages, late.folders.trans early.folders,
    early.projects.trans late.projects⟩

theorem ComposedServer.GrowsTo.trans {first second third : ComposedServer}
    (early : first.GrowsTo second) (late : second.GrowsTo third) : first.GrowsTo third :=
  ⟨late.compiler.trans early.compiler, late.sdk.trans early.sdk,
    late.messages.trans early.messages, late.languages.trans early.languages,
    late.plugins.trans early.plugins, late.initializeResult.trans early.initializeResult,
    late.watchesOnRequest.trans early.watchesOnRequest, early.projects.trans late.projects⟩

/-- The server with the projects changed keeps all the rest. -/
theorem ComposedServer.GrowsTo.of_projects {server : ComposedServer} {projects : ProjectService}
    (grows : server.projects.GrowsTo projects) : server.GrowsTo { server with projects } :=
  ⟨rfl, rfl, rfl, rfl, rfl, rfl, rfl, grows⟩

theorem Watcher.GrowsTo.refl (watcher : Watcher) : watcher.GrowsTo watcher :=
  ⟨List.prefix_rfl, Nat.le_refl _⟩

theorem Watcher.GrowsTo.trans {first second third : Watcher}
    (early : first.GrowsTo second) (late : second.GrowsTo third) : first.GrowsTo third :=
  ⟨early.patterns.trans late.patterns, Nat.le_trans early.registrations late.registrations⟩

theorem ProjectService.projectFor_growsTo (service : ProjectService) (root : Path) :
    service.GrowsTo (service.projectFor root).value.2 := by
  unfold projectFor
  split
  · exact .refl service
  · exact ⟨rfl, rfl, rfl, rfl, List.prefix_append _ _⟩

theorem Watcher.watch_growsTo (watcher : Watcher) (patterns : List String) :
    watcher.GrowsTo (watcher.watch patterns).value.2 := by
  unfold watch
  dsimp only
  split
  · exact .refl watcher
  · exact ⟨List.prefix_append _ _, Nat.le_succ _⟩

namespace Session

theorem GrowsTo.refl (session : Session) : session.GrowsTo session := by
  refine ⟨rfl, ?_, .refl _⟩
  cases session.server with
  | none => exact .none
  | some server => exact .some (.of_projects (.refl _))

theorem GrowsTo.trans {first second third : Session}
    (early : first.GrowsTo second) (late : second.GrowsTo third) : first.GrowsTo third := by
  refine ⟨late.state.trans early.state, ?_, early.watcher.trans late.watcher⟩
  have start := early.server
  have finish := late.server
  generalize first.server = one, second.server = two, third.server = three at start finish ⊢
  cases start with
  | none => exact finish
  | some start =>
    cases finish with
    | some finish => exact .some (start.trans finish)

/-! ### One operation -/

/-- A session between two operations: it is new, ready or failed, and it has a server exactly if
it is ready. -/
structure AtRest (session : Session) : Prop where
  state : session.state = .uninitialized ∨ session.state = .ready ∨ session.state = .failed
  server : session.server.isSome = true ↔ session.state = .ready

theorem AtRest.of_growsTo {before after : Session} (rest : before.AtRest)
    (grows : before.GrowsTo after) : after.AtRest := by
  have isSome : after.server.isSome = before.server.isSome := by
    have related := grows.server
    generalize before.server = one, after.server = two at related ⊢
    cases related <;> rfl
  refine ⟨?_, ?_⟩
  · rw [grows.state]
    exact rest.state
  · rw [grows.state, isSome]
    exact rest.server

/-- The ways a handshake fails. -/
def failedPaths : List (List SessionState) :=
  [[.resolving, .failed], [.resolving, .loading, .failed],
    [.resolving, .loading, .composing, .failed]]

/-- The way a handshake succeeds. -/
def readyPath : List SessionState :=
  [.resolving, .loading, .composing, .ready]

/-- The handshake of a new session makes it ready, with the server it composed, or makes it fail
and changes nothing else. -/
theorem establish_cases (surroundings : Surroundings) (session : Session)
    (new : session.state = .uninitialized) (params : InitializeParams) :
    (∃ server, (session.establish surroundings params).value =
        (.ok server, { session with server := some server, state := .ready }) ∧
      (session.establish surroundings params).entered = readyPath) ∨
    (∃ error, (session.establish surroundings params).value =
        (.error error, { session with state := .failed }) ∧
      (session.establish surroundings params).entered ∈ failedPaths) := by
  cases resolved : Handshake.resolve surroundings.environment params with
  | error error =>
    have composed := compose_of_unresolved session resolved
    right
    rw [establish_of_failed new (congrArg Traced.value composed), composed]
    exact ⟨error, rfl, by simp [Traced.entered, Event.entered?, List.filterMap_cons, failedPaths]⟩
  | ok dependencies =>
    have quietLoad := (Handshake.load_modest surroundings dependencies
      (Handshake.localeOf params)).entered_eq_nil
    cases loads : (Handshake.load surroundings dependencies
        (Handshake.localeOf params)).run.value with
    | error error =>
      have composed := compose_of_unloaded session resolved loads
      right
      rw [establish_of_failed new (congrArg Traced.value composed), composed]
      refine ⟨error, rfl, ?_⟩
      simp only [Traced.entered] at quietLoad ⊢
      simp [Event.entered?, List.filterMap_cons, failedPaths, quietLoad]
    | ok loaded =>
      have quietCompose := (Handshake.compose_modest loaded params).entered_eq_nil
      have composed := compose_of_loaded session resolved loads
      simp only [Traced.entered] at quietLoad quietCompose
      cases finish : (Handshake.compose loaded params).run.value with
      | error error =>
        right
        rw [finish] at composed
        rw [establish_of_failed new (congrArg Traced.value composed), composed]
        refine ⟨error, rfl, ?_⟩
        simp [Traced.entered, Event.entered?, List.filterMap_cons, failedPaths, quietLoad,
          quietCompose]
      | ok server =>
        left
        rw [finish] at composed
        rw [establish_of_composed new (congrArg Traced.value composed), composed]
        refine ⟨server, rfl, ?_⟩
        simp [Traced.entered, Event.entered?, List.filterMap_cons, readyPath, quietLoad,
          quietCompose]

/-- A server is only handed out by a session that has it and is ready. -/
theorem ready_eq_ok {session : Session} {server : ComposedServer}
    (handed : session.ready = .ok server) :
    session.state = .ready ∧ session.server = some server := by
  unfold ready at handed
  split at handed
  · cases handed
    exact ⟨‹_›, ‹_›⟩
  · cases handed

theorem growsTo_withProjects {session : Session} {server : ComposedServer}
    {projects : ProjectService} (present : session.server = some server)
    (grows : server.projects.GrowsTo projects) :
    session.GrowsTo (session.withProjects server projects) := by
  refine ⟨rfl, ?_, .refl _⟩
  rw [present]
  exact .some (.of_projects grows)

theorem initialized_growsTo (session : Session) :
    session.GrowsTo session.initialized.value.2 := by
  unfold initialized
  split
  · exact .refl session
  · rename_i server handed
    split
    · exact ⟨rfl, (GrowsTo.refl session).server, Watcher.watch_growsTo _ _⟩
    · exact .refl session

theorem openDocument_growsTo (session : Session) (uri : Uri) :
    session.GrowsTo (session.openDocument uri).value.2 := by
  unfold openDocument
  split
  · exact .refl session
  · rename_i server handed
    split
    · exact .refl session
    · exact growsTo_withProjects (ready_eq_ok handed).2 (ProjectService.projectFor_growsTo _ _)

theorem askProjects_growsTo (session : Session)
    {ask : ProjectService → Traced (Project × ProjectService)}
    (grows : ∀ service : ProjectService, service.GrowsTo (ask service).value.2) :
    session.GrowsTo (session.askProjects ask).value := by
  unfold askProjects
  split
  · exact .refl session
  · rename_i server present
    exact growsTo_withProjects present (grows server.projects)

theorem askProjects_modest (session : Session)
    {ask : ProjectService → Traced (Project × ProjectService)}
    (modest : ∀ service, (ask service).Modest) : (session.askProjects ask).Modest := by
  unfold askProjects
  split
  · exact Traced.modest_pure _
  · exact (modest _).bind fun _ => Traced.modest_pure _

theorem perform_establish_value (surroundings : Surroundings) (session : Session)
    (params : InitializeParams) :
    (session.perform surroundings (.establish params)).value =
      (session.establish surroundings params).value.2 := rfl

theorem perform_establish_entered (surroundings : Surroundings) (session : Session)
    (params : InitializeParams) :
    (session.perform surroundings (.establish params)).entered =
      (session.establish surroundings params).entered :=
  congrArg (List.filterMap Event.entered?) (Traced.events_map _ _)

/-- An operation that is no handshake, or a handshake that comes too late, lets the session grow
and enters no state. -/
theorem perform_growsTo (surroundings : Surroundings) (session : Session) (operation : Operation)
    (settled : operation.params? = none ∨ session.state ≠ .uninitialized) :
    session.GrowsTo (session.perform surroundings operation).value ∧
      (session.perform surroundings operation).entered = [] := by
  cases operation with
  | establish params =>
    have opened : session.state ≠ .uninitialized := settled.resolve_left nofun
    rw [perform_establish_value, perform_establish_entered, establish_of_opened opened]
    exact ⟨.refl session, rfl⟩
  | initialized =>
    exact ⟨initialized_growsTo session, (session.initialized_modest.map _).entered_eq_nil⟩
  | openDocument uri =>
    exact ⟨openDocument_growsTo session uri,
      ((session.openDocument_modest uri).map _).entered_eq_nil⟩
  | projectFor root =>
    exact ⟨askProjects_growsTo session fun service => service.projectFor_growsTo root,
      (askProjects_modest session fun service => service.projectFor_modest root).entered_eq_nil⟩
  | projectForDocument document =>
    exact ⟨askProjects_growsTo session fun service => service.projectFor_growsTo _,
      (askProjects_modest session fun service =>
        service.projectForDocument_modest document).entered_eq_nil⟩

/-- Everything an operation can do: the session grows where it is, or it was new and goes one of
the ways of a handshake. -/
theorem perform_cases (surroundings : Surroundings) (session : Session) (operation : Operation) :
    session.GrowsTo (session.perform surroundings operation).value ∧
        (session.perform surroundings operation).entered = [] ∨
      session.state = .uninitialized ∧
        ((∃ server, (session.perform surroundings operation).value =
            { session with server := some server, state := .ready } ∧
          (session.perform surroundings operation).entered = readyPath) ∨
        (session.perform surroundings operation).value = { session with state := .failed } ∧
          (session.perform surroundings operation).entered ∈ failedPaths) := by
  cases operation with
  | establish params =>
    by_cases new : session.state = .uninitialized
    · refine .inr ⟨new, ?_⟩
      rw [perform_establish_value, perform_establish_entered]
      obtain ⟨server, value, entered⟩ | ⟨error, value, entered⟩ :=
        establish_cases surroundings session new params
      · exact .inl ⟨server, congrArg Prod.snd value, entered⟩
      · exact .inr ⟨congrArg Prod.snd value, entered⟩
    · exact .inl (perform_growsTo surroundings session _ (.inr new))
  | initialized | openDocument _ | projectFor _ | projectForDocument _ =>
    exact .inl (perform_growsTo surroundings session _ (.inl rfl))

theorem perform_atRest (surroundings : Surroundings) {session : Session} (rest : session.AtRest)
    (operation : Operation) : (session.perform surroundings operation).value.AtRest := by
  obtain ⟨grows, -⟩ | ⟨new, ⟨server, value, -⟩ | ⟨value, -⟩⟩ :=
    perform_cases surroundings session operation
  · exact rest.of_growsTo grows
  · rw [value]
    exact ⟨.inr (.inl rfl), fun _ => rfl, fun _ => rfl⟩
  · -- A new session had no server, and failing gives it none.
    have absent : session.server.isSome ≠ true := fun present =>
      absurd (new.symm.trans (rest.server.mp present)) (by decide)
    rw [value]
    exact ⟨.inr (.inr rfl), fun present => absurd present absent, nofun⟩

/-- The last state an operation enters is the one it leaves the session in. -/
theorem perform_getLastD (surroundings : Surroundings) (session : Session)
    (operation : Operation) :
    (session.perform surroundings operation).entered.getLastD session.state =
      (session.perform surroundings operation).value.state := by
  obtain ⟨grows, entered⟩ | ⟨-, ⟨server, value, entered⟩ | ⟨value, entered⟩⟩ :=
    perform_cases surroundings session operation
  · rw [entered, grows.state]
    rfl
  · rw [value, entered]
    rfl
  · simp only [failedPaths, List.mem_cons, List.not_mem_nil, or_false] at entered
    rw [value]
    rcases entered with path | path | path <;> rw [path] <;> rfl

/-! ### Any number of operations -/

theorem performAll_cons (surroundings : Surroundings) (session : Session) (operation : Operation)
    (rest : List Operation) :
    session.performAll surroundings (operation :: rest) =
      session.perform surroundings operation >>= fun next => next.performAll surroundings rest :=
  rfl

theorem performAll_atRest (surroundings : Surroundings) {session : Session}
    (rest : session.AtRest) (operations : List Operation) :
    (session.performAll surroundings operations).value.AtRest := by
  induction operations generalizing session with
  | nil => exact rest
  | cons operation operations inductionHypothesis =>
    rw [performAll_cons, Traced.value_bind]
    exact inductionHypothesis (perform_atRest surroundings rest operation)

theorem performAll_getLastD (surroundings : Surroundings) (session : Session)
    (operations : List Operation) :
    (session.performAll surroundings operations).entered.getLastD session.state =
      (session.performAll surroundings operations).value.state := by
  induction operations generalizing session with
  | nil => rfl
  | cons operation operations inductionHypothesis =>
    rw [performAll_cons, Traced.value_bind, Traced.entered_bind, ← inductionHypothesis,
      ← perform_getLastD]
    simp only [List.getLastD_eq_getLast?, List.getLast?_append]
    cases List.getLast? _ <;> rfl

/-- A session that has been opened, successfully or not, only grows, and enters no state. -/
theorem performAll_growsTo (surroundings : Surroundings) {session : Session}
    (opened : session.state ≠ .uninitialized) (operations : List Operation) :
    session.GrowsTo (session.performAll surroundings operations).value ∧
      (session.performAll surroundings operations).entered = [] := by
  induction operations generalizing session with
  | nil => exact ⟨.refl session, rfl⟩
  | cons operation operations inductionHypothesis =>
    obtain ⟨grows, entered⟩ := perform_growsTo surroundings session operation (.inr opened)
    obtain ⟨growsOn, enteredOn⟩ := inductionHypothesis (grows.state ▸ opened)
    rw [performAll_cons, Traced.value_bind, Traced.entered_bind, entered, enteredOn]
    exact ⟨grows.trans growsOn, rfl⟩

/-- A new session is still new after an operation that is no handshake. -/
theorem perform_new (surroundings : Surroundings) (operation : Operation)
    (other : operation.params? = none) :
    (Session.perform surroundings {} operation).value = {} := by
  cases operation with
  | establish params => cases other
  | initialized | openDocument _ | projectFor _ | projectForDocument _ => rfl

/-- The states a new session enters are those of its first handshake alone. -/
theorem performAll_entered (surroundings : Surroundings) (operations : List Operation) :
    (Session.performAll surroundings {} operations).entered =
      ((operations.findSome? Operation.params?).map fun params =>
        (Session.establish surroundings {} params).entered).getD [] := by
  induction operations with
  | nil => rfl
  | cons operation operations inductionHypothesis =>
    rw [performAll_cons, Traced.entered_bind]
    cases handshake : operation.params? with
    | none =>
      rw [List.findSome?_cons_of_isNone (by rw [handshake]; rfl), perform_new _ _ handshake,
        inductionHypothesis, (perform_growsTo surroundings {} operation (.inl handshake)).2]
      rfl
    | some params =>
      obtain rfl : operation = .establish params := by
        cases operation <;> cases handshake
        rfl
      have opened : (Session.perform surroundings {} (.establish params)).value.state ≠
          .uninitialized := by
        rw [perform_establish_value]
        obtain ⟨server, value, -⟩ | ⟨error, value, -⟩ :=
          establish_cases surroundings {} rfl params <;> rw [value] <;> exact nofun
      rw [List.findSome?_cons_of_isSome (by rw [handshake]; rfl),
        (performAll_growsTo surroundings opened _).2, perform_establish_entered, List.append_nil]
      rfl

/-- The lifecycle of a session. After any operations it rests; once it is ready or failed it stays
so, and keeps its server up to new projects and its watcher up to new patterns; and the states it
entered are none without a handshake, and otherwise one of the four ways of the first one. -/
theorem lifecycle (surroundings : Surroundings) (operations : List Operation) :
    let run := Session.performAll surroundings {} operations
    run.value.AtRest ∧
      (∀ later, run.value.state = .ready ∨ run.value.state = .failed →
        run.value.GrowsTo (run.value.performAll surroundings later).value) ∧
      run.entered.getLastD .uninitialized = run.value.state ∧
      match operations.findSome? Operation.params? with
      | none => run.entered = []
      | some params =>
        run.entered = (Session.establish surroundings {} params).entered ∧
          run.entered ∈ readyPath :: failedPaths := by
  have new : Session.AtRest {} := ⟨.inl rfl, by decide⟩
  refine ⟨performAll_atRest surroundings new operations, ?_,
    performAll_getLastD surroundings {} operations, ?_⟩
  · intro later opened
    refine (performAll_growsTo surroundings ?_ later).1
    rcases opened with ready | failed
    · rw [ready]
      exact nofun
    · rw [failed]
      exact nofun
  · have entered := performAll_entered surroundings operations
    cases first : operations.findSome? Operation.params? with
    | none =>
      rw [first] at entered
      exact entered
    | some params =>
      rw [first] at entered
      refine ⟨entered, ?_⟩
      rw [entered]
      obtain ⟨server, -, path⟩ | ⟨error, -, path⟩ :=
        establish_cases surroundings {} rfl params
      · exact List.mem_cons.mpr (.inl path)
      · exact List.mem_cons_of_mem _ path

end Session

end RippleServer
