/-
This file proves that a session that is ready stays coherent. Its server has the
SDK, the texts and the languages in three places: for itself, in the project
service and in every project. The handshake puts the same data into the first
two, a project gets its data from the service that creates it, and no operation
changes any of them; so all three agree in every session that can be reached,
and they agree with what the handshake found and made.
-/

import RippleServer.Proofs.Composition
import RippleServer.Proofs.Lifecycle

namespace RippleServer

/-! ### The projects of a service -/

namespace ProjectService

/-- Every project is the one the service would create for its root. -/
def Uniform (service : ProjectService) : Prop :=
  ∀ project ∈ service.projects, project = service.create project.root

theorem uniform_of_eq_nil {service : ProjectService} (empty : service.projects = []) :
    service.Uniform := by
  intro project member
  rw [empty] at member
  cases member

/-- A uniform service stays uniform, and answers with a project like all the others. -/
theorem Uniform.projectFor {service : ProjectService} (uniform : service.Uniform) (root : Path) :
    (service.projectFor root).value.2.Uniform ∧
      (service.projectFor root).value.1 =
        service.create (service.projectFor root).value.1.root := by
  unfold ProjectService.projectFor
  split
  · rename_i project found
    exact ⟨uniform, uniform project (List.mem_of_find?_eq_some found)⟩
  · refine ⟨fun project member => ?_, rfl⟩
    rcases List.mem_append.mp member with old | new
    · exact uniform project old
    · rw [List.mem_singleton.mp new]
      rfl

end ProjectService

namespace Session

/-- The projects of the server, if there is one, are all alike. -/
def Uniform (session : Session) : Prop :=
  ∀ server ∈ session.server, server.projects.Uniform

theorem uniform_new : Session.Uniform {} :=
  fun server present => absurd present (Option.not_mem_none server)

theorem uniform_withProjects {session : Session} {server : ComposedServer}
    {projects : ProjectService} (uniform : projects.Uniform) :
    (session.withProjects server projects).Uniform := by
  intro other present
  cases present
  exact uniform

theorem Uniform.establish {session : Session} (uniform : session.Uniform)
    (surroundings : Surroundings) (params : InitializeParams) :
    (session.establish surroundings params).value.2.Uniform := by
  by_cases new : session.state = .uninitialized
  · obtain ⟨server, value, -⟩ | ⟨error, value, -⟩ := establish_cases surroundings session new params
    · have empty := (establish_eq_ok (congrArg Prod.fst value)).2.2
      rw [value]
      rintro _ ⟨⟩
      exact ProjectService.uniform_of_eq_nil empty
    · rw [value]
      exact uniform
  · rw [establish_of_opened new]
    exact uniform

theorem Uniform.initialized {session : Session} (uniform : session.Uniform) :
    session.initialized.value.2.Uniform := by
  unfold Session.initialized
  split
  · exact uniform
  · split <;> exact uniform

theorem Uniform.openDocument {session : Session} (uniform : session.Uniform) (uri : Uri) :
    (session.openDocument uri).value.2.Uniform := by
  unfold Session.openDocument
  split
  · exact uniform
  · rename_i server handed
    split
    · exact uniform
    · exact uniform_withProjects ((uniform server (ready_eq_ok handed).2).projectFor _).1

theorem Uniform.askProjects {session : Session} (uniform : session.Uniform)
    {ask : ProjectService → Traced (Project × ProjectService)}
    (keeps : ∀ service : ProjectService, service.Uniform → (ask service).value.2.Uniform) :
    (session.askProjects ask).value.Uniform := by
  unfold Session.askProjects
  split
  · exact uniform
  · rename_i server present
    exact uniform_withProjects (keeps server.projects (uniform server present))

theorem Uniform.perform {session : Session} (uniform : session.Uniform)
    (surroundings : Surroundings) (operation : Operation) :
    (session.perform surroundings operation).value.Uniform := by
  cases operation with
  | establish params => exact uniform.establish surroundings params
  | initialized => exact uniform.initialized
  | openDocument uri => exact uniform.openDocument uri
  | projectFor root => exact uniform.askProjects fun service alike => (alike.projectFor root).1
  | projectForDocument document =>
    exact uniform.askProjects fun service alike => (alike.projectFor _).1

theorem Uniform.performAll {session : Session} (uniform : session.Uniform)
    (surroundings : Surroundings) (operations : List Operation) :
    (session.performAll surroundings operations).value.Uniform := by
  induction operations generalizing session with
  | nil => exact uniform
  | cons operation operations inductionHypothesis =>
    rw [performAll_cons, Traced.value_bind]
    exact inductionHypothesis (uniform.perform surroundings operation)

/-! ### The handshake behind a session that is ready -/

theorem GrowsTo.isSome_server {before after : Session} (grows : before.GrowsTo after) :
    after.server.isSome = before.server.isSome := by
  have related := grows.server
  generalize before.server = one, after.server = two at related ⊢
  cases related <;> rfl

theorem GrowsTo.exists_server {before after : Session} (grows : before.GrowsTo after)
    {server : ComposedServer} (present : before.server = some server) :
    ∃ later, after.server = some later ∧ server.GrowsTo later := by
  have related := grows.server
  rw [present] at related
  generalize after.server = found at related ⊢
  cases related with
  | some related => exact ⟨_, rfl, related⟩

/-- A new session that became ready has done so by its first handshake, and has only grown since. -/
theorem performAll_of_ready {surroundings : Surroundings} {operations : List Operation}
    (ready : (Session.performAll surroundings {} operations).value.state = .ready) :
    ∃ params answered server,
      operations.findSome? Operation.params? = some params ∧
        (Session.establish surroundings {} params).value.1 = .ok answered ∧
        (Session.performAll surroundings {} operations).value.server = some server ∧
        answered.GrowsTo server := by
  induction operations with
  | nil => cases ready
  | cons operation operations inductionHypothesis =>
    rw [performAll_cons, Traced.value_bind] at ready ⊢
    cases handshake : operation.params? with
    | none =>
      rw [perform_new _ _ handshake] at ready ⊢
      rw [List.findSome?_cons_of_isNone (by rw [handshake]; rfl)]
      exact inductionHypothesis ready
    | some params =>
      obtain rfl : operation = .establish params := by
        cases operation <;> cases handshake
        rfl
      rw [perform_establish_value] at ready ⊢
      rw [List.findSome?_cons_of_isSome (by rw [handshake]; rfl), handshake]
      obtain ⟨answered, value, -⟩ | ⟨error, value, -⟩ :=
        establish_cases surroundings {} rfl params
      · have opened : ({ server := some answered, state := .ready } : Session).state ≠
            .uninitialized := nofun
        obtain ⟨grows, -⟩ := performAll_growsTo surroundings opened operations
        obtain ⟨server, present, same⟩ := grows.exists_server rfl
        exact ⟨params, answered, server, rfl, congrArg Prod.fst value,
          value ▸ present, same⟩
      · -- A session that failed stays so.
        have opened : ({ state := .failed } : Session).state ≠ .uninitialized := nofun
        obtain ⟨grows, -⟩ := performAll_growsTo surroundings opened operations
        rw [value, grows.state] at ready
        cases ready

end Session

/-! ### Coherence -/

/-- The project has the SDK, the texts and the languages of the server. -/
structure ComposedServer.Equips (server : ComposedServer) (project : Project) : Prop where
  sdk : project.sdk = server.sdk
  messages : project.messages = server.messages
  languages : project.languages = server.languages

namespace Handshake

variable {surroundings : Surroundings} {params : InitializeParams} {parts : Parts}
  {server later : ComposedServer}

/-- A server is composed of the same parts however many projects it has. -/
theorem Composes.of_growsTo (composes : Composes surroundings params parts server)
    (grows : server.GrowsTo later) : Composes surroundings params parts later where
  dependencies := composes.dependencies
  compiler := grows.compiler ▸ composes.compiler
  sdk := by rw [composes.sdk, grows.sdk, grows.messages]
  extensions := composes.extensions
  language := grows.compiler ▸ composes.language
  generic := grows.sdk ▸ composes.generic
  plugins := grows.plugins ▸ composes.plugins
  initializeResult := by rw [grows.initializeResult, composes.initializeResult, grows.plugins]
  languages := grows.languages.trans composes.languages
  watchesOnRequest := grows.watchesOnRequest.trans composes.watchesOnRequest
  projectSdk := by rw [grows.projects.sdk, composes.projectSdk, grows.sdk]
  projectMessages := by rw [grows.projects.messages, composes.projectMessages, grows.messages]
  projectLanguages := by rw [grows.projects.languages, composes.projectLanguages, grows.languages]
  folders := grows.projects.folders.trans composes.folders

/-- What the project service creates has what the server has. -/
theorem Composes.equips_create (composes : Composes surroundings params parts server)
    (root : Path) : server.Equips (server.projects.create root) :=
  ⟨composes.projectSdk, composes.projectMessages, composes.projectLanguages⟩

end Handshake

/-- Everything a server shows of itself agrees with the parts of the handshake that led to it. -/
structure ComposedServer.Coherent (surroundings : Surroundings) (params : InitializeParams)
    (parts : Handshake.Parts) (server : ComposedServer) : Prop where
  /-- The server has the modules and the plugins that the handshake found and made. -/
  composes : Handshake.Composes surroundings params parts server
  plugins : server.plugins.plugins = parts.generic ++ [parts.extensions.diagnosticsPlugin]
  distinct : (server.plugins.plugins.map (·.id)).Nodup
  /-- What is advertised to the client follows from these plugins. -/
  capabilities : server.initializeResult.toJson.get? "capabilities" =
    some (PluginList.advertised ⟨parts.generic ++ [parts.extensions.diagnosticsPlugin]⟩)
  languages : server.languages = [.ripple server.compiler]
  serviceLanguages : server.projects.languages = server.languages
  folders : server.projects.folders = params.folders.filterMap fun folder => folder.uri.toPath?
  /-- The projects there are, and those the service answers with, have what the server has. -/
  projects : ∀ project ∈ server.projects.projects, server.Equips project
  projectFor : ∀ root, server.Equips (server.projects.projectFor root).value.1
  projectForDocument :
    ∀ document, server.Equips (server.projects.projectForDocument document).value.1

theorem InitializeResult.get?_capabilities (result : InitializeResult) :
    result.toJson.get? "capabilities" = some result.capabilities.toJson := by
  have different : "capabilities" ≠ "serverInfo" := by decide
  rw [toJson, Json.object, Json.get?]
  exact (Json.member?_insert_other different _ _).trans (Json.member?_insert_self _ _ _)

theorem Handshake.Composes.coherent {surroundings : Surroundings} {params : InitializeParams}
    {parts : Handshake.Parts} {server : ComposedServer}
    (composes : Handshake.Composes surroundings params parts server)
    (ripple : surroundings.extensions.SpeaksRipple) (uniform : server.projects.Uniform) :
    server.Coherent surroundings params parts := by
  obtain ⟨plugins, distinct⟩ := PluginList.aggregate_eq_ok_iff.mp composes.plugins
  have equips : ∀ project : Project, project = server.projects.create project.root →
      server.Equips project := by
    intro project created
    rw [created]
    exact composes.equips_create project.root
  have answers : ∀ root, server.Equips (server.projects.projectFor root).value.1 :=
    fun root => equips _ (uniform.projectFor root).2
  exact
    { composes := composes
      plugins := plugins
      distinct := distinct
      capabilities := by
        rw [InitializeResult.get?_capabilities, composes.initializeResult, ← plugins]
        rfl
      languages := composes.languages_eq ripple
      serviceLanguages := composes.projectLanguages
      folders := composes.folders
      projects := fun project member => equips project (uniform project member)
      projectFor := answers
      projectForDocument := fun document => answers (server.projects.rootFor document) }

namespace Session

/-- A document that is opened gets a project of the service. -/
theorem openDocument_eq_ok {session : Session} {uri : Uri} {project : Project}
    (opened : (session.openDocument uri).value.1 = .ok (some project)) :
    ∃ server document, session.server = some server ∧
      project = (server.projects.projectForDocument document).value.1 := by
  unfold openDocument at opened
  split at opened
  · cases opened
  · rename_i server handed
    split at opened
    · cases opened
    · rename_i path _
      cases opened
      exact ⟨server, path, (ready_eq_ok handed).2, rfl⟩

/-- Every session that is ready is coherent, whatever was asked of it since it was new. Its server
is the one the first handshake answered with, composed of what that handshake found and made; and
every project there is, or that an operation answers with, has what the server has. -/
theorem coherent_of_ready {surroundings : Surroundings}
    (ripple : surroundings.extensions.SpeaksRipple) {operations : List Operation}
    (ready : (Session.performAll surroundings {} operations).value.state = .ready) :
    let session := (Session.performAll surroundings {} operations).value
    ∃ params parts answered server,
      operations.findSome? Operation.params? = some params ∧
        (Session.establish surroundings {} params).value.1 = .ok answered ∧
        session.server = some server ∧
        answered.initializeResult = server.initializeResult ∧
        server.Coherent surroundings params parts ∧
        ∀ uri project, (session.openDocument uri).value.1 = .ok (some project) →
          server.Equips project := by
  intro session
  obtain ⟨params, answered, server, first, succeeds, present, grows⟩ := performAll_of_ready ready
  obtain ⟨-, ⟨parts, composed⟩, -⟩ := establish_eq_ok succeeds
  have uniform : server.projects.Uniform :=
    uniform_new.performAll surroundings operations server present
  have coherent := (composed.of_growsTo grows).coherent ripple uniform
  refine ⟨params, parts, answered, server, first, succeeds, present,
    grows.initializeResult.symm, coherent, fun uri project opened => ?_⟩
  obtain ⟨other, document, presentToo, rfl⟩ := openDocument_eq_ok opened
  cases present.symm.trans presentToo
  exact coherent.projectForDocument document

/-- A session with a folder that is no file, asked for projects around a second handshake: it has
one folder and two projects, which have what its server has. -/
theorem coherent_of_ready_with_two_projects :
    let surroundings : Surroundings :=
      ⟨⟨fun path => .ok { path }, fun path => .error (.notFound path)⟩,
        .prepared [{ id := "generic" }] { id := "diagnostics" } none none, ⟨[]⟩⟩
    let params : InitializeParams :=
      { options := some (.obj [("ripplePath", .str "compiler"),
          ("typescript", .obj [("tsdk", .str "typescript/lib")])])
        folders := [⟨⟨"untitled:draft"⟩, "draft"⟩, ⟨⟨"file:///work"⟩, "work"⟩] }
    let session := (Session.performAll surroundings {}
      [.initialized, .establish params, .projectForDocument ⟨"/work/src/App.ripple"⟩,
        .establish {}, .projectFor ⟨"/other"⟩, .projectFor ⟨"/work/"⟩]).value
    surroundings.extensions.SpeaksRipple ∧ session.state = .ready ∧
      ∃ server, session.server = some server ∧
        server.plugins.plugins.map (·.id) = ["generic", "diagnostics"] ∧
        server.projects.folders = [⟨"/work"⟩] ∧
        server.projects.projects.map (·.root) = [⟨"/work"⟩, ⟨"/other"⟩] ∧
        ∀ project ∈ server.projects.projects, server.Equips project := by
  intro surroundings params session
  have ripple : surroundings.extensions.SpeaksRipple :=
    ExtensionSource.prepared_speaksRipple [{ id := "generic" }] { id := "diagnostics" } none none
  have ready : session.state = .ready := by decide +kernel
  obtain ⟨opening, parts, answered, server, first, -, present, -, coherent, -⟩ :=
    coherent_of_ready ripple ready
  obtain rfl : params = opening := Option.some.inj first
  have shown : session.server.map (fun server =>
      (server.plugins.plugins.map (·.id), server.projects.projects.map (·.root))) =
        some (["generic", "diagnostics"], [⟨"/work"⟩, ⟨"/other"⟩]) := by decide +kernel
  rw [present] at shown
  obtain ⟨ids, roots⟩ := Prod.mk.inj (Option.some.inj shown)
  exact ⟨ripple, ready, server, present, ids, coherent.folders.trans (by decide +kernel), roots,
    coherent.projects⟩

end Session

end RippleServer
