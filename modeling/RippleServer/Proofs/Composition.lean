/-
This file tells what the server of a successful handshake is made of. A
handshake is a row of stages, each of which may fail, so the outcome can only be
a server if every stage had a result; and the server is put together from these
results and nothing else. Read backwards, the stages name the parts of a server:
the paths that were resolved, the modules found there, the factories of the
extension and the plugins these made. A session that is not opened was not new,
or the first stage that failed tells why.
-/

import RippleServer.Proofs.Handshake

namespace RippleServer

/-! ### Stages that succeed -/

namespace Attempt

variable {ε δ α β : Type}

/-- A row of two stages succeeds exactly if both do. -/
theorem bind_eq_ok_iff {attempt : Attempt ε α} {next : α → Attempt ε β} {result : β} :
    (attempt >>= next).run.value = .ok result ↔
      ∃ value, attempt.run.value = .ok value ∧ (next value).run.value = .ok result := by
  cases outcome : attempt.run.value with
  | error error =>
    rw [run_bind_of_error outcome]
    exact ⟨nofun, fun ⟨value, found, _⟩ => nomatch found⟩
  | ok value =>
    rw [run_bind_of_ok outcome]
    refine ⟨fun finish => ⟨value, rfl, finish⟩, ?_⟩
    rintro ⟨other, same, finish⟩
    cases same
    exact finish

/-- A row of two stages fails exactly if the first one does, or the second one after it. -/
theorem bind_eq_error_iff {attempt : Attempt ε α} {next : α → Attempt ε β} {error : ε} :
    (attempt >>= next).run.value = .error error ↔
      attempt.run.value = .error error ∨
        ∃ value, attempt.run.value = .ok value ∧ (next value).run.value = .error error := by
  cases outcome : attempt.run.value with
  | error other =>
    rw [run_bind_of_error outcome]
    constructor
    · rintro ⟨⟩
      exact .inl rfl
    · rintro (⟨⟨⟩⟩ | ⟨value, ⟨⟩, -⟩)
      rfl
  | ok value =>
    rw [run_bind_of_ok outcome]
    refine ⟨fun fails => .inr ⟨value, rfl, fails⟩, ?_⟩
    rintro (⟨⟨⟩⟩ | ⟨other, same, fails⟩)
    cases same
    exact fails

theorem mapError_eq_ok_iff {attempt : Attempt ε α} {change : ε → δ} {result : α} :
    (attempt.mapError change).run.value = .ok result ↔ attempt.run.value = .ok result := by
  rw [run_mapError, Traced.value_map]
  cases attempt.run.value with
  | error error => exact ⟨nofun, nofun⟩
  | ok found =>
    show (Except.ok found : Except δ α) = .ok result ↔ (Except.ok found : Except ε α) = .ok result
    rw [Except.ok.injEq, Except.ok.injEq]

end Attempt

/-! ### Plugins with one identity each -/

namespace PluginList

/-- No entry is repeated exactly if the entries are distinct and none was seen before. -/
theorem firstRepeated?_eq_none_iff {seen ids : List String} :
    firstRepeated? seen ids = none ↔ ids.Nodup ∧ ∀ id ∈ ids, id ∉ seen := by
  induction ids generalizing seen with
  | nil => simp [firstRepeated?]
  | cons id rest inductionHypothesis =>
    rw [firstRepeated?]
    by_cases known : id ∈ seen
    · rw [if_pos (List.contains_iff_mem.mpr known)]
      exact ⟨nofun, fun distinct => absurd known (distinct.2 id List.mem_cons_self)⟩
    · rw [if_neg (mt List.contains_iff_mem.mp known), inductionHypothesis, List.nodup_cons,
        List.forall_mem_cons]
      simp only [List.mem_cons, not_or]
      constructor
      · rintro ⟨distinct, apart⟩
        exact ⟨⟨fun member => (apart id member).1 rfl, distinct⟩, known,
          fun other member => (apart other member).2⟩
      · rintro ⟨⟨first, distinct⟩, -, apart⟩
        exact ⟨distinct, fun other member =>
          ⟨fun same => first (same ▸ member), apart other member⟩⟩

/-- Plugins that were put together are the generic ones with the one for diagnostics behind them,
and no two of them share an identity. -/
theorem aggregate_eq_ok_iff {generic : List ServicePlugin} {diagnostics : ServicePlugin}
    {list : PluginList} :
    aggregate generic diagnostics = .ok list ↔
      list.plugins = generic ++ [diagnostics] ∧ list.ids.Nodup := by
  obtain ⟨plugins⟩ := list
  unfold aggregate ids
  dsimp only
  cases repeated : firstRepeated? [] ((generic ++ [diagnostics]).map (·.id)) with
  | some id =>
    refine ⟨nofun, ?_⟩
    rintro ⟨rfl, distinct⟩
    rw [firstRepeated?_eq_none_iff.mpr ⟨distinct, fun _ _ => List.not_mem_nil⟩] at repeated
    cases repeated
  | none =>
    have distinct := (firstRepeated?_eq_none_iff.mp repeated).1
    constructor
    · rintro ⟨⟩
      exact ⟨rfl, distinct⟩
    · rintro ⟨rfl, -⟩
      rfl

end PluginList

/-! ### The parts of a server -/

namespace Handshake

/-- What the stages of a handshake have found and made. -/
structure Parts where
  dependencies : Dependencies
  extensions : Extensions
  language : LanguagePlugin
  generic : List ServicePlugin

/-- The server is composed of the parts, and has the same modules and plugins wherever it has them
twice. -/
structure Composes (surroundings : Surroundings) (params : InitializeParams) (parts : Parts)
    (server : ComposedServer) : Prop where
  dependencies : resolve surroundings.environment params = .ok parts.dependencies
  compiler : surroundings.loader.load parts.dependencies.compiler.path = .ok server.compiler
  sdk : (Sdk.load surroundings.loader parts.dependencies.sdk.path (localeOf params)).run.value =
    .ok ⟨server.sdk, server.messages⟩
  extensions : (surroundings.extensions.load surroundings.loader).run.value = .ok parts.extensions
  language : parts.extensions.languagePlugin server.compiler = .ok parts.language
  generic : (parts.extensions.servicePlugins server.sdk).run.value = .ok parts.generic
  plugins : PluginList.aggregate parts.generic parts.extensions.diagnosticsPlugin =
    .ok server.plugins
  initializeResult : server.initializeResult =
    ⟨server.plugins.serverCapabilities, "ripple-lsp", "0.1.0"⟩
  languages : server.languages = [parts.language]
  watchesOnRequest : server.watchesOnRequest = params.capabilities.watchesOnRequest
  projectSdk : server.projects.sdk = server.sdk
  projectMessages : server.projects.messages = server.messages
  projectLanguages : server.projects.languages = server.languages
  folders : server.projects.folders = params.folders.filterMap fun folder => folder.uri.toPath?

theorem load_eq_ok {surroundings : Surroundings} {dependencies : Dependencies} {locale : String}
    {loaded : Loaded} (loads : (load surroundings dependencies locale).run.value = .ok loaded) :
    surroundings.loader.load dependencies.compiler.path = .ok loaded.compiler ∧
      (Sdk.load surroundings.loader dependencies.sdk.path locale).run.value = .ok loaded.sdk ∧
      (surroundings.extensions.load surroundings.loader).run.value = .ok loaded.extensions := by
  obtain ⟨compiler, compilerFound, loads⟩ := Attempt.bind_eq_ok_iff.mp loads
  obtain ⟨sdk, sdkFound, loads⟩ := Attempt.bind_eq_ok_iff.mp loads
  obtain ⟨extensions, extensionsFound, loads⟩ := Attempt.bind_eq_ok_iff.mp loads
  cases loads
  exact ⟨Attempt.mapError_eq_ok_iff.mp compilerFound, Attempt.mapError_eq_ok_iff.mp sdkFound,
    extensionsFound⟩

/-- A handshake that succeeds has composed its server of the parts its stages found and made, and
there are no projects yet. -/
theorem stages_eq_ok {surroundings : Surroundings} {params : InitializeParams}
    {server : ComposedServer} (succeeds : (stages surroundings params).run.value = .ok server) :
    (∃ parts, Composes surroundings params parts server) ∧ server.projects.projects = [] := by
  obtain ⟨dependencies, resolved, succeeds⟩ := Attempt.bind_eq_ok_iff.mp succeeds
  obtain ⟨loaded, loads, succeeds⟩ := Attempt.bind_eq_ok_iff.mp succeeds
  obtain ⟨compiler, sdk, extensions⟩ := load_eq_ok loads
  obtain ⟨language, languageMade, succeeds⟩ := Attempt.bind_eq_ok_iff.mp succeeds
  obtain ⟨generic, genericMade, succeeds⟩ := Attempt.bind_eq_ok_iff.mp succeeds
  obtain ⟨plugins, aggregated, succeeds⟩ := Attempt.bind_eq_ok_iff.mp succeeds
  cases succeeds
  refine ⟨⟨⟨dependencies, loaded.extensions, language, generic⟩, ?_⟩, rfl⟩
  exact
    { dependencies := resolved
      compiler := compiler
      sdk := sdk
      extensions := extensions
      language := Attempt.mapError_eq_ok_iff.mp languageMade
      generic := Attempt.mapError_eq_ok_iff.mp genericMade
      plugins := Attempt.mapError_eq_ok_iff.mp aggregated
      initializeResult := rfl
      languages := rfl
      watchesOnRequest := rfl
      projectSdk := rfl
      projectMessages := rfl
      projectLanguages := rfl
      folders := rfl }

end Handshake

/-- A session that is opened with success was new, and its server is composed of the parts of the
handshake. -/
theorem Session.establish_eq_ok {surroundings : Surroundings} {session : Session}
    {params : InitializeParams} {server : ComposedServer}
    (succeeds : (session.establish surroundings params).value.1 = .ok server) :
    session.state = .uninitialized ∧
      (∃ parts, Handshake.Composes surroundings params parts server) ∧
        server.projects.projects = [] := by
  by_cases new : session.state = .uninitialized
  · refine ⟨new, Handshake.stages_eq_ok ?_⟩
    rw [← succeeds]
    exact (establish_eq_stages new Event.sent? (fun _ _ => rfl) (fun _ => rfl)
      fun _ _ _ => rfl).1.symm
  · rw [establish_of_opened new] at succeeds
    cases succeeds

/-! ### Handshakes that fail -/

/-- A stage of the handshake fails, after those before it have succeeded. -/
inductive Handshake.Fails (surroundings : Surroundings) (params : InitializeParams) :
    InitializeError → Prop
  | resolving {error : InitializeError}
    (unresolved : resolve surroundings.environment params = .error error) :
    Fails surroundings params error
  | loading {dependencies : Dependencies} {error : InitializeError}
    (resolved : resolve surroundings.environment params = .ok dependencies)
    (unloaded : (load surroundings dependencies (localeOf params)).run.value = .error error) :
    Fails surroundings params error
  | composing {dependencies : Dependencies} {loaded : Loaded} {error : InitializeError}
    (resolved : resolve surroundings.environment params = .ok dependencies)
    (loads : (load surroundings dependencies (localeOf params)).run.value = .ok loaded)
    (uncomposed : (compose loaded params).run.value = .error error) :
    Fails surroundings params error

theorem Handshake.stages_eq_error_iff {surroundings : Surroundings} {params : InitializeParams}
    {error : InitializeError} :
    (stages surroundings params).run.value = .error error ↔ Fails surroundings params error := by
  have resolving : (Attempt.ofExcept (resolve surroundings.environment params)).run.value =
      resolve surroundings.environment params := rfl
  rw [stages, Attempt.bind_eq_error_iff, resolving]
  constructor
  · rintro (unresolved | ⟨dependencies, resolved, fails⟩)
    · exact .resolving unresolved
    · obtain unloaded | ⟨loaded, loads, uncomposed⟩ := Attempt.bind_eq_error_iff.mp fails
      · exact .loading resolved unloaded
      · exact .composing resolved loads uncomposed
  · intro fails
    cases fails with
    | resolving unresolved => exact .inl unresolved
    | loading resolved unloaded =>
      exact .inr ⟨_, resolved, Attempt.bind_eq_error_iff.mpr (.inl unloaded)⟩
    | composing resolved loads uncomposed =>
      exact .inr ⟨_, resolved, Attempt.bind_eq_error_iff.mpr (.inr ⟨_, loads, uncomposed⟩)⟩

namespace Session

/-- A session is not opened: it has been before, or a stage of the handshake fails. -/
inductive Refuses (surroundings : Surroundings) (session : Session) (params : InitializeParams) :
    InitializeError → Prop
  | opened (opened : session.state ≠ .uninitialized) :
    Refuses surroundings session params (.alreadyInitialized session.state)
  | failed {error : InitializeError} (new : session.state = .uninitialized)
    (fails : Handshake.Fails surroundings params error) :
    Refuses surroundings session params error

theorem establish_eq_error_iff {surroundings : Surroundings} {session : Session}
    {params : InitializeParams} {error : InitializeError} :
    (session.establish surroundings params).value.1 = .error error ↔
      session.Refuses surroundings params error := by
  by_cases new : session.state = .uninitialized
  · rw [(establish_eq_stages new Event.sent? (fun _ _ => rfl) (fun _ => rfl) fun _ _ _ => rfl).1,
      Handshake.stages_eq_error_iff]
    refine ⟨.failed new, fun refuses => ?_⟩
    cases refuses with
    | opened opened => exact absurd new opened
    | failed new fails => exact fails
  · rw [establish_of_opened new]
    constructor
    · rintro ⟨⟩
      exact .opened new
    · intro refuses
      cases refuses with
      | opened => rfl
      | failed isNew => exact absurd isNew new

end Session

/-! ### The language of the server -/

namespace ExtensionSource

/-- Whatever the factories of the source make a language plugin of, it is the one for Ripple. -/
def SpeaksRipple (source : ExtensionSource) : Prop :=
  ∀ loader extensions, (source.load loader).run.value = .ok extensions →
    ∀ compiler language, extensions.languagePlugin compiler = .ok language →
      language = .ripple compiler

theorem directory_speaksRipple (root? : Option Path) : (directory root?).SpeaksRipple := by
  intro loader extensions loads compiler language made
  cases root? with
  | none => cases loads
  | some root =>
    obtain ⟨_, -, loads⟩ := Attempt.bind_eq_ok_iff.mp loads
    obtain ⟨_, -, loads⟩ := Attempt.bind_eq_ok_iff.mp loads
    obtain ⟨_, -, loads⟩ := Attempt.bind_eq_ok_iff.mp loads
    cases loads
    cases made
    rfl

theorem prepared_speaksRipple (plugins : List ServicePlugin) (diagnostics : ServicePlugin)
    (languageFailure serviceFailure : Option String) :
    (prepared plugins diagnostics languageFailure serviceFailure).SpeaksRipple := by
  intro loader extensions loads compiler language made
  cases loads
  cases languageFailure with
  | some reason => cases made
  | none =>
    cases made
    rfl

end ExtensionSource

/-- The only language of a server that speaks Ripple is Ripple, with the compiler of the server. -/
theorem Handshake.Composes.languages_eq {surroundings : Surroundings} {params : InitializeParams}
    {parts : Handshake.Parts} {server : ComposedServer}
    (composes : Handshake.Composes surroundings params parts server)
    (ripple : surroundings.extensions.SpeaksRipple) :
    server.languages = [.ripple server.compiler] := by
  rw [composes.languages,
    ripple _ _ composes.extensions _ _ composes.language]

end RippleServer
