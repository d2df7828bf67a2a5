/-
This file lists what a handshake asks the loader. The list is written down as a
plan: probes in a row, each with its lookups and the failure it meets, if it
does. A handshake follows its plan if it makes the lookups of all probes up to
the first that fails and has that failure as its outcome. Computations are shown
to follow plans part by part, as they are put together.
-/

import RippleServer.Proofs.Handshake

namespace RippleServer

/-! ### Plans -/

/-- A step of a plan: what is asked of the loader, and the failure that ends the plan here. -/
structure Probe (ε : Type) where
  lookups : List Lookup
  failure : Option ε

namespace Probe

/-- The lookups of a plan, up to its first failure. -/
def asked {ε : Type} : List (Probe ε) → List Lookup
  | [] => []
  | probe :: rest => probe.lookups ++ if probe.failure.isSome then [] else asked rest

/-- The first failure of a plan. -/
def failure? {ε : Type} (plan : List (Probe ε)) : Option ε :=
  plan.findSome? Probe.failure

/-- The step with its failure put into the words of another plan. -/
def mapError {ε δ : Type} (change : ε → δ) (probe : Probe ε) : Probe δ :=
  ⟨probe.lookups, probe.failure.map change⟩

theorem asked_append_of_none {ε : Type} {plan : List (Probe ε)} (passes : failure? plan = none)
    (rest : List (Probe ε)) : asked (plan ++ rest) = asked plan ++ asked rest := by
  induction plan with
  | nil => rfl
  | cons probe plan inductionHypothesis =>
    rw [failure?, List.findSome?_cons] at passes
    cases probeFailure : probe.failure with
    | some error =>
      rw [probeFailure] at passes
      cases passes
    | none =>
      rw [probeFailure] at passes
      rw [List.cons_append, asked, asked, probeFailure, inductionHypothesis passes]
      simp

theorem asked_append_of_some {ε : Type} {plan : List (Probe ε)} {error : ε}
    (fails : failure? plan = some error) (rest : List (Probe ε)) :
    asked (plan ++ rest) = asked plan := by
  induction plan with
  | nil => cases fails
  | cons probe plan inductionHypothesis =>
    rw [failure?, List.findSome?_cons] at fails
    cases probeFailure : probe.failure with
    | some error => rw [List.cons_append, asked, asked, probeFailure]; rfl
    | none =>
      rw [probeFailure] at fails
      rw [List.cons_append, asked, asked, probeFailure, inductionHypothesis fails]

theorem failure?_append {ε : Type} (plan rest : List (Probe ε)) :
    failure? (plan ++ rest) = (failure? plan).or (failure? rest) :=
  List.findSome?_append

theorem asked_map_mapError {ε δ : Type} (change : ε → δ) (plan : List (Probe ε)) :
    asked (plan.map (mapError change)) = asked plan := by
  induction plan with
  | nil => rfl
  | cons probe plan inductionHypothesis =>
    rw [List.map_cons, asked, asked, inductionHypothesis, mapError, Option.isSome_map]

theorem failure?_map_mapError {ε δ : Type} (change : ε → δ) (plan : List (Probe ε)) :
    failure? (plan.map (mapError change)) = (failure? plan).map change := by
  induction plan with
  | nil => rfl
  | cons probe plan inductionHypothesis =>
    rw [failure?, failure?, List.map_cons, List.findSome?_cons, List.findSome?_cons]
    cases probeFailure : probe.failure with
    | some error => rw [mapError, probeFailure]; rfl
    | none => rw [mapError, probeFailure]; exact inductionHypothesis

end Probe

/-- The error of a result, if it is one. -/
def failureOf {ε α : Type} : Except ε α → Option ε
  | .ok _ => none
  | .error error => some error

/-! ### Following a plan -/

namespace Attempt

/-- The attempt makes the lookups of the plan up to its first failure. If there is one it is the
outcome, and otherwise the outcome is a result of some kind. -/
structure Follows {ε α : Type} (attempt : Attempt ε α) (plan : List (Probe ε))
    (Result : α → Prop) : Prop where
  lookups : attempt.run.lookups = Probe.asked plan
  failure : ∀ error, attempt.run.value = .error error → Probe.failure? plan = some error
  result : ∀ value, attempt.run.value = .ok value → Probe.failure? plan = none ∧ Result value

variable {ε δ α β : Type}

theorem follows_pure {Result : α → Prop} {value : α} (holds : Result value) :
    Follows (pure value : Attempt ε α) [] Result := by
  refine ⟨rfl, nofun, fun other same => ⟨rfl, ?_⟩⟩
  cases same
  exact holds

theorem Follows.error_iff {attempt : Attempt ε α} {plan : List (Probe ε)} {Result : α → Prop}
    (follows : Follows attempt plan Result) (error : ε) :
    attempt.run.value = .error error ↔ Probe.failure? plan = some error := by
  refine ⟨follows.failure error, fun fails => ?_⟩
  cases outcome : attempt.run.value with
  | error other =>
    rw [follows.failure other outcome] at fails
    exact congrArg Except.error (Option.some.inj fails)
  | ok value =>
    rw [(follows.result value outcome).1] at fails
    cases fails

theorem Follows.exists_ok_iff {attempt : Attempt ε α} {plan : List (Probe ε)} {Result : α → Prop}
    (follows : Follows attempt plan Result) :
    (∃ value, attempt.run.value = .ok value) ↔ Probe.failure? plan = none := by
  refine ⟨fun ⟨value, outcome⟩ => (follows.result value outcome).1, fun passes => ?_⟩
  cases outcome : attempt.run.value with
  | error error =>
    rw [follows.failure error outcome] at passes
    cases passes
  | ok value => exact ⟨value, rfl⟩

theorem Follows.bind {attempt : Attempt ε α} {next : α → Attempt ε β} {plan rest : List (Probe ε)}
    {Result : α → Prop} {Final : β → Prop} (first : Follows attempt plan Result)
    (behind : ∀ value, Result value → Follows (next value) rest Final) :
    Follows (attempt >>= next) (plan ++ rest) Final := by
  cases outcome : attempt.run.value with
  | error error =>
    have fails := first.failure error outcome
    have run := run_bind_of_error outcome next
    refine ⟨?_, fun other same => ?_, fun value same => ?_⟩
    · rw [Probe.asked_append_of_some fails, ← first.lookups, Traced.lookups, run]
      rfl
    · rw [run] at same
      cases same
      rw [Probe.failure?_append, fails]
      rfl
    · rw [run] at same
      cases same
  | ok value =>
    obtain ⟨passes, holds⟩ := first.result value outcome
    have second := behind value holds
    have run := run_bind_of_ok outcome next
    refine ⟨?_, fun error same => ?_, fun final same => ?_⟩
    · rw [Probe.asked_append_of_none passes, ← first.lookups, ← second.lookups, Traced.lookups, run]
      exact List.filterMap_append
    · rw [run] at same
      rw [Probe.failure?_append, passes]
      exact second.failure error same
    · rw [run] at same
      rw [Probe.failure?_append, passes]
      exact second.result final same

theorem Follows.mapError {attempt : Attempt ε α} {plan : List (Probe ε)} {Result : α → Prop}
    (follows : Follows attempt plan Result) (change : ε → δ) :
    Follows (attempt.mapError change) (plan.map (Probe.mapError change)) Result := by
  have value : (attempt.mapError change).run.value =
      Except.mapError change attempt.run.value := rfl
  refine ⟨?_, fun error same => ?_, fun result same => ?_⟩
  · rw [Probe.asked_map_mapError, ← follows.lookups, Traced.lookups, run_mapError,
      Traced.events_map]
    rfl
  · rw [Probe.failure?_map_mapError]
    cases outcome : attempt.run.value with
    | ok result =>
      rw [value, outcome] at same
      cases same
    | error cause =>
      rw [value, outcome] at same
      cases same
      rw [follows.failure cause outcome]
      rfl
  · rw [Probe.failure?_map_mapError]
    cases outcome : attempt.run.value with
    | ok result' =>
      rw [value, outcome] at same
      cases same
      obtain ⟨passes, holds⟩ := follows.result _ outcome
      rw [passes]
      exact ⟨rfl, holds⟩
    | error cause =>
      rw [value, outcome] at same
      cases same

/-- Every attempt follows the plan of its own lookups and its own failure. -/
theorem follows_self (attempt : Attempt ε α) :
    Follows attempt [⟨attempt.run.lookups, failureOf attempt.run.value⟩] fun _ => True := by
  have asked : ∀ probe : Probe ε, Probe.asked [probe] = probe.lookups := by
    intro probe
    rw [Probe.asked, Probe.asked, ite_self, List.append_nil]
  refine ⟨(asked ⟨_, _⟩).symm, fun error same => ?_, fun value same => ⟨?_, trivial⟩⟩
  · rw [same]
    rfl
  · rw [same]
    rfl

theorem follows_throw (error : ε) (Result : α → Prop) :
    Follows (throw error : Attempt ε α) [⟨[], some error⟩] Result := by
  refine ⟨rfl, fun other same => ?_, nofun⟩
  cases same
  rfl

/-- An event that asks nothing is not part of a plan. -/
theorem follows_emit {event : Event} (silent : event.lookup? = none) :
    Follows (emit event : Attempt ε Unit) [] fun _ => True := by
  refine ⟨?_, nofun, fun value _ => ⟨rfl, trivial⟩⟩
  simp [Traced.lookups, silent, Probe.asked]

end Attempt

/-! ### Modules and texts -/

/-- Asking for a module. -/
def Probe.module (loader : Loader) (path : Path) : Probe LoadError :=
  ⟨[.load path], failureOf (loader.load path)⟩

theorem Loader.fetch_follows (loader : Loader) (path : Path) :
    (loader.fetch path).Follows [.module loader path] fun _ => True :=
  Attempt.follows_self (loader.fetch path)

namespace Messages

/-- There is a table of texts for the candidate. -/
def isUsable (loader : Loader) (sdkRoot : Path) (candidate : String) : Bool :=
  match loader.loadJson (tablePath sdkRoot candidate) with
  | .ok value => (failureOf (Json.asTextTable value)).isNone
  | .error _ => false

/-- The candidates up to and with the first usable one. -/
def tried (loader : Loader) (sdkRoot : Path) : List String → List String
  | [] => []
  | candidate :: rest =>
    candidate :: if isUsable loader sdkRoot candidate then [] else tried loader sdkRoot rest

theorem tryTable_lookups (loader : Loader) (sdkRoot : Path) (candidate : String) :
    (tryTable loader sdkRoot candidate).lookups =
        [.loadJson (tablePath sdkRoot candidate)] ∧
      (tryTable loader sdkRoot candidate).value.isSome = isUsable loader sdkRoot candidate := by
  unfold tryTable isUsable
  dsimp only
  rw [Loader.run_fetchJson]
  cases loader.loadJson (tablePath sdkRoot candidate) with
  | error error => cases error <;> exact ⟨rfl, rfl⟩
  | ok value =>
    cases table : Json.asTextTable value with
    | ok entries => simp [Traced.lookups, Event.lookup?, failureOf, table]
    | error problem => simp [Traced.lookups, Event.lookup?, failureOf, table]

theorem firstUsable_lookups (loader : Loader) (sdkRoot : Path) (candidates : List String) :
    (firstUsable loader sdkRoot candidates).lookups =
      (tried loader sdkRoot candidates).map fun candidate =>
        .loadJson (tablePath sdkRoot candidate) := by
  induction candidates with
  | nil => rfl
  | cons candidate rest inductionHypothesis =>
    obtain ⟨lookups, usable⟩ := tryTable_lookups loader sdkRoot candidate
    rw [firstUsable, tried, Traced.lookups_bind, lookups, List.map_cons, ← usable]
    cases (tryTable loader sdkRoot candidate).value with
    | none => exact congrArg _ inductionHypothesis
    | some messages => rfl

end Messages

/-! ### The SDK -/

namespace Sdk

/-- The version the manifest of the package declares, if it is the package of the SDK. -/
def declaredVersion? (loader : Loader) (manifest : Path) : Option String :=
  match loader.loadJson manifest with
  | .error _ => none
  | .ok value =>
    match Manifest.ofJson value with
    | .error _ => none
    | .ok manifest => if manifest.name = some "typescript" then manifest.version else none

/-- The error about a version that is too old. -/
def outdated? (root : Path) (version : String) : Option LoadError :=
  if (major? version).any (· < 4) then
    some (.incompatible root ("TypeScript " ++ version ++
      " is not supported; 4.0 or newer is required"))
  else none

/-- Looking for the version of the SDK. Where there is no manifest to ask for, nothing is asked. -/
def versionProbe (loader : Loader) (root : Path) : Probe LoadError :=
  match root.parent? with
  | none => ⟨[], none⟩
  | some package =>
    ⟨[.loadJson (package.child "package.json")],
      (declaredVersion? loader (package.child "package.json")).bind (outdated? root)⟩

theorem failureOf_supportedVersion (root : Path) (version : Option String) :
    failureOf (supportedVersion root version) = version.bind (outdated? root) := by
  cases version with
  | none => rfl
  | some version =>
    have words : "TypeScript " ++ version ++ " is not supported; " ++ Text.natural oldestMajor ++
        ".0 or newer is required" =
          "TypeScript " ++ version ++ " is not supported; 4.0 or newer is required" := by
      rw [String.append_assoc, String.append_assoc]
      rfl
    rw [supportedVersion, Option.bind_some, outdated?, words]
    show failureOf (if (major? version).any (· < 4) then _ else _) = _
    split <;> rfl

/-- The version the package around the SDK declares, if there is one. -/
def packageVersion? (loader : Loader) (root : Path) : Option String :=
  root.parent?.bind fun package => declaredVersion? loader (package.child "package.json")

theorem readVersion_eq (loader : Loader) (root : Path) :
    (readVersion loader root).run.lookups = (versionProbe loader root).lookups ∧
      (readVersion loader root).run.value =
        supportedVersion root (packageVersion? loader root) := by
  unfold readVersion versionProbe packageVersion? manifestPath?
  cases root.parent? with
  | none => exact ⟨rfl, rfl⟩
  | some package =>
    have asks : (ExceptT.lift (loader.fetchJson (package.child "package.json")).run :
        Attempt LoadError (Except LoadError Json)).run =
          ⟨.ok (loader.loadJson (package.child "package.json")),
            [.lookup (.loadJson (package.child "package.json"))]⟩ := rfl
    dsimp only [Option.map_some, Option.bind_some]
    unfold declaredVersion?
    rw [Attempt.run_bind_of_ok (congrArg Traced.value asks), asks]
    cases loader.loadJson (package.child "package.json") with
    | error error => exact ⟨rfl, rfl⟩
    | ok value =>
      dsimp only
      cases Manifest.ofJson value with
      | error problem => exact ⟨rfl, rfl⟩
      | ok manifest =>
        dsimp only
        by_cases own : manifest.name = some packageName
        · have own' : manifest.name = some "typescript" := own
          rw [if_pos own, if_pos own']
          exact ⟨rfl, rfl⟩
        · have own' : manifest.name ≠ some "typescript" := own
          rw [if_neg own, if_neg own']
          exact ⟨rfl, rfl⟩

theorem readVersion_probe (loader : Loader) (root : Path) :
    (readVersion loader root).run.lookups = (versionProbe loader root).lookups ∧
      failureOf (readVersion loader root).run.value = (versionProbe loader root).failure := by
  obtain ⟨lookups, value⟩ := readVersion_eq loader root
  refine ⟨lookups, ?_⟩
  rw [value, failureOf_supportedVersion, packageVersion?, versionProbe]
  cases root.parent? <;> rfl

/-- Loading the SDK: its entry, its version and the texts for a locale. -/
def plan (loader : Loader) (root : Path) (locale : String) : List (Probe LoadError) :=
  [.module loader (root.child "typescript.js"), versionProbe loader root,
    ⟨(Messages.tried loader root (Messages.candidates locale)).map fun candidate =>
      .loadJson (Messages.tablePath root candidate), none⟩]

theorem load_follows (loader : Loader) (root : Path) (locale : String) :
    (load loader root locale).Follows (plan loader root locale) fun _ => True := by
  have version := Attempt.follows_self (readVersion loader root)
  rw [(readVersion_probe loader root).1, (readVersion_probe loader root).2] at version
  have texts := Attempt.follows_self
    (ExceptT.lift (Messages.load loader root locale) : Attempt LoadError Messages)
  have lookups : (ExceptT.lift (Messages.load loader root locale) :
      Attempt LoadError Messages).run.lookups =
        (Messages.tried loader root (Messages.candidates locale)).map fun candidate =>
          .loadJson (Messages.tablePath root candidate) := by
    rw [← Messages.firstUsable_lookups]
    exact congrArg (List.filterMap Event.lookup?) (Traced.events_map _ _)
  rw [lookups] at texts
  exact (loader.fetch_follows _).bind fun _ _ => version.bind fun _ _ => texts.bind fun _ _ =>
    (Attempt.follows_emit rfl).bind fun _ _ => Attempt.follows_pure trivial

end Sdk

/-! ### The extension, and what needs no lookups -/

namespace ExtensionSource

/-- Loading the extension, from its directory if that is known. -/
def plan (loader : Loader) : Option Path → List (Probe InitializeError)
  | none => [⟨[], some (.configuration .missingExtensionRoot)⟩]
  | some root =>
    ["language.js", "ts.js"].map fun name =>
      (Probe.module loader (root.child name)).mapError (.load (.extensionModule name))

theorem load_follows (loader : Loader) (root? : Option Path) :
    ((directory root?).load loader).Follows (plan loader root?) (· = Extensions.standard) := by
  cases root? with
  | none => exact Attempt.follows_throw _ _
  | some root =>
    exact ((loader.fetch_follows _).mapError _).bind fun _ _ =>
      ((loader.fetch_follows _).mapError _).bind fun _ _ =>
        (Attempt.follows_emit rfl).bind fun _ _ => Attempt.follows_pure rfl

end ExtensionSource

namespace Handshake

theorem aggregate_standard :
    PluginList.aggregate Extensions.genericPlugins Extensions.rippleDiagnostics =
      .ok ⟨Extensions.genericPlugins ++ [Extensions.rippleDiagnostics]⟩ := by
  have distinct : PluginList.firstRepeated? []
      ((Extensions.genericPlugins ++ [Extensions.rippleDiagnostics]).map (·.id)) = none := by
    decide
  rw [PluginList.aggregate, distinct]

theorem compose_follows {loaded : Loaded} (standard : loaded.extensions = .standard)
    (params : InitializeParams) : (compose loaded params).Follows [] fun _ => True := by
  obtain ⟨compiler, sdk, extensions⟩ := loaded
  obtain rfl : extensions = .standard := standard
  have aggregated : (Attempt.ofExcept (PluginList.aggregate Extensions.genericPlugins
      Extensions.rippleDiagnostics)).Follows [] fun _ => True := by
    rw [aggregate_standard]
    exact Attempt.follows_pure trivial
  have language : (Attempt.ofExcept (Extensions.standard.languagePlugin compiler)).Follows []
      fun _ => True := Attempt.follows_pure trivial
  have services : (Extensions.standard.servicePlugins sdk.sdk).Follows []
      (· = Extensions.genericPlugins) :=
    (Attempt.follows_emit rfl).bind fun _ _ => Attempt.follows_pure rfl
  refine (language.mapError _).bind fun _ _ => (services.mapError _).bind ?_
  rintro _ rfl
  exact (aggregated.mapError _).bind fun _ _ => Attempt.follows_pure trivial

/-- Loading the compiler, the SDK and the extension. -/
def loadPlan (loader : Loader) (root? : Option Path) (compiler sdk : Path) (locale : String) :
    List (Probe InitializeError) :=
  (Probe.module loader compiler).mapError (.load .compiler) ::
    ((Sdk.plan loader sdk locale).map (Probe.mapError (.load .sdk)) ++
      ExtensionSource.plan loader root?)

theorem load_follows (loader : Loader) (root? : Option Path) (environment : Environment)
    (dependencies : Dependencies) (locale : String) :
    (load ⟨loader, .directory root?, environment⟩ dependencies locale).Follows
      (loadPlan loader root? dependencies.compiler.path dependencies.sdk.path locale)
      fun loaded => loaded.extensions = .standard := by
  unfold loadPlan
  rw [← List.append_nil (ExtensionSource.plan loader root?)]
  exact ((loader.fetch_follows _).mapError _).bind fun _ _ =>
    ((Sdk.load_follows loader _ locale).mapError _).bind fun _ _ =>
      (ExtensionSource.load_follows loader root?).bind fun _ standard =>
        Attempt.follows_pure standard

end Handshake

/-! ### The paths of the compiler and the SDK -/

/-- The path of a module the server needs: from the options, or else from the environment. -/
def Dependency.path? (dependency : Dependency) (options : ClientOptions)
    (environment : Environment) : Option Path :=
  ((dependency.option options).or (environment.text? dependency.variableName)).map Path.mk

theorem Dependency.locate_of_none {dependency : Dependency} {options : ClientOptions}
    {environment : Environment} (missing : dependency.path? options environment = none) :
    dependency.locate options environment = .error (.missing dependency) := by
  rw [path?, Option.map_eq_none_iff, Option.or_eq_none_iff] at missing
  rw [locate, missing.1]
  simp only [missing.2]

theorem Dependency.locate_of_some {dependency : Dependency} {options : ClientOptions}
    {environment : Environment} {path : Path}
    (found : dependency.path? options environment = some path) :
    ∃ located, dependency.locate options environment = .ok located ∧ located.path = path := by
  rw [path?] at found
  rw [locate]
  cases given : dependency.option options with
  | some text =>
    rw [given] at found
    exact ⟨⟨⟨text⟩, .options⟩, rfl, Option.some.inj found⟩
  | none =>
    rw [given] at found
    cases stored : environment.text? dependency.variableName with
    | some text =>
      rw [stored] at found
      exact ⟨⟨⟨text⟩, .environment⟩, rfl, Option.some.inj found⟩
    | none =>
      rw [stored] at found
      cases found

/-! ### The whole handshake -/

namespace Handshake

/-- The whole handshake. Nothing is asked before both paths are known. -/
def plan (loader : Loader) (root? : Option Path) (environment : Environment)
    (params : InitializeParams) : List (Probe InitializeError) :=
  match ClientOptions.ofPayload params.options with
  | .error reason => [⟨[], some (.configuration (.malformedOptions reason))⟩]
  | .ok options =>
    match Dependency.compiler.path? options environment,
      Dependency.sdk.path? options environment with
    | none, _ => [⟨[], some (.configuration (.missing .compiler))⟩]
    | some _, none => [⟨[], some (.configuration (.missing .sdk))⟩]
    | some compiler, some sdk => loadPlan loader root? compiler sdk (localeOf params)

theorem stages_follows_of_error {surroundings : Surroundings} {params : InitializeParams}
    {error : InitializeError}
    (unresolved : resolve surroundings.environment params = .error error) :
    (stages surroundings params).Follows [⟨[], some error⟩] fun _ => True := by
  have first : (Attempt.ofExcept (.error error : Except _ Dependencies)).Follows
      [⟨[], some error⟩] fun _ => False := Attempt.follows_throw error _
  unfold stages
  rw [unresolved]
  exact first.bind fun _ impossible => impossible.elim

theorem stages_follows_of_ok {loader : Loader} {root? : Option Path} {environment : Environment}
    {params : InitializeParams} {dependencies : Dependencies}
    (resolved : resolve environment params = .ok dependencies) :
    (stages ⟨loader, .directory root?, environment⟩ params).Follows
      (loadPlan loader root? dependencies.compiler.path dependencies.sdk.path (localeOf params))
      fun _ => True := by
  have first : (Attempt.ofExcept (.ok dependencies : Except InitializeError _)).Follows []
      (· = dependencies) := Attempt.follows_pure rfl
  unfold stages
  rw [resolved, ← List.append_nil (loadPlan _ _ _ _ _)]
  refine first.bind ?_
  rintro _ rfl
  exact (load_follows loader root? environment _ _).bind fun _ standard =>
    compose_follows standard params

theorem stages_follows (loader : Loader) (root? : Option Path) (environment : Environment)
    (params : InitializeParams) :
    (stages ⟨loader, .directory root?, environment⟩ params).Follows
      (plan loader root? environment params) fun _ => True := by
  unfold plan
  cases payload : ClientOptions.ofPayload params.options with
  | error reason =>
    refine stages_follows_of_error ?_
    rw [resolve, payload]
  | ok options =>
    dsimp only
    cases compilerPath : Dependency.compiler.path? options environment with
    | none =>
      refine stages_follows_of_error ?_
      rw [resolve, payload]
      simp only [Dependencies.locate, Dependency.locate_of_none compilerPath]
      rfl
    | some compiler =>
      obtain ⟨compilerFound, compilerLocated, rfl⟩ := Dependency.locate_of_some compilerPath
      cases sdkPath : Dependency.sdk.path? options environment with
      | none =>
        refine stages_follows_of_error ?_
        rw [resolve, payload]
        simp only [Dependencies.locate, compilerLocated, Dependency.locate_of_none sdkPath]
        rfl
      | some sdk =>
        obtain ⟨sdkFound, sdkLocated, rfl⟩ := Dependency.locate_of_some sdkPath
        have resolved : resolve environment params = .ok ⟨compilerFound, sdkFound⟩ := by
          rw [resolve, payload]
          simp only [Dependencies.locate, compilerLocated, sdkLocated]
          rfl
        exact stages_follows_of_ok resolved

end Handshake

/-- The handshake of a new session fails fast. It asks the loader what its plan says, up to and with
the first probe that fails; it succeeds exactly if no probe fails, and otherwise fails with the
error of the first that does. -/
theorem Session.establish_fails_fast {session : Session} (new : session.state = .uninitialized)
    (loader : Loader) (root? : Option Path) (environment : Environment)
    (params : InitializeParams) :
    let handshake := session.establish ⟨loader, .directory root?, environment⟩ params
    let plan := Handshake.plan loader root? environment params
    handshake.lookups = Probe.asked plan ∧
      ((∃ server, handshake.value.1 = .ok server) ↔ Probe.failure? plan = none) ∧
      ∀ error, handshake.value.1 = .error error ↔ Probe.failure? plan = some error := by
  intro handshake plan
  have follows := Handshake.stages_follows loader root? environment params
  obtain ⟨outcome, lookups⟩ : handshake.value.1 = _ ∧ handshake.lookups = _ :=
    establish_eq_stages new Event.lookup? (fun _ _ => rfl) (fun _ => rfl) fun _ _ _ => rfl
  rw [outcome, lookups]
  exact ⟨follows.lookups, follows.exists_ok_iff, follows.error_iff⟩

/-- A client that names both modules hears of the missing extension only after the compiler, the SDK
and the table of texts were looked for. -/
theorem Session.establish_fails_fast_at_extension :
    let loader : Loader := ⟨fun path => .ok { path }, fun path => .error (.notFound path)⟩
    let params : InitializeParams :=
      { options := some (.obj [("ripplePath", .str "compiler"),
          ("typescript", .obj [("tsdk", .str "typescript/lib")])])
        locale := some "de" }
    let handshake := Session.establish ⟨loader, .directory none, ⟨[]⟩⟩ {} params
    handshake.lookups =
        [.load ⟨"compiler"⟩, .load ⟨"typescript/lib/typescript.js"⟩,
          .loadJson ⟨"typescript/package.json"⟩,
          .loadJson ⟨"typescript/lib/de/diagnosticMessages.generated.json"⟩] ∧
      handshake.value.1 = .error (.configuration .missingExtensionRoot) := by
  intro loader params handshake
  have new : ({} : Session).state = .uninitialized := rfl
  obtain ⟨lookups, -, failure⟩ := establish_fails_fast new loader none ⟨[]⟩ params
  exact ⟨lookups.trans (by decide +kernel), (failure _).mpr (by decide +kernel)⟩

end RippleServer
