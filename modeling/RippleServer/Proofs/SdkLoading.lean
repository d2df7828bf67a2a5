/-
This file tells when the SDK in a directory is refused, and what it is if it is
not. Two answers of the loader decide that: the one for the entry module, and the
one for the manifest of the package around the directory. An SDK is refused if
its entry cannot be loaded, with the failure of the entry, or if the manifest is
the one of TypeScript and its version is known to be too old. A manifest that is
missing, unreadable or of another package is passed over, and the tables of texts
have no part in it at all.
-/

import RippleServer.Proofs.Header
import RippleServer.Proofs.Lookups

namespace RippleServer.Sdk

/-! ### Versions -/

/-- A version is too old if the text before its first dot spells a number below four. White space
around the number does not matter. -/
def TooOld (version : String) : Prop :=
  ∃ front number, Text.FrontOf '.' version.toList front ∧
    Text.Numeral (Text.trimChars front) number ∧ number < 4

theorem major?_eq_some_iff {version : String} {number : Nat} :
    major? version = some number ↔
      ∃ front, Text.FrontOf '.' version.toList front ∧
        Text.Numeral (Text.trimChars front) number ∧ number ≤ Text.unsignedBound := by
  rw [major?, Text.natural?_eq_some_iff, Text.trim_ofList, String.toList_ofList]
  constructor
  · rintro ⟨numeral, fits⟩
    exact ⟨_, Text.frontOf_iff.mpr rfl, numeral, fits⟩
  · rintro ⟨front, isFront, numeral, fits⟩
    obtain rfl := Text.frontOf_iff.mp isFront
    exact ⟨numeral, fits⟩

theorem tooOld_iff {version : String} :
    (major? version).any (· < 4) = true ↔ TooOld version := by
  rw [Option.any_eq_true]
  constructor
  · rintro ⟨number, read, small⟩
    obtain ⟨front, isFront, numeral, -⟩ := major?_eq_some_iff.mp read
    exact ⟨front, number, isFront, numeral, of_decide_eq_true small⟩
  · rintro ⟨front, number, isFront, numeral, small⟩
    -- A number that leaves 64 bits cannot be read, but it is not below four either.
    have fits : number ≤ Text.unsignedBound := by
      unfold Text.unsignedBound
      omega
    exact ⟨number, major?_eq_some_iff.mpr ⟨front, isFront, numeral, fits⟩, decide_eq_true small⟩

/-- The failure that refuses an SDK with a version that is too old. -/
def versionFailure (root : Path) (version : String) : LoadError :=
  .incompatible root ("TypeScript " ++ version ++ " is not supported; 4.0 or newer is required")

/-- A version is refused if it is too old, and otherwise kept as it stands. -/
theorem supportedVersion_cases (root : Path) (version : Option String) :
    (∃ text, version = some text ∧ TooOld text ∧
        supportedVersion root version = .error (versionFailure root text)) ∨
      (∀ text, version = some text → ¬ TooOld text) ∧
        supportedVersion root version = .ok version := by
  cases version with
  | none => exact .inr ⟨nofun, rfl⟩
  | some text =>
    have failure := failureOf_supportedVersion root (some text)
    rw [Option.bind_some, outdated?] at failure
    by_cases old : TooOld text
    · refine .inl ⟨text, rfl, old, ?_⟩
      rw [if_pos (tooOld_iff.mpr old)] at failure
      cases outcome : supportedVersion root (some text) with
      | error error =>
        rw [outcome] at failure
        exact congrArg Except.error (Option.some.inj failure)
      | ok kept =>
        rw [outcome] at failure
        cases failure
    · refine .inr ⟨?_, ?_⟩
      · rintro _ ⟨⟩
        exact old
      · rw [supportedVersion, if_neg]
        exact mt tooOld_iff.mp old

/-! ### The package around an SDK -/

/-- The manifest describes the package of the SDK: it stands above the directory of the SDK, can be
read, and is the one of TypeScript. -/
structure DescribedBy (loader : Loader) (root : Path) (manifest : Manifest) : Prop where
  stands : ∃ package value, root.parent? = some package ∧
    loader.loadJson (package.child "package.json") = .ok value ∧
    Manifest.ofJson value = .ok manifest
  own : manifest.name = some "typescript"

variable {loader : Loader} {root : Path}

theorem DescribedBy.packageVersion?_eq {manifest : Manifest}
    (described : DescribedBy loader root manifest) :
    packageVersion? loader root = manifest.version := by
  obtain ⟨⟨package, value, above, found, read⟩, own⟩ := described
  rw [packageVersion?, above, Option.bind_some, declaredVersion?, found]
  simp only [read, if_pos own]

theorem packageVersion?_eq_some_iff {version : String} :
    packageVersion? loader root = some version ↔
      ∃ manifest, DescribedBy loader root manifest ∧ manifest.version = some version := by
  constructor
  · intro declared
    obtain ⟨package, above, declared⟩ := Option.bind_eq_some_iff.mp declared
    unfold declaredVersion? at declared
    split at declared
    · cases declared
    · rename_i value found
      split at declared
      · cases declared
      · rename_i manifest read
        split_ifs at declared with own
        exact ⟨manifest, ⟨⟨package, value, above, found, read⟩, own⟩, declared⟩
  · rintro ⟨manifest, described, declared⟩
    rw [described.packageVersion?_eq, declared]

/-! ### The entry, then the package -/

section Run

variable {locale : String} {entry : Module} {error : LoadError} {version : Option String}

theorem load_of_unfound (fails : loader.load (root.child entryName) = .error error) :
    (load loader root locale).run = ⟨.error error, [.lookup (.load (root.child entryName))]⟩ := by
  have first : (loader.fetch (root.child entryName)).run.value = .error error := fails
  rw [load, Attempt.run_bind_of_error first]
  rfl

theorem load_of_refused (found : loader.load (root.child entryName) = .ok entry)
    (refused : (readVersion loader root).run.value = .error error) :
    (load loader root locale).run =
      ⟨.error error,
        .lookup (.load (root.child entryName)) :: (readVersion loader root).run.events⟩ := by
  have first : (loader.fetch (root.child entryName)).run.value = .ok entry := found
  rw [load, Attempt.run_bind_of_ok first, Attempt.run_bind_of_error refused]
  rfl

theorem load_of_supported (found : loader.load (root.child entryName) = .ok entry)
    (supported : (readVersion loader root).run.value = .ok version) :
    (load loader root locale).run =
      ⟨.ok ⟨⟨root, entry, version⟩, (Messages.load loader root locale).value⟩,
        .lookup (.load (root.child entryName)) :: (readVersion loader root).run.events ++
          (Messages.load loader root locale).events ++
          [.sdkLoaded root version (Messages.load loader root locale).value.locale]⟩ := by
  have first : (loader.fetch (root.child entryName)).run.value = .ok entry := found
  have texts : (ExceptT.lift (Messages.load loader root locale) :
      Attempt LoadError Messages).run = Except.ok <$> Messages.load loader root locale := rfl
  rw [load, Attempt.run_bind_of_ok first, Attempt.run_bind_of_ok supported,
    Attempt.run_bind_of_ok (congrArg Traced.value texts), texts]
  ext1
  · rfl
  · simp [Attempt.emit]

end Run

/-! ### Refused and accepted -/

/-- The reasons to refuse the SDK in a directory, each with its failure. -/
inductive Refused (loader : Loader) (root : Path) : LoadError → Prop
  | unfound {error : LoadError} (fails : loader.load (root.child "typescript.js") = .error error) :
    Refused loader root error
  | outdated {entry : Module} {manifest : Manifest} {version : String}
    (found : loader.load (root.child "typescript.js") = .ok entry)
    (described : DescribedBy loader root manifest) (declared : manifest.version = some version)
    (old : TooOld version) : Refused loader root (versionFailure root version)

/-- What is known of an SDK that is not refused. -/
structure Accepted (loader : Loader) (root : Path) (sdk : Sdk) : Prop where
  place : sdk.root = root
  entry : loader.load (root.child "typescript.js") = .ok sdk.entry
  described : ∀ manifest, DescribedBy loader root manifest → sdk.version = manifest.version
  undescribed : (∀ manifest, ¬ DescribedBy loader root manifest) → sdk.version = none

/-- An SDK is refused for one reason. -/
theorem Refused.eq {error other : LoadError} (refused : Refused loader root error)
    (otherRefused : Refused loader root other) : error = other := by
  cases refused with
  | unfound fails =>
    cases otherRefused with
    | unfound otherFails => exact Except.error.inj (fails.symm.trans otherFails)
    | outdated found => cases fails.symm.trans found
  | outdated found described declared old =>
    cases otherRefused with
    | unfound fails => cases fails.symm.trans found
    | outdated _ otherDescribed otherDeclared =>
      have first := packageVersion?_eq_some_iff.mpr ⟨_, described, declared⟩
      have second := packageVersion?_eq_some_iff.mpr ⟨_, otherDescribed, otherDeclared⟩
      rw [Option.some.inj (first.symm.trans second)]

/-- The SDK is refused, or it is accepted and gets the texts that are found for it. -/
theorem load_cases (loader : Loader) (root : Path) (locale : String) :
    (∃ error, Refused loader root error ∧ (load loader root locale).run.value = .error error) ∨
      ∃ sdk, Accepted loader root sdk ∧ (∀ error, ¬ Refused loader root error) ∧
        (load loader root locale).run.value =
          .ok ⟨sdk, (Messages.load loader root locale).value⟩ := by
  have version := supportedVersion_cases root (packageVersion? loader root)
  rw [← (readVersion_eq loader root).2] at version
  cases found : loader.load (root.child entryName) with
  | error error => exact .inl ⟨error, .unfound found, by rw [load_of_unfound found]⟩
  | ok entry =>
    obtain ⟨text, declared, old, refused⟩ | ⟨recent, supported⟩ := version
    · obtain ⟨manifest, described, declared⟩ := packageVersion?_eq_some_iff.mp declared
      exact .inl ⟨_, .outdated found described declared old, by rw [load_of_refused found refused]⟩
    · refine .inr ⟨⟨root, entry, packageVersion? loader root⟩, ⟨rfl, found, ?_, ?_⟩, ?_, ?_⟩
      · exact fun manifest described => described.packageVersion?_eq
      · intro undescribed
        refine Option.eq_none_iff_forall_ne_some.mpr fun text declared => ?_
        obtain ⟨manifest, described, -⟩ := packageVersion?_eq_some_iff.mp declared
        exact undescribed manifest described
      · rintro error (fails | ⟨-, described, declared, old⟩)
        · cases fails.symm.trans found
        · exact recent _ (packageVersion?_eq_some_iff.mpr ⟨_, described, declared⟩) old
      · rw [load_of_supported found supported]

theorem load_eq_error_iff {locale : String} {error : LoadError} :
    (load loader root locale).run.value = .error error ↔ Refused loader root error := by
  obtain ⟨actual, refused, outcome⟩ | ⟨sdk, -, unrefused, outcome⟩ := load_cases loader root locale
  · rw [outcome, Except.error.injEq]
    exact ⟨fun same => same ▸ refused, fun other => refused.eq other⟩
  · rw [outcome]
    exact ⟨nofun, fun refused => absurd refused (unrefused error)⟩

/-! ### What has no part in it -/

/-- Two loaders give the same answers about the SDK itself: about its entry, and about the manifest
above it. -/
structure AgreeOn (first second : Loader) (root : Path) : Prop where
  entry : first.load (root.child "typescript.js") = second.load (root.child "typescript.js")
  manifest : ∀ package, root.parent? = some package →
    first.loadJson (package.child "package.json") = second.loadJson (package.child "package.json")

theorem AgreeOn.packageVersion?_eq {first second : Loader} (agree : AgreeOn first second root) :
    packageVersion? first root = packageVersion? second root := by
  unfold packageVersion?
  cases above : root.parent? with
  | none => rfl
  | some package =>
    rw [Option.bind_some, Option.bind_some, declaredVersion?, declaredVersion?,
      agree.manifest package above]

/-- Without its texts, the outcome is made of the two answers alone. -/
theorem map_sdk_load (loader : Loader) (root : Path) (locale : String) :
    (load loader root locale).run.value.map LocalizedSdk.sdk =
      (loader.load (root.child "typescript.js")).bind fun entry =>
        (supportedVersion root (packageVersion? loader root)).map fun version =>
          ⟨root, entry, version⟩ := by
  rw [← (readVersion_eq loader root).2]
  cases found : loader.load (root.child "typescript.js") with
  | error error =>
    rw [load_of_unfound found]
    rfl
  | ok entry =>
    cases version : (readVersion loader root).run.value with
    | error error =>
      rw [load_of_refused found version]
      rfl
    | ok version' =>
      rw [load_of_supported found version]
      rfl

/-- Loading the SDK fails for two reasons only: with the failure of the entry, unchanged, or because
the manifest of TypeScript above the SDK has a version that is too old. Otherwise it has the SDK in
the directory, with its entry and the version of that manifest, or with no version if there is no
such manifest. Neither the locale nor any other answer of the loader makes a difference to that. -/
theorem load_refuses_exactly (loader : Loader) (root : Path) (locale : String) :
    let outcome := (load loader root locale).run.value
    (∀ error, outcome = .error error ↔ Refused loader root error) ∧
      (∀ found, outcome = .ok found → Accepted loader root found.sdk) ∧
      ∀ (other : Loader) (otherLocale : String), AgreeOn other loader root →
        (load other root otherLocale).run.value.map LocalizedSdk.sdk =
          outcome.map LocalizedSdk.sdk := by
  intro outcome
  refine ⟨fun error => load_eq_error_iff, fun found succeeds => ?_,
    fun other otherLocale agree => ?_⟩
  · obtain ⟨error, -, fails⟩ | ⟨sdk, accepted, -, finds⟩ := load_cases loader root locale
    · cases fails.symm.trans succeeds
    · obtain rfl := Except.ok.inj (finds.symm.trans succeeds)
      exact accepted
  · rw [map_sdk_load, map_sdk_load, agree.entry, agree.packageVersion?_eq]

/-- Version three is refused, however the number is written. Version ten is accepted, and stays the
same with a loader that fails for all tables. -/
theorem load_refuses_exactly_by_version :
    let root : Path := ⟨"ts/lib"⟩
    let manifest (version : String) : Manifest := { name := "typescript", version := version }
    let value (version : String) : Json :=
      .obj [("name", .str "typescript"), ("version", .str version)]
    let loader (version : String) : Loader :=
      ⟨fun path => .ok { path }, fun path =>
        .ok (if path = ⟨"ts/package.json"⟩ then value version else .obj [("key", .str "text")])⟩
    let broken : Loader :=
      ⟨fun path => .ok { path }, fun path =>
        if path = ⟨"ts/package.json"⟩ then .ok (value "10.0") else .error (.unreadable path "?")⟩
    let found : LocalizedSdk :=
      ⟨⟨root, { path := ⟨"ts/lib/typescript.js"⟩ }, some "10.0"⟩, .localized "de" [("key", "text")]⟩
    (load (loader " +003 .9") root "de").run.value = .error (versionFailure root " +003 .9") ∧
      (load (loader "10.0") root "de").run.value = .ok found ∧
      DescribedBy (loader "10.0") root (manifest "10.0") ∧
      found.sdk.version = (manifest "10.0").version ∧
      AgreeOn broken (loader "10.0") root ∧
      (load broken root "fr").run.value.map LocalizedSdk.sdk =
        (load (loader "10.0") root "de").run.value.map LocalizedSdk.sdk := by
  intro root manifest value loader broken found
  have above : root.parent? = some ⟨"ts"⟩ := by decide +kernel
  have described (version : String) : DescribedBy (loader version) root (manifest version) :=
    ⟨⟨⟨"ts"⟩, value version, above, rfl, rfl⟩, rfl⟩
  have old : TooOld " +003 .9" := tooOld_iff.mp (by decide +kernel)
  have succeeds : (load (loader "10.0") root "de").run.value = .ok found := by decide +kernel
  have agree : AgreeOn broken (loader "10.0") root := by
    refine ⟨rfl, fun package above' => ?_⟩
    obtain rfl := Option.some.inj (above.symm.trans above')
    rfl
  obtain ⟨refused, -, -⟩ := load_refuses_exactly (loader " +003 .9") root "de"
  obtain ⟨-, accepted, same⟩ := load_refuses_exactly (loader "10.0") root "de"
  exact ⟨(refused _).mpr (.outdated rfl (described _) rfl old), succeeds, described _,
    (accepted found succeeds).described _ (described _), agree, same broken "fr" agree⟩

end RippleServer.Sdk
