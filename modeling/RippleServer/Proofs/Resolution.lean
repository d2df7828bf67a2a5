/-
This file tells where the paths of the compiler and the SDK come from. For each
of the two modules there are two sources: the text the options hold for it and
the bytes that the last pair of its variable binds. A source counts only if it
has a text that is not empty, the options count before the environment, and the
text is taken as it stands. Both paths are found exactly if each module has a
source that counts, and otherwise the first module without one is named.
-/

import Mathlib.Control.Monad.Basic
import RippleServer.Proofs.EnvironmentShield

namespace RippleServer

/-! ### The last pair of a variable -/

namespace Environment

/-- A pair binds the name to the bytes and no later pair has the name. -/
def BindsLast (environment : Environment) (name : String) (bytes : Bytes) : Prop :=
  ∃ before behind, environment.bindings = before ++ (name, bytes) :: behind ∧
    ∀ binding ∈ behind, binding.1 ≠ name

theorem get?_eq_some_iff {environment : Environment} {name : String} {bytes : Bytes} :
    environment.get? name = some bytes ↔ environment.BindsLast name bytes := by
  rw [get?, Option.map_eq_some_iff]
  constructor
  · rintro ⟨⟨found, bound⟩, first, rfl⟩
    obtain ⟨same, behind, before, split, others⟩ := List.find?_eq_some_iff_append.mp first
    obtain rfl : found = name := eq_of_beq same
    refine ⟨before.reverse, behind.reverse, ?_, fun binding member equal => ?_⟩
    · rw [← List.reverse_reverse environment.bindings, split]
      simp
    · have other := others binding (List.mem_reverse.mp member)
      simp [equal] at other
  · rintro ⟨before, behind, split, others⟩
    refine ⟨(name, bytes), List.find?_eq_some_iff_append.mpr ⟨beq_self_eq_true name, ?_⟩, rfl⟩
    refine ⟨behind.reverse, before.reverse, ?_, fun binding member => ?_⟩
    · rw [split]
      simp
    · simpa using others binding (List.mem_reverse.mp member)

end Environment

/-! ### The sources of one module -/

namespace Dependency

/-- The text that the options hold for a module, be it empty. -/
def heldBy : Dependency → ClientOptions → Option String
  | .compiler, options => options.ripplePath
  | .sdk, options => options.typescript.bind SdkOptions.tsdk

/-- The bytes that the variable of a module is bound to last. -/
def BoundTo : Dependency → Environment → Bytes → Prop
  | .compiler, environment, bytes => environment.BindsLast "RIPPLE_COMPILER_PATH" bytes
  | .sdk, environment, bytes => environment.BindsLast "TSDK_PATH" bytes

/-- The sources that have a text for a module, each with its text. -/
inductive SuppliedBy (dependency : Dependency) (options : ClientOptions)
    (environment : Environment) : PathSource → String → Prop
  | options {text : String} (held : dependency.heldBy options = some text)
      (nonempty : text ≠ "") : SuppliedBy dependency options environment .options text
  | environment {text : String}
      (bound : dependency.BoundTo environment (Text.encode text))
      (nonempty : text ≠ "") : SuppliedBy dependency options environment .environment text

/-- At least one source has a text for the module. -/
def Supplied (dependency : Dependency) (options : ClientOptions) (environment : Environment) :
    Prop :=
  ∃ source text, dependency.SuppliedBy options environment source text

/-- The path is the text of a source, and of the environment only if the options have none. -/
structure Chooses (dependency : Dependency) (options : ClientOptions) (environment : Environment)
    (located : LocatedPath) : Prop where
  supplied : dependency.SuppliedBy options environment located.source located.path.text
  first : located.source = .environment →
    ∀ text, ¬ dependency.SuppliedBy options environment .options text

variable {dependency : Dependency} {options : ClientOptions} {environment : Environment}

theorem option_eq_some_iff {text : String} :
    dependency.option options = some text ↔
      dependency.SuppliedBy options environment .options text := by
  have held : dependency.option options = ClientOptions.nonEmpty (dependency.heldBy options) := by
    cases dependency <;> rfl
  rw [held, ClientOptions.nonEmpty_eq_some_iff]
  constructor
  · rintro ⟨given, nonempty⟩
    exact .options given nonempty
  · rintro ⟨given, nonempty⟩
    exact ⟨given, nonempty⟩

theorem bindsLast_variableName_iff {bytes : Bytes} :
    environment.BindsLast dependency.variableName bytes ↔ dependency.BoundTo environment bytes := by
  cases dependency <;> exact Iff.rfl

theorem text?_variableName_eq_some_iff {text : String} :
    environment.text? dependency.variableName = some text ↔
      dependency.SuppliedBy options environment .environment text := by
  rw [Environment.text?_eq_some_iff, Environment.get?_eq_some_iff, bindsLast_variableName_iff]
  constructor
  · rintro ⟨bound, nonempty⟩
    exact .environment bound nonempty
  · rintro (_ | ⟨bound, nonempty⟩)
    exact ⟨bound, nonempty⟩

/-- How one module is located: from the options, from the environment, or not at all. -/
theorem locate_cases (dependency : Dependency) (options : ClientOptions)
    (environment : Environment) :
    (∃ located, dependency.locate options environment = .ok located ∧
        dependency.Chooses options environment located) ∨
      dependency.locate options environment = .error (.missing dependency) ∧
        ¬ dependency.Supplied options environment := by
  cases given : dependency.option options with
  | some text =>
    refine .inl ⟨⟨⟨text⟩, .options⟩, by rw [locate, given], ?_⟩
    refine ⟨option_eq_some_iff.mp given, ?_⟩
    rintro ⟨⟩
  | none =>
    have unsupplied (text : String) :
        ¬ dependency.SuppliedBy options environment .options text := by
      rw [← option_eq_some_iff, given]
      rintro ⟨⟩
    cases stored : environment.text? dependency.variableName with
    | some text =>
      refine .inl ⟨⟨⟨text⟩, .environment⟩, by simp only [locate, given, stored], ?_⟩
      exact ⟨text?_variableName_eq_some_iff.mp stored, fun _ => unsupplied⟩
    | none =>
      refine .inr ⟨by simp only [locate, given, stored], ?_⟩
      rintro ⟨source, text, supplied⟩
      cases source with
      | options => exact unsupplied text supplied
      | environment =>
        rw [← text?_variableName_eq_some_iff, stored] at supplied
        cases supplied

/-- A source has one text at most, and only one of the sources can be chosen. -/
theorem Chooses.eq {located other : LocatedPath}
    (chooses : dependency.Chooses options environment located)
    (otherChooses : dependency.Chooses options environment other) : located = other := by
  obtain ⟨⟨text⟩, source⟩ := located
  obtain ⟨⟨otherText⟩, otherSource⟩ := other
  obtain ⟨supplied, first⟩ := chooses
  obtain ⟨otherSupplied, otherFirst⟩ := otherChooses
  cases source <;> cases otherSource
  · rw [← option_eq_some_iff] at supplied otherSupplied
    obtain rfl : text = otherText := Option.some.inj (supplied.symm.trans otherSupplied)
    rfl
  · exact absurd supplied (otherFirst rfl text)
  · exact absurd otherSupplied (first rfl otherText)
  · rw [← text?_variableName_eq_some_iff] at supplied otherSupplied
    obtain rfl : text = otherText := Option.some.inj (supplied.symm.trans otherSupplied)
    rfl

theorem locate_eq_ok_iff {located : LocatedPath} :
    dependency.locate options environment = .ok located ↔
      dependency.Chooses options environment located := by
  obtain ⟨found, outcome, chooses⟩ | ⟨outcome, unsupplied⟩ :=
    locate_cases dependency options environment
  · rw [outcome, Except.ok.injEq]
    exact ⟨fun same => same ▸ chooses, fun other => chooses.eq other⟩
  · rw [outcome]
    exact ⟨nofun, fun chooses => absurd ⟨_, _, chooses.supplied⟩ unsupplied⟩

theorem locate_eq_error_iff {error : ConfigError} :
    dependency.locate options environment = .error error ↔
      error = .missing dependency ∧ ¬ dependency.Supplied options environment := by
  obtain ⟨found, outcome, chooses⟩ | ⟨outcome, unsupplied⟩ :=
    locate_cases dependency options environment
  · rw [outcome]
    exact ⟨nofun, fun missing => absurd ⟨_, _, chooses.supplied⟩ missing.2⟩
  · rw [outcome, Except.error.injEq, and_iff_left unsupplied]
    exact eq_comm

theorem exists_locate_eq_ok_iff :
    (∃ located, dependency.locate options environment = .ok located) ↔
      dependency.Supplied options environment := by
  obtain ⟨found, outcome, chooses⟩ | ⟨outcome, unsupplied⟩ :=
    locate_cases dependency options environment
  · exact iff_of_true ⟨found, outcome⟩ ⟨_, _, chooses.supplied⟩
  · refine iff_of_false ?_ unsupplied
    rintro ⟨located, found⟩
    cases outcome.symm.trans found

end Dependency

/-! ### Both modules -/

namespace Dependencies

variable {options : ClientOptions} {environment : Environment}

theorem locate_eq_ok_iff {found : Dependencies} :
    Dependencies.locate options environment = .ok found ↔
      Dependency.compiler.locate options environment = .ok found.compiler ∧
        Dependency.sdk.locate options environment = .ok found.sdk := by
  obtain ⟨compiler, sdk⟩ := found
  rw [Dependencies.locate]
  cases Dependency.compiler.locate options environment with
  | error error =>
    constructor
    · rintro ⟨⟩
    · rintro ⟨⟨⟩, -⟩
  | ok first =>
    cases Dependency.sdk.locate options environment with
    | error error =>
      constructor
      · rintro ⟨⟩
      · rintro ⟨-, ⟨⟩⟩
    | ok second => simp [bind, Except.bind]

theorem locate_eq_error_iff {error : ConfigError} :
    Dependencies.locate options environment = .error error ↔
      Dependency.compiler.locate options environment = .error error ∨
        (∃ located, Dependency.compiler.locate options environment = .ok located) ∧
          Dependency.sdk.locate options environment = .error error := by
  rw [Dependencies.locate]
  cases Dependency.compiler.locate options environment with
  | error first => simp [bind, Except.bind]
  | ok first =>
    cases Dependency.sdk.locate options environment with
    | error second => simp [bind, Except.bind]
    | ok second => simp [bind, Except.bind]

/-- Both paths are found exactly if each module has a source with a text. Each path is then the
text of the options, if they have one, and else the text that the last pair of its variable is
bound to, letter for letter. If a module has no source, the compiler is named if it is the one,
whatever there is for the SDK, and else the SDK; each is named by its option. -/
theorem locate_exactly (options : ClientOptions) (environment : Environment) :
    (∀ found, Dependencies.locate options environment = .ok found ↔
      Dependency.compiler.Chooses options environment found.compiler ∧
        Dependency.sdk.Chooses options environment found.sdk) ∧
    ((∃ found, Dependencies.locate options environment = .ok found) ↔
      Dependency.compiler.Supplied options environment ∧
        Dependency.sdk.Supplied options environment) ∧
    (∀ error, Dependencies.locate options environment = .error error ↔
      error = .missing .compiler ∧ ¬ Dependency.compiler.Supplied options environment ∨
        error = .missing .sdk ∧ Dependency.compiler.Supplied options environment ∧
          ¬ Dependency.sdk.Supplied options environment) ∧
    (ConfigError.missing .compiler).message = "initializationOptions.ripplePath is required" ∧
    (ConfigError.missing .sdk).message = "initializationOptions.typescript.tsdk is required" := by
  refine ⟨fun found => ?_, ?_, fun error => ?_, rfl, rfl⟩
  · rw [locate_eq_ok_iff, Dependency.locate_eq_ok_iff, Dependency.locate_eq_ok_iff]
  · rw [← Dependency.exists_locate_eq_ok_iff, ← Dependency.exists_locate_eq_ok_iff]
    constructor
    · rintro ⟨found, outcome⟩
      obtain ⟨compiler, sdk⟩ := locate_eq_ok_iff.mp outcome
      exact ⟨⟨_, compiler⟩, ⟨_, sdk⟩⟩
    · rintro ⟨⟨compiler, first⟩, ⟨sdk, second⟩⟩
      exact ⟨⟨compiler, sdk⟩, locate_eq_ok_iff.mpr ⟨first, second⟩⟩
  · rw [locate_eq_error_iff, Dependency.locate_eq_error_iff, Dependency.locate_eq_error_iff,
      Dependency.exists_locate_eq_ok_iff, and_left_comm]

/-- Both variables are bound, one of them twice: each stands in for its own module, and for the
compiler only as long as the options have no text for it. -/
theorem locate_exactly_of_both_bound :
    let environment : Environment := ⟨[("TSDK_PATH", Text.encode "/old"),
      ("RIPPLE_COMPILER_PATH", Text.encode "/ripple"), ("TSDK_PATH", Text.encode " /ts ")]⟩
    let bound : Dependencies := ⟨⟨⟨"/ripple"⟩, .environment⟩, ⟨⟨" /ts "⟩, .environment⟩⟩
    let given : Dependencies := ⟨⟨⟨"/mine"⟩, .options⟩, ⟨⟨" /ts "⟩, .environment⟩⟩
    Dependencies.locate { ripplePath := some "" } environment = .ok bound ∧
      Dependency.compiler.Chooses { ripplePath := some "" } environment bound.compiler ∧
      Dependency.sdk.Chooses { ripplePath := some "" } environment bound.sdk ∧
      Dependencies.locate { ripplePath := some "/mine" } environment = .ok given ∧
      Dependency.compiler.Chooses { ripplePath := some "/mine" } environment given.compiler ∧
      ¬ Dependency.compiler.SuppliedBy {} environment .environment " /ts " ∧
      ¬ Dependency.sdk.SuppliedBy {} environment .environment "/ripple" := by
  intro environment bound given
  have both : Dependencies.locate { ripplePath := some "" } environment = .ok bound := by
    decide +kernel
  have mine : Dependencies.locate { ripplePath := some "/mine" } environment = .ok given := by
    decide +kernel
  obtain ⟨found, -⟩ := locate_exactly { ripplePath := some "" } environment
  obtain ⟨compiler, sdk⟩ := (found bound).mp both
  obtain ⟨foundToo, -⟩ := locate_exactly { ripplePath := some "/mine" } environment
  refine ⟨both, compiler, sdk, mine, ((foundToo given).mp mine).1, ?_, ?_⟩
  · rw [← Dependency.text?_variableName_eq_some_iff]
    decide +kernel
  · rw [← Dependency.text?_variableName_eq_some_iff]
    decide +kernel

end Dependencies

end RippleServer
