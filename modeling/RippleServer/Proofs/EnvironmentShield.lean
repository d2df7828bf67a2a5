/-
This file compares the handshakes of two environments. The environment is looked
at in one place only, when the paths of the compiler and the SDK are located, and
there only for a path that the options leave out. So a client that gives a path is
shielded from the variable that would stand in for it, all are shielded from the
variables that stand in for nothing, and a value that is empty or no text might as
well not be there. Environments that differ in such variables only have the same
handshakes: the same outcome and session, and the same events in the same order.
-/

import RippleServer.Proofs.Utf8
import RippleServer.Session

namespace RippleServer

/-! ### Variables that are not set -/

namespace Environment

variable {environment first second : Environment} {name : String}

/-- The value is empty or no text. -/
def BlankValue (value : Bytes) : Prop :=
  value = [] ∨ ∀ text, Text.encode text ≠ value

/-- The variable is not bound, or to a blank value. -/
def Lacks (environment : Environment) (name : String) : Prop :=
  ∀ value, environment.get? name = some value → BlankValue value

/-- Both environments bind the variable to the same value, or both lack it. -/
def AgreesOn (first second : Environment) (name : String) : Prop :=
  first.get? name = second.get? name ∨ first.Lacks name ∧ second.Lacks name

/-- The environment without a variable. -/
def unset (environment : Environment) (name : String) : Environment :=
  ⟨environment.bindings.filter fun binding => binding.1 ≠ name⟩

theorem get?_unset_self (environment : Environment) (name : String) :
    (environment.unset name).get? name = none := by
  rw [get?, Option.map_eq_none_iff, List.find?_eq_none]
  intro binding member
  have kept := (List.mem_filter.mp (List.mem_reverse.mp member)).2
  simpa using kept

theorem get?_unset_of_ne (environment : Environment) {other : String} (different : other ≠ name) :
    (environment.unset name).get? other = environment.get? other := by
  rw [get?, get?, unset, ← List.filter_reverse, List.find?_filter]
  congr 2
  funext binding
  by_cases same : binding.1 = other
  · simp [same, different]
  · simp [same]

theorem text?_eq_some_iff {text : String} :
    environment.text? name = some text ↔
      environment.get? name = some (Text.encode text) ∧ text ≠ "" := by
  constructor
  · intro found
    unfold text? at found
    cases bound : environment.get? name with
    | none => simp [bound] at found
    | some value =>
      cases decoded : Text.decode? value with
      | none => simp [bound, decoded] at found
      | some other =>
        simp only [bound, decoded] at found
        split at found
        · cases found
        · rename_i nonempty
          cases found
          exact ⟨congrArg some (Text.decode?_eq_some_iff.mp decoded).symm, nonempty⟩
  · rintro ⟨bound, nonempty⟩
    have decoded : Text.decode? (Text.encode text) = some text := Text.decode?_eq_some_iff.mpr rfl
    simp only [text?, bound, decoded, if_neg nonempty]

theorem text?_eq_none_iff : environment.text? name = none ↔ environment.Lacks name := by
  rw [Option.eq_none_iff_forall_ne_some]
  constructor
  · intro never value bound
    by_cases isText : ∃ text, Text.encode text = value
    · obtain ⟨text, rfl⟩ := isText
      by_cases empty : text = ""
      · exact .inl (congrArg Text.encode empty)
      · exact absurd (text?_eq_some_iff.mpr ⟨bound, empty⟩) (never text)
    · exact .inr (not_exists.mp isText)
  · intro lacks text found
    obtain ⟨bound, nonempty⟩ := text?_eq_some_iff.mp found
    rcases lacks _ bound with empty | noText
    · -- Only the empty text has no bytes.
      have read : Text.decode? [] = some text := Text.decode?_eq_some_iff.mpr empty
      exact nonempty (Option.some.inj (read.symm.trans rfl))
    · exact noText text rfl

/-- Environments agree on a variable exactly if they have the same text for it. -/
theorem agreesOn_iff : first.AgreesOn second name ↔ first.text? name = second.text? name := by
  constructor
  · rintro (same | ⟨firstLacks, secondLacks⟩)
    · rw [text?, text?, same]
    · rw [text?_eq_none_iff.mpr firstLacks, text?_eq_none_iff.mpr secondLacks]
  · intro same
    cases found : second.text? name with
    | none =>
      rw [found] at same
      exact .inr ⟨text?_eq_none_iff.mp same, text?_eq_none_iff.mp found⟩
    | some text =>
      rw [found] at same
      have firstBound := (text?_eq_some_iff.mp same).1
      exact .inl (firstBound.trans (text?_eq_some_iff.mp found).1.symm)

theorem agreesOn_unset {value : Bytes} (bound : environment.get? name = some value)
    (blank : BlankValue value) (other : String) :
    environment.AgreesOn (environment.unset name) other := by
  by_cases same : other = name
  · right
    rw [same, Lacks, Lacks, bound, get?_unset_self]
    exact ⟨by rintro _ ⟨⟩; exact blank, nofun⟩
  · exact .inl (get?_unset_of_ne environment same).symm

end Environment

/-! ### Variables that are not looked at -/

/-- The variables the options shield a client from: those that stand in for a path the options give,
and those that stand in for nothing. -/
inductive ClientOptions.Shields (options : ClientOptions) : String → Prop
  | compiler {path : String} (given : options.ripplePath = some path) (nonempty : path ≠ "") :
    Shields options "RIPPLE_COMPILER_PATH"
  | sdk {sdk : SdkOptions} {path : String} (present : options.typescript = some sdk)
    (given : sdk.tsdk = some path) (nonempty : path ≠ "") : Shields options "TSDK_PATH"
  | other {name : String} (notCompiler : name ≠ "RIPPLE_COMPILER_PATH")
    (notSdk : name ≠ "TSDK_PATH") : Shields options name

theorem ClientOptions.nonEmpty_eq_some_iff {given : Option String} {text : String} :
    nonEmpty given = some text ↔ given = some text ∧ text ≠ "" := by
  cases given with
  | none => simp [nonEmpty]
  | some found =>
    by_cases empty : found = "" <;> grind [nonEmpty]

namespace Dependency

variable {dependency : Dependency} {options : ClientOptions} {first second : Environment}

/-- The options shield from the variable of a module exactly if they give its path. -/
theorem shields_variableName_iff :
    options.Shields dependency.variableName ↔ ∃ path, dependency.option options = some path := by
  constructor
  · intro shields
    generalize named : dependency.variableName = name at shields
    cases shields with
    | compiler given nonempty =>
      cases dependency with
      | compiler => exact ⟨_, ClientOptions.nonEmpty_eq_some_iff.mpr ⟨given, nonempty⟩⟩
      | sdk => exact absurd named (by decide)
    | sdk present given nonempty =>
      cases dependency with
      | compiler => exact absurd named (by decide)
      | sdk =>
        refine ⟨_, ClientOptions.nonEmpty_eq_some_iff.mpr ⟨?_, nonempty⟩⟩
        rw [present]
        exact given
    | other notCompiler notSdk =>
      cases dependency with
      | compiler => exact absurd named.symm notCompiler
      | sdk => exact absurd named.symm notSdk
  · rintro ⟨path, found⟩
    cases dependency with
    | compiler =>
      obtain ⟨given, nonempty⟩ := ClientOptions.nonEmpty_eq_some_iff.mp found
      exact .compiler given nonempty
    | sdk =>
      obtain ⟨given, nonempty⟩ := ClientOptions.nonEmpty_eq_some_iff.mp found
      obtain ⟨sdk, present, tsdk⟩ := Option.bind_eq_some_iff.mp given
      exact .sdk present tsdk nonempty

/-- A module is located alike exactly if the options give its path or the environments agree on the
variable that stands in for it. -/
theorem locate_eq_iff :
    dependency.locate options first = dependency.locate options second ↔
      options.Shields dependency.variableName ∨
        first.AgreesOn second dependency.variableName := by
  rw [shields_variableName_iff, Environment.agreesOn_iff, locate, locate]
  cases dependency.option options with
  | some path => simp
  | none =>
    cases first.text? dependency.variableName <;>
      cases second.text? dependency.variableName <;> simp

end Dependency

/-! ### Handshakes that cannot tell environments apart -/

section Alike

variable {loader : Loader} {extensions : ExtensionSource} {first second : Environment}
  {params : InitializeParams}

theorem Handshake.resolve_eq_of_alike
    (alike : ∀ options, ClientOptions.ofPayload params.options = .ok options →
      ∀ name, options.Shields name ∨ first.AgreesOn second name) :
    resolve first params = resolve second params := by
  unfold resolve
  cases read : ClientOptions.ofPayload params.options with
  | error reason =>
    -- Options that cannot be read end the handshake before the environment is looked at.
    rfl
  | ok options =>
    have located (dependency : Dependency) :
        dependency.locate options first = dependency.locate options second :=
      Dependency.locate_eq_iff.mpr (alike options read dependency.variableName)
    simp only [Dependencies.locate, located]

/-- The environment comes into a handshake through the paths it is resolved to. -/
theorem Session.establish_eq_of_resolve_eq
    (same : Handshake.resolve first params = Handshake.resolve second params) (session : Session) :
    session.establish ⟨loader, extensions, first⟩ params =
      session.establish ⟨loader, extensions, second⟩ params := by
  unfold establish compose
  rw [same]
  rfl

end Alike

/-- The options of a client shield its handshake from the environment. Whatever the loader and the
extension, the handshakes with two environments are the same, in outcome, session and events, if the
environments agree on every variable the options do not shield from; and a variable with a value
that is empty or no text might as well not be set. -/
theorem Session.establish_shielded (loader : Loader) (extensions : ExtensionSource)
    (params : InitializeParams) (session : Session) :
    (∀ first second : Environment,
      (∀ options, ClientOptions.ofPayload params.options = .ok options →
        ∀ name, options.Shields name ∨ first.AgreesOn second name) →
      session.establish ⟨loader, extensions, first⟩ params =
        session.establish ⟨loader, extensions, second⟩ params) ∧
    ∀ (environment : Environment) (name : String) (value : Bytes),
      environment.get? name = some value → Environment.BlankValue value →
      session.establish ⟨loader, extensions, environment⟩ params =
        session.establish ⟨loader, extensions, environment.unset name⟩ params := by
  constructor
  · intro first second alike
    exact establish_eq_of_resolve_eq (Handshake.resolve_eq_of_alike alike) session
  · intro environment name value bound blank
    have alike := Environment.agreesOn_unset bound blank
    exact establish_eq_of_resolve_eq
      (Handshake.resolve_eq_of_alike fun _ _ other => .inr (alike other)) session

/-- A client that gives the path of the compiler only. The handshake takes the SDK from the
environment, and does not mind that the other variables are changed; and where the path of the SDK
is no text, it is missing. -/
theorem Session.establish_shielded_from_other_compiler :
    let loader : Loader := ⟨fun path => .ok { path }, fun path => .error (.notFound path)⟩
    let extensions : ExtensionSource := .directory (some ⟨"/extension"⟩)
    let params : InitializeParams := { options := some (.obj [("ripplePath", .str "/ripple")]) }
    let first : Environment := ⟨[("RIPPLE_COMPILER_PATH", Text.encode "/other"),
      ("TSDK_PATH", Text.encode "/ts"), ("HOME", Text.encode "/home")]⟩
    let second : Environment := ⟨[("TSDK_PATH", []), ("RIPPLE_COMPILER_PATH", [255]),
      ("TSDK_PATH", Text.encode "/ts")]⟩
    let garbled : Environment := ⟨[("TSDK_PATH", Text.encode "/ts"), ("TSDK_PATH", [255])]⟩
    (Session.establish ⟨loader, extensions, first⟩ {} params).value.2.state = .ready ∧
      Session.establish ⟨loader, extensions, first⟩ {} params =
        Session.establish ⟨loader, extensions, second⟩ {} params ∧
      Session.establish ⟨loader, extensions, garbled⟩ {} params =
        Session.establish ⟨loader, extensions, garbled.unset "TSDK_PATH"⟩ {} params := by
  intro loader extensions params first second garbled
  obtain ⟨shielded, unset⟩ := establish_shielded loader extensions params {}
  refine ⟨by decide +kernel, shielded first second ?_, unset garbled "TSDK_PATH" [255] rfl ?_⟩
  · rintro options read name
    obtain rfl : { ripplePath := some "/ripple" } = options := Except.ok.inj read
    by_cases compiler : name = "RIPPLE_COMPILER_PATH"
    · exact .inl (compiler ▸ .compiler rfl (by decide))
    · by_cases sdk : name = "TSDK_PATH"
      · exact .inr (.inl (sdk ▸ rfl))
      · exact .inl (.other compiler sdk)
  · refine .inr fun text encoded => ?_
    have decoded : Text.decode? [255] = some text := Text.decode?_eq_some_iff.mpr encoded
    exact nomatch decoded.symm.trans rfl

end RippleServer
