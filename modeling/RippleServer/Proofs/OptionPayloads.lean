/-
This file proves which payloads client options are read from. A payload is
missing, null or an object, whose fields are again missing, null or of their
types; what else it holds does not matter. The options below `typescript` are
read by other rules than the payload itself: an array of their fields is taken
for them as well, although they are to be an object.
-/

import RippleServer.Proofs.EnvironmentShield
import RippleServer.Proofs.RecordDecoding

namespace RippleServer

/-! ### Payloads that are well typed -/

/-- The value spells the options below `typescript`: it is an object in which the path is missing,
null or a text. -/
inductive SdkOptions.Spelled : Json → SdkOptions → Prop
  | object {members : List (String × Json)} {tsdk : Option String}
      (told : Json.Tells Json.IsText (Json.member? "tsdk" members) tsdk) :
      Spelled (.obj members) { tsdk }

/-- The value is taken for the options below `typescript`: it spells them, or is an array of the
path alone, or of nothing. -/
inductive SdkOptions.Taken : Json → SdkOptions → Prop
  | spelled {value : Json} {options : SdkOptions} (spelled : Spelled value options) :
      Taken value options
  | array {items : List Json} {tsdk : Option String} (bounded : items.length ≤ 1)
      (told : Json.Tells Json.IsText items.head? tsdk) : Taken (.arr items) { tsdk }

/-- The payload spells the options, if the relation tells what spells those below `typescript`: it
is missing, null, or an object in which both fields are missing, null or spelled. -/
inductive ClientOptions.Spelled (sdk : Json → SdkOptions → Prop) :
    Option Json → ClientOptions → Prop
  | missing : Spelled sdk none {}
  | null : Spelled sdk (some .null) {}
  | object {members : List (String × Json)} {ripplePath : Option String}
      {typescript : Option SdkOptions}
      (path : Json.Tells Json.IsText (Json.member? "ripplePath" members) ripplePath)
      (nested : Json.Tells sdk (Json.member? "typescript" members) typescript) :
      Spelled sdk (some (.obj members)) { ripplePath, typescript }

/-! ### Fields -/

namespace Json

theorem asText_iff {part : Json} {text : String} : asText part = .ok text ↔ IsText part text := by
  cases part <;> simp [asText, IsText]

theorem asOptional_iff {α : Type} {decode : Json → Decoded α} {spells : Json → α → Prop}
    {part : Json} (exact : ∀ {result}, decode part = .ok result ↔ spells part result)
    {result : Option α} :
    asOptional decode part = .ok result ↔ Tells spells (some part) result := by
  by_cases null : part = .null
  · subst null
    constructor
    · rintro ⟨⟩
      exact .null
    · rintro (_ | _ | ⟨given, _⟩)
      · rfl
      · exact absurd rfl given
  · have given : asOptional decode part = (decode part).map some := by
      cases part with
      | null => exact absurd rfl null
      | _ => rfl
    rw [given, map_eq_ok_iff]
    constructor
    · rintro ⟨result, decoded, rfl⟩
      exact .value null (exact.mp decoded)
    · rintro (_ | _ | ⟨_, spelled⟩)
      · exact absurd rfl null
      · exact ⟨_, exact.mpr spelled, rfl⟩

/-- What a field holds once a part of it has been read, where a missing part leaves what was there
before. -/
def Holds {α : Type} (decode : Json → Decoded α) (part : Option Json) (old new : α) : Prop :=
  match part with
  | none => new = old
  | some part => decode part = .ok new

theorem holds_none_iff {α : Type} {decode : Json → Decoded α} {spells : Json → α → Prop}
    {part : Option Json}
    (exact : ∀ found ∈ part, ∀ {result}, decode found = .ok result ↔ spells found result)
    {result : Option α} :
    Holds (asOptional decode) part none result ↔ Tells spells part result := by
  cases part with
  | none =>
    constructor
    · rintro ⟨⟩
      exact .missing
    · rintro ⟨⟩
      rfl
  | some part => exact asOptional_iff (exact part rfl)

theorem holds_text_iff {part : Option Json} {result : Option String} :
    Holds (asOptional asText) part none result ↔ Tells IsText part result :=
  holds_none_iff fun _ _ => asText_iff

end Json

/-! ### Records -/

namespace Json.Layout

variable {State : Type} {layout : Layout} {field : State → String → Json → Decoded State}
  {key : String} {value : Json} {rest : List (String × Json)} {state final : State}

theorem foldMembers_known (known : layout.fields.contains key = true) :
    layout.foldMembers field ((key, value) :: rest) state = .ok final ↔
      ∃ next, field state key value = .ok next ∧
        layout.foldMembers field rest next = .ok final := by
  rw [foldMembers, if_pos known, bind_eq_ok_iff]

theorem foldMembers_unknown (unknown : layout.fields.contains key = false) :
    layout.foldMembers field ((key, value) :: rest) state =
      layout.foldMembers field rest state := by
  rw [foldMembers, unknown]
  rfl

end Json.Layout

namespace SdkOptions

open Json (Holds asOptional asText member?)

/-- Reads the field. -/
def field (options : SdkOptions) (_ : String) (value : Json) : Json.Decoded SdkOptions := do
  let tsdk ← asOptional asText value
  .ok { options with tsdk }

theorem field_iff {options next : SdkOptions} {name : String} {value : Json} :
    field options name value = .ok next ↔ asOptional asText value = .ok next.tsdk := by
  rw [field, Json.bind_eq_ok_iff]
  constructor
  · rintro ⟨tsdk, read, ⟨⟩⟩
    exact read
  · exact fun read => ⟨next.tsdk, read, rfl⟩

theorem foldMembers_iff {members : List (String × Json)} (distinct : (members.map Prod.fst).Nodup)
    {options final : SdkOptions} :
    layout.foldMembers field members options = .ok final ↔
      Holds (asOptional asText) (member? "tsdk" members) options.tsdk final.tsdk := by
  induction members generalizing options with
  | nil =>
    obtain ⟨old⟩ := options
    obtain ⟨new⟩ := final
    simp [Json.Layout.foldMembers, member?, Holds, eq_comm]
  | cons member rest inductionHypothesis =>
    obtain ⟨key, value⟩ := member
    obtain ⟨fresh, others⟩ := List.nodup_cons.mp distinct
    by_cases named : "tsdk" = key
    · subst named
      rw [Json.Layout.foldMembers_known rfl, member?, if_pos rfl]
      simp only [inductionHypothesis others, Json.member?_eq_none fresh, field_iff, Holds]
      constructor
      · rintro ⟨next, read, same⟩
        rw [same, read]
      · exact fun read => ⟨final, read, rfl⟩
    · have unknown : layout.fields.contains key = false := by
        simpa [layout] using fun same => named same.symm
      rw [Json.Layout.foldMembers_unknown unknown, member?, if_neg named,
        inductionHypothesis others]

theorem ofJson_obj_iff {members : List (String × Json)} (distinct : (members.map Prod.fst).Nodup)
    {options : SdkOptions} :
    ofJson (.obj members) = .ok options ↔ Spelled (.obj members) options := by
  change layout.foldMembers field members {} = _ ↔ _
  rw [foldMembers_iff distinct, Json.holds_text_iff]
  exact ⟨.object, fun | .object told => told⟩

theorem ofJson_arr_iff {items : List Json} {options : SdkOptions} :
    ofJson (.arr items) = .ok options ↔
      items.length ≤ 1 ∧ Json.Tells Json.IsText items.head? options.tsdk := by
  change layout.foldItems field 0 ["tsdk"] items {} = _ ↔ _
  match items with
  | [] =>
    rw [← Json.holds_text_iff]
    constructor
    · rintro ⟨⟩
      exact ⟨Nat.zero_le _, rfl⟩
    · rintro ⟨-, missing⟩
      exact congrArg Except.ok (congrArg SdkOptions.mk missing.symm)
  | [item] =>
    rw [Json.Layout.foldItems, Json.bind_eq_ok_iff, List.head?_cons,
      ← Json.asOptional_iff Json.asText_iff]
    constructor
    · rintro ⟨next, read, ⟨⟩⟩
      exact ⟨Nat.le_refl _, field_iff.mp read⟩
    · rintro ⟨-, read⟩
      exact ⟨options, field_iff.mpr read, rfl⟩
  | first :: second :: rest =>
    rw [Json.Layout.foldItems, Json.bind_eq_ok_iff]
    refine ⟨?_, fun both => absurd both.1 (by simp)⟩
    rintro ⟨next, read, ⟨⟩⟩

/-- What the options below `typescript` are read from. -/
theorem ofJson_iff {value : Json} (proper : value.Proper) {options : SdkOptions} :
    ofJson value = .ok options ↔ Taken value options := by
  cases proper with
  | arr _ =>
    rw [ofJson_arr_iff]
    constructor
    · exact fun both => .array both.1 both.2
    · rintro (⟨⟨⟩⟩ | ⟨bounded, told⟩)
      exact ⟨bounded, told⟩
  | obj ascending _ =>
    rw [ofJson_obj_iff (Json.nodup_of_ascending ascending)]
    exact ⟨.spelled, fun | .spelled spelled => spelled⟩
  | _ => exact ⟨nofun, fun taken => by cases taken with | spelled spelled => cases spelled⟩

end SdkOptions

namespace ClientOptions

open Json (Holds asOptional asText member?)

theorem field_ripplePath_iff {options next : ClientOptions} {value : Json} :
    field options "ripplePath" value = .ok next ↔
      asOptional asText value = .ok next.ripplePath ∧ next.typescript = options.typescript := by
  rw [field, if_pos rfl, Json.bind_eq_ok_iff]
  constructor
  · rintro ⟨ripplePath, read, ⟨⟩⟩
    exact ⟨read, rfl⟩
  · rintro ⟨read, same⟩
    exact ⟨next.ripplePath, read, by rw [← same]⟩

theorem field_typescript_iff {options next : ClientOptions} {value : Json} :
    field options "typescript" value = .ok next ↔
      asOptional SdkOptions.ofJson value = .ok next.typescript ∧
        next.ripplePath = options.ripplePath := by
  rw [field, if_neg (by decide), Json.bind_eq_ok_iff]
  constructor
  · rintro ⟨typescript, read, ⟨⟩⟩
    exact ⟨read, rfl⟩
  · rintro ⟨read, same⟩
    exact ⟨next.typescript, read, by rw [← same]⟩

theorem foldMembers_iff {members : List (String × Json)} (distinct : (members.map Prod.fst).Nodup)
    {options final : ClientOptions} :
    layout.foldMembers field members options = .ok final ↔
      Holds (asOptional asText) (member? "ripplePath" members) options.ripplePath
          final.ripplePath ∧
        Holds (asOptional SdkOptions.ofJson) (member? "typescript" members) options.typescript
          final.typescript := by
  induction members generalizing options with
  | nil =>
    obtain ⟨oldPath, oldNested⟩ := options
    obtain ⟨newPath, newNested⟩ := final
    simp [Json.Layout.foldMembers, member?, Holds, eq_comm]
  | cons member rest inductionHypothesis =>
    obtain ⟨key, value⟩ := member
    obtain ⟨fresh, others⟩ := List.nodup_cons.mp distinct
    -- A known key does not come again, so what is read of it here is what the field holds at the
    -- end.
    by_cases isPath : "ripplePath" = key
    · subst isPath
      rw [Json.Layout.foldMembers_known rfl, member?, if_pos rfl, member?, if_neg (by decide)]
      simp only [inductionHypothesis others, Json.member?_eq_none fresh, field_ripplePath_iff]
      constructor
      · rintro ⟨next, ⟨read, same⟩, path, nested⟩
        exact ⟨path.symm ▸ read, same ▸ nested⟩
      · rintro ⟨read, nested⟩
        exact ⟨{ options with ripplePath := final.ripplePath }, ⟨read, rfl⟩, rfl, nested⟩
    · by_cases isNested : "typescript" = key
      · subst isNested
        rw [Json.Layout.foldMembers_known rfl, member?, if_neg isPath, member?, if_pos rfl]
        simp only [inductionHypothesis others, Json.member?_eq_none fresh, field_typescript_iff]
        constructor
        · rintro ⟨next, ⟨read, same⟩, path, nested⟩
          exact ⟨same ▸ path, nested.symm ▸ read⟩
        · rintro ⟨path, read⟩
          exact ⟨{ options with typescript := final.typescript }, ⟨read, rfl⟩, path, rfl⟩
      · have unknown : layout.fields.contains key = false := by
          simpa [layout] using ⟨fun same => isPath same.symm, fun same => isNested same.symm⟩
        rw [Json.Layout.foldMembers_unknown unknown, member?, if_neg isPath, member?,
          if_neg isNested, inductionHypothesis others]

theorem ofPayload_obj_iff {members : List (String × Json)} {options : ClientOptions} :
    ofPayload (some (.obj members)) = .ok options ↔
      layout.foldMembers field members {} = .ok options := by
  have fold : layout.fold field {} (.obj members) = layout.foldMembers field members {} := rfl
  rw [ofPayload, fold]
  cases layout.foldMembers field members {} with
  | error problem => exact ⟨nofun, nofun⟩
  | ok read => simp

/-- What the options are read from. -/
theorem ofPayload_iff {payload : Option Json} (proper : ∀ value ∈ payload, value.Proper)
    {options : ClientOptions} :
    ofPayload payload = .ok options ↔ Spelled SdkOptions.Taken payload options := by
  match payload with
  | none =>
    constructor
    · rintro ⟨⟩
      exact .missing
    · rintro ⟨⟩
      rfl
  | some .null =>
    constructor
    · rintro ⟨⟩
      exact .null
    · rintro ⟨⟩
      rfl
  | some (.obj members) =>
    cases proper _ rfl with
    | obj ascending each =>
      have nested (part) (found : part ∈ member? "typescript" members) {result} :
          SdkOptions.ofJson part = .ok result ↔ SdkOptions.Taken part result :=
        SdkOptions.ofJson_iff (each _ (Json.mem_of_member? found))
      rw [ofPayload_obj_iff, foldMembers_iff (Json.nodup_of_ascending ascending),
        Json.holds_text_iff, Json.holds_none_iff nested]
      exact ⟨fun both => .object both.1 both.2, fun | .object path nested => ⟨path, nested⟩⟩
  | some (.bool _) => exact ⟨nofun, nofun⟩
  | some (.num _) => exact ⟨nofun, nofun⟩
  | some (.str _) => exact ⟨nofun, nofun⟩
  | some (.arr _) => exact ⟨nofun, nofun⟩

/-! ### The paths -/

/-- A member of the payload. -/
def part? (payload : Option Json) (name : String) : Option Json :=
  payload.bind fun value => value.get? name

theorem tells_text_iff {part : Option Json} {result : Option String}
    (told : Json.Tells Json.IsText part result) {text : String} :
    result = some text ↔ part = some (.str text) := by
  cases told with
  | missing => exact ⟨nofun, nofun⟩
  | null => exact ⟨nofun, nofun⟩
  | value _ spelled =>
    rw [show _ = _ from spelled, Option.some_inj, Option.some_inj, Json.str.injEq]

theorem compilerPath_iff {sdk : Json → SdkOptions → Prop} {payload : Option Json}
    {options : ClientOptions} (spelled : Spelled sdk payload options) {path : String} :
    options.compilerPath = some path ↔
      part? payload "ripplePath" = some (.str path) ∧ path ≠ "" := by
  rw [compilerPath, nonEmpty_eq_some_iff]
  cases spelled with
  | missing => exact ⟨nofun, nofun⟩
  | null => exact ⟨nofun, nofun⟩
  | object told _ => rw [tells_text_iff told]; rfl

theorem tells_taken_iff {part : Option Json} {options : Option SdkOptions}
    (told : Json.Tells SdkOptions.Taken part options) {path : String} :
    options.bind (·.tsdk) = some path ↔
      part? part "tsdk" = some (.str path) ∨ part = some (.arr [.str path]) := by
  cases told with
  | missing => exact ⟨nofun, nofun⟩
  | null => exact ⟨nofun, nofun⟩
  | value _ taken =>
    cases taken with
    | spelled spelled =>
      cases spelled with
      | object told =>
        refine (tells_text_iff told).trans ⟨.inl, ?_⟩
        rintro (found | same)
        · exact found
        · cases same
    | @array items _ bounded told =>
      refine (tells_text_iff told).trans ?_
      match items with
      | [] => exact ⟨nofun, nofun⟩
      | [item] =>
        constructor
        · rintro ⟨⟩
          exact .inr rfl
        · rintro (found | same)
          · exact nomatch found
          · cases same
            rfl
      | first :: second :: rest => exact absurd bounded (by simp)

theorem sdkPath_iff {payload : Option Json} {options : ClientOptions}
    (spelled : Spelled SdkOptions.Taken payload options) {path : String} :
    options.sdkPath = some path ↔
      (part? (part? payload "typescript") "tsdk" = some (.str path) ∨
        part? payload "typescript" = some (.arr [.str path])) ∧ path ≠ "" := by
  rw [sdkPath, nonEmpty_eq_some_iff]
  refine and_congr_left fun _ => ?_
  cases spelled with
  | missing => exact ⟨nofun, nofun⟩
  | null => exact ⟨nofun, nofun⟩
  | object _ nested => exact tells_taken_iff nested

/-! ### Well-typed payloads -/

/-- Where no array stands for the options below `typescript`, what is taken for options spells
them. -/
theorem taken_iff_of_no_array {payload : Option Json}
    (noArray : ∀ items, part? payload "typescript" ≠ some (.arr items)) {options : ClientOptions} :
    Spelled SdkOptions.Taken payload options ↔ Spelled SdkOptions.Spelled payload options := by
  constructor
  · rintro (_ | _ | ⟨path, nested⟩)
    · exact .missing
    · exact .null
    · refine .object path (nested.imp fun found there {result} taken => ?_)
      cases taken with
      | spelled spelled => exact spelled
      | array => exact absurd there (noArray _)
  · rintro (_ | _ | ⟨path, nested⟩)
    · exact .missing
    · exact .null
    · exact .object path (nested.imp fun _ _ {_} => .spelled)

/-- Options are read from exactly the payloads that are taken for options, and these are the
well-typed ones except where an array stands for the options below `typescript`. The paths are the
texts of the payload that are not empty. Every other payload is refused as malformed. -/
theorem ofPayload_exactly {payload : Option Json} (proper : ∀ value ∈ payload, value.Proper) :
    (∀ options, ofPayload payload = .ok options ↔ Spelled SdkOptions.Taken payload options) ∧
      ((∀ items, part? payload "typescript" ≠ some (.arr items)) →
        ∀ options, ofPayload payload = .ok options ↔
          Spelled SdkOptions.Spelled payload options) ∧
      (∀ options, ofPayload payload = .ok options → ∀ path,
        (options.compilerPath = some path ↔
            part? payload "ripplePath" = some (.str path) ∧ path ≠ "") ∧
          (options.sdkPath = some path ↔
            (part? (part? payload "typescript") "tsdk" = some (.str path) ∨
              part? payload "typescript" = some (.arr [.str path])) ∧ path ≠ "")) ∧
      ((¬∃ options, Spelled SdkOptions.Taken payload options) →
        ∃ reason, ofPayload payload = .error reason ∧
          ∀ environment params, params.options = payload →
            Handshake.resolve environment params =
              .error (.configuration (.malformedOptions reason))) := by
  refine ⟨fun options => ofPayload_iff proper, fun noArray options => ?_,
    fun options read path => ?_, fun malformed => ?_⟩
  · rw [ofPayload_iff proper, taken_iff_of_no_array noArray]
  · have taken := (ofPayload_iff proper).mp read
    exact ⟨compilerPath_iff taken, sdkPath_iff taken⟩
  · cases read : ofPayload payload with
    | ok options => exact absurd ⟨options, (ofPayload_iff proper).mp read⟩ malformed
    | error reason =>
      refine ⟨reason, rfl, ?_⟩
      rintro environment params rfl
      rw [Handshake.resolve, read]

/-- Both paths, each where it belongs, and more that does not matter. -/
theorem ofPayload_paths :
    let payload := Json.obj
      [("ripplePath", .str "/ripple"), ("trace", .arr []),
        ("typescript", .obj [("tsdk", .str "/ts")])]
    payload.Proper ∧ ∃ options, ofPayload (some payload) = .ok options ∧
      options.compilerPath = some "/ripple" ∧ options.sdkPath = some "/ts" := by
  intro payload
  have proper : payload.Proper := by
    refine .obj (by decide) (List.forall_mem_cons.mpr ⟨.str _, List.forall_mem_cons.mpr
      ⟨.arr (List.forall_mem_nil _), List.forall_mem_singleton.mpr ?_⟩⟩)
    exact .obj (List.pairwise_singleton _ _) (List.forall_mem_singleton.mpr (.str _))
  obtain ⟨-, -, paths, -⟩ := @ofPayload_exactly (some payload) (by rintro _ ⟨⟩; exact proper)
  refine ⟨proper, _, rfl, ?_, ?_⟩
  · exact (paths _ rfl "/ripple").1.mpr ⟨rfl, by decide⟩
  · exact (paths _ rfl "/ts").2.mpr ⟨.inl rfl, by decide⟩

/-- An array in the place of an object is taken for options that nothing spells. -/
theorem not_spelled_of_array :
    let payload := Json.obj [("typescript", .arr [.str "/ts"])]
    payload.Proper ∧
      ofPayload (some payload) = .ok { typescript := some { tsdk := some "/ts" } } ∧
        ¬∃ options, Spelled SdkOptions.Spelled (some payload) options := by
  refine ⟨?_, rfl, ?_⟩
  · refine .obj (List.pairwise_singleton _ _) (List.forall_mem_singleton.mpr (.arr ?_))
    exact List.forall_mem_singleton.mpr (.str _)
  · rintro ⟨options, _ | _ | ⟨_, nested⟩⟩
    cases nested with
    | value _ spelled => cases spelled

end ClientOptions

end RippleServer
