/-
This file proves what the readers of typed values make of a text that has a
tree: what is decoded from the tree, with the reading ending where the tree
ends, and a fault if nothing can be decoded. For a record the members of the
object decide, wherever they stand and whatever unknown ones are among them: no
known field may come twice, each must fit its type, and an array stands for the
object that has its items as the first fields.
-/

import RippleServer.Proofs.JsonSkipping

namespace RippleServer.Json

/-- From a text that has a tree the reader gets what the tree is decoded to, and stops where the
tree ends; where nothing is decoded it gets nothing. -/
def Decodes {α : Type} (depth : Nat) (reader : Bytes → Reading (α × Bytes))
    (decode : Json → Option α) : Prop :=
  ∀ ⦃input rest : Bytes⦄ ⦃found : Json⦄, tree depth input = .ok (found, rest) →
    ∀ result behind,
      reader input = .ok (result, behind) ↔ decode found = some result ∧ behind = rest

theorem Decodes.map {α β : Type} {depth : Nat} {reader : Bytes → Reading (α × Bytes)}
    {decode : Json → Option α} (decodes : Decodes depth reader decode) (change : α → β) :
    Decodes depth (fun input => (reader input).map fun (result, rest) => (change result, rest))
      fun found => (decode found).map change := by
  intro input rest found read changed behind
  rw [map_eq_ok_iff, Option.map_eq_some_iff]
  constructor
  · rintro ⟨⟨result, behind⟩, got, ⟨⟩⟩
    obtain ⟨decoded, rfl⟩ := (decodes read result behind).mp got
    exact ⟨⟨result, decoded, rfl⟩, rfl⟩
  · rintro ⟨⟨result, decoded, rfl⟩, rfl⟩
    exact ⟨(result, behind), (decodes read result behind).mpr ⟨decoded, rfl⟩, rfl⟩

/-- What is read is put where it belongs. -/
theorem Decodes.fill {α State : Type} {depth : Nat} {reader : Bytes → Reading (α × Bytes)}
    {decode : Json → Option α} (decodes : Decodes depth reader decode) (change : α → State)
    {next : Json → Option State} (same : ∀ found, (decode found).map change = next found) :
    Decodes depth
      (fun input => do
        let (result, rest) ← reader input
        .ok (change result, rest))
      next := by
  intro input rest found read state behind
  rw [← same, ← decodes.map change read]
  cases reader input <;> rfl

/-! ### Values of a given type -/

/-- The text that a value is. -/
def text? : Json → Option String
  | .str text => some text
  | _ => none

/-- The whole number of 64 bits that a value is. -/
def int64? : Json → Option Int
  | .num (.int number) => if number ≤ Text.signedBound then some number else none
  | _ => none

/-- What null or another value is decoded to. -/
def optional? {α : Type} (decode : Json → Option α) : Json → Option (Option α)
  | .null => some none
  | found => (decode found).map some

theorem decodes_value (depth : Nat) :
    Decodes depth (value depth) fun found => some found.sorted := by
  intro input rest found read result behind
  rw [readsSorted depth input, read]
  simp [Except.map, eq_comm]

theorem decodes_readText (depth : Nat) : Decodes depth readText text? := by
  intro input rest found read result behind
  have spelled := spelled_of_tree read
  rw [readText]
  generalize skipSpace input = opened at spelled ⊢
  cases spelled with
  | scalar scalar =>
    cases scalar with
    | str read =>
      simp only [if_true, read, text?]
      simp [eq_comm]
    | @digits byte _ _ _ digital _ =>
      have notQuote : byte ≠ ascii '"' := ne_of_isDigit digital rfl
      simp only [if_neg notQuote]
      exact ⟨nofun, nofun⟩
    | _ => exact ⟨nofun, nofun⟩
  | list => exact ⟨nofun, nofun⟩
  | object => exact ⟨nofun, nofun⟩

theorem readInt64_of_value {byte : UInt8} {more rest : Bytes} {found : Number}
    (start : skipSpace (byte :: more) = byte :: more)
    (numeric : (byte = ascii '-' || isDigit byte) = true)
    (read : value 0 (byte :: more) = .ok (.num found, rest)) (result : Int) (behind : Bytes) :
    readInt64 (byte :: more) = .ok (result, behind) ↔
      int64? (.num found) = some result ∧ behind = rest := by
  rw [readInt64, start]
  simp only [numeric, if_true, read]
  cases found with
  | int number =>
    simp only [int64?, bind, Except.bind]
    split_ifs <;> simp [eq_comm]
  | float bits =>
    constructor
    · rintro ⟨⟩
    · rintro ⟨⟨⟩, -⟩

theorem readInt64_skipSpace (input : Bytes) : readInt64 (skipSpace input) = readInt64 input := by
  rw [readInt64, readInt64, skipSpace_skipSpace]

theorem decodes_readInt64 (depth : Nat) : Decodes depth readInt64 int64? := by
  intro input rest found read result behind
  have spelled := spelled_of_tree read
  rw [← tree_skipSpace] at read
  rw [← readInt64_skipSpace]
  have start := skipSpace_skipSpace input
  generalize skipSpace input = opened at start read spelled ⊢
  cases spelled with
  | scalar scalar =>
    cases scalar with
    | negative _ =>
      rw [tree_scalar (by decide) (by decide) start] at read
      exact readInt64_of_value start rfl read result behind
    | digits digital _ =>
      rw [tree_scalar (ne_of_isDigit digital rfl) (ne_of_isDigit digital rfl) start] at read
      exact readInt64_of_value start (Bool.or_eq_true_iff.mpr (.inr digital)) read result behind
    | _ => exact ⟨nofun, nofun⟩
  | list => exact ⟨nofun, nofun⟩
  | object => exact ⟨nofun, nofun⟩

/-- Null is the one value that starts with its letter. -/
theorem Spelled.null_iff {depth : Nat} {byte : UInt8} {more rest : Bytes} {found : Json}
    (spelled : Spelled depth (byte :: more) found rest) : byte = ascii 'n' ↔ found = .null := by
  cases spelled with
  | scalar scalar =>
    cases scalar with
    | null _ => exact ⟨fun _ => rfl, fun _ => rfl⟩
    | digits digital _ =>
      exact ⟨fun same => absurd same (ne_of_isDigit digital rfl), nofun⟩
    | _ => exact ⟨nofun, nofun⟩
  | list => exact ⟨nofun, nofun⟩
  | object => exact ⟨nofun, nofun⟩

theorem optional?_of_ne {α : Type} {decode : Json → Option α} {found : Json}
    (given : found ≠ .null) : optional? decode found = (decode found).map some := by
  cases found with
  | null => exact absurd rfl given
  | _ => rfl

theorem Decodes.optional {α : Type} {depth : Nat} {reader : Bytes → Reading (α × Bytes)}
    {decode : Json → Option α} (decodes : Decodes depth reader decode) :
    Decodes depth (readOptional reader) (optional? decode) := by
  intro input rest found read result behind
  have spelled := spelled_of_tree read
  rw [← tree_skipSpace] at read
  rw [readOptional]
  generalize skipSpace input = opened at read spelled ⊢
  cases opened with
  | nil => cases spelled with
    | scalar scalar => cases scalar
  | cons byte more =>
    dsimp only
    split_ifs with letter
    · cases spelled with
      | scalar scalar =>
        cases scalar with
        | null read =>
          rw [read]
          simp [Except.map, optional?, eq_comm]
        | digits digital _ => exact absurd letter (ne_of_isDigit digital rfl)
        | _ => exact absurd letter (by decide)
      | list => exact absurd letter (by decide)
      | object => exact absurd letter (by decide)
    · rw [optional?_of_ne fun null => letter (spelled.null_iff.mpr null)]
      exact decodes.map some read result behind

/-- The value of a tree, where null is none. -/
def given? (found : Json) : Option Json :=
  (optional? (fun found => some found.sorted) found).join

theorem optional?_sorted :
    optional? (fun found => some found.sorted) = fun found => some found.given? := by
  funext found
  cases found <;> rfl

theorem decodes_given (depth : Nat) :
    Decodes depth (readOptional (value depth)) fun found => some found.given? := by
  rw [← optional?_sorted]
  exact (decodes_value depth).optional

/-! ### Parts that may be missing -/

/-- What a part tells of a field that may be missing or null, where the relation is between other
values and the results they spell. -/
inductive Tells {α : Type} (spells : Json → α → Prop) : Option Json → Option α → Prop
  | missing : Tells spells none none
  | null : Tells spells (some .null) none
  | value {part : Json} {result : α} (given : part ≠ .null) (spelled : spells part result) :
      Tells spells (some part) (some result)

theorem Tells.imp {α : Type} {spells others : Json → α → Prop} {part : Option Json}
    {result : Option α} (told : Tells spells part result)
    (weaker : ∀ found ∈ part, ∀ {result}, spells found result → others found result) :
    Tells others part result := by
  cases told with
  | missing => exact .missing
  | null => exact .null
  | value given spelled => exact .value given (weaker _ rfl spelled)

theorem tells_iff {α : Type} {spells : Json → α → Prop} {decode : Json → Option α}
    (exact : ∀ {part result}, decode part = some result ↔ spells part result)
    {part : Option Json} {result : Option α} :
    Tells spells part result ↔
      (part.all fun part => (optional? decode part).isSome) = true ∧
        (part.map fun part => (optional? decode part).join).join = result := by
  constructor
  · intro tells
    cases tells with
    | missing => exact ⟨rfl, rfl⟩
    | null => exact ⟨rfl, rfl⟩
    | value given spelled =>
      rw [Option.all_some, Option.map_some, optional?_of_ne given, exact.mpr spelled]
      exact ⟨rfl, rfl⟩
  · rintro ⟨fit, rfl⟩
    cases part with
    | none => exact .missing
    | some part =>
      by_cases null : part = .null
      · subst null
        exact .null
      · rw [Option.all_some, optional?_of_ne null, Option.isSome_map] at fit
        obtain ⟨result, decoded⟩ := Option.isSome_iff_exists.mp fit
        rw [Option.map_some, optional?_of_ne null, decoded]
        exact .value null (exact.mp decoded)

theorem exists_tells_iff {α : Type} {spells : Json → α → Prop} {decode : Json → Option α}
    (exact : ∀ {part result}, decode part = some result ↔ spells part result)
    {part : Option Json} :
    (∃ result, Tells spells part result) ↔
      (part.all fun part => (optional? decode part).isSome) = true :=
  ⟨fun ⟨_, tells⟩ => ((tells_iff exact).mp tells).1,
    fun fit => ⟨_, (tells_iff exact).mpr ⟨fit, rfl⟩⟩⟩

/-- The value is the text. -/
def IsText (part : Json) (text : String) : Prop :=
  part = .str text

/-- The part tells which value it has, where null is none. -/
def TellsValue : Option Json → Option Json → Prop :=
  Tells fun part value => value = part.sorted

theorem tellsValue_iff {part value : Option Json} :
    TellsValue part value ↔ (part.map given?).join = value := by
  refine (tells_iff (Option.some_inj.trans eq_comm)).trans ⟨And.right, fun same => ⟨?_, same⟩⟩
  cases part with
  | none => rfl
  | some part => cases part <;> rfl

theorem exists_tellsValue (part : Option Json) : ∃ value, TellsValue part value :=
  ⟨_, tellsValue_iff.mpr rfl⟩

theorem text?_eq_some_iff {part : Json} {text : String} :
    text? part = some text ↔ IsText part text := by
  cases part <;> simp [text?, IsText]

theorem int64?_eq_some_iff {part : Json} {number : Int} :
    int64? part = some number ↔ part = .int number ∧ number ≤ Text.signedBound := by
  constructor
  · intro decoded
    cases part with
    | num found =>
      cases found with
      | int found =>
        rw [int64?] at decoded
        split_ifs at decoded with bounded
        cases decoded
        exact ⟨rfl, bounded⟩
      | float bits => cases decoded
    | _ => cases decoded
  · rintro ⟨rfl, bounded⟩
    rw [int, int64?, if_pos bounded]

/-- A part that must be there. -/
theorem required_iff {α : Type} {decode : Json → Option α} {default result : α}
    {part : Option Json} :
    (part.all fun part => (decode part).isSome) = true ∧
        (part.map fun part => (decode part).getD default) = some result ↔
      ∃ found, part = some found ∧ decode found = some result := by
  cases part with
  | none => exact ⟨nofun, nofun⟩
  | some part => cases decoded : decode part <;> simp [decoded]

/-! ### Records -/

/-- The parts with one more of them under a name. -/
def withPart (name : String) (part : Json) (parts : String → Option Json) (asked : String) :
    Option Json :=
  if asked = name then some part else parts asked

/-- How a record is assembled: what has been seen of its fields is told by the parts that go by
their names, and reading a field adds a part if that is of the type of the field. -/
structure Assembly {State Result : Type} (record : RecordReader State Result) where
  /-- Whether a value is of the type of the field. -/
  fits : String → Json → Bool
  /-- What has been seen once the parts have been read. -/
  state : (String → Option Json) → State
  start : state (fun _ => none) = record.start
  congr : ∀ {parts others}, (∀ name ∈ record.fields, parts name = others name) →
    state parts = state others
  seen : ∀ {name}, name ∈ record.fields → ∀ parts,
    record.seen (state parts) name = (parts name).isSome
  field : ∀ {name}, name ∈ record.fields → ∀ depth parts,
    Decodes depth (record.field depth (state parts) name) fun part =>
      if fits name part then some (state (withPart name part parts)) else none
  distinct : record.fields.Nodup

namespace Assembly

variable {State Result : Type} {record : RecordReader State Result} (assembly : Assembly record)

/-- No field comes twice among the members and each is of its type. -/
def Accepts (members : List (String × Json)) : Prop :=
  ∀ name ∈ record.fields, (members.map Prod.fst).count name ≤ 1 ∧
    (member? name members).all (assembly.fits name) = true

instance (members : List (String × Json)) : Decidable (assembly.Accepts members) :=
  inferInstanceAs (Decidable (∀ name ∈ record.fields, _ ∧ _))

/-- What has been seen once the members have been read. -/
def stateOf (members : List (String × Json)) : State :=
  assembly.state fun name => member? name members

/-- The record that the members give. -/
def result? (members : List (String × Json)) : Option Result :=
  if assembly.Accepts members then (record.finish (assembly.stateOf members)).toOption else none

/-- The record that a tree is decoded to. The items of an array are the fields in their order. -/
def decode : Json → Option Result
  | .obj members => assembly.result? members
  | .arr items =>
    if items.length ≤ record.fields.length ∧
        ∀ name ∈ record.fields.drop items.length, record.optional name = true then
      assembly.result? (record.fields.zip items)
    else none
  | _ => none

variable {assembly} {taken : List (String × Json)} {key : String} {part : Json}

variable (assembly) in
theorem accepts_nil : assembly.Accepts [] :=
  fun _ _ => ⟨Nat.zero_le _, rfl⟩

theorem result?_eq_some_iff {members : List (String × Json)} {result : Result} :
    assembly.result? members = some result ↔
      assembly.Accepts members ∧ record.finish (assembly.stateOf members) = .ok result := by
  rw [result?]
  split_ifs with accepted
  · cases record.finish (assembly.stateOf members) <;> simp [Except.toOption, accepted]
  · simp [accepted]

theorem Accepts.of_append {others : List (String × Json)}
    (accepted : assembly.Accepts (taken ++ others)) : assembly.Accepts taken := by
  intro name known
  obtain ⟨once, fit⟩ := accepted name known
  rw [List.map_append, List.count_append] at once
  refine ⟨Nat.le_trans (Nat.le_add_right _ _) once, ?_⟩
  rw [member?_append] at fit
  cases found : member? name taken with
  | none => rfl
  | some part =>
    rw [found, Option.some_or] at fit
    exact fit

/-- A field that has been seen must not come again. -/
theorem not_accepts_of_seen (known : key ∈ record.fields) (seen : (member? key taken).isSome) :
    ¬assembly.Accepts (taken ++ [(key, part)]) := by
  intro accepted
  have once := (accepted key known).1
  have before := List.count_pos_iff.mpr (member?_isSome_iff.mp seen)
  rw [List.map_append, List.count_append, List.map_singleton, List.count_singleton_self] at once
  omega

theorem member?_snoc_of_ne {name : String} (other : name ≠ key) :
    member? name (taken ++ [(key, part)]) = member? name taken := by
  rw [member?_append, member?, if_neg other, member?, Option.or_none]

theorem member?_snoc_self (fresh : ¬(member? key taken).isSome) :
    member? key (taken ++ [(key, part)]) = some part := by
  rw [member?_append, Option.not_isSome_iff_eq_none.mp fresh, Option.none_or, member?, if_pos rfl]

theorem count_snoc_of_ne {name : String} (other : name ≠ key) :
    ((taken ++ [(key, part)]).map Prod.fst).count name = (taken.map Prod.fst).count name := by
  rw [List.map_append, List.count_append, List.map_singleton, List.count_singleton,
    if_neg fun same => other (beq_iff_eq.mp same).symm, Nat.add_zero]

/-- A new field must be of its type. -/
theorem Accepts.snoc_iff (accepted : assembly.Accepts taken) (known : key ∈ record.fields)
    (fresh : ¬(member? key taken).isSome) :
    assembly.Accepts (taken ++ [(key, part)]) ↔ assembly.fits key part = true := by
  constructor
  · intro both
    have fit := (both key known).2
    rw [member?_snoc_self fresh] at fit
    exact fit
  · intro fit name named
    by_cases same : name = key
    · subst same
      refine ⟨?_, by rw [member?_snoc_self fresh]; exact fit⟩
      rw [List.map_append, List.count_append, List.map_singleton, List.count_singleton_self,
        List.count_eq_zero_of_not_mem fun earlier => fresh (member?_isSome_iff.mpr earlier)]
    · rw [count_snoc_of_ne same, member?_snoc_of_ne same]
      exact accepted name named

/-- Unknown members do not matter. -/
theorem Accepts.snoc_unknown (accepted : assembly.Accepts taken) (unknown : key ∉ record.fields) :
    assembly.Accepts (taken ++ [(key, part)]) := by
  intro name named
  have different : name ≠ key := fun same => unknown (same ▸ named)
  rw [count_snoc_of_ne different, member?_snoc_of_ne different]
  exact accepted name named

theorem stateOf_snoc_unknown (unknown : key ∉ record.fields) :
    assembly.stateOf (taken ++ [(key, part)]) = assembly.stateOf taken :=
  assembly.congr fun _ named => member?_snoc_of_ne fun same => unknown (same ▸ named)

theorem stateOf_snoc (fresh : ¬(member? key taken).isSome) :
    assembly.stateOf (taken ++ [(key, part)]) =
      assembly.state (withPart key part fun name => member? name taken) := by
  refine assembly.congr fun name named => ?_
  rw [withPart]
  split_ifs with same
  · rw [same, member?_snoc_self fresh]
  · exact member?_snoc_of_ne same

/-- Reading a field that has not been seen. -/
theorem field_iff (accepted : assembly.Accepts taken) (known : key ∈ record.fields)
    (fresh : ¬(member? key taken).isSome) {depth : Nat} {input rest : Bytes}
    (read : tree depth input = .ok (part, rest)) (next : State) (behind : Bytes) :
    record.field depth (assembly.stateOf taken) key input = .ok (next, behind) ↔
      assembly.Accepts (taken ++ [(key, part)]) ∧
        next = assembly.stateOf (taken ++ [(key, part)]) ∧ behind = rest := by
  rw [stateOf, assembly.field known depth _ read, accepted.snoc_iff known fresh,
    stateOf_snoc fresh]
  dsimp only
  split_ifs with fit <;> simp [fit, eq_comm]

/-- Reading a member, which is refused exactly if it makes the members unacceptable. -/
theorem member_iff (accepted : assembly.Accepts taken) {depth : Nat} {named input rest : Bytes}
    (divided : colon named = .ok input) (read : tree depth input = .ok (part, rest)) (next : State)
    (behind : Bytes) :
    record.member depth (assembly.stateOf taken) key named = .ok (next, behind) ↔
      assembly.Accepts (taken ++ [(key, part)]) ∧
        next = assembly.stateOf (taken ++ [(key, part)]) ∧ behind = rest := by
  rw [RecordReader.member]
  by_cases known : key ∈ record.fields
  · rw [if_pos (List.contains_iff_mem.mpr known), stateOf, assembly.seen known, ← stateOf]
    split_ifs with seen
    · exact ⟨nofun, fun both => absurd both.1 (not_accepts_of_seen known seen)⟩
    · rw [divided]
      exact field_iff accepted known seen read next behind
  · rw [if_neg (mt List.contains_iff_mem.mp known), divided]
    simp only [bind, Except.bind, skipValue_of_tree read, stateOf_snoc_unknown known,
      accepted.snoc_unknown known, true_and]
    simp [eq_comm]

/-- Reading the members of an object. -/
theorem foldMembers_iff {depth budget : Nat} {first : Bool} {input rest : Bytes}
    {members : List (String × Json)} (listed : Members (tree depth) first input members rest)
    (accepted : assembly.Accepts taken) (bounded : members.length ≤ budget) (final : State)
    (behind : Bytes) :
    foldMembers (record.member depth) budget first (assembly.stateOf taken) input =
        .ok (final, behind) ↔
      assembly.Accepts (taken ++ members) ∧
        final = assembly.stateOf (taken ++ members) ∧ behind = ascii '\x7d' :: rest := by
  -- The members to come get fewer, while those taken tell the state; they are accepted all along.
  induction listed generalizing taken budget with
  | done ends =>
    rw [foldMembers, ends, List.append_nil]
    simp only [bind, Except.bind, accepted, true_and]
    simp [eq_comm]
  | @next _ _ _ _ middle _ key part members more divided found others inductionHypothesis =>
    obtain ⟨budget, rfl⟩ := Nat.exists_eq_add_of_le' (Nat.le_trans (Nat.succ_pos _) bounded)
    rw [foldMembers, more, List.append_cons]
    change record.member depth _ key _ >>= (fun read =>
      foldMembers (record.member depth) budget false read.1 read.2) = _ ↔ _
    rw [bind_eq_ok_iff]
    constructor
    · rintro ⟨⟨next, left⟩, step, folded⟩
      obtain ⟨acceptable, rfl, rfl⟩ := (member_iff accepted divided found next left).mp step
      exact (inductionHypothesis acceptable (Nat.le_of_succ_le_succ bounded)).mp folded
    · rintro ⟨acceptable, rfl, rfl⟩
      have step := (member_iff accepted divided found _ _).mpr ⟨acceptable.of_append, rfl, rfl⟩
      exact ⟨_, step, (inductionHypothesis acceptable.of_append
        (Nat.le_of_succ_le_succ bounded)).mpr ⟨acceptable, rfl, rfl⟩⟩

/-! ### Records in the form of an array -/

theorem closeList_iff {input rest : Bytes} :
    closeList input = (none, rest) ↔ skipSpace input = ascii ']' :: rest := by
  rw [closeList]
  cases skipSpace input with
  | nil => exact ⟨nofun, nofun⟩
  | cons byte more =>
    dsimp only
    split_ifs with closing
    · simp [closing]
    · simp [closing]
    · simp [closing]
    · simp [closing]

theorem nextItem_of_closing {input rest : Bytes} (closing : skipSpace input = ascii ']' :: rest)
    (first : Bool) : nextItem first input = .ok (false, ascii ']' :: rest) := by
  rw [nextItem, closing]
  rfl

/-- Behind the last item the fields that are left are missing. -/
theorem items_of_closing {depth done : Nat} {names : List String} {state : State}
    {input rest : Bytes} (closing : skipSpace input = ascii ']' :: rest) (final : State)
    (behind : Bytes) :
    (∃ left, record.items depth done names state input = .ok (final, left) ∧
        closeList left = (none, behind)) ↔
      (∀ name ∈ names, record.optional name = true) ∧ final = state ∧ behind = rest := by
  induction names generalizing done input with
  | nil =>
    simp only [RecordReader.items, Except.ok.injEq, Prod.mk.injEq, closeList_iff]
    constructor
    · rintro ⟨left, ⟨rfl, rfl⟩, closes⟩
      rw [closing, List.cons.injEq] at closes
      exact ⟨nofun, rfl, closes.2.symm⟩
    · rintro ⟨-, rfl, rfl⟩
      exact ⟨input, ⟨rfl, rfl⟩, closing⟩
  | cons name names inductionHypothesis =>
    rw [RecordReader.items, nextItem_of_closing closing, List.forall_mem_cons]
    simp only [bind, Except.bind, Bool.false_eq_true, if_false]
    split_ifs with optional
    · have again : skipSpace (ascii ']' :: rest) = ascii ']' :: rest := skipSpace_cons rfl rest
      rw [inductionHypothesis again]
      simp [optional]
    · simp [optional]

theorem not_seen_of_nodup {name : String} {names : List String}
    (distinct : (taken.map Prod.fst ++ name :: names).Nodup) : ¬(member? name taken).isSome := by
  intro seen
  exact (List.nodup_append.mp distinct).2.2 name (member?_isSome_iff.mp seen) name
    List.mem_cons_self rfl

/-- Reading the items of an array into the fields that are left. -/
theorem items_iff {depth : Nat} {names : List String} {first : Bool} {input rest : Bytes}
    {items : List Json} (listed : Items (tree depth) first input items rest)
    (accepted : assembly.Accepts taken) (split : record.fields = taken.map Prod.fst ++ names)
    (opening : decide (taken.length = 0) = first) (final : State) (behind : Bytes) :
    (∃ left, record.items depth taken.length names (assembly.stateOf taken) input =
        .ok (final, left) ∧ closeList left = (none, behind)) ↔
      (items.length ≤ names.length ∧
          ∀ name ∈ names.drop items.length, record.optional name = true) ∧
        assembly.Accepts (taken ++ names.zip items) ∧
          final = assembly.stateOf (taken ++ names.zip items) ∧ behind = rest := by
  induction listed generalizing taken names with
  | done ends =>
    -- The fields that are left are missing.
    cases nextItem_cases ends with
    | ends closing =>
      rw [items_of_closing closing, List.zip_nil_right, List.append_nil]
      simp [accepted]
  | @next _ _ _ _ _ item items more found others inductionHypothesis =>
    cases names with
    | nil =>
      -- An item is left and no field for it, so the bracket does not come next.
      refine ⟨?_, fun both => absurd both.1.1 (Nat.not_succ_le_zero _)⟩
      rintro ⟨left, ⟨⟩, closes⟩
      rw [nextItem_of_closing (closeList_iff.mp closes)] at more
      cases more
    | cons name names =>
      have known : name ∈ record.fields := split ▸ List.mem_append_right _ List.mem_cons_self
      have step := field_iff accepted known (not_seen_of_nodup (split ▸ assembly.distinct)) found
      have others (acceptable : assembly.Accepts (taken ++ [(name, item)])) := by
        refine @inductionHypothesis _ names acceptable ?_ ?_
        · rw [split, List.map_append, List.append_assoc]
          rfl
        · rw [List.length_append]
          rfl
      rw [List.length_append] at others
      rw [RecordReader.items, opening, more, List.length_cons, List.length_cons,
        Nat.succ_le_succ_iff, List.drop_succ_cons, List.zip_cons_cons, List.append_cons]
      change (∃ left, record.field depth _ name _ >>= (fun read =>
        record.items depth (taken.length + 1) names read.1 read.2) = _ ∧ _) ↔ _
      constructor
      · rintro ⟨left, folded, closes⟩
        obtain ⟨⟨next, middle⟩, read, folded⟩ := bind_eq_ok_iff.mp folded
        obtain ⟨acceptable, rfl, rfl⟩ := (step next middle).mp read
        exact (others acceptable).mp ⟨left, folded, closes⟩
      · intro given
        have acceptable := given.2.1.of_append
        obtain ⟨left, folded, closes⟩ := (others acceptable).mpr given
        exact ⟨left, bind_eq_ok_iff.mpr ⟨_, (step _ _).mpr ⟨acceptable, rfl, rfl⟩, folded⟩, closes⟩

/-! ### Records in either form -/

theorem settle_conclude_iff {close : Bytes → Option Fault × Bytes}
    {reading : Reading (State × Bytes)} {result : Result} {behind : Bytes} :
    settle close (record.conclude reading) = .ok (result, behind) ↔
      ∃ state, record.finish state = .ok result ∧
        ∃ left, reading = .ok (state, left) ∧ close left = (none, behind) := by
  cases reading with
  | error fault =>
    refine ⟨fun settled => ?_, nofun⟩
    rw [RecordReader.conclude, settle] at settled
    split_ifs at settled
  | ok read =>
    obtain ⟨state, left⟩ := read
    rw [RecordReader.conclude]
    cases ended : record.finish state with
    | error problem =>
      refine ⟨fun settled => ?_, ?_⟩
      · cases settled
      · rintro ⟨_, finished, _, ⟨⟩, _⟩
        cases ended.symm.trans finished
    | ok result =>
      rw [settle]
      constructor
      · intro settled
        split at settled
        · rename_i closes
          cases settled
          exact ⟨state, ended, left, rfl, closes⟩
        · cases settled
      · rintro ⟨_, finished, _, ⟨⟩, closes⟩
        cases ended.symm.trans finished
        rw [closes]

/-- A record is read as what its tree is decoded to. -/
theorem decodes (depth : Nat) : Decodes depth (record.read depth) assembly.decode := by
  intro input rest found read result behind
  have spelled := spelled_of_tree read
  rw [RecordReader.read]
  generalize skipSpace input = opened at spelled ⊢
  cases spelled with
  | scalar scalar =>
    cases scalar with
    | @digits byte _ _ _ digital _ =>
      have notObject : byte ≠ ascii '\x7b' := ne_of_isDigit digital rfl
      have notList : byte ≠ ascii '[' := ne_of_isDigit digital rfl
      simp only [if_neg notObject, if_neg notList]
      exact ⟨nofun, nofun⟩
    | _ => exact ⟨nofun, nofun⟩
  | list listed _ =>
    have items := items_iff listed assembly.accepts_nil rfl rfl
    change settle closeList (record.conclude (record.items _ _ _ _ _)) = _ ↔ _
    rw [settle_conclude_iff, ← assembly.start]
    constructor
    · rintro ⟨state, finished, read⟩
      obtain ⟨placed, accepted, rfl, rfl⟩ := (items state behind).mp read
      rw [decode, if_pos placed, result?_eq_some_iff]
      exact ⟨⟨accepted, finished⟩, rfl⟩
    · rintro ⟨decoded, rfl⟩
      rw [decode] at decoded
      split_ifs at decoded with placed
      obtain ⟨accepted, finished⟩ := result?_eq_some_iff.mp decoded
      exact ⟨_, finished, (items _ _).mpr ⟨placed, accepted, rfl, rfl⟩⟩
  | object listed bounded =>
    have members := foldMembers_iff listed assembly.accepts_nil bounded
    change settle closeObject (record.conclude (foldMembers _ _ _ _ _)) = _ ↔ _
    rw [settle_conclude_iff, ← assembly.start, decode, result?_eq_some_iff]
    constructor
    · rintro ⟨state, finished, left, read, closes⟩
      obtain ⟨accepted, rfl, rfl⟩ := (members state left).mp read
      cases closes
      exact ⟨⟨accepted, finished⟩, rfl⟩
    · rintro ⟨⟨accepted, finished⟩, rfl⟩
      exact ⟨_, finished, _, (members _ _).mpr ⟨accepted, rfl, rfl⟩, rfl⟩

end Assembly

end RippleServer.Json
