/-
This file proves that a value without fractions is read back from its bytes, to
any depth that its containers do not exceed, whatever separator follows it. The
loops over the items of a list and over the members of an object are taken apart
into single rounds. What a round does with a member is left open, so that the
same argument serves for the members of a value and for the fields of a record.
-/

import RippleServer.Proofs.JsonMembers
import RippleServer.Proofs.JsonScalars

namespace RippleServer.Json

/-! ### Exact values -/

/-- A value that has one spelling: it holds no fraction, its numbers fit a machine word, and the
keys of its objects ascend. -/
inductive Exact : Json → Prop
  | null : Exact .null
  | bool (value : Bool) : Exact (.bool value)
  | int {value : Int} (fits : FitsWord value) : Exact (.int value)
  | str (text : String) : Exact (.str text)
  | arr {items : List Json} (exactItems : ∀ item ∈ items, Exact item) : Exact (.arr items)
  | obj {members : List (String × Json)}
      (ascending : members.Pairwise fun first second => first.1 < second.1)
      (exactValues : ∀ member ∈ members, Exact member.2) : Exact (.obj members)

theorem exact_obj_nil : Exact (.obj []) :=
  .obj .nil nofun

theorem Exact.obj_singleton {value : Json} (exact : value.Exact) (key : String) :
    Exact (.obj [(key, value)]) :=
  .obj (List.pairwise_singleton _ _) (List.forall_mem_singleton.mpr exact)

mutual

/-- How deep the containers of a value nest. -/
def nesting : Json → Nat
  | .arr items => itemsNesting items + 1
  | .obj members => membersNesting members + 1
  | _ => 0
termination_by structural value => value

/-- How deep the containers among the items of a list nest. -/
def itemsNesting : List Json → Nat
  | [] => 0
  | item :: rest => max (nesting item) (itemsNesting rest)
termination_by structural items => items

/-- How deep the containers among the members of an object nest. -/
def membersNesting : List (String × Json) → Nat
  | [] => 0
  | (_, value) :: rest => max (nesting value) (membersNesting rest)
termination_by structural members => members

end

theorem nesting_le_itemsNesting {item : Json} {items : List Json} (member : item ∈ items) :
    item.nesting ≤ itemsNesting items := by
  induction items with
  | nil => cases member
  | cons first rest inductionHypothesis =>
    rw [itemsNesting]
    rcases List.mem_cons.mp member with rfl | inRest
    · exact Nat.le_max_left _ _
    · exact Nat.le_trans (inductionHypothesis inRest) (Nat.le_max_right _ _)

theorem nesting_le_membersNesting {member : String × Json} {members : List (String × Json)}
    (inMembers : member ∈ members) : member.2.nesting ≤ membersNesting members := by
  induction members with
  | nil => cases inMembers
  | cons first rest inductionHypothesis =>
    rw [membersNesting]
    rcases List.mem_cons.mp inMembers with rfl | inRest
    · exact Nat.le_max_left _ _
    · exact Nat.le_trans (inductionHypothesis inRest) (Nat.le_max_right _ _)

/-- The bytes of the value are read back as it, whatever separator follows them. -/
def ReadsBack (depth : Nat) (value : Json) : Prop :=
  ∀ rest, EndsNumber rest → Json.value depth (value.bytes ++ rest) = .ok (value, rest)

/-- The bytes of a value start with one that is neither blank nor the end of a list, and with the
one of null only if the value is null. -/
theorem Exact.bytes_eq_cons {value : Json} (exact : Exact value) :
    ∃ byte more, value.bytes = byte :: more ∧ isSpace byte = false ∧ byte ≠ ascii ']' ∧
      (value ≠ .null → byte ≠ ascii 'n') := by
  cases exact with
  | null => exact ⟨_, _, rfl, rfl, by decide, fun notNull => absurd rfl notNull⟩
  | bool value => cases value <;> exact ⟨_, _, rfl, rfl, by decide, fun _ => by decide⟩
  | @int whole =>
    obtain ⟨byte, more, bytes, rfl | digital⟩ := bytes_int_eq_cons whole
    · exact ⟨_, more, bytes, rfl, by decide, fun _ => by decide⟩
    · exact ⟨byte, more, bytes, isSpace_of_isDigit digital, ne_of_isDigit digital rfl,
        fun _ => ne_of_isDigit digital rfl⟩
  | str text =>
    obtain ⟨body, bytes, -⟩ := string_bytes text []
    rw [List.append_nil] at bytes
    exact ⟨_, body, bytes, rfl, by decide, fun _ => by decide⟩
  | @arr items => cases items <;> exact ⟨_, _, rfl, rfl, by decide, fun _ => by decide⟩
  | @obj members => cases members <;> exact ⟨_, _, rfl, rfl, by decide, fun _ => by decide⟩

/-! ### Lists -/

/-- The bytes of the items that follow another one, up to the closing bracket. -/
def itemsBytes (items : List Json) : Bytes :=
  Text.encodeChars (itemsChars items)

theorem itemsBytes_cons (item : Json) (items : List Json) :
    itemsBytes (item :: items) = ascii ',' :: (item.bytes ++ itemsBytes items) := by
  rw [itemsBytes, itemsChars, encodeChars_cons_ascii (by decide), Text.encodeChars_append]
  rfl

theorem bytes_arr_cons (item : Json) (items : List Json) :
    (arr (item :: items)).bytes = ascii '[' :: (item.bytes ++ itemsBytes items) := by
  rw [bytes, chars, encodeChars_cons_ascii (by decide), Text.encodeChars_append]
  rfl

theorem endsNumber_itemsBytes (items : List Json) (rest : Bytes) :
    EndsNumber (itemsBytes items ++ rest) := by
  cases items with
  | nil => exact endsNumber_cons (by decide) _
  | cons item items =>
    rw [itemsBytes_cons]
    exact endsNumber_cons (by decide) _

theorem length_le_itemsBytes (items : List Json) : items.length ≤ (itemsBytes items).length := by
  induction items with
  | nil => exact Nat.zero_le _
  | cons item items inductionHypothesis =>
    rw [itemsBytes_cons, List.length_cons, List.length_cons, List.length_append]
    omega

theorem Exact.nextItem_first {item : Json} (exact : Exact item) (rest : Bytes) :
    nextItem true (item.bytes ++ rest) = .ok (true, item.bytes ++ rest) := by
  obtain ⟨byte, more, bytes, notBlank, notEnd, -⟩ := exact.bytes_eq_cons
  rw [bytes, List.cons_append, nextItem, skipSpace_cons notBlank]
  simp only [if_neg notEnd, if_true]

theorem Exact.nextItem_comma {item : Json} (exact : Exact item) (rest : Bytes) :
    nextItem false (ascii ',' :: (item.bytes ++ rest)) = .ok (true, item.bytes ++ rest) := by
  obtain ⟨byte, more, bytes, notBlank, notEnd, -⟩ := exact.bytes_eq_cons
  rw [bytes, List.cons_append, nextItem, skipSpace_cons rfl]
  simp only [skipSpace_cons notBlank, List.head?_cons, Option.some.injEq, if_neg notEnd]
  rfl

theorem foldItems_of_more {State : Type} {item : State → Bytes → Reading (State × Bytes)}
    {first : Bool} {state next : State} {input start rest : Bytes}
    (more : nextItem first input = .ok (true, start)) (read : item state start = .ok (next, rest))
    (budget : Nat) :
    foldItems item (budget + 1) first state input = foldItems item budget false next rest := by
  rw [foldItems, more]
  simp only [bind, Except.bind, if_true, read]

theorem foldItems_of_end {State : Type} (item : State → Bytes → Reading (State × Bytes))
    (budget : Nat) (first : Bool) (state : State) (rest : Bytes) :
    foldItems item budget first state (ascii ']' :: rest) = .ok (state, ascii ']' :: rest) := by
  rw [foldItems]
  rfl

/-- Puts the next item of a list before those read so far. -/
def pushItem (depth : Nat) (items : List Json) (input : Bytes) : Reading (List Json × Bytes) :=
  (value depth input).map fun (item, rest) => (item :: items, rest)

theorem pushItem_bytes {depth : Nat} {item : Json} (readsBack : ReadsBack depth item)
    (items : List Json) {rest : Bytes} (ends : EndsNumber rest) :
    pushItem depth items (item.bytes ++ rest) = .ok (item :: items, rest) := by
  rw [pushItem, readsBack rest ends]
  rfl

theorem foldItems_itemsBytes {depth : Nat} {items : List Json}
    (readable : ∀ item ∈ items, Exact item ∧ ReadsBack depth item) (done : List Json)
    {budget : Nat} (enough : items.length ≤ budget) (rest : Bytes) :
    foldItems (pushItem depth) budget false done (itemsBytes items ++ rest) =
      .ok (items.reverse ++ done, ascii ']' :: rest) := by
  induction items generalizing done budget with
  | nil => exact foldItems_of_end _ _ _ _ _
  | cons item items inductionHypothesis =>
    obtain ⟨⟨exact, readsBack⟩, readable⟩ := List.forall_mem_cons.mp readable
    obtain ⟨left, rfl⟩ := Nat.exists_eq_add_of_le' (Nat.le_of_add_left_le enough)
    have read := pushItem_bytes readsBack done (endsNumber_itemsBytes items rest)
    rw [itemsBytes_cons, List.cons_append, List.append_assoc,
      foldItems_of_more (exact.nextItem_comma _) read,
      inductionHypothesis readable _ (Nat.le_of_succ_le_succ enough), List.reverse_cons,
      List.append_assoc]
    rfl

/-- The items of a list are read in their order, and none is lost for want of budget. -/
theorem foldItems_arr {depth : Nat} {items : List Json}
    (readable : ∀ item ∈ items, Exact item ∧ ReadsBack depth item) (rest : Bytes) :
    ∃ body, (arr items).bytes ++ rest = ascii '[' :: body ∧
      foldItems (pushItem depth) body.length true [] body =
        .ok (items.reverse, ascii ']' :: rest) := by
  cases items with
  | nil => exact ⟨_, rfl, foldItems_of_end _ _ _ _ _⟩
  | cons item items =>
    obtain ⟨⟨exact, readsBack⟩, readable⟩ := List.forall_mem_cons.mp readable
    obtain ⟨byte, more, bytes, -⟩ := exact.bytes_eq_cons
    have read := pushItem_bytes readsBack [] (endsNumber_itemsBytes items rest)
    have enough : items.length ≤ (more ++ (itemsBytes items ++ rest)).length := by
      have := length_le_itemsBytes items
      rw [List.length_append, List.length_append]
      omega
    have budget : (item.bytes ++ (itemsBytes items ++ rest)).length =
        (more ++ (itemsBytes items ++ rest)).length + 1 := by
      rw [bytes, List.cons_append, List.length_cons]
    refine ⟨item.bytes ++ (itemsBytes items ++ rest), ?_, ?_⟩
    · rw [bytes_arr_cons, List.cons_append, List.append_assoc]
    · rw [budget, foldItems_of_more (exact.nextItem_first _) read,
        foldItems_itemsBytes readable _ enough, List.reverse_cons]

theorem value_list (depth : Nat) (rest : Bytes) :
    value (depth + 1) (ascii '[' :: rest) =
      (do
        let (items, rest) ← foldItems (pushItem depth) rest.length true [] rest
        .ok (.arr items.reverse, rest.drop 1)) := by
  rw [value]
  rfl

/-! ### Objects -/

/-- The bytes of the members that follow another one, up to the closing brace. -/
def membersBytes (members : List (String × Json)) : Bytes :=
  Text.encodeChars (membersChars members)

theorem membersBytes_cons (key : String) (value : Json) (members : List (String × Json)) :
    membersBytes ((key, value) :: members) =
      ascii ',' :: ((str key).bytes ++ ascii ':' :: (value.bytes ++ membersBytes members)) := by
  rw [membersBytes, membersChars, encodeChars_cons_ascii (by decide), Text.encodeChars_append,
    encodeChars_cons_ascii (by decide), Text.encodeChars_append]
  rfl

theorem bytes_obj_cons (key : String) (value : Json) (members : List (String × Json)) :
    (obj ((key, value) :: members)).bytes =
      ascii '\x7b' ::
        ((str key).bytes ++ ascii ':' :: (value.bytes ++ membersBytes members)) := by
  rw [bytes, chars, encodeChars_cons_ascii (by decide), Text.encodeChars_append,
    encodeChars_cons_ascii (by decide), Text.encodeChars_append]
  rfl

theorem endsNumber_membersBytes (members : List (String × Json)) (rest : Bytes) :
    EndsNumber (membersBytes members ++ rest) := by
  cases members with
  | nil => exact endsNumber_cons (by decide) _
  | cons member members =>
    rw [membersBytes_cons]
    exact endsNumber_cons (by decide) _

theorem length_le_membersBytes (members : List (String × Json)) :
    members.length ≤ (membersBytes members).length := by
  induction members with
  | nil => exact Nat.zero_le _
  | cons member members inductionHypothesis =>
    rw [membersBytes_cons, List.length_cons, List.length_cons, List.length_append,
      List.length_cons, List.length_append]
    omega

theorem nextKey_first (key : String) (rest : Bytes) :
    nextKey true ((str key).bytes ++ rest) = .ok (some key, rest) := by
  obtain ⟨body, opens, read⟩ := string_bytes key rest
  rw [opens, nextKey, skipSpace_cons rfl]
  simp only [read]
  rfl

theorem nextKey_comma (key : String) (rest : Bytes) :
    nextKey false (ascii ',' :: ((str key).bytes ++ rest)) = .ok (some key, rest) := by
  obtain ⟨body, opens, read⟩ := string_bytes key rest
  have start : skipSpace (ascii '"' :: body) = ascii '"' :: body := skipSpace_cons rfl body
  rw [opens, nextKey, skipSpace_cons rfl]
  simp only [start, read]
  rfl

theorem foldMembers_of_key {State : Type}
    {member : State → String → Bytes → Reading (State × Bytes)} {first : Bool}
    {state next : State} {key : String} {input start rest : Bytes}
    (found : nextKey first input = .ok (some key, start))
    (read : member state key start = .ok (next, rest)) (budget : Nat) :
    foldMembers member (budget + 1) first state input =
      foldMembers member budget false next rest := by
  rw [foldMembers, found]
  simp only [bind, Except.bind, read]

theorem foldMembers_of_end {State : Type}
    (member : State → String → Bytes → Reading (State × Bytes)) (budget : Nat) (first : Bool)
    (state : State) (rest : Bytes) :
    foldMembers member budget first state (ascii '\x7d' :: rest) =
      .ok (state, ascii '\x7d' :: rest) := by
  rw [foldMembers]
  rfl

/-- The step reads the members one after another, each up to the separator behind it, and leads
from the one state to the other. -/
inductive Takes {State : Type} (member : State → String → Bytes → Reading (State × Bytes)) :
    State → List (String × Json) → State → Prop
  | nil (state : State) : Takes member state [] state
  | cons {state next final : State} {key : String} {value : Json}
      {members : List (String × Json)}
      (read : ∀ rest, EndsNumber rest →
        member state key (ascii ':' :: (value.bytes ++ rest)) = .ok (next, rest))
      (takes : Takes member next members final) :
      Takes member state ((key, value) :: members) final

theorem Takes.foldMembers_membersBytes {State : Type}
    {member : State → String → Bytes → Reading (State × Bytes)} {state final : State}
    {members : List (String × Json)} (takes : Takes member state members final) {budget : Nat}
    (enough : members.length ≤ budget) (rest : Bytes) :
    foldMembers member budget false state (membersBytes members ++ rest) =
      .ok (final, ascii '\x7d' :: rest) := by
  induction takes generalizing budget with
  | nil state => exact foldMembers_of_end _ _ _ _ _
  | @cons state next final key value members read takes inductionHypothesis =>
    obtain ⟨left, rfl⟩ := Nat.exists_eq_add_of_le' (Nat.le_of_add_left_le enough)
    rw [membersBytes_cons, List.cons_append, List.append_assoc, List.cons_append,
      List.append_assoc,
      foldMembers_of_key (nextKey_comma _ _) (read _ (endsNumber_membersBytes members rest)),
      inductionHypothesis (Nat.le_of_succ_le_succ enough)]

/-- The members of an object are read in their order, and none is lost for want of budget. -/
theorem Takes.foldMembers_obj {State : Type}
    {member : State → String → Bytes → Reading (State × Bytes)} {state final : State}
    {members : List (String × Json)} (takes : Takes member state members final) (rest : Bytes) :
    ∃ body, (obj members).bytes ++ rest = ascii '\x7b' :: body ∧
      foldMembers member body.length true state body = .ok (final, ascii '\x7d' :: rest) := by
  cases takes with
  | nil => exact ⟨_, rfl, foldMembers_of_end _ _ _ _ _⟩
  | @cons _ next _ key value members read takes =>
    have enough : members.length ≤
        (str key).bytes.length + (value.bytes ++ (membersBytes members ++ rest)).length := by
      have := length_le_membersBytes members
      rw [List.length_append, List.length_append]
      omega
    refine ⟨(str key).bytes ++ ascii ':' :: (value.bytes ++ (membersBytes members ++ rest)),
      ?_, ?_⟩
    · rw [bytes_obj_cons, List.cons_append, List.append_assoc, List.cons_append,
        List.append_assoc]
    · rw [List.length_append, List.length_cons, ← Nat.add_assoc,
        foldMembers_of_key (nextKey_first _ _) (read _ (endsNumber_membersBytes members rest)),
        takes.foldMembers_membersBytes enough]

/-! ### Values -/

theorem colon_bytes (rest : Bytes) : colon (ascii ':' :: rest) = .ok rest := rfl

/-- Puts the next member of an object at its place among those read so far. -/
def addMember (depth : Nat) (members : List (String × Json)) (key : String) (input : Bytes) :
    Reading (List (String × Json) × Bytes) := do
  let rest ← colon input
  let (item, rest) ← value depth rest
  .ok (insert key item members, rest)

theorem value_object (depth : Nat) (rest : Bytes) :
    value (depth + 1) (ascii '\x7b' :: rest) =
      (do
        let (members, rest) ← foldMembers (addMember depth) rest.length true [] rest
        .ok (.obj members, rest.drop 1)) := by
  rw [value]
  rfl

theorem addMember_bytes {depth : Nat} {value : Json} (readsBack : ReadsBack depth value)
    (members : List (String × Json)) (key : String) {rest : Bytes} (ends : EndsNumber rest) :
    addMember depth members key (ascii ':' :: (value.bytes ++ rest)) =
      .ok (insert key value members, rest) := by
  rw [addMember, colon_bytes]
  simp only [bind, Except.bind, readsBack rest ends]

theorem takes_addMember {depth : Nat} {done members : List (String × Json)}
    (ascending : (done ++ members).Pairwise fun first second => first.1 < second.1)
    (readable : ∀ member ∈ members, ReadsBack depth member.2) :
    Takes (addMember depth) done members (done ++ members) := by
  induction members generalizing done with
  | nil =>
    rw [List.append_nil]
    exact .nil done
  | cons member members inductionHypothesis =>
    obtain ⟨key, value⟩ := member
    obtain ⟨readsBack, readable⟩ := List.forall_mem_cons.mp readable
    -- The keys ascend, so each member is inserted behind those read before it.
    have behind : ∀ member ∈ done, member.1 < key := fun member inDone =>
      (List.pairwise_append.mp ascending).2.2 member inDone (key, value) List.mem_cons_self
    rw [List.append_cons] at ascending ⊢
    refine .cons (fun rest ends => addMember_bytes readsBack done key ends) ?_
    rw [insert_eq_append behind]
    exact inductionHypothesis ascending readable

theorem value_str (text : String) (depth : Nat) (rest : Bytes) :
    value depth ((str text).bytes ++ rest) = .ok (.str text, rest) := by
  obtain ⟨body, opens, read⟩ := string_bytes text rest
  rw [opens, value, skipSpace_cons rfl]
  simp only [read]
  rfl

/-- An exact value is read back wherever the depth allows its containers. -/
theorem Exact.readsBack {value : Json} (exact : Exact value) {depth : Nat}
    (shallow : value.nesting ≤ depth) : ReadsBack depth value := by
  induction exact generalizing depth with
  | null =>
    intro rest ends
    rw [Json.value]
    rfl
  | bool value =>
    intro rest ends
    cases value <;> (rw [Json.value]; rfl)
  | int fits => exact fun rest ends => value_int fits ends depth
  | str text => exact fun rest ends => value_str text depth rest
  | @arr items exactItems inductionHypothesis =>
    rw [nesting] at shallow
    obtain ⟨left, rfl⟩ := Nat.exists_eq_add_of_le' (Nat.le_of_add_left_le shallow)
    have readable : ∀ item ∈ items, Exact item ∧ ReadsBack left item := fun item member =>
      ⟨exactItems item member, inductionHypothesis item member
        (Nat.le_trans (nesting_le_itemsNesting member) (Nat.le_of_succ_le_succ shallow))⟩
    intro rest ends
    obtain ⟨body, opens, read⟩ := foldItems_arr readable rest
    rw [opens, value_list, read]
    simp only [bind, Except.bind, List.reverse_reverse, List.drop_succ_cons, List.drop_zero]
  | @obj members ascending exactValues inductionHypothesis =>
    rw [nesting] at shallow
    obtain ⟨left, rfl⟩ := Nat.exists_eq_add_of_le' (Nat.le_of_add_left_le shallow)
    have readable : ∀ member ∈ members, ReadsBack left member.2 := fun member inMembers =>
      inductionHypothesis member inMembers
        (Nat.le_trans (nesting_le_membersNesting inMembers) (Nat.le_of_succ_le_succ shallow))
    have takes : Takes (addMember left) [] members members := takes_addMember ascending readable
    intro rest ends
    obtain ⟨body, opens, read⟩ := takes.foldMembers_obj rest
    rw [opens, value_object, read]
    rfl

theorem Exact.read_bytes {value : Json} (exact : Exact value)
    (shallow : value.nesting ≤ depthLimit) : read value.bytes = .ok value := by
  have whole := exact.readsBack shallow [] ⟨rfl, nofun, rfl⟩
  rw [List.append_nil] at whole
  rw [read, whole]
  rfl

end RippleServer.Json
