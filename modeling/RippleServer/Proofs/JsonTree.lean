/-
This file reads a text as a tree: the value that the text spells, but with the
members of every object in the order in which the text lists them, and with all
of them where a key comes more than once. Sorting the members of a tree and
letting the last of equal keys win gives the value itself, so a text has a tree
exactly if it has a value. What a text is made of is told by its tree case by
case, down to the bytes each part starts with.
-/

import RippleServer.Proofs.JsonRoundTrip

namespace RippleServer.Json

/-! ### Readings that succeed -/

theorem map_eq_ok_iff {ε α β : Type} {reading : Except ε α} {change : α → β} {result : β} :
    reading.map change = .ok result ↔ ∃ read, reading = .ok read ∧ change read = result := by
  cases reading with
  | error fault => exact ⟨nofun, fun ⟨read, found, _⟩ => nomatch found⟩
  | ok read => simp [Except.map]

theorem bind_eq_ok_iff {ε α β : Type} {reading : Except ε α} {next : α → Except ε β} {result : β} :
    reading >>= next = .ok result ↔ ∃ read, reading = .ok read ∧ next read = .ok result := by
  cases reading with
  | error fault => exact ⟨nofun, fun ⟨read, found, _⟩ => nomatch found⟩
  | ok read => simp [bind, Except.bind]

/-! ### Trees -/

/-- Puts what is read next before what was read so far. -/
def collectItem {α : Type} (read : Bytes → Reading (α × Bytes)) (items : List α) (input : Bytes) :
    Reading (List α × Bytes) :=
  (read input).map fun (item, rest) => (item :: items, rest)

/-- Puts the member that is read next before those read so far. -/
def collectMember {α : Type} (read : Bytes → Reading (α × Bytes)) (members : List (String × α))
    (key : String) (input : Bytes) : Reading (List (String × α) × Bytes) := do
  let rest ← colon input
  let (item, rest) ← read rest
  .ok ((key, item) :: members, rest)

/-- Reads a value with the members of its objects as the text lists them. -/
def tree : Nat → Bytes → Reading (Json × Bytes)
  | depth, input =>
    match skipSpace input with
    | [] => .error ⟨.endInValue, [], true⟩
    | byte :: rest =>
      if byte = ascii '[' then
        match depth with
        | 0 => .error ⟨.recursionLimit, rest, true⟩
        | depth + 1 => do
          let (items, rest) ←
            foldItems (collectItem fun input => tree depth input) rest.length true [] rest
          .ok (.arr items.reverse, rest.drop 1)
      else if byte = ascii '\x7b' then
        match depth with
        | 0 => .error ⟨.recursionLimit, rest, true⟩
        | depth + 1 => do
          let (members, rest) ←
            foldMembers (collectMember fun input => tree depth input) rest.length true [] rest
          .ok (.obj members.reverse, rest.drop 1)
      else value 0 (byte :: rest)

mutual

/-- The value of a tree: the members of its objects have ascending keys, and the last of equal
ones counts. -/
def sorted : Json → Json
  | .arr items => .arr (sortedItems items)
  | .obj members => object (sortedMembers members)
  | value => value
termination_by structural value => value

/-- The values of the items of a list. -/
def sortedItems : List Json → List Json
  | [] => []
  | item :: rest => sorted item :: sortedItems rest
termination_by structural items => items

/-- The members of an object with their values, in the same order. -/
def sortedMembers : List (String × Json) → List (String × Json)
  | [] => []
  | (key, value) :: rest => (key, sorted value) :: sortedMembers rest
termination_by structural members => members

end

theorem sortedItems_eq_map (items : List Json) : sortedItems items = items.map sorted := by
  induction items with
  | nil => rfl
  | cons item rest inductionHypothesis => rw [sortedItems, inductionHypothesis, List.map_cons]

theorem sortedMembers_eq_map (members : List (String × Json)) :
    sortedMembers members = members.map fun member => (member.1, member.2.sorted) := by
  induction members with
  | nil => rfl
  | cons member rest inductionHypothesis =>
    rw [sortedMembers, inductionHypothesis, List.map_cons]

/-! ### Loops that differ in what they keep -/

section Loops

variable {State Other : Type} (change : State → Other)

theorem foldItems_map {item : State → Bytes → Reading (State × Bytes)}
    {other : Other → Bytes → Reading (Other × Bytes)}
    (natural : ∀ state input, other (change state) input =
      (item state input).map fun (state, rest) => (change state, rest))
    (budget : Nat) (first : Bool) (state : State) (input : Bytes) :
    foldItems other budget first (change state) input =
      (foldItems item budget first state input).map fun (state, rest) => (change state, rest) := by
  induction budget generalizing first state input with
  | zero =>
    rw [foldItems, foldItems]
    cases nextItem first input with
    | error fault => rfl
    | ok found => obtain ⟨_ | _, rest⟩ := found <;> rfl
  | succ budget inductionHypothesis =>
    rw [foldItems, foldItems]
    cases nextItem first input with
    | error fault => rfl
    | ok found =>
      obtain ⟨_ | _, rest⟩ := found
      · rfl
      · simp only [bind, Except.bind, if_true, natural]
        cases item state rest with
        | error fault => rfl
        | ok read => exact inductionHypothesis false read.1 read.2

theorem foldMembers_map {member : State → String → Bytes → Reading (State × Bytes)}
    {other : Other → String → Bytes → Reading (Other × Bytes)}
    (natural : ∀ state key input, other (change state) key input =
      (member state key input).map fun (state, rest) => (change state, rest))
    (budget : Nat) (first : Bool) (state : State) (input : Bytes) :
    foldMembers other budget first (change state) input =
      (foldMembers member budget first state input).map fun (state, rest) =>
        (change state, rest) := by
  induction budget generalizing first state input with
  | zero =>
    rw [foldMembers, foldMembers]
    cases nextKey first input with
    | error fault => rfl
    | ok found => obtain ⟨_ | _, rest⟩ := found <;> rfl
  | succ budget inductionHypothesis =>
    rw [foldMembers, foldMembers]
    cases nextKey first input with
    | error fault => rfl
    | ok found =>
      obtain ⟨_ | key, rest⟩ := found
      · rfl
      · simp only [bind, Except.bind, natural]
        cases member state key rest with
        | error fault => rfl
        | ok read => exact inductionHypothesis false read.1 read.2

end Loops

/-! ### The value of a text and its tree -/

theorem skipSpace_skipSpace (input : Bytes) : skipSpace (skipSpace input) = skipSpace input := by
  induction input with
  | nil => rfl
  | cons byte rest inductionHypothesis =>
    cases blank : isSpace byte with
    | true => simpa only [skipSpace, List.dropWhile_cons, blank, if_true] using inductionHypothesis
    | false => rw [skipSpace_cons blank, skipSpace_cons blank]

theorem value_skipSpace (depth : Nat) (input : Bytes) :
    value depth (skipSpace input) = value depth input := by
  rw [value, value, skipSpace_skipSpace]

theorem tree_skipSpace (depth : Nat) (input : Bytes) :
    tree depth (skipSpace input) = tree depth input := by
  rw [tree, tree, skipSpace_skipSpace]

theorem value_scalar {byte : UInt8} (noList : byte ≠ ascii '[') (noObject : byte ≠ ascii '\x7b')
    {rest : Bytes} (start : skipSpace (byte :: rest) = byte :: rest) (depth : Nat) :
    value depth (byte :: rest) = value 0 (byte :: rest) := by
  rw [value, value, start]
  simp only [if_neg noList, if_neg noObject]

theorem tree_list (depth : Nat) (rest : Bytes) :
    tree (depth + 1) (ascii '[' :: rest) =
      (do
        let (items, rest) ← foldItems (collectItem (tree depth)) rest.length true [] rest
        .ok (.arr items.reverse, rest.drop 1)) := by
  rw [tree]
  rfl

theorem tree_object (depth : Nat) (rest : Bytes) :
    tree (depth + 1) (ascii '\x7b' :: rest) =
      (do
        let (members, rest) ← foldMembers (collectMember (tree depth)) rest.length true [] rest
        .ok (.obj members.reverse, rest.drop 1)) := by
  rw [tree]
  rfl

theorem tree_scalar {byte : UInt8} (noList : byte ≠ ascii '[') (noObject : byte ≠ ascii '\x7b')
    {rest : Bytes} (start : skipSpace (byte :: rest) = byte :: rest) (depth : Nat) :
    tree depth (byte :: rest) = value 0 (byte :: rest) := by
  rw [tree, start]
  simp only [if_neg noList, if_neg noObject]

/-! ### Scalars -/

/-- The bytes start with a value that is no container, and the rest is behind it. -/
inductive Scalar : Bytes → Json → Bytes → Prop
  | null {more rest : Bytes} (read : literal [0x75, 0x6C, 0x6C] more = .ok rest) :
      Scalar (ascii 'n' :: more) .null rest
  | yes {more rest : Bytes} (read : literal [0x72, 0x75, 0x65] more = .ok rest) :
      Scalar (ascii 't' :: more) (.bool true) rest
  | no {more rest : Bytes} (read : literal [0x61, 0x6C, 0x73, 0x65] more = .ok rest) :
      Scalar (ascii 'f' :: more) (.bool false) rest
  | negative {more rest : Bytes} {found : Number} (read : number true more = .ok (found, rest)) :
      Scalar (ascii '-' :: more) (.num found) rest
  | digits {byte : UInt8} {more rest : Bytes} {found : Number} (digital : isDigit byte = true)
      (read : number false (byte :: more) = .ok (found, rest)) :
      Scalar (byte :: more) (.num found) rest
  | str {more rest : Bytes} {text : String} (read : string more = .ok (text, rest)) :
      Scalar (ascii '"' :: more) (.str text) rest

theorem scalar_of_value {input rest : Bytes} {found : Json}
    (read : value 0 input = .ok (found, rest)) : Scalar (skipSpace input) found rest := by
  rw [value] at read
  cases start : skipSpace input with
  | nil =>
    rw [start] at read
    cases read
  | cons byte more =>
    simp only [start] at read
    split_ifs at read with isNull isTrue isFalse isNegative digital isText
    · obtain ⟨_, word, ⟨⟩⟩ := map_eq_ok_iff.mp read
      exact isNull ▸ .null word
    · obtain ⟨_, word, ⟨⟩⟩ := map_eq_ok_iff.mp read
      exact isTrue ▸ .yes word
    · obtain ⟨_, word, ⟨⟩⟩ := map_eq_ok_iff.mp read
      exact isFalse ▸ .no word
    · obtain ⟨⟨_, _⟩, digits, ⟨⟩⟩ := map_eq_ok_iff.mp read
      exact isNegative ▸ .negative digits
    · obtain ⟨⟨_, _⟩, digits, ⟨⟩⟩ := map_eq_ok_iff.mp read
      exact .digits digital digits
    · obtain ⟨⟨_, _⟩, text, ⟨⟩⟩ := map_eq_ok_iff.mp read
      exact isText ▸ .str text

theorem sorted_of_scalar {input rest : Bytes} {found : Json} (scalar : Scalar input found rest) :
    found.sorted = found := by
  cases scalar <;> rfl

/-! ### The value of a tree -/

/-- Sorts the members of an object, the last of which was read first. -/
def sortedReverse (members : List (String × Json)) : List (String × Json) :=
  (sortedMembers members.reverse).foldl (fun sorted member => insert member.1 member.2 sorted) []

theorem sortedReverse_cons (key : String) (value : Json) (members : List (String × Json)) :
    sortedReverse ((key, value) :: members) = insert key value.sorted (sortedReverse members) := by
  simp only [sortedReverse, sortedMembers_eq_map, List.reverse_cons, List.map_append,
    List.foldl_append]
  rfl

/-- Texts are read to this depth as the values of their trees, or not read for the same fault. -/
def ReadsSorted (depth : Nat) : Prop :=
  ∀ input, value depth input = (tree depth input).map fun (tree, rest) => (tree.sorted, rest)

namespace ReadsSorted

variable {depth : Nat}

theorem pushItem (sorts : ReadsSorted depth) (items : List Json) (input : Bytes) :
    Json.pushItem depth (items.map sorted) input =
      (collectItem (tree depth) items input).map fun (items, rest) => (items.map sorted, rest) := by
  rw [Json.pushItem, collectItem, sorts input]
  cases tree depth input <;> rfl

theorem addMember (sorts : ReadsSorted depth) (members : List (String × Json)) (key : String)
    (input : Bytes) :
    Json.addMember depth (sortedReverse members) key input =
      (collectMember (tree depth) members key input).map fun (members, rest) =>
        (sortedReverse members, rest) := by
  rw [Json.addMember, collectMember]
  cases colon input with
  | error fault => rfl
  | ok behind =>
    simp only [bind, Except.bind, sorts behind]
    cases tree depth behind with
    | error fault => rfl
    | ok read =>
      rw [Except.map, Except.map, sortedReverse_cons]

theorem list (sorts : ReadsSorted depth) (rest : Bytes) :
    value (depth + 1) (ascii '[' :: rest) =
      (tree (depth + 1) (ascii '[' :: rest)).map fun (tree, rest) => (tree.sorted, rest) := by
  have items : foldItems (Json.pushItem depth) rest.length true [] rest =
      (foldItems (collectItem (tree depth)) rest.length true [] rest).map fun (items, rest) =>
        (items.map sorted, rest) :=
    foldItems_map (List.map sorted) sorts.pushItem rest.length true [] rest
  rw [value_list, tree_list, items]
  cases foldItems (collectItem (tree depth)) rest.length true [] rest with
  | error fault => rfl
  | ok read =>
    simp only [bind, Except.bind, Except.map, sorted, sortedItems_eq_map, List.map_reverse]

theorem object (sorts : ReadsSorted depth) (rest : Bytes) :
    value (depth + 1) (ascii '\x7b' :: rest) =
      (tree (depth + 1) (ascii '\x7b' :: rest)).map fun (tree, rest) => (tree.sorted, rest) := by
  have members : foldMembers (Json.addMember depth) rest.length true [] rest =
      (foldMembers (collectMember (tree depth)) rest.length true [] rest).map
        fun (members, rest) => (sortedReverse members, rest) :=
    foldMembers_map sortedReverse sorts.addMember rest.length true [] rest
  rw [value_object, tree_object, members]
  cases foldMembers (collectMember (tree depth)) rest.length true [] rest <;> rfl

end ReadsSorted

/-- Every text is read as the value of its tree, or not read for the same fault. -/
theorem readsSorted (depth : Nat) : ReadsSorted depth := by
  intro input
  rw [← value_skipSpace, ← tree_skipSpace]
  have start := skipSpace_skipSpace input
  generalize skipSpace input = opened at start ⊢
  cases opened with
  | nil =>
    rw [value, tree]
    rfl
  | cons byte rest =>
    by_cases isList : byte = ascii '['
    · subst isList
      cases depth with
      | zero =>
        rw [value, tree]
        rfl
      | succ depth => exact (readsSorted depth).list rest
    · by_cases isObject : byte = ascii '\x7b'
      · subst isObject
        cases depth with
        | zero =>
          rw [value, tree]
          rfl
        | succ depth => exact (readsSorted depth).object rest
      · rw [value_scalar isList isObject start, tree_scalar isList isObject start]
        cases read : value 0 (byte :: rest) with
        | error fault => rfl
        | ok found =>
          obtain ⟨found, behind⟩ := found
          simp only [Except.map, sorted_of_scalar (scalar_of_value read)]

/-- The tree of a text. -/
def readTree (input : Bytes) : Reading Json :=
  endOfText (tree depthLimit input)

theorem endOfText_eq_ok_iff {α : Type} {reading : Reading (α × Bytes)} {result : α} :
    endOfText reading = .ok result ↔
      ∃ rest, reading = .ok (result, rest) ∧ skipSpace rest = [] := by
  rw [endOfText, bind_eq_ok_iff]
  constructor
  · rintro ⟨⟨found, rest⟩, read, ended⟩
    dsimp only at ended
    split at ended
    · rename_i blank
      cases ended
      exact ⟨rest, read, blank⟩
    · cases ended
  · rintro ⟨rest, read, blank⟩
    exact ⟨(result, rest), read, by simp only [blank]⟩

/-- A text has a value exactly if it has a tree, and the value is that of the tree. -/
theorem read_eq_ok_iff {input : Bytes} {found : Json} :
    read input = .ok found ↔ ∃ tree, readTree input = .ok tree ∧ tree.sorted = found := by
  rw [read, endOfText_eq_ok_iff, readsSorted depthLimit input]
  simp only [readTree, endOfText_eq_ok_iff, map_eq_ok_iff]
  constructor
  · rintro ⟨_, ⟨⟨tree, rest⟩, read, ⟨⟩⟩, blank⟩
    exact ⟨tree, ⟨rest, read, blank⟩, rfl⟩
  · rintro ⟨tree, ⟨rest, read, blank⟩, rfl⟩
    exact ⟨rest, ⟨(tree, rest), read, rfl⟩, blank⟩

/-! ### Values of trees are proper -/

/-- A value whose objects have their keys in ascending order. -/
inductive Proper : Json → Prop
  | null : Proper .null
  | bool (value : Bool) : Proper (.bool value)
  | num (number : Number) : Proper (.num number)
  | str (text : String) : Proper (.str text)
  | arr {items : List Json} (proper : ∀ item ∈ items, Proper item) : Proper (.arr items)
  | obj {members : List (String × Json)}
      (ascending : members.Pairwise fun first second => first.1 < second.1)
      (proper : ∀ member ∈ members, Proper member.2) : Proper (.obj members)

theorem proper_object {members : List (String × Json)}
    (proper : ∀ member ∈ members, member.2.Proper) : (object members).Proper := by
  have inserted (sorted : List (String × Json))
      (each : ∀ member ∈ sorted, member.2.Proper) (member : String × Json)
      (listed : member ∈ members) :
      ∀ other ∈ insert member.1 member.2 sorted, other.2.Proper := by
    intro other found
    obtain rfl | earlier := mem_insert found
    · exact proper member listed
    · exact each other earlier
  have folded := members.foldlRecOn (fun sorted member => insert member.1 member.2 sorted)
    (motive := fun sorted => (sorted.Pairwise fun first second => first.1 < second.1) ∧
      ∀ member ∈ sorted, member.2.Proper)
    ⟨.nil, fun _ listed => absurd listed List.not_mem_nil⟩
    fun sorted ⟨ascending, each⟩ member listed =>
      ⟨ascending_insert _ _ ascending, inserted sorted each member listed⟩
  exact .obj folded.1 folded.2

mutual

theorem proper_sorted : ∀ tree : Json, tree.sorted.Proper
  | .null => .null
  | .bool value => .bool value
  | .num number => .num number
  | .str text => .str text
  | .arr items => .arr (proper_sortedItems items)
  | .obj members => proper_object (proper_sortedMembers members)

theorem proper_sortedItems : ∀ items : List Json, ∀ item ∈ sortedItems items, item.Proper
  | [], _, listed => nomatch listed
  | first :: rest, item, listed => by
    obtain rfl | later := List.mem_cons.mp listed
    · exact proper_sorted first
    · exact proper_sortedItems rest item later

theorem proper_sortedMembers : ∀ members : List (String × Json),
    ∀ member ∈ sortedMembers members, member.2.Proper
  | [], _, listed => nomatch listed
  | (_, first) :: rest, member, listed => by
    obtain rfl | later := List.mem_cons.mp listed
    · exact proper_sorted first
    · exact proper_sortedMembers rest member later

end

/-- Whatever is read is proper. -/
theorem proper_of_read {input : Bytes} {found : Json} (whole : read input = .ok found) :
    found.Proper := by
  obtain ⟨tree, -, rfl⟩ := read_eq_ok_iff.mp whole
  exact proper_sorted tree

/-! ### What a text is made of -/

/-- The items of a list one after another, up to the bracket that closes it. -/
inductive Items (read : Bytes → Reading (Json × Bytes)) : Bool → Bytes → List Json → Bytes → Prop
  | done {first : Bool} {input rest : Bytes}
      (ends : nextItem first input = .ok (false, ascii ']' :: rest)) :
      Items read first input [] rest
  | next {first : Bool} {input start behind rest : Bytes} {item : Json} {items : List Json}
      (more : nextItem first input = .ok (true, start)) (found : read start = .ok (item, behind))
      (others : Items read false behind items rest) : Items read first input (item :: items) rest

/-- The members of an object one after another, up to the brace that closes it. -/
inductive Members (read : Bytes → Reading (Json × Bytes)) :
    Bool → Bytes → List (String × Json) → Bytes → Prop
  | done {first : Bool} {input rest : Bytes}
      (ends : nextKey first input = .ok (none, ascii '\x7d' :: rest)) :
      Members read first input [] rest
  | next {first : Bool} {input named start behind rest : Bytes} {key : String} {value : Json}
      {members : List (String × Json)} (more : nextKey first input = .ok (some key, named))
      (divided : colon named = .ok start) (found : read start = .ok (value, behind))
      (others : Members read false behind members rest) :
      Members read first input ((key, value) :: members) rest

/-- The bytes start with a value that has the tree, and the rest is behind it. -/
inductive Spelled : Nat → Bytes → Json → Bytes → Prop
  | scalar {depth : Nat} {input rest : Bytes} {found : Json} (scalar : Scalar input found rest) :
      Spelled depth input found rest
  | list {depth : Nat} {body rest : Bytes} {items : List Json}
      (listed : Items (tree depth) true body items rest) (bounded : items.length ≤ body.length) :
      Spelled (depth + 1) (ascii '[' :: body) (.arr items) rest
  | object {depth : Nat} {body rest : Bytes} {members : List (String × Json)}
      (listed : Members (tree depth) true body members rest)
      (bounded : members.length ≤ body.length) :
      Spelled (depth + 1) (ascii '\x7b' :: body) (.obj members) rest

/-- How the next item of a list is found, or the end of the list. -/
inductive NextItem (input : Bytes) : Bool → Bool → Bytes → Prop
  | ends {first : Bool} {rest : Bytes} (closing : skipSpace input = ascii ']' :: rest) :
      NextItem input first false (ascii ']' :: rest)
  | first {byte : UInt8} {rest : Bytes} (start : skipSpace input = byte :: rest)
      (goesOn : byte ≠ ascii ']') : NextItem input true true (byte :: rest)
  | later {rest : Bytes} (comma : skipSpace input = ascii ',' :: rest) :
      NextItem input false true (skipSpace rest)

theorem nextItem_cases {first more : Bool} {input start : Bytes}
    (found : nextItem first input = .ok (more, start)) : NextItem input first more start := by
  rw [nextItem] at found
  cases opened : skipSpace input with
  | nil =>
    rw [opened] at found
    cases found
  | cons byte rest =>
    simp only [opened] at found
    split_ifs at found with closing isFirst comma trailing
    · cases found
      exact closing ▸ .ends (closing ▸ opened)
    · cases found
      exact isFirst ▸ .first opened closing
    · cases found
      rw [Bool.not_eq_true] at isFirst
      exact isFirst ▸ .later (comma ▸ opened)

/-- How the key of the next member of an object is found, or the end of the object. -/
inductive NextKey (input : Bytes) : Bool → Option String → Bytes → Prop
  | ends {first : Bool} {rest : Bytes} (closing : skipSpace input = ascii '\x7d' :: rest) :
      NextKey input first none (ascii '\x7d' :: rest)
  | first {body rest : Bytes} {key : String} (quote : skipSpace input = ascii '"' :: body)
      (read : string body = .ok (key, rest)) : NextKey input true (some key) rest
  | later {more body rest : Bytes} {key : String} (comma : skipSpace input = ascii ',' :: more)
      (quote : skipSpace more = ascii '"' :: body) (read : string body = .ok (key, rest)) :
      NextKey input false (some key) rest

theorem nextKey_cases {first : Bool} {key : Option String} {input rest : Bytes}
    (found : nextKey first input = .ok (key, rest)) : NextKey input first key rest := by
  rw [nextKey] at found
  cases opened : skipSpace input with
  | nil =>
    rw [opened] at found
    cases found
  | cons byte more =>
    simp only [opened] at found
    split_ifs at found with closing isFirst quote comma
    · cases found
      exact closing ▸ .ends (closing ▸ opened)
    · obtain ⟨⟨_, _⟩, read, ⟨⟩⟩ := map_eq_ok_iff.mp found
      exact isFirst ▸ .first (quote ▸ opened) read
    · rw [Bool.not_eq_true] at isFirst
      cases second : skipSpace more with
      | nil =>
        rw [second] at found
        cases found
      | cons byte body =>
        simp only [second] at found
        split_ifs at found with quote
        obtain ⟨⟨_, _⟩, read, ⟨⟩⟩ := map_eq_ok_iff.mp found
        exact isFirst ▸ .later (comma ▸ opened) (quote ▸ second) read

theorem exists_items {read : Bytes → Reading (Json × Bytes)} {budget : Nat} {first : Bool}
    {done final : List Json} {input rest : Bytes}
    (folded : foldItems (collectItem read) budget first done input = .ok (final, rest)) :
    ∃ items behind, Items read first input items behind ∧ items.length ≤ budget ∧
      final = items.reverse ++ done ∧ rest = ascii ']' :: behind := by
  induction budget generalizing first done input with
  | zero =>
    rw [foldItems] at folded
    obtain ⟨⟨_ | _, start⟩, found, folded⟩ := bind_eq_ok_iff.mp folded
    · cases folded
      cases nextItem_cases found
      exact ⟨[], _, .done found, Nat.zero_le _, rfl, rfl⟩
    · cases folded
  | succ budget inductionHypothesis =>
    rw [foldItems] at folded
    obtain ⟨⟨_ | _, start⟩, found, folded⟩ := bind_eq_ok_iff.mp folded
    · cases folded
      cases nextItem_cases found
      exact ⟨[], _, .done found, Nat.zero_le _, rfl, rfl⟩
    · simp only [if_true] at folded
      obtain ⟨⟨_, behind⟩, step, folded⟩ := bind_eq_ok_iff.mp folded
      obtain ⟨⟨item, _⟩, item, ⟨⟩⟩ := map_eq_ok_iff.mp step
      obtain ⟨items, last, listed, bounded, rfl, rfl⟩ := inductionHypothesis folded
      refine ⟨_, last, .next found item listed, Nat.succ_le_succ bounded, ?_, rfl⟩
      rw [List.reverse_cons, List.append_assoc]
      rfl

theorem exists_members {read : Bytes → Reading (Json × Bytes)} {budget : Nat} {first : Bool}
    {done final : List (String × Json)} {input rest : Bytes}
    (folded : foldMembers (collectMember read) budget first done input = .ok (final, rest)) :
    ∃ members behind, Members read first input members behind ∧ members.length ≤ budget ∧
      final = members.reverse ++ done ∧ rest = ascii '\x7d' :: behind := by
  induction budget generalizing first done input with
  | zero =>
    rw [foldMembers] at folded
    obtain ⟨⟨_ | _, start⟩, found, folded⟩ := bind_eq_ok_iff.mp folded
    · cases folded
      cases nextKey_cases found
      exact ⟨[], _, .done found, Nat.zero_le _, rfl, rfl⟩
    · cases folded
  | succ budget inductionHypothesis =>
    rw [foldMembers] at folded
    obtain ⟨⟨_ | key, named⟩, found, folded⟩ := bind_eq_ok_iff.mp folded
    · cases folded
      cases nextKey_cases found
      exact ⟨[], _, .done found, Nat.zero_le _, rfl, rfl⟩
    · obtain ⟨⟨_, behind⟩, step, folded⟩ := bind_eq_ok_iff.mp folded
      obtain ⟨start, divided, step⟩ := bind_eq_ok_iff.mp step
      obtain ⟨⟨value, _⟩, value, ⟨⟩⟩ := bind_eq_ok_iff.mp step
      obtain ⟨members, last, listed, bounded, rfl, rfl⟩ := inductionHypothesis folded
      refine ⟨_, last, .next found divided value listed, Nat.succ_le_succ bounded, ?_, rfl⟩
      rw [List.reverse_cons, List.append_assoc]
      rfl

/-- What has a tree is a scalar, a list of what has trees, or an object of it. -/
theorem spelled_of_tree {depth : Nat} {input rest : Bytes} {found : Json}
    (read : tree depth input = .ok (found, rest)) :
    Spelled depth (skipSpace input) found rest := by
  rw [← tree_skipSpace] at read
  have start := skipSpace_skipSpace input
  generalize skipSpace input = opened at start read ⊢
  cases opened with
  | nil =>
    rw [tree] at read
    cases read
  | cons byte body =>
    by_cases isList : byte = ascii '['
    · subst isList
      cases depth with
      | zero =>
        rw [tree] at read
        cases read
      | succ depth =>
        rw [tree_list] at read
        obtain ⟨⟨_, _⟩, folded, ⟨⟩⟩ := bind_eq_ok_iff.mp read
        obtain ⟨items, behind, listed, bounded, rfl, rfl⟩ := exists_items folded
        rw [List.append_nil, List.reverse_reverse]
        exact .list listed bounded
    · by_cases isObject : byte = ascii '\x7b'
      · subst isObject
        cases depth with
        | zero =>
          rw [tree] at read
          cases read
        | succ depth =>
          rw [tree_object] at read
          obtain ⟨⟨_, _⟩, folded, ⟨⟩⟩ := bind_eq_ok_iff.mp read
          obtain ⟨members, behind, listed, bounded, rfl, rfl⟩ := exists_members folded
          rw [List.append_nil, List.reverse_reverse]
          exact .object listed bounded
      · rw [tree_scalar isList isObject start] at read
        exact .scalar (start ▸ scalar_of_value read)

end RippleServer.Json
