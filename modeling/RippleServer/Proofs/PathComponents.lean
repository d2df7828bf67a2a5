/-
This file relates the text of a path to its components. A separator divides the
components of what is before it from those of what is behind it, and only the
first characters of a text decide what the path begins with. So the components
do not depend on repeated separators, on single dots or on a separator at the
end, two dots are a component like any other, and the parent of a path has all
its components but the last.
-/

import RippleServer.Path

namespace RippleServer

/-! ### Splitting and joining -/

namespace Text

theorem splitChars_eq_splitOn (separator : Char) (chars : List Char) :
    splitChars separator chars = chars.splitOn separator := by
  induction chars with
  | nil => rw [splitChars, List.splitOn_nil]
  | cons char rest inductionHypothesis =>
    rw [splitChars, List.splitOn_cons_eq_if_modifyHead, inductionHypothesis]
    by_cases divides : char = separator
    · rw [if_pos divides, if_pos (beq_iff_eq.mpr divides)]
    · rw [if_neg divides, if_neg (mt beq_iff_eq.mp divides)]
      cases parts : List.splitOn separator rest with
      | nil => exact absurd parts (List.splitOn_ne_nil separator rest)
      | cons part parts => rfl

theorem separator_not_mem_splitChars {separator : Char} {chars part : List Char}
    (member : part ∈ splitChars separator chars) : separator ∉ part := by
  induction chars generalizing part with
  | nil =>
    rw [splitChars, List.mem_singleton] at member
    rw [member]
    exact List.not_mem_nil
  | cons char rest inductionHypothesis =>
    rw [splitChars] at member
    split at member
    · rcases List.mem_cons.mp member with rfl | behind
      · exact List.not_mem_nil
      · exact inductionHypothesis behind
    · rename_i other
      split at member
      · rw [List.mem_singleton.mp member, List.mem_singleton]
        exact Ne.symm other
      · rename_i first parts divided
        rw [divided] at inductionHypothesis
        rcases List.mem_cons.mp member with rfl | behind
        · rw [List.mem_cons, not_or]
          exact ⟨Ne.symm other, inductionHypothesis List.mem_cons_self⟩
        · exact inductionHypothesis (List.mem_cons_of_mem _ behind)

theorem split_append (front back : String) :
    split '/' (front ++ "/" ++ back) = split '/' front ++ split '/' back := by
  have divided : (front ++ "/" ++ back).toList = front.toList ++ '/' :: back.toList := by
    rw [String.toList_append, String.toList_append, List.append_assoc]
    rfl
  rw [split, split, split, divided, ← List.map_append, splitChars_eq_splitOn,
    splitChars_eq_splitOn, splitChars_eq_splitOn, List.splitOn_append_cons_self]

theorem map_toList_split (text : String) :
    (split '/' text).map String.toList = splitChars '/' text.toList := by
  rw [split, List.map_map]
  exact List.map_id'' (fun chars => String.toList_ofList) _

theorem join_split (text : String) : join "/" (split '/' text) = text := by
  have slash : "/".toList = ['/'] := rfl
  rw [join, map_toList_split, splitChars_eq_splitOn, slash, List.intercalate_splitOn,
    String.ofList_toList]

theorem slash_not_mem_split {text part : String} (member : part ∈ split '/' text) :
    '/' ∉ part.toList := by
  have member' : part.toList ∈ splitChars '/' text.toList :=
    map_toList_split text ▸ List.mem_map_of_mem member
  exact separator_not_mem_splitChars member'

theorem split_join {parts : List String} (some : parts ≠ [])
    (undivided : ∀ part ∈ parts, '/' ∉ part.toList) : split '/' (join "/" parts) = parts := by
  have slash : "/".toList = ['/'] := rfl
  have each : ∀ chars ∈ parts.map String.toList, '/' ∉ chars := by
    rintro chars member
    obtain ⟨part, partIn, rfl⟩ := List.mem_map.mp member
    exact undivided part partIn
  have whole := List.splitOn_intercalate '/' each (mt List.map_eq_nil_iff.mp some)
  rw [split, join, String.toList_ofList, slash, splitChars_eq_splitOn, whole, List.map_map]
  exact List.map_id'' (fun part => String.ofList_toList) _

theorem intercalate_append {separator : List Char} {front back : List (List Char)}
    (before : front ≠ []) (behind : back ≠ []) :
    separator.intercalate (front ++ back) =
      separator.intercalate front ++ separator ++ separator.intercalate back := by
  induction front with
  | nil => exact absurd rfl before
  | cons first rest inductionHypothesis =>
    rw [List.cons_append,
      List.intercalate_cons_of_ne_nil (List.append_ne_nil_of_right_ne_nil rest behind)]
    by_cases single : rest = []
    · rw [single, List.nil_append, List.intercalate_singleton]
    · rw [inductionHypothesis single, List.intercalate_cons_of_ne_nil single]
      simp only [List.append_assoc]

theorem join_append {front back : List String} (before : front ≠ []) (behind : back ≠ []) :
    join "/" (front ++ back) = join "/" front ++ "/" ++ join "/" back := by
  apply String.toList_injective
  simp only [join, String.toList_append, String.toList_ofList, List.map_append]
  exact intercalate_append (mt List.map_eq_nil_iff.mp before) (mt List.map_eq_nil_iff.mp behind)

end Text

namespace Path

/-! ### The components behind a separator -/

/-- The components of some parts. -/
def visible (parts : List String) : List Component :=
  (parts.filter fun part => !vanishes part).map Component.ofPart

/-- The components of a text that does not stand at the beginning of a path. -/
def names (text : String) : List Component :=
  visible (Text.split '/' text)

theorem visible_append (front back : List String) :
    visible (front ++ back) = visible front ++ visible back := by
  rw [visible, List.filter_append, List.map_append]
  rfl

theorem visible_of_vanishes {parts : List String}
    (each : ∀ part ∈ parts, vanishes part = true) : visible parts = [] := by
  rw [visible, List.filter_eq_nil_iff.mpr (fun part member => by rw [each part member]; decide)]
  rfl

theorem visible_singleton {part : String} (written : vanishes part = false) :
    visible [part] = [.ofPart part] := by
  rw [visible, List.filter_cons_of_pos (by rw [written]; rfl)]
  rfl

theorem names_append (front back : String) :
    names (front ++ "/" ++ back) = names front ++ names back := by
  rw [names, Text.split_append, visible_append]
  rfl

theorem names_empty : names "" = [] := by decide

theorem names_dot : names "." = [] := by decide

theorem names_dots : names ".." = [.up] := by decide

/-! ### What a path begins with -/

/-- The text begins with a part that is no single dot. -/
def Plain (chars : List Char) : Prop :=
  ∃ char rest, chars = char :: rest ∧ char ≠ '/' ∧
    (char = '.' → ∃ next behind, rest = next :: behind ∧ next ≠ '/')

/-- The ways a text begins. -/
inductive Begins : List Char → Prop
  | nothing : Begins []
  | root (rest : List Char) : Begins ('/' :: rest)
  | here : Begins ['.']
  | below (rest : List Char) : Begins ('.' :: '/' :: rest)
  | plain {chars : List Char} (plain : Plain chars) : Begins chars

theorem begins (chars : List Char) : Begins chars := by
  cases chars with
  | nil => exact .nothing
  | cons char rest =>
    by_cases slash : char = '/'
    · rw [slash]
      exact .root rest
    · by_cases dot : char = '.'
      · cases rest with
        | nil =>
          rw [dot]
          exact .here
        | cons next behind =>
          by_cases divided : next = '/'
          · rw [dot, divided]
            exact .below behind
          · exact .plain ⟨char, _, rfl, slash, fun _ => ⟨next, behind, rfl, divided⟩⟩
      · exact .plain ⟨char, rest, rfl, slash, fun isDot => absurd isDot dot⟩

theorem Plain.append {chars : List Char} (plain : Plain chars) (more : List Char) :
    Plain (chars ++ more) := by
  obtain ⟨char, rest, rfl, slash, dotted⟩ := plain
  refine ⟨char, rest ++ more, rfl, slash, fun dot => ?_⟩
  obtain ⟨next, behind, rfl, divided⟩ := dotted dot
  exact ⟨next, behind ++ more, rfl, divided⟩

theorem Plain.ne_nil {chars : List Char} (plain : Plain chars) : chars ≠ [] := by
  obtain ⟨char, rest, rfl, -⟩ := plain
  exact List.cons_ne_nil char rest

section Parts

variable {path : Path} {rest : List Char}

theorem parts_of_root (begins : path.text.toList = '/' :: rest) :
    path.parts = (.root, Text.split '/' (String.ofList rest)) := by
  rw [parts, begins]
  rfl

theorem parts_of_here (begins : path.text.toList = ['.']) : path.parts = (.here, []) := by
  rw [parts, begins]
  rfl

theorem parts_of_below (begins : path.text.toList = '.' :: '/' :: rest) :
    path.parts = (.here, Text.split '/' (String.ofList ('/' :: rest))) := by
  rw [parts, begins]
  rfl

theorem parts_of_plain (plain : Plain path.text.toList) :
    path.parts = (.nothing, Text.split '/' path.text) := by
  obtain ⟨char, rest, begins, slash, dotted⟩ := plain
  unfold parts
  split
  · rename_i same
    cases begins.symm.trans same
    exact absurd rfl slash
  · rename_i same
    cases begins.symm.trans same
    obtain ⟨next, behind, same, -⟩ := dotted rfl
    cases same
  · rename_i same
    cases begins.symm.trans same
    obtain ⟨next, behind, same, divided⟩ := dotted rfl
    cases same
    exact absurd rfl divided
  · rfl

theorem components_of_root (begins : path.text.toList = '/' :: rest) :
    path.components = .root :: names (String.ofList rest) := by
  rw [components, parts_of_root begins]
  rfl

theorem components_of_here (begins : path.text.toList = ['.']) : path.components = [.here] := by
  rw [components, parts_of_here begins]
  rfl

theorem components_of_below (begins : path.text.toList = '.' :: '/' :: rest) :
    path.components = .here :: names (String.ofList rest) := by
  have whole : String.ofList ('/' :: rest) = "" ++ "/" ++ String.ofList rest := by
    apply String.toList_injective
    simp
  rw [components, parts_of_below begins]
  show .here :: names (String.ofList ('/' :: rest)) = _
  rw [whole, names_append, names_empty]
  rfl

theorem components_of_plain (plain : Plain path.text.toList) :
    path.components = names path.text := by
  rw [components, parts_of_plain plain]
  rfl

end Parts

/-- A path is what it begins with and the parts behind that. -/
theorem text_eq (path : Path) : path.text = path.parts.1.text ++ Text.join "/" path.parts.2 := by
  apply String.toList_injective
  have shape := begins path.text.toList
  generalize begun : path.text.toList = chars at shape
  cases shape with
  | nothing =>
    obtain ⟨text⟩ := path
    obtain rfl : text = "" := String.toList_eq_nil_iff.mp begun
    decide
  | root rest =>
    rw [parts_of_root begun, Text.join_split]
    simp [Lead.text]
  | here =>
    rw [parts_of_here begun]
    rfl
  | below rest =>
    rw [parts_of_below begun, Text.join_split]
    simp [Lead.text]
  | plain plain =>
    rw [parts_of_plain (begun ▸ plain), Text.join_split]
    simp [Lead.text, begun]

/-! ### Separators -/

/-- The components behind a separator do not depend on what is before it. What is before it keeps
its components, unless it is nothing at all: then the separator is the root. -/
theorem components_slash (base tail : String) :
    (Path.mk (base ++ "/" ++ tail)).components =
      (if base = "" then [.root] else (Path.mk base).components) ++ names tail := by
  have divided : (base ++ "/" ++ tail).toList = base.toList ++ '/' :: tail.toList := by
    rw [String.toList_append, String.toList_append, List.append_assoc]
    rfl
  have joined : ∀ rest, String.ofList (rest ++ '/' :: tail.toList) =
      String.ofList rest ++ "/" ++ tail := by
    intro rest
    apply String.toList_injective
    simp
  have shape := begins base.toList
  generalize begun : base.toList = chars at shape divided
  have written : chars ≠ [] → base ≠ "" := by
    rintro some rfl
    exact some begun.symm
  cases shape with
  | nothing =>
    rw [if_pos (String.toList_eq_nil_iff.mp begun), components_of_root divided,
      String.ofList_toList]
    rfl
  | root rest =>
    rw [List.cons_append] at divided
    rw [if_neg (written (List.cons_ne_nil _ _)), components_of_root divided,
      components_of_root begun, joined, names_append]
    rfl
  | here =>
    rw [if_neg (written (List.cons_ne_nil _ _)), components_of_below divided,
      components_of_here begun, String.ofList_toList]
    rfl
  | below rest =>
    rw [List.cons_append, List.cons_append] at divided
    rw [if_neg (written (List.cons_ne_nil _ _)), components_of_below divided,
      components_of_below begun, joined, names_append]
    rfl
  | plain plain =>
    rw [if_neg (written plain.ne_nil), components_of_plain (divided ▸ plain.append _),
      components_of_plain (begun ▸ plain), names_append]

theorem components_slash_of_ne {base : String} (written : base ≠ "") (tail : String) :
    (Path.mk (base ++ "/" ++ tail)).components = (Path.mk base).components ++ names tail := by
  rw [components_slash, if_neg written]

/-- Repeated separators, single dots and a separator at the end make no difference to a path, but
two dots do: they do not take back what is before them. -/
theorem components_spellings (base name tail : String) :
    let plain := (Path.mk (base ++ "/" ++ tail)).components
    (Path.mk (base ++ "//" ++ tail)).components = plain ∧
      (Path.mk (base ++ "/./" ++ tail)).components = plain ∧
      (Path.mk (base ++ "/" ++ tail ++ "/")).components = plain ∧
      (Path.mk (base ++ "/" ++ name ++ "/../" ++ tail)).components ≠ plain := by
  intro plain
  have repeated : base ++ "//" ++ tail = base ++ "/" ++ ("" ++ "/" ++ tail) := by
    apply String.toList_injective
    simp
  have dotted : base ++ "/./" ++ tail = base ++ "/" ++ ("." ++ "/" ++ tail) := by
    apply String.toList_injective
    simp
  have ended : base ++ "/" ++ tail ++ "/" = base ++ "/" ++ (tail ++ "/" ++ "") := by
    apply String.toList_injective
    simp
  have climbing : base ++ "/" ++ name ++ "/../" ++ tail =
      base ++ "/" ++ (name ++ "/" ++ (".." ++ "/" ++ tail)) := by
    apply String.toList_injective
    simp
  refine ⟨?_, ?_, ?_, fun same => ?_⟩
  · rw [repeated, components_slash, names_append, names_empty, List.nil_append, ← components_slash]
  · rw [dotted, components_slash, names_append, names_dot, List.nil_append, ← components_slash]
  · rw [ended, components_slash, names_append, names_empty, List.append_nil, ← components_slash]
  · -- The path with the two dots has a component more at least.
    rw [climbing, components_slash, names_append, names_append, names_dots] at same
    have lengths := congrArg List.length (same.trans (components_slash base tail))
    simp only [List.length_append, List.length_singleton] at lengths
    omega

/-! ### The parent -/

/-- The parts that are trimmed away vanish, and what is left ends in one that does not. -/
theorem exists_trimParts (parts : List String) :
    ∃ trailing, parts = trimParts parts ++ trailing ∧ (∀ part ∈ trailing, vanishes part = true) ∧
      ∀ part ∈ (trimParts parts).getLast?, vanishes part = false := by
  refine ⟨(parts.reverse.takeWhile vanishes).reverse, ?_, ?_, ?_⟩
  · rw [trimParts, ← List.reverse_append, List.takeWhile_append_dropWhile, List.reverse_reverse]
  · intro part member
    exact List.all_eq_true.mp List.all_takeWhile part (List.mem_reverse.mp member)
  · intro part last
    rw [trimParts, List.getLast?_reverse] at last
    have stops := List.head?_dropWhile_not vanishes parts.reverse
    rw [last] at stops
    exact stops

theorem components_lead (lead : Lead) : (Path.mk lead.text).components = lead.components := by
  cases lead <;> decide

theorem slash_not_mem_parts {path : Path} {part : String} (member : part ∈ path.parts.2) :
    '/' ∉ part.toList := by
  unfold parts at member
  split at member
  · exact Text.slash_not_mem_split member
  · exact absurd member List.not_mem_nil
  · exact Text.slash_not_mem_split member
  · exact Text.slash_not_mem_split member

theorem join_ne_empty {parts : List String} (undivided : ∀ part ∈ parts, '/' ∉ part.toList)
    (some : parts ≠ []) (last : ∀ part ∈ parts.getLast?, vanishes part = false) :
    Text.join "/" parts ≠ "" := by
  intro empty
  have parted := Text.split_join some undivided
  rw [empty] at parted
  have vanished := last "" (by rw [← parted]; rfl)
  cases vanished

/-- The first parts of a path, up to one that does not vanish, are the parts of a path that begins
the same way. -/
theorem components_of_front {path : Path} {front rest : List String}
    (divided : path.parts.2 = front ++ rest) (more : rest ≠ [])
    (last : ∀ part ∈ front.getLast?, vanishes part = false) :
    (Path.mk (path.parts.1.text ++ Text.join "/" front)).components =
      path.parts.1.components ++ visible front := by
  by_cases empty : front = []
  · have nothing : Text.join "/" [] = "" := rfl
    rw [empty, nothing, String.append_empty, components_lead]
    exact (List.append_nil _).symm
  · have undivided : ∀ part ∈ front ++ rest, '/' ∉ part.toList :=
      fun part member => slash_not_mem_parts (divided ▸ member)
    obtain ⟨undividedFront, undividedRest⟩ := List.forall_mem_append.mp undivided
    have written : path.parts.1.text ++ Text.join "/" front ≠ "" := fun nothing =>
      join_ne_empty undividedFront empty last (String.append_eq_empty_iff.mp nothing).2
    have whole : path.text =
        path.parts.1.text ++ Text.join "/" front ++ "/" ++ Text.join "/" rest := by
      rw [text_eq, divided, Text.join_append empty more]
      simp only [String.append_assoc]
    have components : path.components = (Path.mk (path.parts.1.text ++
        Text.join "/" front)).components ++ visible rest := by
      have joined := components_slash_of_ne written (Text.join "/" rest)
      rw [names, Text.split_join more undividedRest, ← whole] at joined
      exact joined
    have split : path.components = path.parts.1.components ++ visible front ++ visible rest := by
      rw [List.append_assoc, ← visible_append, ← divided]
      rfl
    exact List.append_cancel_right (components.symm.trans split)

theorem parent?_eq (path : Path) :
    path.parent? =
      match (trimParts path.parts.2).reverse with
      | _ :: front =>
        some ⟨path.parts.1.text ++ Text.join "/" (trimParts front.reverse)⟩
      | [] => if path.parts.1 = .here then some ⟨""⟩ else none :=
  rfl

/-- A path whose parts all vanish is what it begins with. -/
theorem parent?_of_vanishes {path : Path} (trimmed : trimParts path.parts.2 = []) :
    path.components = path.parts.1.components ∧
      path.parent? = if path.parts.1 = .here then some ⟨""⟩ else none := by
  obtain ⟨trailing, whole, trailingVanish, -⟩ := exists_trimParts path.parts.2
  rw [trimmed, List.nil_append] at whole
  refine ⟨?_, ?_⟩
  · show path.parts.1.components ++ visible path.parts.2 = _
    rw [whole, visible_of_vanishes trailingVanish, List.append_nil]
  · rw [parent?_eq, trimmed]
    rfl

/-- The last part that does not vanish is what the parent lacks. -/
theorem parent?_of_concat {path : Path} {front : List String} {final : String}
    (trimmed : trimParts path.parts.2 = front ++ [final]) :
    ∃ parent, path.parent? = some parent ∧
      path.components = parent.components ++ [.ofPart final] := by
  obtain ⟨trailing, whole, trailingVanish, last⟩ := exists_trimParts path.parts.2
  obtain ⟨passed, frontWhole, passedVanish, frontLast⟩ := exists_trimParts front
  rw [trimmed] at whole last
  have written : vanishes final = false := last final (by rw [List.getLast?_concat]; rfl)
  have divided : path.parts.2 = trimParts front ++ (passed ++ [final] ++ trailing) :=
    calc path.parts.2
      _ = front ++ [final] ++ trailing := whole
      _ = trimParts front ++ passed ++ [final] ++ trailing := by rw [← frontWhole]
      _ = trimParts front ++ (passed ++ [final] ++ trailing) := by simp only [List.append_assoc]
  have more : passed ++ [final] ++ trailing ≠ [] := by simp
  refine ⟨⟨path.parts.1.text ++ Text.join "/" (trimParts front)⟩, ?_, ?_⟩
  · rw [parent?_eq, trimmed, List.reverse_concat]
    show some (Path.mk (_ ++ Text.join "/" (trimParts front.reverse.reverse))) = _
    rw [List.reverse_reverse]
  · rw [components_of_front divided more frontLast]
    show path.parts.1.components ++ visible path.parts.2 = _
    rw [divided, visible_append, visible_append, visible_append, visible_of_vanishes passedVanish,
      visible_of_vanishes trailingVanish, visible_singleton written, List.nil_append,
      List.append_nil, List.append_assoc]

/-- The parent of a path has all its components but the last; a path without a parent has none, or
the root alone. -/
theorem parent?_cases (path : Path) :
    (∃ parent last, path.parent? = some parent ∧ path.components = parent.components ++ [last]) ∨
      path.parent? = none ∧ (path.components = [] ∨ path.components = [.root]) := by
  rcases List.eq_nil_or_concat (trimParts path.parts.2) with trimmed | ⟨front, final, trimmed⟩
  · obtain ⟨components, parent⟩ := parent?_of_vanishes trimmed
    rw [components, parent]
    cases path.parts.1 with
    | nothing => exact .inr ⟨rfl, .inl rfl⟩
    | root => exact .inr ⟨rfl, .inr rfl⟩
    | here => exact .inl ⟨⟨""⟩, .here, rfl, by decide⟩
  · rw [List.concat_eq_append] at trimmed
    obtain ⟨parent, found, components⟩ := parent?_of_concat trimmed
    exact .inl ⟨parent, .ofPart final, found, components⟩

end Path

end RippleServer
