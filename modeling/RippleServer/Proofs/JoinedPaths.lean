/-
This file is about paths that are joined. What is behind is only looked for inside
what is in front of it if it does not begin with a slash; otherwise it stands for
itself. So it makes no difference in which order three paths are joined, but
joining a path to the same base twice leads elsewhere than joining it once, unless
the path or the base begins with a slash or there is no base.
-/

import RippleServer.Proofs.PathComponents

namespace RippleServer.Path

/-! ### Slashes at the beginning -/

theorem isAbsolute_iff {path : Path} :
    path.isAbsolute = true ↔ path.text.toList.head? = some '/' := by
  have shape := begins path.text.toList
  generalize begun : path.text.toList = chars at shape
  cases shape with
  | nothing =>
    obtain ⟨text⟩ := path
    obtain rfl : text = "" := String.toList_eq_nil_iff.mp begun
    decide
  | root rest =>
    rw [isAbsolute, parts_of_root begun]
    exact iff_of_true rfl rfl
  | here =>
    rw [isAbsolute, parts_of_here begun]
    decide
  | below rest =>
    rw [isAbsolute, parts_of_below begun]
    simp
  | plain plain =>
    rw [isAbsolute, parts_of_plain (begun ▸ plain)]
    obtain ⟨char, rest, rfl, other, -⟩ := plain
    simp [other]

theorem join_of_absolute {base tail : Path} (absolute : tail.isAbsolute = true) :
    base.join tail = tail :=
  if_pos absolute

theorem child_of_absolute {root : Path} {name : String} (absolute : name.toList.head? = some '/') :
    root.child name = ⟨name⟩ :=
  join_of_absolute (isAbsolute_iff.mpr absolute)

/-! ### The text of a joined path -/

theorem eq_of_text {first second : Path} (same : first.text = second.text) : first = second := by
  obtain ⟨text⟩ := first
  obtain ⟨other⟩ := second
  exact congrArg Path.mk same

/-- What goes between a text and what is joined to it. -/
def gap (text : String) : String :=
  if text.toList.getLast?.all (· == '/') then "" else "/"

theorem text_join {base tail : Path} (relative : ¬ tail.isAbsolute = true) :
    (base.join tail).text = base.text ++ gap base.text ++ tail.text := by
  rw [join, if_neg relative, gap]
  split
  · rw [String.append_empty]
  · rfl

theorem gap_append {back : String} (front : String) (written : back ≠ "") :
    gap (front ++ back) = gap back := by
  have some : back.toList ≠ [] := mt String.toList_eq_nil_iff.mp written
  rw [gap, gap, String.toList_append, List.getLast?_append, List.getLast?_eq_some_getLast some,
    Option.some_or]

/-- With what goes behind it, a text needs nothing more. -/
theorem gap_append_gap (text : String) : gap (text ++ gap text) = "" := by
  by_cases ended : text.toList.getLast?.all (· == '/') = true
  · have nothing : gap text = "" := if_pos ended
    rw [nothing, String.append_empty, nothing]
  · have slash : gap text = "/" := if_neg ended
    rw [slash, gap_append text (by decide)]
    decide

theorem isAbsolute_join_iff {base tail : Path} :
    (base.join tail).isAbsolute = true ↔ base.isAbsolute = true ∨ tail.isAbsolute = true := by
  by_cases absolute : tail.isAbsolute = true
  · rw [join_of_absolute absolute]
    exact iff_of_true absolute (.inr absolute)
  · have joined : (base.join tail).text = base.text ++ gap base.text ++ tail.text :=
      text_join absolute
    simp only [isAbsolute_iff] at absolute ⊢
    rw [joined, String.append_assoc, String.toList_append]
    cases begun : base.text.toList with
    | nil =>
      have empty : base.text = "" := String.toList_eq_nil_iff.mp begun
      simp [gap, empty]
    | cons first rest => simp [absolute]

theorem length_le_length_join (base tail : Path) :
    tail.text.length ≤ (base.join tail).text.length := by
  by_cases absolute : tail.isAbsolute = true
  · exact Nat.le_of_eq (by rw [join_of_absolute absolute])
  · rw [text_join absolute, String.length_append]
    exact Nat.le_add_left _ _

/-- A path that is longer than another is another. -/
theorem ne_of_length_lt {path other : Path} (longer : path.text.length < other.text.length) :
    other ≠ path :=
  fun same => absurd (congrArg (fun path => path.text.length) same) (Nat.ne_of_gt longer)

/-- A name makes a path longer. -/
theorem length_lt_length_child {name : String} (root : Path)
    (relative : ¬ (Path.mk name).isAbsolute = true) (written : name ≠ "") :
    root.text.length < (root.child name).text.length := by
  have some : name.length ≠ 0 := mt String.length_eq_zero_iff.mp written
  rw [child, text_join relative, String.length_append, String.length_append]
  show root.text.length < root.text.length + (gap root.text).length + name.length
  omega

/-! ### Joining three paths -/

/-- It makes no difference which of three paths are joined first. -/
theorem join_assoc (base middle tail : Path) :
    (base.join middle).join tail = base.join (middle.join tail) := by
  by_cases tailAbsolute : tail.isAbsolute = true
  · rw [join_of_absolute tailAbsolute, join_of_absolute tailAbsolute,
      join_of_absolute tailAbsolute]
  by_cases middleAbsolute : middle.isAbsolute = true
  · rw [join_of_absolute middleAbsolute,
      join_of_absolute (isAbsolute_join_iff.mpr (.inl middleAbsolute))]
  have relative : ¬ (middle.join tail).isAbsolute = true :=
    mt isAbsolute_join_iff.mp (not_or.mpr ⟨middleAbsolute, tailAbsolute⟩)
  apply eq_of_text
  rw [text_join tailAbsolute, text_join middleAbsolute, text_join relative, text_join tailAbsolute]
  by_cases empty : middle.text = ""
  · rw [empty, String.append_empty, gap_append_gap]
    simp [gap, String.append_assoc]
  · rw [gap_append _ empty]
    simp only [String.append_assoc]

/-- What is in a directory seen from a base is seen from there as what is in the directory. -/
theorem child_join (base path : Path) (name : String) :
    (base.join path).child name = base.join (path.child name) :=
  join_assoc base path ⟨name⟩

/-- Joining a path to a base leaves it as it is exactly if it begins with a slash or there is no
base. -/
theorem join_eq_self_iff {base path : Path} :
    base.join path = path ↔ path.isAbsolute = true ∨ base.text = "" := by
  by_cases absolute : path.isAbsolute = true
  · exact iff_of_true (join_of_absolute absolute) (.inl absolute)
  · constructor
    · intro same
      have lengths := congrArg (fun path => path.text.length) same
      simp only [text_join absolute, String.length_append] at lengths
      exact .inr (String.length_eq_zero_iff.mp (by omega))
    · rintro (isAbsolute | empty)
      · exact absurd isAbsolute absolute
      · apply eq_of_text
        rw [text_join absolute, empty]
        simp [gap]

/-- Joining a path to a base twice is joining it once exactly if the base or the path begins with a
slash or there is no base. -/
theorem join_join_eq_iff {base path : Path} :
    base.join (base.join path) = base.join path ↔
      base.isAbsolute = true ∨ path.isAbsolute = true ∨ base.text = "" := by
  rw [join_eq_self_iff, isAbsolute_join_iff, or_assoc]

/-! ### Components of a joined path -/

/-- A relative name adds its components to those of the path, unless the path is empty. -/
theorem components_child {root : Path} {name : String} (relative : name.toList.head? ≠ some '/') :
    (root.child name).components =
      if root.text = "" then (Path.mk name).components else root.components ++ names name := by
  have notAbsolute : ¬ (Path.mk name).isAbsolute = true := mt isAbsolute_iff.mp relative
  rw [child, join, if_neg notAbsolute]
  obtain ⟨text⟩ := root
  dsimp only
  rcases List.eq_nil_or_concat text.toList with empty | ⟨front, last, whole⟩
  · obtain rfl : text = "" := String.toList_eq_nil_iff.mp empty
    rfl
  · have written : text ≠ "" := by
      rintro rfl
      simp at whole
    rw [if_neg written]
    by_cases ended : last = '/'
    · -- The separator at the end of the path is the one in front of the name.
      have open' : text = String.ofList front ++ "/" := by
        apply String.toList_injective
        simp [whole, ended]
      have closed : Path.mk text = ⟨String.ofList front ++ "/" ++ ""⟩ := by
        rw [open', String.append_empty]
      rw [if_pos (by simp [whole, ended]), closed, open', components_slash, components_slash,
        names_empty, List.append_nil]
    · rw [if_neg (by simp [whole, ended]), components_slash_of_ne written]

theorem text_child_ne_empty {root : Path} {name : String} (written : name ≠ "") :
    (root.child name).text ≠ "" := by
  by_cases absolute : (Path.mk name).isAbsolute = true
  · rw [child, join_of_absolute absolute]
    exact written
  · rw [child, text_join absolute]
    exact fun empty => written (String.append_eq_empty_iff.mp empty).2

/-- A relative name leads to a place inside. -/
theorem isPrefix_components_child {root : Path} {name : String}
    (relative : name.toList.head? ≠ some '/') :
    root.components <+: (root.child name).components := by
  rw [components_child relative]
  split
  · rename_i empty
    obtain ⟨text⟩ := root
    obtain rfl : text = "" := empty
    exact List.nil_prefix
  · exact List.prefix_append _ _

end RippleServer.Path
