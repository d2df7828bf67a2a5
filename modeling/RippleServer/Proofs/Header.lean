/-
This file says what a header line means, without the functions that read it. A
line gives a length if the text before its first colon names it, and the length
is the number spelled by the text behind that colon. White space at the ends of
the line, of the name and of the number does not matter, so it makes no
difference that the line is trimmed before it is divided.
-/

import Mathlib.Data.List.TakeDrop
import Mathlib.Data.List.TakeWhile
import RippleServer.Frame

namespace RippleServer.Text

/-! ### Trimming -/

theorem mem_takeWhile_isBlank {chars : List Char} {char : Char}
    (member : char ∈ chars.takeWhile isBlank) : isBlank char = true :=
  List.all_eq_true.mp List.all_takeWhile char member

/-- What is trimmed off a list of characters is blank. -/
theorem exists_trimChars (chars : List Char) :
    ∃ front back, chars = front ++ trimChars chars ++ back ∧
      (∀ char ∈ front, isBlank char = true) ∧ ∀ char ∈ back, isBlank char = true := by
  refine ⟨chars.takeWhile isBlank,
    ((chars.dropWhile isBlank).reverse.takeWhile isBlank).reverse, ?_, ?_, ?_⟩
  · rw [trimChars, List.append_assoc, ← List.reverse_append, List.takeWhile_append_dropWhile,
      List.reverse_reverse, List.takeWhile_append_dropWhile]
  · exact fun char => mem_takeWhile_isBlank
  · exact fun char member => mem_takeWhile_isBlank (List.mem_reverse.mp member)

theorem trimChars_append_left {blanks : List Char}
    (blank : ∀ char ∈ blanks, isBlank char = true) (chars : List Char) :
    trimChars (blanks ++ chars) = trimChars chars := by
  rw [trimChars, trimChars, List.dropWhile_append_of_pos blank]

theorem trimChars_append_right {blanks : List Char}
    (blank : ∀ char ∈ blanks, isBlank char = true) (chars : List Char) :
    trimChars (chars ++ blanks) = trimChars chars := by
  have reversed : ∀ char ∈ blanks.reverse, isBlank char = true :=
    fun char member => blank char (List.mem_reverse.mp member)
  unfold trimChars
  rw [List.dropWhile_append]
  split
  · rename_i empty
    rw [List.isEmpty_iff] at empty
    rw [empty, List.dropWhile_eq_nil_iff.mpr blank]
  · rw [List.reverse_append, List.dropWhile_append_of_pos reversed]

theorem trimChars_eq_nil_iff {chars : List Char} :
    trimChars chars = [] ↔ ∀ char ∈ chars, isBlank char = true := by
  constructor
  · intro empty
    obtain ⟨front, back, whole, frontBlank, backBlank⟩ := exists_trimChars chars
    rw [empty, List.append_nil] at whole
    rw [whole]
    exact fun char member => (List.mem_append.mp member).elim (frontBlank char) (backBlank char)
  · intro blank
    rw [trimChars, List.dropWhile_eq_nil_iff.mpr blank]
    rfl

theorem trim_ofList (chars : List Char) :
    trim (String.ofList chars) = String.ofList (trimChars chars) := by
  rw [trim, String.toList_ofList]

/-! ### Dividing at a separator -/

theorem cut?_of_eq {separator : Char} {text : String} {front back : List Char}
    (whole : text.toList = front ++ separator :: back) (absent : separator ∉ front) :
    cut? separator text = some (String.ofList front, String.ofList back) := by
  have passed : ∀ char ∈ front, decide (char ≠ separator) = true := by
    intro char member
    exact decide_eq_true fun same => absent (same ▸ member)
  unfold cut?
  rw [whole, List.span_eq_takeWhile_dropWhile, List.takeWhile_append_of_pos passed,
    List.dropWhile_append_of_pos passed, List.takeWhile_cons_of_neg (by simp),
    List.dropWhile_cons_of_neg (by simp), List.append_nil]

theorem cut?_of_not_mem {separator : Char} {text : String} (absent : separator ∉ text.toList) :
    cut? separator text = none := by
  have passed : ∀ char ∈ text.toList, decide (char ≠ separator) = true := by
    intro char member
    exact decide_eq_true fun same => absent (same ▸ member)
  unfold cut?
  rw [List.span_eq_takeWhile_dropWhile, List.dropWhile_eq_nil_iff.mpr passed]

/-- A text is divided at its first separator. -/
theorem cut?_eq_some_iff {separator : Char} {text front back : String} :
    cut? separator text = some (front, back) ↔
      text.toList = front.toList ++ separator :: back.toList ∧ separator ∉ front.toList := by
  constructor
  · intro found
    by_cases present : separator ∈ text.toList
    · obtain ⟨before, behind, whole, absent⟩ := List.eq_append_cons_of_mem present
      rw [cut?_of_eq whole absent] at found
      cases found
      rw [String.toList_ofList, String.toList_ofList]
      exact ⟨whole, absent⟩
    · rw [cut?_of_not_mem present] at found
      cases found
  · rintro ⟨whole, absent⟩
    rw [cut?_of_eq whole absent, String.ofList_toList, String.ofList_toList]

/-- The front of a text is what stands before its first separator, or all of it if there is no
separator. -/
def FrontOf (separator : Char) (chars front : List Char) : Prop :=
  (chars = front ∨ ∃ behind, chars = front ++ separator :: behind) ∧ separator ∉ front

theorem frontOf_iff {separator : Char} {chars front : List Char} :
    FrontOf separator chars front ↔ front = chars.takeWhile (· ≠ separator) := by
  constructor
  · rintro ⟨whole, absent⟩
    have passed : ∀ char ∈ front, decide (char ≠ separator) = true := by
      intro char member
      exact decide_eq_true fun same => absent (same ▸ member)
    rcases whole with rfl | ⟨behind, rfl⟩
    · exact (List.takeWhile_eq_self_iff.mpr passed).symm
    · rw [List.takeWhile_append_of_pos passed, List.takeWhile_cons_of_neg (by simp),
        List.append_nil]
  · rintro rfl
    have whole := List.takeWhile_append_dropWhile (p := (· ≠ separator)) (l := chars)
    have absent : separator ∉ chars.takeWhile (· ≠ separator) := fun member =>
      of_decide_eq_true (List.all_eq_true.mp List.all_takeWhile separator member) rfl
    refine ⟨?_, absent⟩
    cases rest : chars.dropWhile (· ≠ separator) with
    | nil =>
      rw [rest, List.append_nil] at whole
      exact .inl whole.symm
    | cons char behind =>
      have stops := List.head?_dropWhile_not (· ≠ separator) chars
      rw [rest] at stops
      obtain rfl : char = separator := by simpa using stops
      rw [rest] at whole
      exact .inr ⟨behind, whole.symm⟩

/-! ### Numbers -/

/-- A text that spells a number: an optional plus sign and at least one decimal digit. -/
def Numeral (text : List Char) (value : Nat) : Prop :=
  ∃ digits, (text = digits ∨ text = '+' :: digits) ∧ digits ≠ [] ∧
    (∀ digit ∈ digits, digit.isDigit = true) ∧ Nat.ofDigitChars 10 digits 0 = value

theorem le_ofDigitChars (digits : List Char) (value : Nat) :
    value ≤ Nat.ofDigitChars 10 digits value := by
  induction digits generalizing value with
  | nil => rw [Nat.ofDigitChars_nil]
  | cons digit digits inductionHypothesis =>
    rw [Nat.ofDigitChars_cons]
    exact Nat.le_trans (by omega) (inductionHypothesis _)

/-- The digits are read as the number they denote. Its beginnings are no greater than the whole, so
the bound need only be kept at the end. -/
theorem accumulate_eq_ok_iff {bound value result : Nat} {beyond : NumeralFault}
    {digits : List Char} (within : value ≤ bound) :
    accumulate bound beyond value digits = .ok result ↔
      (∀ digit ∈ digits, digit.isDigit = true) ∧
        Nat.ofDigitChars 10 digits value = result ∧ result ≤ bound := by
  induction digits generalizing value with
  | nil =>
    simp only [accumulate, Except.ok.injEq, List.not_mem_nil, false_implies, implies_true,
      Nat.ofDigitChars_nil, true_and]
    constructor
    · rintro rfl
      exact ⟨rfl, within⟩
    · exact And.left
  | cons digit digits inductionHypothesis =>
    have grows := le_ofDigitChars digits (10 * value + (digit.toNat - '0'.toNat))
    rw [List.forall_mem_cons, Nat.ofDigitChars_cons, accumulate, digit?]
    by_cases isDigit : digit.isDigit = true
    · rw [if_pos isDigit]
      show (if value * 10 + (digit.toNat - '0'.toNat) ≤ bound then _ else _) = _ ↔ _
      rw [Nat.mul_comm value 10]
      split
      · rename_i fits
        rw [inductionHypothesis fits]
        simp only [isDigit, true_and]
      · rename_i exceeds
        constructor
        · exact nofun
        · rintro ⟨-, rfl, small⟩
          exact absurd (Nat.le_trans grows small) exceeds
    · rw [if_neg isDigit]
      exact ⟨nofun, fun read => absurd read.1.1 isDigit⟩

theorem readNatural_eq_ok_iff {bound value : Nat} {text : String} :
    readNatural bound text = .ok value ↔ Numeral text.toList value ∧ value ≤ bound := by
  unfold readNatural Numeral
  generalize text.toList = chars
  split
  · -- There is no digit at all.
    refine ⟨nofun, ?_⟩
    rintro ⟨⟨digits, same | same, some, -⟩, -⟩
    · exact absurd same.symm some
    · cases same
  · -- The plus sign stands alone.
    refine ⟨nofun, ?_⟩
    rintro ⟨⟨digits, same | same, some, isDigit, -⟩, -⟩
    · subst same
      exact absurd (isDigit '+' (List.mem_singleton.mpr rfl)) (by decide)
    · cases same
      exact absurd rfl some
  · rename_i digits alone
    rw [accumulate_eq_ok_iff (Nat.zero_le bound)]
    constructor
    · rintro ⟨isDigit, rfl, small⟩
      exact ⟨⟨digits, .inr rfl, fun empty => alone (empty ▸ rfl), isDigit, rfl⟩, small⟩
    · rintro ⟨⟨others, same | same, some, isDigit, rfl⟩, small⟩
      · subst same
        exact absurd (isDigit '+' List.mem_cons_self) (by decide)
      · cases same
        exact ⟨isDigit, rfl, small⟩
  · rename_i digits empty _ unsigned
    rw [accumulate_eq_ok_iff (Nat.zero_le bound)]
    constructor
    · rintro ⟨isDigit, rfl, small⟩
      exact ⟨⟨chars, .inl rfl, empty, isDigit, rfl⟩, small⟩
    · rintro ⟨⟨others, rfl | rfl, some, isDigit, rfl⟩, small⟩
      · exact ⟨isDigit, rfl, small⟩
      · exact absurd rfl (unsigned others)

/-- A text is read as a number exactly if it spells that number and the number is within the
bound. -/
theorem natural?_eq_some_iff {bound value : Nat} {text : String} :
    natural? bound text = some value ↔ Numeral text.toList value ∧ value ≤ bound := by
  rw [← readNatural_eq_ok_iff, natural?]
  cases readNatural bound text with
  | error _ => exact ⟨nofun, nofun⟩
  | ok number => exact ⟨fun same => by cases same; rfl, fun same => by cases same; rfl⟩

end RippleServer.Text

namespace RippleServer.Frame

/-! ### Lines that give a length -/

/-- A line that gives the length: the text before its first colon is the name of the field, and the
value is the text behind that colon. -/
def LengthLine (line : List Char) (value : String) : Prop :=
  ∃ name behind, line = name ++ ':' :: behind ∧ ':' ∉ name ∧
    Text.lower (String.ofList (Text.trimChars name)) = "content-length" ∧
    value = String.ofList (Text.trimChars behind)

theorem lengthValue?_eq_some_iff {line : List Char} {value : String} :
    lengthValue? (String.ofList line) = some value ↔ LengthLine line value := by
  unfold lengthValue? LengthLine
  constructor
  · intro found
    split at found
    · rename_i name behind divided
      obtain ⟨whole, absent⟩ := Text.cut?_eq_some_iff.mp divided
      rw [String.toList_ofList] at whole
      split at found
      · rename_i named
        cases found
        refine ⟨name.toList, behind.toList, whole, absent, ?_, rfl⟩
        exact beq_iff_eq.mp named
      · cases found
    · cases found
  · rintro ⟨name, behind, whole, absent, named, rfl⟩
    rw [Text.cut?_of_eq (by rw [String.toList_ofList]; exact whole) absent]
    show (if Text.sameIgnoringCase (Text.trim (String.ofList name)) "content-length" then _
      else _) = _
    rw [Text.trim_ofList, Text.trim_ofList, if_pos]
    exact beq_iff_eq.mpr named

/-- The first separator of a list divides it in one way only. -/
theorem first_unique {separator : Char} {before before' behind behind' : List Char}
    (same : before ++ separator :: behind = before' ++ separator :: behind')
    (absent : separator ∉ before) (absent' : separator ∉ before') :
    before = before' ∧ behind = behind' := by
  have one := Text.cut?_of_eq (String.toList_ofList (l := before ++ separator :: behind)) absent
  have two := Text.cut?_of_eq (String.toList_ofList.trans same) absent'
  have both := Option.some.inj (one.symm.trans two)
  exact ⟨String.ofList_injective (congrArg Prod.fst both),
    String.ofList_injective (congrArg Prod.snd both)⟩

theorem lengthLine_append {front line back : List Char} {value : String}
    (frontBlank : ∀ char ∈ front, Text.isBlank char = true)
    (backBlank : ∀ char ∈ back, Text.isBlank char = true) :
    LengthLine (front ++ line ++ back) value ↔ LengthLine line value := by
  have colonFree : ∀ blanks : List Char, (∀ char ∈ blanks, Text.isBlank char = true) →
      ':' ∉ blanks := by
    intro blanks blank member
    exact absurd (blank ':' member) (by decide)
  constructor
  · rintro ⟨name, behind, divided, absent, named, rfl⟩
    have present : ':' ∈ line := by
      have member : ':' ∈ front ++ line ++ back := by
        rw [divided]
        exact List.mem_append_right _ List.mem_cons_self
      rcases List.mem_append.mp member with early | late
      · exact (List.mem_append.mp early).resolve_left (colonFree front frontBlank)
      · exact absurd late (colonFree back backBlank)
    obtain ⟨inner, tail, whole, innerAbsent⟩ := List.eq_append_cons_of_mem present
    have regrouped : name ++ ':' :: behind = (front ++ inner) ++ ':' :: (tail ++ back) := by
      rw [← divided, whole]
      simp only [List.append_assoc, List.cons_append]
    obtain ⟨rfl, rfl⟩ := first_unique regrouped absent fun member =>
      (List.mem_append.mp member).elim (colonFree front frontBlank) innerAbsent
    rw [Text.trimChars_append_left frontBlank] at named
    rw [Text.trimChars_append_right backBlank]
    exact ⟨inner, tail, whole, innerAbsent, named, rfl⟩
  · rintro ⟨name, behind, rfl, absent, named, rfl⟩
    refine ⟨front ++ name, behind ++ back, ?_, ?_, ?_, ?_⟩
    · simp only [List.append_assoc, List.cons_append]
    · exact fun member => (List.mem_append.mp member).elim (colonFree front frontBlank) absent
    · rw [Text.trimChars_append_left frontBlank]
      exact named
    · rw [Text.trimChars_append_right backBlank]

/-- White space around a line does not change what it gives: a colon is not blank, so what is
trimmed off lies around the name and the value. -/
theorem lengthLine_trimChars_iff {line : List Char} {value : String} :
    LengthLine (Text.trimChars line) value ↔ LengthLine line value := by
  obtain ⟨front, back, whole, frontBlank, backBlank⟩ := Text.exists_trimChars line
  conv_rhs => rw [whole]
  exact (lengthLine_append frontBlank backBlank).symm

end RippleServer.Frame
