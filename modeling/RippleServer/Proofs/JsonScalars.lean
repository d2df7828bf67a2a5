/-
This file proves that strings and whole numbers are read back the way they are
written, whatever follows them. A string is read character by character: one
that is escaped comes back through its escape, and every byte of one that is not
stands for itself. A whole number is read digit by digit up to the first byte
that cannot belong to it.
-/

import RippleServer.Json.Record
import RippleServer.Json.Printer
import RippleServer.Proofs.Header
import RippleServer.Proofs.Utf8

namespace RippleServer.Json

/-! ### Bytes of the text -/

theorem encodeChars_cons_ascii {char : Char} (small : char.toNat < 0x80) (chars : List Char) :
    Text.encodeChars (char :: chars) = ascii char :: Text.encodeChars chars := by
  rw [Text.encodeChars_cons, Text.utf8EncodeChar_one small]
  rfl

theorem toNat_ascii {char : Char} (small : char.toNat < 0x80) : (ascii char).toNat = char.toNat :=
  Text.toNat_ofNat_of_lt (by omega)

theorem ascii_inj {first second : Char} (firstSmall : first.toNat < 0x80)
    (secondSmall : second.toNat < 0x80) (same : ascii first = ascii second) : first = second := by
  rw [← UInt8.toNat_inj, toNat_ascii firstSmall, toNat_ascii secondSmall] at same
  exact Char.toNat_inj.mp same

theorem skipSpace_cons {byte : UInt8} (notBlank : isSpace byte = false) (rest : Bytes) :
    skipSpace (byte :: rest) = byte :: rest := by
  rw [skipSpace, List.dropWhile_cons, notBlank]
  rfl

/-! ### Strings -/

/-- A byte that stands for itself inside a string. -/
def IsVerbatim (byte : UInt8) : Prop :=
  byte ≠ ascii '"' ∧ byte ≠ ascii '\\' ∧ ¬ byte < 0x20

instance (byte : UInt8) : Decidable (IsVerbatim byte) :=
  inferInstanceAs (Decidable (_ ∧ _ ∧ _))

theorem stringBytes_verbatim {bytes : Bytes} (verbatim : ∀ byte ∈ bytes, IsVerbatim byte)
    (budget : Nat) (done tail : Bytes) :
    stringBytes (bytes.length + budget) done (bytes ++ tail) =
      stringBytes budget (bytes.reverse ++ done) tail := by
  induction bytes generalizing done with
  | nil => rw [List.length_nil, Nat.zero_add]; rfl
  | cons byte rest inductionHypothesis =>
    obtain ⟨⟨notQuote, notBackslash, notControl⟩, restVerbatim⟩ := List.forall_mem_cons.mp verbatim
    rw [List.length_cons, Nat.succ_add, List.cons_append, stringBytes, if_neg notQuote,
      if_neg notBackslash, if_neg notControl, inductionHypothesis restVerbatim, List.reverse_cons,
      List.append_assoc]
    rfl

theorem stringBytes_escape {body tail : Bytes} {char : Char}
    (escaped : escape (body ++ tail) = .ok (char, tail)) (budget : Nat) (done : Bytes) :
    stringBytes (budget + 1) done (ascii '\\' :: (body ++ tail)) =
      stringBytes budget ((String.utf8EncodeChar char).reverse ++ done) tail := by
  rw [stringBytes, if_neg (by decide), if_pos rfl, escaped]
  rfl

theorem isVerbatim_of_mem {char : Char} (notQuote : char ≠ '"') (notBackslash : char ≠ '\\')
    (notControl : ¬ char.toNat < 0x20) {byte : UInt8}
    (member : byte ∈ String.utf8EncodeChar char) : IsVerbatim byte := by
  have same (known : Char) (small : known.toNat < 0x80) (equal : byte = ascii known) :
      char = known := by
    have value : byte.toNat = known.toNat := by rw [equal, toNat_ascii small]
    exact Char.toNat_inj.mp
      ((Text.toNat_eq_of_mem_utf8EncodeChar (by omega) member).trans value)
  refine ⟨fun equal => notQuote (same _ (by decide) equal),
    fun equal => notBackslash (same _ (by decide) equal), fun control => ?_⟩
  have small : byte.toNat < 0x20 := UInt8.lt_iff_toNat_lt.mp control
  rw [Text.toNat_eq_of_mem_utf8EncodeChar (by omega) member] at notControl
  exact notControl small

theorem hexValue?_hexDigit {value : Nat} (small : value < 16) :
    hexValue? (ascii (hexDigit value)) = some value := by
  revert value
  decide

theorem hexDigit_ascii {value : Nat} (small : value < 16) : (hexDigit value).toNat < 0x80 := by
  revert value
  decide

/-- A control that has no letter of its own is spelled by its number. -/
theorem escape_control {char : Char} (control : char.toNat < 0x20) (tail : Bytes) :
    escape (Text.encodeChars
      ['u', '0', '0', hexDigit (char.toNat / 16), hexDigit (char.toNat % 16)] ++ tail) =
        .ok (char, tail) := by
  rw [encodeChars_cons_ascii (by decide), encodeChars_cons_ascii (by decide),
    encodeChars_cons_ascii (by decide), encodeChars_cons_ascii (hexDigit_ascii (by omega)),
    encodeChars_cons_ascii (hexDigit_ascii (by omega)), Text.encodeChars_nil]
  have unit : ((0 * 16 + 0) * 16 + char.toNat / 16) * 16 + char.toNat % 16 = char.toNat := by
    omega
  have digits : hexEscape (ascii '0' :: ascii '0' :: ascii (hexDigit (char.toNat / 16)) ::
      ascii (hexDigit (char.toNat % 16)) :: tail) = .ok (char.toNat, tail) := by
    rw [hexEscape, hexValue?_hexDigit (by omega), hexValue?_hexDigit (by omega),
      show hexValue? (ascii '0') = some 0 from rfl]
    simp only [unit]
  have spelled : unicodeEscape (ascii '0' :: ascii '0' :: ascii (hexDigit (char.toNat / 16)) ::
      ascii (hexDigit (char.toNat % 16)) :: tail) = .ok (char, tail) := by
    rw [unicodeEscape, digits]
    -- A control is far below the surrogates.
    change (if _ then _ else _) = _
    rw [if_neg (by omega), if_neg (by omega), Char.ofNat_toNat]
  exact spelled

/-- Every character is written for itself, as bytes that stand for themselves, or as an escape
that is read back as it. -/
theorem escapedChar_cases (char : Char) :
    (escapedChar char = [char] ∧ ∀ byte ∈ String.utf8EncodeChar char, IsVerbatim byte) ∨
      ∃ body, escapedChar char = '\\' :: body ∧
        ∀ tail, escape (Text.encodeChars body ++ tail) = .ok (char, tail) := by
  by_cases lettered : char ∈ ['"', '\\', '\n', '\r', '\t', '\x08', '\x0c']
  · simp only [List.mem_cons, List.not_mem_nil, or_false] at lettered
    rcases lettered with rfl | rfl | rfl | rfl | rfl | rfl | rfl <;>
      exact .inr ⟨_, rfl, fun tail => rfl⟩
  · simp only [List.mem_cons, List.not_mem_nil, or_false, not_or] at lettered
    obtain ⟨notQuote, notBackslash, notNewline, notReturn, notTab, notBackspace, notFeed⟩ :=
      lettered
    rw [escapedChar, if_neg notQuote, if_neg notBackslash, if_neg notNewline, if_neg notReturn,
      if_neg notTab, if_neg notBackspace, if_neg notFeed]
    by_cases control : char.toNat < 0x20
    · rw [if_pos control]
      exact .inr ⟨_, rfl, escape_control control⟩
    · rw [if_neg control]
      exact .inl ⟨rfl, fun byte => isVerbatim_of_mem notQuote notBackslash control⟩

/-- Reading goes over one written character with a budget that is large enough for it, and is left
with one that is large enough for what follows. -/
theorem stringBytes_escapedChar (char : Char) (tail : Bytes) {budget : Nat} (done : Bytes)
    {result : Reading (Bytes × Bytes)}
    (enough : (Text.encodeChars (escapedChar char) ++ tail).length ≤ budget)
    (goesOn : ∀ left, tail.length ≤ left →
      stringBytes left ((String.utf8EncodeChar char).reverse ++ done) tail = result) :
    stringBytes budget done (Text.encodeChars (escapedChar char) ++ tail) = result := by
  -- A round takes one byte of a character that stands for itself but a whole escape, so what is
  -- left of the budget is not known from the bytes alone.
  obtain ⟨itself, verbatim⟩ | ⟨body, escaped, readsBack⟩ := escapedChar_cases char
  · have bytes : Text.encodeChars (escapedChar char) = String.utf8EncodeChar char := by
      rw [itself, Text.encodeChars_cons, Text.encodeChars_nil, List.append_nil]
    rw [bytes, List.length_append] at enough
    obtain ⟨left, rfl⟩ := Nat.exists_eq_add_of_le (Nat.le_of_add_right_le enough)
    rw [bytes, stringBytes_verbatim verbatim]
    exact goesOn left (by omega)
  · have bytes : Text.encodeChars (escapedChar char) = ascii '\\' :: Text.encodeChars body := by
      rw [escaped, encodeChars_cons_ascii (by decide)]
    rw [bytes, List.cons_append, List.length_cons, List.length_append] at enough
    obtain ⟨left, rfl⟩ := Nat.exists_eq_add_of_le' (Nat.le_of_add_left_le enough)
    rw [bytes, List.cons_append, stringBytes_escape (readsBack tail)]
    exact goesOn left (by omega)

theorem stringBytes_flatMap (chars : List Char) (rest done : Bytes) {budget : Nat}
    (enough : (Text.encodeChars (chars.flatMap escapedChar) ++ ascii '"' :: rest).length
      ≤ budget) :
    stringBytes budget done (Text.encodeChars (chars.flatMap escapedChar) ++ ascii '"' :: rest) =
      .ok (done.reverse ++ Text.encodeChars chars, rest) := by
  induction chars generalizing budget done with
  | nil =>
    obtain ⟨left, rfl⟩ := Nat.exists_eq_add_of_le' (Nat.le_of_add_left_le enough)
    rw [List.flatMap_nil, Text.encodeChars_nil, List.nil_append, List.append_nil, stringBytes,
      if_pos rfl]
  | cons char chars inductionHypothesis =>
    rw [List.flatMap_cons, Text.encodeChars_append, List.append_assoc] at enough ⊢
    refine stringBytes_escapedChar char _ done enough fun left large => ?_
    rw [inductionHypothesis _ large, List.reverse_append, List.reverse_reverse,
      Text.encodeChars_cons, List.append_assoc]

/-- The bytes of a text between quotes are read back as the text. -/
theorem string_bytes (text : String) (rest : Bytes) :
    ∃ body, (Json.str text).bytes ++ rest = ascii '"' :: body ∧ string body = .ok (text, rest) := by
  refine ⟨Text.encodeChars (text.toList.flatMap escapedChar) ++ ascii '"' :: rest, ?_, ?_⟩
  · rw [bytes, chars, stringChars, encodeChars_cons_ascii (by decide), Text.encodeChars_append,
      encodeChars_cons_ascii (by decide), Text.encodeChars_nil, List.cons_append,
      List.append_assoc]
    rfl
  · have decoded : Text.decodeChars (Text.encodeChars text.toList) = .ok text.toList :=
      Text.decodeChars_eq_ok_iff.mpr rfl
    rw [string, stringBytes_flatMap _ _ _ (Nat.le_refl _)]
    simp only [bind, Except.bind, List.reverse_nil, List.nil_append, decoded, String.ofList_toList]

/-! ### Whole numbers -/

/-- No byte follows that could belong to a number before it. -/
def EndsNumber (rest : Bytes) : Prop :=
  rest.head?.any isDigit = false ∧ rest.head? ≠ some (ascii '.') ∧ startsExponent rest = false

theorem endsNumber_cons {byte : UInt8}
    (separator : byte ∈ [ascii ',', ascii ']', ascii '\x7d']) (rest : Bytes) :
    EndsNumber (byte :: rest) := by
  simp only [List.mem_cons, List.not_mem_nil, or_false] at separator
  rcases separator with rfl | rfl | rfl <;>
    exact ⟨rfl, by rw [List.head?_cons]; decide, rfl⟩

theorem finishWhole_of_endsNumber {rest : Bytes} (ends : EndsNumber rest) (negative : Bool)
    (significand : Nat) :
    finishWhole negative significand rest = .ok (.ofWhole negative significand, rest) := by
  obtain ⟨-, noPoint, noExponent⟩ := ends
  rw [finishWhole, noExponent, Bool.or_false, if_neg (by simpa using noPoint)]

theorem toNat_lt_of_isDigit {digit : Char} (digital : digit.isDigit = true) :
    digit.toNat < 0x80 :=
  Nat.lt_of_le_of_lt (Char.isDigit_iff_toNat.mp digital).2 (by decide)

theorem isDigit_ascii {digit : Char} (digital : digit.isDigit = true) :
    isDigit (ascii digit) = true ∧ digitValue (ascii digit) = digit.toNat - '0'.toNat := by
  have value := toNat_ascii (toNat_lt_of_isDigit digital)
  constructor
  · simp only [isDigit, UInt8.le_iff_toNat_le, value, Bool.and_eq_true, decide_eq_true_eq]
    exact Char.isDigit_iff_toNat.mp digital
  · rw [digitValue, value]
    rfl

theorem wholeDigits_encodeChars {digits : List Char} {rest : Bytes} {significand : Nat}
    (digital : ∀ digit ∈ digits, digit.isDigit = true) (ends : EndsNumber rest)
    (bounded : Nat.ofDigitChars 10 digits significand ≤ significandBound) (negative : Bool) :
    wholeDigits negative significand (Text.encodeChars digits ++ rest) =
      .ok (.ofWhole negative (Nat.ofDigitChars 10 digits significand), rest) := by
  induction digits generalizing significand with
  | nil =>
    rw [Text.encodeChars_nil, List.nil_append, Nat.ofDigitChars_nil]
    cases rest with
    | nil => rw [wholeDigits, finishWhole_of_endsNumber ends]
    | cons byte rest =>
      have noDigit : isDigit byte = false := ends.1
      rw [wholeDigits, noDigit, if_neg Bool.false_ne_true, finishWhole_of_endsNumber ends]
  | cons digit digits inductionHypothesis =>
    obtain ⟨headDigital, restDigital⟩ := List.forall_mem_cons.mp digital
    obtain ⟨byteDigital, value⟩ := isDigit_ascii headDigital
    rw [Nat.ofDigitChars_cons] at bounded ⊢
    -- The value of the digits so far never exceeds the value of all of them.
    have fits := Nat.le_trans (Text.le_ofDigitChars digits _) bounded
    rw [encodeChars_cons_ascii (toNat_lt_of_isDigit headDigital), List.cons_append, wholeDigits,
      if_pos byteDigital, value, Nat.mul_comm significand, if_pos fits]
    exact inductionHypothesis restDigital bounded

/-- The digits of a number start with a zero only if it is zero. -/
theorem toDigits_eq_cons {number : Nat} (positive : 0 < number) :
    ∃ first more, Nat.toDigits 10 number = first :: more ∧ first ≠ '0' := by
  have notZero : ∀ digit < 10, 0 < digit → Nat.digitChar digit ≠ '0' := by decide
  induction number using Nat.strongRecOn with
  | ind number inductionHypothesis =>
    rw [Nat.toDigits_eq_if (by decide)]
    split
    · rename_i small
      exact ⟨_, [], rfl, notZero number small positive⟩
    · obtain ⟨first, more, digits, firstNotZero⟩ :=
        inductionHypothesis (number / 10) (by omega) (by omega)
      exact ⟨first, more ++ [Nat.digitChar (number % 10)], by rw [digits]; rfl, firstNotZero⟩

theorem number_toDigits {whole : Nat} {rest : Bytes} (bounded : whole ≤ significandBound)
    (ends : EndsNumber rest) (negative : Bool) :
    number negative (Text.encodeChars (Nat.toDigits 10 whole) ++ rest) =
      .ok (.ofWhole negative whole, rest) := by
  rcases Nat.eq_zero_or_pos whole with rfl | positive
  · rw [show Nat.toDigits 10 0 = ['0'] from rfl, encodeChars_cons_ascii (by decide),
      Text.encodeChars_nil, List.cons_append, List.nil_append, number, if_pos rfl, ends.1,
      if_neg Bool.false_ne_true, finishWhole_of_endsNumber ends]
  · obtain ⟨first, more, digits, notZero⟩ := toDigits_eq_cons positive
    have value : Nat.ofDigitChars 10 (first :: more) 0 = whole :=
      digits ▸ Nat.ofDigitChars_ten_toDigits
    have digital : ∀ digit ∈ first :: more, digit.isDigit = true := fun digit member =>
      Nat.isDigit_of_mem_toDigits (by decide) (by decide) (digits ▸ member)
    obtain ⟨headDigital, restDigital⟩ := List.forall_mem_cons.mp digital
    obtain ⟨byteDigital, headValue⟩ := isDigit_ascii headDigital
    have headSmall := toNat_lt_of_isDigit headDigital
    have byteNotZero : ascii first ≠ ascii '0' := fun same =>
      notZero (ascii_inj headSmall (by decide) same)
    rw [Nat.ofDigitChars_cons, Nat.mul_zero, Nat.zero_add] at value
    rw [digits, encodeChars_cons_ascii headSmall, List.cons_append, number, if_neg byteNotZero,
      if_pos byteDigital, headValue,
      wholeDigits_encodeChars restDigital ends (by rw [value]; exact bounded), value]

/-- A whole number that fits a machine word, with or without a sign. -/
def FitsWord (value : Int) : Prop :=
  -(Text.signedBound + 1 : Int) ≤ value ∧ value ≤ Text.unsignedBound

instance (value : Int) : Decidable (FitsWord value) :=
  inferInstanceAs (Decidable (_ ∧ _))

theorem value_minus (depth : Nat) (rest : Bytes) :
    value depth (ascii '-' :: rest) =
      (number true rest).map fun (number, rest) => (.num number, rest) := by
  rw [value]
  rfl

theorem ne_of_isDigit {byte known : UInt8} (digital : isDigit byte = true)
    (noDigit : isDigit known = false) : byte ≠ known := by
  rintro rfl
  exact Bool.false_ne_true (noDigit.symm.trans digital)

theorem isSpace_of_isDigit {byte : UInt8} (digital : isDigit byte = true) :
    isSpace byte = false := by
  have other (known : UInt8) (noDigit : isDigit known = false) : ¬ byte = known :=
    ne_of_isDigit digital noDigit
  simp [isSpace, other 0x20 rfl, other 0x0A rfl, other 0x09 rfl, other 0x0D rfl]

theorem value_digit {byte : UInt8} (digital : isDigit byte = true) (depth : Nat) (rest : Bytes) :
    value depth (byte :: rest) =
      (number false (byte :: rest)).map fun (number, rest) => (.num number, rest) := by
  rw [value]
  simp only [skipSpace_cons (isSpace_of_isDigit digital)]
  rw [if_neg (ne_of_isDigit digital rfl), if_neg (ne_of_isDigit digital rfl),
    if_neg (ne_of_isDigit digital rfl), if_neg (ne_of_isDigit digital rfl), if_pos digital]

theorem toList_natural (whole : Nat) : (Text.natural whole).toList = Nat.toDigits 10 whole :=
  String.toList_ofList

theorem encodeChars_toDigits (whole : Nat) :
    ∃ byte more, Text.encodeChars (Nat.toDigits 10 whole) = byte :: more ∧
      isDigit byte = true := by
  have nonempty : Nat.toDigits 10 whole ≠ [] := Nat.toDigits_ne_nil
  obtain ⟨first, more, digits⟩ := List.exists_cons_of_ne_nil nonempty
  have digital : first.isDigit = true :=
    Nat.isDigit_of_mem_toDigits (by decide) (by decide) (digits ▸ List.mem_cons_self)
  rw [digits, encodeChars_cons_ascii (toNat_lt_of_isDigit digital)]
  exact ⟨_, _, rfl, (isDigit_ascii digital).1⟩

theorem bytes_ofNat (whole : Nat) :
    (Json.int (Int.ofNat whole)).bytes = Text.encodeChars (Nat.toDigits 10 whole) := by
  rw [int, bytes, chars, Number.chars, Text.integer, toList_natural]

theorem bytes_negSucc (below : Nat) :
    (Json.int (Int.negSucc below)).bytes =
      ascii '-' :: Text.encodeChars (Nat.toDigits 10 (below + 1)) := by
  rw [int, bytes, chars, Number.chars, Text.integer, String.toList_append, toList_natural]
  exact encodeChars_cons_ascii (by decide) _

/-- The bytes of a whole number start with a sign or a digit. -/
theorem bytes_int_eq_cons (whole : Int) :
    ∃ byte more, (Json.int whole).bytes = byte :: more ∧
      (byte = ascii '-' ∨ isDigit byte = true) := by
  cases whole with
  | ofNat whole =>
    obtain ⟨byte, more, digits, digital⟩ := encodeChars_toDigits whole
    exact ⟨byte, more, by rw [bytes_ofNat, digits], .inr digital⟩
  | negSucc below => exact ⟨_, _, bytes_negSucc below, .inl rfl⟩

/-- A whole number is read back if it fits a word and no byte follows that would extend it. -/
theorem value_int {whole : Int} (fits : FitsWord whole) {rest : Bytes}
    (ends : EndsNumber rest) (depth : Nat) :
    value depth ((Json.int whole).bytes ++ rest) = .ok (.int whole, rest) := by
  obtain ⟨low, high⟩ := fits
  cases whole with
  | ofNat whole =>
    obtain ⟨byte, more, digits, digital⟩ := encodeChars_toDigits whole
    have read := number_toDigits (Int.ofNat_le.mp high) ends false
    rw [digits, List.cons_append] at read
    rw [bytes_ofNat, digits, List.cons_append, value_digit digital, read]
    rfl
  | negSucc below =>
    have bound : below + 1 ≤ Text.signedBound + 1 := by omega
    have read : number true (Text.encodeChars (Nat.toDigits 10 (below + 1)) ++ rest) = _ :=
      number_toDigits (Nat.le_trans bound (by decide)) ends true
    have signed : Number.ofWhole true (below + 1) = .int (Int.negSucc below) := by
      rw [Number.ofWhole, if_pos rfl, if_neg (by omega)]
      rfl
    rw [bytes_negSucc, List.cons_append, value_minus, read, signed]
    rfl

end RippleServer.Json
