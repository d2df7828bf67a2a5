/-
This file follows the loop over the header lines of a frame, one line at a time.
The loop is given a budget, but a budget as great as the stream is long is as
good as any, so it can be left out. What the loop does with a line then depends
on the line alone: a blank one ends the headers or is passed over, one that
gives a length is remembered or refused, and any other is ignored.
-/

import RippleServer.Proofs.Header
import RippleServer.Proofs.Utf8

namespace RippleServer.Frame

/-! ### The lines of a stream -/

/-- The bytes are the first line of a stream, in front of the rest: they go up to the first line
feed, or to the end of the stream if there is none. -/
def FirstLine (bytes rest : Bytes) : Prop :=
  ∃ body : Bytes, 0x0A ∉ body ∧ (bytes = body ++ [0x0A] ∨ bytes = body ∧ body ≠ [] ∧ rest = [])

theorem cutLine_append_lineFeed {body : Bytes} (absent : 0x0A ∉ body) (rest : Bytes) :
    cutLine (body ++ 0x0A :: rest) = (body ++ [0x0A], rest) := by
  induction body with
  | nil => rfl
  | cons byte body inductionHypothesis =>
    rw [List.mem_cons, not_or] at absent
    rw [List.cons_append, cutLine, if_neg (Ne.symm absent.1), inductionHypothesis absent.2]
    rfl

theorem cutLine_of_absent {body : Bytes} (absent : 0x0A ∉ body) : cutLine body = (body, []) := by
  induction body with
  | nil => rfl
  | cons byte body inductionHypothesis =>
    rw [List.mem_cons, not_or] at absent
    rw [cutLine, if_neg (Ne.symm absent.1), inductionHypothesis absent.2]

theorem FirstLine.cutLine {bytes rest : Bytes} (first : FirstLine bytes rest) :
    cutLine (bytes ++ rest) = (bytes, rest) := by
  obtain ⟨body, absent, rfl | ⟨rfl, -, rfl⟩⟩ := first
  · rw [List.append_assoc]
    exact cutLine_append_lineFeed absent rest
  · rw [List.append_nil]
    exact cutLine_of_absent absent

theorem FirstLine.ne_nil {bytes rest : Bytes} (first : FirstLine bytes rest) : bytes ≠ [] := by
  obtain ⟨body, -, rfl | ⟨rfl, some, -⟩⟩ := first
  · exact List.append_ne_nil_of_right_ne_nil _ (List.cons_ne_nil _ _)
  · exact some

/-- A stream that has not ended has a first line. -/
theorem exists_firstLine {input : Bytes} (more : input ≠ []) :
    ∃ bytes rest, input = bytes ++ rest ∧ FirstLine bytes rest := by
  by_cases present : 0x0A ∈ input
  · obtain ⟨body, rest, rfl, absent⟩ := List.eq_append_cons_of_mem present
    exact ⟨body ++ [0x0A], rest, by rw [List.append_assoc]; rfl, body, absent, .inl rfl⟩
  · exact ⟨input, [], (List.append_nil input).symm, input, present, .inr ⟨rfl, more, rfl⟩⟩

/-! ### Lines of text -/

theorem lineFeed_mem_encodeChars {chars : List Char} :
    0x0A ∈ Text.encodeChars chars ↔ '\n' ∈ chars := by
  unfold Text.encodeChars
  rw [List.mem_flatMap]
  constructor
  · rintro ⟨char, member, inside⟩
    have code := Text.toNat_eq_of_mem_utf8EncodeChar (by decide) inside
    have same : char = '\n' := by
      rw [← Char.ofNat_toNat char, code]
      rfl
    exact same ▸ member
  · intro member
    exact ⟨'\n', member, by decide⟩

/-- The bytes of a line and of the line feed that ends it. -/
def lineBytes (line : List Char) : Bytes :=
  Text.encodeChars (line ++ ['\n'])

theorem lineBytes_eq (line : List Char) : lineBytes line = Text.encodeChars line ++ [0x0A] := by
  rw [lineBytes, Text.encodeChars_append]
  rfl

/-- The bytes are those of a line of text in front of the rest: with the line feed that ends it,
or without one where the stream ends. -/
def IsLine (line : List Char) (bytes rest : Bytes) : Prop :=
  '\n' ∉ line ∧
    (bytes = lineBytes line ∨ bytes = Text.encodeChars line ∧ line ≠ [] ∧ rest = [])

theorem encodeChars_eq_nil_iff {chars : List Char} :
    Text.encodeChars chars = [] ↔ chars = [] := by
  cases chars with
  | nil => exact ⟨fun _ => rfl, fun _ => rfl⟩
  | cons char chars =>
    rw [Text.encodeChars_cons]
    exact ⟨fun empty => absurd (List.append_eq_nil_iff.mp empty).1 String.utf8EncodeChar_ne_nil,
      nofun⟩

theorem IsLine.firstLine {line : List Char} {bytes rest : Bytes} (isLine : IsLine line bytes rest) :
    FirstLine bytes rest := by
  obtain ⟨single, bytes | ⟨bytes, some, last⟩⟩ := isLine
  · exact ⟨Text.encodeChars line, fun member => single (lineFeed_mem_encodeChars.mp member),
      .inl (bytes.trans (lineBytes_eq line))⟩
  · exact ⟨Text.encodeChars line, fun member => single (lineFeed_mem_encodeChars.mp member),
      .inr ⟨bytes, fun empty => some (encodeChars_eq_nil_iff.mp empty), last⟩⟩

/-- A first line that is UTF-8 is a line of text. -/
theorem FirstLine.exists_isLine {chars : List Char} {rest : Bytes}
    (first : FirstLine (Text.encodeChars chars) rest) :
    ∃ line, IsLine line (Text.encodeChars chars) rest := by
  obtain ⟨body, absent, ended | ⟨whole, some, last⟩⟩ := first
  · have present : '\n' ∈ chars := by
      rw [← lineFeed_mem_encodeChars, ended]
      exact List.mem_append_right _ (List.mem_singleton.mpr rfl)
    obtain ⟨line, behind, rfl, single⟩ := List.eq_append_cons_of_mem present
    -- Both are divided at their first line feed, and nothing stands behind that of the line.
    have divided : Text.encodeChars (line ++ '\n' :: behind) =
        Text.encodeChars line ++ 0x0A :: Text.encodeChars behind := by
      rw [Text.encodeChars_append, Text.encodeChars_cons]
      rfl
    have cut := cutLine_append_lineFeed
      (fun member => single (lineFeed_mem_encodeChars.mp member)) (Text.encodeChars behind)
    rw [← divided, ended, cutLine_append_lineFeed absent] at cut
    obtain rfl : behind = [] := encodeChars_eq_nil_iff.mp (congrArg Prod.snd cut).symm
    exact ⟨line, single, .inl rfl⟩
  · refine ⟨chars, fun member => ?_, .inr ⟨rfl, ?_, last⟩⟩
    · rw [← whole, lineFeed_mem_encodeChars] at absent
      exact absent member
    · rintro rfl
      exact some (whole.symm.trans Text.encodeChars_nil)

/-! ### One line of the header loop -/

/-- The loop over the header lines, with all the budget it can need. -/
def headersFrom (inBlock : Bool) (length : Option Nat) (input : Bytes) :
    Except Error (Option Nat) × Bytes :=
  readHeaders input.length inBlock length input

/-- What the loop does with the first line of a stream, given how it goes on. -/
def headerStep (inBlock : Bool) (length : Option Nat) (line rest : Bytes)
    (next : Bool → Option Nat → Bytes → Except Error (Option Nat) × Bytes) :
    Except Error (Option Nat) × Bytes :=
  match Text.decode? line with
  | none => (.error (.stream .notUtf8), rest)
  | some text =>
    if Text.trim text = "" then
      if inBlock then
        match length with
        | some length => (.ok (some length), rest)
        | none => (.error .missingLength, rest)
      else next false length rest
    else
      match lengthValue? (Text.trim text) with
      | none => next true length rest
      | some value =>
        match Text.natural? maxLength value with
        | some length => next true (some length) rest
        | none => (.error (.invalidLength value), rest)

theorem readHeaders_append {bytes rest : Bytes} (first : FirstLine bytes rest) (budget : Nat)
    (inBlock : Bool) (length : Option Nat) :
    readHeaders (budget + 1) inBlock length (bytes ++ rest) =
      headerStep inBlock length bytes rest (readHeaders budget) := by
  have cut := first.cutLine
  cases whole : bytes ++ rest with
  | nil => exact absurd (List.append_eq_nil_iff.mp whole).1 first.ne_nil
  | cons byte behind =>
    rw [whole] at cut
    rw [readHeaders, cut]
    · unfold headerStep
      cases decoded : Text.decode? bytes with
      | none => simp only [decoded]
      | some text =>
        cases found : lengthValue? (Text.trim text) with
        | none => cases length <;> simp only [decoded, found]
        | some value =>
          cases read : Text.natural? maxLength value <;> cases length <;>
            simp only [decoded, found, read]
    · exact nofun

theorem headerStep_congr {inBlock : Bool} {length : Option Nat} {line rest : Bytes}
    {next next' : Bool → Option Nat → Bytes → Except Error (Option Nat) × Bytes}
    (same : ∀ inBlock length, next inBlock length rest = next' inBlock length rest) :
    headerStep inBlock length line rest next = headerStep inBlock length line rest next' := by
  unfold headerStep
  simp only [same]

/-- A budget as great as the stream is long is as good as any greater one. -/
theorem readHeaders_eq_headersFrom {budget : Nat} {input : Bytes} (enough : input.length ≤ budget)
    (inBlock : Bool) (length : Option Nat) :
    readHeaders budget inBlock length input = headersFrom inBlock length input := by
  induction budget using Nat.strongRecOn generalizing input inBlock length with
  | ind budget inductionHypothesis =>
    by_cases empty : input = []
    · subst empty
      cases budget <;> rfl
    · obtain ⟨bytes, rest, rfl, first⟩ := exists_firstLine empty
      have positive := List.length_pos_iff.mpr first.ne_nil
      rw [List.length_append] at enough
      obtain ⟨fewer, rfl⟩ : ∃ fewer, budget = fewer + 1 := ⟨budget - 1, by omega⟩
      obtain ⟨least, length_eq⟩ : ∃ least, (bytes ++ rest).length = least + 1 :=
        ⟨(bytes ++ rest).length - 1, by rw [List.length_append]; omega⟩
      rw [headersFrom, length_eq, readHeaders_append first, readHeaders_append first]
      rw [List.length_append] at length_eq
      refine headerStep_congr fun inBlock length => ?_
      rw [inductionHypothesis fewer (by omega) (by omega),
        inductionHypothesis least (by omega) (by omega)]

theorem headersFrom_nil (inBlock : Bool) (length : Option Nat) :
    headersFrom inBlock length [] =
      (if inBlock then .error (.stream .endInHeaders) else .ok none, []) := rfl

theorem headersFrom_append {bytes rest : Bytes} (first : FirstLine bytes rest) (inBlock : Bool)
    (length : Option Nat) :
    headersFrom inBlock length (bytes ++ rest) =
      headerStep inBlock length bytes rest headersFrom := by
  rw [← readHeaders_eq_headersFrom (Nat.le_succ _), readHeaders_append first]
  refine headerStep_congr fun inBlock length => ?_
  exact readHeaders_eq_headersFrom (by rw [List.length_append]; omega) inBlock length

/-! ### Which lines the loop gets past -/

/-- A line of white space, or an empty one. -/
def IsBlank (line : List Char) : Prop :=
  ∀ char ∈ line, Text.isBlank char = true

/-- The value gives a length that is small enough. -/
def Fits (value : String) (length : Nat) : Prop :=
  Text.Numeral value.toList length ∧ length ≤ maxLength

/-- A header line the loop gets past: if it gives a length, it is one. -/
def IsHeader (line : List Char) : Prop :=
  ¬ IsBlank line ∧ ∀ value, LengthLine line value → ∃ length, Fits value length

theorem isBlank_lineFeed : IsBlank ['\n'] :=
  List.forall_mem_singleton.mpr rfl

theorem trim_eq_empty_iff {line : List Char} :
    String.ofList (Text.trimChars line) = "" ↔ IsBlank line :=
  String.ofList_eq_empty_iff.trans Text.trimChars_eq_nil_iff

/-- A colon is not blank, so a line that gives a length is none of the blank ones. -/
theorem LengthLine.not_isBlank {line : List Char} {value : String}
    (lengthLine : LengthLine line value) : ¬ IsBlank line := by
  obtain ⟨name, behind, rfl, -⟩ := lengthLine
  intro blank
  exact absurd (blank ':' (List.mem_append_right _ List.mem_cons_self)) (by decide)

theorem IsLine.exists_decode? {line : List Char} {bytes rest : Bytes}
    (isLine : IsLine line bytes rest) :
    ∃ text, Text.decode? bytes = some text ∧
      Text.trim text = String.ofList (Text.trimChars line) := by
  obtain ⟨-, rfl | ⟨rfl, -, -⟩⟩ := isLine
  · refine ⟨String.ofList (line ++ ['\n']), ?_, ?_⟩
    · rw [Text.decode?_eq_some_iff, Text.encode, String.toList_ofList]
      rfl
    · rw [Text.trim_ofList, Text.trimChars_append_right isBlank_lineFeed]
  · refine ⟨String.ofList line, ?_, Text.trim_ofList line⟩
    rw [Text.decode?_eq_some_iff, Text.encode, String.toList_ofList]

section Steps

variable {line : List Char} {bytes rest : Bytes} (isLine : IsLine line bytes rest)

include isLine

theorem headersFrom_blank (blank : IsBlank line) (inBlock : Bool) (length : Option Nat) :
    headersFrom inBlock length (bytes ++ rest) =
      if inBlock then
        (match length with
          | some length => .ok (some length)
          | none => .error .missingLength, rest)
      else headersFrom false length rest := by
  obtain ⟨text, read, trimmed⟩ := isLine.exists_decode?
  rw [headersFrom_append isLine.firstLine]
  unfold headerStep
  simp only [read, trimmed, trim_eq_empty_iff.mpr blank, if_true]
  cases length <;> rfl

theorem headersFrom_written (written : ¬ IsBlank line) (inBlock : Bool) (length : Option Nat) :
    headersFrom inBlock length (bytes ++ rest) =
      match lengthValue? (String.ofList (Text.trimChars line)) with
      | none => headersFrom true length rest
      | some value =>
        match Text.natural? maxLength value with
        | some length => headersFrom true (some length) rest
        | none => (.error (.invalidLength value), rest) := by
  obtain ⟨text, read, trimmed⟩ := isLine.exists_decode?
  rw [headersFrom_append isLine.firstLine]
  unfold headerStep
  simp only [read, trimmed, mt trim_eq_empty_iff.mp written, if_false]

theorem headersFrom_plain (written : ¬ IsBlank line)
    (plain : ∀ value, ¬ LengthLine line value) (inBlock : Bool) (length : Option Nat) :
    headersFrom inBlock length (bytes ++ rest) = headersFrom true length rest := by
  have absent : lengthValue? (String.ofList (Text.trimChars line)) = none := by
    refine Option.eq_none_iff_forall_ne_some.mpr fun value given => ?_
    exact plain value (lengthLine_trimChars_iff.mp (lengthValue?_eq_some_iff.mp given))
  rw [headersFrom_written isLine written, absent]

theorem headersFrom_length {value : String} {given : Nat} (lengthLine : LengthLine line value)
    (fits : Fits value given) (inBlock : Bool) (length : Option Nat) :
    headersFrom inBlock length (bytes ++ rest) = headersFrom true (some given) rest := by
  have found := lengthValue?_eq_some_iff.mpr (lengthLine_trimChars_iff.mpr lengthLine)
  rw [headersFrom_written isLine lengthLine.not_isBlank, found]
  simp only [Text.natural?_eq_some_iff.mpr fits]

theorem headersFrom_unfit {value : String} (lengthLine : LengthLine line value)
    (unfit : ∀ length, ¬ Fits value length) (inBlock : Bool) (length : Option Nat) :
    headersFrom inBlock length (bytes ++ rest) = (.error (.invalidLength value), rest) := by
  have found := lengthValue?_eq_some_iff.mpr (lengthLine_trimChars_iff.mpr lengthLine)
  have refused : Text.natural? maxLength value = none := by
    refine Option.eq_none_iff_forall_ne_some.mpr fun length read => ?_
    exact unfit length (Text.natural?_eq_some_iff.mp read)
  rw [headersFrom_written isLine lengthLine.not_isBlank, found]
  simp only [refused]

end Steps

theorem headersFrom_notUtf8 {bytes rest : Bytes} (first : FirstLine bytes rest)
    (ill : ∀ chars, bytes ≠ Text.encodeChars chars) (inBlock : Bool) (length : Option Nat) :
    headersFrom inBlock length (bytes ++ rest) = (.error (.stream .notUtf8), rest) := by
  have unread : Text.decode? bytes = none := by
    refine Option.eq_none_iff_forall_ne_some.mpr fun text read => ?_
    exact ill text.toList (Text.decode?_eq_some_iff.mp read).symm
  rw [headersFrom_append first]
  unfold headerStep
  simp only [unread]

end RippleServer.Frame
