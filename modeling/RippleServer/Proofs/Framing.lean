/-
This file describes the framing as a grammar and proves that receiving follows
it. A stream is looked at line by line. Blank lines come first and are passed
over, header lines follow, each of which may give a length, and a blank line
ends them; the body behind it has the length given last. What is received, and
how receiving fails, depends only on where a stream leaves this grammar.
-/

import Mathlib.Data.List.Induction
import RippleServer.Proofs.HeaderLoop

namespace RippleServer.Frame

/-! ### The grammar -/

/-- The input has the headers, behind any number of blank lines, in front of the rest. -/
def Opens (headers : List (List Char)) (input rest : Bytes) : Prop :=
  ∃ blanks : List (List Char),
    (∀ line ∈ blanks, '\n' ∉ line ∧ IsBlank line) ∧
      (∀ line ∈ headers, '\n' ∉ line ∧ IsHeader line) ∧
      input = blanks.flatMap lineBytes ++ (headers.flatMap lineBytes ++ rest)

/-- The input has the headers and the blank line that ends them in front of the rest. -/
def HeaderBlock (headers : List (List Char)) (input rest : Bytes) : Prop :=
  headers ≠ [] ∧ ∃ line closing, IsBlank line ∧ IsLine line closing rest ∧
    Opens headers input (closing ++ rest)

/-- No header gives a length. -/
def NoLength (headers : List (List Char)) : Prop :=
  ∀ line ∈ headers, ∀ value, ¬ LengthLine line value

/-- The last header that gives a length gives this one. -/
def LastLength (headers : List (List Char)) (length : Nat) : Prop :=
  ∃ before line behind value, headers = before ++ line :: behind ∧ LengthLine line value ∧
    Fits value length ∧ NoLength behind

/-- There is nothing but white space. -/
def Silent (input : Bytes) : Prop :=
  ∃ chars, IsBlank chars ∧ input = Text.encodeChars chars

/-- There is a frame with this payload in front of the rest. -/
def Framed (input payload rest : Bytes) : Prop :=
  ∃ headers, HeaderBlock headers input (payload ++ rest) ∧ LastLength headers payload.length

/-- There is no frame, for the reason the error names. -/
def Broken (input : Bytes) : Error → Prop
  | .invalidLength value =>
    ∃ headers line bytes rest, Opens headers input (bytes ++ rest) ∧ IsLine line bytes rest ∧
      LengthLine line value ∧ ∀ length, ¬ Fits value length
  | .missingLength => ∃ headers rest, HeaderBlock headers input rest ∧ NoLength headers
  | .stream .notUtf8 =>
    ∃ headers bytes rest, Opens headers input (bytes ++ rest) ∧ FirstLine bytes rest ∧
      ∀ chars, bytes ≠ Text.encodeChars chars
  | .stream .endInHeaders =>
    ∃ headers, headers ≠ [] ∧ Opens headers input [] ∨
      ∃ line, '\n' ∉ line ∧ IsHeader line ∧ Opens headers input (Text.encodeChars line)
  | .stream .endInBody =>
    ∃ headers rest length, HeaderBlock headers input rest ∧ LastLength headers length ∧
      rest.length < length
  | .stream (.sink _) => False

/-! ### Every stream is in the grammar or leaves it somewhere -/

/-- A stream is divided into the lines of some kind at its front and a rest that does not begin
with one. -/
theorem exists_leadingLines (Kind : List Char → Prop) (input : Bytes) :
    ∃ (lines : List (List Char)) (rest : Bytes), (∀ line ∈ lines, '\n' ∉ line ∧ Kind line) ∧
      input = lines.flatMap lineBytes ++ rest ∧
      ∀ line behind, '\n' ∉ line → Kind line → rest ≠ lineBytes line ++ behind := by
  induction sizeEq : input.length using Nat.strongRecOn generalizing input with
  | ind size inductionHypothesis =>
    by_cases leads : ∃ line behind, '\n' ∉ line ∧ Kind line ∧ input = lineBytes line ++ behind
    · obtain ⟨line, behind, single, kind, rfl⟩ := leads
      have shorter : behind.length < size := by
        rw [← sizeEq, lineBytes_eq]
        simp only [List.length_append, List.length_singleton]
        omega
      obtain ⟨lines, rest, each, whole, maximal⟩ := inductionHypothesis _ shorter behind rfl
      refine ⟨line :: lines, rest, ?_, ?_, maximal⟩
      · exact List.forall_mem_cons.mpr ⟨⟨single, kind⟩, each⟩
      · rw [List.flatMap_cons, List.append_assoc, ← whole]
    · refine ⟨[], input, by simp, rfl, fun line behind single kind same => ?_⟩
      exact leads ⟨line, behind, single, kind, same⟩

/-- Headers the loop gets past give no length, or there is a last one that does. -/
theorem noLength_or_exists_lastLength {headers : List (List Char)}
    (each : ∀ line ∈ headers, IsHeader line) :
    NoLength headers ∨ ∃ length, LastLength headers length := by
  induction headers using List.reverseRecOn with
  | nil => exact .inl nofun
  | append_singleton headers line inductionHypothesis =>
    obtain ⟨eachBefore, isHeader⟩ := List.forall_mem_append.mp each
    by_cases gives : ∃ value, LengthLine line value
    · obtain ⟨value, lengthLine⟩ := gives
      obtain ⟨length, fits⟩ := (isHeader line List.mem_cons_self).2 value lengthLine
      exact .inr ⟨length, headers, line, [], value, rfl, lengthLine, fits, nofun⟩
    · have lineGivesNone : NoLength [line] := by
        intro other member value lengthLine
        rw [List.mem_singleton.mp member] at lengthLine
        exact gives ⟨value, lengthLine⟩
      rcases inductionHypothesis eachBefore with none | ⟨length, before, other, behind, value, rfl,
        lengthLine, fits, none⟩
      · exact .inl (List.forall_mem_append.mpr ⟨none, lineGivesNone⟩)
      · refine .inr ⟨length, before, other, behind ++ [line], value, ?_, lengthLine, fits,
          List.forall_mem_append.mpr ⟨none, lineGivesNone⟩⟩
        rw [List.append_assoc, List.cons_append]

theorem framed_or_broken {headers : List (List Char)} {input rest : Bytes}
    (block : HeaderBlock headers input rest) :
    (∃ payload rest, Framed input payload rest) ∨ ∃ error, Broken input error := by
  have each : ∀ line ∈ headers, IsHeader line := by
    obtain ⟨-, -, -, -, -, blanks, -, each, -⟩ := block
    exact fun line member => (each line member).2
  rcases noLength_or_exists_lastLength each with none | ⟨length, last⟩
  · exact .inr ⟨.missingLength, headers, rest, block, none⟩
  · by_cases whole : length ≤ rest.length
    · refine .inl ⟨rest.take length, rest.drop length, headers, ?_, ?_⟩
      · rw [List.take_append_drop]
        exact block
      · rw [List.length_take, Nat.min_eq_left whole]
        exact last
    · exact .inr ⟨.stream .endInBody, headers, rest, length, block, last, by omega⟩

theorem silent_of_blanks {blanks : List (List Char)} {line : List Char}
    (each : ∀ line ∈ blanks, '\n' ∉ line ∧ IsBlank line) (blank : IsBlank line) :
    Silent (blanks.flatMap lineBytes ++ Text.encodeChars line) := by
  induction blanks with
  | nil => exact ⟨line, blank, rfl⟩
  | cons first blanks inductionHypothesis =>
    obtain ⟨⟨-, firstBlank⟩, others⟩ := List.forall_mem_cons.mp each
    obtain ⟨chars, charsBlank, whole⟩ := inductionHypothesis others
    refine ⟨first ++ ['\n'] ++ chars, ?_, ?_⟩
    · exact List.forall_mem_append.mpr
        ⟨List.forall_mem_append.mpr ⟨firstBlank, isBlank_lineFeed⟩, charsBlank⟩
    · rw [List.flatMap_cons, List.append_assoc, whole, Text.encodeChars_append, lineBytes]

/-- A written line the loop does not get past gives a length that is none. -/
theorem exists_unfit {line : List Char} (written : ¬ IsBlank line) (refused : ¬ IsHeader line) :
    ∃ value, LengthLine line value ∧ ∀ length, ¬ Fits value length := by
  by_contra absent
  refine refused ⟨written, fun value lengthLine => ?_⟩
  by_contra unfit
  exact absent ⟨value, lengthLine, fun length fits => unfit ⟨length, fits⟩⟩

/-- The stream is divided as far as the grammar goes: the blank lines in front, the headers behind
them, and then the first line that is neither decides. -/
theorem silent_or_framed_or_broken (input : Bytes) :
    Silent input ∨ (∃ payload rest, Framed input payload rest) ∨ ∃ error, Broken input error := by
  obtain ⟨blanks, behind, blanksEach, whole, blanksMaximal⟩ := exists_leadingLines IsBlank input
  obtain ⟨headers, rest, headersEach, rfl, headersMaximal⟩ := exists_leadingLines IsHeader behind
  have opens : Opens headers input rest := ⟨blanks, blanksEach, headersEach, whole⟩
  by_cases finished : rest = []
  · subst finished
    by_cases none : headers = []
    · subst none
      have nothing : IsBlank [] := by simp [IsBlank]
      rw [whole]
      exact .inl (silent_of_blanks blanksEach nothing)
    · exact .inr (.inr ⟨.stream .endInHeaders, headers, .inl ⟨none, opens⟩⟩)
  · obtain ⟨bytes, more, rfl, first⟩ := exists_firstLine finished
    by_cases isText : ∃ chars, bytes = Text.encodeChars chars
    · obtain ⟨chars, rfl⟩ := isText
      obtain ⟨line, isLine⟩ := first.exists_isLine
      by_cases blank : IsBlank line
      · by_cases none : headers = []
        · -- A blank line in front of all headers is the unfinished last one.
          subst none
          obtain ⟨single, ended | ⟨same, -, rfl⟩⟩ := isLine
          · exact absurd (congrArg (· ++ more) ended) (blanksMaximal line more single blank)
          · rw [whole, same, List.flatMap_nil, List.nil_append, List.append_nil]
            exact .inl (silent_of_blanks blanksEach blank)
        · exact .inr (framed_or_broken ⟨none, line, _, blank, isLine, opens⟩)
      · by_cases isHeader : IsHeader line
        · -- So is a line that could be one more header.
          obtain ⟨single, ended | ⟨same, -, rfl⟩⟩ := isLine
          · exact absurd (congrArg (· ++ more) ended) (headersMaximal line more single isHeader)
          · rw [same, List.append_nil] at opens
            exact .inr (.inr ⟨.stream .endInHeaders, headers, .inr ⟨line, single, isHeader, opens⟩⟩)
        · obtain ⟨value, lengthLine, unfit⟩ := exists_unfit blank isHeader
          exact .inr (.inr ⟨.invalidLength value, headers, line, _, more, opens, isLine, lengthLine,
            unfit⟩)
    · refine .inr (.inr ⟨.stream .notUtf8, headers, bytes, more, opens, first, ?_⟩)
      exact fun chars same => isText ⟨chars, same⟩

/-! ### The loop follows the grammar -/

theorem headersFrom_blanks {blanks : List (List Char)}
    (each : ∀ line ∈ blanks, '\n' ∉ line ∧ IsBlank line) (length : Option Nat) (rest : Bytes) :
    headersFrom false length (blanks.flatMap lineBytes ++ rest) =
      headersFrom false length rest := by
  induction blanks with
  | nil => rfl
  | cons line blanks inductionHypothesis =>
    obtain ⟨⟨single, blank⟩, others⟩ := List.forall_mem_cons.mp each
    rw [List.flatMap_cons, List.append_assoc, headersFrom_blank ⟨single, .inl rfl⟩ blank,
      if_neg Bool.false_ne_true]
    exact inductionHypothesis others

/-- A header is passed, whatever length the loop holds then. -/
theorem IsHeader.exists_headersFrom {line : List Char} {bytes rest : Bytes}
    (isHeader : IsHeader line) (isLine : IsLine line bytes rest) (inBlock : Bool)
    (length : Option Nat) :
    ∃ length', headersFrom inBlock length (bytes ++ rest) = headersFrom true length' rest := by
  obtain ⟨written, gives⟩ := isHeader
  by_cases named : ∃ value, LengthLine line value
  · obtain ⟨value, lengthLine⟩ := named
    obtain ⟨given, fits⟩ := gives value lengthLine
    exact ⟨some given, headersFrom_length isLine lengthLine fits inBlock length⟩
  · refine ⟨length, headersFrom_plain isLine written (fun value lengthLine => ?_) inBlock length⟩
    exact named ⟨value, lengthLine⟩

theorem exists_headersFrom_headers {headers : List (List Char)}
    (each : ∀ line ∈ headers, '\n' ∉ line ∧ IsHeader line) (inBlock : Bool) (length : Option Nat)
    (rest : Bytes) :
    ∃ length', headersFrom inBlock length (headers.flatMap lineBytes ++ rest) =
      headersFrom (inBlock || !headers.isEmpty) length' rest := by
  induction headers generalizing inBlock length with
  | nil => exact ⟨length, by rw [List.isEmpty_nil, Bool.not_true, Bool.or_false]; rfl⟩
  | cons line headers inductionHypothesis =>
    obtain ⟨⟨single, isHeader⟩, others⟩ := List.forall_mem_cons.mp each
    have isLine : IsLine line (lineBytes line) (headers.flatMap lineBytes ++ rest) :=
      ⟨single, .inl rfl⟩
    obtain ⟨given, passed⟩ := isHeader.exists_headersFrom isLine inBlock length
    rw [List.flatMap_cons, List.append_assoc, List.isEmpty_cons, Bool.not_false, Bool.or_true,
      passed]
    exact inductionHypothesis others true given

theorem headersFrom_noLength {headers : List (List Char)}
    (each : ∀ line ∈ headers, '\n' ∉ line ∧ IsHeader line) (none : NoLength headers)
    (inBlock : Bool) (length : Option Nat) (rest : Bytes) :
    headersFrom inBlock length (headers.flatMap lineBytes ++ rest) =
      headersFrom (inBlock || !headers.isEmpty) length rest := by
  induction headers generalizing inBlock with
  | nil => rw [List.isEmpty_nil, Bool.not_true, Bool.or_false]; rfl
  | cons line headers inductionHypothesis =>
    obtain ⟨⟨single, written, -⟩, others⟩ := List.forall_mem_cons.mp each
    obtain ⟨plain, noneOthers⟩ := List.forall_mem_cons.mp none
    rw [List.flatMap_cons, List.append_assoc, List.isEmpty_cons, Bool.not_false, Bool.or_true,
      headersFrom_plain ⟨single, .inl rfl⟩ written plain]
    exact inductionHypothesis others noneOthers true

/-- Behind the last header that gives a length, the loop holds that length. -/
theorem headersFrom_lastLength {headers : List (List Char)} {given : Nat}
    (each : ∀ line ∈ headers, '\n' ∉ line ∧ IsHeader line) (last : LastLength headers given)
    (inBlock : Bool) (length : Option Nat) (rest : Bytes) :
    headersFrom inBlock length (headers.flatMap lineBytes ++ rest) =
      headersFrom true (some given) rest := by
  obtain ⟨before, line, behind, value, rfl, lengthLine, fits, none⟩ := last
  obtain ⟨eachBefore, eachFrom⟩ := List.forall_mem_append.mp each
  obtain ⟨⟨single, -⟩, eachBehind⟩ := List.forall_mem_cons.mp eachFrom
  rw [List.flatMap_append, List.append_assoc, List.flatMap_cons, List.append_assoc]
  obtain ⟨length', passed⟩ := exists_headersFrom_headers eachBefore inBlock length
    (lineBytes line ++ (behind.flatMap lineBytes ++ rest))
  rw [passed, headersFrom_length ⟨single, .inl rfl⟩ lengthLine fits,
    headersFrom_noLength eachBehind none, Bool.true_or]

theorem Opens.exists_headersFrom {headers : List (List Char)} {input rest : Bytes}
    (opens : Opens headers input rest) :
    ∃ length, headersFrom false none input = headersFrom (!headers.isEmpty) length rest := by
  obtain ⟨blanks, blanksEach, headersEach, rfl⟩ := opens
  rw [headersFrom_blanks blanksEach]
  exact exists_headersFrom_headers headersEach false none rest

theorem HeaderBlock.headersFrom_of_noLength {headers : List (List Char)} {input rest : Bytes}
    (block : HeaderBlock headers input rest) (absent : NoLength headers) :
    headersFrom false none input = (.error .missingLength, rest) := by
  obtain ⟨some, line, closing, blank, isLine, blanks, blanksEach, headersEach, rfl⟩ := block
  rw [headersFrom_blanks blanksEach, headersFrom_noLength headersEach absent,
    List.isEmpty_eq_false_iff.mpr some, headersFrom_blank isLine blank]
  rfl

theorem HeaderBlock.headersFrom_of_lastLength {headers : List (List Char)} {input rest : Bytes}
    {length : Nat} (block : HeaderBlock headers input rest) (last : LastLength headers length) :
    headersFrom false none input = (.ok (some length), rest) := by
  obtain ⟨-, line, closing, blank, isLine, blanks, blanksEach, headersEach, rfl⟩ := block
  rw [headersFrom_blanks blanksEach, headersFrom_lastLength headersEach last,
    headersFrom_blank isLine blank, if_pos rfl]

theorem Silent.headersFrom {input : Bytes} (silent : Silent input) :
    headersFrom false none input = (.ok none, []) := by
  obtain ⟨chars, blank, rfl⟩ := silent
  induction sizeEq : chars.length using Nat.strongRecOn generalizing chars with
  | ind size inductionHypothesis =>
    by_cases present : '\n' ∈ chars
    · obtain ⟨line, behind, rfl, single⟩ := List.eq_append_cons_of_mem present
      obtain ⟨lineBlank, behindBlank⟩ := List.forall_mem_append.mp blank
      have divided : Text.encodeChars (line ++ '\n' :: behind) =
          lineBytes line ++ Text.encodeChars behind := by
        rw [lineBytes, ← Text.encodeChars_append, List.append_assoc]
        rfl
      have shorter : behind.length < size := by
        rw [← sizeEq, List.length_append, List.length_cons]
        omega
      rw [divided, headersFrom_blank ⟨single, .inl rfl⟩ lineBlank, if_neg Bool.false_ne_true]
      exact inductionHypothesis _ shorter behind (List.forall_mem_cons.mp behindBlank).2 rfl
    · by_cases finished : chars = []
      · subst finished
        rfl
      · have isLine : IsLine chars (Text.encodeChars chars) [] :=
          ⟨present, .inr ⟨rfl, finished, rfl⟩⟩
        rw [← List.append_nil (Text.encodeChars chars), headersFrom_blank isLine blank]
        rfl

/-! ### Receiving -/

theorem receive_of_silent {input : Bytes} (silent : Silent input) :
    receive input = (.ok none, []) := by
  rw [receive, show headers input = _ from silent.headersFrom]

theorem receive_of_framed {input payload rest : Bytes} (framed : Framed input payload rest) :
    receive input = (.ok (some payload), rest) := by
  obtain ⟨lines, block, last⟩ := framed
  have enough : payload.length ≤ (payload ++ rest).length := by
    rw [List.length_append]
    exact Nat.le_add_right _ _
  rw [receive, show headers input = _ from block.headersFrom_of_lastLength last]
  simp only [if_pos enough, List.take_left, List.drop_left]

theorem receive_of_broken {input : Bytes} {error : Error} (broken : Broken input error) :
    (receive input).1 = .error error := by
  cases error with
  | invalidLength value =>
    obtain ⟨lines, line, bytes, rest, opens, isLine, lengthLine, unfit⟩ := broken
    obtain ⟨length, passed⟩ := opens.exists_headersFrom
    rw [headersFrom_unfit isLine lengthLine unfit] at passed
    rw [receive, show headers input = _ from passed]
  | missingLength =>
    obtain ⟨lines, rest, block, absent⟩ := broken
    rw [receive, show headers input = _ from block.headersFrom_of_noLength absent]
  | stream fault =>
    cases fault with
    | notUtf8 =>
      obtain ⟨lines, bytes, rest, opens, first, ill⟩ := broken
      obtain ⟨length, passed⟩ := opens.exists_headersFrom
      rw [headersFrom_notUtf8 first ill] at passed
      rw [receive, show headers input = _ from passed]
    | endInHeaders =>
      obtain ⟨lines, ⟨some, opens⟩ | ⟨line, single, isHeader, opens⟩⟩ := broken
      · obtain ⟨length, passed⟩ := opens.exists_headersFrom
        rw [List.isEmpty_eq_false_iff.mpr some, headersFrom_nil] at passed
        rw [receive, show headers input = _ from passed]
        rfl
      · have isLine : IsLine line (Text.encodeChars line) [] :=
          ⟨single, .inr ⟨rfl, fun empty => isHeader.1 (by simp [IsBlank, empty]), rfl⟩⟩
        obtain ⟨length, passed⟩ := opens.exists_headersFrom
        obtain ⟨given, ended⟩ := isHeader.exists_headersFrom isLine (!lines.isEmpty) length
        rw [List.append_nil, ← passed, headersFrom_nil] at ended
        rw [receive, show headers input = _ from ended]
        rfl
    | endInBody =>
      obtain ⟨lines, rest, length, block, last, short⟩ := broken
      rw [receive, show headers input = _ from block.headersFrom_of_lastLength last]
      simp only [if_neg (Nat.not_le.mpr short)]
    | sink reason => exact broken.elim

/-! The three kinds of stream give different results and there is no other kind, so each result
tells the kind. -/

theorem receive_eq_none_iff {input : Bytes} : (receive input).1 = .ok none ↔ Silent input := by
  refine ⟨fun found => ?_, fun silent => by rw [receive_of_silent silent]⟩
  rcases silent_or_framed_or_broken input with silent | ⟨payload, rest, framed⟩ | ⟨error, broken⟩
  · exact silent
  · rw [receive_of_framed framed] at found
    cases found
  · rw [receive_of_broken broken] at found
    cases found

theorem receive_eq_some_iff {input payload rest : Bytes} :
    receive input = (.ok (some payload), rest) ↔ Framed input payload rest := by
  refine ⟨fun found => ?_, receive_of_framed⟩
  rcases silent_or_framed_or_broken input with silent | ⟨payload', rest', framed⟩ | ⟨error, broken⟩
  · rw [receive_of_silent silent] at found
    cases found
  · rw [receive_of_framed framed] at found
    cases found
    exact framed
  · rw [← Prod.eta (receive input), receive_of_broken broken] at found
    cases found

/-- A frame has a header at least, so less is left of the stream behind it. -/
theorem Framed.length_lt {input payload rest : Bytes} (framed : Framed input payload rest) :
    rest.length < input.length := by
  obtain ⟨lines, ⟨some, line, closing, -, -, blanks, -, -, rfl⟩, -⟩ := framed
  cases lines with
  | nil => exact absurd rfl some
  | cons line lines =>
    rw [List.flatMap_cons, lineBytes_eq]
    simp only [List.length_append, List.length_singleton]
    omega

/-- A budget greater than the length of the stream is as good as any other. -/
theorem payloadsUpTo_eq_payloads {budget : Nat} {input : Bytes} (enough : input.length < budget) :
    payloadsUpTo budget input = payloads input := by
  induction budget using Nat.strongRecOn generalizing input with
  | ind budget inductionHypothesis =>
    obtain ⟨fewer, rfl⟩ : ∃ fewer, budget = fewer + 1 := ⟨budget - 1, by omega⟩
    rw [payloads, payloadsUpTo, payloadsUpTo]
    split
    · rfl
    · rfl
    · rename_i payload rest received
      have shorter := (receive_eq_some_iff.mp received).length_lt
      rw [inductionHypothesis fewer (Nat.lt_succ_self fewer) (by omega),
        inductionHypothesis input.length enough shorter]

theorem payloads_of_none {input : Bytes} (silent : (receive input).1 = .ok none) :
    payloads input = ([], .ok ()) := by
  rw [payloads, payloadsUpTo, ← Prod.eta (receive input), silent]

theorem payloads_of_error {input : Bytes} {error : Error}
    (broken : (receive input).1 = .error error) : payloads input = ([], .error error) := by
  rw [payloads, payloadsUpTo, ← Prod.eta (receive input), broken]

theorem payloads_of_some {input payload rest : Bytes}
    (received : receive input = (.ok (some payload), rest)) :
    payloads input = (payload :: (payloads rest).1, (payloads rest).2) := by
  have shorter := (receive_eq_some_iff.mp received).length_lt
  rw [payloads, payloadsUpTo, received]
  simp only [payloadsUpTo_eq_payloads shorter]

end RippleServer.Frame
