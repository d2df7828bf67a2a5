/-
This file proves that passing over a value ends where reading it ends. Less is
asked of a value that nobody wants than of one that is read, so whatever has a
tree can be passed over. Reading goes down into containers and comes back,
whereas passing over keeps a list of the containers that are open, and the two
are compared value by value: behind each value, the containers that were open
before it are still the ones to be closed.
-/

import RippleServer.Proofs.JsonTree

namespace RippleServer.Json

/-! ### Strings -/

theorem skipString_letter {letter : UInt8} (notUnicode : letter ≠ ascii 'u')
    (known : (Text.encode "\"\\/bfnrt").contains letter = true) (rest : Bytes) :
    skipString (ascii '\\' :: letter :: rest) = skipString rest := by
  rw [skipString.eq_def]
  simp only [if_neg notUnicode, if_pos known]
  rfl

theorem skipString_hexEscape {input rest : Bytes} {unit : Nat}
    (read : hexEscape input = .ok (unit, rest)) :
    skipString (ascii '\\' :: ascii 'u' :: input) = skipString rest := by
  unfold hexEscape at read
  split at read
  · rename_i first second third fourth behind
    split at read
    · rename_i firstHex secondHex thirdHex fourthHex
      cases read
      have digits : ([first, second, third, fourth].all fun digit =>
          (hexValue? digit).isSome) = true := by
        simp [firstHex, secondHex, thirdHex, fourthHex]
      rw [skipString.eq_def]
      simp only [digits, if_true]
      rfl
    · cases read
  · cases read

theorem skipString_lowSurrogate {high : Nat} {input rest : Bytes} {char : Char}
    (read : lowSurrogate high input = .ok (char, rest)) : skipString input = skipString rest := by
  unfold lowSurrogate at read
  split at read
  · cases read
  · split_ifs at read with backslash
    split at read
    · cases read
    · split_ifs at read with letter
      obtain ⟨⟨low, behind⟩, digits, read⟩ := bind_eq_ok_iff.mp read
      rw [not_not] at backslash letter
      rw [backslash, letter, skipString_hexEscape digits]
      dsimp only at read
      split at read
      · rw [(Prod.mk.inj (Except.ok.inj read)).2]
      · cases read

theorem skipString_unicodeEscape {input rest : Bytes} {char : Char}
    (read : unicodeEscape input = .ok (char, rest)) :
    skipString (ascii '\\' :: ascii 'u' :: input) = skipString rest := by
  obtain ⟨⟨unit, behind⟩, digits, read⟩ := bind_eq_ok_iff.mp read
  rw [skipString_hexEscape digits]
  dsimp only at read
  split at read
  · cases read
  · split at read
    · exact skipString_lowSurrogate read
    · cases read
      rfl

/-- An escape is spelled by its number or by one of eight letters. -/
theorem escape_cases {letter : UInt8} {more rest : Bytes} {char : Char}
    (read : escape (letter :: more) = .ok (char, rest)) :
    letter = ascii 'u' ∧ unicodeEscape more = .ok (char, rest) ∨
      letter ≠ ascii 'u' ∧ (Text.encode "\"\\/bfnrt").contains letter = true ∧ rest = more := by
  by_cases unicode : letter = ascii 'u'
  · subst unicode
    exact .inl ⟨rfl, read⟩
  · rw [escape] at read
    split_ifs at read
    all_goals
      cases read
      subst letter
      exact .inr ⟨unicode, by decide +kernel, rfl⟩

theorem skipString_escape {input rest : Bytes} {char : Char}
    (read : escape input = .ok (char, rest)) :
    skipString (ascii '\\' :: input) = skipString rest := by
  cases input with
  | nil => cases read
  | cons letter more =>
    obtain ⟨rfl, spelled⟩ | ⟨notUnicode, known, rfl⟩ := escape_cases read
    · exact skipString_unicodeEscape spelled
    · exact skipString_letter notUnicode known rest

theorem skipString_of_stringBytes {budget : Nat} {done input bytes rest : Bytes}
    (read : stringBytes budget done input = .ok (bytes, rest)) : skipString input = .ok rest := by
  induction budget generalizing done input with
  | zero => cases input <;> cases read
  | succ budget inductionHypothesis =>
    cases input with
    | nil => cases read
    | cons byte more =>
      rw [stringBytes] at read
      split_ifs at read with quote backslash control
      · cases read
        rw [skipString.eq_def]
        simp only [quote, if_true]
      · obtain ⟨⟨char, behind⟩, escaped, read⟩ := bind_eq_ok_iff.mp read
        rw [backslash, skipString_escape escaped]
        exact inductionHypothesis read
      · rw [skipString.eq_def]
        simp only [if_neg quote, if_neg control, if_neg backslash]
        exact inductionHypothesis read

theorem skipString_of_string {input rest : Bytes} {text : String}
    (read : string input = .ok (text, rest)) : skipString input = .ok rest := by
  obtain ⟨⟨bytes, behind⟩, spelled, read⟩ := bind_eq_ok_iff.mp read
  dsimp only at read
  split at read
  · cases read
    exact skipString_of_stringBytes spelled
  · cases read

theorem length_lt_of_skipString {input rest : Bytes} (skipped : skipString input = .ok rest) :
    rest.length < input.length := by
  fun_induction skipString input with
  | case2 more =>
    cases skipped
    exact Nat.lt_succ_self _
  | case5 _ _ _ _ more _ _ _ inductionHypothesis =>
    exact Nat.lt_add_right 6 (inductionHypothesis skipped)
  | case8 letter more _ _ _ _ inductionHypothesis =>
    exact Nat.lt_add_right 2 (inductionHypothesis skipped)
  | case10 byte more _ _ _ inductionHypothesis =>
    exact Nat.lt_succ_of_lt (inductionHypothesis skipped)
  | _ => cases skipped

/-! ### Numbers -/

theorem eq_of_scaled {negative : Bool} {significand : Nat} {exponent : Int} {input rest : Bytes}
    {found : Number} (read : scaled negative significand exponent input = .ok (found, rest)) :
    rest = input := by
  unfold scaled at read
  split at read <;> cases read
  rfl

theorem eq_of_exponentDigits {negative down : Bool} {significand exponent : Nat} {start : Int}
    {input rest : Bytes} {found : Number}
    (read : exponentDigits negative down significand start exponent input = .ok (found, rest)) :
    rest = input.dropWhile isDigit := by
  fun_induction exponentDigits negative down significand start exponent input with
  | case1 exponent => exact eq_of_scaled read
  | case2 exponent byte more digital fits inductionHypothesis =>
    rw [List.dropWhile_cons_of_pos digital]
    exact inductionHypothesis read
  | case3 => cases read
  | case4 exponent byte more digital =>
    cases read
    rw [List.dropWhile_cons_of_pos digital]
  | case5 exponent byte more notDigit =>
    rw [List.dropWhile_cons_of_neg notDigit]
    exact eq_of_scaled read

theorem skipExponent_of_exponentPart {negative : Bool} {significand : Nat} {start : Int}
    {input rest : Bytes} {found : Number}
    (read : exponentPart negative significand start input = .ok (found, rest)) :
    skipExponent input = .ok rest := by
  unfold exponentPart at read
  unfold skipExponent
  simp only at read ⊢
  -- Both look at the digits behind a sign that may be missing.
  generalize (if (decide (input.head? = some (ascii '-')) ||
    decide (input.head? = some (ascii '+'))) = true then input.drop 1 else input) = digits at read ⊢
  cases digits with
  | nil => cases read
  | cons byte more =>
    dsimp only at read ⊢
    split_ifs at read with digital
    rw [if_pos digital, eq_of_exponentDigits read]

theorem skipScale_of_finishFraction {negative : Bool} {significand : Nat} {exponent : Int}
    {input rest : Bytes} {found : Number}
    (read : finishFraction negative significand exponent input = .ok (found, rest)) :
    skipScale input = .ok rest := by
  rw [finishFraction] at read
  rw [skipScale]
  split_ifs at read ⊢ with exponent
  · exact skipExponent_of_exponentPart read
  · rw [eq_of_scaled read]

theorem skipScale_of_fractionDigits {negative anyDigit : Bool} {significand : Nat} {exponent : Int}
    {input rest : Bytes} {found : Number}
    (read : fractionDigits negative significand exponent anyDigit input = .ok (found, rest)) :
    (anyDigit = true ∨ input.head?.any isDigit = true) ∧
      skipScale (input.dropWhile isDigit) = .ok rest := by
  fun_induction fractionDigits negative significand exponent anyDigit input with
  | case1 =>
    rw [eq_of_scaled read]
    exact ⟨.inl rfl, rfl⟩
  | case2 => cases read
  | case3 _ _ _ byte more digital fits inductionHypothesis =>
    rw [List.dropWhile_cons_of_pos digital]
    exact ⟨.inr digital, (inductionHypothesis read).2⟩
  | case4 _ _ _ byte more digital =>
    rw [List.dropWhile_cons_of_pos digital]
    exact ⟨.inr digital, skipScale_of_finishFraction read⟩
  | case5 _ _ byte more notDigit =>
    rw [List.dropWhile_cons_of_neg notDigit]
    exact ⟨.inl rfl, skipScale_of_finishFraction read⟩
  | case6 => cases read

theorem skipFraction_of_finishLong {negative : Bool} {significand exponent : Nat}
    {input rest : Bytes} {found : Number}
    (read : finishLong negative significand exponent input = .ok (found, rest)) :
    skipFraction input = .ok rest := by
  rw [finishLong] at read
  rw [skipFraction]
  split_ifs at read ⊢
  · obtain ⟨digital, scale⟩ := skipScale_of_fractionDigits read
    simp only [digital.resolve_left Bool.false_ne_true, if_true, scale]
  · exact skipScale_of_finishFraction read

theorem skipFraction_of_finishWhole {negative : Bool} {significand : Nat} {input rest : Bytes}
    {found : Number} (read : finishWhole negative significand input = .ok (found, rest)) :
    skipFraction input = .ok rest := by
  rw [finishWhole] at read
  split_ifs at read with long
  · exact skipFraction_of_finishLong read
  · cases read
    simp only [Bool.or_eq_true, not_or, decide_eq_true_eq] at long
    rw [skipFraction, if_neg long.1, skipScale, if_neg long.2]

theorem skipFraction_of_wholeDigits {negative : Bool} {significand : Nat} {input rest : Bytes}
    {found : Number} (read : wholeDigits negative significand input = .ok (found, rest)) :
    skipFraction (input.dropWhile isDigit) = .ok rest := by
  fun_induction wholeDigits negative significand input with
  | case1 => exact skipFraction_of_finishWhole read
  | case2 _ byte more digital fits inductionHypothesis =>
    rw [List.dropWhile_cons_of_pos digital]
    exact inductionHypothesis read
  | case3 _ byte more digital =>
    rw [List.dropWhile_cons_of_pos digital]
    exact skipFraction_of_finishLong read
  | case4 _ byte more notDigit =>
    rw [List.dropWhile_cons_of_neg notDigit]
    exact skipFraction_of_finishWhole read

theorem skipNumber_of_number {negative : Bool} {input rest : Bytes} {found : Number}
    (read : number negative input = .ok (found, rest)) : skipNumber input = .ok rest := by
  cases input with
  | nil => cases read
  | cons byte more =>
    rw [number] at read
    rw [skipNumber]
    split_ifs at read ⊢
    · exact skipFraction_of_finishWhole read
    · exact skipFraction_of_wholeDigits read

theorem length_dropWhile_le (input : Bytes) : (input.dropWhile isDigit).length ≤ input.length :=
  (List.dropWhile_sublist isDigit).length_le

theorem length_le_of_skipScale {input rest : Bytes} (skipped : skipScale input = .ok rest) :
    rest.length ≤ input.length := by
  rw [skipScale] at skipped
  split_ifs at skipped
  · unfold skipExponent at skipped
    simp only at skipped
    split at skipped
    · cases skipped
    · rename_i byte more opened
      split_ifs at skipped
      cases skipped
      have shorter := length_dropWhile_le more
      have signed := congrArg List.length opened
      split_ifs at signed <;> simp only [List.length_drop, List.length_cons] at signed <;> omega
  · cases skipped
    exact Nat.le_refl _

theorem length_le_of_skipFraction {input rest : Bytes} (skipped : skipFraction input = .ok rest) :
    rest.length ≤ input.length := by
  rw [skipFraction] at skipped
  split_ifs at skipped
  · simp only at skipped
    split_ifs at skipped
    have scale := length_le_of_skipScale skipped
    have digits := length_dropWhile_le (input.drop 1)
    rw [List.length_drop] at digits
    omega
  · exact length_le_of_skipScale skipped

theorem length_lt_of_skipNumber {input rest : Bytes} (skipped : skipNumber input = .ok rest) :
    rest.length < input.length := by
  cases input with
  | nil => cases skipped
  | cons byte more =>
    rw [skipNumber] at skipped
    rw [List.length_cons, Nat.lt_succ_iff]
    split_ifs at skipped
    · exact length_le_of_skipFraction skipped
    · exact Nat.le_trans (length_le_of_skipFraction skipped) (length_dropWhile_le more)

/-! ### Scalars -/

theorem length_le_of_literal {word input rest : Bytes} (read : literal word input = .ok rest) :
    rest.length ≤ input.length := by
  fun_induction literal word input with
  | case1 input =>
    cases read
    exact Nat.le_refl _
  | case3 wanted more behind inductionHypothesis =>
    exact Nat.le_succ_of_le (inductionHypothesis read)
  | _ => cases read

/-- A scalar is passed over up to where reading it ends. -/
theorem Scalar.skipStart {input rest : Bytes} {found : Json} (scalar : Scalar input found rest)
    (frames : List Frame) :
    rest.length < input.length ∧ Json.skipStart frames input = skipEnds frames true rest := by
  cases scalar with
  | null read =>
    refine ⟨Nat.lt_succ_of_le (length_le_of_literal read), ?_⟩
    rw [Json.skipStart, skipSpace_cons rfl]
    simp only [read]
    rfl
  | yes read =>
    refine ⟨Nat.lt_succ_of_le (length_le_of_literal read), ?_⟩
    rw [Json.skipStart, skipSpace_cons rfl]
    simp only [read]
    rfl
  | no read =>
    refine ⟨Nat.lt_succ_of_le (length_le_of_literal read), ?_⟩
    rw [Json.skipStart, skipSpace_cons rfl]
    simp only [read]
    rfl
  | negative read =>
    have skipped := skipNumber_of_number read
    refine ⟨Nat.lt_succ_of_lt (length_lt_of_skipNumber skipped), ?_⟩
    rw [Json.skipStart, skipSpace_cons rfl]
    simp only [skipped]
    rfl
  | @digits byte _ _ _ digital read =>
    have skipped := skipNumber_of_number read
    refine ⟨length_lt_of_skipNumber skipped, ?_⟩
    have notNull : byte ≠ ascii 'n' := ne_of_isDigit digital rfl
    have notTrue : byte ≠ ascii 't' := ne_of_isDigit digital rfl
    have notFalse : byte ≠ ascii 'f' := ne_of_isDigit digital rfl
    have notNegative : byte ≠ ascii '-' := ne_of_isDigit digital rfl
    rw [Json.skipStart, skipSpace_cons (isSpace_of_isDigit digital)]
    simp only [if_neg notNull, if_neg notTrue, if_neg notFalse, if_neg notNegative,
      if_pos digital, skipped]
    rfl
  | str read =>
    have skipped := skipString_of_string read
    refine ⟨Nat.lt_succ_of_lt (length_lt_of_skipString skipped), ?_⟩
    rw [Json.skipStart, skipSpace_cons rfl]
    simp only [skipped]
    rfl

/-! ### Containers -/

/-- Goes on behind a value, or behind the opening of a container: closes what ends there and passes
over the values that follow until no container is open. -/
def skipOn (budget : Nat) (frames : List Frame) (behindValue : Bool) (input : Bytes) :
    Reading Bytes := do
  let (open?, rest) ← skipEnds frames behindValue input
  match open? with
  | none => .ok rest
  | some frames => skipValues budget frames rest

/-- Passing over values gets from the one place to the other, which is behind the next value, with
the same containers open and with budget enough for what is left. -/
def Passes (input rest : Bytes) : Prop :=
  rest.length < input.length ∧
    ∀ frames budget, input.length < budget →
      ∃ left, rest.length < left ∧ skipValues budget frames input = skipOn left frames true rest

theorem skipStart_skipSpace (frames : List Frame) (input : Bytes) :
    skipStart frames (skipSpace input) = skipStart frames input := by
  rw [skipStart, skipStart, skipSpace_skipSpace]

theorem length_skipSpace_le (input : Bytes) : (skipSpace input).length ≤ input.length :=
  (List.dropWhile_sublist isSpace).length_le

theorem Passes.of_skipSpace {input rest : Bytes} (passes : Passes (skipSpace input) rest) :
    Passes input rest := by
  obtain ⟨shorter, goesOn⟩ := passes
  have blanks := length_skipSpace_le input
  refine ⟨Nat.lt_of_lt_of_le shorter blanks, fun frames budget enough => ?_⟩
  obtain ⟨left, leftEnough, skipped⟩ := goesOn frames budget (Nat.lt_of_le_of_lt blanks enough)
  refine ⟨left, leftEnough, skipped ▸ ?_⟩
  cases budget with
  | zero => exact absurd enough (Nat.not_lt_zero _)
  | succ budget => rw [skipValues, skipValues, skipStart_skipSpace]

theorem passes_of_skipStart {input rest : Bytes} (shorter : rest.length < input.length)
    (skipped : ∀ frames, skipStart frames input = skipEnds frames true rest) :
    Passes input rest := by
  refine ⟨shorter, fun frames budget enough => ?_⟩
  obtain ⟨left, rfl⟩ := Nat.exists_eq_add_of_le' (Nat.succ_le_of_lt (Nat.zero_lt_of_lt enough))
  refine ⟨left, by omega, ?_⟩
  rw [skipValues, skipped]
  rfl

/-- From the inside of an open container, passing over values gets behind the end of it, with the
containers around it still open. -/
def Leaves (frame : Frame) (first : Bool) (input rest : Bytes) : Prop :=
  rest.length < input.length ∧
    ∀ frames budget, input.length < budget →
      ∃ left, rest.length < left ∧
        skipOn budget (frame :: frames) (!first) input = skipOn left frames true rest

theorem leaves_of_closing {frame : Frame} {first : Bool} {input rest : Bytes}
    (closing : skipSpace input = frame.closing :: rest) : Leaves frame first input rest := by
  have blanks := length_skipSpace_le input
  rw [closing, List.length_cons] at blanks
  refine ⟨by omega, fun frames budget enough => ⟨budget, by omega, ?_⟩⟩
  rw [skipOn, skipEnds, closing]
  simp only [if_true]
  rfl

/-- One value of a container is passed over, and then the others. -/
theorem Leaves.of_next {frame : Frame} {first : Bool} {input start behind rest : Bytes}
    (shorter : start.length ≤ input.length)
    (opened : ∀ frames, skipEnds (frame :: frames) (!first) input =
      .ok (some (frame :: frames), start))
    (passes : Passes start behind) (leaves : Leaves frame false behind rest) :
    Leaves frame first input rest := by
  obtain ⟨valueShorter, valuePasses⟩ := passes
  obtain ⟨othersShorter, othersPass⟩ := leaves
  refine ⟨by omega, fun frames budget enough => ?_⟩
  -- What the value leaves of the budget is enough for the others, as less is left of the text.
  obtain ⟨middle, middleEnough, valueSkipped⟩ := valuePasses (frame :: frames) budget (by omega)
  obtain ⟨left, leftEnough, othersSkipped⟩ := othersPass frames middle middleEnough
  refine ⟨left, leftEnough, ?_⟩
  rw [← othersSkipped, Bool.not_false, ← valueSkipped, skipOn, opened]
  rfl

/-- A list whose items can be passed over is left behind its last item. -/
theorem Items.leaves {read : Bytes → Reading (Json × Bytes)}
    (passes : ∀ {input found rest}, read input = .ok (found, rest) → Passes input rest)
    {first : Bool} {input rest : Bytes} {items : List Json}
    (listed : Items read first input items rest) : Leaves .list first input rest := by
  induction listed with
  | done ends =>
    cases nextItem_cases ends with
    | ends closing => exact leaves_of_closing closing
  | @next _ input _ _ _ _ _ more found others inductionHypothesis =>
    have blanks := length_skipSpace_le input
    cases nextItem_cases more with
    | first start goesOn =>
      rw [start] at blanks
      refine .of_next blanks (fun frames => ?_) (passes found) inductionHypothesis
      rw [skipEnds, start]
      exact if_neg goesOn
    | @later rest comma =>
      rw [comma, List.length_cons] at blanks
      refine .of_next (Nat.le_of_succ_le blanks) (fun frames => ?_) (passes found).of_skipSpace
        inductionHypothesis
      rw [skipEnds, comma]
      rfl

theorem length_lt_of_colon {input rest : Bytes} (divided : colon input = .ok rest) :
    rest.length < input.length := by
  have blanks := length_skipSpace_le input
  rw [colon] at divided
  split at divided
  · cases divided
  · rename_i byte more opened
    split_ifs at divided
    cases divided
    rw [opened, List.length_cons] at blanks
    exact blanks

theorem skipKey_object {input body named start : Bytes} {key : String}
    (quote : skipSpace input = ascii '"' :: body) (read : string body = .ok (key, named))
    (divided : colon named = .ok start) :
    start.length ≤ input.length ∧ skipKey .object input = .ok start := by
  have skipped := skipString_of_string read
  refine ⟨?_, ?_⟩
  · have blanks := length_skipSpace_le input
    have text := length_lt_of_skipString skipped
    have behind := length_lt_of_colon divided
    rw [quote, List.length_cons] at blanks
    omega
  · simp only [skipKey, quote, if_true, skipped]
    exact divided

/-- An object whose values can be passed over is left behind its last member. -/
theorem Members.leaves {read : Bytes → Reading (Json × Bytes)}
    (passes : ∀ {input found rest}, read input = .ok (found, rest) → Passes input rest)
    {first : Bool} {input rest : Bytes} {members : List (String × Json)}
    (listed : Members read first input members rest) : Leaves .object first input rest := by
  induction listed with
  | done ends =>
    cases nextKey_cases ends with
    | ends closing => exact leaves_of_closing closing
  | @next _ input _ _ _ _ _ _ _ more divided found others inductionHypothesis =>
    have blanks := length_skipSpace_le input
    cases nextKey_cases more with
    | first quote read =>
      obtain ⟨shorter, skipped⟩ := skipKey_object ((skipSpace_skipSpace input).trans quote) read
        divided
      refine .of_next (Nat.le_trans shorter blanks) (fun frames => ?_) (passes found)
        inductionHypothesis
      rw [quote] at skipped
      rw [skipEnds, quote]
      simp only [skipped]
      rfl
    | later comma quote read =>
      obtain ⟨shorter, skipped⟩ := skipKey_object quote read divided
      rw [comma, List.length_cons] at blanks
      refine .of_next (by omega) (fun frames => ?_) (passes found) inductionHypothesis
      rw [skipEnds, comma]
      simp only [skipped]
      rfl

theorem passes_of_leaves {frame : Frame} {byte : UInt8} {body rest : Bytes}
    (opens : ∀ frames, skipStart frames (byte :: body) = skipEnds (frame :: frames) false body)
    (leaves : Leaves frame true body rest) : Passes (byte :: body) rest := by
  obtain ⟨shorter, goesOn⟩ := leaves
  refine ⟨Nat.lt_succ_of_lt shorter, fun frames budget enough => ?_⟩
  rw [List.length_cons] at enough
  obtain ⟨budget, rfl⟩ := Nat.exists_eq_add_of_le' (Nat.succ_le_of_lt (Nat.zero_lt_of_lt enough))
  obtain ⟨left, leftEnough, skipped⟩ := goesOn frames budget (by omega)
  refine ⟨left, leftEnough, ?_⟩
  rw [← skipped, skipValues, opens]
  rfl

/-! ### Values -/

theorem Spelled.passes {depth : Nat} {input rest : Bytes} {found : Json}
    (inner : ∀ {level}, depth = level + 1 → ∀ {input found rest},
      tree level input = .ok (found, rest) → Passes input rest)
    (spelled : Spelled depth input found rest) : Passes input rest := by
  cases spelled with
  | scalar scalar =>
    exact passes_of_skipStart (scalar.skipStart []).1 fun frames => (scalar.skipStart frames).2
  | list listed => exact passes_of_leaves (fun _ => rfl) (listed.leaves (inner rfl))
  | object listed => exact passes_of_leaves (fun _ => rfl) (listed.leaves (inner rfl))

theorem passes_of_tree {depth : Nat} {input rest : Bytes} {found : Json}
    (read : tree depth input = .ok (found, rest)) : Passes input rest := by
  -- The items of a container are read one level below it, so the recursion is on the depth.
  refine .of_skipSpace ((spelled_of_tree read).passes ?_)
  rintro level rfl input found rest read
  exact passes_of_tree read

/-- Whatever has a tree is passed over, up to where reading it ends. -/
theorem skipValue_of_tree {depth : Nat} {input rest : Bytes} {found : Json}
    (read : tree depth input = .ok (found, rest)) : skipValue input = .ok rest := by
  obtain ⟨-, goesOn⟩ := passes_of_tree read
  obtain ⟨left, -, skipped⟩ := goesOn [] (input.length + 1) (Nat.lt_succ_self _)
  rw [skipValue, skipped]
  rfl

end RippleServer.Json
