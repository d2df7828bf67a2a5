/-
This file proves that reading UTF-8 undoes writing it, and accepts nothing else:
bytes are read as a text exactly if they are the bytes of that text. The step
from one sequence to many bytes is the same in both directions, because a
sequence is taken from the front without looking at what stands behind it.
-/

import RippleServer.Text.Utf8

namespace RippleServer.Text

/-! ### One sequence -/

theorem toNat_ofNat_of_lt {number : Nat} (small : number < 256) :
    (UInt8.ofNat number).toNat = number := by
  rw [UInt8.toNat_ofNat', Nat.mod_eq_of_lt small]

theorem eq_ofNat_of_toNat_eq {byte : UInt8} {number : Nat} (value : byte.toNat = number) :
    byte = UInt8.ofNat number := by
  rw [← value, UInt8.ofNat_toNat]

theorem continuation?_eq_some_iff {byte : UInt8} {low : Nat} :
    continuation? byte = some low ↔ low < 64 ∧ byte.toNat = low + 0x80 := by
  unfold continuation?
  simp only [UInt8.le_iff_toNat_le, UInt8.lt_iff_toNat_lt, UInt8.reduceToNat]
  split
  · simp only [Option.some.injEq]
    omega
  · simp only [reduceCtorEq, false_iff]
    omega

theorem continuation?_ofNat {low : Nat} (small : low < 64) :
    continuation? (UInt8.ofNat (low + 0x80)) = some low :=
  continuation?_eq_some_iff.mpr ⟨small, toNat_ofNat_of_lt (by omega)⟩

theorem toNat_lt (char : Char) : char.toNat < 0x110000 := by
  rcases char.valid with below | above
  · exact Nat.lt_trans below (by decide)
  · exact above.2

theorem toNat_ofNat_of_isValidChar {value : Nat} (valid : value.isValidChar) :
    (Char.ofNat value).toNat = value := by
  rw [Char.ofNat, dif_pos valid]
  rfl

theorem scalar?_eq_some_iff {least value : Nat} {char : Char} :
    scalar? least value = some char ↔ least ≤ value ∧ char.toNat = value := by
  unfold scalar?
  split
  · rename_i fits
    have isValid : value.isValidChar := fits.2
    simp only [Option.some.injEq]
    constructor
    · rintro rfl
      exact ⟨fits.1, toNat_ofNat_of_isValidChar isValid⟩
    · rintro ⟨-, rfl⟩
      exact Char.ofNat_toNat char
  · rename_i unfit
    simp only [reduceCtorEq, false_iff]
    rintro ⟨above, rfl⟩
    exact unfit ⟨above, char.valid⟩

theorem scalar?_of_toNat_eq {least value : Nat} {char : Char} (above : least ≤ value)
    (same : char.toNat = value) : scalar? least value = some char :=
  scalar?_eq_some_iff.mpr ⟨above, same⟩

/-! The bytes of a character by the number of them: the code point is cut into groups of six bits,
and the first byte tells how many groups there are. -/

theorem utf8EncodeChar_one {char : Char} (above : char.toNat < 0x80) :
    String.utf8EncodeChar char = [UInt8.ofNat char.toNat] := by
  have same : char.val.toNat = char.toNat := rfl
  unfold String.utf8EncodeChar
  simp only [same]
  rw [if_pos (by omega)]

theorem utf8EncodeChar_two {char : Char} (below : 0x80 ≤ char.toNat)
    (above : char.toNat < 0x800) :
    String.utf8EncodeChar char =
      [UInt8.ofNat (char.toNat / 64 + 0xC0), UInt8.ofNat (char.toNat % 64 + 0x80)] := by
  have same : char.val.toNat = char.toNat := rfl
  unfold String.utf8EncodeChar
  simp only [same]
  rw [if_neg (by omega), if_pos (by omega), Nat.mod_eq_of_lt (a := char.toNat / 64) (by omega)]

theorem utf8EncodeChar_three {char : Char} (below : 0x800 ≤ char.toNat)
    (above : char.toNat < 0x10000) :
    String.utf8EncodeChar char =
      [UInt8.ofNat (char.toNat / 4096 + 0xE0), UInt8.ofNat (char.toNat / 64 % 64 + 0x80),
        UInt8.ofNat (char.toNat % 64 + 0x80)] := by
  have same : char.val.toNat = char.toNat := rfl
  unfold String.utf8EncodeChar
  simp only [same]
  rw [if_neg (by omega), if_neg (by omega), if_pos (by omega),
    Nat.mod_eq_of_lt (a := char.toNat / 4096) (by omega)]

theorem utf8EncodeChar_four {char : Char} (below : 0x10000 ≤ char.toNat) :
    String.utf8EncodeChar char =
      [UInt8.ofNat (char.toNat / 262144 + 0xF0), UInt8.ofNat (char.toNat / 4096 % 64 + 0x80),
        UInt8.ofNat (char.toNat / 64 % 64 + 0x80), UInt8.ofNat (char.toNat % 64 + 0x80)] := by
  have same : char.val.toNat = char.toNat := rfl
  have bound := toNat_lt char
  unfold String.utf8EncodeChar
  simp only [same]
  rw [if_neg (by omega), if_neg (by omega), if_neg (by omega),
    Nat.mod_eq_of_lt (a := char.toNat / 262144) (by omega)]

/-- An ASCII byte only stands for itself: all bytes of a longer sequence have their top bit set. -/
theorem toNat_eq_of_mem_utf8EncodeChar {char : Char} {byte : UInt8} (ascii : byte.toNat < 0x80)
    (member : byte ∈ String.utf8EncodeChar char) : char.toNat = byte.toNat := by
  have bound := toNat_lt char
  have high : ∀ number, 0x80 ≤ number → number < 256 → byte ≠ UInt8.ofNat number := by
    rintro number large small rfl
    rw [toNat_ofNat_of_lt small] at ascii
    omega
  by_cases one : char.toNat < 0x80
  · rw [utf8EncodeChar_one one, List.mem_singleton] at member
    rw [member, toNat_ofNat_of_lt (by omega)]
  by_cases two : char.toNat < 0x800
  · rw [utf8EncodeChar_two (by omega) two] at member
    simp only [List.mem_cons, List.not_mem_nil, or_false] at member
    rcases member with member | member <;> exact absurd member (high _ (by omega) (by omega))
  by_cases three : char.toNat < 0x10000
  · rw [utf8EncodeChar_three (by omega) three] at member
    simp only [List.mem_cons, List.not_mem_nil, or_false] at member
    rcases member with member | member | member <;>
      exact absurd member (high _ (by omega) (by omega))
  · rw [utf8EncodeChar_four (by omega)] at member
    simp only [List.mem_cons, List.not_mem_nil, or_false] at member
    rcases member with member | member | member | member <;>
      exact absurd member (high _ (by omega) (by omega))

theorem decodeChar?_utf8EncodeChar_append (char : Char) (rest : Bytes) :
    decodeChar? (String.utf8EncodeChar char ++ rest) = some (char, rest) := by
  have bound := toNat_lt char
  by_cases one : char.toNat < 0x80
  · rw [utf8EncodeChar_one one]
    unfold decodeChar?
    simp only [List.cons_append, List.nil_append, UInt8.lt_iff_toNat_lt, UInt8.reduceToNat]
    rw [toNat_ofNat_of_lt (by omega), if_pos one, Char.ofNat_toNat]
  by_cases two : char.toNat < 0x800
  · rw [utf8EncodeChar_two (by omega) two]
    unfold decodeChar?
    simp only [List.cons_append, List.nil_append, UInt8.lt_iff_toNat_lt, UInt8.reduceToNat]
    rw [toNat_ofNat_of_lt (by omega), if_neg (by omega), if_neg (by omega), if_pos (by omega),
      continuation?_ofNat (by omega)]
    simp only [Option.bind_eq_bind, Option.bind_some]
    rw [scalar?_of_toNat_eq (by omega) (show char.toNat = _ by omega)]
    rfl
  by_cases three : char.toNat < 0x10000
  · rw [utf8EncodeChar_three (by omega) three]
    unfold decodeChar?
    simp only [List.cons_append, List.nil_append, UInt8.lt_iff_toNat_lt, UInt8.reduceToNat]
    rw [toNat_ofNat_of_lt (by omega), if_neg (by omega), if_neg (by omega), if_neg (by omega),
      if_pos (by omega), continuation?_ofNat (by omega), continuation?_ofNat (by omega)]
    simp only [Option.bind_eq_bind, Option.bind_some]
    rw [scalar?_of_toNat_eq (by omega) (show char.toNat = _ by omega)]
    rfl
  · rw [utf8EncodeChar_four (by omega)]
    unfold decodeChar?
    simp only [List.cons_append, List.nil_append, UInt8.lt_iff_toNat_lt, UInt8.reduceToNat]
    rw [toNat_ofNat_of_lt (by omega), if_neg (by omega), if_neg (by omega), if_neg (by omega),
      if_neg (by omega), if_pos (by omega), continuation?_ofNat (by omega),
      continuation?_ofNat (by omega), continuation?_ofNat (by omega)]
    simp only [Option.bind_eq_bind, Option.bind_some]
    rw [scalar?_of_toNat_eq (by omega) (show char.toNat = _ by omega)]
    rfl

theorem eq_utf8EncodeChar_append {bytes rest : Bytes} {char : Char}
    (read : decodeChar? bytes = some (char, rest)) :
    bytes = String.utf8EncodeChar char ++ rest := by
  unfold decodeChar? at read
  simp only [UInt8.lt_iff_toNat_lt, UInt8.reduceToNat, Option.bind_eq_bind, Option.pure_def] at read
  split at read
  · cases read
  rename_i first behind
  split at read
  · rename_i small
    simp only [Option.some.injEq, Prod.mk.injEq] at read
    obtain ⟨rfl, rfl⟩ := read
    have value : (Char.ofNat first.toNat).toNat = first.toNat :=
      toNat_ofNat_of_isValidChar (.inl (by omega))
    rw [utf8EncodeChar_one (by omega), value, UInt8.ofNat_toNat]
    rfl
  split at read
  · cases read
  split at read
  · split at read
    · simp only [Option.bind_eq_some_iff, continuation?_eq_some_iff, scalar?_eq_some_iff,
        Option.some.injEq, Prod.mk.injEq] at read
      obtain ⟨low, ⟨lowSmall, second⟩, found, ⟨above, value⟩, rfl, rfl⟩ := read
      rw [utf8EncodeChar_two (by omega) (by omega),
        eq_ofNat_of_toNat_eq (show first.toNat = found.toNat / 64 + 0xC0 by omega),
        eq_ofNat_of_toNat_eq (second.trans (show _ = found.toNat % 64 + 0x80 by omega))]
      rfl
    · cases read
  split at read
  · split at read
    · simp only [Option.bind_eq_some_iff, continuation?_eq_some_iff, scalar?_eq_some_iff,
        Option.some.injEq, Prod.mk.injEq] at read
      obtain ⟨middle, ⟨middleSmall, second⟩, low, ⟨lowSmall, third⟩, found, ⟨above, value⟩, rfl,
        rfl⟩ := read
      rw [utf8EncodeChar_three (by omega) (by omega),
        eq_ofNat_of_toNat_eq (show first.toNat = found.toNat / 4096 + 0xE0 by omega),
        eq_ofNat_of_toNat_eq (second.trans (show _ = found.toNat / 64 % 64 + 0x80 by omega)),
        eq_ofNat_of_toNat_eq (third.trans (show _ = found.toNat % 64 + 0x80 by omega))]
      rfl
    · cases read
  split at read
  · split at read
    · simp only [Option.bind_eq_some_iff, continuation?_eq_some_iff, scalar?_eq_some_iff,
        Option.some.injEq, Prod.mk.injEq] at read
      obtain ⟨high, ⟨highSmall, second⟩, middle, ⟨middleSmall, third⟩, low, ⟨lowSmall, fourth⟩,
        found, ⟨above, value⟩, rfl, rfl⟩ := read
      rw [utf8EncodeChar_four (by omega),
        eq_ofNat_of_toNat_eq (show first.toNat = found.toNat / 262144 + 0xF0 by omega),
        eq_ofNat_of_toNat_eq (second.trans (show _ = found.toNat / 4096 % 64 + 0x80 by omega)),
        eq_ofNat_of_toNat_eq (third.trans (show _ = found.toNat / 64 % 64 + 0x80 by omega)),
        eq_ofNat_of_toNat_eq (fourth.trans (show _ = found.toNat % 64 + 0x80 by omega))]
      rfl
    · cases read
  · cases read

/-! ### Many of them -/

theorem decodeUpTo_succ {bytes : Bytes} (more : bytes ≠ []) (budget : Nat) (done : List Char) :
    decodeUpTo (budget + 1) done bytes =
      match decodeChar? bytes with
      | none => .error bytes
      | some (char, rest) => decodeUpTo budget (char :: done) rest := by
  cases bytes with
  | nil => exact absurd rfl more
  | cons first rest => rfl

theorem decodeUpTo_encodeChars (chars done : List Char) {budget : Nat}
    (enough : (encodeChars chars).length ≤ budget) :
    decodeUpTo budget done (encodeChars chars) = .ok (done.reverse ++ chars) := by
  induction chars generalizing done budget with
  | nil =>
    rw [encodeChars_nil, List.append_nil]
    cases budget <;> rfl
  | cons char chars inductionHypothesis =>
    have size := String.length_utf8EncodeChar char
    have positive := char.utf8Size_pos
    rw [encodeChars_cons, List.length_append] at enough
    obtain ⟨budget, rfl⟩ : ∃ fewer, budget = fewer + 1 := ⟨budget - 1, by omega⟩
    have more : encodeChars (char :: chars) ≠ [] := by
      rw [encodeChars_cons]
      exact List.append_ne_nil_of_left_ne_nil String.utf8EncodeChar_ne_nil _
    rw [decodeUpTo_succ more, encodeChars_cons, decodeChar?_utf8EncodeChar_append]
    show decodeUpTo budget (char :: done) (encodeChars chars) = _
    rw [inductionHypothesis (char :: done) (by omega), List.reverse_cons, List.append_assoc]
    rfl

theorem encodeChars_of_decodeUpTo {budget : Nat} {done result : List Char} {bytes : Bytes}
    (read : decodeUpTo budget done bytes = .ok result) :
    ∃ chars, result = done.reverse ++ chars ∧ encodeChars chars = bytes := by
  induction budget generalizing done bytes with
  | zero =>
    cases bytes with
    | nil =>
      cases read
      exact ⟨[], (List.append_nil _).symm, rfl⟩
    | cons first rest => cases read
  | succ budget inductionHypothesis =>
    by_cases empty : bytes = []
    · subst empty
      cases read
      exact ⟨[], (List.append_nil _).symm, rfl⟩
    · rw [decodeUpTo_succ empty] at read
      split at read
      · cases read
      · rename_i char rest front
        obtain ⟨chars, same, encoded⟩ := inductionHypothesis read
        refine ⟨char :: chars, ?_, ?_⟩
        · rw [same, List.reverse_cons, List.append_assoc]
          rfl
        · rw [encodeChars_cons, encoded, ← eq_utf8EncodeChar_append front]

/-- Bytes are read as some characters exactly if they are the bytes of these characters. -/
theorem decodeChars_eq_ok_iff {bytes : Bytes} {chars : List Char} :
    decodeChars bytes = .ok chars ↔ encodeChars chars = bytes := by
  constructor
  · intro read
    obtain ⟨found, same, encoded⟩ := encodeChars_of_decodeUpTo read
    rw [same]
    exact encoded
  · rintro rfl
    exact decodeUpTo_encodeChars chars [] (Nat.le_refl _)

/-- Bytes are read as a text exactly if they are the bytes of that text. -/
theorem decode?_eq_some_iff {bytes : Bytes} {text : String} :
    decode? bytes = some text ↔ encode text = bytes := by
  unfold decode? encode
  rw [← decodeChars_eq_ok_iff]
  cases decodeChars bytes with
  | error _ => exact ⟨nofun, nofun⟩
  | ok chars =>
    simp only [Option.some.injEq, Except.ok.injEq]
    constructor
    · rintro rfl
      exact String.toList_ofList.symm
    · rintro rfl
      exact String.ofList_toList

end RippleServer.Text
