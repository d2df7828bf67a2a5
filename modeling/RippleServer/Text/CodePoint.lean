/-
This file looks characters up in tables. A table of characters is a list of
ranges of code points in ascending order, and a character is in the table if one
of the ranges covers it.
-/

namespace RippleServer.Text

/-- Ranges of code points, both ends included. -/
abbrev Ranges := List (Nat × Nat)

/-- Whether a character lies in one of the ranges. -/
def Ranges.covers (ranges : Ranges) (char : Char) : Bool :=
  ranges.any fun range => range.1 ≤ char.toNat && char.toNat ≤ range.2

theorem Ranges.covers_iff {ranges : Ranges} {char : Char} :
    ranges.covers char = true ↔
      ∃ range ∈ ranges, range.1 ≤ char.toNat ∧ char.toNat ≤ range.2 := by
  simp [Ranges.covers]

end RippleServer.Text
