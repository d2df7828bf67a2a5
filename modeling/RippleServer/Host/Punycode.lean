/-
This file reads the ASCII form of an international label. The ASCII characters
of the label stand first, up to the last hyphen. Behind it every other character
is given by a number that says how far to go from the place and the code point of
the one before, and that is written with the least digit first, in a base that
adapts to the numbers seen so far.
-/

namespace RippleServer.Host.Punycode

/-- The value of a digit: the letters come before the figures. -/
def digitValue? (char : Char) : Option Nat :=
  if 'a' ≤ char ∧ char ≤ 'z' then some (char.toNat - 0x61)
  else if 'A' ≤ char ∧ char ≤ 'Z' then some (char.toNat - 0x41)
  else if char.isDigit then some (char.toNat - 0x30 + 26)
  else none

/-- A digit below the threshold ends its number. The position counts in steps of 36. -/
def threshold (position bias : Nat) : Nat :=
  if position ≤ bias then 1 else if bias + 26 ≤ position then 26 else position - bias

/-- Brings a number below 456, and counts the divisions in steps of 36. -/
def scaleDown (delta steps : Nat) : Nat × Nat :=
  if 455 < delta then scaleDown (delta / 35) (steps + 36) else (delta, steps)
termination_by delta
decreasing_by exact Nat.div_lt_self (by omega) (by omega)

/-- The bias for the next number, from the last one and the length of the text now. -/
def adapt (delta length : Nat) (first : Bool) : Nat :=
  let halved := if first then delta / 700 else delta / 2
  let (scaled, steps) := scaleDown (halved + halved / length) 0
  steps + 36 * scaled / (scaled + 38)

/-- Where the reading of an international label stands. -/
structure Progress where
  /-- The characters of the label so far. -/
  text : List Char
  /-- The code point of the last character put in, and the place behind it. -/
  codePoint : Nat := 0x80
  place : Nat := 0
  bias : Nat := 72
  /-- The number being read, and the weight and the position of its next digit. -/
  delta : Nat := 0
  weight : Nat := 1
  position : Nat := 36

/-- Puts in the character that the number just completed stands for. -/
def Progress.insert? (progress : Progress) (delta : Nat) : Option Progress :=
  let length := progress.text.length + 1
  let distance := progress.place + delta
  let codePoint := progress.codePoint + distance / length
  let place := distance % length
  if codePoint < 0xD800 ∨ 0xDFFF < codePoint ∧ codePoint < 0x110000 then
    some
      { text := progress.text.take place ++ Char.ofNat codePoint :: progress.text.drop place
        codePoint
        place := place + 1
        bias := adapt delta length (progress.place = 0) }
  else none

/-- Reads the numbers. The last of them has to be complete. -/
def Progress.read? : Progress → List Char → Option (List Char)
  | progress, [] => if progress.position = 36 then some progress.text else none
  | progress, char :: rest => do
    let digit ← digitValue? char
    let delta := progress.delta + digit * progress.weight
    let least := threshold progress.position progress.bias
    if digit < least then
      let progress ← progress.insert? delta
      progress.read? rest
    else
      let weight := progress.weight * (36 - least)
      let position := progress.position + 36
      Progress.read? { progress with delta, weight, position } rest

/-- The label with a given ASCII form. A hyphen in front does not end anything. -/
def decode? (code : List Char) : Option (List Char) :=
  let numbers := (code.reverse.takeWhile (· ≠ '-')).reverse
  let plain := code.take (code.length - numbers.length - 1)
  if plain.all fun char => char.toNat < 0x80 then
    if plain.isEmpty then Progress.read? { text := [] } code
    else Progress.read? { text := plain } numbers
  else none

end RippleServer.Host.Punycode
