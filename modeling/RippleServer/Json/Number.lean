/-
This file gives decimal literals their values and values their decimal text. A
literal is read as a whole number of at most 64 bits and a power of ten: the
whole number is rounded to a binary fraction and then multiplied with or
divided by that one power, rounding once more. A fraction is written with the
fewest digits that read back, positionally from `1e-5` up to below `1e16` and
with an exponent elsewhere.
-/

import RippleServer.Json.Basic
import RippleServer.Json.Shortest
import RippleServer.Text.Decimal

namespace RippleServer.Json

/-! ### Reading -/

/-- The largest whole number a significand may reach. -/
def significandBound : Nat := Text.unsignedBound

/-- The power of ten as a binary fraction. -/
def powerOfTen (exponent : Nat) : Float :=
  Float.ofScientific 1 false exponent

/-- Divides by powers of ten that a fraction can hold, until the whole exponent is used up.
Three divisions leave nothing of any significand. -/
def shrink : Nat → Float → Nat → Float
  | 0, value, _ => value
  | steps + 1, value, exponent =>
    if exponent ≤ 308 then value / powerOfTen exponent
    else shrink steps (value / powerOfTen 308) (exponent - 308)

/-- The magnitude `significand * 10 ^ exponent`, unless it is beyond the largest fraction. -/
def magnitude? (significand : Nat) (exponent : Int) : Option Float :=
  let start := significand.toUInt64.toFloat
  match exponent with
  | .ofNat power =>
    if power ≤ 308 then
      let value := start * powerOfTen power
      if value.isInf then none else some value
    else if significand = 0 then some start
    else none
  | .negSucc power => some (shrink 4 start (power + 1))

/-- The number with the sign and magnitude given. -/
def Number.ofMagnitude (negative : Bool) (magnitude : Float) : Number :=
  .float (if negative then (-magnitude).toBits else magnitude.toBits)

/-- The number a literal without fraction and exponent stands for. A negative number that is zero
or does not fit is kept as a fraction. -/
def Number.ofWhole (negative : Bool) (significand : Nat) : Number :=
  if negative then
    if significand = 0 ∨ Text.signedBound + 1 < significand then
      .ofMagnitude true significand.toUInt64.toFloat
    else .int (-(significand : Int))
  else .int significand

/-! ### Writing -/

/-- The text of a decimal with its significant digits and the exponent of the first of them. -/
def decimalText (digits : List Char) (leading : Int) : List Char :=
  if -5 ≤ leading ∧ leading < 16 then
    match leading with
    | .ofNat whole =>
      let padded := digits ++ List.replicate (whole + 1 - digits.length) '0'
      let fraction := padded.drop (whole + 1)
      padded.take (whole + 1) ++ '.' :: (if fraction.isEmpty then ['0'] else fraction)
    | .negSucc zeros => '0' :: '.' :: (List.replicate zeros '0' ++ digits)
  else
    let fraction := digits.drop 1
    let sign := if leading < 0 then '-' else '+'
    digits.take 1 ++ (if fraction.isEmpty then [] else '.' :: fraction) ++
      'e' :: sign :: (Text.natural leading.natAbs).toList

/-- The text of a finite binary fraction. -/
def floatChars (bits : UInt64) : List Char :=
  let negative := Text.signedBound < bits.toNat
  let magnitude := bits.toNat % 0x8000000000000000
  let body :=
    if magnitude = 0 then ['0', '.', '0']
    else
      let decimal := (Interval.ofFields (magnitude / 0x10000000000000)
        (magnitude % 0x10000000000000)).shortest
      let digits := Nat.toDigits 10 decimal.digits
      decimalText digits (decimal.exponent + digits.length - 1)
  if negative then '-' :: body else body

/-- The text of a number. -/
def Number.chars : Number → List Char
  | .int value => (Text.integer value).toList
  | .float bits => floatChars bits

end RippleServer.Json
