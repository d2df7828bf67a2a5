/-
This file finds the shortest decimal of a binary fraction. Around every such
fraction lies an interval of reals that round to it. Decimals with one digit,
two digits and so on are tried in turn, and the first grid with a point in the
interval gives the answer: of two points the nearer one, and of two equally
near points the even one. All comparisons are exact.
-/

namespace RippleServer.Json

/-- A decimal `digits * 10 ^ exponent`. -/
structure Decimal where
  digits : Nat
  exponent : Int
deriving DecidableEq, Repr

/-- The interval of a fraction, as whole multiples of `unit / scale`. -/
structure Interval where
  low : Nat
  value : Nat
  high : Nat
  /-- Whether the ends themselves round to the value. -/
  closed : Bool
  unit : Nat
  scale : Nat

/-- The interval of the positive fraction with the exponent field and the significand field
given. Just above a power of two the reals below are half as far away. -/
def Interval.ofFields (exponentField significandField : Nat) : Interval :=
  let mantissa :=
    if exponentField = 0 then significandField else significandField + 0x10000000000000
  let power : Int := if exponentField = 0 then -1076 else (exponentField : Int) - 1077
  let below := if significandField = 0 ∧ 1 < exponentField then 1 else 2
  { low := 4 * mantissa - below
    value := 4 * mantissa
    high := 4 * mantissa + 2
    closed := mantissa % 2 = 0
    unit := Nat.pow 2 power.toNat
    scale := Nat.pow 2 (-power).toNat }

/-- The places of a decimal and of a multiple of the unit, in a common measure without
denominators. -/
def Interval.measures (interval : Interval) (decimal : Decimal) (multiple : Nat) : Nat × Nat :=
  (decimal.digits * Nat.pow 10 decimal.exponent.toNat * interval.scale,
    multiple * interval.unit * Nat.pow 10 (-decimal.exponent).toNat)

/-- Whether a decimal rounds to the value of the interval. -/
def Interval.contains (interval : Interval) (decimal : Decimal) : Bool :=
  let (place, low) := interval.measures decimal interval.low
  let (_, high) := interval.measures decimal interval.high
  if interval.closed then low ≤ place && place ≤ high else low < place && place < high

/-- The decimals next to the value on the grid of multiples of `10 ^ exponent`. -/
def Interval.neighbours (interval : Interval) (exponent : Int) : Decimal × Decimal :=
  let numerator := interval.value * interval.unit * Nat.pow 10 (-exponent).toNat
  let denominator := interval.scale * Nat.pow 10 exponent.toNat
  (⟨numerator / denominator, exponent⟩, ⟨numerator / denominator + 1, exponent⟩)

/-- The decimal of a grid that rounds to the value, if there is one. -/
def Interval.onGrid? (interval : Interval) (exponent : Int) : Option Decimal :=
  let (below, above) := interval.neighbours exponent
  let (belowPlace, place) := interval.measures below interval.value
  let (abovePlace, _) := interval.measures above interval.value
  if interval.contains below then
    if interval.contains above then
      if place - belowPlace < abovePlace - place then some below
      else if abovePlace - place < place - belowPlace then some above
      else if below.digits % 2 = 0 then some below else some above
    else some below
  else if interval.contains above then some above
  else none

/-- The exponent of the leading decimal digit of the value. -/
def Interval.leading (interval : Interval) : Int :=
  let numerator := interval.value * interval.unit
  if interval.scale ≤ numerator then
    ((Nat.toDigits 10 (numerator / interval.scale)).length : Int) - 1
  else
    -((((List.range 400).find? fun shift =>
      decide (interval.scale ≤ numerator * Nat.pow 10 shift)).getD 400 : Nat) : Int)

/-- The same decimal without a final zero. Only the point above the largest one of a grid has
one, and it has no more than one. -/
def Decimal.withoutZero (decimal : Decimal) : Decimal :=
  if decimal.digits % 10 = 0 then ⟨decimal.digits / 10, decimal.exponent + 1⟩ else decimal

/-- The shortest decimal of a positive fraction. Seventeen digits always suffice. -/
def Interval.shortest (interval : Interval) : Decimal :=
  let grids := (List.range 17).map fun (count : Nat) => interval.leading - count
  let found := grids.findSome? interval.onGrid?
  (found.getD (interval.neighbours (interval.leading - 16)).1).withoutZero

end RippleServer.Json
