/-
This file reads and writes whole numbers in decimal. A natural number may carry
one plus sign and any number of leading zeros; a number that does not fit the
bound given is refused. The reading of signed numbers says why it refuses.
-/

namespace RippleServer.Text

/-! ### Writing -/

/-- The decimal digits of a natural number. -/
def natural (number : Nat) : String :=
  String.ofList (Nat.toDigits 10 number)

/-- A whole number with a minus sign in front of it if it is negative. -/
def integer : Int → String
  | .ofNat number => natural number
  | .negSucc number => "-" ++ natural (number + 1)

/-! ### Bounds -/

/-- The greatest unsigned number of 64 bits. -/
def unsignedBound : Nat := 0xFFFFFFFFFFFFFFFF

/-- The greatest signed number of 64 bits. -/
def signedBound : Nat := 0x7FFFFFFFFFFFFFFF

/-! ### Reading -/

/-- The value of an ASCII digit. -/
def digit? (char : Char) : Option Nat :=
  if char.isDigit then some (char.toNat - '0'.toNat) else none

/-- Why a text is not a number of the kind asked for. -/
inductive NumeralFault
  | empty
  | invalidDigit
  | tooLarge
  | tooSmall
deriving DecidableEq, Repr

/-- The sentence that tells the reader of an error what was wrong with a number. -/
def NumeralFault.message : NumeralFault → String
  | .empty => "cannot parse integer from empty string"
  | .invalidDigit => "invalid digit found in string"
  | .tooLarge => "number too large to fit in target type"
  | .tooSmall => "number too small to fit in target type"

/-- Appends the digits to the value read so far. Digits are looked at from left to right, and
the first one that is no digit or leaves the bound decides. -/
def accumulate (bound : Nat) (beyond : NumeralFault) :
    Nat → List Char → Except NumeralFault Nat
  | value, [] => .ok value
  | value, char :: rest =>
    match digit? char with
    | none => .error .invalidDigit
    | some digit =>
      if value * 10 + digit ≤ bound then accumulate bound beyond (value * 10 + digit) rest
      else .error beyond

/-- Reads an unsigned number of at most `bound`: one optional plus sign and at least one
digit. -/
def readNatural (bound : Nat) (text : String) : Except NumeralFault Nat :=
  match text.toList with
  | [] => .error .empty
  | ['+'] => .error .invalidDigit
  | '+' :: digits => accumulate bound .tooLarge 0 digits
  | digits => accumulate bound .tooLarge 0 digits

/-- The unsigned number of at most `bound` that a text spells. -/
def natural? (bound : Nat) (text : String) : Option Nat :=
  (readNatural bound text).toOption

/-- Reads a signed number between `-(bound + 1)` and `bound`. -/
def readInteger (bound : Nat) (text : String) : Except NumeralFault Int :=
  match text.toList with
  | [] => .error .empty
  | ['+'] => .error .invalidDigit
  | ['-'] => .error .invalidDigit
  | '-' :: digits =>
    (accumulate (bound + 1) .tooSmall 0 digits).map fun value => -(Int.ofNat value)
  | '+' :: digits => (accumulate bound .tooLarge 0 digits).map Int.ofNat
  | digits => (accumulate bound .tooLarge 0 digits).map Int.ofNat

end RippleServer.Text
