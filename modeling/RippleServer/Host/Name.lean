/-
This file brings host names into the form they are compared in. Letters become
small, characters that stand for others are replaced where the others are ASCII,
and characters without meaning vanish. A name is refused if it holds a character
no host name may hold, if one of its labels begins with a mark or is the ASCII
form of no label, if a joiner stands where nothing joins, or if the directions of
its characters contradict each other.
-/

import RippleServer.Host.Allowed
import RippleServer.Host.Folding
import RippleServer.Host.Punycode
import RippleServer.Host.Script
import RippleServer.Text.Blank

namespace RippleServer.Host

/-! ### Characters -/

/-- The ASCII characters no host name holds. -/
def isForbidden (char : Char) : Bool :=
  char.toNat ≤ 0x20 || char.toNat = 0x7F || "#%/:<>?@[\\]^|".toList.contains char

/-- What a character becomes in a host name, if it may stand in one. -/
def foldChar? (char : Char) : Option (List Char) :=
  match asciiForm? char with
  | some form => some form
  | none =>
    if char.toNat < 0x80 then if isForbidden char then none else some [char]
    else if isIgnored char then some []
    else if isAllowed char then some [char]
    else none

/-- What the characters of a name become. -/
def fold? (name : List Char) : Option (List Char) :=
  (name.mapM foldChar?).map List.flatten

/-- Whether a character stands for itself. -/
def isStable (char : Char) : Bool :=
  foldChar? char == some [char] && !isFolded char

/-! ### Labels -/

/-- The label that a label may be the ASCII form of. Such a form is only good for a label that
needs it. -/
def expand? (label : List Char) : Option (List Char) :=
  match label with
  | 'x' :: 'n' :: '-' :: '-' :: code => do
    let text ← Punycode.decode? code
    if text.all isStable && text.any fun char => 0x80 ≤ char.toNat then some text else none
  | _ => some label

/-- Whether every joiner has something to join, behind the characters read so far, the last of
them first. A consonant stripped of its vowel takes both joiners; the one that keeps letters apart
may also stand between letters that would join. -/
def joinersFit : List Char → List Char → Bool
  | _, [] => true
  | before, char :: rest =>
    let behindVirama := before.head?.any isVirama
    let betweenJoined :=
      (before.dropWhile isTransparent).head?.any joinsForward &&
        (rest.dropWhile isTransparent).head?.any joinsBackward
    let fits :=
      if char.toNat = 0x200D then behindVirama
      else if char.toNat = 0x200C then behindVirama || betweenJoined
      else true
    fits && joinersFit (char :: before) rest

/-- Whether a label is well formed by itself. -/
def isWellFormed (label : List Char) : Bool :=
  (label.head?.all fun char => !isMark char) && joinersFit [] label

/-- Whether the characters of a label agree on a direction, which the first of them gives. -/
def directionsAgree (label : List Char) : Bool :=
  let directions := label.map direction
  let last := (directions.reverse.dropWhile (· = .mark)).head?
  match directions.head? with
  | none => true
  | some .left =>
    (directions.all fun found => found ≠ .right && found ≠ .arabicNumber) &&
      last.any fun found => found = .left || found = .europeanNumber
  | some .right =>
    (directions.all fun found => found ≠ .left) &&
      (last.any fun found => found = .right || found = .arabicNumber || found = .europeanNumber) &&
      !(directions.contains .arabicNumber && directions.contains .europeanNumber)
  | some _ => false

/-- Whether a label is one that makes the directions of a name matter. -/
def hasDirection (label : List Char) : Bool :=
  label.any fun char => direction char = .right || direction char = .arabicNumber

/-! ### Names -/

/-- The form a name is compared in, in which characters outside ASCII may stand for others. -/
def canonical? (name : List Char) : Option (List Char) := do
  let folded ← fold? name
  let labels ← (Text.splitChars '.' folded).mapM expand?
  if labels.all isWellFormed && (!labels.any hasDirection || labels.all directionsAgree) then
    some folded
  else none

end RippleServer.Host
