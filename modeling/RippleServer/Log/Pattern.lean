/-
This file decides which texts are patterns that the value of a field can be
matched with. A pattern is a number or a regular expression. Regular expressions
are read without any table of characters: classes that would need one, letter
case beyond ASCII and the boundaries of words are only there once the flag for
all scripts is switched off, and without that flag nothing may match a part of a
character. The texts looked at here hold no closing brace and no comma, so a
brace never gets closed.
-/

import RippleServer.Text.Alphanumeric
import RippleServer.Text.Blank

namespace RippleServer.Log.Pattern

/-! ### Numbers -/

/-- Whether a text is an exponent, or nothing. -/
def isExponent (text : List Char) : Bool :=
  match text with
  | [] => true
  | mark :: rest =>
    let digits := match rest with
      | '+' :: digits => digits
      | '-' :: digits => digits
      | digits => digits
    (mark = 'e' || mark = 'E') && !digits.isEmpty && digits.all Char.isDigit

/-- Whether a text is a number without its sign. -/
def isMagnitude (text : List Char) : Bool :=
  let word := Text.lower (String.ofList text)
  let whole := text.takeWhile Char.isDigit
  let rest := text.dropWhile Char.isDigit
  let (fraction, rest) := match rest with
    | '.' :: rest => (rest.takeWhile Char.isDigit, rest.dropWhile Char.isDigit)
    | rest => ([], rest)
  ["inf", "infinity", "nan"].contains word ||
    !(whole ++ fraction).isEmpty && isExponent rest

/-- Whether a text is a number. -/
def isNumber : List Char → Bool
  | '+' :: rest => isMagnitude rest
  | '-' :: rest => isMagnitude rest
  | text => isMagnitude text

/-! ### Flags -/

/-- The flags that decide what a pattern may hold. -/
structure Flags where
  /-- Whether letters of either case match each other. -/
  ignoreCase : Bool := false
  /-- Whether the pattern is about the characters of all scripts. -/
  allScripts : Bool := true
deriving DecidableEq, Repr

/-- The letters of all flags. -/
def flagLetters : List Char := ['i', 'm', 's', 'U', 'u', 'R', 'x']

/-- Sets the flag with a given letter. -/
def Flags.set (flags : Flags) (letter : Char) (value : Bool) : Flags :=
  if letter = 'i' then { flags with ignoreCase := value }
  else if letter = 'u' then { flags with allScripts := value }
  else flags

/-- Reads flags up to a colon or a closing parenthesis, which are left. A hyphen, of which there
is at most one and never at the end, makes the flags behind it negative. -/
def readFlags (flags : Flags) (seen : List Char) :
    List Char → Option (Flags × List Char × List Char)
  | [] => none
  | char :: rest =>
    if char = ':' || char = ')' then
      if seen.head? = some '-' then none else some (flags, seen, char :: rest)
    else if seen.contains char then none
    else if char = '-' then readFlags flags (char :: seen) rest
    else if flagLetters.contains char then
      readFlags (flags.set char !(seen.contains '-')) (char :: seen) rest
    else none

/-! ### Escapes -/

/-- What an escape stands for. -/
inductive Escape
  /-- A character, perhaps given as a byte. -/
  | literal (char : Char) (byte : Bool)
  /-- A class of characters, or of all others. -/
  | characters (negated : Bool)
  /-- The boundary of a word. -/
  | boundary
  /-- The start or the end of the text. -/
  | anchor
deriving DecidableEq, Repr

/-- The characters with a meaning of their own. -/
def isMeta (char : Char) : Bool :=
  "\\.+*?()|[]\x7b\x7d^$#&-~".toList.contains char

/-- Whether a backslash makes a character stand for itself. -/
def isEscapable (char : Char) : Bool :=
  isMeta char || char.toNat < 0x80 && !char.isAlphanum && char ≠ '<' && char ≠ '>'

/-- The value of a hexadecimal digit. -/
def hexValue? (char : Char) : Option Nat :=
  if char.isDigit then some (char.toNat - 0x30)
  else if 'a' ≤ char ∧ char ≤ 'f' then some (char.toNat - 0x57)
  else if 'A' ≤ char ∧ char ≤ 'F' then some (char.toNat - 0x37)
  else none

/-- Reads a character given by a number of hexadecimal digits. -/
def readHex (byte : Bool) : Nat → Nat → List Char → Option (Escape × List Char)
  | 0, value, rest =>
    if value < 0xD800 ∨ 0xDFFF < value ∧ value < 0x110000 then
      some (.literal (Char.ofNat value) byte, rest)
    else none
  | _ + 1, _, [] => none
  | digits + 1, value, char :: rest => do
    let digit ← hexValue? char
    readHex byte digits (value * 16 + digit) rest

/-- Reads an escape behind its backslash. -/
def readEscape : List Char → Option (Escape × List Char)
  | [] => none
  | 'x' :: rest => readHex true 2 0 rest
  | 'u' :: rest => readHex false 4 0 rest
  | 'U' :: rest => readHex false 8 0 rest
  | char :: rest =>
    if isEscapable char then some (.literal char false, rest)
    else if "aftnrv".toList.contains char then some (.literal char false, rest)
    else if "dsw".toList.contains char then some (.characters false, rest)
    else if "DSW".toList.contains char then some (.characters true, rest)
    else if "bB<>".toList.contains char then some (.boundary, rest)
    else if "Az".toList.contains char then some (.anchor, rest)
    else none

/-- Whether an escape may stand in a pattern. -/
def Escape.fits (flags : Flags) : Escape → Bool
  | .literal char byte =>
    if flags.allScripts then !flags.ignoreCase else !byte || char.toNat < 0x80
  | .characters negated => !flags.allScripts && !negated
  | .boundary => !flags.allScripts
  | .anchor => true

/-! ### Classes -/

/-- The names of the classes that can be named inside a class. -/
def classNames : List String :=
  ["alnum", "alpha", "ascii", "blank", "cntrl", "digit", "graph", "lower", "print", "punct",
    "space", "upper", "word", "xdigit"]

/-- Passes over the name of a class, behind a bracket and a colon, and says whether all other
characters are meant. -/
def readClassName (text : List Char) : Option (Bool × List Char) :=
  let (negated, text) := match text with
    | '^' :: rest => (true, rest)
    | rest => (false, rest)
  match text.span (· ≠ ':') with
  | (name, ':' :: ']' :: rest) =>
    if classNames.contains (String.ofList name) then some (negated, rest) else none
  | _ => none

/-- Passes over what may stand right behind an opening bracket: a caret, and hyphens or a closing
bracket that stand for themselves. -/
def openClass (flags : Flags) (text : List Char) : Option (List Char) :=
  let (negated, text) := match text with
    | '^' :: rest => (true, rest)
    | rest => (false, rest)
  if negated && !flags.allScripts then none
  else
    match text with
    | ']' :: rest => some rest
    | text => some (text.dropWhile (· = '-'))

/-- One item of a class: a character, or none for a class of characters. -/
def readItem (flags : Flags) : List Char → Option (Option Char × List Char)
  | [] => none
  | '\\' :: rest => do
    let (escape, rest) ← readEscape rest
    if escape.fits flags then
      match escape with
      | .literal char _ => some (some char, rest)
      | .characters _ => some (none, rest)
      | _ => none
    else none
  | char :: rest => if flags.allScripts || char.toNat < 0x80 then some (some char, rest) else none

/-- Reads an item, or two of them with a hyphen between, which have to be characters in order. -/
def readRange (flags : Flags) (text : List Char) : Option (List Char) := do
  let (first, rest) ← readItem flags text
  match rest with
  | '-' :: next :: more =>
    if next = ']' || next = '-' then some rest
    else
      let (last, rest) ← readItem flags (next :: more)
      match first, last with
      | some first, some last => if first ≤ last then some rest else none
      | _, _ => none
  | _ => some rest

/-- Passes over a class up to the bracket that closes it, with as many classes around it as the
depth says. -/
def readClass (flags : Flags) : Nat → Nat → List Char → Option (List Char)
  | 0, _, _ => none
  | budget + 1, depth, text =>
    match text with
    | [] => none
    | '[' :: rest =>
      let named := match rest with
        | ':' :: name => readClassName name
        | _ => none
      match named with
      | some (negated, rest) =>
        if negated && !flags.allScripts then none else readClass flags budget depth rest
      | none => do
        let rest ← openClass flags rest
        readClass flags budget (depth + 1) rest
    | ']' :: rest =>
      match depth with
      | 0 => some rest
      | depth + 1 => readClass flags budget depth rest
    | '&' :: '&' :: rest => readClass flags budget depth rest
    | '-' :: '-' :: rest => readClass flags budget depth rest
    | '~' :: '~' :: rest => readClass flags budget depth rest
    | text => do
      let rest ← readRange flags text
      readClass flags budget depth rest

/-! ### Patterns -/

/-- What has been read of a pattern. -/
structure Progress where
  flags : Flags := {}
  /-- The flags to go back to when the open groups are closed, the innermost first. -/
  outer : List Flags := []
  /-- The names of groups so far. -/
  names : List (List Char) := []
  /-- Whether something stands in front that can be repeated. -/
  repeatable : Bool := false

/-- Whether a character may stand in the name of a group. -/
def inGroupName (first : Bool) (char : Char) : Bool :=
  char = '_' || Text.isAlphanumeric char && !(first && char.isDigit) ||
    !first && (char = '.' || char = '[' || char = ']')

/-- Opens a group with a name, which is read up to its angle bracket. -/
def openNamed (progress : Progress) (text : List Char) : Option (Progress × List Char) :=
  match text.span (· ≠ '>') with
  | (first :: more, _ :: rest) =>
    if inGroupName true first && more.all (inGroupName false) &&
        !progress.names.contains (first :: more) then
      some ({ progress with
        outer := progress.flags :: progress.outer
        names := (first :: more) :: progress.names
        repeatable := false }, rest)
    else none
  | _ => none

/-- Opens a group, or sets flags, behind the opening parenthesis. -/
def openGroup (progress : Progress) (text : List Char) : Option (Progress × List Char) :=
  match text with
  | '?' :: 'P' :: '<' :: rest => openNamed progress rest
  | '?' :: '<' :: rest => openNamed progress rest
  | '?' :: rest => do
    let (flags, seen, rest) ← readFlags progress.flags [] rest
    let inner := { progress with flags, repeatable := false }
    if rest.head? = some ')' then if seen.isEmpty then none else some (inner, rest.drop 1)
    else some ({ inner with outer := progress.flags :: progress.outer }, rest.drop 1)
  | rest =>
    let outer := progress.flags :: progress.outer
    some ({ progress with outer, repeatable := false }, rest)

/-- Reads one part of a pattern. -/
def readPart (progress : Progress) (budget : Nat) (char : Char) (rest : List Char) :
    Option (Progress × List Char) :=
  let flags := progress.flags
  let done := { progress with repeatable := true }
  if char = '(' then openGroup progress rest
  else if char = ')' then
    match progress.outer with
    | [] => none
    | flags :: outer => some ({ done with flags, outer }, rest)
  else if char = '|' then some ({ progress with repeatable := false }, rest)
  else if char = '*' || char = '+' || char = '?' then
    if progress.repeatable then some (done, if rest.head? = some '?' then rest.drop 1 else rest)
    else none
  else if char = '\x7b' then none
  else if char = '[' then
    if flags.allScripts && flags.ignoreCase then none
    else do
      let rest ← openClass flags rest
      let rest ← readClass flags budget 0 rest
      some (done, rest)
  else if char = '\\' then do
    let (escape, rest) ← readEscape rest
    if escape.fits flags then some (done, rest) else none
  else if char = '.' then if flags.allScripts then some (done, rest) else none
  else if char = '^' || char = '$' then some (done, rest)
  else if flags.allScripts && flags.ignoreCase then none
  else some (done, rest)

/-- Reads a pattern part by part. Every part takes at least one character. -/
def readParts : Nat → Progress → List Char → Bool
  | _, progress, [] => progress.outer.isEmpty
  | 0, _, _ :: _ => false
  | budget + 1, progress, char :: rest =>
    match readPart progress budget char rest with
    | none => false
    | some (progress, rest) => readParts budget progress rest

/-- Whether a text is a pattern. -/
def isPattern (text : List Char) : Bool :=
  isNumber text || readParts text.length {} text

end RippleServer.Log.Pattern
