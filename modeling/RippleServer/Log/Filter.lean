/-
This file decides which records are written. A filter is a list of directives
between commas. A directive gives a level to the records of a target, or to all
records, and may be narrowed to records with a field or to spans, in square
brackets. Of the directives that concern a record the most special one decides;
a record no directive concerns is not written.
-/

import RippleServer.Log.Pattern
import RippleServer.Log.Record
import RippleServer.Text.Alphanumeric
import RippleServer.Text.Decimal

namespace RippleServer.Log

/-! ### Directives -/

/-- How much of some records is written. -/
structure Directive where
  /-- The beginning of the targets it concerns. -/
  target : Option String := none
  /-- The field a record must have. -/
  field : Option String := none
  /-- Whether it only concerns records inside a span. The server opens no spans. -/
  inSpan : Bool := false
  /-- The highest verbosity that is written. -/
  verbosity : Nat := 5
deriving DecidableEq, Repr

namespace Directive

/-- The names of the levels, each at the place of its verbosity. -/
def levelNames : List String :=
  ["off", "error", "warn", "info", "debug", "trace"]

/-- The verbosity a name or a number stands for. -/
def verbosity? (text : String) : Option Nat :=
  match Text.natural? 5 text with
  | some number => some number
  | none => levelNames.findIdx? fun name => Text.sameIgnoringCase name text

/-- Why a text is not a filter. -/
inductive Refusal
  /-- A directive does not have the form of one. -/
  | malformed
  /-- A part of a directive would begin or end inside a character. -/
  | brokenCharacter
deriving DecidableEq, Repr

/-- The characters a directive may begin with, apart from an opening bracket. -/
def startsTarget (char : Char) : Bool :=
  char = '-' || char = ':' || char = '_' || Text.isAlphanumeric char

/-- The part of a text between two places, which are counted in bytes. -/
def part (text : Bytes) (start stop : Nat) : Except Refusal String :=
  match Text.decode? ((text.drop start).take (stop - start)) with
  | some part => .ok part
  | none => .error .brokenCharacter

/-- Reads the level that begins at a place; nothing stands for everything. -/
def readLevel (text : Bytes) (directive : Directive) (start : Nat) : Except Refusal Directive := do
  let level ← part text start text.length
  if level = "" then .ok { directive with verbosity := 5 }
  else
    match verbosity? level with
    | some verbosity => .ok { directive with verbosity }
    | none => .error .malformed

/-- Reads what stands behind the brackets. -/
def readTail (text : Bytes) (directive : Directive) (place : Nat) :
    List Char → Except Refusal Directive
  | [] => .ok directive
  | '=' :: _ => readLevel text directive (place + 1)
  | _ => .error .malformed

/-- Narrows a directive to records with a field, perhaps with a value. A value can only be had
from a span. -/
def narrow (directive : Directive) (field : String) : Except Refusal Directive :=
  match Text.split '=' field with
  | name :: value :: _ =>
    if Pattern.isPattern value.toList then .ok { directive with field := some name, inSpan := true }
    else .error .malformed
  | _ => if field = "" then .error .malformed else .ok { directive with field := some field }

/-- Reads what stands between the braces inside the brackets. -/
def readField (text : Bytes) (directive : Directive) (start : Nat) :
    Nat → List Char → Except Refusal Directive
  | _, [] => .error .malformed
  | place, char :: rest =>
    if char = '\x7d' then do
      let field ← part text start place
      let directive ← directive.narrow field
      match rest with
      | ']' :: rest => readTail text directive (place + 2) rest
      | _ => .error .malformed
    else readField text directive start (place + char.utf8Size) rest

/-- Reads what stands behind the opening bracket. -/
def readSpan (text : Bytes) (directive : Directive) (start : Nat) :
    Nat → List Char → Except Refusal Directive
  | _, [] => .error .malformed
  | place, char :: rest =>
    if char = ']' then do
      let _ ← part text start place
      readTail text { directive with inSpan := true } (place + 1) rest
    else if char = '\x7b' then do
      let name ← part text start place
      readField text { directive with inSpan := name ≠ "" } (place + 1) (place + 1) rest
    else readSpan text directive start (place + char.utf8Size) rest

/-- Reads a directive that begins with a word. A word alone is a level if it names one, and
otherwise a target whose records are all written. -/
def readTarget (text : Bytes) : Nat → List Char → Except Refusal Directive
  | _, [] => do
    let word ← part text 0 text.length
    match verbosity? word with
    | some verbosity => .ok { verbosity }
    | none => .ok { target := some word }
  | place, char :: rest =>
    if char = '=' then do
      let target ← part text 0 place
      readLevel text { target := some target } (place + 1)
    else if char = '[' then do
      let target ← part text 0 place
      readSpan text { target := some target } (place + 1) (place + 1) rest
    else readTarget text (place + char.utf8Size) rest

/-- Reads a directive. White space at its ends does not count when the places of its parts are
found, but the parts are then taken from the text as it was given. -/
def ofText (text : String) : Except Refusal Directive :=
  match Text.trimChars text.toList with
  | [] => .error .malformed
  | '[' :: rest => readSpan (Text.encode text) {} 1 1 rest
  | first :: rest =>
    if startsTarget first then readTarget (Text.encode text) first.utf8Size rest
    else .error .malformed

/-- Whether the directive has a say about a record. -/
def concerns (directive : Directive) (record : Record) : Bool :=
  !directive.inSpan &&
    (directive.target.all fun target => target.toList.isPrefixOf record.target.text.toList) &&
    (directive.field.all fun field =>
      field == "message" || record.fields.any fun entry => entry.1 == field)

/-- How special a directive is: by the length of its target, then by its field. -/
def rank (directive : Directive) : Nat :=
  2 * ((directive.target.map fun target => (Text.encode target).length + 1).getD 0) +
    (if directive.field.isSome then 1 else 0)

/-- The target and the field in one text, by which equally special directives are told apart. -/
def name (directive : Directive) : String :=
  directive.target.getD "" ++ directive.field.getD ""

/-- Whether a directive decides where another one given before it would: it is more special, or
equally special and does not come before it in the order of names. -/
def overrides (directive other : Directive) : Bool :=
  other.rank < directive.rank || other.rank = directive.rank && !(directive.name < other.name)

end Directive

/-! ### Filters -/

/-- The directives of a filter, in the order they were given. -/
structure Filter where
  directives : List Directive
deriving DecidableEq, Repr

namespace Filter

/-- Reads a filter. Empty directives do not count. -/
def ofText (text : String) : Except Directive.Refusal Filter := do
  let directives ← ((Text.split ',' text).filter (· ≠ "")).mapM Directive.ofText
  .ok ⟨directives⟩

/-- The directive that decides about a record. -/
def deciding? (filter : Filter) (record : Record) : Option Directive :=
  (filter.directives.filter (·.concerns record)).foldl
    (fun best directive =>
      match best with
      | none => some directive
      | some other => if directive.overrides other then some directive else some other)
    none

/-- Whether a record is written. -/
def enables (filter : Filter) (record : Record) : Bool :=
  (filter.deciding? record).any fun directive => record.level.verbosity ≤ directive.verbosity

end Filter

end RippleServer.Log
