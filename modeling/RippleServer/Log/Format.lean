/-
This file names the two formats log lines are written in, and the spelling of
their names, for which the case of letters does not matter.
-/

import RippleServer.Text.Blank

namespace RippleServer.Log

/-- How log lines are written. -/
inductive Format
  | json
  | compact
deriving DecidableEq, Repr, Inhabited

namespace Format

/-- The name of a format. -/
def text : Format → String
  | .json => "json"
  | .compact => "compact"

/-- The format with a given name. -/
def ofText? (name : String) : Option Format :=
  [Format.json, Format.compact].find? fun format => Text.sameIgnoringCase format.text name

/-- The words for a name that no format has. -/
def unknownMessage : String := "Matching variant not found"

end Format

end RippleServer.Log
