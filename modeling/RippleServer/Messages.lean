/-
This file finds the texts of diagnostics in the language of the client. English
is built into the SDK. For any other locale the SDK may hold a table of texts;
the full locale is tried before its language alone, and a table that is missing
or unusable is passed over, so looking for texts never fails.
-/

import RippleServer.Event

namespace RippleServer

/-- The locale of the texts that are built into the SDK. -/
def defaultLocale : String := "en"

/-- The texts of diagnostics in one locale. Without a table the SDK uses its own. -/
structure Messages where
  locale : String
  table : Option (List (String × String))
deriving DecidableEq, Repr

namespace Messages

/-- The texts built into the SDK. -/
def builtin : Messages :=
  ⟨defaultLocale, none⟩

/-- The texts of a table. -/
def localized (locale : String) (table : List (String × String)) : Messages :=
  ⟨locale, some table⟩

def isBuiltin (messages : Messages) : Bool :=
  messages.table.isNone

/-- The text for a key. -/
def get? (messages : Messages) (key : String) : Option String :=
  messages.table.bind fun table => (table.find? fun entry => entry.1 == key).map (·.2)

/-- The number of texts in the table. -/
def size (messages : Messages) : Nat :=
  (messages.table.map List.length).getD 0

/-! ### Candidates -/

/-- The locale without white space around it and without capitals. -/
def normalised (locale : String) : String :=
  Text.lower (Text.trim locale)

/-- The language of a locale: what comes before the first hyphen or underscore. -/
def language (locale : String) : String :=
  String.ofList (locale.toList.takeWhile fun char => char ≠ '-' && char ≠ '_')

/-- The locale with hyphens in place of underscores. -/
def hyphenated (locale : String) : String :=
  String.ofList (locale.toList.map fun char => if char = '_' then '-' else char)

/-- The tables to try for a locale, the most specific one first. -/
def candidates (locale : String) : List String :=
  let full := hyphenated (normalised locale)
  let primary := language (normalised locale)
  if primary = "" ∨ primary = defaultLocale then []
  else if full = primary then [full]
  else [full, primary]

/-! ### Loading -/

/-- The name of a table inside the directory of its locale. -/
def tableName : String := "diagnosticMessages.generated.json"

/-- Where the table of a candidate stands. -/
def tablePath (sdkRoot : Path) (candidate : String) : Path :=
  (sdkRoot.child candidate).child tableName

/-- Tries one candidate. -/
def tryTable (loader : Loader) (sdkRoot : Path) (candidate : String) :
    Traced (Option Messages) := do
  let path := tablePath sdkRoot candidate
  match ← (loader.fetchJson path).run with
  | .error (.notFound _) => pure none
  | .error error => do
    Traced.emit (.tableUnreadable error)
    pure none
  | .ok value =>
    match Json.asTextTable value with
    | .ok table => pure (some (localized candidate table))
    | .error problem => do
      Traced.emit (.tableMalformed path problem)
      pure none

/-- Tries the candidates in order and takes the first usable table. -/
def firstUsable (loader : Loader) (sdkRoot : Path) : List String → Traced Messages
  | [] => pure builtin
  | candidate :: rest => do
    match ← tryTable loader sdkRoot candidate with
    | some messages => pure messages
    | none => firstUsable loader sdkRoot rest

/-- The texts for a locale. -/
def load (loader : Loader) (sdkRoot : Path) (locale : String) : Traced Messages :=
  firstUsable loader sdkRoot (candidates locale)

end Messages

end RippleServer
