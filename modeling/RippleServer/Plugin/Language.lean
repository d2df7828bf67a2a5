/-
This file describes language plugins. A language plugin says which source files
belong to a language, and what kind of script each of them becomes when the SDK
analyses it. The server has one such language, Ripple, whose files become
scripts with embedded markup.
-/

import RippleServer.Module.Basic

namespace RippleServer

/-! ### Script kinds -/

/-- The kinds of scripts the SDK distinguishes. -/
inductive ScriptKind
  | unknown
  | js
  | jsx
  | ts
  | tsx
  | external
  | json
  | deferred
deriving DecidableEq, Repr

namespace ScriptKind

/-- All kinds, in the order of their numbers. -/
def all : List ScriptKind :=
  [.unknown, .js, .jsx, .ts, .tsx, .external, .json, .deferred]

/-- The number the SDK knows a kind by. -/
def code : ScriptKind → Nat
  | .unknown => 0
  | .js => 1
  | .jsx => 2
  | .ts => 3
  | .tsx => 4
  | .external => 5
  | .json => 6
  | .deferred => 7

end ScriptKind

/-! ### Plugins -/

/-- The script a source file becomes. Its extension has a leading dot. -/
structure ServiceScript where
  extension : String
  kind : ScriptKind
deriving DecidableEq, Repr

/-- An extension the SDK has to accept in a project, without a leading dot. -/
structure ExtraExtension where
  extension : String
  mixedContent : Bool
  kind : ScriptKind
deriving DecidableEq, Repr

/-- How the source files of a language are analysed. -/
structure LanguagePlugin where
  languageId : String
  /-- The extensions of the source files, without leading dots. -/
  extensions : List String
  serviceScript : ServiceScript
  extraExtensions : List ExtraExtension
  /-- The module that turns a source file into a script. -/
  compiler : Module
deriving DecidableEq, Repr

namespace LanguagePlugin

/-- The identifier of the Ripple language. -/
def rippleId : String := "ripple"

/-- The extension of Ripple files. -/
def rippleExtension : String := "ripple"

/-- The Ripple language with a given compiler. -/
def ripple (compiler : Module) : LanguagePlugin where
  languageId := rippleId
  extensions := [rippleExtension]
  serviceScript := { extension := ".tsx", kind := .tsx }
  extraExtensions := [{ extension := rippleExtension, mixedContent := true, kind := .deferred }]
  compiler := compiler

/-- Whether a path belongs to the language: its extension is one of the plugin's, in any case of
letters. -/
def accepts (plugin : LanguagePlugin) (path : Path) : Bool :=
  match path.extension? with
  | none => false
  | some extension => plugin.extensions.any fun known => Text.sameIgnoringCase known extension

/-- The language of a path that belongs to it. -/
def languageIdFor? (plugin : LanguagePlugin) (path : Path) : Option String :=
  if plugin.accepts path then some plugin.languageId else none

/-- The patterns that match all source files of the language. -/
def watchPatterns (plugin : LanguagePlugin) : List String :=
  plugin.extensions.map fun extension => "**/*." ++ extension

end LanguagePlugin

end RippleServer
