/-
This file says what the server advertises to the client. Every feature has a
field of its own with the options of its provider, and a feature that no plugin
answers is left out. For triggers the options have the characters of all plugins,
each of them at its first place.
-/

import RippleServer.Json.Basic
import RippleServer.Plugin.Assembly
import RippleServer.Plugin.Language
import RippleServer.Text.Unseen

namespace RippleServer

/-! ### Options of providers -/

/-- How documents are kept in step with the client. -/
structure SyncOptions where
  openClose : Bool
  /-- The kind of changes the server wants to hear of: 2 is for the parts that changed. -/
  change : Nat
deriving DecidableEq, Repr

structure CompletionOptions where
  resolves : Bool
  triggers : List String
deriving DecidableEq, Repr

structure SignatureHelpOptions where
  triggers : List String
  /-- The characters that trigger help again while it is shown. -/
  retriggers : List String
deriving DecidableEq, Repr

structure OnTypeFormattingOptions where
  first : String
  more : List String
deriving DecidableEq, Repr

structure SemanticTokensOptions where
  tokenTypes : List String
  tokenModifiers : List String
  range : Bool
  full : Bool
deriving DecidableEq, Repr

structure DiagnosticOptions where
  identifier : String
  interFileDependencies : Bool
  workspaceDiagnostics : Bool
deriving DecidableEq, Repr

def SyncOptions.toJson (options : SyncOptions) : Json :=
  Json.object [("openClose", .bool options.openClose), ("change", .nat options.change)]

def CompletionOptions.toJson (options : CompletionOptions) : Json :=
  Json.object [("resolveProvider", .bool options.resolves),
    ("triggerCharacters", .strs options.triggers)]

def SignatureHelpOptions.toJson (options : SignatureHelpOptions) : Json :=
  Json.object [("triggerCharacters", .strs options.triggers),
    ("retriggerCharacters", .strs options.retriggers)]

def OnTypeFormattingOptions.toJson (options : OnTypeFormattingOptions) : Json :=
  Json.object [("firstTriggerCharacter", .str options.first),
    ("moreTriggerCharacter", .strs options.more)]

def SemanticTokensOptions.toJson (options : SemanticTokensOptions) : Json :=
  Json.object [
    ("legend", Json.object [("tokenTypes", .strs options.tokenTypes),
      ("tokenModifiers", .strs options.tokenModifiers)]),
    ("range", .bool options.range), ("full", .bool options.full)]

def DiagnosticOptions.toJson (options : DiagnosticOptions) : Json :=
  Json.object [("identifier", .str options.identifier),
    ("interFileDependencies", .bool options.interFileDependencies),
    ("workspaceDiagnostics", .bool options.workspaceDiagnostics)]

/-! ### Capabilities of a server -/

/-- What a server tells the client it can do. A provider that is missing is left out. -/
structure ServerCapabilities where
  textDocumentSync : SyncOptions
  hover : Option Bool
  completion : Option CompletionOptions
  signatureHelp : Option SignatureHelpOptions
  definition : Option Bool
  typeDefinition : Option Bool
  implementation : Option Bool
  references : Option Bool
  rename : Option Bool
  documentSymbol : Option Bool
  workspaceSymbol : Option Bool
  codeAction : Option Bool
  documentFormatting : Option Bool
  documentRangeFormatting : Option Bool
  documentOnTypeFormatting : Option OnTypeFormattingOptions
  foldingRange : Option Bool
  selectionRange : Option Bool
  semanticTokens : Option SemanticTokensOptions
  inlayHint : Option Bool
  callHierarchy : Option Bool
  diagnostic : Option DiagnosticOptions
deriving DecidableEq, Repr

namespace ServerCapabilities

/-- The members the protocol has for them, each with its value if it is there. -/
def members (capabilities : ServerCapabilities) : List (String × Option Json) :=
  [("textDocumentSync", some capabilities.textDocumentSync.toJson),
    ("hoverProvider", capabilities.hover.map .bool),
    ("completionProvider", capabilities.completion.map (·.toJson)),
    ("signatureHelpProvider", capabilities.signatureHelp.map (·.toJson)),
    ("definitionProvider", capabilities.definition.map .bool),
    ("typeDefinitionProvider", capabilities.typeDefinition.map .bool),
    ("implementationProvider", capabilities.implementation.map .bool),
    ("referencesProvider", capabilities.references.map .bool),
    ("renameProvider", capabilities.rename.map .bool),
    ("documentSymbolProvider", capabilities.documentSymbol.map .bool),
    ("workspaceSymbolProvider", capabilities.workspaceSymbol.map .bool),
    ("codeActionProvider", capabilities.codeAction.map .bool),
    ("documentFormattingProvider", capabilities.documentFormatting.map .bool),
    ("documentRangeFormattingProvider", capabilities.documentRangeFormatting.map .bool),
    ("documentOnTypeFormattingProvider", capabilities.documentOnTypeFormatting.map (·.toJson)),
    ("foldingRangeProvider", capabilities.foldingRange.map .bool),
    ("selectionRangeProvider", capabilities.selectionRange.map .bool),
    ("semanticTokensProvider", capabilities.semanticTokens.map (·.toJson)),
    ("inlayHintProvider", capabilities.inlayHint.map .bool),
    ("callHierarchyProvider", capabilities.callHierarchy.map .bool),
    ("diagnosticProvider", capabilities.diagnostic.map (·.toJson))]

/-- The capabilities as a value. -/
def toJson (capabilities : ServerCapabilities) : Json :=
  Json.object (capabilities.members.filterMap fun member => member.2.map (member.1, ·))

end ServerCapabilities

/-! ### What plugins advertise -/

/-- The kinds of tokens the server colours. -/
def tokenTypes : List String :=
  ["namespace", "class", "enum", "interface", "typeParameter", "type", "parameter", "variable",
    "property", "enumMember", "function", "method"]

/-- The modifiers a token can carry. -/
def tokenModifiers : List String :=
  ["declaration", "readonly", "static", "async", "defaultLibrary", "local"]

namespace PluginList

/-- The triggers of all plugins, each of them at its first place. -/
def merged (list : PluginList) (triggers : ServicePlugin → List String) : List String :=
  Text.unseen [] (list.plugins.flatMap triggers)

/-- The options of a provider, if any plugin answers its feature. -/
def provide {α : Type} (list : PluginList) (capability : Capability) (options : α) : Option α :=
  if list.supports capability then some options else none

/-- A provider without options. -/
def enabled (list : PluginList) (capability : Capability) : Option Bool :=
  list.provide capability true

/-- What the server can do with its plugins. -/
def serverCapabilities (list : PluginList) : ServerCapabilities where
  textDocumentSync := { openClose := true, change := 2 }
  hover := list.enabled .hover
  completion := list.provide .completion
    { resolves := true, triggers := list.merged (·.completionTriggers) }
  signatureHelp := list.provide .signatureHelp
    { triggers := list.merged (·.signatureTriggers), retriggers := [")"] }
  definition := list.enabled .definition
  typeDefinition := list.enabled .typeDefinition
  implementation := list.enabled .implementation
  references := list.enabled .references
  rename := list.enabled .rename
  documentSymbol := list.enabled .documentSymbols
  workspaceSymbol := list.enabled .workspaceSymbols
  codeAction := list.enabled .codeActions
  documentFormatting := list.enabled .formatting
  documentRangeFormatting := list.enabled .rangeFormatting
  documentOnTypeFormatting := list.provide .onTypeFormatting
    { first := ";", more := ["\x7d", "\n"] }
  foldingRange := list.enabled .foldingRanges
  selectionRange := list.enabled .selectionRanges
  semanticTokens := list.provide .semanticTokens
    { tokenTypes, tokenModifiers, range := true, full := true }
  inlayHint := list.enabled .inlayHints
  callHierarchy := list.enabled .callHierarchy
  diagnostic := list.provide .diagnostics
    { identifier := LanguagePlugin.rippleId, interFileDependencies := true,
      workspaceDiagnostics := false }

/-- What the server advertises to the client. -/
def advertised (list : PluginList) : Json :=
  list.serverCapabilities.toJson

end PluginList

end RippleServer
