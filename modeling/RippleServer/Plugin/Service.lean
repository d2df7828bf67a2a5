/-
This file describes service plugins. A service plugin answers some of the
requests of the protocol. Declaring trigger characters or a source of
diagnostics implies that the plugin answers the requests these belong to.
-/

namespace RippleServer

/-! ### Capabilities -/

/-- A feature of the protocol a plugin can answer. -/
inductive Capability
  | hover
  | completion
  | signatureHelp
  | definition
  | typeDefinition
  | implementation
  | references
  | rename
  | documentSymbols
  | workspaceSymbols
  | codeActions
  | formatting
  | rangeFormatting
  | onTypeFormatting
  | foldingRanges
  | selectionRanges
  | semanticTokens
  | inlayHints
  | callHierarchy
  | diagnostics
deriving DecidableEq, Repr

namespace Capability

/-- All capabilities, in the order they are listed in. -/
def all : List Capability :=
  [.hover, .completion, .signatureHelp, .definition, .typeDefinition, .implementation, .references,
    .rename, .documentSymbols, .workspaceSymbols, .codeActions, .formatting, .rangeFormatting,
    .onTypeFormatting, .foldingRanges, .selectionRanges, .semanticTokens, .inlayHints,
    .callHierarchy, .diagnostics]

theorem mem_all (capability : Capability) : capability ∈ all := by
  cases capability <;> decide

end Capability

/-! ### Plugins -/

/-- A provider of protocol features. -/
structure ServicePlugin where
  id : String
  /-- The features the plugin answers; order and repetitions have no meaning. -/
  capabilities : List Capability := []
  completionTriggers : List String := []
  signatureTriggers : List String := []
  /-- The source its diagnostics name. -/
  diagnosticSource : Option String := none
deriving DecidableEq, Repr

namespace ServicePlugin

/-- Whether the plugin answers a feature. -/
def supports (plugin : ServicePlugin) (capability : Capability) : Bool :=
  plugin.capabilities.contains capability

/-- Adds features. -/
def withCapabilities (plugin : ServicePlugin) (capabilities : List Capability) : ServicePlugin :=
  { plugin with capabilities := plugin.capabilities ++ capabilities }

/-- Adds characters that trigger completion, which the plugin then answers. -/
def withCompletionTriggers (plugin : ServicePlugin) (triggers : List String) : ServicePlugin :=
  { plugin.withCapabilities [.completion] with
    completionTriggers := plugin.completionTriggers ++ triggers }

/-- Adds characters that trigger signature help, which the plugin then answers. -/
def withSignatureTriggers (plugin : ServicePlugin) (triggers : List String) : ServicePlugin :=
  { plugin.withCapabilities [.signatureHelp] with
    signatureTriggers := plugin.signatureTriggers ++ triggers }

/-- Names the source of diagnostics, which the plugin then provides. -/
def withDiagnosticSource (plugin : ServicePlugin) (source : String) : ServicePlugin :=
  { plugin.withCapabilities [.diagnostics] with diagnosticSource := some source }

/-- The features the plugin answers, each of them once. -/
def listed (plugin : ServicePlugin) : List Capability :=
  Capability.all.filter plugin.supports

theorem mem_listed {plugin : ServicePlugin} {capability : Capability} :
    capability ∈ plugin.listed ↔ plugin.supports capability = true := by
  simp [listed, Capability.mem_all]

end ServicePlugin

end RippleServer
