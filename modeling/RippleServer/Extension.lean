/-
This file provides the factories for plugins. They come from the directory of
the editor's extension, which has one module for the language and one for
TypeScript; both have to be there before any factory is used. Factories may
also be put together by hand, and then they may refuse to work.
-/

import RippleServer.Plugin.Language
import RippleServer.Sdk

namespace RippleServer

/-- The factories for plugins. -/
structure Extensions where
  /-- The language plugin for a compiler. -/
  languagePlugin : Module → Except CompositionError LanguagePlugin
  /-- The plugin for diagnostics of the language. -/
  diagnosticsPlugin : ServicePlugin
  /-- The generic plugins for an SDK. -/
  servicePlugins : Sdk → Attempt CompositionError (List ServicePlugin)
  servicePlugins_modest : ∀ sdk, (servicePlugins sdk).run.Modest

/-- Where factories come from. -/
structure ExtensionSource where
  load : Loader → Attempt InitializeError Extensions
  load_modest : ∀ loader, (load loader).run.Modest

namespace Extensions

/-- The module of the language. -/
def languageModule : String := "language.js"

/-- The module of the generic plugins. -/
def serviceModule : String := "ts.js"

/-- The identity of the plugin for diagnostics. -/
def diagnosticsId : String := "ripple-diagnostics"

/-- The plugin for diagnostics of the language. -/
def rippleDiagnostics : ServicePlugin :=
  ({ id := diagnosticsId } : ServicePlugin).withDiagnosticSource LanguagePlugin.rippleId

/-- The generic plugins, in the order they are asked. -/
def genericPlugins : List ServicePlugin :=
  [({ id := "typescript-syntactic" } : ServicePlugin).withCapabilities
      [.documentSymbols, .foldingRanges, .selectionRanges, .formatting, .rangeFormatting,
        .onTypeFormatting],
    (((({ id := "typescript-semantic" } : ServicePlugin).withCapabilities
      [.hover, .definition, .typeDefinition, .implementation, .references, .rename,
        .workspaceSymbols, .codeActions, .semanticTokens, .inlayHints, .callHierarchy]
      ).withCompletionTriggers [".", "\"", "'", "`", "/", "@", "<", "#", " "]
      ).withSignatureTriggers ["(", ",", "<"]
      ).withDiagnosticSource "ts",
    ({ id := "typescript-doc-comment-template" } : ServicePlugin).withCompletionTriggers ["*"],
    ({ id := "typescript-directive-comment" } : ServicePlugin).withCompletionTriggers ["@"]]

/-- The factories of the editor's extension. -/
def standard : Extensions where
  languagePlugin := fun compiler => .ok (.ripple compiler)
  diagnosticsPlugin := rippleDiagnostics
  servicePlugins := fun sdk => do
    Attempt.emit (.servicePluginsBuilt sdk.root)
    pure genericPlugins
  servicePlugins_modest := fun _ =>
    Attempt.modest_bind (Attempt.modest_emit rfl) fun _ => Traced.modest_pure _

end Extensions

namespace ExtensionSource

/-- Loads one module of the extension. -/
def loadModule (loader : Loader) (root : Path) (name : String) : Attempt InitializeError Module :=
  (loader.fetch (root.child name)).mapError (.load (.extensionModule name))

theorem loadModule_modest (loader : Loader) (root : Path) (name : String) :
    (loadModule loader root name).run.Modest :=
  (loader.fetch_modest _).map _

/-- The extension in a directory. Without a directory there is nothing to load. -/
def directory (root? : Option Path) : ExtensionSource where
  load := fun loader =>
    match root? with
    | none => throw (.configuration .missingExtensionRoot)
    | some root => do
      let _ ← loadModule loader root Extensions.languageModule
      let _ ← loadModule loader root Extensions.serviceModule
      Attempt.emit (.extensionsLoaded root)
      pure Extensions.standard
  load_modest := fun loader => by
    cases root? with
    | none => exact Traced.modest_pure _
    | some root =>
      exact Attempt.modest_bind (loadModule_modest _ _ _) fun _ =>
        Attempt.modest_bind (loadModule_modest _ _ _) fun _ =>
          Attempt.modest_bind (Attempt.modest_emit rfl) fun _ => Traced.modest_pure _

/-- Factories that yield what they were given, unless they were given a reason to fail. -/
def prepared (plugins : List ServicePlugin) (diagnostics : ServicePlugin)
    (languageFailure serviceFailure : Option String) : ExtensionSource where
  load := fun _ => pure {
    languagePlugin := fun compiler =>
      match languageFailure with
      | some reason => .error (.factory Extensions.languageModule reason)
      | none => .ok (.ripple compiler)
    diagnosticsPlugin := diagnostics
    servicePlugins := fun _ =>
      match serviceFailure with
      | some reason => throw (.factory Extensions.serviceModule reason)
      | none => pure plugins
    servicePlugins_modest := fun _ => by cases serviceFailure <;> exact Traced.modest_pure _ }
  load_modest := fun _ => Traced.modest_pure _

end ExtensionSource

end RippleServer
