/-
This file tells that no trigger is lost on its way from a plugin to the client.
A plugin is described step by step, and each step that declares triggers or a
source of diagnostics also makes the plugin answer the requests these belong to;
so a plugin keeps its promises, whatever the order of the steps. The server that
is put together of such plugins then advertises the features, and has for each of
them the triggers of all plugins in the order in which they are mentioned first.
-/

import RippleServer.Proofs.Composition
import RippleServer.Proofs.Providers

namespace RippleServer

/-! ### Describing a plugin -/

namespace ServicePlugin

/-- A step in the description of a plugin. -/
inductive Declaration
  | capabilities (capabilities : List Capability)
  | completionTriggers (triggers : List String)
  | signatureTriggers (triggers : List String)
  | diagnosticSource (source : String)

namespace Declaration

/-- The completion triggers a step declares. -/
def completion : Declaration → List String
  | .completionTriggers triggers => triggers
  | _ => []

/-- The signature triggers a step declares. -/
def signature : Declaration → List String
  | .signatureTriggers triggers => triggers
  | _ => []

/-- The source of diagnostics a step declares. -/
def source? : Declaration → Option String
  | .diagnosticSource source => some source
  | _ => none

end Declaration

/-- The plugin after one more step. -/
def declare (plugin : ServicePlugin) : Declaration → ServicePlugin
  | .capabilities capabilities => plugin.withCapabilities capabilities
  | .completionTriggers triggers => plugin.withCompletionTriggers triggers
  | .signatureTriggers triggers => plugin.withSignatureTriggers triggers
  | .diagnosticSource source => plugin.withDiagnosticSource source

section Declare

variable (plugin : ServicePlugin) (declaration : Declaration)

theorem completionTriggers_declare :
    (plugin.declare declaration).completionTriggers =
      plugin.completionTriggers ++ declaration.completion := by
  cases declaration with
  | completionTriggers triggers => rfl
  | _ => exact (List.append_nil _).symm

theorem signatureTriggers_declare :
    (plugin.declare declaration).signatureTriggers =
      plugin.signatureTriggers ++ declaration.signature := by
  cases declaration with
  | signatureTriggers triggers => rfl
  | _ => exact (List.append_nil _).symm

theorem diagnosticSource_declare :
    (plugin.declare declaration).diagnosticSource =
      declaration.source?.or plugin.diagnosticSource := by
  cases declaration <;> rfl

/-- No step takes a feature away. -/
theorem capabilities_subset_declare :
    plugin.capabilities ⊆ (plugin.declare declaration).capabilities := by
  cases declaration <;> exact List.subset_append_left _ _

end Declare

/-! ### Plugins that keep their promises -/

/-- What a plugin declares it also answers. -/
structure KeepsPromises (plugin : ServicePlugin) : Prop where
  completion : plugin.completionTriggers ≠ [] → .completion ∈ plugin.capabilities
  signatureHelp : plugin.signatureTriggers ≠ [] → .signatureHelp ∈ plugin.capabilities
  diagnostics : plugin.diagnosticSource ≠ none → .diagnostics ∈ plugin.capabilities

theorem keepsPromises_new (id : String) : KeepsPromises { id } where
  completion := fun some => absurd rfl some
  signatureHelp := fun some => absurd rfl some
  diagnostics := fun some => absurd rfl some

theorem KeepsPromises.declare {plugin : ServicePlugin} (keeps : plugin.KeepsPromises)
    (declaration : Declaration) : (plugin.declare declaration).KeepsPromises := by
  have kept := capabilities_subset_declare plugin declaration
  cases declaration with
  | capabilities capabilities =>
    exact ⟨fun some => kept (keeps.completion some), fun some => kept (keeps.signatureHelp some),
      fun some => kept (keeps.diagnostics some)⟩
  | completionTriggers triggers =>
    exact ⟨fun _ => List.mem_append_right _ List.mem_cons_self,
      fun some => kept (keeps.signatureHelp some), fun some => kept (keeps.diagnostics some)⟩
  | signatureTriggers triggers =>
    exact ⟨fun some => kept (keeps.completion some),
      fun _ => List.mem_append_right _ List.mem_cons_self,
      fun some => kept (keeps.diagnostics some)⟩
  | diagnosticSource source =>
    exact ⟨fun some => kept (keeps.completion some), fun some => kept (keeps.signatureHelp some),
      fun _ => List.mem_append_right _ List.mem_cons_self⟩

/-! ### Described plugins -/

/-- A plugin by the steps that describe it. -/
structure Description where
  id : String
  declarations : List Declaration

namespace Description

/-- The plugin that is described. -/
def plugin (description : Description) : ServicePlugin :=
  description.declarations.foldl declare { id := description.id }

/-- All completion triggers that are declared. -/
def completion (description : Description) : List String :=
  description.declarations.flatMap Declaration.completion

/-- All signature triggers that are declared. -/
def signature (description : Description) : List String :=
  description.declarations.flatMap Declaration.signature

/-- All sources of diagnostics that are declared. -/
def sources (description : Description) : List String :=
  description.declarations.filterMap Declaration.source?

theorem keepsPromises (description : Description) : description.plugin.KeepsPromises :=
  description.declarations.foldlRecOn declare (keepsPromises_new description.id)
    fun _ keeps declaration _ => keeps.declare declaration

/-- The plugin has the triggers that were declared, and the source that was declared last. -/
structure Fulfils (description : Description) (plugin : ServicePlugin) : Prop where
  completion : plugin.completionTriggers = description.completion
  signature : plugin.signatureTriggers = description.signature
  source : plugin.diagnosticSource = description.sources.getLast?

theorem Fulfils.declare {id : String} {declarations : List Declaration} {plugin : ServicePlugin}
    (fulfils : Fulfils ⟨id, declarations⟩ plugin) (last : Declaration) :
    Fulfils ⟨id, declarations ++ [last]⟩ (plugin.declare last) where
  completion := by
    rw [completionTriggers_declare, fulfils.completion, Description.completion,
      Description.completion, List.flatMap_append, List.flatMap_singleton]
  signature := by
    rw [signatureTriggers_declare, fulfils.signature, Description.signature, Description.signature,
      List.flatMap_append, List.flatMap_singleton]
  source := by
    rw [diagnosticSource_declare, fulfils.source, sources, sources, List.filterMap_append,
      List.getLast?_append]
    cases named : last.source? <;> simp [named]

theorem fulfils (description : Description) : description.Fulfils description.plugin := by
  obtain ⟨id, declarations⟩ := description
  induction declarations using List.reverseRecOn with
  | nil => exact ⟨rfl, rfl, rfl⟩
  | append_singleton declarations last inductionHypothesis =>
    rw [plugin, List.foldl_append]
    exact inductionHypothesis.declare last

end Description

end ServicePlugin

/-! ### Triggers of a server -/

namespace PluginList

open ServicePlugin (Description)

/-- The provider is advertised with these trigger characters. -/
def Announces (value : Json) (provider : String) (triggers : List String) : Prop :=
  ∃ options, value.get? provider = some options ∧
    options.get? "triggerCharacters" = some (.strs triggers)

variable {list : PluginList} {capability : Capability}

theorem get?_completion_triggers (list : PluginList) :
    (list.providerValue .completion).get? "triggerCharacters" =
      some (.strs (list.merged (·.completionTriggers))) :=
  rfl

theorem get?_signature_triggers (list : PluginList) :
    (list.providerValue .signatureHelp).get? "triggerCharacters" =
      some (.strs (list.merged (·.signatureTriggers))) :=
  rfl

theorem supports_of_mem {plugin : ServicePlugin} (member : plugin ∈ list.plugins)
    (answers : capability ∈ plugin.capabilities) : list.supports capability = true :=
  supports_iff.mpr ⟨plugin, member, List.contains_iff_mem.mpr answers⟩

/-- A feature whose options take triggers is advertised with those of all plugins, if any plugin
declares one and thereby promises the feature. -/
theorem announces_of_promised {triggers : ServicePlugin → List String}
    (options : (list.providerValue capability).get? "triggerCharacters" =
      some (.strs (list.merged triggers)))
    (promised : ∀ plugin ∈ list.plugins, triggers plugin ≠ [] → capability ∈ plugin.capabilities)
    (declared : ∃ plugin ∈ list.plugins, triggers plugin ≠ []) :
    Announces list.advertised capability.provider
      (firstMentions (list.plugins.flatMap triggers)) := by
  obtain ⟨plugin, member, some⟩ := declared
  have supported := supports_of_mem member (promised plugin member some)
  rw [merged_eq_firstMentions] at options
  exact ⟨_, get?_provider supported, options⟩

/-- Of plugins that are put together, no declared trigger is lost and none is repeated. If any of
them declares a trigger for completion or for signature help, the feature is advertised with all
triggers that are declared for it, in the order of the plugins and each of them where it is
mentioned first; and if any of them has a source of diagnostics, these are advertised. -/
theorem aggregate_announces {generic : List Description} {diagnostics : Description}
    (aggregated : aggregate (generic.map (·.plugin)) diagnostics.plugin = .ok list) :
    let described := generic ++ [diagnostics]
    let plugins := described.map (·.plugin)
    let completion := plugins.flatMap (·.completionTriggers)
    let signature := plugins.flatMap (·.signatureTriggers)
    (∀ description ∈ described, description.Fulfils description.plugin) ∧
      ((∃ plugin ∈ plugins, plugin.completionTriggers ≠ []) →
        Announces list.advertised "completionProvider" (firstMentions completion)) ∧
      ((∃ plugin ∈ plugins, plugin.signatureTriggers ≠ []) →
        Announces list.advertised "signatureHelpProvider" (firstMentions signature)) ∧
      ((∃ plugin ∈ plugins, plugin.diagnosticSource ≠ none) →
        "diagnosticProvider" ∈ list.advertised.names) ∧
      (∀ trigger ∈ completion, (firstMentions completion).count trigger = 1) ∧
      ∀ trigger ∈ signature, (firstMentions signature).count trigger = 1 := by
  intro described plugins completion signature
  have listed : list.plugins = plugins := by
    rw [(aggregate_eq_ok_iff.mp aggregated).1]
    simp [plugins, described]
  have keeps : ∀ plugin ∈ list.plugins, plugin.KeepsPromises := by
    intro plugin member
    obtain ⟨description, -, rfl⟩ := List.mem_map.mp (listed ▸ member)
    exact description.keepsPromises
  refine ⟨fun description _ => description.fulfils, fun declared => ?_, fun declared => ?_, ?_,
    fun _ => count_firstMentions, fun _ => count_firstMentions⟩
  · rw [← listed] at declared
    have announced := announces_of_promised (get?_completion_triggers list)
      (fun plugin member => (keeps plugin member).completion) declared
    rwa [listed] at announced
  · rw [← listed] at declared
    have announced := announces_of_promised (get?_signature_triggers list)
      (fun plugin member => (keeps plugin member).signatureHelp) declared
    rwa [listed] at announced
  · rintro ⟨plugin, member, named⟩
    have listed : plugin ∈ list.plugins := listed ▸ member
    exact provider_mem_names.mpr (supports_of_mem listed ((keeps plugin listed).diagnostics named))

/-- A trigger that comes three times, in two plugins, is advertised where it comes first, and a step
that declares features or a source makes no difference to the triggers around it. -/
theorem aggregate_announces_shared_triggers :
    let semantic : Description := ⟨"semantic", [.completionTriggers [".", "@"],
      .diagnosticSource "ts", .capabilities [.hover], .completionTriggers [".", "/"]]⟩
    let directive : Description := ⟨"directive", [.signatureTriggers ["("],
      .completionTriggers ["@", "*", "."]]⟩
    let diagnostics : Description := ⟨"ripple", [.signatureTriggers [",", "("]]⟩
    let list : PluginList := ⟨[semantic.plugin, directive.plugin, diagnostics.plugin]⟩
    aggregate [semantic.plugin, directive.plugin] diagnostics.plugin = .ok list ∧
      Announces list.advertised "completionProvider" [".", "@", "/", "*"] ∧
      Announces list.advertised "signatureHelpProvider" ["(", ","] ∧
      "diagnosticProvider" ∈ list.advertised.names := by
  intro semantic directive diagnostics list
  have aggregated :
      aggregate ([semantic, directive].map (·.plugin)) diagnostics.plugin = .ok list := by decide
  obtain ⟨-, completion, signature, source, -, -⟩ := aggregate_announces aggregated
  exact ⟨aggregated, completion (by decide), signature (by decide), source (by decide)⟩

end PluginList

end RippleServer
