/-
This file puts service plugins together. The generic plugins keep their order
and come before the plugin for diagnostics, and no two plugins may share an
identity.
-/

import RippleServer.Plugin.Service

namespace RippleServer

/-! ### Aggregation -/

/-- Why plugins could not be put together. -/
inductive CompositionError
  | duplicatePlugin (id : String)
  | factory (name reason : String)
deriving DecidableEq, Repr

/-- The words for plugins that could not be put together. -/
def CompositionError.message : CompositionError → String
  | .duplicatePlugin id => "service plugin '" ++ id ++ "' is registered more than once"
  | .factory name reason => name ++ " failed: " ++ reason

/-- The plugins that answer requests, in the order they are asked. -/
structure PluginList where
  plugins : List ServicePlugin
deriving DecidableEq, Repr

namespace PluginList

/-- The first entry that occurred before, in the list or among those already seen. -/
def firstRepeated? (seen : List String) : List String → Option String
  | [] => none
  | id :: rest => if seen.contains id then some id else firstRepeated? (id :: seen) rest

/-- The generic plugins followed by the plugin for diagnostics. -/
def aggregate (generic : List ServicePlugin) (diagnostics : ServicePlugin) :
    Except CompositionError PluginList :=
  let plugins := generic ++ [diagnostics]
  match firstRepeated? [] (plugins.map (·.id)) with
  | some id => .error (.duplicatePlugin id)
  | none => .ok ⟨plugins⟩

/-- The identities of the plugins. -/
def ids (list : PluginList) : List String :=
  list.plugins.map (·.id)

/-- Whether any plugin answers a feature. -/
def supports (list : PluginList) (capability : Capability) : Bool :=
  list.plugins.any (·.supports capability)

/-- The features the plugins answer, each of them once. -/
def listed (list : PluginList) : List Capability :=
  Capability.all.filter list.supports

end PluginList

end RippleServer
