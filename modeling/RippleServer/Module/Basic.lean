/-
This file describes the modules the server loads at run time: where a module
was found, what its package manifest says about it, and how looking for one can
fail. A loader answers two questions, for a module and for a JSON resource at a
path, and everything else only knows modules through a loader.
-/

import RippleServer.Json.Decode
import RippleServer.Path

namespace RippleServer

/-! ### Manifests -/

/-- The part of a package manifest the server looks at. -/
structure Manifest where
  name : Option String := none
  version : Option String := none
  main : Option String := none
deriving DecidableEq, Repr, Inhabited

namespace Manifest

def layout : Json.Layout :=
  { name := "PackageManifest", fields := ["name", "version", "main"], defaults := true }

/-- Reads one field of a manifest. -/
def field (manifest : Manifest) (name : String) (value : Json) : Json.Decoded Manifest := do
  let text ← Json.asOptional Json.asText value
  .ok (if name = "name" then { manifest with name := text }
    else if name = "version" then { manifest with version := text }
    else { manifest with main := text })

/-- The manifest a value holds. -/
def ofJson (value : Json) : Json.Decoded Manifest :=
  layout.fold field {} value

end Manifest

/-! ### Modules -/

/-- A module that was found. -/
structure Module where
  path : Path
  manifest : Option Manifest := none
deriving DecidableEq, Repr, Inhabited

namespace Module

/-- The name in the manifest, or else the file name without its extension, or else the path. -/
def name (module : Module) : String :=
  ((module.manifest.bind (·.name)).or module.path.stem?).getD module.path.text

/-- The version in the manifest. -/
def version? (module : Module) : Option String :=
  module.manifest.bind (·.version)

end Module

/-! ### Loading -/

/-- Why a module or a resource could not be loaded. -/
inductive LoadError
  | notFound (path : Path)
  | unreadable (path : Path) (reason : String)
  | malformed (path : Path) (reason : String)
  | incompatible (path : Path) (reason : String)
deriving DecidableEq, Repr

/-- The words for a failed load. -/
def LoadError.message : LoadError → String
  | .notFound path => "module '" ++ path.text ++ "' was not found"
  | .unreadable path reason => "failed to read module '" ++ path.text ++ "': " ++ reason
  | .malformed path reason => "module '" ++ path.text ++ "' is malformed: " ++ reason
  | .incompatible path reason => "module '" ++ path.text ++ "' is incompatible: " ++ reason

/-- Whether there simply was nothing at the path. -/
def LoadError.isNotFound : LoadError → Bool
  | .notFound _ => true
  | _ => false

/-- What is asked of a loader. -/
inductive Lookup
  | load (path : Path)
  | loadJson (path : Path)
deriving DecidableEq, Repr

/-- Finds modules and JSON resources by their path. -/
structure Loader where
  load : Path → Except LoadError Module
  loadJson : Path → Except LoadError Json

/-- A loader that answers some paths with an error prepared for them, whatever is asked. -/
def Loader.withFailures (loader : Loader) (failures : List (Path × LoadError)) : Loader :=
  let failure? := fun path =>
    (failures.reverse.find? fun failure => failure.1.sameAs path).map (·.2)
  { load := fun path =>
      match failure? path with
      | some error => .error error
      | none => loader.load path
    loadJson := fun path =>
      match failure? path with
      | some error => .error error
      | none => loader.loadJson path }

/-! ### Catalogs -/

/-- Modules and resources held in memory, in the order they were registered. -/
structure Catalog where
  modules : List Module := []
  resources : List (Path × Json) := []

/-- The loader of a catalog. Paths are compared by their components, and the last registration of
a path counts. -/
def Catalog.loader (catalog : Catalog) : Loader where
  load := fun path =>
    match catalog.modules.reverse.find? fun module => module.path.sameAs path with
    | some module => .ok module
    | none => .error (.notFound path)
  loadJson := fun path =>
    match catalog.resources.reverse.find? fun resource => resource.1.sameAs path with
    | some resource => .ok resource.2
    | none => .error (.notFound path)

end RippleServer
