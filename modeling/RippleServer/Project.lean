/-
This file manages projects. A project is created for a root when it is first
asked for and is kept from then on; roots are the same when their components
are, and the spelling that came first stays. A document belongs to the deepest
workspace folder around it, or else to its own directory.
-/

import RippleServer.Plugin.Language
import RippleServer.Sdk

namespace RippleServer

/-! ### Projects -/

/-- The analysis of the files below a root. -/
structure Project where
  root : Path
  sdk : Sdk
  messages : Messages
  languages : List LanguagePlugin
deriving DecidableEq, Repr

namespace Project

/-- The extensions of scripts the SDK analyses by itself. -/
def scriptExtensions : List String :=
  ["ts", "tsx", "mts", "cts", "js", "jsx", "mjs", "cjs"]

/-- Whether the SDK analyses a path by itself. -/
def isScript (path : Path) : Bool :=
  match path.extension? with
  | none => false
  | some extension => scriptExtensions.any fun known => Text.sameIgnoringCase known extension

/-- The language plugin for a path. -/
def languageFor? (project : Project) (path : Path) : Option LanguagePlugin :=
  project.languages.find? (·.accepts path)

/-- Whether a path lies below the root and is analysed. -/
def covers (project : Project) (path : Path) : Bool :=
  path.startsWith project.root && (isScript path || (project.languageFor? path).isSome)

end Project

/-! ### The service -/

/-- Creates projects and keeps them. -/
structure ProjectService where
  sdk : Sdk
  messages : Messages
  languages : List LanguagePlugin
  /-- The workspace folders of the client. -/
  folders : List Path := []
  /-- The projects created so far, in the order of their creation. -/
  projects : List Project := []
deriving DecidableEq, Repr

namespace ProjectService

/-- The project of a root, if there is one already. -/
def find? (service : ProjectService) (root : Path) : Option Project :=
  service.projects.find? fun project => project.root.sameAs root

/-- A new project of the service. -/
def create (service : ProjectService) (root : Path) : Project :=
  { root, sdk := service.sdk, messages := service.messages, languages := service.languages }

/-- The project of a root, which is created when it is first asked for. -/
def projectFor (service : ProjectService) (root : Path) : Traced (Project × ProjectService) :=
  match service.find? root with
  | some project => pure (project, service)
  | none => do
    Traced.emit (.projectCreated root)
    let project := service.create root
    pure (project, { service with projects := service.projects ++ [project] })

/-- The last of the deepest paths. -/
def deepest? (paths : List Path) : Option Path :=
  paths.foldl
    (fun best path =>
      match best with
      | none => some path
      | some other => if other.depth ≤ path.depth then some path else some other)
    none

/-- The root a document belongs to: the deepest folder around it, its parent, or itself. -/
def rootFor (service : ProjectService) (document : Path) : Path :=
  match deepest? (service.folders.filter document.startsWith) with
  | some folder => folder
  | none => document.parent?.getD document

/-- The project of a document. -/
def projectForDocument (service : ProjectService) (document : Path) :
    Traced (Project × ProjectService) :=
  service.projectFor (service.rootFor document)

/-- The number of projects created so far. -/
def count (service : ProjectService) : Nat :=
  service.projects.length

end ProjectService

end RippleServer
