/-
This file loads modules from a disk. A disk is what the operating system
answers for a path: a directory, a file with its content, a file that cannot be
read, or an error. A module is a file or a package directory. The manifest of a
package is optional, but one that is there has to be usable, and the entry point
it names has to exist.
-/

import RippleServer.Json.Reader
import RippleServer.Module.Basic

namespace RippleServer

/-! ### Disks -/

/-- Why the operating system did not answer. -/
inductive OsError
  | notFound
  | notDirectory
  | isDirectory
  | nameTooLong
  | nulByte
  | notUtf8
  | other (message : String)
deriving DecidableEq, Repr

/-- The words of the operating system. -/
def OsError.message : OsError → String
  | .notFound => "No such file or directory (os error 2)"
  | .notDirectory => "Not a directory (os error 20)"
  | .isDirectory => "Is a directory (os error 21)"
  | .nameTooLong => "File name too long (os error 36)"
  | .nulByte => "file name contained an unexpected NUL byte"
  | .notUtf8 => "stream did not contain valid UTF-8"
  | .other message => message

/-- What stands at a path. A file that is closed stands there, but cannot be read for the reason
given. -/
inductive Node
  | directory
  | file (content : Bytes)
  | closed (message : String)
deriving DecidableEq, Repr

/-- A file system, with a working directory that relative paths start from. -/
structure Disk where
  node : Path → Except OsError Node

namespace Disk

/-- Whether anything stands at the path. -/
def holds (disk : Disk) (path : Path) : Bool :=
  (disk.node path).toBool

/-- The content of a file that is text. -/
def text (disk : Disk) (path : Path) : Except OsError Bytes :=
  match disk.node path with
  | .error error => .error error
  | .ok .directory => .error .isDirectory
  | .ok (.closed message) => .error (.other message)
  | .ok (.file content) =>
    match Text.decode? content with
    | some _ => .ok content
    | none => .error .notUtf8

/-- A disk of which only some paths are known. Nothing stands at the others. -/
def ofNodes (nodes : List (Path × Except OsError Node)) : Disk where
  node := fun path =>
    match nodes.find? fun entry => entry.1 == path with
    | some entry => entry.2
    | none => .error .notFound

end Disk

/-! ### Loading -/

/-- Loads modules from a disk; relative paths start from the base directory. -/
structure DiskLoader where
  base : Path
  disk : Disk

namespace DiskLoader

/-- The name of the manifest in a package directory. -/
def manifestName : String := "package.json"

/-- The path seen from the base directory. -/
def resolve (loader : DiskLoader) (path : Path) : Path :=
  if path.isAbsolute then path else loader.base.join path

/-- The error of a path the operating system did not answer for. -/
def loadError (path : Path) : OsError → LoadError
  | .notFound => .notFound path
  | error => .unreadable path error.message

/-- Loads a JSON resource. -/
def loadJson (loader : DiskLoader) (path : Path) : Except LoadError Json :=
  let resolved := loader.resolve path
  match loader.disk.text resolved with
  | .error error => .error (loadError resolved error)
  | .ok content =>
    match Json.read content with
    | .ok value => .ok value
    | .error fault => .error (.malformed resolved (fault.message content))

/-- Loads a package directory. The path of its manifest goes through the loader like any other,
so it is seen from the base directory once more. -/
def loadPackage (loader : DiskLoader) (directory : Path) : Except LoadError Module :=
  let manifestPath := directory.child manifestName
  match loader.loadJson manifestPath with
  | .error (.notFound _) => .ok { path := directory }
  | .error error => .error error
  | .ok value =>
    match Manifest.ofJson value with
    | .error problem => .error (.malformed manifestPath problem.message)
    | .ok manifest =>
      match manifest.main with
      | none => .ok { path := directory, manifest := some manifest }
      | some main =>
        if loader.disk.holds (directory.child main) then
          .ok { path := directory, manifest := some manifest }
        else
          .error (.malformed directory ("entry point '" ++ main ++ "' does not exist"))

/-- Loads a module. -/
def load (loader : DiskLoader) (path : Path) : Except LoadError Module :=
  let resolved := loader.resolve path
  match loader.disk.node resolved with
  | .error error => .error (loadError resolved error)
  | .ok .directory => loader.loadPackage resolved
  | .ok _ => .ok { path := resolved }

/-- The entry point the manifest of a package names. -/
def entryPoint? (loader : DiskLoader) (directory : Path) : Option Path :=
  match loader.loadJson (directory.child manifestName) with
  | .error _ => none
  | .ok value =>
    match Manifest.ofJson value with
    | .error _ => none
    | .ok manifest => manifest.main.map directory.child

/-- The paths of the disk an answer to a lookup may depend on. -/
def reads (loader : DiskLoader) : Lookup → List Path
  | .loadJson path => [loader.resolve path]
  | .load path =>
    let directory := loader.resolve path
    [directory, loader.resolve (directory.child manifestName)] ++
      (loader.entryPoint? directory).toList

/-- The two questions a loader answers. -/
def toLoader (loader : DiskLoader) : Loader where
  load := loader.load
  loadJson := loader.loadJson

end DiskLoader

/-! ### Trees -/

/-- A disk given by its entries: the names from the root on, and what stands there. Directories
above an entry exist with it. -/
structure FileTree where
  entries : List (List String × Node) := []
  /-- The names of the working directory. -/
  workingDirectory : List String := []

namespace FileTree

/-- What stands at the end of a list of names. -/
def lookup? (tree : FileTree) (names : List String) : Option Node :=
  match tree.entries.reverse.find? fun entry => entry.1 == names with
  | some entry => some entry.2
  | none =>
    if names.isEmpty || tree.entries.any fun entry => names.isPrefixOf entry.1 then
      some .directory
    else none

/-- Follows the parts of a path from a place that exists. Every part, also an empty one, can only
be followed from a directory. -/
def walk (tree : FileTree) : List String → Node → List String → Except OsError Node
  | _, node, [] => .ok node
  | _, .file _, _ :: _ => .error .notDirectory
  | _, .closed _, _ :: _ => .error .notDirectory
  | place, .directory, part :: rest =>
    if part = "" ∨ part = "." then tree.walk place .directory rest
    else if part = ".." then tree.walk place.dropLast .directory rest
    else if 255 < (Text.encode part).length then .error .nameTooLong
    else
      match tree.lookup? (place ++ [part]) with
      | some node => tree.walk (place ++ [part]) node rest
      | none => .error .notFound

/-- The disk of a tree. -/
def disk (tree : FileTree) : Disk where
  node := fun path =>
    if path.text.toList.contains '\x00' then .error .nulByte
    else if path.text = "" then .error .notFound
    else if 4096 ≤ (Text.encode path.text).length then .error .nameTooLong
    else
      let start := if path.isAbsolute then [] else tree.workingDirectory
      tree.walk start .directory (Text.split '/' path.text)

/-- The names a path leads through when it starts from a place. -/
def place (start : List String) (path : Path) : List String :=
  path.components.foldl
    (fun names component =>
      match component with
      | .root => []
      | .here => names
      | .up => names.dropLast
      | .name text => names ++ [text])
    start

/-- Adds an entry, at a path seen from the working directory. -/
def add (tree : FileTree) (path : Path) (node : Node) : FileTree :=
  { tree with entries := tree.entries ++ [(place tree.workingDirectory path, node)] }

end FileTree

end RippleServer
