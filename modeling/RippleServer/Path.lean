/-
This file describes paths. A path is kept as the text it was given by, because
messages show it that way, but it is compared by its components: repeated
separators and single dots do not count, except that a relative path may begin
with a dot of its own, and two dots are never resolved. Joining and taking the
parent work on the text and leave what they keep untouched.
-/

import RippleServer.Text.Blank

namespace RippleServer

/-- A path as it was written. -/
structure Path where
  text : String
deriving DecidableEq, Repr, Inhabited

namespace Path

/-! ### Components -/

/-- One step of a path. -/
inductive Component
  | root
  | here
  | up
  | name (text : String)
deriving DecidableEq, Repr

/-- What a path begins with, before its first separated part. -/
inductive Lead
  | nothing
  | root
  | here
deriving DecidableEq, Repr

/-- The characters a lead stands for. -/
def Lead.text : Lead → String
  | .nothing => ""
  | .root => "/"
  | .here => "."

/-- The component a lead contributes. -/
def Lead.components : Lead → List Component
  | .nothing => []
  | .root => [.root]
  | .here => [.here]

/-- The lead of a path and the parts between the separators behind it. -/
def parts (path : Path) : Lead × List String :=
  match path.text.toList with
  | '/' :: rest => (.root, Text.split '/' (String.ofList rest))
  | ['.'] => (.here, [])
  | '.' :: '/' :: rest => (.here, Text.split '/' (String.ofList ('/' :: rest)))
  | _ => (.nothing, Text.split '/' path.text)

/-- Empty parts and single dots are no components. -/
def vanishes (part : String) : Bool :=
  part = "" || part = "."

/-- The component a part that does not vanish stands for. -/
def Component.ofPart (part : String) : Component :=
  if part = ".." then .up else .name part

/-- The components of a path, in order. -/
def components (path : Path) : List Component :=
  path.parts.1.components ++
    (path.parts.2.filter fun part => !vanishes part).map Component.ofPart

/-- Two paths are the same when their components are. -/
def sameAs (left right : Path) : Bool :=
  left.components == right.components

/-- Whether the components of `root` begin those of the path. -/
def startsWith (path root : Path) : Bool :=
  root.components.isPrefixOf path.components

/-- How many components the path has. -/
def depth (path : Path) : Nat :=
  path.components.length

/-- Whether the path begins at the root. -/
def isAbsolute (path : Path) : Bool :=
  path.parts.1 == .root

/-! ### Joining and leaving -/

/-- The path `tail` seen from `base`. An absolute tail stands for itself; otherwise one separator
goes between the texts, unless the base is empty or already ends in one. -/
def join (base tail : Path) : Path :=
  if tail.isAbsolute then tail
  else if base.text.toList.getLast?.all (· == '/') then ⟨base.text ++ tail.text⟩
  else ⟨base.text ++ "/" ++ tail.text⟩

/-- The file or directory called `name` inside the path. -/
def child (path : Path) (name : String) : Path :=
  path.join ⟨name⟩

/-- The parts up to the last one that does not vanish. -/
def trimParts (parts : List String) : List String :=
  (parts.reverse.dropWhile vanishes).reverse

/-- The path without its last component. The root and the empty path have no parent. -/
def parent? (path : Path) : Option Path :=
  let (lead, parts) := path.parts
  match (trimParts parts).reverse with
  | _ :: front => some ⟨lead.text ++ Text.join "/" (trimParts front.reverse)⟩
  | [] => if lead = .here then some ⟨""⟩ else none

/-! ### File names -/

/-- The last component, if it is a name. -/
def fileName? (path : Path) : Option String :=
  match path.components.getLast? with
  | some (.name text) => some text
  | _ => none

/-- A file name divided at its last dot. A name without a dot, or with none but a leading one,
has no extension. -/
def splitName (name : String) : String × Option String :=
  match name.toList.reverse.span (· ≠ '.') with
  | (extension, '.' :: stem) =>
    if stem.isEmpty then (name, none)
    else (String.ofList stem.reverse, some (String.ofList extension.reverse))
  | _ => (name, none)

/-- The file name up to its last dot. -/
def stem? (path : Path) : Option String :=
  path.fileName?.map fun name => (splitName name).1

/-- The file name behind its last dot. -/
def extension? (path : Path) : Option String :=
  path.fileName?.bind fun name => (splitName name).2

/-! ### Small facts -/

theorem sameAs_iff {left right : Path} :
    left.sameAs right = true ↔ left.components = right.components := by
  simp [sameAs]

theorem startsWith_iff {path root : Path} :
    path.startsWith root = true ↔ root.components <+: path.components := by
  simp [startsWith]

end Path

end RippleServer
