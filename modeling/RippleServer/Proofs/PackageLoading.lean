/-
This file tells what loading a module from a disk gives, by what stands at the
place of the module. A package may come without a manifest, but only because
nothing stands where the manifest would be; a manifest that is there and cannot be
used is an error, and so is one that names an entry point where nothing stands.
All this is said of loaders whose base begins with a slash: with such a base a
place is the same however often it is seen from there.
-/

import Mathlib.Control.Monad.Basic
import RippleServer.Module.Disk
import RippleServer.Proofs.JoinedPaths
import RippleServer.Proofs.Utf8

namespace RippleServer

/-! ### Texts on a disk -/

namespace Disk

variable {disk : Disk} {place : Path} {content : Bytes} {error : OsError}

/-- A file with the bytes of a text stands at the place. -/
def HoldsText (disk : Disk) (place : Path) (content : Bytes) : Prop :=
  disk.node place = .ok (.file content) ∧ ∃ text, Text.encode text = content

/-- Why no text can be read at a place. -/
inductive Unreadable (disk : Disk) (place : Path) : OsError → Prop
  | unanswered {error : OsError} (fails : disk.node place = .error error) :
    Unreadable disk place error
  | directory (found : disk.node place = .ok .directory) : Unreadable disk place .isDirectory
  | closed {message : String} (found : disk.node place = .ok (.closed message)) :
    Unreadable disk place (.other message)
  | notText {content : Bytes} (found : disk.node place = .ok (.file content))
    (other : ∀ text, Text.encode text ≠ content) : Unreadable disk place .notUtf8

theorem HoldsText.text_eq (holds : disk.HoldsText place content) :
    disk.text place = .ok content := by
  obtain ⟨found, spelled, encoded⟩ := holds
  simp only [text, found, Text.decode?_eq_some_iff.mpr encoded]

theorem Unreadable.text_eq (unreadable : disk.Unreadable place error) :
    disk.text place = .error error := by
  cases unreadable with
  | unanswered fails => simp only [text, fails]
  | directory found => simp only [text, found]
  | closed found => simp only [text, found]
  | notText found other =>
    have unread : ∀ text, Text.decode? _ ≠ some text := fun text =>
      mt Text.decode?_eq_some_iff.mp (other text)
    simp only [text, found, Option.eq_none_iff_forall_ne_some.mpr unread]

/-- There is a text at a place, or a reason why there is none. -/
theorem holdsText_or_unreadable (disk : Disk) (place : Path) :
    (∃ content, disk.HoldsText place content) ∨ ∃ error, disk.Unreadable place error := by
  cases stands : disk.node place with
  | error error => exact .inr ⟨error, .unanswered stands⟩
  | ok node =>
    cases node with
    | directory => exact .inr ⟨.isDirectory, .directory stands⟩
    | closed message => exact .inr ⟨.other message, .closed stands⟩
    | file content =>
      by_cases encoded : ∃ text, Text.encode text = content
      · exact .inl ⟨content, stands, encoded⟩
      · exact .inr ⟨.notUtf8, .notText stands fun text same => encoded ⟨text, same⟩⟩

theorem holds_iff : disk.holds place = true ↔ ∃ node, disk.node place = .ok node := by
  rw [holds]
  cases disk.node place <;> simp [Except.toBool]

/-- The manifest of a package can be read and used. -/
def Describes (disk : Disk) (package : Path) (manifest : Manifest) : Prop :=
  ∃ content value, disk.HoldsText (package.child "package.json") content ∧
    Json.read content = .ok value ∧ Manifest.ofJson value = .ok manifest

end Disk

/-! ### The functions of a loader -/

namespace DiskLoader

variable {loader : DiskLoader} {path directory : Path}

theorem resolve_eq_join (loader : DiskLoader) (path : Path) :
    loader.resolve path = loader.base.join path := by
  rw [resolve]
  split
  · rename_i absolute
    exact (Path.join_of_absolute absolute).symm
  · rfl

theorem loadError_of_ne {error : OsError} (other : error ≠ .notFound) (path : Path) :
    loadError path error = .unreadable path error.message := by
  cases error with
  | notFound => exact absurd rfl other
  | _ => rfl

section LoadJson

variable {place : Path} {content : Bytes}

theorem loadJson_of_unreadable {error : OsError} (seen : loader.resolve path = place)
    (unreadable : loader.disk.Unreadable place error) :
    loader.loadJson path = .error (loadError place error) := by
  simp only [loadJson, seen, unreadable.text_eq]

theorem loadJson_of_broken {fault : Json.Fault} (seen : loader.resolve path = place)
    (holds : loader.disk.HoldsText place content) (broken : Json.read content = .error fault) :
    loader.loadJson path = .error (.malformed place (fault.message content)) := by
  simp only [loadJson, seen, holds.text_eq, broken]

theorem loadJson_of_read {value : Json} (seen : loader.resolve path = place)
    (holds : loader.disk.HoldsText place content) (read : Json.read content = .ok value) :
    loader.loadJson path = .ok value := by
  simp only [loadJson, seen, holds.text_eq, read]

end LoadJson

section LoadPackage

variable {value : Json} {manifest : Manifest}

theorem loadPackage_of_missing {place : Path}
    (missing : loader.loadJson (directory.child manifestName) = .error (.notFound place)) :
    loader.loadPackage directory = .ok { path := directory } := by
  simp only [loadPackage, missing]

theorem loadPackage_of_failed {error : LoadError}
    (fails : loader.loadJson (directory.child manifestName) = .error error)
    (other : error.isNotFound = false) : loader.loadPackage directory = .error error := by
  cases error with
  | notFound place => cases other
  | _ => simp only [loadPackage, fails]

theorem loadPackage_of_unfit {problem : Json.Problem}
    (found : loader.loadJson (directory.child manifestName) = .ok value)
    (unfit : Manifest.ofJson value = .error problem) :
    loader.loadPackage directory =
      .error (.malformed (directory.child manifestName) problem.message) := by
  simp only [loadPackage, found, unfit]

theorem loadPackage_of_noEntry {main : String}
    (found : loader.loadJson (directory.child manifestName) = .ok value)
    (read : Manifest.ofJson value = .ok manifest) (declared : manifest.main = some main)
    (nothing : ¬ loader.disk.holds (directory.child main) = true) :
    loader.loadPackage directory =
      .error (.malformed directory ("entry point '" ++ main ++ "' does not exist")) := by
  simp only [loadPackage, found, read, declared, if_neg nothing]

theorem loadPackage_of_entered
    (found : loader.loadJson (directory.child manifestName) = .ok value)
    (read : Manifest.ofJson value = .ok manifest)
    (entered : ∀ main, manifest.main = some main →
      loader.disk.holds (directory.child main) = true) :
    loader.loadPackage directory = .ok { path := directory, manifest := some manifest } := by
  cases declared : manifest.main with
  | none => simp only [loadPackage, found, read, declared]
  | some main => simp only [loadPackage, found, read, declared, if_pos (entered main declared)]

end LoadPackage

theorem load_of_unanswered {error : OsError}
    (fails : loader.disk.node (loader.resolve path) = .error error) :
    loader.load path = .error (loadError (loader.resolve path) error) := by
  simp only [load, fails]

theorem load_of_file {node : Node} (found : loader.disk.node (loader.resolve path) = .ok node)
    (file : node ≠ .directory) : loader.load path = .ok { path := loader.resolve path } := by
  cases node with
  | directory => exact absurd rfl file
  | _ => simp only [load, found]

theorem load_of_directory (found : loader.disk.node (loader.resolve path) = .ok .directory) :
    loader.load path = loader.loadPackage (loader.resolve path) := by
  simp only [load, found]

/-! ### Outcomes by what stands there -/

/-- What loading the module at a place gives, by what stands there. -/
inductive Loads (disk : Disk) (place : Path) : Except LoadError Module → Prop
  | missing (nothing : disk.node place = .error .notFound) :
    Loads disk place (.error (.notFound place))
  | unanswered {error : OsError} (fails : disk.node place = .error error)
    (other : error ≠ .notFound) : Loads disk place (.error (.unreadable place error.message))
  | file {node : Node} (found : disk.node place = .ok node) (file : node ≠ .directory) :
    Loads disk place (.ok { path := place })
  | bare (found : disk.node place = .ok .directory)
    (nothing : disk.node (place.child "package.json") = .error .notFound) :
    Loads disk place (.ok { path := place })
  | unreadable {error : OsError} (found : disk.node place = .ok .directory)
    (unreadable : disk.Unreadable (place.child "package.json") error)
    (other : error ≠ .notFound) :
    Loads disk place (.error (.unreadable (place.child "package.json") error.message))
  | notJson {content : Bytes} {fault : Json.Fault} (found : disk.node place = .ok .directory)
    (holds : disk.HoldsText (place.child "package.json") content)
    (broken : Json.read content = .error fault) :
    Loads disk place (.error (.malformed (place.child "package.json") (fault.message content)))
  | notManifest {content : Bytes} {value : Json} {problem : Json.Problem}
    (found : disk.node place = .ok .directory)
    (holds : disk.HoldsText (place.child "package.json") content)
    (read : Json.read content = .ok value) (unfit : Manifest.ofJson value = .error problem) :
    Loads disk place (.error (.malformed (place.child "package.json") problem.message))
  | noEntry {manifest : Manifest} {main : String} (found : disk.node place = .ok .directory)
    (described : disk.Describes place manifest) (declared : manifest.main = some main)
    (nothing : ∀ node, disk.node (place.child main) ≠ .ok node) :
    Loads disk place
      (.error (.malformed place ("entry point '" ++ main ++ "' does not exist")))
  | package {manifest : Manifest} (found : disk.node place = .ok .directory)
    (described : disk.Describes place manifest)
    (entered : ∀ main, manifest.main = some main →
      ∃ node, disk.node (place.child main) = .ok node) :
    Loads disk place (.ok { path := place, manifest := some manifest })

/-- A package with a manifest is loaded or not, by whether its entry point is there. -/
theorem exists_loads_of_describes {disk : Disk} {place : Path} {manifest : Manifest}
    (stands : disk.node place = .ok .directory) (described : disk.Describes place manifest) :
    ∃ outcome, Loads disk place outcome := by
  cases declared : manifest.main with
  | none =>
    exact ⟨_, .package stands described fun main same => nomatch declared.symm.trans same⟩
  | some main =>
    by_cases entered : ∃ node, disk.node (place.child main) = .ok node
    · refine ⟨_, .package stands described fun other same => ?_⟩
      cases declared.symm.trans same
      exact entered
    · exact ⟨_, .noEntry stands described declared fun node same => entered ⟨node, same⟩⟩

/-- Whatever stands at a place, loading it gives something. -/
theorem exists_loads (disk : Disk) (place : Path) : ∃ outcome, Loads disk place outcome := by
  cases stands : disk.node place with
  | error error =>
    by_cases missing : error = .notFound
    · exact ⟨_, .missing (missing ▸ stands)⟩
    · exact ⟨_, .unanswered stands missing⟩
  | ok node =>
    by_cases file : node ≠ .directory
    · exact ⟨_, .file stands file⟩
    · cases not_not.mp file
      obtain ⟨content, holds⟩ | ⟨error, unreadable⟩ :=
        disk.holdsText_or_unreadable (place.child "package.json")
      · cases read : Json.read content with
        | error fault => exact ⟨_, .notJson stands holds read⟩
        | ok value =>
          cases decoded : Manifest.ofJson value with
          | error problem => exact ⟨_, .notManifest stands holds read decoded⟩
          | ok manifest =>
            have described : disk.Describes place manifest := ⟨content, value, holds, read, decoded⟩
            exact exists_loads_of_describes stands described
      · by_cases missing : error = .notFound
        · cases missing
          cases unreadable with
          | unanswered fails => exact ⟨_, .bare stands fails⟩
        · exact ⟨_, .unreadable stands unreadable missing⟩

/-- Where the manifest of a package is seen at its own place, loading gives what stands there. -/
theorem Loads.load_eq {outcome : Except LoadError Module}
    (loads : Loads loader.disk (loader.resolve path) outcome)
    (steady : loader.resolve ((loader.resolve path).child manifestName) =
      (loader.resolve path).child manifestName) :
    loader.load path = outcome := by
  cases loads with
  | missing nothing => exact load_of_unanswered nothing
  | unanswered fails other => rw [load_of_unanswered fails, loadError_of_ne other]
  | file found file => exact load_of_file found file
  | bare found nothing =>
    rw [load_of_directory found]
    exact loadPackage_of_missing (loadJson_of_unreadable steady (.unanswered nothing))
  | unreadable found unreadable other =>
    have fails := loadJson_of_unreadable steady unreadable
    rw [loadError_of_ne other] at fails
    rw [load_of_directory found]
    exact loadPackage_of_failed fails rfl
  | notJson found holds broken =>
    rw [load_of_directory found]
    exact loadPackage_of_failed (loadJson_of_broken steady holds broken) rfl
  | notManifest found holds read unfit =>
    rw [load_of_directory found]
    exact loadPackage_of_unfit (loadJson_of_read steady holds read) unfit
  | noEntry found described declared nothing =>
    obtain ⟨content, value, holds, read, decoded⟩ := described
    rw [load_of_directory found]
    exact loadPackage_of_noEntry (loadJson_of_read steady holds read) decoded declared
      (mt Disk.holds_iff.mp fun ⟨node, same⟩ => nothing node same)
  | package found described entered =>
    obtain ⟨content, value, holds, read, decoded⟩ := described
    rw [load_of_directory found]
    exact loadPackage_of_entered (loadJson_of_read steady holds read) decoded fun main declared =>
      Disk.holds_iff.mpr (entered main declared)

/-- Seen from a base that begins with a slash, every place stays where it is. -/
theorem resolve_of_absolute (absolute : loader.base.isAbsolute = true) (name : String) :
    loader.resolve ((loader.resolve path).child name) = (loader.resolve path).child name := by
  rw [resolve_eq_join, resolve_eq_join, Path.child_join]
  exact Path.join_join_eq_iff.mpr (.inl absolute)

theorem load_eq_iff_loads (absolute : loader.base.isAbsolute = true)
    {outcome : Except LoadError Module} :
    loader.load path = outcome ↔ Loads loader.disk (loader.resolve path) outcome := by
  constructor
  · intro same
    obtain ⟨actual, loads⟩ := exists_loads loader.disk (loader.resolve path)
    rw [← same, loads.load_eq (resolve_of_absolute absolute _)]
    exact loads
  · exact fun loads => loads.load_eq (resolve_of_absolute absolute _)

/-- With a base that begins with a slash, loading a module gives what stands at the place of the
module, and nothing else. So a package that has a manifest also has the entry point it names, and
only a package where nothing stands in place of the manifest is taken for one without. -/
theorem load_exactly (loader : DiskLoader) (path : Path)
    (absolute : loader.base.isAbsolute = true) :
    let place := loader.resolve path
    (∀ outcome, loader.load path = outcome ↔ Loads loader.disk place outcome) ∧
      (∀ found manifest, loader.load path = .ok found → found.manifest = some manifest →
        found.path = place ∧ loader.disk.Describes place manifest ∧
          ∀ main, manifest.main = some main →
            ∃ node, loader.disk.node (found.path.child main) = .ok node) ∧
      ∀ found, loader.load path = .ok found → found.manifest = none →
        (∃ node, loader.disk.node place = .ok node ∧ node ≠ .directory) ∨
          loader.disk.node place = .ok .directory ∧
            loader.disk.node (place.child "package.json") = .error .notFound := by
  intro place
  refine ⟨fun outcome => load_eq_iff_loads absolute, fun found manifest finds has => ?_,
    fun found finds lacks => ?_⟩
  · cases (load_eq_iff_loads absolute).mp finds with
    | file => cases has
    | bare => cases has
    | package _ described entered =>
      cases has
      exact ⟨rfl, described, entered⟩
  · cases (load_eq_iff_loads absolute).mp finds with
    | file stands file => exact .inl ⟨_, stands, file⟩
    | bare stands nothing => exact .inr ⟨stands, nothing⟩
    | package => cases lacks

/-- A package that names an entry point beside its manifest, one that names an entry point where
nothing stands, and one with a directory in place of the manifest. -/
theorem load_exactly_in_work :
    let written (text : String) : Node := .file (Text.encode text)
    let tree : FileTree := { entries := [
      (["work", "good", "package.json"], written "\x7b\"name\":\"good\",\"main\":\"lib\"\x7d"),
      (["work", "good", "lib"], .directory),
      (["work", "bad", "package.json"], written "\x7b\"main\":\"lib\"\x7d"),
      (["work", "odd", "package.json"], .directory)] }
    let loader : DiskLoader := ⟨⟨"/work"⟩, tree.disk⟩
    let manifest : Manifest := { name := "good", main := "lib" }
    let noEntry : LoadError := .malformed ⟨"/work/bad"⟩ "entry point 'lib' does not exist"
    let noFile : LoadError :=
      .unreadable ⟨"/work/odd/package.json"⟩ "Is a directory (os error 21)"
    loader.base.isAbsolute = true ∧
      loader.load ⟨"good"⟩ = .ok { path := ⟨"/work/good"⟩, manifest := some manifest } ∧
      tree.disk.Describes ⟨"/work/good"⟩ manifest ∧
      (∃ node, tree.disk.node ((Path.mk "/work/good").child "lib") = .ok node) ∧
      loader.load ⟨"bad"⟩ = .error noEntry ∧ Loads tree.disk ⟨"/work/bad"⟩ (.error noEntry) ∧
      loader.load ⟨"odd"⟩ = .error noFile ∧ Loads tree.disk ⟨"/work/odd"⟩ (.error noFile) := by
  intro written tree loader manifest noEntry noFile
  have absolute : loader.base.isAbsolute = true := by decide +kernel
  have good : loader.load ⟨"good"⟩ =
      .ok { path := ⟨"/work/good"⟩, manifest := some manifest } := by decide +kernel
  have bad : loader.load ⟨"bad"⟩ = .error noEntry := by decide +kernel
  have odd : loader.load ⟨"odd"⟩ = .error noFile := by decide +kernel
  have places : loader.resolve ⟨"bad"⟩ = ⟨"/work/bad"⟩ ∧
      loader.resolve ⟨"odd"⟩ = ⟨"/work/odd"⟩ := by
    decide +kernel
  obtain ⟨-, described, -⟩ := load_exactly loader ⟨"good"⟩ absolute
  obtain ⟨place, describes, entered⟩ := described _ manifest good rfl
  rw [← place] at describes
  obtain ⟨badOutcome, -⟩ := load_exactly loader ⟨"bad"⟩ absolute
  obtain ⟨oddOutcome, -⟩ := load_exactly loader ⟨"odd"⟩ absolute
  rw [places.1] at badOutcome
  rw [places.2] at oddOutcome
  exact ⟨absolute, good, describes, entered "lib" rfl, bad, (badOutcome _).mp bad, odd,
    (oddOutcome _).mp odd⟩

end DiskLoader

end RippleServer
