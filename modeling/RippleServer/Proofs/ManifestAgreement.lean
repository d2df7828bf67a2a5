/-
This file compares two ways to a manifest: loading the package at a path, and
reading the resource that is called `package.json` there. Loading looks for the
manifest in the directory it has found, but sees the path of that directory from
the base once more. So it reads what stands at the path seen twice, and the two
ways are sure to agree exactly if it makes no difference how often a path is seen
from the base: if the path or the base begins with a slash, or there is no base.
-/

import RippleServer.Proofs.JsonRoundTrip
import RippleServer.Proofs.PackageLoading

namespace RippleServer

/-! ### Resources that are read -/

namespace Disk

variable {disk : Disk} {place other : Path}

theorem text_congr (same : disk.node place = disk.node other) :
    disk.text place = disk.text other := by
  simp only [text, same]

end Disk

namespace DiskLoader

variable {loader : DiskLoader} {path resource other : Path}

theorem loadError_eq_notFound_iff {error : OsError} {missing : Path} :
    loadError path error = .notFound missing ↔ error = .notFound ∧ path = missing := by
  cases error <;> simp [loadError]

/-- Only what stands at the place decides whether a resource can be read. -/
theorem loadJson_eq_ok_iff {value : Json} :
    loader.loadJson path = .ok value ↔
      ∃ content, loader.disk.text (loader.resolve path) = .ok content ∧
        Json.read content = .ok value := by
  cases held : loader.disk.text (loader.resolve path) with
  | error error => simp [loadJson, held]
  | ok content => cases read : Json.read content <;> simp [loadJson, held, read]

/-- A resource is missing exactly if the disk has no text at its place because nothing stands
there. -/
theorem loadJson_eq_notFound_iff {missing : Path} :
    loader.loadJson path = .error (.notFound missing) ↔
      loader.disk.text (loader.resolve path) = .error .notFound ∧
        loader.resolve path = missing := by
  cases held : loader.disk.text (loader.resolve path) with
  | error error => simp [loadJson, held, loadError_eq_notFound_iff]
  | ok content => cases read : Json.read content <;> simp [loadJson, held, read]

/-! ### Agreement -/

/-- What a loaded package has for a manifest is what a resource says: the manifest that is read
there, if it names no entry point, and none if nothing stands there. -/
structure AgreesWith (loader : DiskLoader) (path resource : Path) : Prop where
  held : ∀ value manifest, loader.loadJson resource = .ok value →
    Manifest.ofJson value = .ok manifest → manifest.main = none →
      ∃ found, loader.load path = .ok found ∧ found.manifest = some manifest
  absent : ∀ missing, loader.loadJson resource = .error (.notFound missing) →
    ∃ found, loader.load path = .ok found ∧ found.manifest = none

/-- Where there is a directory at a path, loading it agrees with reading the manifest in it. -/
def Agrees (loader : DiskLoader) (path : Path) : Prop :=
  loader.disk.node (loader.resolve path) = .ok .directory →
    loader.AgreesWith path (path.child "package.json")

/-- Loading a directory always agrees with reading the manifest in the place that was found. -/
theorem agreesWith_of_directory
    (found : loader.disk.node (loader.resolve path) = .ok .directory) :
    loader.AgreesWith path ((loader.resolve path).child "package.json") where
  held := fun value manifest read decoded lacks => by
    refine ⟨{ path := loader.resolve path, manifest := some manifest }, ?_, rfl⟩
    rw [load_of_directory found]
    exact loadPackage_of_entered read decoded fun main declared =>
      nomatch lacks.symm.trans declared
  absent := fun missing fails => by
    refine ⟨{ path := loader.resolve path }, ?_, rfl⟩
    rw [load_of_directory found]
    exact loadPackage_of_missing fails

/-- Resources with the same text behind them say the same. -/
theorem AgreesWith.congr (agrees : loader.AgreesWith path resource)
    (same : loader.disk.text (loader.resolve resource) = loader.disk.text (loader.resolve other)) :
    loader.AgreesWith path other where
  held := fun value manifest read decoded lacks => by
    rw [loadJson_eq_ok_iff, ← same, ← loadJson_eq_ok_iff] at read
    exact agrees.held value manifest read decoded lacks
  absent := fun missing fails => by
    obtain ⟨nothing, -⟩ := loadJson_eq_notFound_iff.mp fails
    exact agrees.absent _ (loadJson_eq_notFound_iff.mpr ⟨same.trans nothing, rfl⟩)

/-- The manifest in the place that was found is at its path as seen from the base. -/
theorem child_resolve (loader : DiskLoader) (path : Path) (name : String) :
    (loader.resolve path).child name = loader.resolve (path.child name) := by
  rw [resolve_eq_join, resolve_eq_join]
  exact Path.child_join loader.base path name

/-- Loading agrees with reading on every disk that has the same at the path of the manifest seen
twice from the base as at the path seen once. -/
theorem agrees_of_node_eq
    (same : loader.disk.node (loader.resolve (loader.resolve (path.child "package.json"))) =
      loader.disk.node (loader.resolve (path.child "package.json"))) : loader.Agrees path := by
  intro found
  have agrees := agreesWith_of_directory found
  rw [child_resolve] at agrees
  exact agrees.congr (Disk.text_congr same)

/-! ### Disks without agreement -/

/-- A manifest that can be read at its path is passed over if nothing stands at that path seen
twice. -/
theorem not_agrees_of_missing {value : Json} {manifest : Manifest}
    (found : loader.disk.node (loader.resolve path) = .ok .directory)
    (read : loader.loadJson (path.child "package.json") = .ok value)
    (decoded : Manifest.ofJson value = .ok manifest) (lacks : manifest.main = none)
    (nothing : loader.disk.node (loader.resolve (loader.resolve (path.child "package.json"))) =
      .error .notFound) : ¬ loader.Agrees path := by
  intro agrees
  obtain ⟨loaded, loads, has⟩ := (agrees found).held value manifest read decoded lacks
  have missing := loadJson_of_unreadable rfl (.unanswered nothing)
  rw [← child_resolve] at missing
  rw [load_of_directory found, loadPackage_of_missing missing] at loads
  cases loads
  cases has

/-- A directory with an empty manifest, and nothing else. -/
def soleManifest (directory manifest : Path) : Disk where
  node := fun place =>
    if place = directory then .ok .directory
    else if place = manifest then .ok (.file (Text.encode "\x7b\x7d"))
    else .error .notFound

theorem read_emptyObject : Json.read (Text.encode "\x7b\x7d") = .ok (.obj []) := by
  have spelled : Text.encode "\x7b\x7d" = (Json.obj []).bytes := by decide +kernel
  rw [spelled]
  exact Json.exact_obj_nil.read_bytes (by decide)

/-- If it makes a difference how often a path is seen from the base, there is a disk on which the
package at the path is loaded without the manifest that is read there. -/
theorem exists_not_agrees {base : Path} (relativeBase : ¬ base.isAbsolute = true)
    (relative : ¬ path.isAbsolute = true) (written : base.text ≠ "") :
    ∃ disk, ¬ (DiskLoader.mk base disk).Agrees path := by
  have relativeName : ¬ (Path.mk "package.json").isAbsolute = true := by decide +kernel
  -- The directory, and its manifest seen once and seen twice, are three places on the disk.
  have elsewhere : base.join (base.join (path.child "package.json")) ≠
      base.join (path.child "package.json") := by
    intro same
    obtain absolute | absolute | empty := Path.join_join_eq_iff.mp same
    · exact relativeBase absolute
    · exact (Path.isAbsolute_join_iff.mp absolute).elim relative relativeName
    · exact written empty
  have longer := Path.length_lt_length_child (base.join path) relativeName (by decide)
  rw [Path.child_join] at longer
  have longest := Path.length_le_length_join base (base.join (path.child "package.json"))
  have apart := Path.ne_of_length_lt longer
  have apartTwice := Path.ne_of_length_lt (Nat.lt_of_lt_of_le longer longest)
  refine ⟨soleManifest (base.join path) (base.join (path.child "package.json")), ?_⟩
  generalize made : DiskLoader.mk base _ = loader
  have seen (path : Path) : loader.resolve path = base.join path := by
    rw [resolve_eq_join, ← made]
  have node : loader.disk.node = (soleManifest (base.join path)
      (base.join (path.child "package.json"))).node := by
    rw [← made]
  have held : loader.disk.HoldsText (base.join (path.child "package.json"))
      (Text.encode "\x7b\x7d") := by
    refine ⟨?_, _, rfl⟩
    simp only [node, soleManifest, if_neg apart, ↓reduceIte]
  have read := loadJson_of_read (seen _) held read_emptyObject
  have decoded : Manifest.ofJson (.obj []) = .ok {} := rfl
  refine not_agrees_of_missing ?_ read decoded rfl ?_
  · simp only [seen, node, soleManifest, ↓reduceIte]
  · simp only [seen, node, soleManifest, if_neg apartTwice, if_neg elsewhere]

/-- Loading a directory agrees with reading the manifest in the place that was found, whatever the
base. It agrees with reading the manifest at its path if the disk has the same there, seen twice
from the base, as seen once; and it does so on every disk exactly if the base or the path begins
with a slash, or there is no base. -/
theorem agrees_exactly (base path : Path) :
    (∀ disk, let loader : DiskLoader := ⟨base, disk⟩
      disk.node (loader.resolve path) = .ok .directory →
        loader.AgreesWith path ((loader.resolve path).child "package.json")) ∧
      (∀ disk, let loader : DiskLoader := ⟨base, disk⟩
        disk.node (loader.resolve (loader.resolve (path.child "package.json"))) =
            disk.node (loader.resolve (path.child "package.json")) →
          loader.Agrees path) ∧
      ((∀ disk, (DiskLoader.mk base disk).Agrees path) ↔
        base.isAbsolute = true ∨ path.isAbsolute = true ∨ base.text = "") := by
  refine ⟨fun disk found => agreesWith_of_directory found,
    fun disk same => agrees_of_node_eq same, fun agrees => ?_,
    fun steady disk => agrees_of_node_eq ?_⟩
  · by_contra unsteady
    obtain ⟨relativeBase, relative, written⟩ := by simpa only [not_or] using unsteady
    obtain ⟨disk, disagrees⟩ := exists_not_agrees relativeBase relative written
    exact disagrees (agrees disk)
  · have steadyChild : base.isAbsolute = true ∨
        (path.child "package.json").isAbsolute = true ∨ base.text = "" :=
      steady.imp_right (Or.imp_left fun absolute => Path.isAbsolute_join_iff.mpr (.inl absolute))
    rw [resolve_eq_join, resolve_eq_join, Path.join_join_eq_iff.mpr steadyChild]

/-- Seen from a dot, a path stays where it is however often it is seen; seen from a directory it
does not, and loading only agrees with what is read in the place that was found. -/
theorem agrees_exactly_from_dot :
    let tree : FileTree := { entries := [
      (["one", "package.json"], .file (Text.encode "\x7b\"name\":\"ripple\"\x7d")),
      (["work", "one"], .directory)] }
    let loader (base : String) : DiskLoader := ⟨⟨base⟩, tree.disk⟩
    tree.disk.node ⟨"././one/package.json"⟩ = tree.disk.node ⟨"./one/package.json"⟩ ∧
      (loader ".").Agrees ⟨"one"⟩ ∧
      tree.disk.node ⟨"work/one"⟩ = .ok .directory ∧
      (loader "work").AgreesWith ⟨"one"⟩ ((Path.mk "work/one").child "package.json") ∧
      ∀ disk, (DiskLoader.mk ⟨"/work"⟩ disk).Agrees ⟨"one"⟩ := by
  intro tree loader
  have twice : (loader ".").resolve ((loader ".").resolve ((Path.mk "one").child "package.json")) =
      ⟨"././one/package.json"⟩ := by decide +kernel
  have once : (loader ".").resolve ((Path.mk "one").child "package.json") =
      ⟨"./one/package.json"⟩ := by decide +kernel
  have place : (loader "work").resolve ⟨"one"⟩ = ⟨"work/one"⟩ := by decide +kernel
  have same : tree.disk.node ⟨"././one/package.json"⟩ = tree.disk.node ⟨"./one/package.json"⟩ := by
    decide +kernel
  have found : tree.disk.node ⟨"work/one"⟩ = .ok .directory := by decide +kernel
  obtain ⟨-, fromDot, -⟩ := agrees_exactly ⟨"."⟩ ⟨"one"⟩
  obtain ⟨fromWork, -, -⟩ := agrees_exactly ⟨"work"⟩ ⟨"one"⟩
  obtain ⟨-, -, fromRoot⟩ := agrees_exactly ⟨"/work"⟩ ⟨"one"⟩
  refine ⟨same, fromDot tree.disk ?_, found, ?_, fromRoot.mpr (.inl (by decide +kernel))⟩
  · rw [twice, once]
    exact same
  · have agrees := fromWork tree.disk (place ▸ found)
    rwa [place] at agrees

/-- With the base `work`, the manifest of the package `one` can be read, but the package is loaded
as one without a manifest; and the package `two` has no manifest to read, but is loaded with the one
of another package, in the directory `work` within `work`. -/
theorem not_agrees_of_relative_base :
    let written : Node := .file (Text.encode "\x7b\"name\":\"ripple\"\x7d")
    let tree : FileTree := { entries := [(["work", "one", "package.json"], written),
      (["work", "two"], .directory), (["work", "work", "two", "package.json"], written)] }
    let loader : DiskLoader := ⟨⟨"work"⟩, tree.disk⟩
    ¬ loader.Agrees ⟨"one"⟩ ∧ ¬ loader.Agrees ⟨"two"⟩ := by
  intro written tree loader
  constructor
  · have found : loader.disk.node (loader.resolve ⟨"one"⟩) = .ok .directory := by decide +kernel
    have held : loader.disk.HoldsText (loader.resolve ((Path.mk "one").child "package.json"))
        (Text.encode "\x7b\"name\":\"ripple\"\x7d") := ⟨by decide +kernel, _, rfl⟩
    have spelled : Text.encode "\x7b\"name\":\"ripple\"\x7d" =
        (Json.obj [("name", .str "ripple")]).bytes := by decide +kernel
    have json : Json.read (Text.encode "\x7b\"name\":\"ripple\"\x7d") =
        .ok (.obj [("name", .str "ripple")]) := by
      rw [spelled]
      exact ((Json.Exact.str "ripple").obj_singleton "name").read_bytes (by decide)
    have decoded : Manifest.ofJson (.obj [("name", .str "ripple")]) = .ok { name := "ripple" } := by
      decide +kernel
    exact not_agrees_of_missing found (loadJson_of_read rfl held json) decoded rfl
      (by decide +kernel)
  · intro agrees
    have found : loader.disk.node (loader.resolve ⟨"two"⟩) = .ok .directory := by decide +kernel
    have nothing : loader.disk.node (loader.resolve ((Path.mk "two").child "package.json")) =
        .error .notFound := by decide +kernel
    have loads : loader.load ⟨"two"⟩ =
        .ok { path := ⟨"work/two"⟩, manifest := some { name := "ripple" } } := by decide +kernel
    obtain ⟨other, same, lacks⟩ :=
      (agrees found).absent _ (loadJson_of_unreadable rfl (.unanswered nothing))
    cases loads.symm.trans same
    cases lacks

end DiskLoader

end RippleServer
