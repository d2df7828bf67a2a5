/-
This file tells where the tables of texts are read. A table stands in the
directory of the SDK, at the tag it is the table of; but a path that begins with
a slash stands for itself when it is joined to another one, and nothing keeps a
client from naming a locale that begins with a slash. Such a tag leads out of the
SDK, to the place it spells, and all other tags lead to places that begin with
the components of the SDK.
-/

import RippleServer.Proofs.JoinedPaths
import RippleServer.Proofs.Locales

namespace RippleServer

/-! ### The place of a table -/

namespace Messages

variable {root : Path} {locale tag : String}

theorem components_tablePath (root : Path) (written : tag ≠ "") :
    (tablePath root tag).components =
      (root.child tag).components ++ [.name "diagnosticMessages.generated.json"] := by
  have relative : tableName.toList.head? ≠ some '/' := by decide +kernel
  have single : Path.names tableName = [.name "diagnosticMessages.generated.json"] := by
    decide +kernel
  rw [tablePath, Path.components_child relative, if_neg (Path.text_child_ne_empty written), single]

theorem ne_empty_of_mem_sought (member : tag ∈ sought locale) : tag ≠ "" := by
  unfold sought at member
  split_ifs at member with builtin single
  · cases member
  · rintro rfl
    rw [← List.mem_singleton.mp member] at builtin
    exact builtin (by decide +kernel)
  · rintro rfl
    rcases List.mem_cons.mp member with rfl | second
    · exact builtin (by decide +kernel)
    · exact builtin (.inl (List.mem_singleton.mp second).symm)

/-- Only tags that are to be tried are asked for, in their order. -/
theorem Selects.isPrefix {loader : Loader} {tags asked : List String} {messages : Messages}
    (selects : Selects loader root tags asked messages) : asked <+: tags := by
  cases selects with
  | @table before after tag _ _ order =>
    rw [order, List.append_cons before tag after]
    exact List.prefix_append _ _
  | builtin => exact List.prefix_refl _

end Messages

namespace Sdk

/-- What is asked of the loader while tables are looked for: all that comes after the questions
about the SDK itself. -/
def tableLookups (loader : Loader) (root : Path) (locale : String) : List Lookup :=
  (load loader root locale).run.lookups.drop (moduleLookups root).length

/-- All tables that are looked for lie inside the directory of the SDK. -/
def LooksInside (loader : Loader) (root : Path) (locale : String) : Prop :=
  ∀ path, .loadJson path ∈ tableLookups loader root locale → root.components <+: path.components

/-- The tag leads to a place inside the directory of the SDK: it does not begin with a slash, or the
place it spells happens to lie there. -/
def StaysInside (root : Path) (tag : String) : Prop :=
  tag.toList.head? = some '/' →
    root.components <+:
      (Path.mk tag).components ++ [.name "diagnosticMessages.generated.json"]

theorem isPrefix_tablePath_iff {root : Path} {tag : String} (written : tag ≠ "") :
    root.components <+: (Messages.tablePath root tag).components ↔ StaysInside root tag := by
  rw [Messages.components_tablePath root written, StaysInside]
  by_cases absolute : tag.toList.head? = some '/'
  · rw [Path.child_of_absolute absolute]
    exact ⟨fun inside _ => inside, fun inside => inside absolute⟩
  · have inside : root.components <+: (root.child tag).components :=
      Path.isPrefix_components_child absolute
    exact iff_of_true (inside.trans (List.prefix_append _ _)) fun isAbsolute =>
      absurd isAbsolute absolute

theorem exists_of_mem_tableLookups {loader : Loader} {root path : Path} {locale : String}
    (asked : .loadJson path ∈ tableLookups loader root locale) :
    ∃ tag ∈ Messages.sought (Messages.tag locale), path = Messages.tablePath root tag := by
  unfold tableLookups at asked
  obtain ⟨-, -, asksLess⟩ | ⟨-, -, -, lookups⟩ := load_lookups loader root locale
  · rw [List.drop_eq_nil_of_le asksLess.length_le] at asked
    cases asked
  · obtain ⟨tags, tables, selects⟩ := Messages.load_selects loader root locale
    rw [lookups, List.drop_left, tables] at asked
    obtain ⟨tag, member, same⟩ := List.mem_map.mp asked
    exact ⟨tag, selects.isPrefix.subset member, (Lookup.loadJson.inj same).symm⟩

/-- A loader that finds every module and no resource. -/
def tableless : Loader :=
  ⟨fun path => .ok { path }, fun path => .error (.notFound path)⟩

/-- A loader without tables is asked for those of all tags. -/
theorem tableLookups_tableless (root : Path) (locale : String) :
    tableLookups tableless root locale =
      (Messages.sought (Messages.tag locale)).map fun tag =>
        .loadJson (Messages.tablePath root tag) := by
  unfold tableLookups
  obtain ⟨error, fails, -⟩ | ⟨-, -, -, lookups⟩ := load_lookups tableless root locale
  · cases load_eq_error_iff.mp fails with
    | unfound fails => cases fails
    | outdated _ described =>
      obtain ⟨_, _, -, found, -⟩ := described.stands
      cases found
  · obtain ⟨tags, tables, selects⟩ := Messages.load_selects tableless root locale
    rw [lookups, List.drop_left, tables]
    generalize (Messages.load tableless root locale).value = messages at selects
    cases selects with
    | table _ _ held => cases held.1
    | builtin => rfl

/-- The table of a tag that begins with a slash is looked for at the place the tag spells, whatever
the SDK; all others are looked for inside the SDK. So no loader is asked for a table outside exactly
if each tag that begins with a slash spells a place inside. -/
theorem load_looksInside_iff (root : Path) (locale : String) :
    (∀ loader path, .loadJson path ∈ tableLookups loader root locale →
        ∃ tag ∈ Messages.sought (Messages.tag locale), path = Messages.tablePath root tag ∧
          (tag.toList.head? = some '/' → path.components =
            (Path.mk tag).components ++ [.name "diagnosticMessages.generated.json"]) ∧
          (tag.toList.head? ≠ some '/' → root.components <+: path.components)) ∧
      ((∀ loader, LooksInside loader root locale) ↔
        ∀ tag ∈ Messages.sought (Messages.tag locale), StaysInside root tag) := by
  refine ⟨fun loader path asked => ?_, fun inside tag member => ?_,
    fun stays loader path asked => ?_⟩
  · obtain ⟨tag, member, rfl⟩ := exists_of_mem_tableLookups asked
    have written := Messages.ne_empty_of_mem_sought member
    refine ⟨tag, member, rfl, fun absolute => ?_, fun relative => ?_⟩
    · rw [Messages.components_tablePath root written, Path.child_of_absolute absolute]
    · exact (isPrefix_tablePath_iff written).mpr fun absolute => absurd absolute relative
  · have written := Messages.ne_empty_of_mem_sought member
    refine (isPrefix_tablePath_iff written).mp (inside tableless _ ?_)
    rw [tableLookups_tableless]
    exact List.mem_map_of_mem member
  · obtain ⟨tag, member, rfl⟩ := exists_of_mem_tableLookups asked
    have written := Messages.ne_empty_of_mem_sought member
    exact (isPrefix_tablePath_iff written).mpr (stays tag member)

/-- A locale that climbs stays inside as far as components go, since two dots take nothing back. One
that begins with a slash is looked for where it says. -/
theorem load_looksInside_iff_of_climbing :
    let root : Path := ⟨"/opt/ts/lib"⟩
    let table : Path := ⟨"/etc/diagnosticMessages.generated.json"⟩
    (∀ loader, LooksInside loader root "../DE") ∧
      .loadJson table ∈ tableLookups tableless root "/etc" ∧
      ∃ tag ∈ Messages.sought (Messages.tag "/etc"), table = Messages.tablePath root tag ∧
        (tag.toList.head? = some '/' → table.components =
          (Path.mk tag).components ++ [.name "diagnosticMessages.generated.json"]) ∧
        (tag.toList.head? ≠ some '/' → root.components <+: table.components) := by
  intro root table
  have asked : .loadJson table ∈ tableLookups tableless root "/etc" := by decide +kernel
  have relative : ∀ tag ∈ Messages.sought (Messages.tag "../DE"),
      tag.toList.head? ≠ some '/' := by decide +kernel
  obtain ⟨-, inside⟩ := load_looksInside_iff root "../DE"
  obtain ⟨places, -⟩ := load_looksInside_iff root "/etc"
  exact ⟨inside.mpr fun tag member absolute => absurd absolute (relative tag member), asked,
    places tableless table asked⟩

/-- With a locale that begins with a slash, a client has a table read that is not in the SDK, and
gets the texts it holds. -/
theorem not_looksInside_of_slash :
    let table : Path := ⟨"/etc/diagnosticMessages.generated.json"⟩
    let loader : Loader := ⟨fun path => .ok { path }, fun path =>
      if path = table then .ok (.obj [("key", .str "text")]) else .error (.notFound path)⟩
    ¬ LooksInside loader ⟨"/opt/ts/lib"⟩ "/etc" ∧
      (load loader ⟨"/opt/ts/lib"⟩ "/etc").run.value.map LocalizedSdk.messages =
        .ok (.localized "/etc" [("key", "text")]) := by
  intro table loader
  refine ⟨fun inside => ?_, by decide +kernel⟩
  have asked : .loadJson table ∈ tableLookups loader ⟨"/opt/ts/lib"⟩ "/etc" := by decide +kernel
  have outside : ¬ (Path.mk "/opt/ts/lib").components <+: table.components := by decide +kernel
  exact outside (inside table asked)

end Sdk

end RippleServer
