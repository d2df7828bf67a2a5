/-
This file tells which plugins can be put together. The identities are looked at
in order, each against those before it, so the scan ends at the first place whose
identity stands at an earlier place too, and it passes exactly if there is no
such place. What is put together is then the list that was looked at: the generic
plugins in their order, and behind them the plugin for diagnostics.
-/

import Mathlib.Data.List.Nodup
import Mathlib.Order.Bounds.Basic
import RippleServer.Proofs.Composition

namespace RippleServer.PluginList

/-! ### The first repeated identity -/

/-- The identity at a place stands at an earlier place too. -/
def RepeatsAt (ids : List String) (place : Nat) : Prop :=
  ∃ id, ids[place]? = some id ∧ ∃ earlier < place, ids[earlier]? = some id

theorem nodup_iff_not_repeatsAt {ids : List String} :
    ids.Nodup ↔ ∀ place, ¬ RepeatsAt ids place := by
  rw [List.nodup_iff_getElem?_ne_getElem?]
  constructor
  · rintro distinct place ⟨id, stands, earlier, before, same⟩
    have inside : place < ids.length := (List.getElem?_eq_some_iff.mp stands).1
    exact distinct earlier place before inside (same.trans stands.symm)
  · intro never earlier place before inside same
    have stands : ids[place]? = some ids[place] := List.getElem?_eq_getElem inside
    exact never place ⟨ids[place], stands, earlier, before, same.trans stands⟩

/-- What repeats at a place of the front does so in the whole. -/
theorem repeatsAt_append_iff {front back : List String} {place : Nat}
    (inside : place < front.length) : RepeatsAt (front ++ back) place ↔ RepeatsAt front place := by
  unfold RepeatsAt
  rw [List.getElem?_append_left inside]
  refine exists_congr fun id => and_congr_right fun _ => exists_congr fun earlier =>
    and_congr_right fun before => ?_
  rw [List.getElem?_append_left (before.trans inside)]

/-- The scan ends at an entry that was seen before, and passes all entries in front of it. -/
theorem exists_of_firstRepeated? {seen ids : List String} {id : String}
    (found : firstRepeated? seen ids = some id) :
    ∃ front back, ids = front ++ id :: back ∧ firstRepeated? seen front = none ∧
      (id ∈ seen ∨ id ∈ front) := by
  induction ids generalizing seen with
  | nil => cases found
  | cons first rest inductionHypothesis =>
    rw [firstRepeated?] at found
    by_cases known : first ∈ seen
    · rw [if_pos (List.contains_iff_mem.mpr known)] at found
      obtain rfl := Option.some.inj found
      exact ⟨[], rest, rfl, rfl, .inl known⟩
    · have unknown : ¬ seen.contains first = true := mt List.contains_iff_mem.mp known
      rw [if_neg unknown] at found
      obtain ⟨front, back, rfl, passed, repeated⟩ := inductionHypothesis found
      refine ⟨first :: front, back, rfl, ?_, ?_⟩
      · rw [firstRepeated?, if_neg unknown]
        exact passed
      · rcases repeated with early | late
        · rcases List.mem_cons.mp early with rfl | early
          · exact .inr List.mem_cons_self
          · exact .inl early
        · exact .inr (List.mem_cons_of_mem _ late)

theorem exists_isLeast_of_firstRepeated? {ids : List String} {id : String}
    (found : firstRepeated? [] ids = some id) :
    ∃ place, IsLeast {place | RepeatsAt ids place} place ∧ ids[place]? = some id := by
  obtain ⟨front, back, rfl, passed, repeated⟩ := exists_of_firstRepeated? found
  have distinct : front.Nodup := (firstRepeated?_eq_none_iff.mp passed).1
  have stands : (front ++ id :: back)[front.length]? = some id := by simp
  refine ⟨front.length, ⟨⟨id, stands, ?_⟩, fun place repeats => ?_⟩, stands⟩
  · obtain ⟨earlier, before, same⟩ :=
      List.getElem_of_mem (repeated.resolve_left List.not_mem_nil)
    refine ⟨earlier, before, ?_⟩
    rw [List.getElem?_append_left before, List.getElem?_eq_getElem before, same]
  · by_contra early
    have inside : place < front.length := Nat.lt_of_not_le early
    exact nodup_iff_not_repeatsAt.mp distinct place ((repeatsAt_append_iff inside).mp repeats)

/-- The scan names the identity at the first place that repeats. -/
theorem firstRepeated?_eq_some_iff {ids : List String} {id : String} :
    firstRepeated? [] ids = some id ↔
      ∃ place, IsLeast {place | RepeatsAt ids place} place ∧ ids[place]? = some id := by
  refine ⟨exists_isLeast_of_firstRepeated?, ?_⟩
  rintro ⟨place, least, stands⟩
  cases scanned : firstRepeated? [] ids with
  | none =>
    have distinct : ids.Nodup := (firstRepeated?_eq_none_iff.mp scanned).1
    exact absurd least.1 (nodup_iff_not_repeatsAt.mp distinct place)
  | some other =>
    obtain ⟨otherPlace, otherLeast, otherStands⟩ := exists_isLeast_of_firstRepeated? scanned
    rw [otherLeast.unique least, stands] at otherStands
    exact otherStands.symm

/-! ### Plugins -/

theorem aggregate_eq_error_iff {generic : List ServicePlugin} {diagnostics : ServicePlugin}
    {error : CompositionError} :
    aggregate generic diagnostics = .error error ↔
      ∃ id, firstRepeated? [] ((generic ++ [diagnostics]).map (·.id)) = some id ∧
        error = .duplicatePlugin id := by
  unfold aggregate
  dsimp only
  cases firstRepeated? [] ((generic ++ [diagnostics]).map (·.id)) with
  | none => simp
  | some id => simp [eq_comm]

/-- Plugins can be put together exactly if no two of them share an identity. They are then the
generic plugins in their order with the one for diagnostics behind them. Otherwise the identity is
named that stands at the first place of this sequence whose identity stands at an earlier one. -/
theorem aggregate_exactly (generic : List ServicePlugin) (diagnostics : ServicePlugin) :
    let plugins := generic ++ [diagnostics]
    ((∃ list, aggregate generic diagnostics = .ok list) ↔
        plugins.Pairwise fun first second => first.id ≠ second.id) ∧
      (∀ list, aggregate generic diagnostics = .ok list ↔
        list.plugins = plugins ∧ plugins.Pairwise fun first second => first.id ≠ second.id) ∧
      ∀ error, aggregate generic diagnostics = .error error ↔
        ∃ place plugin, IsLeast {place | RepeatsAt (plugins.map (·.id)) place} place ∧
          plugins[place]? = some plugin ∧ error = .duplicatePlugin plugin.id := by
  intro plugins
  have succeeds (list : PluginList) : aggregate generic diagnostics = .ok list ↔
      list.plugins = plugins ∧ plugins.Pairwise fun first second => first.id ≠ second.id := by
    rw [aggregate_eq_ok_iff]
    refine and_congr_right fun same => ?_
    rw [ids, same]
    exact List.pairwise_map
  refine ⟨⟨?_, fun distinct => ⟨⟨plugins⟩, (succeeds _).mpr ⟨rfl, distinct⟩⟩⟩, succeeds,
    fun error => ?_⟩
  · rintro ⟨list, outcome⟩
    exact ((succeeds list).mp outcome).2
  · rw [aggregate_eq_error_iff]
    constructor
    · rintro ⟨id, scanned, rfl⟩
      obtain ⟨place, least, stands⟩ := firstRepeated?_eq_some_iff.mp scanned
      rw [List.getElem?_map, Option.map_eq_some_iff] at stands
      obtain ⟨plugin, stands, rfl⟩ := stands
      exact ⟨place, plugin, least, stands, rfl⟩
    · rintro ⟨place, plugin, least, stands, rfl⟩
      refine ⟨plugin.id, firstRepeated?_eq_some_iff.mpr ⟨place, least, ?_⟩, rfl⟩
      rw [List.getElem?_map, stands, Option.map_some]

/-- Two identities come twice; the one that is named is the first to come again. -/
example :
    let plugin (id : String) : ServicePlugin := { id }
    aggregate [plugin "a", plugin "b", plugin "b"] (plugin "a") =
      .error (.duplicatePlugin "b") := by
  decide

end RippleServer.PluginList
