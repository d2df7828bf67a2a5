/-
This file is about the members of objects. Members are put in by their names and
found by their names, and they are kept with the names in ascending order, so no
name comes twice. An object that is made of members with distinct names has just
these members, whatever the order they were given in.
-/

import Mathlib.Data.List.Induction
import Mathlib.Data.List.Nodup
import RippleServer.Json.Basic

namespace RippleServer.Json

/-! ### Members by name -/

theorem member?_append (key : String) (members others : List (String × Json)) :
    member? key (members ++ others) = (member? key members).or (member? key others) := by
  induction members with
  | nil => rfl
  | cons member rest inductionHypothesis =>
    rw [List.cons_append, member?, member?, inductionHypothesis]
    split_ifs <;> rfl

theorem member?_isSome_iff {key : String} {members : List (String × Json)} :
    (member? key members).isSome ↔ key ∈ members.map Prod.fst := by
  induction members with
  | nil => exact ⟨nofun, nofun⟩
  | cons member rest inductionHypothesis =>
    rw [member?, List.map_cons, List.mem_cons, ← inductionHypothesis]
    split_ifs with same <;> simp [same]

theorem member?_eq_none {key : String} {members : List (String × Json)}
    (absent : key ∉ members.map Prod.fst) : member? key members = none :=
  Option.not_isSome_iff_eq_none.mp (mt member?_isSome_iff.mp absent)

theorem mem_of_member? {key : String} {value : Json} {members : List (String × Json)}
    (found : member? key members = some value) : (key, value) ∈ members := by
  induction members with
  | nil => cases found
  | cons member rest inductionHypothesis =>
    obtain ⟨other, old⟩ := member
    rw [member?] at found
    split_ifs at found with same
    · cases found
      exact same ▸ List.mem_cons_self
    · exact List.mem_cons_of_mem _ (inductionHypothesis found)

/-- Where no name comes twice, each member is found by its name. -/
theorem member?_eq_some_iff {key : String} {value : Json} {members : List (String × Json)}
    (distinct : (members.map Prod.fst).Nodup) :
    member? key members = some value ↔ (key, value) ∈ members := by
  refine ⟨mem_of_member?, fun member => ?_⟩
  obtain ⟨found, same⟩ :=
    Option.isSome_iff_exists.mp (member?_isSome_iff.mpr (List.mem_map_of_mem member))
  have once := List.inj_on_of_nodup_map distinct (mem_of_member? same) member rfl
  rw [same, (Prod.mk.inj once).2]

theorem nodup_of_ascending {members : List (String × Json)}
    (ascending : members.Pairwise fun first second => first.1 < second.1) :
    (members.map Prod.fst).Nodup :=
  List.pairwise_map.mpr (ascending.imp String.ne_of_lt)

/-! ### Putting members in -/

theorem mem_insert {key : String} {value : Json} {members : List (String × Json)}
    {member : String × Json} (inserted : member ∈ insert key value members) :
    member = (key, value) ∨ member ∈ members := by
  induction members with
  | nil => exact .inl (List.mem_singleton.mp inserted)
  | cons head rest inductionHypothesis =>
    obtain ⟨other, old⟩ := head
    rw [insert] at inserted
    split_ifs at inserted
    · exact (List.mem_cons.mp inserted).imp_right (List.mem_cons_of_mem _)
    · exact List.mem_cons.mp inserted
    · obtain rfl | later := List.mem_cons.mp inserted
      · exact .inr List.mem_cons_self
      · exact (inductionHypothesis later).imp_right (List.mem_cons_of_mem _)

theorem ascending_insert {members : List (String × Json)} (key : String) (value : Json)
    (ascending : members.Pairwise fun first second => first.1 < second.1) :
    (insert key value members).Pairwise fun first second => first.1 < second.1 := by
  induction members with
  | nil => exact List.pairwise_singleton _ _
  | cons head rest inductionHypothesis =>
    obtain ⟨other, old⟩ := head
    obtain ⟨first, others⟩ := List.pairwise_cons.mp ascending
    rw [insert]
    split_ifs with same before
    · exact List.pairwise_cons.mpr ⟨same ▸ first, others⟩
    · refine List.pairwise_cons.mpr ⟨fun member later => ?_, ascending⟩
      obtain rfl | later := List.mem_cons.mp later
      · exact before
      · exact String.lt_trans before (first member later)
    · have behind : other < key :=
        Std.lt_of_le_of_ne (String.not_lt.mp before) fun equal => same equal.symm
      refine List.pairwise_cons.mpr ⟨fun member inserted => ?_, inductionHypothesis others⟩
      obtain rfl | later := mem_insert inserted
      · exact behind
      · exact first member later

/-- A member whose key comes behind all others goes to the end. -/
theorem insert_eq_append {members : List (String × Json)} {key : String}
    (behind : ∀ member ∈ members, member.1 < key) (value : Json) :
    insert key value members = members ++ [(key, value)] := by
  induction members with
  | nil => rfl
  | cons member members inductionHypothesis =>
    obtain ⟨before, behind⟩ := List.forall_mem_cons.mp behind
    rw [insert, if_neg (String.ne_of_lt before).symm, if_neg (String.lt_asymm before),
      inductionHypothesis behind]
    rfl

/-- A member with a new name is put among those that were there. -/
theorem insert_perm {key : String} {members : List (String × Json)}
    (fresh : key ∉ members.map Prod.fst) (value : Json) :
    (insert key value members).Perm ((key, value) :: members) := by
  induction members with
  | nil => exact .refl _
  | cons head rest inductionHypothesis =>
    obtain ⟨other, old⟩ := head
    rw [List.map_cons, List.mem_cons, not_or] at fresh
    rw [insert, if_neg fresh.1]
    split
    · exact .refl _
    · exact ((inductionHypothesis fresh.2).cons _).trans (.swap _ _ _)

/-- An object made of members with distinct names has just these members. -/
theorem exists_object_perm {members : List (String × Json)}
    (distinct : (members.map Prod.fst).Nodup) :
    ∃ sorted, object members = .obj sorted ∧ sorted.Perm members := by
  refine ⟨_, rfl, ?_⟩
  induction members using List.reverseRecOn with
  | nil => exact .refl _
  | append_singleton members last inductionHypothesis =>
    rw [List.map_append] at distinct
    obtain ⟨before, -, apart⟩ := List.nodup_append'.mp distinct
    have sorted := inductionHypothesis before
    have fresh : last.1 ∉ (members.foldl (fun sorted member =>
        insert member.1 member.2 sorted) []).map Prod.fst := fun known =>
      apart ((sorted.map Prod.fst).mem_iff.mp known) List.mem_cons_self
    rw [List.foldl_append]
    exact (insert_perm fresh last.2).trans
      ((sorted.cons last).trans (List.perm_append_singleton last members).symm)

theorem get?_object_eq_some_iff {key : String} {value : Json} {members : List (String × Json)}
    (distinct : (members.map Prod.fst).Nodup) :
    (object members).get? key = some value ↔ (key, value) ∈ members := by
  obtain ⟨sorted, made, same⟩ := exists_object_perm distinct
  rw [made, get?, member?_eq_some_iff ((same.map Prod.fst).nodup_iff.mpr distinct), same.mem_iff]

end RippleServer.Json
