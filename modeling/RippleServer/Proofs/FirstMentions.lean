/-
This file is about lists that lose their repetitions. What is left of such a list
is each entry at the place where it is mentioned first, so all entries are still
there, each of them once, and in the order in which they came up. This is also
what a loop passes on that remembers what it has seen.
-/

import Mathlib.Data.List.Induction
import Mathlib.Data.List.Nodup
import RippleServer.Text.Unseen

namespace RippleServer

/-! ### The order of first mention -/

/-- One entry more is kept unless the list has it already. -/
theorem eraseDups_append_singleton (entries : List String) (last : String) :
    (entries ++ [last]).eraseDups =
      entries.eraseDups ++ if last ∈ entries then [] else [last] := by
  rw [List.eraseDups_append]
  by_cases known : last ∈ entries
  · have nothing : [last].removeAll entries = [] := by simp [List.removeAll, known]
    rw [nothing, if_pos known, List.eraseDups_nil]
  · have new : [last].removeAll entries = [last] := by simp [List.removeAll, known]
    rw [new, if_neg known]
    rfl

/-- Without its repetitions, a list is in the order of first mention. -/
theorem pairwise_idxOf_eraseDups (entries : List String) :
    entries.eraseDups.Pairwise fun first second =>
      entries.idxOf first < entries.idxOf second := by
  induction entries using List.reverseRecOn with
  | nil => exact .nil
  | append_singleton entries last inductionHypothesis =>
    have before : entries.eraseDups.Pairwise fun first second =>
        (entries ++ [last]).idxOf first < (entries ++ [last]).idxOf second := by
      refine inductionHypothesis.imp_of_mem fun {first second} firstIn secondIn earlier => ?_
      rw [List.idxOf_append_of_mem (List.mem_eraseDups.mp firstIn),
        List.idxOf_append_of_mem (List.mem_eraseDups.mp secondIn)]
      exact earlier
    rw [eraseDups_append_singleton]
    by_cases known : last ∈ entries
    · rw [if_pos known, List.append_nil]
      exact before
    · rw [if_neg known]
      refine List.pairwise_append.mpr ⟨before, List.pairwise_singleton _ last, ?_⟩
      intro first firstIn second secondIn
      rw [List.mem_singleton.mp secondIn,
        List.idxOf_append_of_mem (List.mem_eraseDups.mp firstIn),
        List.idxOf_append_of_notMem known]
      exact Nat.lt_add_right _ (List.idxOf_lt_length_of_mem (List.mem_eraseDups.mp firstIn))

theorem nodup_eraseDups (entries : List String) : entries.eraseDups.Nodup :=
  (pairwise_idxOf_eraseDups entries).imp fun earlier same =>
    absurd (same ▸ earlier) (Nat.lt_irrefl _)

/-- The loop passes on the first mentions of what it had not seen at the start. -/
theorem unseen_eq_eraseDups (seen texts : List String) :
    Text.unseen seen texts = (texts.filter fun text => !seen.contains text).eraseDups := by
  induction texts generalizing seen with
  | nil => rfl
  | cons text rest inductionHypothesis =>
    rw [Text.unseen, inductionHypothesis, inductionHypothesis]
    by_cases known : seen.contains text = true
    · rw [if_pos known, List.filter_cons_of_neg (by simp only [known]; decide)]
    · have kept : ((text :: rest).filter fun other => !seen.contains other) =
          text :: rest.filter fun other => !seen.contains other :=
        List.filter_cons_of_pos (by simpa using known)
      have others : (rest.filter fun other => !(text :: seen).contains other) =
          (rest.filter fun other => !seen.contains other).filter fun other => !other == text := by
        rw [List.filter_filter]
        refine List.filter_congr fun other _ => ?_
        rw [List.contains_cons, Bool.not_or]
      rw [if_neg known, others, kept, List.eraseDups_cons]

/-- A loop that had seen nothing at the start only loses the repetitions. -/
theorem unseen_nil (texts : List String) : Text.unseen [] texts = texts.eraseDups := by
  rw [unseen_eq_eraseDups]
  exact congrArg List.eraseDups (List.filter_eq_self.mpr fun _ _ => rfl)

/-! ### The places of first mention -/

/-- The entries of a list at the places where they are mentioned first. -/
def firstMentions (entries : List String) : List String :=
  (entries.zipIdx.filter fun mention => mention.1 ∉ entries.take mention.2).map Prod.fst

theorem firstMentions_append_singleton (entries : List String) (last : String) :
    firstMentions (entries ++ [last]) =
      firstMentions entries ++ if last ∈ entries then [] else [last] := by
  -- The places of the old entries have the same entries before them as they had.
  have before : ∀ mention ∈ entries.zipIdx,
      decide (mention.1 ∉ (entries ++ [last]).take mention.2) =
        decide (mention.1 ∉ entries.take mention.2) := by
    rintro ⟨entry, place⟩ member
    have inside := (List.mem_zipIdx member).2.1
    rw [List.take_append_of_le_length (by omega)]
  have added : ([last].zipIdx (0 + entries.length)).filter
      (fun mention => mention.1 ∉ (entries ++ [last]).take mention.2) =
        if last ∈ entries then [] else [(last, entries.length)] := by
    by_cases known : last ∈ entries <;> simp [known]
  rw [firstMentions, List.zipIdx_append, List.filter_append, List.filter_congr before, added,
    List.map_append, firstMentions]
  split <;> rfl

/-- A list that loses its repetitions keeps its first mentions. -/
theorem eraseDups_eq_firstMentions (entries : List String) :
    entries.eraseDups = firstMentions entries := by
  induction entries using List.reverseRecOn with
  | nil => rfl
  | append_singleton entries last inductionHypothesis =>
    rw [eraseDups_append_singleton, firstMentions_append_singleton, inductionHypothesis]

theorem count_firstMentions {entry : String} {entries : List String} (mentioned : entry ∈ entries) :
    (firstMentions entries).count entry = 1 := by
  rw [← eraseDups_eq_firstMentions]
  exact List.count_eq_one_of_mem (nodup_eraseDups entries) (List.mem_eraseDups.mpr mentioned)

end RippleServer
