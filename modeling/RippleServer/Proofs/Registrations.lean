/-
This file proves that the registrations of a watcher share out the patterns it
was ever asked for. However often and in whatever company a pattern is asked
for, it goes into the registration of the call that mentions it first, and into
no other; calls with nothing new are not registered, and the registrations are
numbered without a gap.
-/

import RippleServer.Proofs.FirstMentions
import RippleServer.Watch

namespace RippleServer

/-! ### Numbers -/

theorem Text.natural_injective : Function.Injective Text.natural := by
  intro left right same
  have digits : Nat.toDigits 10 left = Nat.toDigits 10 right := String.ofList_injective same
  rw [← Nat.ofDigitChars_ten_toDigits (n := left), digits, Nat.ofDigitChars_ten_toDigits]

namespace Watcher

/-- No two registrations have the same identity. -/
theorem registrationId_injective : Function.Injective registrationId := by
  have longer : ∀ number, baseId ≠ baseId ++ "/" ++ Text.natural number := by
    intro number same
    have lengths := congrArg String.length same
    rw [String.length_append, String.length_append] at lengths
    have slash : "/".length = 1 := rfl
    omega
  intro left right same
  unfold registrationId at same
  split at same <;> split at same
  · omega
  · exact absurd same (longer right)
  · exact absurd same.symm (longer left)
  · exact Text.natural_injective ((String.append_right_inj _).mp same)

/-! ### One call -/

section OneCall

variable {watcher : Watcher} {call : List String} {pattern : String}

theorem mem_fresh_iff :
    pattern ∈ watcher.fresh call ↔ pattern ∈ call ∧ pattern ∉ watcher.patterns := by
  rw [fresh, unseen_eq_eraseDups, List.mem_eraseDups, List.mem_filter]
  simp

theorem fresh_eq_nil_iff :
    watcher.fresh call = [] ↔ ∀ pattern ∈ call, pattern ∈ watcher.patterns := by
  rw [List.eq_nil_iff_forall_not_mem]
  simp only [mem_fresh_iff, not_and, not_not]

/-- What is new in a call are the first mentions it adds to those before it. -/
theorem eraseDups_append_fresh {earlier : List String}
    (known : watcher.patterns = earlier.eraseDups) (call : List String) :
    (earlier ++ call).eraseDups = watcher.patterns ++ watcher.fresh call := by
  have same : (call.filter fun pattern => !watcher.patterns.contains pattern) =
      call.removeAll earlier := by
    refine List.filter_congr fun pattern _ => ?_
    rw [known, Bool.not_inj_iff, Bool.eq_iff_iff, List.contains_iff_mem, List.mem_eraseDups,
      List.elem_iff]
  rw [List.eraseDups_append, fresh, unseen_eq_eraseDups, same, known]

/-- A call with something new is registered under the next number, and a call without is not. -/
theorem watch_cases (watcher : Watcher) (call : List String) :
    watcher.fresh call = [] ∧ (watcher.watch call).value = (none, watcher) ∨
      watcher.fresh call ≠ [] ∧ (watcher.watch call).value =
        (some ⟨registrationId (watcher.registrations + 1), watcher.fresh call⟩,
          ⟨watcher.patterns ++ watcher.fresh call, watcher.registrations + 1⟩) := by
  unfold watch
  dsimp only
  split
  · rename_i nothing
    exact .inl ⟨List.isEmpty_iff.mp nothing, rfl⟩
  · rename_i something
    exact .inr ⟨fun nothing => something (List.isEmpty_iff.mpr nothing), rfl⟩

theorem watch_of_known (known : ∀ pattern ∈ call, pattern ∈ watcher.patterns) :
    (watcher.watch call).value = (none, watcher) := by
  obtain ⟨-, value⟩ | ⟨something, -⟩ := watcher.watch_cases call
  · exact value
  · exact absurd (fresh_eq_nil_iff.mpr known) something

theorem watch_patterns (watcher : Watcher) (call : List String) :
    (watcher.watch call).value.2.patterns = watcher.patterns ++ watcher.fresh call := by
  obtain ⟨nothing, value⟩ | ⟨-, value⟩ := watcher.watch_cases call
  · rw [value, nothing, List.append_nil]
  · rw [value]

/-- Nothing is new in a call that is repeated. -/
theorem watch_watch (watcher : Watcher) (call : List String) :
    ((watcher.watch call).value.2.watch call).value = (none, (watcher.watch call).value.2) := by
  refine watch_of_known fun pattern member => ?_
  rw [watch_patterns, List.mem_append, mem_fresh_iff]
  by_cases known : pattern ∈ watcher.patterns
  · exact .inl known
  · exact .inr ⟨member, known⟩

end OneCall

/-! ### Calls in a row -/

/-- The answers to some calls in a row, and the watcher behind them. -/
def watchAll : Watcher → List (List String) → Traced (List (Option Registration) × Watcher)
  | watcher, [] => pure ([], watcher)
  | watcher, call :: calls => do
    let (answer, watcher) ← watcher.watch call
    let (answers, watcher) ← watchAll watcher calls
    pure (answer :: answers, watcher)

/-- The registrations among some answers, in order. -/
def emitted (answers : List (Option Registration)) : List Registration :=
  answers.filterMap id

/-- The patterns of the registrations among some answers, in order. -/
def registered (answers : List (Option Registration)) : List String :=
  (emitted answers).flatMap Registration.patterns

/-- The answer to a call after some patterns: there is none exactly if all patterns of the call are
among these, and otherwise it registers those that are not. -/
structure Answers (earlier call : List String) (answer : Option Registration) : Prop where
  silent : answer = none ↔ ∀ pattern ∈ call, pattern ∈ earlier
  covers : ∀ registration, answer = some registration →
    ∀ pattern, pattern ∈ registration.patterns ↔ pattern ∈ call ∧ pattern ∉ earlier

/-- What a watcher knows of the calls so far and the answers to them. -/
structure Remembers (watcher : Watcher) (calls : List (List String))
    (answers : List (Option Registration)) : Prop where
  length : answers.length = calls.length
  patterns : watcher.patterns = calls.flatten.eraseDups
  registered : registered answers = watcher.patterns
  ids : (emitted answers).map Registration.id =
    (List.range watcher.registrations).map fun number => registrationId (number + 1)
  each : ∀ (place : Nat) call answer, calls[place]? = some call → answers[place]? = some answer →
    Answers (calls.take place).flatten call answer

variable {watcher : Watcher} {calls : List (List String)} {answers : List (Option Registration)}

theorem emitted_append_singleton (answers : List (Option Registration))
    (answer : Option Registration) :
    emitted (answers ++ [answer]) = emitted answers ++ answer.toList := by
  rw [emitted, List.filterMap_append]
  cases answer <;> rfl

theorem registered_append_singleton (answers : List (Option Registration))
    (answer : Option Registration) :
    registered (answers ++ [answer]) =
      registered answers ++ answer.toList.flatMap Registration.patterns := by
  rw [registered, emitted_append_singleton, List.flatMap_append]
  rfl

theorem watch_answers {earlier : List String} (known : watcher.patterns = earlier.eraseDups)
    (call : List String) : Answers earlier call (watcher.watch call).value.1 := by
  have sameMembers : ∀ pattern, pattern ∈ watcher.patterns ↔ pattern ∈ earlier := by
    intro pattern
    rw [known, List.mem_eraseDups]
  have nothingNew : watcher.fresh call = [] ↔ ∀ pattern ∈ call, pattern ∈ earlier := by
    simp only [fresh_eq_nil_iff, sameMembers]
  obtain ⟨nothing, value⟩ | ⟨something, value⟩ := watcher.watch_cases call
  · rw [value]
    exact ⟨⟨fun _ => nothingNew.mp nothing, fun _ => rfl⟩, nofun⟩
  · rw [value]
    refine ⟨⟨nofun, fun all => absurd (nothingNew.mpr all) something⟩, ?_⟩
    rintro registration ⟨⟩ pattern
    rw [mem_fresh_iff, sameMembers]

/-- Another answer is told apart from those before it by its place. -/
theorem each_append_singleton (length : answers.length = calls.length)
    (each : ∀ (place : Nat) call answer, calls[place]? = some call →
      answers[place]? = some answer → Answers (calls.take place).flatten call answer)
    {call : List String} {answer : Option Registration}
    (last : Answers calls.flatten call answer) (place : Nat) (otherCall : List String)
    (otherAnswer : Option Registration) (asked : (calls ++ [call])[place]? = some otherCall)
    (answered : (answers ++ [answer])[place]? = some otherAnswer) :
    Answers ((calls ++ [call]).take place).flatten otherCall otherAnswer := by
  rcases Nat.lt_trichotomy place calls.length with early | rfl | late
  · rw [List.getElem?_append_left early] at asked
    rw [List.getElem?_append_left (length ▸ early)] at answered
    rw [List.take_append_of_le_length (Nat.le_of_lt early)]
    exact each place otherCall otherAnswer asked answered
  · rw [List.getElem?_concat_length] at asked
    rw [← length, List.getElem?_concat_length] at answered
    cases asked
    cases answered
    rw [List.take_left]
    exact last
  · rw [List.getElem?_eq_none (by rw [List.length_append]; exact late)] at asked
    cases asked

theorem Remembers.watch (remembers : watcher.Remembers calls answers) (call : List String) :
    (watcher.watch call).value.2.Remembers (calls ++ [call])
      (answers ++ [(watcher.watch call).value.1]) where
  length := by rw [List.length_append, List.length_append, remembers.length]; rfl
  patterns := by
    rw [watch_patterns, List.flatten_append, List.flatten_singleton,
      eraseDups_append_fresh remembers.patterns]
  registered := by
    rw [watch_patterns, registered_append_singleton, remembers.registered]
    obtain ⟨nothing, value⟩ | ⟨-, value⟩ := watcher.watch_cases call
    · rw [value, nothing]
      rfl
    · rw [value, Option.toList_some, List.flatMap_singleton]
  ids := by
    rw [emitted_append_singleton, List.map_append, remembers.ids]
    obtain ⟨-, value⟩ | ⟨-, value⟩ := watcher.watch_cases call
    · rw [value]
      exact List.append_nil _
    · rw [value, List.range_succ, List.map_append]
      rfl
  each := each_append_singleton remembers.length remembers.each
    (watch_answers remembers.patterns call)

theorem watchAll_cons (watcher : Watcher) (call : List String) (calls : List (List String)) :
    (watcher.watchAll (call :: calls)).value =
      ((watcher.watch call).value.1 :: ((watcher.watch call).value.2.watchAll calls).value.1,
        ((watcher.watch call).value.2.watchAll calls).value.2) :=
  rfl

theorem Remembers.watchAll (remembers : watcher.Remembers calls answers)
    (more : List (List String)) :
    (watcher.watchAll more).value.2.Remembers (calls ++ more)
      (answers ++ (watcher.watchAll more).value.1) := by
  induction more generalizing watcher calls answers with
  | nil =>
    show watcher.Remembers (calls ++ []) (answers ++ [])
    rw [List.append_nil, List.append_nil]
    exact remembers
  | cons call more inductionHypothesis =>
    rw [watchAll_cons, List.append_cons calls, List.append_cons answers]
    exact inductionHypothesis (remembers.watch call)

theorem remembers_new : Remembers {} [] [] :=
  ⟨rfl, rfl, rfl, rfl, fun place call answer asked => by cases asked⟩

/-! ### The patterns in ascending order -/

theorem mem_sorted_iff {pattern : String} : pattern ∈ watcher.sorted ↔ pattern ∈ watcher.patterns :=
  List.mem_mergeSort

theorem pairwise_sorted (distinct : watcher.patterns.Nodup) :
    watcher.sorted.Pairwise (· < ·) := by
  have ascending : watcher.sorted.Pairwise fun left right => decide (left ≤ right) = true :=
    List.pairwise_mergeSort
      (fun left middle right => by simpa using String.le_trans)
      (fun left right => by simpa using String.le_total left right) watcher.patterns
  have different : watcher.sorted.Nodup :=
    (List.mergeSort_perm watcher.patterns _).nodup_iff.mpr distinct
  refine (ascending.and different).imp fun {left right} related => ?_
  exact String.not_le.mp fun back =>
    related.2 (String.le_antisymm (of_decide_eq_true related.1) back)

/-! ### Sharing out the patterns -/

/-- The answers to some calls share out the patterns of these calls, and the watcher knows them. -/
structure SharesOut (calls : List (List String)) (answers : List (Option Registration))
    (watcher : Watcher) : Prop where
  answered : answers.length = calls.length
  /-- The watcher lists each pattern that was mentioned, in ascending order. -/
  watched : ∀ pattern, pattern ∈ watcher.sorted ↔ pattern ∈ calls.flatten
  ascending : watcher.sorted.Pairwise (· < ·)
  /-- A pattern that was mentioned is in one registration and there once, and no other pattern is in
  any. -/
  once : ∀ pattern,
    (registered answers).count pattern = if pattern ∈ calls.flatten then 1 else 0
  /-- The registrations follow the order of first mention. -/
  ordered : (registered answers).Pairwise fun first second =>
    calls.flatten.idxOf first < calls.flatten.idxOf second
  /-- A call is answered by what it is the first to mention, if there is anything. -/
  each : ∀ (place : Nat) call answer, calls[place]? = some call → answers[place]? = some answer →
    Answers (calls.take place).flatten call answer
  distinct : ((emitted answers).map Registration.id).Nodup
  ids : ∀ (place : Nat) registration, (emitted answers)[place]? = some registration →
    registration.id =
      if place = 0 then baseId else baseId ++ "/" ++ Text.natural (place + 1)

theorem Remembers.count_registered (remembers : watcher.Remembers calls answers)
    (pattern : String) :
    (Watcher.registered answers).count pattern = if pattern ∈ calls.flatten then 1 else 0 := by
  rw [remembers.registered, remembers.patterns]
  split
  · rename_i mentioned
    exact List.count_eq_one_of_mem (nodup_eraseDups _) (List.mem_eraseDups.mpr mentioned)
  · rename_i unmentioned
    exact List.count_eq_zero.mpr fun member => unmentioned (List.mem_eraseDups.mp member)

theorem Remembers.id_eq (remembers : watcher.Remembers calls answers) {place : Nat}
    {registration : Registration} (found : (emitted answers)[place]? = some registration) :
    registration.id = registrationId (place + 1) := by
  have named : ((emitted answers).map Registration.id)[place]? = some registration.id := by
    rw [List.getElem?_map, found]
    rfl
  rw [remembers.ids, List.getElem?_map, Option.map_eq_some_iff] at named
  obtain ⟨number, counted, same⟩ := named
  obtain ⟨_, rfl⟩ := List.getElem?_eq_some_iff.mp counted
  rw [← same, List.getElem_range]

/-- Whatever a new watcher is asked for, its registrations share out the patterns of the calls, and
a call that is repeated at once is not registered and changes nothing. -/
theorem watchAll_sharesOut (calls : List (List String)) :
    SharesOut calls (Watcher.watchAll {} calls).value.1 (Watcher.watchAll {} calls).value.2 ∧
      ∀ (watcher : Watcher) (call : List String),
        ((watcher.watch call).value.2.watch call).value =
          (none, (watcher.watch call).value.2) := by
  refine ⟨?_, watch_watch⟩
  have remembers := remembers_new.watchAll calls
  rw [List.nil_append, List.nil_append] at remembers
  generalize (Watcher.watchAll {} calls).value = reached at remembers
  obtain ⟨answers, watcher⟩ := reached
  exact
    { answered := remembers.length
      watched := fun pattern => by
        rw [mem_sorted_iff, remembers.patterns, List.mem_eraseDups]
      ascending := pairwise_sorted (remembers.patterns ▸ nodup_eraseDups _)
      once := remembers.count_registered
      ordered := by
        rw [remembers.registered, remembers.patterns]
        exact pairwise_idxOf_eraseDups calls.flatten
      each := remembers.each
      distinct := by
        rw [remembers.ids]
        exact List.nodup_range.map fun left right same =>
          Nat.succ.inj (registrationId_injective same)
      ids := fun place registration found => by
        rw [remembers.id_eq found, registrationId]
        simp only [Nat.add_eq_right] }

end Watcher

end RippleServer
