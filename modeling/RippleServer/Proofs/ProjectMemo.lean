/-
This file follows a project service through any number of questions. The service
answers a question by the project of a root, and what it answers for a root once
it answers ever after: the roots that were asked for and the projects that were
created match, and of the roots with the same components the first one gives the
project its spelling.
-/

import Mathlib.Data.Finset.Card
import RippleServer.Proofs.Coherence
import RippleServer.Proofs.PathComponents

namespace RippleServer

/-! ### Questions -/

/-- What a project service is asked for: the project of a root or of a document. -/
inductive Inquiry
  | root (root : Path)
  | document (document : Path)

/-- A root that was asked for and the project that was the answer. -/
structure Answered where
  root : Path
  project : Project

namespace ProjectService

/-- The root a question is about. -/
def rootOf (service : ProjectService) : Inquiry → Path
  | .root root => root
  | .document document => service.rootFor document

/-- The answer to a question. -/
def ask (service : ProjectService) : Inquiry → Traced (Project × ProjectService)
  | .root root => service.projectFor root
  | .document document => service.projectForDocument document

/-- The answers to some questions in a row. -/
def askAll : ProjectService → List Inquiry → Traced (List Answered × ProjectService)
  | service, [] => pure ([], service)
  | service, inquiry :: rest => do
    let (project, next) ← service.ask inquiry
    let (answers, last) ← askAll next rest
    pure (⟨service.rootOf inquiry, project⟩ :: answers, last)

theorem ask_eq (service : ProjectService) (inquiry : Inquiry) :
    service.ask inquiry = service.projectFor (service.rootOf inquiry) := by
  cases inquiry <;> rfl

theorem askAll_cons (service : ProjectService) (inquiry : Inquiry) (rest : List Inquiry) :
    (service.askAll (inquiry :: rest)).value =
      (⟨service.rootOf inquiry, (service.ask inquiry).value.1⟩ ::
          ((service.ask inquiry).value.2.askAll rest).value.1,
        ((service.ask inquiry).value.2.askAll rest).value.2) :=
  rfl

/-! ### What stays the same -/

theorem ask_growsTo (service : ProjectService) (inquiry : Inquiry) :
    service.GrowsTo (service.ask inquiry).value.2 := by
  rw [ask_eq]
  exact service.projectFor_growsTo _

theorem askAll_growsTo (service : ProjectService) (inquiries : List Inquiry) :
    service.GrowsTo (service.askAll inquiries).value.2 := by
  induction inquiries generalizing service with
  | nil => exact .refl service
  | cons inquiry inquiries inductionHypothesis =>
    rw [askAll_cons]
    exact (service.ask_growsTo inquiry).trans (inductionHypothesis _)

/-- Only the folders decide what a question is about. -/
theorem rootOf_eq {service other : ProjectService} (folders : other.folders = service.folders)
    (inquiry : Inquiry) : other.rootOf inquiry = service.rootOf inquiry := by
  cases inquiry with
  | root root => rfl
  | document document => rw [rootOf, rootOf, rootFor, rootFor, folders]

theorem askAll_roots (service : ProjectService) (inquiries : List Inquiry) :
    (service.askAll inquiries).value.1.map Answered.root = inquiries.map service.rootOf := by
  induction inquiries generalizing service with
  | nil => rfl
  | cons inquiry inquiries inductionHypothesis =>
    rw [askAll_cons, List.map_cons, List.map_cons, inductionHypothesis]
    congr 1
    exact List.map_congr_left fun other _ => rootOf_eq (service.ask_growsTo inquiry).folders other

/-! ### Looking a root up -/

section Lookup

variable {service : ProjectService} {root other : Path} {project : Project}

theorem find?_congr (same : root.components = other.components) :
    service.find? root = service.find? other := by
  unfold find? Path.sameAs
  rw [same]

theorem components_of_find? (found : service.find? root = some project) :
    project.root.components = root.components := by
  unfold find? at found
  have same := List.find?_some found
  exact Path.sameAs_iff.mp same

/-- A project that exists is the answer, and otherwise the answer is a new one at the end. -/
theorem projectFor_cases (service : ProjectService) (root : Path) :
    (∃ project, service.find? root = some project ∧
        (service.projectFor root).value = (project, service)) ∨
      service.find? root = none ∧
        (service.projectFor root).value = (service.create root,
          { service with projects := service.projects ++ [service.create root] }) := by
  unfold projectFor
  cases found : service.find? root with
  | some project => exact .inl ⟨project, rfl, rfl⟩
  | none => exact .inr ⟨rfl, rfl⟩

/-- The root of an answer is the one asked for, up to its spelling. -/
theorem projectFor_components (service : ProjectService) (root : Path) :
    (service.projectFor root).value.1.root.components = root.components := by
  obtain ⟨project, found, value⟩ | ⟨-, value⟩ := service.projectFor_cases root
  · rw [value]
    exact components_of_find? found
  · rw [value]
    rfl

theorem find?_append_create (service : ProjectService) (root other : Path) :
    ProjectService.find? { service with projects := service.projects ++ [service.create root] }
        other =
      (service.find? other).or
        (if root.sameAs other then some (service.create root) else none) := by
  rw [find?, List.find?_append, List.find?_singleton]
  rfl

end Lookup

/-! ### The memory of a service -/

/-- What a service knows of the answers it has given. -/
structure Remembers (service : ProjectService) (answers : List Answered) : Prop where
  uniform : service.Uniform
  distinct : service.projects.Pairwise fun one other => one.root.components ≠ other.root.components
  /-- A root is looked up among the projects as among the roots that were asked for. -/
  find : ∀ root, (service.find? root).map Project.root =
    (answers.find? fun earlier => earlier.root.sameAs root).map Answered.root
  answered : ∀ answer ∈ answers, service.find? answer.root = some answer.project

variable {service : ProjectService} {answers : List Answered}

theorem remembers_of_eq_nil (empty : service.projects = []) : service.Remembers [] where
  uniform := uniform_of_eq_nil empty
  distinct := by
    rw [empty]
    exact .nil
  find root := by
    rw [find?, empty]
    rfl
  answered := nofun

/-- Nothing is added to the memory by a root that was asked for before. -/
theorem Remembers.found (remembers : service.Remembers answers) {root : Path} {project : Project}
    (found : service.find? root = some project) :
    service.Remembers (answers ++ [⟨root, project⟩]) where
  uniform := remembers.uniform
  distinct := remembers.distinct
  find other := by
    rw [remembers.find, List.find?_append, List.find?_singleton]
    cases earlier : answers.find? fun earlier => earlier.root.sameAs other with
    | some answer => rfl
    | none =>
      -- If the root were the other one, that would have been found as well.
      have different : ¬ root.sameAs other = true := by
        intro same
        have alike := remembers.find other
        rw [earlier, ← find?_congr (Path.sameAs_iff.mp same), found] at alike
        cases alike
      rw [if_neg different]
      rfl
  answered := by
    refine List.forall_mem_append.mpr ⟨remembers.answered, ?_⟩
    exact List.forall_mem_singleton.mpr found

theorem Remembers.created (remembers : service.Remembers answers) {root : Path}
    (absent : service.find? root = none) :
    Remembers { service with projects := service.projects ++ [service.create root] }
      (answers ++ [⟨root, service.create root⟩]) where
  uniform := by
    refine List.forall_mem_append.mpr ⟨remembers.uniform, ?_⟩
    exact List.forall_mem_singleton.mpr rfl
  distinct := by
    refine List.pairwise_append.mpr ⟨remembers.distinct, List.pairwise_singleton _ _, ?_⟩
    intro project member new isNew same
    rw [List.mem_singleton.mp isNew] at same
    exact List.find?_eq_none.mp absent project member (Path.sameAs_iff.mpr same)
  find other := by
    rw [find?_append_create, List.find?_append, List.find?_singleton, Option.map_or, Option.map_or,
      remembers.find]
    by_cases same : root.sameAs other = true
    · rw [if_pos same, if_pos same]
      rfl
    · rw [if_neg same, if_neg same]
      rfl
  answered := by
    refine List.forall_mem_append.mpr ⟨fun answer member => ?_, ?_⟩
    · rw [find?_append_create, remembers.answered answer member]
      rfl
    · refine List.forall_mem_singleton.mpr ?_
      rw [find?_append_create, absent, if_pos (Path.sameAs_iff.mpr rfl)]
      rfl

theorem Remembers.projectFor (remembers : service.Remembers answers) (root : Path) :
    (service.projectFor root).value.2.Remembers
      (answers ++ [⟨root, (service.projectFor root).value.1⟩]) := by
  obtain ⟨project, found, value⟩ | ⟨absent, value⟩ := service.projectFor_cases root
  · rw [value]
    exact remembers.found found
  · rw [value]
    exact remembers.created absent

theorem Remembers.askAll (remembers : service.Remembers answers) (inquiries : List Inquiry) :
    (service.askAll inquiries).value.2.Remembers
      (answers ++ (service.askAll inquiries).value.1) := by
  induction inquiries generalizing service answers with
  | nil =>
    show service.Remembers (answers ++ [])
    rw [List.append_nil]
    exact remembers
  | cons inquiry inquiries inductionHypothesis =>
    rw [askAll_cons, ask_eq, List.append_cons]
    exact inductionHypothesis (remembers.projectFor _)

/-! ### The answers of a service -/

/-- The service gives one project for each root, and keeps it. A project is an object with an
identity, and the identity is its place in the service: since no value is kept in two places, two
answers are the same object exactly if they are the same value. -/
structure Memoises (service : ProjectService) (answers : List Answered) : Prop where
  /-- Every answer is one of the projects of the service, and is that in one place only. -/
  kept : ∀ answer ∈ answers, ∃! place : Nat, service.projects[place]? = some answer.project
  /-- Two answers are the same project exactly if the roots have the same components. -/
  same : ∀ one ∈ answers, ∀ other ∈ answers,
    one.project = other.project ↔ one.root.components = other.root.components
  /-- A project has the spelling of the first root it was the answer for. -/
  spelling : ∀ answer ∈ answers, ∃ first,
    answers.find? (fun earlier => earlier.root.sameAs answer.root) = some first ∧
      answer.project.root = first.root
  count : service.count = (answers.map fun answer => answer.root.components).toFinset.card

theorem Remembers.existsUnique_place (remembers : service.Remembers answers) {answer : Answered}
    (member : answer ∈ answers) :
    ∃! place : Nat, service.projects[place]? = some answer.project := by
  have found := List.mem_of_find?_eq_some (remembers.answered answer member)
  have nodup : service.projects.Nodup :=
    remembers.distinct.imp fun different same => different (congrArg (·.root.components) same)
  obtain ⟨place, here⟩ := List.mem_iff_getElem?.mp found
  refine ⟨place, here, fun elsewhere there => ?_⟩
  obtain ⟨inside, -⟩ := List.getElem?_eq_some_iff.mp there
  exact (List.getElem?_inj inside nodup).mp (there.trans here.symm)

theorem Remembers.project_eq_iff (remembers : service.Remembers answers) {one other : Answered}
    (oneIn : one ∈ answers) (otherIn : other ∈ answers) :
    one.project = other.project ↔ one.root.components = other.root.components := by
  have oneFound := remembers.answered one oneIn
  have otherFound := remembers.answered other otherIn
  constructor
  · intro same
    rw [← components_of_find? oneFound, ← components_of_find? otherFound, same]
  · intro same
    rw [find?_congr same, otherFound] at oneFound
    exact (Option.some.inj oneFound).symm

theorem Remembers.mem_components_iff (remembers : service.Remembers answers)
    {components : List Path.Component} :
    components ∈ service.projects.map (fun project => project.root.components) ↔
      components ∈ answers.map fun answer => answer.root.components := by
  simp only [List.mem_map]
  constructor
  · rintro ⟨project, member, rfl⟩
    have present : (service.find? project.root).isSome = true :=
      List.find?_isSome.mpr ⟨project, member, Path.sameAs_iff.mpr rfl⟩
    obtain ⟨found, isFound⟩ := Option.isSome_iff_exists.mp present
    have alike := remembers.find project.root
    rw [isFound] at alike
    obtain ⟨answer, asked, -⟩ := Option.map_eq_some_iff.mp alike.symm
    have same := List.find?_some asked
    exact ⟨answer, List.mem_of_find?_eq_some asked, Path.sameAs_iff.mp same⟩
  · rintro ⟨answer, member, rfl⟩
    have found := remembers.answered answer member
    exact ⟨answer.project, List.mem_of_find?_eq_some found, components_of_find? found⟩

theorem Remembers.count_eq (remembers : service.Remembers answers) :
    service.count = (answers.map fun answer => answer.root.components).toFinset.card := by
  have distinct : (service.projects.map fun project => project.root.components).Nodup :=
    List.pairwise_map.mpr remembers.distinct
  have alike : (service.projects.map fun project => project.root.components).toFinset =
      (answers.map fun answer => answer.root.components).toFinset := by
    ext components
    rw [List.mem_toFinset, List.mem_toFinset, remembers.mem_components_iff]
  rw [← alike, List.toFinset_card_of_nodup distinct, List.length_map]
  rfl

theorem Remembers.memoises (remembers : service.Remembers answers) : service.Memoises answers where
  kept _ member := remembers.existsUnique_place member
  same _ oneIn _ otherIn := remembers.project_eq_iff oneIn otherIn
  spelling answer member := by
    have alike := remembers.find answer.root
    rw [remembers.answered answer member] at alike
    obtain ⟨first, found, same⟩ := Option.map_eq_some_iff.mp alike.symm
    exact ⟨first, found, same.symm⟩
  count := remembers.count_eq

/-- A new service gives one project for each root it is asked for, directly or by a document, and
never another one for the same components: however the questions follow each other, and whatever is
asked later. What counts as the same is seen in the text: repeated separators, single dots and a
separator at the end make no difference, and two dots take nothing back. -/
theorem askAll_memoises (sdk : Sdk) (messages : Messages) (languages : List LanguagePlugin)
    (folders : List Path) (inquiries : List Inquiry) :
    let new : ProjectService := { sdk, messages, languages, folders }
    let answers := (new.askAll inquiries).value.1
    let service := (new.askAll inquiries).value.2
    answers.map Answered.root = inquiries.map new.rootOf ∧
      service.Memoises answers ∧
      (∀ later, service.GrowsTo (service.askAll later).value.2) ∧
      ∀ base name tail : String,
        let plain := (Path.mk (base ++ "/" ++ tail)).components
        (Path.mk (base ++ "//" ++ tail)).components = plain ∧
          (Path.mk (base ++ "/./" ++ tail)).components = plain ∧
          (Path.mk (base ++ "/" ++ tail ++ "/")).components = plain ∧
          (Path.mk (base ++ "/" ++ name ++ "/../" ++ tail)).components ≠ plain := by
  intro new answers service
  have nothing : new.Remembers [] := remembers_of_eq_nil rfl
  have remembers : service.Remembers answers := nothing.askAll inquiries
  exact ⟨new.askAll_roots inquiries, remembers.memoises, service.askAll_growsTo,
    Path.components_spellings⟩

end ProjectService

end RippleServer
