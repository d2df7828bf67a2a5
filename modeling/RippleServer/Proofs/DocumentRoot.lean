/-
This file proves that a document gets the project of the deepest folder around
it. The folders around a document are beginnings of one list of components, so
the deepest of them has all the others around it, and it is found whatever the
order of the folders. A document that is in no folder gets the project of its
own directory. Either way the document lies below the root of its project, and
whether it is analysed depends on its extension alone.
-/

import RippleServer.Proofs.ProjectMemo

namespace RippleServer

/-! ### The deepest of some paths -/

namespace ProjectService

theorem deepest?_concat (paths : List Path) (path : Path) :
    deepest? (paths ++ [path]) =
      match deepest? paths with
      | none => some path
      | some other => if other.depth ≤ path.depth then some path else some other := by
  rw [deepest?, List.foldl_concat]
  rfl

/-- There is a deepest path unless there is none at all. -/
theorem deepest?_cases (paths : List Path) :
    deepest? paths = none ∧ paths = [] ∨
      ∃ deepest, deepest? paths = some deepest ∧ deepest ∈ paths ∧
        ∀ path ∈ paths, path.depth ≤ deepest.depth := by
  induction paths using List.reverseRecOn with
  | nil => exact .inl ⟨rfl, rfl⟩
  | append_singleton paths last inductionHypothesis =>
    right
    rw [deepest?_concat]
    have lastIn : last ∈ paths ++ [last] := List.mem_append_right _ List.mem_cons_self
    obtain ⟨none, rfl⟩ | ⟨deepest, found, member, greatest⟩ := inductionHypothesis
    · rw [none]
      exact ⟨last, rfl, lastIn, List.forall_mem_singleton.mpr (Nat.le_refl _)⟩
    · rw [found]
      by_cases deeper : deepest.depth ≤ last.depth
      · refine ⟨last, if_pos deeper, lastIn, List.forall_mem_append.mpr ⟨?_, ?_⟩⟩
        · exact fun path earlier => Nat.le_trans (greatest path earlier) deeper
        · exact List.forall_mem_singleton.mpr (Nat.le_refl _)
      · refine ⟨deepest, if_neg deeper, List.mem_append_left _ member,
          List.forall_mem_append.mpr ⟨greatest, ?_⟩⟩
        exact List.forall_mem_singleton.mpr (Nat.le_of_not_le deeper)

end ProjectService

/-! ### The place of a document -/

/-- The root is the right one for a document, up to its spelling: it is the folder around the
document that has all others around it, or if there is no folder around it, the directory of the
document. -/
inductive BelongsTo (folders : List Path) (document root : Path) : Prop
  | folder (around : root.components <+: document.components)
    (listed : ∃ folder ∈ folders, root.components = folder.components)
    (deepest : ∀ folder ∈ folders, folder.components <+: document.components →
      folder.components <+: root.components)
  | directory
    (outside : ∀ folder ∈ folders, ¬ folder.components <+: document.components)
    (directory : root.components = (document.parent?.getD document).components)

namespace BelongsTo

variable {folders others : List Path} {document root other : Path}

theorem congr (belongs : BelongsTo folders document root)
    (same : other.components = root.components) : BelongsTo folders document other := by
  cases belongs with
  | folder around listed deepest =>
    rw [← same] at around
    refine .folder around (same ▸ listed) fun folder member inside => ?_
    rw [same]
    exact deepest folder member inside
  | directory outside directory => exact .directory outside (same.trans directory)

/-- A document lies below the root it belongs to. -/
theorem isPrefix (belongs : BelongsTo folders document root) :
    root.components <+: document.components := by
  cases belongs with
  | folder around => exact around
  | directory outside directory =>
    rw [directory]
    obtain ⟨parent, last, found, components⟩ | ⟨none, -⟩ := document.parent?_cases
    · rw [found, components]
      exact List.prefix_append _ _
    · rw [none]
      exact List.prefix_rfl

/-- Where a document belongs is decided by the components of the folders. -/
theorem components_eq (belongs : BelongsTo folders document root)
    (belongsToo : BelongsTo others document other)
    (alike : ∀ components, components ∈ others.map Path.components ↔
      components ∈ folders.map Path.components) : other.components = root.components := by
  have sameFolders : ∀ condition : List Path.Component → Prop,
      (∀ folder ∈ others, condition folder.components) ↔
        ∀ folder ∈ folders, condition folder.components := by
    intro condition
    have mapped : (∀ components ∈ others.map Path.components, condition components) ↔
        ∀ components ∈ folders.map Path.components, condition components :=
      forall_congr' fun components => imp_congr_left (alike components)
    simpa only [List.forall_mem_map] using mapped
  cases belongs with
  | folder around listed deepest =>
    obtain ⟨folder, member, same⟩ := listed
    cases belongsToo with
    | folder aroundToo listedToo deepestToo =>
      obtain ⟨folderToo, memberToo, sameToo⟩ := listedToo
      have below := (sameFolders fun components => components <+: document.components →
        components <+: root.components).mpr deepest folderToo memberToo (sameToo ▸ aroundToo)
      have above := (sameFolders fun components => components <+: document.components →
        components <+: other.components).mp deepestToo folder member (same ▸ around)
      rw [← sameToo] at below
      rw [← same] at above
      exact below.eq_of_length_le above.length_le
    | directory outside =>
      have inside := (sameFolders fun components => ¬ components <+: document.components).mp outside
        folder member
      exact absurd (same ▸ around) inside
  | directory outside directory =>
    cases belongsToo with
    | folder aroundToo listedToo =>
      obtain ⟨folderToo, memberToo, sameToo⟩ := listedToo
      have inside :=
        (sameFolders fun components => ¬ components <+: document.components).mpr outside
          folderToo memberToo
      exact absurd (sameToo ▸ aroundToo) inside
    | directory _ directoryToo => rw [directory, directoryToo]

end BelongsTo

namespace ProjectService

/-- The root that is chosen for a document is the right one. -/
theorem rootFor_belongsTo (service : ProjectService) (document : Path) :
    BelongsTo service.folders document (service.rootFor document) := by
  unfold rootFor
  obtain ⟨none, nothing⟩ | ⟨deepest, found, member, greatest⟩ :=
    deepest?_cases (service.folders.filter document.startsWith)
  · rw [none]
    refine .directory (fun folder listed around => ?_) rfl
    exact List.filter_eq_nil_iff.mp nothing folder listed (Path.startsWith_iff.mpr around)
  · rw [found]
    obtain ⟨listed, around⟩ := List.mem_filter.mp member
    rw [Path.startsWith_iff] at around
    refine .folder around ⟨deepest, listed, rfl⟩ fun folder listed' around' => ?_
    -- Of two beginnings of one list, the shorter begins the longer.
    refine List.prefix_of_prefix_length_le around' around (greatest folder ?_)
    exact List.mem_filter.mpr ⟨listed', Path.startsWith_iff.mpr around'⟩

/-- The memory of a service may change the spelling of a root, but not where a document belongs. -/
theorem projectForDocument_belongsTo (service : ProjectService) (earlier : List Inquiry)
    (document : Path) :
    BelongsTo service.folders document
      ((service.askAll earlier).value.2.projectForDocument document).value.1.root := by
  rw [← (service.askAll_growsTo earlier).folders]
  exact (rootFor_belongsTo _ document).congr (projectFor_components _ _)

end ProjectService

/-! ### Extensions -/

namespace Project

/-- A path is analysed for one of these extensions. -/
def HasExtension (extensions : List String) (path : Path) : Prop :=
  ∃ extension, path.extension? = some extension ∧
    ∃ known ∈ extensions, Text.sameIgnoringCase known extension = true

theorem isScript_iff {path : Path} : isScript path = true ↔ HasExtension scriptExtensions path := by
  unfold isScript HasExtension
  cases path.extension? <;> simp

theorem accepts_iff {plugin : LanguagePlugin} {path : Path} :
    plugin.accepts path = true ↔ HasExtension plugin.extensions path := by
  unfold LanguagePlugin.accepts HasExtension
  cases path.extension? <;> simp

theorem hasExtension_append_iff {one other : List String} {path : Path} :
    HasExtension (one ++ other) path ↔ HasExtension one path ∨ HasExtension other path := by
  simp only [HasExtension, List.mem_append, or_and_right, exists_or, and_or_left]

theorem languageFor?_isSome_iff {project : Project} {path : Path} :
    (project.languageFor? path).isSome = true ↔
      HasExtension (project.languages.flatMap LanguagePlugin.extensions) path := by
  rw [languageFor?, List.find?_isSome]
  simp only [accepts_iff, HasExtension, List.mem_flatMap]
  constructor
  · rintro ⟨plugin, member, extension, found, known, listed, same⟩
    exact ⟨extension, found, known, ⟨plugin, member, listed⟩, same⟩
  · rintro ⟨extension, found, known, ⟨plugin, member, listed⟩, same⟩
    exact ⟨plugin, member, extension, found, known, listed, same⟩

/-- Below the root, the extension decides what is analysed. -/
theorem covers_iff {project : Project} {path : Path}
    (below : project.root.components <+: path.components) :
    project.covers path = true ↔
      HasExtension (scriptExtensions ++ project.languages.flatMap LanguagePlugin.extensions)
        path := by
  rw [covers, Path.startsWith_iff.mpr below, Bool.true_and, Bool.or_eq_true, isScript_iff,
    languageFor?_isSome_iff, hasExtension_append_iff]

end Project

/-! ### Documents and their projects -/

namespace ProjectService

/-- Whatever a service was asked for before, a document gets a project it lies below. If there are
folders around the document, the root is one of them and has all the others around it, and if there
are none, the root is the parent of the document, or the document if it has no parent. The root does
not depend on the order of the folders, on how often and how they are written, or on the questions
before. So the extension alone decides whether the project covers the document. -/
theorem projectForDocument_encloses (sdk : Sdk) (messages : Messages)
    (languages : List LanguagePlugin) (folders : List Path) (earlier : List Inquiry)
    (document : Path) :
    let new : ProjectService := { sdk, messages, languages, folders }
    let service := (new.askAll earlier).value.2
    let project := (service.projectForDocument document).value.1
    document.startsWith project.root = true ∧
      ((∃ folder ∈ folders, document.startsWith folder = true) →
        (∃ folder ∈ folders, project.root.sameAs folder = true) ∧
          ∀ folder ∈ folders, document.startsWith folder = true →
            project.root.startsWith folder = true) ∧
      ((∀ folder ∈ folders, document.startsWith folder = false) →
        match document.parent? with
        | some parent => project.root.sameAs parent = true
        | none => project.root.sameAs document = true) ∧
      (∀ (others : List Path) (otherwise : List Inquiry),
        (∀ components, components ∈ others.map Path.components ↔
          components ∈ folders.map Path.components) →
          let other := (ProjectService.askAll { new with folders := others } otherwise).value.2
          (other.projectForDocument document).value.1.root.sameAs project.root = true) ∧
      (project.covers document = true ↔
        Project.HasExtension (["ts", "tsx", "mts", "cts", "js", "jsx", "mjs", "cjs"] ++
          languages.flatMap LanguagePlugin.extensions) document) := by
  intro new service project
  have grows : new.GrowsTo service := new.askAll_growsTo earlier
  have belongs : BelongsTo folders document project.root :=
    new.projectForDocument_belongsTo earlier document
  have nothing : new.Remembers [] := remembers_of_eq_nil rfl
  have created : project = service.create project.root :=
    ((nothing.askAll earlier).uniform.projectFor (service.rootFor document)).2
  have equipped : project.languages = languages := by
    rw [created]
    exact grows.languages
  simp only [Path.startsWith_iff, Path.sameAs_iff]
  refine ⟨belongs.isPrefix, ?_, ?_, ?_, ?_⟩
  · rintro ⟨folder, member, around⟩
    cases belongs with
    | folder _ listed deepest => exact ⟨listed, deepest⟩
    | directory outside => exact absurd around (outside folder member)
  · intro outside
    cases belongs with
    | folder around listed =>
      obtain ⟨folder, member, same⟩ := listed
      have apart := outside folder member
      rw [Path.startsWith_iff.mpr (same ▸ around)] at apart
      cases apart
    | directory _ directory =>
      rw [directory]
      cases document.parent? <;> rfl
  · intro others otherwise alike
    exact belongs.components_eq
      (projectForDocument_belongsTo { new with folders := others } otherwise document) alike
  · rw [Project.covers_iff belongs.isPrefix, equipped]
    rfl

/-- A document below two folders, the deeper of them asked for before in another spelling, and
beside a folder whose name begins the same way. -/
theorem projectForDocument_encloses_in_nested_folders :
    let sdk : Sdk := ⟨⟨"/ts"⟩, { path := ⟨"/ts"⟩ }, none⟩
    let folders : List Path := [⟨"/work/./app/"⟩, ⟨"/work"⟩, ⟨"/work/ap"⟩]
    let document : Path := ⟨"/work/app/main.TS"⟩
    let new : ProjectService := { sdk, messages := .builtin, languages := [], folders }
    let service := (new.askAll [.root ⟨"/work//app"⟩]).value.2
    document.startsWith ⟨"/work"⟩ = true ∧
      (service.projectForDocument document).value.1.root = ⟨"/work//app"⟩ ∧
      (service.projectForDocument document).value.1.root.startsWith ⟨"/work"⟩ = true ∧
      (service.projectForDocument document).value.1.covers document = true := by
  intro sdk folders document new service
  have around : document.startsWith ⟨"/work"⟩ = true := by decide +kernel
  have listed : Path.mk "/work" ∈ folders := List.mem_cons_of_mem _ List.mem_cons_self
  have extension : document.extension? = some "TS" := by decide +kernel
  have script : Text.sameIgnoringCase "ts" "TS" = true := by decide
  obtain ⟨-, inside, -, -, covers⟩ :=
    projectForDocument_encloses sdk .builtin [] folders [.root ⟨"/work//app"⟩] document
  obtain ⟨-, deepest⟩ := inside ⟨_, listed, around⟩
  exact ⟨around, by decide +kernel, deepest _ listed around,
    covers.mpr ⟨"TS", extension, "ts", List.mem_cons_self, script⟩⟩

end ProjectService

end RippleServer
