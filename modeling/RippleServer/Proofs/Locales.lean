/-
This file tells in whose words an SDK speaks. A locale is reduced to a tag: white
space around it, capitals and the choice between hyphens and underscores do not
matter. The tables of the tag and of its language are looked for, in this order
and up to the first one that can be used; if there is none, and for English
without asking, the SDK speaks its own words. So the tag decides everything, and
a session adds nothing to that but English for a client without a locale.
-/

import RippleServer.Proofs.OptionPayloads
import RippleServer.Proofs.SdkLoading

namespace RippleServer

/-! ### Letters that are changed -/

namespace Text

end Text

namespace Messages

/-! ### Tags -/

/-- The tag of a locale: the locale without white space around it, in small letters and with hyphens
in place of underscores. -/
def tag (locale : String) : String :=
  hyphenated (Text.lower (Text.trim locale))

/-- The language of a tag: what comes before its first hyphen. -/
def primary (tag : String) : String :=
  String.ofList (tag.toList.takeWhile (· ≠ '-'))

/-- The tags whose tables are looked for: none for English and where there is no language, otherwise
the tag itself, and its language if that is another one. -/
def sought (tag : String) : List String :=
  if primary tag = "" ∨ primary tag = "en" then []
  else if tag = primary tag then [tag]
  else [tag, primary tag]

/-- A letter, or a hyphen in place of an underscore. -/
def hyphenLetter (char : Char) : Char :=
  if char = '_' then '-' else char

/-- An underscore ends the language as well as the hyphen that takes its place. -/
theorem language_eq (locale : String) : language locale = primary (hyphenated locale) := by
  have ends : (decide <| · ≠ '-') ∘ hyphenLetter = fun char => char ≠ '-' && char ≠ '_' := by
    funext char
    by_cases underscore : char = '_' <;> simp [hyphenLetter, underscore]
  have untouched : ∀ char ∈ locale.toList.takeWhile fun char => char ≠ '-' && char ≠ '_',
      hyphenLetter char = char := by
    intro char member
    have passed := List.all_eq_true.mp List.all_takeWhile char member
    rw [Bool.and_eq_true, decide_eq_true_eq, decide_eq_true_eq] at passed
    exact if_neg passed.2
  have primaryChars : (primary (hyphenated locale)).toList =
      (locale.toList.map hyphenLetter).takeWhile (· ≠ '-') := by
    rw [primary, hyphenated, String.toList_ofList, String.toList_ofList]
    rfl
  apply String.toList_injective
  rw [primaryChars, language, String.toList_ofList, List.takeWhile_map, ends,
    List.map_congr_left untouched, List.map_id']

theorem candidates_eq (locale : String) : candidates locale = sought (tag locale) := by
  unfold candidates
  rw [language_eq]
  rfl

end Messages

/-! ### Tables -/

namespace Json

/-- The members of an object that holds some texts. -/
def textMembers (table : List (String × String)) : List (String × Json) :=
  table.map fun entry => (entry.1, .str entry.2)

theorem exists_eq_textMembers_iff {members : List (String × Json)} :
    (∃ table, members = textMembers table) ↔ ∀ member ∈ members, ∃ text, member.2 = .str text := by
  constructor
  · rintro ⟨table, rfl⟩ member memberIn
    obtain ⟨entry, -, rfl⟩ := List.mem_map.mp memberIn
    exact ⟨entry.2, rfl⟩
  · intro texts
    induction members with
    | nil => exact ⟨[], rfl⟩
    | cons member rest inductionHypothesis =>
      obtain ⟨⟨text, isText⟩, behind⟩ := List.forall_mem_cons.mp texts
      obtain ⟨table, rfl⟩ := inductionHypothesis behind
      exact ⟨(member.1, text) :: table, by rw [textMembers, textMembers, List.map_cons, ← isText]⟩

theorem asTextTable_eq_ok_iff {value : Json} {table : List (String × String)} :
    asTextTable value = .ok table ↔ value = .obj (textMembers table) := by
  cases value with
  | obj members =>
    rw [asTextTable, Json.obj.injEq]
    induction members generalizing table with
    | nil => cases table <;> simp [textMembers, pure, Except.pure]
    | cons member rest inductionHypothesis =>
      obtain ⟨key, part⟩ := member
      rw [List.mapM_cons, bind_eq_ok_iff]
      constructor
      · rintro ⟨entry, first, others⟩
        obtain ⟨text, isText, rfl⟩ := map_eq_ok_iff.mp first
        obtain ⟨entries, behind, ⟨⟩⟩ := bind_eq_ok_iff.mp others
        obtain rfl : part = .str text := asText_iff.mp isText
        rw [textMembers, List.map_cons, inductionHypothesis.mp behind]
        rfl
      · intro same
        cases table with
        | nil => cases same
        | cons entry entries =>
          cases same
          have behind := inductionHypothesis.mpr rfl
          exact ⟨entry, rfl, bind_eq_ok_iff.mpr ⟨entries, behind, rfl⟩⟩
  | null | bool _ | num _ | str _ | arr _ =>
    constructor
    · rintro ⟨⟩
    · rintro ⟨⟩

end Json

namespace Messages

variable {loader : Loader} {root : Path}

/-- The table of a tag can be used: it is an object whose members are all texts. -/
def HasTable (loader : Loader) (root : Path) (tag : String) (members : List (String × Json)) :
    Prop :=
  loader.loadJson (tablePath root tag) = .ok (.obj members) ∧
    ∀ member ∈ members, ∃ text, member.2 = .str text

theorem get?_localized (tag : String) (table : List (String × String)) (key : String) :
    ((localized tag table).get? key).map Json.str = Json.member? key (Json.textMembers table) := by
  show ((table.find? fun entry => entry.1 == key).map Prod.snd).map Json.str = _
  induction table with
  | nil => rfl
  | cons entry rest inductionHypothesis =>
    obtain ⟨name, text⟩ := entry
    rw [Json.textMembers, List.map_cons, Json.member?]
    by_cases same : key = name
    · simp [same]
    · have passed : (name == key) = false := beq_false_of_ne (Ne.symm same)
      rw [if_neg same, List.find?_cons]
      dsimp only
      rw [passed]
      exact inductionHypothesis

/-- One candidate has a table, whose texts are then taken, or it is passed over. -/
theorem tryTable_cases (loader : Loader) (root : Path) (tag : String) :
    (∃ table, HasTable loader root tag (Json.textMembers table) ∧
        (tryTable loader root tag).value = some (localized tag table)) ∨
      (∀ members, ¬ HasTable loader root tag members) ∧
        (tryTable loader root tag).value = none := by
  have asks := loader.run_fetchJson (tablePath root tag)
  unfold tryTable HasTable
  dsimp only
  rw [asks]
  cases found : loader.loadJson (tablePath root tag) with
  | error error =>
    refine .inr ⟨?_, ?_⟩
    · rintro members ⟨⟨⟩, -⟩
    · cases error <;> rfl
  | ok value =>
    cases read : Json.asTextTable value with
    | ok table =>
      obtain rfl := Json.asTextTable_eq_ok_iff.mp read
      refine .inl ⟨table, ⟨rfl, Json.exists_eq_textMembers_iff.mp ⟨table, rfl⟩⟩, ?_⟩
      simp [read]
    | error problem =>
      refine .inr ⟨?_, by simp [read]⟩
      rintro members ⟨same, texts⟩
      obtain ⟨table, rfl⟩ := Json.exists_eq_textMembers_iff.mpr texts
      obtain rfl := Except.ok.inj same
      rw [Json.asTextTable_eq_ok_iff.mpr rfl] at read
      cases read

/-- How texts are selected from the tables of some tags, and which of the tags are asked for: the
tags up to the first one that has a table, whose texts are then the texts of that table; or all of
them, if none has a table, and then the texts are the ones built in. -/
inductive Selects (loader : Loader) (root : Path) (tags : List String) :
    List String → Messages → Prop
  | table {before after : List String} {tag : String} {members : List (String × Json)}
    {messages : Messages} (order : tags = before ++ tag :: after)
    (unusable : ∀ earlier ∈ before, ∀ members, ¬ HasTable loader root earlier members)
    (held : HasTable loader root tag members) (localized : messages.isBuiltin = false)
    (locale : messages.locale = tag)
    (texts : ∀ key, (messages.get? key).map Json.str = Json.member? key members) :
    Selects loader root tags (before ++ [tag]) messages
  | builtin (unusable : ∀ tag ∈ tags, ∀ members, ¬ HasTable loader root tag members) :
    Selects loader root tags tags builtin

/-- Texts that are selected from the other tags are also selected if a tag without a table is tried
before them. -/
theorem Selects.cons {tag : String} {tags asked : List String} {messages : Messages}
    (selects : Selects loader root tags asked messages)
    (unusable : ∀ members, ¬ HasTable loader root tag members) :
    Selects loader root (tag :: tags) (tag :: asked) messages := by
  cases selects with
  | table order before held localized locale texts =>
    exact .table (congrArg (tag :: ·) order) (List.forall_mem_cons.mpr ⟨unusable, before⟩) held
      localized locale texts
  | builtin others => exact .builtin (List.forall_mem_cons.mpr ⟨unusable, others⟩)

theorem firstUsable_selects (loader : Loader) (root : Path) (tags : List String) :
    ∃ asked, (firstUsable loader root tags).lookups =
        asked.map (fun tag => .loadJson (tablePath root tag)) ∧
      Selects loader root tags asked (firstUsable loader root tags).value := by
  induction tags with
  | nil => exact ⟨[], rfl, .builtin nofun⟩
  | cons tag rest inductionHypothesis =>
    have asks := (tryTable_lookups loader root tag).1
    rw [firstUsable, Traced.lookups_bind, Traced.value_bind, asks]
    obtain ⟨table, held, found⟩ | ⟨unusable, passed⟩ := tryTable_cases loader root tag
    · have first : tag :: rest = [] ++ tag :: rest := rfl
      rw [found]
      exact ⟨[tag], rfl, .table first nofun held rfl rfl (get?_localized tag table)⟩
    · obtain ⟨asked, lookups, selects⟩ := inductionHypothesis
      rw [passed]
      exact ⟨tag :: asked, congrArg (_ :: ·) lookups, selects.cons unusable⟩

theorem load_selects (loader : Loader) (root : Path) (locale : String) :
    ∃ asked, (load loader root locale).lookups =
        asked.map (fun tag => .loadJson (tablePath root tag)) ∧
      Selects loader root (sought (tag locale)) asked (load loader root locale).value := by
  rw [← candidates_eq]
  exact firstUsable_selects loader root (candidates locale)

end Messages

/-! ### The texts of an SDK -/

namespace Sdk

/-- What is asked of the loader about the SDK itself. -/
def moduleLookups (root : Path) : List Lookup :=
  .load (root.child "typescript.js") ::
    (root.parent?.map fun package => .loadJson (package.child "package.json")).toList

variable {loader : Loader} {root : Path} {locale : String}

theorem readVersion_lookups (loader : Loader) (root : Path) :
    (readVersion loader root).run.lookups =
      (root.parent?.map fun package => .loadJson (package.child "package.json")).toList := by
  rw [(readVersion_eq loader root).1, versionProbe]
  cases root.parent? <;> rfl

/-- Tables are looked for once the SDK is accepted. -/
theorem load_lookups (loader : Loader) (root : Path) (locale : String) :
    (∃ error, (load loader root locale).run.value = .error error ∧
        (load loader root locale).run.lookups <+: moduleLookups root) ∨
      ∃ found, (load loader root locale).run.value = .ok found ∧
        found.messages = (Messages.load loader root locale).value ∧
        (load loader root locale).run.lookups =
          moduleLookups root ++ (Messages.load loader root locale).lookups := by
  have asked : moduleLookups root =
      .load (root.child entryName) :: (readVersion loader root).run.lookups := by
    rw [readVersion_lookups]
    rfl
  rw [asked]
  cases found : loader.load (root.child entryName) with
  | error error =>
    rw [load_of_unfound found]
    exact .inl ⟨error, rfl, List.prefix_append [_] _⟩
  | ok entry =>
    cases version : (readVersion loader root).run.value with
    | error error =>
      rw [load_of_refused found version]
      exact .inl ⟨error, rfl, List.prefix_refl _⟩
    | ok version' =>
      rw [load_of_supported found version]
      generalize Messages.load loader root locale = texts
      refine .inr ⟨_, rfl, rfl, ?_⟩
      simp [Traced.lookups, Event.lookup?]

end Sdk

/-! ### The locale of a session -/

namespace Handshake

end Handshake

end RippleServer
