/-
This file proves how payloads are classified. What matters of a payload are the
five parts a message may have, each of which is missing, null, or a value that
must be of the type of the part; other members and the order of all of them do
not matter. An array stands for the object whose first parts are its items, so
that being an object is not what makes a payload a message.
-/

import RippleServer.Proofs.InertTraffic
import RippleServer.Proofs.RecordDecoding
import Mathlib.Data.List.Nodup

namespace RippleServer

/-! ### Errors -/

namespace Rpc.ResponseError

/-- The tree spells the error: it is an object with a whole number of 64 bits as its code, a text as
its message, and perhaps data, none of which comes twice, or the array of these values. -/
inductive Spelled : Json → ResponseError → Prop
  | object {members : List (String × Json)} {code : Int} {message : String} {data : Option Json}
      (once : ∀ name ∈ ["code", "message", "data"], (members.map Prod.fst).count name ≤ 1)
      (coded : Json.member? "code" members = some (.int code)) (bounded : code ≤ Text.signedBound)
      (said : Json.member? "message" members = some (.str message))
      (added : Json.TellsValue (Json.member? "data" members) data) :
      Spelled (.obj members) { code, message, data }
  | array {items : List Json} {error : ResponseError} (bounded : items.length ≤ 3)
      (named : Spelled (.obj (["code", "message", "data"].zip items)) error) :
      Spelled (.arr items) error

theorem field_cases {name : String} (known : name ∈ record.fields) :
    name = "code" ∨ name = "message" ∨ name = "data" := by
  simpa only [record, List.mem_cons, List.not_mem_nil, or_false] using known

/-- The fields that have been seen once the parts have been read. -/
def draftOf (parts : String → Option Json) : Draft where
  code := (parts "code").map fun part => (Json.int64? part).getD 0
  message := (parts "message").map fun part => (Json.text? part).getD ""
  data := (parts "data").map Json.given?

/-- How an error is assembled from its parts. -/
def assembly : Json.Assembly record where
  fits name part :=
    if name = "code" then (Json.int64? part).isSome
    else if name = "message" then (Json.text? part).isSome
    else true
  state := draftOf
  start := rfl
  congr same := by
    rw [draftOf, draftOf, same "code" (by decide), same "message" (by decide),
      same "data" (by decide)]
  seen known parts := by
    obtain rfl | rfl | rfl := field_cases known <;> exact Option.isSome_map
  field known depth parts := by
    obtain rfl | rfl | rfl := field_cases known
    · refine (Json.decodes_readInt64 depth).fill
        (fun code => { draftOf parts with code := some code }) fun part => ?_
      cases read : Json.int64? part <;> simp [draftOf, Json.withPart, read]
    · refine (Json.decodes_readText depth).fill
        (fun message => { draftOf parts with message := some message }) fun part => ?_
      cases read : Json.text? part <;> simp [draftOf, Json.withPart, read]
    · refine (Json.decodes_given depth).fill
        (fun data => { draftOf parts with data := some data }) fun part => ?_
      simp [draftOf, Json.withPart]
  distinct := by decide

theorem accepts_iff {members : List (String × Json)} :
    assembly.Accepts members ↔
      (∀ name ∈ ["code", "message", "data"], (members.map Prod.fst).count name ≤ 1) ∧
        ((Json.member? "code" members).all fun part => (Json.int64? part).isSome) = true ∧
          ((Json.member? "message" members).all fun part => (Json.text? part).isSome) = true := by
  constructor
  · intro accepted
    exact ⟨fun name known => (accepted name known).1, (accepted "code" (by decide)).2,
      (accepted "message" (by decide)).2⟩
  · rintro ⟨once, coded, told⟩ name known
    refine ⟨once name known, ?_⟩
    obtain rfl | rfl | rfl := field_cases known
    · exact coded
    · exact told
    · cases Json.member? "data" members <;> rfl

theorem finish_iff {draft : Draft} {error : ResponseError} :
    record.finish draft = .ok error ↔
      draft.code = some error.code ∧ draft.message = some error.message ∧
        draft.data.join = error.data := by
  obtain ⟨code, message, data⟩ := draft
  obtain ⟨errorCode, errorMessage, errorData⟩ := error
  cases code <;> cases message <;> simp [record]

theorem decode_obj_iff {members : List (String × Json)} {error : ResponseError} :
    assembly.decode (.obj members) = some error ↔ Spelled (.obj members) error := by
  rw [Json.Assembly.decode, Json.Assembly.result?_eq_some_iff, accepts_iff, finish_iff]
  constructor
  · rintro ⟨⟨once, codeFits, messageFits⟩, code, message, data⟩
    obtain ⟨part, coded, number⟩ := Json.required_iff.mp ⟨codeFits, code⟩
    obtain ⟨rfl, bounded⟩ := Json.int64?_eq_some_iff.mp number
    obtain ⟨part, told, text⟩ := Json.required_iff.mp ⟨messageFits, message⟩
    obtain rfl := Json.text?_eq_some_iff.mp text
    exact .object once coded bounded told (Json.tellsValue_iff.mpr data)
  · rintro ⟨once, coded, bounded, told, added⟩
    obtain ⟨codeFits, code⟩ :=
      Json.required_iff.mpr ⟨_, coded, Json.int64?_eq_some_iff.mpr ⟨rfl, bounded⟩⟩
    obtain ⟨messageFits, message⟩ :=
      Json.required_iff.mpr ⟨_, told, Json.text?_eq_some_iff.mpr rfl⟩
    exact ⟨⟨once, codeFits, messageFits⟩, code, message, Json.tellsValue_iff.mp added⟩

/-- The array form has at least the fields that must be there. -/
theorem optional_of_spelled {items : List Json} {error : ResponseError}
    (spelled : Spelled (.obj (["code", "message", "data"].zip items)) error) :
    ∀ name ∈ record.fields.drop items.length, record.optional name = true := by
  obtain ⟨-, coded, -, told, -⟩ := spelled
  intro name missing
  match items with
  | [] => cases coded
  | [_] => cases told
  | [_, _] =>
    obtain rfl := List.mem_singleton.mp missing
    rfl
  | _ :: _ :: _ :: rest =>
    rw [List.drop_of_length_le (Nat.le_add_left 3 rest.length)] at missing
    cases missing

/-- An error is decoded from the trees that spell it. -/
theorem decode_iff {found : Json} {error : ResponseError} :
    assembly.decode found = some error ↔ Spelled found error := by
  cases found with
  | obj members => exact decode_obj_iff
  | arr items =>
    have named : assembly.result? (record.fields.zip items) = some error ↔
        Spelled (.obj (["code", "message", "data"].zip items)) error := decode_obj_iff
    constructor
    · intro decoded
      rw [Json.Assembly.decode] at decoded
      split_ifs at decoded with placed
      exact .array placed.1 (named.mp decoded)
    · rintro (_ | ⟨bounded, spelled⟩)
      rw [Json.Assembly.decode, if_pos ⟨bounded, optional_of_spelled spelled⟩]
      exact named.mpr spelled
  | _ =>
    constructor
    · rintro ⟨⟩
    · rintro ⟨⟩

end Rpc.ResponseError

namespace Rpc

/-! ### Identifiers -/

/-- The tree spells the identifier: a whole number of 32 bits or a text. A zero with a sign is not a
whole number, it is read as a fraction. -/
inductive Id.Spelled : Json → Id → Prop
  | number {value : Int} (bounded : -2147483648 ≤ value ∧ value ≤ 2147483647) :
      Spelled (.int value) (.number value)
  | text (text : String) : Spelled (.str text) (.text text)

namespace Message

theorem idOfJson?_eq_some_iff {part : Json} {id : Id} :
    idOfJson? part = some id ↔ Id.Spelled part id := by
  constructor
  · intro decoded
    unfold idOfJson? at decoded
    split at decoded
    · split_ifs at decoded with bounded
      cases decoded
      exact .number bounded
    · cases decoded
      exact .text _
    · cases decoded
  · rintro (bounded | text)
    · exact if_pos bounded
    · rfl

theorem idOfJson?_sorted (part : Json) : idOfJson? part.sorted = idOfJson? part := by
  cases part <;> rfl

theorem decodes_readId (depth : Nat) : Json.Decodes depth (readId depth) idOfJson? := by
  intro input rest found read result behind
  have whole := (Json.decodes_value depth read found.sorted rest).mpr ⟨rfl, rfl⟩
  rw [readId, whole]
  simp only [bind, Except.bind, idOfJson?_sorted]
  cases idOfJson? found with
  | none => exact ⟨nofun, nofun⟩
  | some id => simp [eq_comm]

/-! ### Messages -/

theorem field_cases {name : String} (known : name ∈ record.fields) :
    name = "id" ∨ name = "method" ∨ name = "params" ∨ name = "result" ∨ name = "error" := by
  simpa only [record, List.mem_cons, List.not_mem_nil, or_false] using known

/-- The fields that have been seen once the parts have been read. -/
def draftOf (parts : String → Option Json) : Draft where
  id := (parts "id").map fun part => (Json.optional? idOfJson? part).join
  method := (parts "method").map fun part => (Json.optional? Json.text? part).join
  params := (parts "params").map Json.given?
  result := (parts "result").map Json.given?
  error := (parts "error").map fun part =>
    (Json.optional? ResponseError.assembly.decode part).join

/-- How a message is assembled from its parts. -/
def assembly : Json.Assembly record where
  fits name part :=
    if name = "id" then (Json.optional? idOfJson? part).isSome
    else if name = "method" then (Json.optional? Json.text? part).isSome
    else if name = "error" then (Json.optional? ResponseError.assembly.decode part).isSome
    else true
  state := draftOf
  start := rfl
  congr same := by
    rw [draftOf, draftOf, same "id" (by decide), same "method" (by decide),
      same "params" (by decide), same "result" (by decide), same "error" (by decide)]
  seen known parts := by
    obtain rfl | rfl | rfl | rfl | rfl := field_cases known <;> exact Option.isSome_map
  field known depth parts := by
    obtain rfl | rfl | rfl | rfl | rfl := field_cases known
    · refine (decodes_readId depth).optional.fill
        (fun id => { draftOf parts with id := some id }) fun part => ?_
      cases read : Json.optional? idOfJson? part <;> simp [draftOf, Json.withPart, read]
    · refine (Json.decodes_readText depth).optional.fill
        (fun method => { draftOf parts with method := some method }) fun part => ?_
      cases read : Json.optional? Json.text? part <;> simp [draftOf, Json.withPart, read]
    · refine (Json.decodes_given depth).fill
        (fun params => { draftOf parts with params := some params }) fun part => ?_
      simp [draftOf, Json.withPart]
    · refine (Json.decodes_given depth).fill
        (fun result => { draftOf parts with result := some result }) fun part => ?_
      simp [draftOf, Json.withPart]
    · refine (ResponseError.assembly.decodes depth).optional.fill
        (fun error => { draftOf parts with error := some error }) fun part => ?_
      cases read : Json.optional? ResponseError.assembly.decode part <;>
        simp [draftOf, Json.withPart, read]
  distinct := by decide

/-- The parts of a payload that matter for a message. -/
structure Parts where
  id : Option Json
  method : Option Json
  params : Option Json
  result : Option Json
  error : Option Json

/-- The parts of an object. -/
def Parts.ofMembers (members : List (String × Json)) : Parts where
  id := Json.member? "id" members
  method := Json.member? "method" members
  params := Json.member? "params" members
  result := Json.member? "result" members
  error := Json.member? "error" members

/-- The parts of an array, which has them in the order of the fields. -/
def Parts.ofItems (items : List Json) : Parts :=
  .ofMembers (["id", "method", "params", "result", "error"].zip items)

/-- What the parts tell, each of the field it is for. -/
structure Parts.Tell (parts : Parts) (id : Option Id) (method : Option String)
    (params result : Option Json) (error : Option ResponseError) : Prop where
  id : Json.Tells Id.Spelled parts.id id
  method : Json.Tells Json.IsText parts.method method
  params : Json.TellsValue parts.params params
  result : Json.TellsValue parts.result result
  error : Json.Tells ResponseError.Spelled parts.error error

/-- The identifier, the method or the error is neither missing nor null nor of its type. -/
def Parts.IllTyped (parts : Parts) : Prop :=
  (¬∃ id, Json.Tells Id.Spelled parts.id id) ∨
    (¬∃ method, Json.Tells Json.IsText parts.method method) ∨
      ¬∃ error, Json.Tells ResponseError.Spelled parts.error error

/-- The outcome of reading a message is the one for the parts: it is refused if and only if one of
them is of the wrong type, and otherwise what it is depends on which of them are given. -/
structure ClassifiedAs (parts : Parts) (outcome : Except ResponseError Message) : Prop where
  refused_iff : (∃ reason, outcome = .error (.of .parseError reason)) ↔ parts.IllTyped
  request : ∀ {id method params result error},
    parts.Tell (some id) (some method) params result error →
      outcome = .ok (.request id method (params.getD .null))
  notification : ∀ {method params result error},
    parts.Tell none (some method) params result error →
      outcome = .ok (.notification method (params.getD .null))
  response : ∀ {id params result error}, parts.Tell id none params result error →
    id.isSome ∨ result.isSome ∨ error.isSome → outcome = .ok (.response id result error)
  invalid : ∀ {params}, parts.Tell none none params none none →
    outcome = .error (.of .invalidRequest "message has neither a method nor an id")

theorem accepts_iff {members : List (String × Json)} (distinct : (members.map Prod.fst).Nodup) :
    assembly.Accepts members ↔
      (∃ id, Json.Tells Id.Spelled (Parts.ofMembers members).id id) ∧
        (∃ method, Json.Tells Json.IsText (Parts.ofMembers members).method method) ∧
          ∃ error, Json.Tells ResponseError.Spelled (Parts.ofMembers members).error error := by
  rw [Json.exists_tells_iff idOfJson?_eq_some_iff, Json.exists_tells_iff Json.text?_eq_some_iff,
    Json.exists_tells_iff ResponseError.decode_iff]
  constructor
  · intro accepted
    exact ⟨(accepted "id" (by decide)).2, (accepted "method" (by decide)).2,
      (accepted "error" (by decide)).2⟩
  · rintro ⟨id, method, error⟩ name known
    refine ⟨List.nodup_iff_count_le_one.mp distinct name, ?_⟩
    obtain rfl | rfl | rfl | rfl | rfl := field_cases known
    · exact id
    · exact method
    · cases Json.member? "params" members <;> rfl
    · cases Json.member? "result" members <;> rfl
    · exact error

theorem Parts.Tell.joins {members : List (String × Json)} {id : Option Id} {method : Option String}
    {params result : Option Json} {error : Option ResponseError}
    (told : (Parts.ofMembers members).Tell id method params result error) :
    (assembly.stateOf members).id.join = id ∧ (assembly.stateOf members).method.join = method ∧
      (assembly.stateOf members).params.join = params ∧
        (assembly.stateOf members).result.join = result ∧
          (assembly.stateOf members).error.join = error :=
  ⟨((Json.tells_iff idOfJson?_eq_some_iff).mp told.id).2,
    ((Json.tells_iff Json.text?_eq_some_iff).mp told.method).2,
    Json.tellsValue_iff.mp told.params, Json.tellsValue_iff.mp told.result,
    ((Json.tells_iff ResponseError.decode_iff).mp told.error).2⟩

theorem classify_ne_parseError (draft : Draft) (reason : String) :
    classify draft ≠ .error (.of .parseError reason) := by
  rw [classify]
  split
  · exact nofun
  · exact nofun
  · split_ifs
    · exact nofun
    · exact nofun

theorem result?_of_accepts {members : List (String × Json)} (accepted : assembly.Accepts members) :
    assembly.result? members = some (assembly.stateOf members) :=
  if_pos accepted

/-- A reading that classifies what the members are decoded to classifies them by their parts. -/
theorem classifiedAs_of_decoded {members : List (String × Json)}
    (distinct : (members.map Prod.fst).Nodup) {outcome : Except ResponseError Message}
    (decoded : ∀ draft, assembly.result? members = some draft → outcome = classify draft)
    (refused : assembly.result? members = none →
      ∃ reason, outcome = .error (.of .parseError reason)) :
    ClassifiedAs (Parts.ofMembers members) outcome := by
  have readable {id method params result error}
      (told : (Parts.ofMembers members).Tell id method params result error) :
      outcome = classify (assembly.stateOf members) :=
    decoded _ (result?_of_accepts ((accepts_iff distinct).mpr
      ⟨⟨id, told.id⟩, ⟨method, told.method⟩, ⟨error, told.error⟩⟩))
  refine ⟨?_, fun told => ?_, fun told => ?_, fun told given => ?_, fun told => ?_⟩
  · rw [Parts.IllTyped, ← not_and_or, ← not_and_or, ← accepts_iff distinct]
    constructor
    · rintro ⟨reason, isRefused⟩ accepted
      exact classify_ne_parseError _ reason
        ((decoded _ (result?_of_accepts accepted)).symm.trans isRefused)
    · exact fun unacceptable => refused (if_neg unacceptable)
  · obtain ⟨id, method, params, -, -⟩ := told.joins
    rw [readable told, classify, id, method, params]
  · obtain ⟨id, method, params, -, -⟩ := told.joins
    rw [readable told, classify, id, method, params]
  · rename_i id _ result error
    have answers : ¬(id.isNone && result.isNone && error.isNone) = true := by
      simpa only [Bool.and_eq_true, Option.isNone_iff_eq_none, not_and_or,
        ← Option.isSome_iff_ne_none, or_assoc] using given
    obtain ⟨idIs, methodIs, -, resultIs, errorIs⟩ := told.joins
    rw [readable told, classify, idIs, methodIs, resultIs, errorIs]
    cases id <;> exact if_neg answers
  · obtain ⟨id, method, -, result, error⟩ := told.joins
    rw [readable told, classify, id, method, result, error]
    rfl

theorem ClassifiedAs.exists_ok {parts : Parts} {outcome : Except ResponseError Message}
    (classified : ClassifiedAs parts outcome) {id : Option Id} {method : Option String}
    {params result : Option Json} {error : Option ResponseError}
    (told : parts.Tell id method params result error)
    (given : method.isSome ∨ id.isSome ∨ result.isSome ∨ error.isSome) :
    ∃ message, outcome = .ok message := by
  cases method with
  | some method =>
    cases id with
    | some id => exact ⟨_, classified.request told⟩
    | none => exact ⟨_, classified.notification told⟩
  | none => exact ⟨_, classified.response told (given.resolve_left Bool.false_ne_true)⟩

/-- A message is refused if a part is of the wrong type, or if no part says what it is. -/
theorem ClassifiedAs.error_iff {parts : Parts} {outcome : Except ResponseError Message}
    (classified : ClassifiedAs parts outcome) :
    (∃ error, outcome = .error error) ↔
      parts.IllTyped ∨ ∃ params, parts.Tell none none params none none := by
  constructor
  · rintro ⟨refusal, refused⟩
    by_cases typed : parts.IllTyped
    · exact .inl typed
    · simp only [Parts.IllTyped, not_or, not_not] at typed
      obtain ⟨⟨id, idTold⟩, ⟨method, methodTold⟩, ⟨error, errorTold⟩⟩ := typed
      obtain ⟨params, paramsTold⟩ := Json.exists_tellsValue parts.params
      obtain ⟨result, resultTold⟩ := Json.exists_tellsValue parts.result
      have told : parts.Tell id method params result error :=
        ⟨idTold, methodTold, paramsTold, resultTold, errorTold⟩
      by_cases given : method.isSome ∨ id.isSome ∨ result.isSome ∨ error.isSome
      · obtain ⟨message, read⟩ := classified.exists_ok told given
        cases refused.symm.trans read
      · simp only [not_or, Option.not_isSome_iff_eq_none] at given
        obtain ⟨rfl, rfl, rfl, rfl⟩ := given
        exact .inr ⟨params, told⟩
  · rintro (illTyped | ⟨params, told⟩)
    · obtain ⟨reason, refused⟩ := classified.refused_iff.mpr illTyped
      exact ⟨_, refused⟩
    · exact ⟨_, classified.invalid told⟩

/-- Reading a payload that has a tree classifies what the tree is decoded to. -/
theorem parse_of_tree {payload : Bytes} {found : Json}
    (spelled : Json.readTree payload = .ok found) :
    (∀ draft, assembly.decode found = some draft → parse payload = classify draft) ∧
      (assembly.decode found = none →
        ∃ reason, parse payload = .error (.of .parseError reason)) := by
  obtain ⟨rest, read, blank⟩ := Json.endOfText_eq_ok_iff.mp spelled
  have exact := assembly.decodes Json.depthLimit read
  constructor
  · intro draft decoded
    have whole := Json.endOfText_eq_ok_iff.mpr ⟨rest, (exact draft rest).mpr ⟨decoded, rfl⟩, blank⟩
    rw [parse, whole]
  · intro undecoded
    rw [parse]
    cases whole : Json.endOfText (record.read Json.depthLimit payload) with
    | error fault => exact ⟨_, rfl⟩
    | ok draft =>
      obtain ⟨behind, got, -⟩ := Json.endOfText_eq_ok_iff.mp whole
      cases undecoded.symm.trans ((exact draft behind).mp got).1

/-- The names of the members of an object that was read. -/
def names? : Json.Reading Json → Option (List String)
  | .ok (.obj members) => some (members.map Prod.fst)
  | _ => none

theorem exists_members_of_names? {reading : Json.Reading Json} {names : List String}
    (named : names? reading = some names) :
    ∃ members, reading = .ok (.obj members) ∧ members.map Prod.fst = names := by
  unfold names? at named
  split at named
  · rename_i members
    exact ⟨members, rfl, Option.some.inj named⟩
  · cases named

/-- Every object whose members have distinct names is classified by its parts, wherever they stand
and whatever other members it has. -/
theorem parse_object {payload : Bytes} {members : List (String × Json)}
    (spelled : Json.readTree payload = .ok (.obj members))
    (distinct : (members.map Prod.fst).Nodup) :
    Json.read payload = .ok (Json.obj members).sorted ∧
      ClassifiedAs (Parts.ofMembers members) (parse payload) := by
  obtain ⟨decoded, refused⟩ := parse_of_tree spelled
  exact ⟨Json.read_eq_ok_iff.mpr ⟨_, spelled, rfl⟩,
    classifiedAs_of_decoded distinct decoded refused⟩

/-- An identifier that is a zero with a sign is not of its type. -/
example : (parse (Text.encode "\x7b\"id\":-0,\"method\":\"shutdown\"\x7d")).isOk = false := by
  decide +kernel

/-- The members of a request in an order of their own, with one that is unknown among them. -/
theorem parse_object_shutdown :
    let payload := Text.encode
      "\x7b \"trace\": [\x7b\x7d, 1e3], \"method\": \"shutdown\", \"params\": null, \"id\": -7\x7d"
    ∃ members, Json.readTree payload = .ok (.obj members) ∧
      members.map Prod.fst = ["trace", "method", "params", "id"] ∧
        Json.read payload = .ok (Json.obj members).sorted ∧
          ClassifiedAs (Parts.ofMembers members) (parse payload) := by
  intro payload
  obtain ⟨members, spelled, named⟩ := exists_members_of_names?
    (show names? (Json.readTree payload) = some ["trace", "method", "params", "id"] by
      decide +kernel)
  exact ⟨members, spelled, named, parse_object spelled (named ▸ by decide)⟩

/-! ### Payloads that are no objects -/

theorem decode_arr_of_length_le {items : List Json} (bounded : items.length ≤ 5) :
    assembly.decode (.arr items) =
      assembly.result? (["id", "method", "params", "result", "error"].zip items) :=
  if_pos ⟨bounded, fun _ _ => rfl⟩

theorem decode_arr_of_lt_length {items : List Json} (long : 5 < items.length) :
    assembly.decode (.arr items) = none :=
  if_neg fun placed => absurd placed.1 (Nat.not_le_of_lt long)

theorem map_fst_zip_sublist (names : List String) (items : List Json) :
    ((names.zip items).map Prod.fst).Sublist names := by
  induction names generalizing items with
  | nil => exact List.Sublist.refl []
  | cons name names inductionHypothesis =>
    cases items with
    | nil => exact List.nil_sublist _
    | cons item items => exact (inductionHypothesis items).cons_cons name

theorem parse_array {payload : Bytes} {items : List Json}
    (spelled : Json.readTree payload = .ok (.arr items)) (bounded : items.length ≤ 5) :
    ClassifiedAs (.ofItems items) (parse payload) := by
  obtain ⟨decoded, refused⟩ := parse_of_tree spelled
  rw [decode_arr_of_length_le bounded] at decoded refused
  have distinct : ["id", "method", "params", "result", "error"].Nodup := by decide
  exact classifiedAs_of_decoded (distinct.sublist (map_fst_zip_sublist _ items)) decoded refused

end Message

end Rpc

namespace Server

open Rpc Rpc.Message

/-- The payload is no message and leaves every server as it is: a run in whose stream it comes next
goes on and ends as the run without it. -/
def Discards (payload : Bytes) : Prop :=
  (∃ error, Message.parse payload = .error error) ∧
    ∀ surroundings (server : Server),
      (server.receive surroundings payload).value = (none, server) ∧
        ∀ whole thinned rest ending, Frame.payloads whole = (payload :: rest, ending) →
          Frame.payloads thinned = (rest, ending) →
            (server.run surroundings whole).value = (server.run surroundings thinned).value

theorem discards_iff {payload : Bytes} :
    Discards payload ↔ ∃ error, Message.parse payload = .error error := by
  refine ⟨And.left, fun refused => ⟨refused, fun surroundings server => ?_⟩⟩
  obtain ⟨error, parsed⟩ := refused
  have passes : server.Passes (server.receive surroundings payload) :=
    Inert.passes (.unreadable parsed)
  refine ⟨passes.value, fun whole thinned rest ending wholePayloads thinnedPayloads => ?_⟩
  rw [run, run, wholePayloads, thinnedPayloads, Traced.value_bind, Traced.value_bind,
    (receiveAll_of_passes passes rest).1]

/-- What is no object is no message and leaves every server as it is, unless it is an array of at
most five items. Such an array is classified as the object that has its items as an identifier, a
method, parameters, a result and an error, as far as they go, and is no message only if one of these
is of the wrong type or none of them says what it is. -/
theorem discards_of_no_object {payload : Bytes} {value : Json}
    (read : Json.read payload = .ok value) (noObject : ∀ members, value ≠ .obj members) :
    ((∀ items, value = .arr items → 5 < items.length) →
        Discards payload ∧ ∃ reason, Message.parse payload = .error (.of .parseError reason)) ∧
      ∀ items, value = .arr items → items.length ≤ 5 →
        ∃ spelled, Json.readTree payload = .ok (.arr spelled) ∧ spelled.map Json.sorted = items ∧
          ClassifiedAs (.ofItems spelled) (Message.parse payload) ∧
            (Discards payload ↔ (Parts.ofItems spelled).IllTyped ∨
              ∃ params, (Parts.ofItems spelled).Tell none none params none none) := by
  obtain ⟨found, spelled, rfl⟩ := Json.read_eq_ok_iff.mp read
  have refused (undecoded : assembly.decode found = none) :
      Discards payload ∧ ∃ reason, Message.parse payload = .error (.of .parseError reason) := by
    obtain ⟨reason, parsed⟩ := (parse_of_tree spelled).2 undecoded
    exact ⟨discards_iff.mpr ⟨_, parsed⟩, reason, parsed⟩
  cases found with
  | obj members => exact absurd rfl (noObject _)
  | arr items =>
    rw [Json.sorted, Json.sortedItems_eq_map]
    constructor
    · intro long
      have tooMany := long _ rfl
      rw [List.length_map] at tooMany
      exact refused (decode_arr_of_lt_length tooMany)
    · rintro _ ⟨⟩ bounded
      rw [List.length_map] at bounded
      have classified := parse_array spelled bounded
      exact ⟨items, spelled, rfl, classified, discards_iff.trans classified.error_iff⟩
  | _ =>
    refine ⟨fun _ => refused rfl, ?_⟩
    rintro items ⟨⟩

/-- A text is no message, even if it is the name of a method. -/
theorem discards_of_text :
    let value := Json.str "shutdown"
    Json.read value.bytes = .ok value ∧ (∀ members, value ≠ .obj members) ∧
      Discards value.bytes ∧
        ∃ reason, Message.parse value.bytes = .error (.of .parseError reason) := by
  intro value
  have exact : value.Exact := .str _
  have read := exact.read_bytes (by decide)
  exact ⟨read, nofun, (discards_of_no_object read nofun).1 nofun⟩

/-- Arrays that are obeyed: one asks for a shutdown, and the other ends the loop. -/
theorem not_discards_of_array :
    let shutdown := Json.arr [.int 1, .str "shutdown"]
    let exit := Json.arr [.null, .str "exit"]
    Json.read shutdown.bytes = .ok shutdown ∧ Json.read exit.bytes = .ok exit ∧
      ¬Discards shutdown.bytes ∧ ¬Discards exit.bytes ∧
        ∀ surroundings (server : Server),
          (server.receive surroundings shutdown.bytes).value =
              (none, { server with shutdownRequested := true }) ∧
            (server.receive surroundings exit.bytes).value = (some server.exitReason, server) := by
  intro shutdown exit
  have asks : Message.parse shutdown.bytes = .ok (.request (.number 1) "shutdown" .null) :=
    eq_request_of_isBare (by decide +kernel)
  have leaves : Message.parse exit.bytes = .ok (.notification "exit" .null) :=
    eq_notification_of_isBare (by decide +kernel)
  have exactShutdown : shutdown.Exact :=
    .arr (List.forall_mem_cons.mpr ⟨.int (by decide), List.forall_mem_singleton.mpr (.str _)⟩)
  have exactExit : exit.Exact :=
    .arr (List.forall_mem_cons.mpr ⟨.null, List.forall_mem_singleton.mpr (.str _)⟩)
  refine ⟨exactShutdown.read_bytes (by decide), exactExit.read_bytes (by decide), ?_, ?_, ?_⟩
  · rw [discards_iff, asks]
    exact nofun
  · rw [discards_iff, leaves]
    exact nofun
  · intro surroundings server
    rw [receive, asks, receive, leaves]
    exact ⟨rfl, rfl⟩

end Server

end RippleServer
