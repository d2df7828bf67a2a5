/-
This file proves that a message is read back from the bytes it is sent as. The
writer lists the members of a message in a fixed order and the reader fills a
draft field by field; member by member, the draft reached is the one that holds
what was written. The one thing lost on the way is the difference between a null
and a field that is missing, so a response that has neither an identifier nor a
result is no message any more.
-/

import RippleServer.Proofs.JsonRoundTrip
import RippleServer.Rpc.Reply

namespace RippleServer

namespace Json

/-! ### Fields -/

theorem readText_bytes (text : String) (rest : Bytes) :
    readText ((str text).bytes ++ rest) = .ok (text, rest) := by
  obtain ⟨body, opens, read⟩ := string_bytes text rest
  rw [opens, readText, skipSpace_cons rfl]
  exact read

theorem readInt64_bytes {whole : Int} (low : -(Text.signedBound + 1 : Int) ≤ whole)
    (high : whole ≤ Text.signedBound) {rest : Bytes} (ends : EndsNumber rest) :
    readInt64 ((int whole).bytes ++ rest) = .ok (whole, rest) := by
  have fits : FitsWord whole := ⟨low, Int.le_trans high (by decide)⟩
  have read := value_int fits ends 0
  obtain ⟨byte, more, bytes, opens⟩ := bytes_int_eq_cons whole
  have notBlank : isSpace byte = false := by
    rcases opens with rfl | digital
    · rfl
    · exact isSpace_of_isDigit digital
  have numeric : (byte = ascii '-' || isDigit byte) = true := by simpa using opens
  rw [bytes, List.cons_append] at read ⊢
  rw [readInt64, skipSpace_cons notBlank]
  simp only [numeric, if_true, bind, Except.bind, read, int, if_pos high]

theorem readOptional_null {α : Type} (reader : Bytes → Reading (α × Bytes)) (rest : Bytes) :
    readOptional reader (null.bytes ++ rest) = .ok (none, rest) :=
  rfl

theorem readOptional_cons {α : Type} {reader : Bytes → Reading (α × Bytes)} {byte : UInt8}
    {more rest : Bytes} {result : α} (notBlank : isSpace byte = false)
    (notNull : byte ≠ ascii 'n') (read : reader (byte :: more) = .ok (result, rest)) :
    readOptional reader (byte :: more) = .ok (some result, rest) := by
  rw [readOptional, skipSpace_cons notBlank]
  simp only [if_neg notNull, read]
  rfl

theorem Exact.readOptional_bytes {value : Json} (exact : Exact value) (notNull : value ≠ .null)
    {α : Type} {reader : Bytes → Reading (α × Bytes)} {result : α} {rest : Bytes}
    (read : reader (value.bytes ++ rest) = .ok (result, rest)) :
    readOptional reader (value.bytes ++ rest) = .ok (some result, rest) := by
  obtain ⟨byte, more, bytes, notBlank, -, notNullByte⟩ := exact.bytes_eq_cons
  rw [bytes] at read ⊢
  exact readOptional_cons notBlank (notNullByte notNull) read

/-- The value, unless it is null. -/
def present? : Json → Option Json
  | .null => none
  | value => some value

theorem present?_of_ne {value : Json} (notNull : value ≠ .null) : value.present? = some value := by
  cases value with
  | null => exact absurd rfl notNull
  | _ => rfl

theorem present?_getD (value : Json) : value.present?.getD .null = value := by
  cases value <;> rfl

theorem Exact.readOptional_value {value : Json} (exact : Exact value) {depth : Nat}
    (shallow : value.nesting ≤ depth) {rest : Bytes} (ends : EndsNumber rest) :
    readOptional (Json.value depth) (value.bytes ++ rest) = .ok (value.present?, rest) := by
  by_cases missing : value = .null
  · rw [missing]
    exact readOptional_null _ rest
  · rw [present?_of_ne missing]
    exact exact.readOptional_bytes missing (exact.readsBack shallow rest ends)

/-! ### Records -/

theorem skipString_verbatim {bytes : Bytes} (verbatim : ∀ byte ∈ bytes, IsVerbatim byte)
    (rest : Bytes) : skipString (bytes ++ ascii '"' :: rest) = .ok rest := by
  induction bytes with
  | nil =>
    rw [List.nil_append, skipString.eq_def]
    simp only [if_true]
  | cons byte more inductionHypothesis =>
    obtain ⟨⟨notQuote, notBackslash, notControl⟩, moreVerbatim⟩ := List.forall_mem_cons.mp verbatim
    rw [List.cons_append, skipString.eq_def]
    simp only [if_neg notQuote, if_neg notBackslash, if_neg notControl]
    exact inductionHypothesis moreVerbatim

section Record

variable {State Result : Type} {record : RecordReader State Result} {depth : Nat}
  {state next final : State} {key : String} {value : Json} {members : List (String × Json)}

/-- A member that is a field of the record fills it. -/
theorem Takes.field (known : record.fields.contains key = true)
    (unseen : record.seen state key = false)
    (read : ∀ rest, EndsNumber rest →
      record.field depth state key (value.bytes ++ rest) = .ok (next, rest))
    (takes : Takes (record.member depth) next members final) :
    Takes (record.member depth) state ((key, value) :: members) final := by
  refine .cons (fun rest ends => ?_) takes
  rw [RecordReader.member, if_pos known, unseen, if_neg Bool.false_ne_true, colon_bytes]
  exact read rest ends

/-- A member that is no field of the record changes nothing. -/
theorem Takes.skip (unknown : record.fields.contains key = false)
    (skipped : ∀ rest, skipValue (value.bytes ++ rest) = .ok rest)
    (takes : Takes (record.member depth) state members final) :
    Takes (record.member depth) state ((key, value) :: members) final := by
  refine .cons (fun rest _ => ?_) takes
  rw [RecordReader.member, unknown, if_neg Bool.false_ne_true, colon_bytes]
  simp only [bind, Except.bind, skipped rest]

/-- A record is read from the object of its fields if the members lead to a complete state. -/
theorem Takes.read_obj {result : Result}
    (takes : Takes (record.member depth) record.start members final)
    (complete : record.finish final = .ok result) (rest : Bytes) :
    record.read (depth + 1) ((obj members).bytes ++ rest) = .ok (result, rest) := by
  obtain ⟨body, opens, read⟩ := takes.foldMembers_obj rest
  rw [opens, RecordReader.read, skipSpace_cons rfl]
  simp only [read, RecordReader.conclude, complete]
  rfl

end Record

theorem nesting_le_of_mem {members : List (String × Json)} {depth : Nat}
    (shallow : (obj members).nesting ≤ depth + 1) {key : String} {value : Json}
    (inMembers : (key, value) ∈ members) : value.nesting ≤ depth :=
  Nat.le_trans (nesting_le_membersNesting inMembers) (Nat.le_of_succ_le_succ shallow)

end Json

namespace Rpc

open Json (Takes EndsNumber ascii)

/-! ### Identifiers -/

/-- An identifier that a message can carry: a whole number of 32 bits, or any text. -/
def Id.Fits : Id → Prop
  | .number value => -2147483648 ≤ value ∧ value ≤ 2147483647
  | .text _ => True

theorem Id.exact_toJson {id : Id} (fits : id.Fits) : id.toJson.Exact := by
  cases id with
  | number value =>
    obtain ⟨low, high⟩ := fits
    exact .int ⟨Int.le_trans (by decide) low, Int.le_trans high (by decide)⟩
  | text value => exact .str value

theorem Id.toJson_ne_null (id : Id) : id.toJson ≠ .null := by
  cases id <;> nofun

theorem Id.idOfJson?_toJson {id : Id} (fits : id.Fits) :
    Message.idOfJson? id.toJson = some id := by
  cases id with
  | number value => exact if_pos fits
  | text value => rfl

theorem readId_bytes {id : Id} (fits : id.Fits) (depth : Nat) {rest : Bytes}
    (ends : EndsNumber rest) :
    Message.readId depth (id.toJson.bytes ++ rest) = .ok (id, rest) := by
  have flat : id.toJson.nesting ≤ depth := by
    cases id <;> exact Nat.zero_le depth
  rw [Message.readId, (Id.exact_toJson fits).readsBack flat rest ends]
  simp only [bind, Except.bind, Id.idOfJson?_toJson fits]

/-- An identifier is read back, and an absent one as absent. -/
theorem readOptional_readId {id : Option Id} (fits : ∀ known ∈ id, known.Fits) (depth : Nat)
    {rest : Bytes} (ends : EndsNumber rest) :
    Json.readOptional (Message.readId depth) ((Id.optionToJson id).bytes ++ rest) =
      .ok (id, rest) := by
  cases id with
  | none => exact Json.readOptional_null _ rest
  | some known =>
    have fits : known.Fits := fits known rfl
    exact (Id.exact_toJson fits).readOptional_bytes known.toJson_ne_null
      (readId_bytes fits depth ends)

/-! ### Errors -/

/-- An error that a message can carry: the code has 64 bits, and the data, if there is some, is an
exact value other than null. -/
structure ResponseError.Fits (error : ResponseError) : Prop where
  low : -(Text.signedBound + 1 : Int) ≤ error.code
  high : error.code ≤ Text.signedBound
  data : ∀ data ∈ error.data, data ≠ .null ∧ data.Exact

namespace ResponseError

theorem field_code (draft : Draft) {code : Int} (low : -(Text.signedBound + 1 : Int) ≤ code)
    (high : code ≤ Text.signedBound) (depth : Nat) {rest : Bytes} (ends : EndsNumber rest) :
    record.field depth draft "code" ((Json.int code).bytes ++ rest) =
      .ok ({ draft with code := some code }, rest) := by
  simp only [record, if_true, Json.readInt64_bytes low high ends]
  rfl

theorem field_message (draft : Draft) (message : String) (depth : Nat) (rest : Bytes) :
    record.field depth draft "message" ((Json.str message).bytes ++ rest) =
      .ok ({ draft with message := some message }, rest) := by
  simp only [record, Json.readText_bytes]
  rfl

theorem field_data (draft : Draft) {data : Json} (exact : data.Exact) {depth : Nat}
    (shallow : data.nesting ≤ depth) {rest : Bytes} (ends : EndsNumber rest) :
    record.field depth draft "data" (data.bytes ++ rest) =
      .ok ({ draft with data := some data.present? }, rest) := by
  simp only [record, exact.readOptional_value shallow ends]
  rfl

theorem takes_toJson {error : ResponseError} (fits : error.Fits) {depth : Nat}
    (shallow : ∀ data ∈ error.data, data.nesting ≤ depth) :
    Takes (record.member depth) record.start
      ([("code", .int error.code), ("message", .str error.message)] ++
        (error.data.map fun data => ("data", data)).toList)
      { code := some error.code, message := some error.message,
        data := error.data.map Json.present? } := by
  obtain ⟨code, message, data⟩ := error
  obtain ⟨low, high, exactData⟩ := fits
  refine .field rfl rfl (fun rest ends => field_code _ low high depth ends) ?_
  refine .field rfl rfl (fun rest _ => field_message _ message depth rest) ?_
  cases data with
  | none => exact .nil _
  | some data =>
    refine .field rfl rfl (fun rest ends => ?_) (.nil _)
    exact field_data _ (exactData data rfl).2 (shallow data rfl) ends

/-- An error is read back, with its code, its message and its data. -/
theorem read_toJson {error : ResponseError} (fits : error.Fits) {depth : Nat}
    (shallow : error.toJson.nesting ≤ depth) (rest : Bytes) :
    record.read depth (error.toJson.bytes ++ rest) = .ok (error, rest) := by
  have positive : 1 ≤ depth := Nat.le_trans (Nat.le_add_left 1 _) shallow
  obtain ⟨left, rfl⟩ := Nat.exists_eq_add_of_le' positive
  have shallowData (data : Json) (present : data ∈ error.data) : data.nesting ≤ left := by
    have listed : ("data", data) ∈ (error.data.map fun data => ("data", data)).toList := by
      simpa using present
    exact Json.nesting_le_of_mem shallow (List.mem_append_right _ listed)
  refine (takes_toJson fits shallowData).read_obj ?_ rest
  obtain ⟨code, message, data⟩ := error
  -- Null data would be read as none, and the error would come back without it.
  cases data with
  | none => rfl
  | some data =>
    have notNull : data ≠ .null := (fits.data data rfl).1
    simp only [record, Option.map_some, Option.join_some, Json.present?_of_ne notNull]

end ResponseError

/-! ### Messages -/

namespace Message

theorem skipValue_protocolVersion (rest : Bytes) :
    Json.skipValue ((Json.str protocolVersion).bytes ++ rest) = .ok rest := by
  have bytes : (Json.str protocolVersion).bytes ++ rest =
      ascii '"' :: ([ascii '2', ascii '.', ascii '0'] ++ ascii '"' :: rest) := rfl
  have verbatim : ∀ byte ∈ [ascii '2', ascii '.', ascii '0'], Json.IsVerbatim byte := by
    rw [List.forall_mem_cons, List.forall_mem_cons, List.forall_mem_singleton]
    decide
  have skipped := Json.skipString_verbatim verbatim rest
  rw [bytes, Json.skipValue, Json.skipValues, Json.skipStart, Json.skipSpace_cons rfl]
  simp only [skipped]
  rfl

theorem field_id (draft : Draft) {id : Option Id} (fits : ∀ known ∈ id, known.Fits) (depth : Nat)
    {rest : Bytes} (ends : EndsNumber rest) :
    record.field depth draft "id" ((Id.optionToJson id).bytes ++ rest) =
      .ok ({ draft with id := some id }, rest) := by
  simp only [record, if_true, readOptional_readId fits depth ends]
  rfl

theorem field_method (draft : Draft) (method : String) (depth : Nat) (rest : Bytes) :
    record.field depth draft "method" ((Json.str method).bytes ++ rest) =
      .ok ({ draft with method := some (some method) }, rest) := by
  have read : Json.readOptional Json.readText ((Json.str method).bytes ++ rest) =
      .ok (some method, rest) :=
    (Json.Exact.str method).readOptional_bytes nofun (Json.readText_bytes method rest)
  simp only [record, read]
  rfl

theorem field_params (draft : Draft) {params : Json} (exact : params.Exact) {depth : Nat}
    (shallow : params.nesting ≤ depth) {rest : Bytes} (ends : EndsNumber rest) :
    record.field depth draft "params" (params.bytes ++ rest) =
      .ok ({ draft with params := some params.present? }, rest) := by
  simp only [record, exact.readOptional_value shallow ends]
  rfl

theorem field_result (draft : Draft) {result : Json} (exact : result.Exact) {depth : Nat}
    (shallow : result.nesting ≤ depth) {rest : Bytes} (ends : EndsNumber rest) :
    record.field depth draft "result" (result.bytes ++ rest) =
      .ok ({ draft with result := some result.present? }, rest) := by
  simp only [record, exact.readOptional_value shallow ends]
  rfl

theorem field_error (draft : Draft) {error : ResponseError} (fits : error.Fits) {depth : Nat}
    (shallow : error.toJson.nesting ≤ depth) (rest : Bytes) :
    record.field depth draft "error" (error.toJson.bytes ++ rest) =
      .ok ({ draft with error := some (some error) }, rest) := by
  -- The members of an error do not ascend, so it is no exact value, but it starts with a brace.
  have read : Json.readOptional (ResponseError.record.read depth) (error.toJson.bytes ++ rest) =
      .ok (some error, rest) :=
    Json.readOptional_cons (by decide) (by decide) (ResponseError.read_toJson fits shallow rest)
  simp only [record, read]
  rfl

/-- What a message starts with: a version, which nobody reads, and an identifier, which may be
absent. -/
theorem takes_opening {id : Option Id} (fits : ∀ known ∈ id, known.Fits) {depth : Nat}
    {members : List (String × Json)} {draft : Draft}
    (takes : Takes (record.member depth) { id := some id } members draft) :
    Takes (record.member depth) record.start
      (("jsonrpc", .str protocolVersion) :: ("id", Id.optionToJson id) :: members) draft := by
  refine .skip rfl skipValue_protocolVersion ?_
  exact .field rfl rfl (fun rest ends => field_id _ fits depth ends) takes

/-- A message is what the fields say that its members lead to. -/
theorem parse_obj {members : List (String × Json)} {draft : Draft}
    (takes : Takes (record.member (Json.depthLimit - 1)) record.start members draft) :
    parse (Json.obj members).bytes = classify draft := by
  have read : record.read (Json.depthLimit - 1 + 1) ((Json.obj members).bytes ++ []) =
      .ok (draft, []) := takes.read_obj rfl []
  rw [List.append_nil] at read
  rw [parse, show Json.depthLimit = Json.depthLimit - 1 + 1 from rfl, read]
  rfl

theorem parse_request {request : Request} (fits : request.id.Fits) (exact : request.params.Exact)
    (shallow : request.toJson.nesting ≤ Json.depthLimit) :
    parse request.toJson.bytes = .ok (.request request.id request.method request.params) := by
  obtain ⟨id, method, params⟩ := request
  have shallowParams : params.nesting ≤ Json.depthLimit - 1 :=
    Json.nesting_le_of_mem shallow (.tail _ (.tail _ (.tail _ (.head _))))
  have idFits : ∀ known ∈ some id, known.Fits := fun known same => Option.some.inj same ▸ fits
  have takes := takes_opening idFits
    (.field rfl rfl (fun rest _ => field_method _ method _ rest)
      (.field rfl rfl (fun rest ends => field_params _ exact shallowParams ends) (.nil _)))
  refine (parse_obj takes).trans ?_
  simp only [classify, Option.join_some, Json.present?_getD]

theorem parse_failure {id : Option Id} {error : ResponseError} (idFits : ∀ known ∈ id, known.Fits)
    (errorFits : error.Fits)
    (shallow : (Response.failure id error).toJson.nesting ≤ Json.depthLimit) :
    parse (Response.failure id error).toJson.bytes = .ok (.response id none (some error)) := by
  have shallowError : error.toJson.nesting ≤ Json.depthLimit - 1 :=
    Json.nesting_le_of_mem shallow (.tail _ (.tail _ (.head _)))
  have takes := takes_opening idFits
    (.field rfl rfl (fun rest _ => field_error _ errorFits shallowError rest) (.nil _))
  refine (parse_obj takes).trans ?_
  cases id <;> rfl

theorem parse_success (id : Option Id) (result : Json) :
    (∀ known ∈ id, known.Fits) → result.Exact →
      (Response.success id result).toJson.nesting ≤ Json.depthLimit →
      parse (Response.success id result).toJson.bytes =
        match id, result with
        | none, .null => .error (.of .invalidRequest "message has neither a method nor an id")
        | _, .null => .ok (.response id none none)
        | _, _ => .ok (.response id (some result) none) := by
  intro idFits exact shallow
  have shallowResult : result.nesting ≤ Json.depthLimit - 1 :=
    Json.nesting_le_of_mem shallow (.tail _ (.tail _ (.head _)))
  have takes := takes_opening idFits
    (.field rfl rfl (fun rest ends => field_result _ exact shallowResult ends) (.nil _))
  refine (parse_obj takes).trans ?_
  cases id <;> cases result <;> rfl

/-- Every message the server can send is read back from its bytes as what it says: a request with
its identifier, method and parameters, a failure with its error and no result, a success with its
result and no error. A null result is read as none, so that a success without an identifier and
with a null result says nothing and is refused. -/
theorem parse_bytes_toJson :
    (∀ request : Request, request.id.Fits → request.params.Exact →
      request.toJson.nesting ≤ Json.depthLimit →
      parse request.toJson.bytes = .ok (.request request.id request.method request.params)) ∧
    (∀ (id : Option Id) (error : ResponseError), (∀ known ∈ id, known.Fits) → error.Fits →
      (Response.failure id error).toJson.nesting ≤ Json.depthLimit →
      parse (Response.failure id error).toJson.bytes = .ok (.response id none (some error))) ∧
    (∀ (id : Option Id) (result : Json), (∀ known ∈ id, known.Fits) → result.Exact →
      (Response.success id result).toJson.nesting ≤ Json.depthLimit →
      parse (Response.success id result).toJson.bytes =
        match id, result with
        | none, .null => .error (.of .invalidRequest "message has neither a method nor an id")
        | _, .null => .ok (.response id none none)
        | _, _ => .ok (.response id (some result) none)) := by
  refine ⟨?_, ?_, parse_success⟩
  · intro request idFits exact shallow
    exact parse_request idFits exact shallow
  · intro id error idFits errorFits shallow
    exact parse_failure idFits errorFits shallow

/-- Parameters with a nested list, escapes, characters of several lengths, the least and the
greatest whole number, and keys that other orders would sort otherwise. -/
def crowdedParams : Json :=
  .obj [("", .arr [.arr [], .int (-9223372036854775808), .str "\"\\\x07\n/é€😀"]),
    ("Z", .obj [("null", .null), ("true", .bool true)]), ("a", .int 18446744073709551615)]

theorem crowdedParams_exact : crowdedParams.Exact := by
  refine .obj (by decide) ?_
  simp only [List.forall_mem_cons, List.not_mem_nil, false_imp_iff, implies_true, and_true]
  refine ⟨.arr ?_, .obj (by decide) ?_, .int (by decide)⟩
  · simp only [List.forall_mem_cons, List.not_mem_nil, false_imp_iff, implies_true, and_true]
    exact ⟨.arr nofun, .int (by decide), .str _⟩
  · simp only [List.forall_mem_cons, List.not_mem_nil, false_imp_iff, implies_true, and_true]
    exact ⟨.null, .bool true⟩

/-- A request, a failure and a success with an identifier come back whole, and the one response
that says nothing does not. -/
theorem parse_bytes_toJson_of_crowdedParams :
    parse (Request.toJson ⟨.number (-2147483648), "\t\"", crowdedParams⟩).bytes =
      .ok (.request (.number (-2147483648)) "\t\"" crowdedParams) ∧
    parse (Response.failure none ⟨-32700, "", some crowdedParams⟩).toJson.bytes =
      .ok (.response none none (some ⟨-32700, "", some crowdedParams⟩)) ∧
    parse (Response.success (some (.text "null")) .null).toJson.bytes =
      .ok (.response (some (.text "null")) none none) ∧
    parse (Response.success none .null).toJson.bytes =
      .error (.of .invalidRequest "message has neither a method nor an id") := by
  have dataFits : (⟨-32700, "", some crowdedParams⟩ : ResponseError).Fits := by
    refine ⟨by decide, by decide, fun data same => ?_⟩
    rw [← Option.some.inj same]
    exact ⟨nofun, crowdedParams_exact⟩
  obtain ⟨request, failure, success⟩ := parse_bytes_toJson
  refine ⟨request _ ⟨by decide, by decide⟩ crowdedParams_exact (by decide),
    failure _ _ nofun dataFits (by decide), ?_, ?_⟩
  · exact success (some (.text "null")) .null (fun known same => Option.some.inj same ▸ trivial)
      .null (by decide)
  · exact success none .null nofun .null (by decide)

end Message

end Rpc

end RippleServer
