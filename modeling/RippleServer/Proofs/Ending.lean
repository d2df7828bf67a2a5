/-
This file tells how a run ends, by the stream alone. The frames of the stream
are looked at in order. The first payload that tells the server to exit ends the
run, for a reason that depends on the payloads before it, and whatever is behind
it is never looked at. Without such a payload the run ends where the frames do:
the client is gone if nothing but white space is left, and otherwise the run
fails for the reason why there is no further frame.
-/

import RippleServer.Proofs.Shutdown

namespace RippleServer

/-! ### What is behind a frame -/

namespace Frame

/-- A frame that is not the end of the stream is closed by a line of its own, so it is a frame in
front of anything else too. -/
theorem Framed.exists_head {input payload rest : Bytes} (framed : Framed input payload rest)
    (more : payload ++ rest ≠ []) :
    ∃ head, input = head ++ (payload ++ rest) ∧
      ∀ other, Framed (head ++ (payload ++ other)) payload other := by
  obtain ⟨headers, ⟨some, line, closing, blank, ⟨single, ended⟩, blanks, blanksEach, headersEach,
    rfl⟩, last⟩ := framed
  obtain rfl : closing = lineBytes line :=
    ended.resolve_right fun unfinished => more unfinished.2.2
  refine ⟨blanks.flatMap lineBytes ++ (headers.flatMap lineBytes ++ lineBytes line), ?_, ?_⟩
  · simp only [List.append_assoc]
  · intro other
    refine ⟨headers, ⟨some, line, lineBytes line, blank, ⟨single, .inl rfl⟩, blanks, blanksEach,
      headersEach, ?_⟩, last⟩
    simp only [List.append_assoc]

/-- Frames are received the same way whatever is behind them, if the last of them has a body. -/
theorem Delivers.exists_taken {input payload rest : Bytes} {before : List Bytes}
    (delivers : Delivers input (before ++ [payload]) rest) (written : payload ≠ []) :
    ∃ taken, taken ≠ [] ∧ input = taken ++ rest ∧
      ∀ other, Delivers (taken ++ other) (before ++ [payload]) other := by
  induction before generalizing input with
  | nil =>
    obtain _ | ⟨received, ⟨⟩⟩ := delivers
    obtain ⟨head, whole, replaced⟩ := (receive_eq_some_iff.mp received).exists_head
      (List.append_ne_nil_of_left_ne_nil written rest)
    refine ⟨head ++ payload, List.append_ne_nil_of_right_ne_nil head written, ?_, fun other => ?_⟩
    · rw [List.append_assoc]
      exact whole
    · rw [List.append_assoc]
      exact .next (receive_of_framed (replaced other)) (.done other)
  | cons first before inductionHypothesis =>
    obtain _ | ⟨received, others⟩ := delivers
    obtain ⟨taken, some, rfl, delivered⟩ := inductionHypothesis others
    -- The frames that follow keep the first one from being the end of the stream.
    have more : first ++ (taken ++ rest) ≠ [] :=
      List.append_ne_nil_of_right_ne_nil first (List.append_ne_nil_of_left_ne_nil some rest)
    obtain ⟨head, whole, replaced⟩ := (receive_eq_some_iff.mp received).exists_head more
    refine ⟨head ++ (first ++ taken), ?_, ?_, fun other => ?_⟩
    · exact List.append_ne_nil_of_right_ne_nil head
        (List.append_ne_nil_of_right_ne_nil first some)
    · rw [List.append_assoc, List.append_assoc]
      exact whole
    · rw [List.append_assoc, List.append_assoc]
      exact .next (receive_of_framed (replaced (taken ++ other))) (delivered other)

end Frame

/-! ### The end of a stream -/

/-- The payload asks for a shutdown and wants an answer. -/
def IsShutdown (payload : Bytes) : Prop :=
  ∃ id params, Rpc.Message.parse payload = .ok (.request id "shutdown" params)

/-- The stream is frames with these payloads, none of which tells the server to exit, in front of
the rest. -/
structure Uninterrupted (input : Bytes) (payloads : List Bytes) (rest : Bytes) : Prop where
  delivers : Frame.Delivers input payloads rest
  stays : ∀ payload ∈ payloads, ¬ IsExit payload

/-- The stream is frames with these payloads and then the first one that tells the server to exit,
in front of the rest. -/
structure ReachesExit (input : Bytes) (before : List Bytes) (payload rest : Bytes) : Prop where
  delivers : Frame.Delivers input (before ++ [payload]) rest
  stays : ∀ earlier ∈ before, ¬ IsExit earlier
  exits : IsExit payload

/-- What a run over the stream comes to. -/
inductive Ends (input : Bytes) : Except Frame.Error ExitReason → Prop
  | requested {before : List Bytes} {payload rest : Bytes}
    (reaches : ReachesExit input before payload rest)
    (shutDown : ∃ earlier ∈ before, IsShutdown earlier) : Ends input (.ok .requested)
  | withoutShutdown {before : List Bytes} {payload rest : Bytes}
    (reaches : ReachesExit input before payload rest)
    (running : ∀ earlier ∈ before, ¬ IsShutdown earlier) : Ends input (.ok .withoutShutdown)
  | disconnected {payloads : List Bytes} {rest : Bytes}
    (uninterrupted : Uninterrupted input payloads rest) (silent : Frame.Silent rest) :
    Ends input (.ok .disconnected)
  | failed {payloads : List Bytes} {rest : Bytes} {error : Frame.Error}
    (uninterrupted : Uninterrupted input payloads rest) (broken : Frame.Broken rest error) :
    Ends input (.error error)

theorem Uninterrupted.cons {input payload behind rest : Bytes} {payloads : List Bytes}
    (received : Frame.receive input = (.ok (some payload), behind)) (stays : ¬ IsExit payload)
    (others : Uninterrupted behind payloads rest) :
    Uninterrupted input (payload :: payloads) rest :=
  ⟨.next received others.delivers, List.forall_mem_cons.mpr ⟨stays, others.stays⟩⟩

theorem Uninterrupted.reachesExit {input behind payload rest : Bytes} {payloads : List Bytes}
    (uninterrupted : Uninterrupted input payloads behind)
    (received : Frame.receive behind = (.ok (some payload), rest)) (exits : IsExit payload) :
    ReachesExit input payloads payload rest := by
  refine ⟨?_, uninterrupted.stays, exits⟩
  have delivers := uninterrupted.delivers
  induction delivers with
  | done => exact .next received (.done rest)
  | next first others inductionHypothesis =>
    refine .next first (inductionHypothesis ⟨others, ?_⟩ received)
    exact (List.forall_mem_cons.mp uninterrupted.stays).2

/-- A stream can be followed up to the first exit, to its end or to a place where there is no
frame. -/
theorem exists_uninterrupted (input : Bytes) :
    ∃ payloads rest, Uninterrupted input payloads rest ∧
      (Frame.Silent rest ∨ (∃ error, Frame.Broken rest error) ∨
        ∃ payload behind, Frame.receive rest = (.ok (some payload), behind) ∧ IsExit payload) := by
  induction sizeEq : input.length using Nat.strongRecOn generalizing input with
  | ind size inductionHypothesis =>
    have here : Uninterrupted input [] input := ⟨.done input, nofun⟩
    rcases Frame.silent_or_framed_or_broken input with silent | ⟨payload, rest, framed⟩ | broken
    · exact ⟨[], input, here, .inl silent⟩
    · have received := Frame.receive_of_framed framed
      by_cases exits : IsExit payload
      · exact ⟨[], input, here, .inr (.inr ⟨payload, rest, received, exits⟩)⟩
      · obtain ⟨payloads, last, uninterrupted, ending⟩ :=
          inductionHypothesis rest.length (sizeEq ▸ framed.length_lt) rest rfl
        exact ⟨payload :: payloads, last, uninterrupted.cons received exits, ending⟩
    · exact ⟨[], input, here, .inr (.inl broken)⟩

theorem exists_ends (input : Bytes) : ∃ outcome, Ends input outcome := by
  obtain ⟨payloads, rest, uninterrupted, silent | ⟨error, broken⟩ | ⟨payload, behind, received,
    exits⟩⟩ := exists_uninterrupted input
  · exact ⟨_, .disconnected uninterrupted silent⟩
  · exact ⟨_, .failed uninterrupted broken⟩
  · have reaches := uninterrupted.reachesExit received exits
    by_cases shutDown : ∃ earlier ∈ payloads, IsShutdown earlier
    · exact ⟨_, .requested reaches shutDown⟩
    · refine ⟨_, .withoutShutdown reaches fun earlier member asks => ?_⟩
      exact shutDown ⟨earlier, member, asks⟩

/-- Nothing was said by an empty payload. -/
theorem IsExit.ne_nil {payload : Bytes} (exits : IsExit payload) : payload ≠ [] := by
  rintro rfl
  obtain ⟨params, parsed⟩ := exits
  cases parsed

/-- An exit is reached the same way whatever is behind it. -/
theorem ReachesExit.exists_taken {input payload rest : Bytes} {before : List Bytes}
    (reaches : ReachesExit input before payload rest) :
    ∃ taken, input = taken ++ rest ∧
      ∀ other, ReachesExit (taken ++ other) before payload other := by
  obtain ⟨taken, -, whole, delivered⟩ := reaches.delivers.exists_taken reaches.exits.ne_nil
  exact ⟨taken, whole, fun other => ⟨delivered other, reaches.stays, reaches.exits⟩⟩

/-! ### The loop up to its end -/

namespace Server

variable {surroundings : Surroundings} {server : Server}

theorem receive_of_isExit {payload : Bytes} (exits : IsExit payload) :
    server.receive surroundings payload =
      ⟨(some server.exitReason, server), [.exiting server.exitReason]⟩ := by
  obtain ⟨params, parsed⟩ := exits
  rw [receive, parsed]
  rfl

theorem receive_of_not_isExit (surroundings : Surroundings) (server : Server) {payload : Bytes}
    (stays : ¬ IsExit payload) : (server.receive surroundings payload).value.1 = none := by
  cases parsed : Rpc.Message.parse payload with
  | error error => rw [(Inert.unreadable parsed).passes.value]
  | ok message =>
    cases message with
    | response id result error => rw [(Inert.response parsed).passes.value]
    | request id method params => rw [receive_of_request surroundings server parsed]
    | notification method params =>
      rw [receive, parsed]
      refine Option.not_isSome_iff_eq_none.mp (mt (notice_exits server method params).mp ?_)
      rintro rfl
      exact stays ⟨params, parsed⟩

/-- Over payloads that do not end it, the loop remembers whether one of them asked for a
shutdown. -/
theorem receiveAll_of_stays (surroundings : Surroundings) (server : Server) {payloads : List Bytes}
    (stays : ∀ payload ∈ payloads, ¬ IsExit payload) :
    (server.receiveAll surroundings payloads).value.1 = none ∧
      ((server.receiveAll surroundings payloads).value.2.shutdownRequested = true ↔
        server.shutdownRequested = true ∨ ∃ payload ∈ payloads, IsShutdown payload) := by
  induction payloads generalizing server with
  | nil => exact ⟨rfl, by simp [receiveAll]⟩
  | cons payload payloads inductionHypothesis =>
    obtain ⟨first, others⟩ := List.forall_mem_cons.mp stays
    have goesOn := receive_of_not_isExit surroundings server first
    have step := receive_shutdownRequested surroundings server payload []
    rcases value : (server.receive surroundings payload).value with ⟨reason, next⟩
    rw [value] at goesOn step
    obtain rfl : reason = none := goesOn
    obtain ⟨ending, remembers⟩ := inductionHypothesis next others
    rw [receiveAll_cons_of_none value]
    refine ⟨ending, remembers.trans ?_⟩
    rw [step, or_assoc]
    simp only [List.mem_cons, or_and_right, exists_or, exists_eq_left]
    rfl

/-- Payloads that do not end the loop are handled before those behind them. -/
theorem receiveAll_append {before : List Bytes}
    (goesOn : (server.receiveAll surroundings before).value.1 = none) (behind : List Bytes) :
    server.receiveAll surroundings (before ++ behind) =
      ⟨((server.receiveAll surroundings before).value.2.receiveAll surroundings behind).value,
        (server.receiveAll surroundings before).events ++
          ((server.receiveAll surroundings before).value.2.receiveAll surroundings
            behind).events⟩ := by
  induction before generalizing server with
  | nil => rfl
  | cons payload before inductionHypothesis =>
    rcases value : (server.receive surroundings payload).value with ⟨reason, next⟩
    cases reason with
    | some reason =>
      rw [receiveAll_cons_of_some value] at goesOn
      cases goesOn
    | none =>
      rw [receiveAll_cons_of_none value] at goesOn
      rw [List.cons_append, receiveAll_cons_of_none value, receiveAll_cons_of_none value,
        inductionHypothesis goesOn, List.append_assoc]

/-- A run that reaches an exit is over there. -/
theorem run_of_reachesExit {input payload rest : Bytes} {before : List Bytes}
    (surroundings : Surroundings) (server : Server)
    (reaches : ReachesExit input before payload rest) :
    let reached := (server.receiveAll surroundings before).value.2
    server.run surroundings input =
      ⟨(.ok reached.exitReason, reached),
        (server.receiveAll surroundings before).events ++ [.exiting reached.exitReason]⟩ := by
  intro reached
  have goesOn := (receiveAll_of_stays surroundings server reaches.stays).1
  have ends :
      (reached.receive surroundings payload).value = (some reached.exitReason, reached) := by
    rw [receive_of_isExit reaches.exits]
  rw [run, reaches.delivers.payloads_eq, List.append_assoc]
  dsimp only
  rw [receiveAll_append goesOn, List.singleton_append, receiveAll_cons_of_some ends,
    receive_of_isExit reaches.exits]
  ext1
  · rfl
  · exact List.append_nil _

/-- A run without an exit ends as the stream does. -/
theorem run_of_uninterrupted {input rest : Bytes} {payloads : List Bytes}
    {ending : Except Frame.Error Unit} (surroundings : Surroundings) (server : Server)
    (uninterrupted : Uninterrupted input payloads rest)
    (finished : Frame.payloads rest = ([], ending)) :
    (server.run surroundings input).value.1 = (conclude ending).value := by
  have goesOn := (receiveAll_of_stays surroundings server uninterrupted.stays).1
  rw [run, uninterrupted.delivers.payloads_eq, finished, List.append_nil, Traced.value_bind]
  rcases value : (server.receiveAll surroundings payloads).value with ⟨reason, reached⟩
  rw [value] at goesOn
  obtain rfl : reason = none := goesOn
  rfl

theorem run_of_ends {input : Bytes} {outcome : Except Frame.Error ExitReason}
    (surroundings : Surroundings) (session : Session) (ends : Ends input outcome) :
    (Server.run surroundings { session } input).value.1 = outcome := by
  cases ends with
  | requested reaches shutDown =>
    have remembers := (receiveAll_of_stays surroundings { session } reaches.stays).2
    rw [run_of_reachesExit surroundings _ reaches, exitReason,
      if_pos (remembers.mpr (.inr shutDown))]
  | withoutShutdown reaches running =>
    have remembers := (receiveAll_of_stays surroundings { session } reaches.stays).2
    rw [run_of_reachesExit surroundings _ reaches, exitReason, if_neg]
    intro requested
    rcases remembers.mp requested with before | ⟨earlier, member, asks⟩
    · exact Bool.false_ne_true before
    · exact running earlier member asks
  | disconnected uninterrupted silent =>
    rw [run_of_uninterrupted surroundings _ uninterrupted
      (Frame.payloads_of_none (Frame.receive_eq_none_iff.mpr silent))]
    rfl
  | failed uninterrupted broken =>
    rw [run_of_uninterrupted surroundings _ uninterrupted
      (Frame.payloads_of_error (Frame.receive_of_broken broken))]
    rfl

/-! ### What does not count -/

/-- The payloads that are near to a shutdown or an exit, but are none. -/
inductive Uncounted (payload : Bytes) : Prop
  | shutdownNotice {params : Json}
    (parsed : Rpc.Message.parse payload = .ok (.notification "shutdown" params))
  | exitRequest {id : Rpc.Id} {params : Json}
    (parsed : Rpc.Message.parse payload = .ok (.request id "exit" params))
  | unreadable {error : Rpc.ResponseError} (parsed : Rpc.Message.parse payload = .error error)

theorem Uncounted.inert {payload : Bytes} (uncounted : Uncounted payload) (server : Server) :
    server.Inert payload := by
  cases uncounted with
  | shutdownNotice parsed => exact .unheard parsed (by decide) (by decide) (by decide)
  | exitRequest parsed => exact .refused parsed (by decide) (by decide)
  | unreadable parsed => exact .unreadable parsed

theorem dropsInert_of_uncounted {deliveries : List Delivery}
    (uncounted : ∀ delivery ∈ deliveries, delivery.kept = false → Uncounted delivery.payload) :
    server.DropsInert surroundings deliveries := by
  rintro before delivery behind rfl dropped reached -
  exact (uncounted delivery (List.mem_append_right _ List.mem_cons_self) dropped).inert reached

/-- How a run of a new server ends is told by the stream. It ends with an exit, requested or
without a shutdown, exactly if an exit is reached behind frames that are in order, one of which
asked for a shutdown or none of which did; the client is gone exactly if there is no exit and the
stream ends between messages; and the run fails exactly if there is no exit before a broken frame,
with the error of that frame. Payloads that cannot be read, shutdowns nobody waits for and requests
to exit make no difference, and neither do the bytes behind the first exit. -/
theorem run_ends_iff (surroundings : Surroundings) (session : Session) (input : Bytes) :
    let server : Server := { session }
    (∀ outcome, (server.run surroundings input).value.1 = outcome ↔ Ends input outcome) ∧
      (∀ deliveries ending thinned,
        (∀ delivery ∈ deliveries, delivery.kept = false → Uncounted delivery.payload) →
        Frame.payloads input = (deliveries.map Delivery.payload, ending) →
        Frame.payloads thinned = (keptPayloads deliveries, ending) →
          (server.run surroundings thinned).value = (server.run surroundings input).value) ∧
      ∀ before payload rest, ReachesExit input before payload rest →
        ∃ taken, input = taken ++ rest ∧
          ∀ other, server.run surroundings (taken ++ other) = server.run surroundings input := by
  intro server
  refine ⟨fun outcome => ⟨?_, run_of_ends surroundings session⟩, ?_, ?_⟩
  · rintro rfl
    obtain ⟨outcome, ends⟩ := exists_ends input
    rw [run_of_ends surroundings session ends]
    exact ends
  · intro deliveries ending thinned uncounted whole fewer
    have drops : server.DropsInert surroundings deliveries := dropsInert_of_uncounted uncounted
    rw [run, run, whole, fewer, Traced.value_bind, Traced.value_bind,
      (receiveAll_of_thinned drops).1]
  · intro before payload rest reaches
    obtain ⟨taken, whole, replaced⟩ := reaches.exists_taken
    refine ⟨taken, whole, fun other => ?_⟩
    rw [run_of_reachesExit surroundings server reaches,
      run_of_reachesExit surroundings server (replaced other)]

/-- A client that says shutdown without an identifier and asks to exit before it does both the right
way, and leaves a broken frame behind: the exit counts as requested, and the rest is not read. -/
theorem run_ends_iff_behind_near_misses :
    let surroundings : Surroundings :=
      ⟨⟨fun path => .ok { path }, fun path => .error (.notFound path)⟩, .directory none, ⟨[]⟩⟩
    let before := [Text.encode "\x7b\"method\":\"shutdown\"\x7d",
      Text.encode "\x7b\"id\":1,\"method\":\"exit\"\x7d",
      Text.encode "\x7b\"id\":2,\"method\":\"shutdown\"\x7d"]
    let exit := Text.encode "\x7b\"method\":\"exit\"\x7d"
    let rest := Text.encode "Content-Length: none"
    let input := (before ++ [exit]).flatMap Frame.encode ++ rest
    ReachesExit input before exit rest ∧
      (Server.run surroundings {} input).value.1 = .ok .requested ∧
      ∃ taken, input = taken ++ rest ∧
        ∀ other, Server.run surroundings {} (taken ++ other) =
          Server.run surroundings {} input := by
  intro surroundings before exit rest input
  have notice : Rpc.Message.parse (Text.encode "\x7b\"method\":\"shutdown\"\x7d") =
      .ok (.notification "shutdown" .null) :=
    Rpc.Message.eq_notification_of_isBare (by decide +kernel)
  have request : Rpc.Message.parse (Text.encode "\x7b\"id\":1,\"method\":\"exit\"\x7d") =
      .ok (.request (.number 1) "exit" .null) :=
    Rpc.Message.eq_request_of_isBare (by decide +kernel)
  have shutdown : Rpc.Message.parse (Text.encode "\x7b\"id\":2,\"method\":\"shutdown\"\x7d") =
      .ok (.request (.number 2) "shutdown" .null) :=
    Rpc.Message.eq_request_of_isBare (by decide +kernel)
  have exits : Rpc.Message.parse (Text.encode "\x7b\"method\":\"exit\"\x7d") =
      .ok (.notification "exit" .null) :=
    Rpc.Message.eq_notification_of_isBare (by decide +kernel)
  have stays : ∀ payload ∈ before, ¬ IsExit payload := by
    refine List.forall_mem_cons.mpr ⟨?_, List.forall_mem_cons.mpr ⟨?_,
      List.forall_mem_singleton.mpr ?_⟩⟩
    · rintro ⟨params, parsed⟩
      have same := Except.ok.inj (notice.symm.trans parsed)
      exact absurd (Rpc.Message.notification.inj same).1 (by decide)
    · rintro ⟨params, parsed⟩
      cases request.symm.trans parsed
    · rintro ⟨params, parsed⟩
      cases shutdown.symm.trans parsed
  have reaches : ReachesExit input before exit rest :=
    ⟨Frame.delivers_flatMap_encode (by decide +kernel) rest, stays, .null, exits⟩
  have shutDown : ∃ earlier ∈ before, IsShutdown earlier :=
    ⟨_, List.mem_cons_of_mem _ (List.mem_cons_of_mem _ List.mem_cons_self), _, _, shutdown⟩
  obtain ⟨ends, -, behind⟩ := run_ends_iff surroundings {} input
  exact ⟨reaches, (ends _).mpr (.requested reaches shutDown), behind before exit rest reaches⟩

end Server

end RippleServer
