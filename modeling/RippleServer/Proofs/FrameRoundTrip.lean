/-
This file proves that receiving undoes sending. The frame of a payload is one of
the frames of the grammar, whatever bytes the payload has: the header gives the
length of the payload, and the payload is taken by that length without being
looked at. So the payloads sent one after another are the payloads received one
after another, and behind the last one nothing is left of the stream.
-/

import RippleServer.Proofs.Framing

namespace RippleServer.Frame

/-! ### Sending and receiving many payloads -/

/-- Sends payloads one after another, up to the first that cannot be written. -/
def Sink.sendAll : Sink → List Bytes → Except Error Unit × Sink
  | sink, [] => (.ok (), sink)
  | sink, payload :: rest =>
    match sink.send payload with
    | (.error error, sink) => (.error error, sink)
    | (.ok (), sink) => sendAll sink rest

/-- Receiving over and over gives the payloads and leaves the rest of the stream. -/
inductive Delivers : Bytes → List Bytes → Bytes → Prop
  | done (rest : Bytes) : Delivers rest [] rest
  | next {input payload behind rest : Bytes} {payloads : List Bytes}
    (received : receive input = (.ok (some payload), behind))
    (others : Delivers behind payloads rest) : Delivers input (payload :: payloads) rest

/-! ### One frame -/

/-- The name of the header of a frame. -/
def lengthName : List Char :=
  "Content-Length".toList

/-- The header line of a frame, with the carriage return that stands before its line feed. -/
def lengthHeader (length : Nat) : List Char :=
  lengthName ++ ':' :: ([' '] ++ Nat.toDigits 10 length ++ ['\r'])

theorem isDigit_of_mem_natural {number : Nat} {digit : Char}
    (member : digit ∈ Nat.toDigits 10 number) : digit.isDigit = true :=
  Nat.isDigit_of_mem_toDigits (by decide) (by decide) member

theorem lineFeed_not_mem_lengthHeader (length : Nat) : '\n' ∉ lengthHeader length := by
  intro member
  rw [lengthHeader, List.mem_append, List.mem_cons, List.mem_append, List.mem_append] at member
  rcases member with name | colon | (space | digit) | carriageReturn
  · exact absurd name (by decide)
  · exact absurd colon (by decide)
  · exact absurd space (by decide)
  · exact absurd (isDigit_of_mem_natural digit) (by decide)
  · exact absurd carriageReturn (by decide)

theorem isBlank_of_isDigit {digit : Char} (isDigit : digit.isDigit = true) :
    Text.isBlank digit = false := by
  obtain ⟨low, high⟩ := Char.isDigit_iff_toNat.mp isDigit
  have least : '0'.toNat = 48 := rfl
  have greatest : '9'.toNat = 57 := rfl
  simp only [Text.isBlank, Bool.or_eq_false_iff, Bool.and_eq_false_iff, decide_eq_false_iff_not]
  omega

theorem trimChars_eq_self {chars : List Char}
    (written : ∀ char ∈ chars, Text.isBlank char = false) : Text.trimChars chars = chars := by
  have kept : ∀ some : List Char, (∀ char ∈ some, Text.isBlank char = false) →
      some.dropWhile Text.isBlank = some := by
    intro some each
    cases some with
    | nil => rfl
    | cons char rest =>
      rw [List.dropWhile_cons_of_neg (by rw [each char List.mem_cons_self]; decide)]
  have reversed : ∀ char ∈ chars.reverse, Text.isBlank char = false :=
    fun char member => written char (List.mem_reverse.mp member)
  rw [Text.trimChars, kept chars written, kept _ reversed, List.reverse_reverse]

/-- The header of a frame gives the length of its payload. -/
theorem lengthLine_lengthHeader (length : Nat) :
    LengthLine (lengthHeader length) (Text.natural length) := by
  refine ⟨lengthName, [' '] ++ Nat.toDigits 10 length ++ ['\r'], rfl, by decide,
    by decide, ?_⟩
  rw [Text.trimChars_append_right (List.forall_mem_singleton.mpr (by decide)),
    Text.trimChars_append_left (List.forall_mem_singleton.mpr (by decide)),
    trimChars_eq_self fun char member => isBlank_of_isDigit (isDigit_of_mem_natural member)]
  rfl

theorem fits_natural {length : Nat} (small : length ≤ maxLength) :
    Fits (Text.natural length) length := by
  refine ⟨⟨Nat.toDigits 10 length, .inl ?_, Nat.toDigits_ne_nil, ?_, ?_⟩, small⟩
  · rw [Text.natural, String.toList_ofList]
  · exact fun digit => isDigit_of_mem_natural
  · exact Nat.ofDigitChars_ten_toDigits

theorem encode_eq (payload : Bytes) :
    encode payload = lineBytes (lengthHeader payload.length) ++ (lineBytes ['\r'] ++ payload) := by
  have title : ("Content-Length: " ++ Text.natural payload.length ++ "\r\n\r\n").toList =
      lengthHeader payload.length ++ ['\n'] ++ ['\r', '\n'] := by
    have opening : "Content-Length: ".toList = lengthName ++ [':', ' '] := by decide
    have ending : "\r\n\r\n".toList = ['\r'] ++ ['\n'] ++ ['\r', '\n'] := by decide
    rw [String.toList_append, String.toList_append, opening, ending, Text.natural,
      String.toList_ofList, lengthHeader]
    simp only [List.append_assoc, List.cons_append, List.nil_append]
  rw [encode, Text.encode, title, Text.encodeChars_append, List.append_assoc]
  rfl

/-- The frame of a payload is a frame of the grammar, in front of anything. -/
theorem framed_encode {payload : Bytes} (small : payload.length ≤ maxLength) (rest : Bytes) :
    Framed (encode payload ++ rest) payload rest := by
  have gives := lengthLine_lengthHeader payload.length
  have fits := fits_natural small
  have isHeader : IsHeader (lengthHeader payload.length) := by
    refine ⟨gives.not_isBlank, fun value other => ⟨payload.length, ?_⟩⟩
    have same := lengthValue?_eq_some_iff.mpr gives
    rw [lengthValue?_eq_some_iff.mpr other] at same
    cases same
    exact fits
  have blank : IsBlank ['\r'] := List.forall_mem_singleton.mpr rfl
  refine ⟨[lengthHeader payload.length], ⟨List.cons_ne_nil _ _, ['\r'], lineBytes ['\r'], blank,
    ⟨by decide, .inl rfl⟩, [], nofun, ?_, ?_⟩, ?_⟩
  · exact List.forall_mem_singleton.mpr ⟨lineFeed_not_mem_lengthHeader _, isHeader⟩
  · rw [encode_eq, List.flatMap_singleton, List.append_assoc, List.append_assoc]
    rfl
  · exact ⟨[], _, [], _, rfl, gives, fits, nofun⟩

/-- Receiving takes exactly the frame of a payload from the front of a stream. -/
theorem receive_encode {payload : Bytes} (small : payload.length ≤ maxLength) (rest : Bytes) :
    receive (encode payload ++ rest) = (.ok (some payload), rest) :=
  receive_of_framed (framed_encode small rest)

/-! ### Any number of frames -/

theorem delivers_flatMap_encode {payloads : List Bytes}
    (small : ∀ payload ∈ payloads, payload.length ≤ maxLength) (rest : Bytes) :
    Delivers (payloads.flatMap encode ++ rest) payloads rest := by
  induction payloads with
  | nil => exact .done rest
  | cons payload payloads inductionHypothesis =>
    obtain ⟨first, others⟩ := List.forall_mem_cons.mp small
    rw [List.flatMap_cons, List.append_assoc]
    exact .next (receive_encode first _) (inductionHypothesis others)

/-- The payloads of a stream are those that are delivered one by one. -/
theorem Delivers.payloads_eq {input rest : Bytes} {payloads : List Bytes}
    (delivers : Delivers input payloads rest) :
    Frame.payloads input = (payloads ++ (Frame.payloads rest).1, (Frame.payloads rest).2) := by
  induction delivers with
  | done rest => rfl
  | next received others inductionHypothesis =>
    rw [payloads_of_some received, inductionHypothesis]
    rfl

/-- The frames of payloads that are not too long are a stream with these payloads. -/
theorem payloads_flatMap_encode {payloads : List Bytes}
    (small : ∀ payload ∈ payloads, payload.length ≤ maxLength) :
    Frame.payloads (payloads.flatMap encode) = (payloads, .ok ()) := by
  have delivers := delivers_flatMap_encode small []
  rw [List.append_nil] at delivers
  rw [delivers.payloads_eq]
  exact congrArg (·, _) (List.append_nil payloads)

/-- A sink without a limit takes all frames in a row. -/
theorem Sink.sendAll_of_unlimited {sink : Sink} (unlimited : sink.room = none)
    (payloads : List Bytes) :
    sink.sendAll payloads =
      (.ok (), { sink with written := sink.written ++ payloads.flatMap encode }) := by
  induction payloads generalizing sink with
  | nil => rw [List.flatMap_nil, List.append_nil]; rfl
  | cons payload payloads inductionHypothesis =>
    have sent : sink.send payload =
        (.ok (), { sink with written := sink.written ++ encode payload }) := by
      rw [send, unlimited]
    have others := @inductionHypothesis { sink with written := sink.written ++ encode payload }
      unlimited
    rw [sendAll, sent, List.flatMap_cons, ← List.append_assoc]
    exact others

/-- Payloads of any content that are not too long come through: what is written for them, received
over and over, gives the same payloads in the same order, nothing is left, and then the stream is
found to have ended between messages. -/
theorem sendAll_roundTrip {sink : Sink} (unlimited : sink.room = none) {payloads : List Bytes}
    (small : ∀ payload ∈ payloads, payload.length ≤ maxLength) :
    ∃ frames, sink.sendAll payloads = (.ok (), { sink with written := sink.written ++ frames }) ∧
      Delivers frames payloads [] ∧ receive [] = (.ok none, []) ∧
      Frame.payloads frames = (payloads, .ok ()) := by
  have delivers := delivers_flatMap_encode small []
  rw [List.append_nil] at delivers
  exact ⟨payloads.flatMap encode, Sink.sendAll_of_unlimited unlimited payloads, delivers, rfl,
    payloads_flatMap_encode small⟩

/-- An empty payload, one that looks like a frame itself and one of bytes that are no text. -/
theorem sendAll_roundTrip_of_misleading :
    ∃ frames, Sink.sendAll {} [[], encode [0x7B, 0x7D], [0x0A, 0x0D, 0x0A, 0xFF]] =
        (.ok (), { written := frames }) ∧
      Delivers frames [[], encode [0x7B, 0x7D], [0x0A, 0x0D, 0x0A, 0xFF]] [] ∧
      receive [] = (.ok none, []) ∧
      Frame.payloads frames =
        ([[], encode [0x7B, 0x7D], [0x0A, 0x0D, 0x0A, 0xFF]], .ok ()) :=
  sendAll_roundTrip rfl (by decide)

end RippleServer.Frame
