/-
This file frames messages on a stream of bytes. A frame is a block of header
lines, a blank line and as many bytes as the last content length says. Blank
lines before the headers are passed over, and white space is that of the
standard, not only spaces and line ends. Reading returns what is left of the
stream also when it fails: the lines looked at are gone, and so is a body that
is too short.
-/

import RippleServer.Text.Blank
import RippleServer.Text.Decimal
import RippleServer.Text.Utf8

namespace RippleServer.Frame

/-! ### Errors -/

/-- Why a stream failed. -/
inductive StreamFault
  | endInHeaders
  | notUtf8
  | endInBody
  | sink (reason : String)
deriving DecidableEq, Repr

/-- The words for a failed stream. -/
def StreamFault.message : StreamFault → String
  | .endInHeaders => "connection closed while reading headers"
  | .notUtf8 => "stream did not contain valid UTF-8"
  | .endInBody => "failed to fill whole buffer"
  | .sink reason => reason

/-- Why a message could not be received or sent. -/
inductive Error
  | stream (fault : StreamFault)
  | missingLength
  | invalidLength (value : String)
deriving DecidableEq, Repr

/-- The words for an error of the transport. -/
def Error.message : Error → String
  | .stream fault => "transport I/O failed: " ++ fault.message
  | .missingLength => "message headers are missing Content-Length"
  | .invalidLength value => "invalid Content-Length header: " ++ value

/-! ### Receiving -/

/-- The longest body that is accepted. -/
def maxLength : Nat := 67108864

/-- The bytes up to and with the first line feed, and the bytes behind it. -/
def cutLine : Bytes → Bytes × Bytes
  | [] => ([], [])
  | byte :: rest =>
    if byte = 0x0A then ([byte], rest)
    else
      let (line, behind) := cutLine rest
      (byte :: line, behind)

/-- The value of a header line that gives the content length. -/
def lengthValue? (line : String) : Option String :=
  match Text.cut? ':' line with
  | some (name, value) =>
    if Text.sameIgnoringCase (Text.trim name) "content-length" then some (Text.trim value)
    else none
  | none => none

/-- Reads header lines up to the blank line that ends them. `inBlock` says whether a header came
before, and `length` is the last content length so far. Every line takes a byte at least, so the
number of bytes is budget enough. -/
def readHeaders : Nat → Bool → Option Nat → Bytes → Except Error (Option Nat) × Bytes
  | _, inBlock, _, [] => (if inBlock then .error (.stream .endInHeaders) else .ok none, [])
  | 0, _, _, input => (.error (.stream .endInHeaders), input)
  | budget + 1, inBlock, length, input =>
    let (line, rest) := cutLine input
    match Text.decode? line with
    | none => (.error (.stream .notUtf8), rest)
    | some text =>
      let header := Text.trim text
      if header = "" then
        if inBlock then
          match length with
          | some length => (.ok (some length), rest)
          | none => (.error .missingLength, rest)
        else readHeaders budget false length rest
      else
        match lengthValue? header with
        | none => readHeaders budget true length rest
        | some value =>
          match Text.natural? maxLength value with
          | some length => readHeaders budget true (some length) rest
          | none => (.error (.invalidLength value), rest)

/-- Reads the headers of one message: the length of its body, or nothing if the stream ends before
any header. -/
def headers (input : Bytes) : Except Error (Option Nat) × Bytes :=
  readHeaders input.length false none input

/-- Receives one message: its body, nothing if the stream ends between messages, or an error; and
what is left of the stream. -/
def receive (input : Bytes) : Except Error (Option Bytes) × Bytes :=
  match headers input with
  | (.error error, rest) => (.error error, rest)
  | (.ok none, rest) => (.ok none, rest)
  | (.ok (some length), rest) =>
    if length ≤ rest.length then (.ok (some (rest.take length)), rest.drop length)
    else (.error (.stream .endInBody), [])

/-- The payloads of at most `budget` messages, and the error that ends them if there is one. -/
def payloadsUpTo : Nat → Bytes → List Bytes × Except Error Unit
  | 0, _ => ([], .ok ())
  | budget + 1, input =>
    match receive input with
    | (.error error, _) => ([], .error error)
    | (.ok none, _) => ([], .ok ())
    | (.ok (some payload), rest) =>
      let (payloads, ending) := payloadsUpTo budget rest
      (payload :: payloads, ending)

/-- The payloads of a stream, up to its end or to the first error. Every message takes a byte at
least, so there are no more messages than bytes. -/
def payloads (input : Bytes) : List Bytes × Except Error Unit :=
  payloadsUpTo (input.length + 1) input

/-! ### Sending -/

/-- The frame of a message. -/
def encode (payload : Bytes) : Bytes :=
  Text.encode ("Content-Length: " ++ Text.natural payload.length ++ "\r\n\r\n") ++ payload

/-- Where frames are written to, with the number of bytes it still takes if there is a limit. -/
structure Sink where
  written : Bytes := []
  room : Option Nat := none
deriving DecidableEq, Repr

/-- Writes the frame of a message. A sink that runs full keeps what it could take. -/
def Sink.send (sink : Sink) (payload : Bytes) : Except Error Unit × Sink :=
  let frame := encode payload
  match sink.room with
  | none => (.ok (), { sink with written := sink.written ++ frame })
  | some room =>
    if frame.length ≤ room then
      (.ok (), { written := sink.written ++ frame, room := some (room - frame.length) })
    else
      (.error (.stream (.sink "sink is full")),
        { written := sink.written ++ frame.take room, room := some 0 })

end RippleServer.Frame
