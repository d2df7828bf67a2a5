/-
This file passes over values that nobody asked for, such as those of unknown
fields. They have to be well formed, but less is asked of them than of a value
that is read: their containers nest to any depth, their numbers may be out of
range, and their strings may hold unpaired surrogates and ill-formed UTF-8.
-/

import RippleServer.Json.Reader

namespace RippleServer.Json

/-! ### Scalars -/

/-- Passes over the rest of a string. -/
def skipString : Bytes → Reading Bytes
  | [] => .error ⟨.endInString, [], true⟩
  | byte :: rest =>
    if byte = ascii '"' then .ok rest
    else if byte < 0x20 then .error ⟨.controlCharacter, byte :: rest, true⟩
    else if byte = ascii '\\' then
      match rest with
      | [] => .error ⟨.endInString, [], true⟩
      | letter :: rest =>
        if letter = ascii 'u' then
          match rest with
          | first :: second :: third :: fourth :: rest =>
            if [first, second, third, fourth].all fun digit => (hexValue? digit).isSome then
              skipString rest
            else .error ⟨.invalidEscape, rest, true⟩
          | _ => .error ⟨.endInString, [], true⟩
        else if (Text.encode "\"\\/bfnrt").contains letter then skipString rest
        else .error ⟨.invalidEscape, rest, true⟩
    else skipString rest

/-- Passes over the exponent of a number, behind its letter. -/
def skipExponent (input : Bytes) : Reading Bytes :=
  let signed := input.head? = some (ascii '-') || input.head? = some (ascii '+')
  match if signed then input.drop 1 else input with
  | [] => .error ⟨.invalidNumber, [], true⟩
  | byte :: rest =>
    if isDigit byte then .ok (rest.dropWhile isDigit) else .error ⟨.invalidNumber, rest, true⟩

/-- Passes over the exponent of a number, if it has one. -/
def skipScale (input : Bytes) : Reading Bytes :=
  if startsExponent input then skipExponent (input.drop 1) else .ok input

/-- Passes over what follows the whole part of a number. -/
def skipFraction (input : Bytes) : Reading Bytes :=
  if input.head? = some (ascii '.') then
    let digits := input.drop 1
    if digits.head?.any isDigit then skipScale (digits.dropWhile isDigit)
    else .error (.peek .invalidNumber digits)
  else skipScale input

/-- Passes over a number behind its sign. -/
def skipNumber : Bytes → Reading Bytes
  | [] => .error ⟨.invalidNumber, [], true⟩
  | byte :: rest =>
    if byte = ascii '0' then
      if rest.head?.any isDigit then .error (.peek .invalidNumber rest) else skipFraction rest
    else if isDigit byte then skipFraction (rest.dropWhile isDigit)
    else .error ⟨.invalidNumber, rest, true⟩

/-! ### Containers -/

/-- An open container. -/
inductive Frame
  | list
  | object
deriving DecidableEq, Repr

def Frame.closing : Frame → UInt8
  | .list => 0x5D
  | .object => 0x7D

/-- The problem of a text that ends inside the container. -/
def Frame.endProblem : Frame → Problem
  | .list => .endInList
  | .object => .endInObject

/-- The problem of an item that is not followed by a comma or the end of its container. -/
def Frame.separatorProblem : Frame → Problem
  | .list => .expectedListEnd
  | .object => .expectedObjectEnd

/-- Passes over what stands before a value of the container: nothing in a list, a key and a colon
in an object. -/
def skipKey (frame : Frame) (input : Bytes) : Reading Bytes :=
  match frame with
  | .list => .ok input
  | .object =>
    match skipSpace input with
    | [] => .error ⟨.endInObject, [], true⟩
    | byte :: rest =>
      if byte = ascii '"' then do
        let rest ← skipString rest
        colon rest
      else .error (.peek .keyNotString (byte :: rest))

/-- Closes the containers that end here, from the innermost on, and goes on to the next value if
there is one. -/
def skipEnds : List Frame → Bool → Bytes → Reading (Option (List Frame) × Bytes)
  | [], _, input => .ok (none, input)
  | frame :: outer, behindValue, input =>
    match skipSpace input with
    | [] => .error ⟨frame.endProblem, [], true⟩
    | byte :: rest =>
      if byte = frame.closing then skipEnds outer true rest
      else if behindValue then
        if byte = ascii ',' then
          (skipKey frame rest).map fun rest => (some (frame :: outer), rest)
        else .error (.peek frame.separatorProblem (byte :: rest))
      else (skipKey frame (byte :: rest)).map fun rest => (some (frame :: outer), rest)

/-- Passes over the start of a value: a whole scalar, or the opening of a container. -/
def skipStart (frames : List Frame) (input : Bytes) :
    Reading (Option (List Frame) × Bytes) :=
  match skipSpace input with
  | [] => .error ⟨.endInValue, [], true⟩
  | byte :: rest =>
    if byte = ascii 'n' then do
      let rest ← literal [0x75, 0x6C, 0x6C] rest
      skipEnds frames true rest
    else if byte = ascii 't' then do
      let rest ← literal [0x72, 0x75, 0x65] rest
      skipEnds frames true rest
    else if byte = ascii 'f' then do
      let rest ← literal [0x61, 0x6C, 0x73, 0x65] rest
      skipEnds frames true rest
    else if byte = ascii '-' then do
      let rest ← skipNumber rest
      skipEnds frames true rest
    else if isDigit byte then do
      let rest ← skipNumber (byte :: rest)
      skipEnds frames true rest
    else if byte = ascii '"' then do
      let rest ← skipString rest
      skipEnds frames true rest
    else if byte = ascii '[' then skipEnds (.list :: frames) false rest
    else if byte = ascii '\x7b' then skipEnds (.object :: frames) false rest
    else .error (.peek .expectedValue (byte :: rest))

/-- Passes over values until no container is open. -/
def skipValues : Nat → List Frame → Bytes → Reading Bytes
  | 0, _, input => .error ⟨.endInValue, input, true⟩
  | budget + 1, frames, input => do
    let (open?, rest) ← skipStart frames input
    match open? with
    | none => .ok rest
    | some frames => skipValues budget frames rest

/-- Passes over one value. -/
def skipValue (input : Bytes) : Reading Bytes :=
  skipValues (input.length + 1) [] input

end RippleServer.Json
