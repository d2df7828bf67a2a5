/-
This file leaves out of a text what a terminal would not show. Controls are left
out, apart from the blanks among them, and so is every sequence of characters
that an escape character begins: short sequences up to their last character,
control sequences up to a letter or the like, and strings up to their end. A
character outside ASCII never ends a sequence, except that a string ends with one
whose encoding holds the byte 9C.
-/

import RippleServer.Text.Utf8

namespace RippleServer.Text.Terminal

/-! ### Sequences -/

/-- Where a terminal stands in a sequence. -/
inductive State
  /-- Outside of all sequences. -/
  | text
  /-- Behind the escape character. -/
  | escape
  /-- Behind the escape character and some intermediate characters. -/
  | intermediate
  /-- In a control sequence. -/
  | control
  /-- In the head of a device string: behind its introducer, its parameters, or the characters
  between them and the string. -/
  | device
  | deviceParameters
  | deviceIntermediate
  /-- In a string whose content does not matter. -/
  | string
  /-- In a command for the operating system, which a bell ends. -/
  | command
deriving DecidableEq, Repr

/-- The controls that move the place where text is shown. -/
def isBlankControl (char : Char) : Bool :=
  char = '\t' || char = '\n' || char = '\x0c' || char = '\r'

/-- Whether blanks are shown in a state. In a string they are not; everywhere else they are, and
they end the sequence they stand in. -/
def State.showsBlanks : State → Bool
  | .text | .escape | .intermediate | .control => true
  | _ => false

/-- Whether a code point lies in a range. -/
def within (first last : Nat) (char : Char) : Bool :=
  first ≤ char.toNat && char.toNat ≤ last

/-- The state behind a printable ASCII character. -/
def State.next (state : State) (char : Char) : State :=
  match state with
  | .text => .text
  | .escape =>
    if within 0x20 0x2F char then .intermediate
    else if char = '[' then .control
    else if char = ']' then .command
    else if char = 'P' then .device
    else if char = 'X' || char = '^' || char = '_' then .string
    else .text
  | .intermediate => if within 0x20 0x2F char then .intermediate else .text
  | .control => if within 0x20 0x3F char then .control else .text
  | .device =>
    if within 0x20 0x2F char then .deviceIntermediate
    else if within 0x30 0x3F char then .deviceParameters
    else .string
  | .deviceParameters =>
    if within 0x20 0x2F char then .deviceIntermediate
    else if within 0x30 0x3B char then .deviceParameters
    else .string
  | .deviceIntermediate => if within 0x20 0x2F char then .deviceIntermediate else .string
  | .string => .string
  | .command => .command

/-- The state behind any character, and whether the character is shown. -/
def State.step (state : State) (char : Char) : State × Bool :=
  if char.toNat = 0x1B then (.escape, false)
  else if char.toNat = 0x18 || char.toNat = 0x1A then (.text, false)
  else if isBlankControl char then if state.showsBlanks then (.text, true) else (state, false)
  else if char.toNat < 0x20 || char.toNat = 0x7F then
    (if state = .command && char.toNat = 0x07 then .text else state, false)
  else if char.toNat < 0x80 then (state.next char, state = .text)
  else if state = .string && (String.utf8EncodeChar char).contains 0x9C then (.text, false)
  else (state, state = .text)

/-! ### Texts -/

/-- The characters that are shown, from a given state on. -/
def shown : State → List Char → List Char
  | _, [] => []
  | state, char :: rest =>
    let (next, visible) := state.step char
    if visible then char :: shown next rest else shown next rest

/-- What a terminal shows of a text. -/
def strip (text : String) : String :=
  String.ofList (shown .text text.toList)

end RippleServer.Text.Terminal
