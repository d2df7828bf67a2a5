/-
This file writes a text between quotes so that it stays on one line: quotes,
backslashes and the common controls have an escape of their own, every other
character without a picture is spelled by its number, and the rest stands for
itself.
-/

import RippleServer.Text.Unprintable

namespace RippleServer.Text

/-- The small hexadecimal digits of a number, without leading zeros. -/
def hexDigits (number : Nat) : List Char :=
  Nat.toDigits 16 number

/-- How one character is written inside quotes. -/
def quotedChar (char : Char) : List Char :=
  if char = '\x00' then ['\\', '0']
  else if char = '\t' then ['\\', 't']
  else if char = '\r' then ['\\', 'r']
  else if char = '\n' then ['\\', 'n']
  else if char = '"' then ['\\', '"']
  else if char = '\\' then ['\\', '\\']
  else if isUnprintable char then '\\' :: 'u' :: '\x7b' :: (hexDigits char.toNat ++ ['\x7d'])
  else [char]

/-- The text between quotes. -/
def quoted (text : String) : String :=
  String.ofList ('"' :: (text.toList.flatMap quotedChar ++ ['"']))

/-- A list of texts between square brackets, each of them quoted. -/
def quotedList (texts : List String) : String :=
  "[" ++ String.ofList (", ".toList.intercalate (texts.map fun text => (quoted text).toList)) ++ "]"

/-- A text that may be absent, as the logs show it. -/
def quotedOption : Option String → String
  | none => "None"
  | some text => "Some(" ++ quoted text ++ ")"

end RippleServer.Text
