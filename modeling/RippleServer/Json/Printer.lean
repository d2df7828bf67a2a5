/-
This file writes JSON values compactly, with the members of an object in their
order. Quotes, backslashes and controls are escaped and everything else stands
for itself. The text of a value is a list of characters, and its bytes are that
text in UTF-8.
-/

import RippleServer.Json.Number
import RippleServer.Text.Utf8

namespace RippleServer.Json

/-! ### Strings -/

/-- A small hexadecimal digit. -/
def hexDigit (value : Nat) : Char :=
  if value < 10 then Char.ofNat ('0'.toNat + value) else Char.ofNat ('a'.toNat + value - 10)

/-- How a character is written inside a string. -/
def escapedChar (char : Char) : List Char :=
  if char = '"' then ['\\', '"']
  else if char = '\\' then ['\\', '\\']
  else if char = '\n' then ['\\', 'n']
  else if char = '\r' then ['\\', 'r']
  else if char = '\t' then ['\\', 't']
  else if char = '\x08' then ['\\', 'b']
  else if char = '\x0c' then ['\\', 'f']
  else if char.toNat < 0x20 then
    ['\\', 'u', '0', '0', hexDigit (char.toNat / 16), hexDigit (char.toNat % 16)]
  else [char]

/-- A string between its quotes. -/
def stringChars (text : String) : List Char :=
  '"' :: (text.toList.flatMap escapedChar ++ ['"'])

/-! ### Values -/

mutual

/-- The text of a value. -/
def chars : Json → List Char
  | .null => ['n', 'u', 'l', 'l']
  | .bool true => ['t', 'r', 'u', 'e']
  | .bool false => ['f', 'a', 'l', 's', 'e']
  | .num number => number.chars
  | .str text => stringChars text
  | .arr [] => ['[', ']']
  | .arr (first :: rest) => '[' :: (chars first ++ itemsChars rest)
  | .obj [] => ['\x7b', '\x7d']
  | .obj ((key, value) :: rest) =>
    '\x7b' :: (stringChars key ++ ':' :: (chars value ++ membersChars rest))
termination_by structural value => value

/-- The text of the items that follow another one, up to the closing bracket. -/
def itemsChars : List Json → List Char
  | [] => [']']
  | item :: rest => ',' :: (chars item ++ itemsChars rest)
termination_by structural items => items

/-- The text of the members that follow another one, up to the closing brace. -/
def membersChars : List (String × Json) → List Char
  | [] => ['\x7d']
  | (key, value) :: rest =>
    ',' :: (stringChars key ++ ':' :: (chars value ++ membersChars rest))
termination_by structural members => members

end

/-- The text of a value. -/
def text (value : Json) : String :=
  String.ofList value.chars

/-- The bytes of the text of a value. -/
def bytes (value : Json) : Bytes :=
  Text.encodeChars value.chars

end RippleServer.Json
