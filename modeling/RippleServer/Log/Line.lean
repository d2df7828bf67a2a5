/-
This file writes records as lines. The compact form puts the values behind the
sentence, with strings in quotes; a value called like the sentence itself stands
alone, and characters that could steer a terminal are spelled out in it. The JSON
form is an object with the values beside the sentence. Lines carry no time of
their own.
-/

import RippleServer.Log.Record

namespace RippleServer.Log

/-! ### The compact form -/

/-- The name of the field that holds the sentence of a record. -/
def messageField : String := "message"

/-- How a character of a sentence is written. -/
def spelledChar (char : Char) : List Char :=
  let code := char.toNat
  if code = 0x1B ∨ code = 0x7F then '\\' :: 'x' :: Text.hexDigits code
  else if code = 0x07 ∨ code = 0x08 ∨ code = 0x0C then '\\' :: 'x' :: '0' :: Text.hexDigits code
  else if 0x80 ≤ code ∧ code ≤ 0x9F then
    '\\' :: 'u' :: '\x7b' :: (Text.hexDigits code ++ ['\x7d'])
  else [char]

/-- A sentence, with the characters that could steer a terminal spelled out. -/
def spelled (text : String) : String :=
  String.ofList (text.toList.flatMap spelledChar)

/-- A value as it stands behind an equals sign. -/
def Value.compact : Value → String
  | .shown text => text
  | .string text => Text.quoted text
  | .number value => Text.integer value

/-- A value as it stands alone. -/
def Value.bare : Value → String
  | .shown text => text
  | .string text => text
  | .number value => Text.integer value

/-- A named value. -/
def compactField (field : String × Value) : String :=
  if field.1 = messageField then spelled field.2.bare else field.1 ++ "=" ++ field.2.compact

/-- A record on one line. -/
def Record.compact (record : Record) : String :=
  Text.join " " ((record.level.text ++ " " ++ record.target.text ++ ":") ::
    spelled record.message :: record.fields.map compactField)

/-! ### The JSON form -/

/-- A value in an object. -/
def Value.toJson : Value → Json
  | .shown text => .str text
  | .string text => .str text
  | .number value => .int value

/-- A record as an object, with its members in the order they are written. -/
def Record.toJson (record : Record) : Json :=
  .obj ([("level", .str record.level.text), (messageField, .str record.message)] ++
    record.fields.map (fun field => (field.1, field.2.toJson)) ++
    [("target", .str record.target.text)])

/-- A record in one of the two forms. -/
def Record.line (format : Format) (record : Record) : String :=
  match format with
  | .compact => record.compact
  | .json => record.toJson.text

end RippleServer.Log
