/-
This file takes values apart. Each function asks for a value of one shape and
names the problem when it finds another. A record is given as an object, whose
members are looked at in the order of their keys, or as an array of its fields
in their own order; members with unknown keys are passed over.
-/

import RippleServer.Json.Problem

namespace RippleServer.Json

/-- The outcome of taking a value apart. -/
abbrev Decoded := Except Problem

/-! ### Scalars and lists -/

def asText : Json → Decoded String
  | .str text => .ok text
  | other => .error (.wrongType other.found "a string")

def asBool : Json → Decoded Bool
  | .bool value => .ok value
  | other => .error (.wrongType other.found "a boolean")

/-- A whole number between the two bounds. -/
def asIntegerWithin (least greatest : Int) (expected : String) : Json → Decoded Int
  | .num (.int value) =>
    if least ≤ value ∧ value ≤ greatest then .ok value else .error (.outOfRange value expected)
  | other => .error (.wrongType other.found expected)

/-- An unsigned number of 32 bits. -/
def asUnsigned32 : Json → Decoded Int :=
  asIntegerWithin 0 4294967295 "u32"

/-- A signed number of 32 bits. -/
def asSigned32 : Json → Decoded Int :=
  asIntegerWithin (-2147483648) 2147483647 "i32"

/-- Null stands for nothing. -/
def asOptional {α : Type} (decode : Json → Decoded α) : Json → Decoded (Option α)
  | .null => .ok none
  | value => (decode value).map some

def asList {α : Type} (decode : Json → Decoded α) : Json → Decoded (List α)
  | .arr items => items.mapM decode
  | other => .error (.wrongType other.found "a sequence")

/-- An object whose members are all texts. -/
def asTextTable : Json → Decoded (List (String × String))
  | .obj members => members.mapM fun member => (asText member.2).map fun text => (member.1, text)
  | other => .error (.wrongType other.found "a map")

/-- One of several words, also in the form of an object with the word as its only key. -/
def asWord (known : List String) : Json → Decoded String
  | .str word => if known.contains word then .ok word else .error (.unknownVariant word known)
  | .obj [(word, value)] =>
    if known.contains word then
      match value with
      | .null => .ok word
      | other => .error (.wrongType other.found "unit")
    else .error (.unknownVariant word known)
  | .obj _ => .error (.badText "invalid value: map, expected map with a single key")
  | other => .error (.wrongType other.found "string or map")

/-! ### Records -/

/-- The shape of a record. -/
structure Layout where
  /-- The name messages call the record by. -/
  name : String
  /-- The fields, in the order of the array form. -/
  fields : List String
  /-- Whether fields may be missing at the end of the array form. -/
  defaults : Bool := false
deriving Repr

/-- Gives the items of the array form to the fields, in order. -/
def Layout.foldItems {State : Type} (layout : Layout)
    (field : State → String → Json → Decoded State) :
    Nat → List String → List Json → State → Decoded State
  | _, [], [], state => .ok state
  | done, [], rest, _ => .error (.tooMany (done + rest.length))
  | done, _ :: names, [], state =>
    if layout.defaults then layout.foldItems field done names [] state
    else .error (.tooFew done layout.name layout.fields.length)
  | done, name :: names, item :: items, state => do
    let state ← field state name item
    layout.foldItems field (done + 1) names items state

/-- Gives the known members of an object to their fields, in the order of the keys. -/
def Layout.foldMembers {State : Type} (layout : Layout)
    (field : State → String → Json → Decoded State) :
    List (String × Json) → State → Decoded State
  | [], state => .ok state
  | (key, value) :: rest, state => do
    let state ← if layout.fields.contains key then field state key value else .ok state
    layout.foldMembers field rest state

/-- Reads the fields of a record into a state. -/
def Layout.fold {State : Type} (layout : Layout)
    (field : State → String → Json → Decoded State) (start : State) : Json → Decoded State
  | .obj members => layout.foldMembers field members start
  | .arr items => layout.foldItems field 0 layout.fields items start
  | other => .error (.wrongType other.found ("struct " ++ layout.name))

/-- The value of a field that must be there. -/
def require {α : Type} (name : String) : Option α → Decoded α
  | some value => .ok value
  | none => .error (.missingField name)

end RippleServer.Json
