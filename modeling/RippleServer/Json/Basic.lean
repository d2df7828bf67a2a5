/-
This file defines JSON values. Whole numbers that fit a machine word are kept
exactly and all other numbers as binary fractions, so that a value that went
through the server is written the way it was meant. An object is a list of
members with strictly ascending keys: building one member by member sorts them
and lets the last of several equal keys win.
-/

namespace RippleServer

/-- A JSON number: a whole number between `-2^63` and `2^64 - 1`, or the bits of a binary
fraction of 64 bits. -/
inductive Json.Number
  | int (value : Int)
  | float (bits : UInt64)
deriving DecidableEq, Repr

/-- A JSON value. -/
inductive Json
  | null
  | bool (value : Bool)
  | num (value : Json.Number)
  | str (text : String)
  | arr (items : List Json)
  | obj (members : List (String × Json))
deriving Repr, Inhabited

namespace Json

/-- A whole number as a value. -/
def int (value : Int) : Json :=
  .num (.int value)

/-- A natural number as a value. -/
def nat (value : Nat) : Json :=
  .num (.int value)

/-- A list of texts as a value. -/
def strs (texts : List String) : Json :=
  .arr (texts.map .str)

/-- A text as a value, or null. -/
def strOrNull : Option String → Json
  | none => .null
  | some text => .str text

/-! ### Members -/

/-- Puts a member at its place among members with ascending keys, in place of one with the same
key. -/
def insert (key : String) (value : Json) : List (String × Json) → List (String × Json)
  | [] => [(key, value)]
  | (other, old) :: rest =>
    if key = other then (key, value) :: rest
    else if key < other then (key, value) :: (other, old) :: rest
    else (other, old) :: insert key value rest

/-- The object with the members given, in any order. -/
def object (members : List (String × Json)) : Json :=
  .obj (members.foldl (fun sorted member => insert member.1 member.2 sorted) [])

/-- The value of a member. -/
def member? (key : String) : List (String × Json) → Option Json
  | [] => none
  | (other, value) :: rest => if key = other then some value else member? key rest

/-- The value of a member of an object; other values have no members. -/
def get? (value : Json) (key : String) : Option Json :=
  match value with
  | .obj members => member? key members
  | _ => none

theorem member?_insert_self (key : String) (value : Json) (members : List (String × Json)) :
    member? key (insert key value members) = some value := by
  induction members with
  | nil => simp [insert, member?]
  | cons head rest inductionHypothesis =>
    obtain ⟨other, old⟩ := head
    unfold insert
    by_cases same : key = other
    · simp [same, member?]
    · by_cases before : key < other
      · simp [same, before, member?]
      · simp [same, before, member?, inductionHypothesis]

theorem member?_insert_other {key asked : String} (different : asked ≠ key) (value : Json)
    (members : List (String × Json)) :
    member? asked (insert key value members) = member? asked members := by
  induction members with
  | nil => simp [insert, member?, different]
  | cons head rest inductionHypothesis =>
    obtain ⟨other, old⟩ := head
    unfold insert
    by_cases same : key = other
    · subst same
      simp [member?, different]
    · by_cases before : key < other
      · simp [same, before, member?, different]
      · simp [same, before, member?, inductionHypothesis]

end Json

end RippleServer
