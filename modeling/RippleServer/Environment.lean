/-
This file describes the environment variables the server was started with. They
are taken once, as pairs of a name and bytes, and a later pair replaces an
earlier one of the same name. A variable counts as set only if its value is
text and not empty.
-/

import RippleServer.Text.Utf8

namespace RippleServer

/-- The variables, in the order they were given. -/
structure Environment where
  bindings : List (String × Bytes)
deriving DecidableEq, Repr, Inhabited

namespace Environment

/-- The bytes bound to a name by the last of its pairs. -/
def get? (environment : Environment) (name : String) : Option Bytes :=
  (environment.bindings.reverse.find? fun binding => binding.1 == name).map (·.2)

/-- The text bound to a name, if it is text and not empty. -/
def text? (environment : Environment) (name : String) : Option String :=
  match environment.get? name with
  | none => none
  | some bytes =>
    match Text.decode? bytes with
    | some text => if text = "" then none else some text
    | none => none

end Environment

end RippleServer
