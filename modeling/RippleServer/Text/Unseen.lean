/-
This file goes through texts and passes on those that did not come up before.
The loop keeps what it has seen, so a text is passed on at its first place and
not again.
-/

namespace RippleServer.Text

/-- The texts among those given that were not seen before, each of them once. -/
def unseen (seen : List String) : List String → List String
  | [] => []
  | text :: rest =>
    if seen.contains text then unseen seen rest else text :: unseen (text :: seen) rest

end RippleServer.Text
