/-
This file asks the client to watch files. A pattern is registered once: each
request covers the patterns that were not registered before, and when there are
none no request is made.
-/

import RippleServer.Event
import RippleServer.Text.Unseen

namespace RippleServer

/-- A request to the client to watch files. -/
structure Registration where
  id : String
  patterns : List String
deriving DecidableEq, Repr

namespace Registration

/-- The method the client is asked to serve. -/
def method : String := "workspace/didChangeWatchedFiles"

/-- The registration as a value. -/
def toJson (registration : Registration) : Json :=
  Json.object [("id", .str registration.id), ("method", .str method),
    ("registerOptions", Json.object [("watchers", .arr (registration.patterns.map fun pattern =>
      Json.object [("globPattern", .str pattern)]))])]

end Registration

/-- The patterns registered so far. -/
structure Watcher where
  /-- The patterns, in the order they were registered. -/
  patterns : List String := []
  /-- How many registrations were made. -/
  registrations : Nat := 0
deriving DecidableEq, Repr, Inhabited

namespace Watcher

/-- The identity of the first registration. -/
def baseId : String := "ripple-lsp/watched-files"

/-- The identity of a registration by its number, counted from one. -/
def registrationId (number : Nat) : String :=
  if number = 1 then baseId else baseId ++ "/" ++ Text.natural number

/-- The patterns among those given that are not registered, each of them once. -/
def fresh (watcher : Watcher) (patterns : List String) : List String :=
  Text.unseen watcher.patterns patterns

/-- Registers the patterns that are not registered yet. -/
def watch (watcher : Watcher) (patterns : List String) :
    Traced (Option Registration × Watcher) :=
  let fresh := watcher.fresh patterns
  if fresh.isEmpty then do
    Traced.emit .patternsAlreadyWatched
    pure (none, watcher)
  else do
    let number := watcher.registrations + 1
    let registration : Registration := { id := registrationId number, patterns := fresh }
    Traced.emit (.watchRegistered registration.id fresh)
    pure (some registration,
      { patterns := watcher.patterns ++ fresh, registrations := number })

/-- The patterns in ascending order. -/
def sorted (watcher : Watcher) : List String :=
  watcher.patterns.mergeSort fun left right => decide (left ≤ right)

end Watcher

end RippleServer
