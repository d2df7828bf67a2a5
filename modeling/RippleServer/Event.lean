/-
This file lists everything the server does that can be seen from outside: the
questions it asks its loader, the failures it reports to the operator, the
messages it sends to the client and what it tells the log. A computation is
traced by the list of its events in the order they happen; the views of a trace
pick out one kind of event each, and the trace of two computations in a row is
the concatenation of their traces.
-/

import RippleServer.Lifecycle
import RippleServer.Rpc.Reply

namespace RippleServer

/-! ### Events -/

/-- A failed handshake as the operator hears of it. -/
structure Report where
  context : String
  error : InitializeError
deriving Repr

/-- Something the server did. -/
inductive Event
  /-- The loader was asked for a module or a resource. -/
  | lookup (asked : Lookup)
  /-- A failed handshake was reported to the operator. -/
  | reported (report : Report)
  /-- A message went out to the client. -/
  | sent (message : Json)
  | manifestUnavailable (error : LoadError)
  | foreignManifest (manifest : Path) (name : Option String)
  | tableUnreadable (error : LoadError)
  | tableMalformed (table : Path) (problem : Json.Problem)
  | sdkLoaded (root : Path) (version : Option String) (locale : String)
  | extensionsLoaded (root : Path)
  | servicePluginsBuilt (sdkRoot : Path)
  | projectCreated (root : Path)
  | patternsAlreadyWatched
  | watchRegistered (id : String) (patterns : List String)
  | transition (source target : SessionState)
  | sessionReady (plugins : Nat) (compiler sdkRoot : Path)
  | watchingUnsupported
  | documentWithoutPath (uri : String)
  | messageRejected (reason : String)
  | requestRejected (id : Option Rpc.Id) (code : Int) (reason : String)
  | requestAcknowledged (id : Option Rpc.Id)
  | initializedIgnored (error : InitializeError)
  | openMalformed (problem : Json.Problem)
  | documentOpened (uri : String) (root : Path)
  | openedTooEarly (error : InitializeError)
  | notificationIgnored (method : String)
  | connectionClosed
  | exiting (reason : ExitReason)
  | starting (extensionRoot : Option Path) (clientProcess : Option Nat)
  | transportAssumed
  | stopped (reason : String)
deriving Repr

namespace Event

/-- The question an event asks the loader. -/
def lookup? : Event → Option Lookup
  | .lookup asked => some asked
  | _ => none

/-- The failure an event reports. -/
def reported? : Event → Option Report
  | .reported report => some report
  | _ => none

/-- The message an event sends. -/
def sent? : Event → Option Json
  | .sent message => some message
  | _ => none

/-- The state an event says the session entered. -/
def entered? : Event → Option SessionState
  | .transition _ target => some target
  | _ => none

/-- Whether an event is left to the session and the server. The parts they work with ask the
loader and tell the log what they do, but do not report failures, send messages or move the
session. -/
def isReserved : Event → Bool
  | .reported _ => true
  | .sent _ => true
  | .transition _ _ => true
  | _ => false

end Event

/-! ### Traced computations -/

/-- A result together with the events on the way to it. -/
@[ext]
structure Traced (α : Type) where
  value : α
  events : List Event

namespace Traced

/-- A result without events. -/
def quiet {α : Type} (value : α) : Traced α :=
  ⟨value, []⟩

/-- One computation after the other. -/
def andThen {α β : Type} (first : Traced α) (next : α → Traced β) : Traced β :=
  ⟨(next first.value).value, first.events ++ (next first.value).events⟩

instance : Monad Traced where
  pure := quiet
  bind := andThen

/-- A single event. -/
def emit (event : Event) : Traced Unit :=
  ⟨(), [event]⟩

/-- The questions asked of the loader, in order. -/
def lookups {α : Type} (traced : Traced α) : List Lookup :=
  traced.events.filterMap Event.lookup?

/-- The failures reported, in order. -/
def reports {α : Type} (traced : Traced α) : List Report :=
  traced.events.filterMap Event.reported?

/-- The messages sent, in order. -/
def sent {α : Type} (traced : Traced α) : List Json :=
  traced.events.filterMap Event.sent?

/-- The states the session entered, in order. -/
def entered {α : Type} (traced : Traced α) : List SessionState :=
  traced.events.filterMap Event.entered?

/-- The computation of a part the session works with: no event of it is reserved. -/
def Modest {α : Type} (traced : Traced α) : Prop :=
  ∀ event ∈ traced.events, event.isReserved = false

@[simp] theorem value_pure {α : Type} (value : α) : (pure value : Traced α).value = value := rfl

@[simp] theorem events_pure {α : Type} (value : α) : (pure value : Traced α).events = [] := rfl

@[simp] theorem value_bind {α β : Type} (first : Traced α) (next : α → Traced β) :
    (first >>= next).value = (next first.value).value := rfl

@[simp] theorem events_bind {α β : Type} (first : Traced α) (next : α → Traced β) :
    (first >>= next).events = first.events ++ (next first.value).events := rfl

@[simp] theorem value_map {α β : Type} (change : α → β) (traced : Traced α) :
    (change <$> traced).value = change traced.value := rfl

@[simp] theorem events_map {α β : Type} (change : α → β) (traced : Traced α) :
    (change <$> traced).events = traced.events :=
  List.append_nil _

@[simp] theorem value_emit (event : Event) : (emit event).value = () := rfl

@[simp] theorem events_emit (event : Event) : (emit event).events = [event] := rfl

@[simp] theorem lookups_bind {α β : Type} (first : Traced α) (next : α → Traced β) :
    (first >>= next).lookups = first.lookups ++ (next first.value).lookups := by
  simp [lookups]

@[simp] theorem reports_bind {α β : Type} (first : Traced α) (next : α → Traced β) :
    (first >>= next).reports = first.reports ++ (next first.value).reports := by
  simp [reports]

@[simp] theorem sent_bind {α β : Type} (first : Traced α) (next : α → Traced β) :
    (first >>= next).sent = first.sent ++ (next first.value).sent := by
  simp [sent]

@[simp] theorem entered_bind {α β : Type} (first : Traced α) (next : α → Traced β) :
    (first >>= next).entered = first.entered ++ (next first.value).entered := by
  simp [entered]

theorem modest_pure {α : Type} (value : α) : (pure value : Traced α).Modest := by
  simp [Modest]

theorem modest_emit {event : Event} (free : event.isReserved = false) : (emit event).Modest := by
  simpa [Modest] using free

theorem Modest.map {α β : Type} {traced : Traced α} (modest : traced.Modest) (change : α → β) :
    (change <$> traced).Modest := by
  simpa [Modest] using modest

theorem Modest.bind {α β : Type} {first : Traced α} {next : α → Traced β}
    (before : first.Modest) (behind : ∀ value, (next value).Modest) :
    (first >>= next).Modest := by
  intro event member
  rw [events_bind] at member
  rcases List.mem_append.mp member with early | late
  · exact before event early
  · exact behind first.value event late

instance : LawfulMonad Traced :=
  LawfulMonad.mk' Traced
    (fun traced => by simp [Functor.map, andThen, quiet])
    (fun _ _ => rfl)
    (fun first next last => by simp [bind, andThen])

end Traced

/-- A computation that may fail. The events up to the failure are kept. -/
abbrev Attempt (ε : Type) := ExceptT ε Traced

namespace Attempt

/-- A single event. -/
def emit {ε : Type} (event : Event) : Attempt ε Unit :=
  ExceptT.lift (Traced.emit event)

/-- A result that is already known. -/
def ofExcept {ε α : Type} (result : Except ε α) : Attempt ε α :=
  ExceptT.mk (pure result)

/-- The computation with its error put into the words of another one. -/
def mapError {ε δ α : Type} (change : ε → δ) (attempt : Attempt ε α) : Attempt δ α :=
  ExceptT.adapt change attempt

@[simp] theorem run_emit {ε : Type} (event : Event) :
    (emit event : Attempt ε Unit).run = Except.ok <$> Traced.emit event := rfl

@[simp] theorem run_ofExcept {ε α : Type} (result : Except ε α) :
    (ofExcept result).run = pure result := rfl

@[simp] theorem run_mapError {ε δ α : Type} (change : ε → δ) (attempt : Attempt ε α) :
    (attempt.mapError change).run = Except.mapError change <$> attempt.run := rfl

theorem run_bind_of_ok {ε α β : Type} {attempt : Attempt ε α} {value : α}
    (succeeds : attempt.run.value = .ok value) (next : α → Attempt ε β) :
    (attempt >>= next).run =
      ⟨(next value).run.value, attempt.run.events ++ (next value).run.events⟩ := by
  rw [ExceptT.run_bind]
  ext1 <;> simp [succeeds]

/-- Nothing happens after a failure. -/
theorem run_bind_of_error {ε α β : Type} {attempt : Attempt ε α} {error : ε}
    (fails : attempt.run.value = .error error) (next : α → Attempt ε β) :
    (attempt >>= next).run = ⟨.error error, attempt.run.events⟩ := by
  rw [ExceptT.run_bind]
  ext1 <;> simp [fails]

theorem modest_bind {ε α β : Type} {attempt : Attempt ε α} {next : α → Attempt ε β}
    (before : attempt.run.Modest) (behind : ∀ value, (next value).run.Modest) :
    (attempt >>= next).run.Modest := by
  rw [ExceptT.run_bind]
  refine before.bind fun result => ?_
  cases result with
  | ok value => exact behind value
  | error error => exact Traced.modest_pure _

theorem modest_emit {ε : Type} {event : Event} (free : event.isReserved = false) :
    (emit event : Attempt ε Unit).run.Modest :=
  (Traced.modest_emit free).map _

end Attempt

/-! ### Asking a loader -/

/-- Asks for a module. -/
def Loader.fetch (loader : Loader) (path : Path) : Attempt LoadError Module := do
  Attempt.emit (.lookup (.load path))
  Attempt.ofExcept (loader.load path)

/-- Asks for a resource. -/
def Loader.fetchJson (loader : Loader) (path : Path) : Attempt LoadError Json := do
  Attempt.emit (.lookup (.loadJson path))
  Attempt.ofExcept (loader.loadJson path)

@[simp] theorem Loader.run_fetch (loader : Loader) (path : Path) :
    (loader.fetch path).run = ⟨loader.load path, [.lookup (.load path)]⟩ := rfl

@[simp] theorem Loader.run_fetchJson (loader : Loader) (path : Path) :
    (loader.fetchJson path).run = ⟨loader.loadJson path, [.lookup (.loadJson path)]⟩ := rfl

theorem Loader.fetch_modest (loader : Loader) (path : Path) : (loader.fetch path).run.Modest := by
  simp [Traced.Modest, Event.isReserved]

theorem Loader.fetchJson_modest (loader : Loader) (path : Path) :
    (loader.fetchJson path).run.Modest := by
  simp [Traced.Modest, Event.isReserved]

end RippleServer
