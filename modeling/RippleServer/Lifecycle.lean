/-
This file names the states a session passes through, the ways the loop of the
server ends, and the errors a session answers with. A failed handshake is final:
its error names the part that failed and carries the cause.
-/

import RippleServer.Dependency
import RippleServer.Module.Basic
import RippleServer.Plugin.Assembly

namespace RippleServer

/-! ### States -/

/-- Where a session is. -/
inductive SessionState
  | uninitialized
  | resolving
  | loading
  | composing
  | ready
  | failed
deriving DecidableEq, Repr, Inhabited

namespace SessionState

/-- All states, in the order a session can pass through them. -/
def all : List SessionState :=
  [.uninitialized, .resolving, .loading, .composing, .ready, .failed]

/-- The name of a state. -/
def text : SessionState → String
  | .uninitialized => "uninitialized"
  | .resolving => "resolving"
  | .loading => "loading"
  | .composing => "composing"
  | .ready => "ready"
  | .failed => "failed"

end SessionState

/-- Why the loop of the server ended. -/
inductive ExitReason
  | requested
  | withoutShutdown
  | disconnected
deriving DecidableEq, Repr

namespace ExitReason

/-- The exit code of the process. Only an exit that was announced by a shutdown is a success. -/
def code : ExitReason → Nat
  | .requested => 0
  | .withoutShutdown => 1
  | .disconnected => 1

/-- The name of a reason. -/
def text : ExitReason → String
  | .requested => "Requested"
  | .withoutShutdown => "WithoutShutdown"
  | .disconnected => "Disconnected"

end ExitReason

/-! ### Errors -/

/-- A part of the server that is loaded at run time. -/
inductive LoadTarget
  | compiler
  | sdk
  | extensionModule (name : String)
deriving DecidableEq, Repr

/-- The words for a part. -/
def LoadTarget.text : LoadTarget → String
  | .compiler => "Ripple compiler"
  | .sdk => "TypeScript SDK"
  | .extensionModule name => "extension module '" ++ name ++ "'"

/-- The errors of a session. -/
inductive InitializeError
  | configuration (cause : ConfigError)
  | load (target : LoadTarget) (cause : LoadError)
  | composition (cause : CompositionError)
  | alreadyInitialized (state : SessionState)
  | notReady (state : SessionState)
deriving DecidableEq, Repr

/-- The words for an error of a session. -/
def InitializeError.message : InitializeError → String
  | .configuration cause => cause.message
  | .load target cause => "failed to load " ++ target.text ++ ": " ++ cause.message
  | .composition cause => "failed to compose service plugins: " ++ cause.message
  | .alreadyInitialized state =>
    "initialize was already requested; session is " ++ state.text
  | .notReady state => "session is " ++ state.text ++ ", not ready"

end RippleServer
