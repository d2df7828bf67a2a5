/-
This file puts events into words. Most events are told to the log: each of them
has a level, a part of the server it comes from, a sentence and some named
values. The questions to the loader and the messages to the client are not
logged.
-/

import RippleServer.Event
import RippleServer.Launch

namespace RippleServer

namespace Log

/-! ### Records -/

/-- How important a record is, the most important level first. -/
inductive Level
  | error
  | warn
  | info
  | debug
  | trace
deriving DecidableEq, Repr

namespace Level

/-- The name of a level. -/
def text : Level → String
  | .error => "ERROR"
  | .warn => "WARN"
  | .info => "INFO"
  | .debug => "DEBUG"
  | .trace => "TRACE"

/-- How much a log must tell to show the level. -/
def verbosity : Level → Nat
  | .error => 1
  | .warn => 2
  | .info => 3
  | .debug => 4
  | .trace => 5

end Level

/-- The part of the server a record comes from. -/
inductive Target
  | sdk
  | extensions
  | projects
  | watcher
  | session
  | reporter
  | server
  | bootstrap
  | program
deriving DecidableEq, Repr

/-- The name of a part. -/
def Target.text : Target → String
  | .sdk => "ripple-lsp-host::sdk"
  | .extensions => "ripple-lsp-host::extension"
  | .projects => "ripple-lsp-host::project"
  | .watcher => "ripple-lsp-host::watcher"
  | .session => "ripple-lsp-host::session"
  | .reporter => "ripple-lsp-host::reporter"
  | .server => "ripple-lsp::server"
  | .bootstrap => "ripple-lsp::bootstrap"
  | .program => serverName

/-- A value in a record: a text that is shown as it is, a string that is quoted where values are
told apart, or a number. -/
inductive Value
  | shown (text : String)
  | string (text : String)
  | number (value : Int)
deriving DecidableEq, Repr

/-- What one event tells the log. -/
structure Record where
  level : Level
  target : Target
  message : String
  fields : List (String × Value) := []
deriving DecidableEq, Repr

end Log

/-! ### The words for events -/

namespace Event

open Log

/-- The mark in front of reported failures. -/
def reportTag : String := "[Ripple LSP]"

/-- A process number that may be absent, as the log shows it. -/
def shownProcess : Option Nat → String
  | none => "None"
  | some number => "Some(" ++ Text.natural number ++ ")"

/-- What an event tells the log, if it tells it anything. -/
def record? : Event → Option Record
  | .lookup _ => none
  | .sent _ => none
  | .reported report =>
    some ⟨.error, .reporter, reportTag ++ " " ++ report.context ++ ": " ++ report.error.message,
      [("error", .shown report.error.message)]⟩
  | .manifestUnavailable error =>
    some ⟨.debug, .sdk, "TypeScript package manifest unavailable",
      [("error", .shown error.message)]⟩
  | .foreignManifest manifest name =>
    some ⟨.debug, .sdk, "parent manifest is not the TypeScript package",
      [("manifest", .shown manifest.text), ("name", .string (name.getD "unnamed"))]⟩
  | .tableUnreadable error =>
    some ⟨.warn, .sdk, "ignoring unreadable message table", [("error", .shown error.message)]⟩
  | .tableMalformed table problem =>
    some ⟨.warn, .sdk, "ignoring malformed message table",
      [("path", .shown table.text), ("error", .shown problem.message)]⟩
  | .sdkLoaded root version locale =>
    some ⟨.debug, .sdk, "loaded TypeScript SDK",
      [("tsdk", .shown root.text), ("version", .string (version.getD "unknown")),
        ("locale", .string locale)]⟩
  | .extensionsLoaded root =>
    some ⟨.debug, .extensions, "loaded extension modules", [("root", .shown root.text)]⟩
  | .servicePluginsBuilt sdkRoot =>
    some ⟨.debug, .extensions, "building TypeScript service plugins",
      [("sdk", .shown sdkRoot.text)]⟩
  | .projectCreated root =>
    some ⟨.debug, .projects, "creating project", [("root", .shown root.text)]⟩
  | .patternsAlreadyWatched => some ⟨.debug, .watcher, "watch patterns already registered", []⟩
  | .watchRegistered id patterns =>
    some ⟨.debug, .watcher, "registering file watch",
      [("id", .shown id), ("patterns", .shown (Text.quotedList patterns))]⟩
  | .transition source target =>
    some ⟨.debug, .session, "session transition",
      [("from", .shown source.text), ("to", .shown target.text)]⟩
  | .sessionReady plugins compiler sdkRoot =>
    some ⟨.info, .session, "session ready",
      [("plugins", .number plugins), ("ripple", .shown compiler.text),
        ("tsdk", .shown sdkRoot.text)]⟩
  | .watchingUnsupported =>
    some ⟨.debug, .session, "client cannot register file watchers dynamically", []⟩
  | .documentWithoutPath uri =>
    some ⟨.warn, .session, "document has no file path", [("uri", .string uri)]⟩
  | .messageRejected reason =>
    some ⟨.warn, .server, "rejecting message", [("message", .shown reason)]⟩
  | .requestRejected id code reason =>
    some ⟨.warn, .server, "client rejected a server request",
      [("id", .shown (Rpc.Id.shown id)), ("code", .number code), ("message", .shown reason)]⟩
  | .requestAcknowledged id =>
    some ⟨.debug, .server, "client acknowledged request", [("id", .shown (Rpc.Id.shown id))]⟩
  | .initializedIgnored error =>
    some ⟨.warn, .server, "ignoring initialized notification", [("error", .shown error.message)]⟩
  | .openMalformed problem =>
    some ⟨.warn, .server, "malformed didOpen notification", [("error", .shown problem.message)]⟩
  | .documentOpened uri root =>
    some ⟨.debug, .server, "document opened",
      [("uri", .string uri), ("root", .shown root.text)]⟩
  | .openedTooEarly error =>
    some ⟨.warn, .server, "document opened before ready", [("error", .shown error.message)]⟩
  | .notificationIgnored method =>
    some ⟨.debug, .server, "ignoring notification", [("method", .string method)]⟩
  | .connectionClosed => some ⟨.info, .server, "client closed the connection", []⟩
  | .exiting reason => some ⟨.info, .server, "exiting", [("reason", .shown reason.text)]⟩
  | .starting extensionRoot clientProcess =>
    some ⟨.info, .bootstrap, "starting ripple-lsp",
      [("version", .string serverVersion),
        ("ext_root", .shown (Text.quotedOption (extensionRoot.map (·.text)))),
        ("client_process_id", .shown (shownProcess clientProcess))]⟩
  | .transportAssumed =>
    some ⟨.warn, .bootstrap, "--stdio not given; stdio is the only transport", []⟩
  | .stopped reason => some ⟨.error, .program, "ripple-lsp stopped", [("error", .shown reason)]⟩

end Event

end RippleServer
