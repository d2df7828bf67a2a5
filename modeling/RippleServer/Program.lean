/-
This file describes the program as a whole: what the command line leads to, how
the server is set up, and what exit code it ends with. A program that is only
asked for help, or that is given arguments or a log filter it cannot read, ends
before the server starts.
-/

import RippleServer.Log.Filter
import RippleServer.Log.Line
import RippleServer.Module.Disk
import RippleServer.Server

namespace RippleServer

/-- A program that is about to serve a client. -/
structure Program where
  launch : Launch
  filter : Log.Filter
deriving DecidableEq, Repr

namespace Program

/-! ### Starting -/

/-- Why the program does not serve anybody. -/
inductive Stop
  | launch (stop : Launch.Stop)
  | filter (refusal : Log.Directive.Refusal)
deriving DecidableEq, Repr

/-- The exit code of a program that does not serve anybody. A filter that would be cut inside a
character is not even refused: the program breaks off. -/
def Stop.exitCode : Stop → Nat
  | .launch stop => stop.exitCode
  | .filter .malformed => 1
  | .filter .brokenCharacter => 101

/-- What a program that does not serve anybody prints: help and version are its output. -/
def Stop.output : Stop → String
  | .launch (.help name) => (Launch.Stop.help name).message
  | .launch .version => Launch.Stop.version.message
  | _ => ""

/-- What a program that does not serve anybody complains about. -/
def Stop.complaint : Stop → String
  | .launch (.help _) => ""
  | .launch .version => ""
  | .launch stop => stop.message ++ "\n"
  | .filter _ => ""

/-- The program a command line asks for. -/
def ofArguments (arguments : List Bytes) : Except Stop Program :=
  match Launch.ofArguments arguments with
  | .error stop => .error (.launch stop)
  | .ok launch =>
    match Log.Filter.ofText launch.logFilter with
    | .error refusal => .error (.filter refusal)
    | .ok filter => .ok { launch, filter }

/-- The lines the log shows of some events. -/
def logLines (program : Program) (events : List Event) : List String :=
  ((events.filterMap Event.record?).filter program.filter.enables).map
    (·.line program.launch.logFormat)

/-- What is told to the log when the program starts. -/
def announce (program : Program) : Traced Unit := do
  Traced.emit (.starting program.launch.extensionRoot program.launch.clientProcess)
  if !program.launch.stdio then Traced.emit .transportAssumed

/-- The complaint about a working directory whose name is not text, as far as it can be shown. -/
def unreadableDirectory (shown : String) : String :=
  "failed to determine the working directory: working directory '" ++ shown ++
    "' is not valid UTF-8"

/-- The directory relative paths start from. -/
def baseDirectory (workingDirectory : Bytes) : Except String Path :=
  match Text.decode? workingDirectory with
  | some text => .ok ⟨text⟩
  | none => .error (unreadableDirectory (Text.decodeLossy workingDirectory))

/-- The variables the server looks at. -/
def variableNames : List String :=
  [Dependency.compiler.variableName, Dependency.sdk.variableName]

/-- The surroundings of the server. -/
def surroundings (program : Program) (environment : Environment) (base : Path) (disk : Disk) :
    Surroundings where
  loader := (DiskLoader.mk base disk).toLoader
  extensions := .directory program.launch.extensionRoot
  environment := ⟨environment.bindings.filter fun binding => variableNames.contains binding.1⟩

/-! ### Ending -/

/-- The exit code the program ends with; a failure is told to the log. -/
def finish : Except String ExitReason → Traced Nat
  | .ok reason => pure reason.code
  | .error reason => do
    Traced.emit (.stopped reason)
    pure 1

/-- Serves a client whose messages are all there, and gives the exit code. -/
def serve (program : Program) (environment : Environment) (workingDirectory : Bytes) (disk : Disk)
    (input : Bytes) : Traced Nat := do
  program.announce
  match baseDirectory workingDirectory with
  | .error reason => finish (.error reason)
  | .ok base => do
    let (outcome, _) ← Server.run (program.surroundings environment base disk) {} input
    finish (outcome.mapError (·.message))

end Program

end RippleServer
