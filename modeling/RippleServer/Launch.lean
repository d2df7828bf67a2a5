/-
This file reads the command line. Arguments are taken from left to right. An
option is given its value in the same argument behind an equals sign, or by the
next argument, and in the second case it is looked at only once the next known
option comes or the arguments end. That is why an argument nobody knows is
reported before anything that is wrong with an option still waiting.
-/

import RippleServer.Log.Format
import RippleServer.Path
import RippleServer.Text.Blank
import RippleServer.Text.Decimal
import RippleServer.Text.Terminal
import RippleServer.Text.Utf8

namespace RippleServer

/-- The name the server gives to clients and on the command line. -/
def serverName : String := "ripple-lsp"

/-- The version of the server. -/
def serverVersion : String := "0.1.0"

/-- What the command line asks for. -/
structure Launch where
  extensionRoot : Option Path := none
  stdio : Bool := false
  clientProcess : Option Nat := none
  logFilter : String := "info"
  logFormat : Log.Format := .compact
deriving DecidableEq, Repr, Inhabited

namespace Launch

/-! ### Options -/

/-- The options that take a value. -/
inductive Valued
  | extensionRoot
  | clientProcess
  | logFilter
  | logFormat
deriving DecidableEq, Repr

/-- The options that stand alone. -/
inductive Switch
  | stdio
  | help
  | version
deriving DecidableEq, Repr

/-- An option of either kind. -/
inductive Name
  | valued (option : Valued)
  | switch (option : Switch)
deriving DecidableEq, Repr

def Valued.name : Valued → String
  | .extensionRoot => "extRoot"
  | .clientProcess => "clientProcessId"
  | .logFilter => "log-filter"
  | .logFormat => "log-format"

def Switch.name : Switch → String
  | .stdio => "stdio"
  | .help => "help"
  | .version => "version"

/-- How messages show an option that takes a value. -/
def Valued.usage : Valued → String
  | .extensionRoot => "--extRoot <PATH>"
  | .clientProcess => "--clientProcessId <PID>"
  | .logFilter => "--log-filter <EXPR>"
  | .logFormat => "--log-format <FORMAT>"

/-- The option with a given long name. -/
def Name.ofLong? (name : Bytes) : Option Name :=
  let valued := [Valued.extensionRoot, .clientProcess, .logFilter, .logFormat]
  let switches := [Switch.stdio, .help, .version]
  match valued.find? fun option => Text.encode option.name == name with
  | some option => some (.valued option)
  | none => (switches.find? fun option => Text.encode option.name == name).map .switch

/-- The option with a given letter. -/
def Switch.ofLetter? (letter : Char) : Option Switch :=
  if letter = 'h' then some .help else if letter = 'V' then some .version else none

/-! ### Reasons to stop -/

/-- Why the command line does not start the server. -/
inductive Stop
  | help (program : String)
  | version
  | unknownArgument (argument : String)
  | missingValue (option : Valued)
  | invalidValue (option : Valued) (value reason : String)
  | repeated (usage : String)
  | unexpectedValue (option : Switch) (value : String)
  | invalidUtf8
deriving DecidableEq, Repr

/-- The text that explains the options. -/
def helpText (program : String) : String :=
  "Language server for Ripple source files\n\nUsage: " ++ program ++ " [OPTIONS]\n\nOptions:\n" ++
  "      --extRoot <PATH>         Directory holding the extension's `language.js` and `ts.js` " ++
  "modules\n" ++
  "      --stdio                  Communicate over stdio (the only supported transport)\n" ++
  "      --clientProcessId <PID>  Process id of the editor that launched the server\n" ++
  "      --log-filter <EXPR>      `tracing` filter expression applied to stderr logging " ++
  "[default: info]\n" ++
  "      --log-format <FORMAT>    Log output format [default: compact]\n" ++
  "  -h, --help                   Print help\n" ++
  "  -V, --version                Print version\n"

/-- What is printed, before it is cut to a line. What the user wrote is shown the way a terminal
would show it. -/
def Stop.text : Stop → String
  | .help program => helpText (Text.Terminal.strip program)
  | .version => serverName ++ " " ++ serverVersion ++ "\n"
  | .unknownArgument argument =>
    "error: unexpected argument '" ++ Text.Terminal.strip argument ++ "' found"
  | .missingValue option =>
    "error: a value is required for '" ++ option.usage ++ "' but none was supplied"
  | .invalidValue option value reason =>
    "error: invalid value '" ++ Text.Terminal.strip value ++ "' for '" ++ option.usage ++ "': " ++
      reason
  | .repeated usage => "error: the argument '" ++ usage ++ "' cannot be used multiple times"
  | .unexpectedValue option value =>
    "error: unexpected value '" ++ Text.Terminal.strip value ++ "' for '--" ++ option.name ++
      "' found; no more were expected"
  | .invalidUtf8 => "error: invalid UTF-8 was detected in one or more arguments"

/-- What is printed: the whole text for help and version, one line for an error. -/
def Stop.message : Stop → String
  | .help program => (Stop.help program).text
  | .version => Stop.version.text
  | stop => Text.firstLine stop.text

/-- Help and version are no failure. -/
def Stop.exitCode : Stop → Nat
  | .help _ => 0
  | .version => 0
  | _ => 2

/-! ### Reading -/

/-- The options read so far. -/
structure Progress where
  launch : Launch := {}
  /-- The options that have been given a value or switched on. -/
  given : List String := []
  /-- An option that still waits to be looked at, with its value if it has one. -/
  pending : Option (Valued × Option Bytes) := none

/-- The process number a text spells. -/
def processNumber (option : Valued) (text : String) : Except Stop Nat :=
  match Text.readInteger Text.signedBound text with
  | .error fault => .error (.invalidValue option text fault.message)
  | .ok value =>
    if 0 ≤ value ∧ value ≤ 4294967295 then .ok value.toNat
    else .error (.invalidValue option text (Text.integer value ++ " is not in 0..=4294967295"))

/-- Looks at an option and its value. -/
def Progress.assign (progress : Progress) (option : Valued) (value : Option Bytes) :
    Except Stop Progress := do
  let value ← match value with
    | some value => Except.ok value
    | none => .error (.missingValue option)
  if progress.given.contains option.name then .error (.repeated option.usage)
  let text ← match Text.decode? value with
    | some text => Except.ok text
    | none => .error .invalidUtf8
  let launch ← match option with
    | .extensionRoot => Except.ok { progress.launch with extensionRoot := some ⟨text⟩ }
    | .clientProcess => do
      let number ← processNumber option text
      .ok { progress.launch with clientProcess := some number }
    | .logFilter => .ok { progress.launch with logFilter := text }
    | .logFormat =>
      match Log.Format.ofText? text with
      | some format => .ok { progress.launch with logFormat := format }
      | none => .error (.invalidValue option text Log.Format.unknownMessage)
  .ok { progress with launch, given := option.name :: progress.given }

/-- Looks at the option that waits, if there is one. -/
def Progress.resolve (progress : Progress) : Except Stop Progress :=
  match progress.pending with
  | none => .ok progress
  | some (option, value) => { progress with pending := none }.assign option value

/-- Switches an option on. -/
def Progress.switchOn (program : String) (progress : Progress) (option : Switch) :
    Except Stop Progress := do
  let progress ← progress.resolve
  match option with
  | .help => .error (.help program)
  | .version => .error .version
  | .stdio =>
    if progress.given.contains option.name then .error (.repeated ("--" ++ option.name))
    else
      .ok { progress with
        launch := { progress.launch with stdio := true }
        given := option.name :: progress.given }

/-- The parts of an argument before and behind its first equals sign. -/
def cutValue (argument : Bytes) : Bytes × Option Bytes :=
  match argument.span (· ≠ 0x3D) with
  | (name, []) => (name, none)
  | (name, _ :: value) => (name, some value)

/-- Reads an argument that begins with two dashes, which are not part of what is given here. -/
def Progress.long (program : String) (progress : Progress) (argument : Bytes) :
    Except Stop Progress :=
  let (name, value) := cutValue argument
  match Name.ofLong? name with
  | none => .error (.unknownArgument ("--" ++ Text.decodeLossy name))
  | some (.switch option) =>
    match value with
    | some value => .error (.unexpectedValue option (Text.decodeLossy value))
    | none => progress.switchOn program option
  | some (.valued option) => do
    let progress ← progress.resolve
    match value with
    | some value => progress.assign option (some value)
    | none => .ok { progress with pending := some (option, none) }

/-- Reads an argument that begins with one dash, which is not part of what is given here. The
letters known all end the reading, so only the first one matters. -/
def Progress.short (program : String) (progress : Progress) (argument : Bytes) :
    Except Stop Progress :=
  match Text.decodeChar? argument with
  | none => .error (.unknownArgument ("-" ++ Text.decodeLossy argument))
  | some (letter, _) =>
    match Switch.ofLetter? letter with
    | some option => progress.switchOn program option
    | none => .error (.unknownArgument ("-" ++ String.singleton letter))

/-- Reads the arguments behind the program's name. -/
def Progress.arguments (program : String) : Progress → List Bytes → Except Stop Progress
  | progress, [] => progress.resolve
  | progress, argument :: rest =>
    match argument with
    | [0x2D, 0x2D] =>
      match rest with
      | [] => progress.resolve
      | first :: _ => .error (.unknownArgument (Text.decodeLossy first))
    | 0x2D :: 0x2D :: name => do
      let progress ← progress.long program name
      progress.arguments program rest
    | 0x2D :: letter :: letters => do
      let progress ← progress.short program (letter :: letters)
      progress.arguments program rest
    | value =>
      match progress.pending with
      | some (option, none) =>
        { progress with pending := some (option, some value) }.arguments program rest
      | _ => .error (.unknownArgument (Text.decodeLossy value))

/-- The bytes between the slashes of a program's name. -/
def nameParts : Bytes → List Bytes
  | [] => [[]]
  | byte :: rest =>
    if byte = 0x2F then [] :: nameParts rest
    else
      match nameParts rest with
      | [] => [[byte]]
      | part :: parts => (byte :: part) :: parts

/-- What the help text calls the program: the last part of the name it was started by. -/
def programName (argument : Bytes) : String :=
  let parts := (nameParts argument).reverse.dropWhile fun part => part == [] || part == [0x2E]
  match parts.head? with
  | none => serverName
  | some part =>
    if part = [0x2E, 0x2E] then serverName else (Text.decode? part).getD serverName

/-- Reads a whole command line, of which the first argument is the program's name. -/
def ofArguments : List Bytes → Except Stop Launch
  | [] => .ok {}
  | program :: arguments => do
    let progress ← Progress.arguments (programName program) {} arguments
    .ok progress.launch

end Launch

end RippleServer
