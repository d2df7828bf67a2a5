/-
This file is the program. It reads frames from standard input, writes frames to
standard output and log lines to standard error, and looks at the disk. What a
message leads to is decided elsewhere, from what is known of the disk: when an
answer depends on a path that has not been looked at, the path is looked at and
the message is handled again.
-/

import RippleServer.Program

namespace RippleServer.Main

/-! ### Standard input -/

/-- Reads bytes up to and with the next line feed, or to the end. -/
partial def readLine (input : IO.FS.Stream) (line : Bytes) : IO Bytes := do
  match (← input.read 1).toList with
  | [] => pure line
  | byte :: _ => if byte = 0x0A then pure (line ++ [byte]) else readLine input (line ++ [byte])

/-- Reads a number of bytes, or fewer at the end. -/
partial def readBody (input : IO.FS.Stream) (length : Nat) (body : Bytes) : IO Bytes := do
  if length ≤ body.length then pure body
  else
    match (← input.read (length - body.length).toUSize).toList with
    | [] => pure body
    | more => readBody input length (body ++ more)

/-- Reads the bytes of one frame, or all that is left if they are not a frame. -/
partial def readFrame (input : IO.FS.Stream) (block : Bytes) : IO Bytes := do
  let line ← readLine input []
  let block := block ++ line
  if line.getLast? ≠ some 0x0A then pure block
  else
    match (Frame.headers block).1 with
    | .ok (some length) => do
      let body ← readBody input length []
      pure (block ++ body)
    | .ok none => readFrame input block
    | .error (.stream .endInHeaders) => readFrame input block
    | .error _ => pure block

/-! ### The disk -/

/-- What the operating system means by one of its numbers, which may come negated. Reading a
directory is an error to it, but here it tells that there is one. -/
def ofOsCode (code : UInt32) (details : String) : Except OsError Node :=
  let code := if 0x80000000 ≤ code then 0 - code else code
  if code = 2 then .error .notFound
  else if code = 20 then .error .notDirectory
  else if code = 21 then .ok .directory
  else if code = 36 then .error .nameTooLong
  else .error (.other (details ++ " (os error " ++ Text.natural code.toNat ++ ")"))

/-- What a failed look at a path tells about it. -/
def ofIoError : IO.Error → Except OsError Node
  | .noFileOrDirectory _ code details => ofOsCode code details
  | .inappropriateType _ code details => ofOsCode code details
  | .invalidArgument _ code details => ofOsCode code details
  | .resourceExhausted _ code details => ofOsCode code details
  | .permissionDenied _ code details => ofOsCode code details
  | .noSuchThing _ code details => ofOsCode code details
  | .otherError code details => ofOsCode code details
  | error => .error (.other (toString error))

/-- Whether something stands at a path, though it may not be read. -/
def leadsSomewhere (path : Path) : IO Bool := do
  try
    let _ ← IO.FS.realPath path.text
    pure true
  catch _ => pure false

/-- What stands at a path that could not be read. Nothing leads on from a file, and if nothing
leads to the path, it is the path that failed. -/
def readClosed (path : Path) (message : String) : IO (Except OsError Node) := do
  if ← leadsSomewhere path then
    try
      let _ ← IO.FS.readBinFile (path.text ++ "/.")
      pure (.ok .directory)
    catch error =>
      match ofIoError error with
      | .error .notDirectory => pure (.ok (.closed message))
      | _ => pure (.ok .directory)
  else pure (.error (.other message))

/-- Looks at a path. -/
def readNode (path : Path) : IO (Except OsError Node) := do
  if path.text.toList.contains '\x00' then pure (.error .nulByte)
  else
    try
      let content ← IO.FS.readBinFile path.text
      pure (.ok (.file content.toList))
    catch error =>
      match ofIoError error with
      | .error (.other message) => readClosed path message
      | node => pure node

/-! ### The loop -/

/-- What the program works with. -/
structure Context where
  program : Program
  environment : Environment
  base : Path

/-- Handles a payload, and looks at the paths of the disk the outcome depends on. -/
partial def settle (context : Context) (server : Server) (payload : Bytes)
    (nodes : List (Path × Except OsError Node)) : IO (Traced (Option ExitReason × Server)) := do
  let disk := Disk.ofNodes nodes
  let surroundings := context.program.surroundings context.environment context.base disk
  let step := server.receive surroundings payload
  let loader : DiskLoader := ⟨context.base, disk⟩
  let unread := (step.lookups.flatMap loader.reads).filter fun path =>
    !nodes.any fun entry => entry.1 == path
  if unread.isEmpty then pure step
  else
    let mut found := nodes
    for path in unread.eraseDups do
      found := (path, ← readNode path) :: found
    settle context server payload found

/-- Writes the messages and log lines of some events. -/
def publish (program : Program) (events : List Event) : IO Unit := do
  let output ← IO.getStdout
  let log ← IO.getStderr
  for event in events do
    for line in program.logLines [event] do
      log.putStrLn line
    if let some message := event.sent? then
      output.write (ByteArray.mk (Frame.encode message.bytes).toArray)
      output.flush

/-- Writes the events of a step and gives its result. -/
def perform {α : Type} (program : Program) (step : Traced α) : IO α := do
  publish program step.events
  pure step.value

/-- Serves the client until the loop ends. -/
partial def loop (context : Context) (server : Server) : IO Nat := do
  let block ← readFrame (← IO.getStdin) []
  match (Frame.receive block).1 with
  | .error error => perform context.program (Program.finish (.error error.message))
  | .ok none => do
    let outcome ← perform context.program (Server.conclude (.ok ()))
    perform context.program (Program.finish (outcome.mapError (·.message)))
  | .ok (some payload) => do
    let (reason, server) ← perform context.program (← settle context server payload [])
    match reason with
    | some reason => perform context.program (Program.finish (.ok reason))
    | none => loop context server

/-- The variables of the process the server looks at. A value that is not text comes with
replacement characters in it, and is left out because it would not count anyway. -/
def readEnvironment : IO Environment := do
  let mut bindings := []
  for name in Program.variableNames do
    if let some value ← IO.getEnv name then
      if !value.toList.contains (Char.ofNat 0xFFFD) then
        bindings := (name, Text.encode value) :: bindings
  pure ⟨bindings⟩

/-- Serves a client. -/
def serve (program : Program) : IO Nat := do
  perform program program.announce
  let environment ← readEnvironment
  let directory ← IO.currentDir
  -- A name that is not text is given with replacement characters, and nothing has that name.
  let base :=
    if ← directory.pathExists then Program.baseDirectory (Text.encode directory.toString)
    else .error (Program.unreadableDirectory directory.toString)
  match base with
  | .error reason => perform program (Program.finish (.error reason))
  | .ok base => loop { program, environment, base } {}

end RippleServer.Main

/-- Runs the program with the arguments of the command line. -/
def main (arguments : List String) : IO UInt32 := do
  match RippleServer.Program.ofArguments
      ((RippleServer.serverName :: arguments).map RippleServer.Text.encode) with
  | .error stop => do
    IO.print stop.output
    IO.eprint stop.complaint
    pure stop.exitCode.toUInt32
  | .ok program => do
    let code ← RippleServer.Main.serve program
    pure code.toUInt32
