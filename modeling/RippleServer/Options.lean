/-
This file reads the options a client sends with its first request. A missing or
null payload gives empty options, an object is read field by field, and any
other payload is refused. A path that is present but empty counts as absent.
-/

import RippleServer.Json.Decode

namespace RippleServer

/-- The options below `typescript`. -/
structure SdkOptions where
  tsdk : Option String := none
deriving DecidableEq, Repr, Inhabited

/-- The options of a client. -/
structure ClientOptions where
  ripplePath : Option String := none
  typescript : Option SdkOptions := none
deriving DecidableEq, Repr, Inhabited

/-- The shape of the options below `typescript`. -/
def SdkOptions.layout : Json.Layout :=
  { name := "TypeScriptOptions", fields := ["tsdk"], defaults := true }

/-- Reads the options below `typescript`. -/
def SdkOptions.ofJson (value : Json) : Json.Decoded SdkOptions :=
  SdkOptions.layout.fold
    (fun options _ field => do
      let tsdk ← Json.asOptional Json.asText field
      .ok { options with tsdk })
    {} value

namespace ClientOptions

/-- The shape of the options. -/
def layout : Json.Layout :=
  { name := "InitializationOptions", fields := ["ripplePath", "typescript"], defaults := true }

/-- Reads one of the two options. -/
def field (options : ClientOptions) (name : String) (value : Json) : Json.Decoded ClientOptions :=
  if name = "ripplePath" then do
    let ripplePath ← Json.asOptional Json.asText value
    .ok { options with ripplePath }
  else do
    let typescript ← Json.asOptional SdkOptions.ofJson value
    .ok { options with typescript }

/-- How a message about a payload of the wrong type calls it. -/
def kind : Json → String
  | .null => "null"
  | .bool _ => "a boolean"
  | .num _ => "a number"
  | .str _ => "a string"
  | .arr _ => "an array"
  | .obj _ => "an object"

/-- The options of a payload, or the reason why it is malformed. -/
def ofPayload : Option Json → Except String ClientOptions
  | none => .ok {}
  | some .null => .ok {}
  | some (.obj members) =>
    match layout.fold field {} (.obj members) with
    | .ok options => .ok options
    | .error problem => .error problem.message
  | some other => .error ("expected an object, found " ++ kind other)

/-- A text that is not empty. -/
def nonEmpty : Option String → Option String
  | some text => if text = "" then none else some text
  | none => none

/-- The path of the compiler, unless it is empty. -/
def compilerPath (options : ClientOptions) : Option String :=
  nonEmpty options.ripplePath

/-- The path of the TypeScript SDK, unless it is empty. -/
def sdkPath (options : ClientOptions) : Option String :=
  nonEmpty (options.typescript.bind (·.tsdk))

end ClientOptions

end RippleServer
