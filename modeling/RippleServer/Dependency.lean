/-
This file finds the two modules the server cannot work without: the compiler
and the TypeScript SDK. The options of the client come first, the environment
stands in for what they leave out, and the compiler is looked for before the
SDK, so a client that names neither is told about the compiler.
-/

import RippleServer.Environment
import RippleServer.Options
import RippleServer.Path

namespace RippleServer

/-- A module the server cannot work without. -/
inductive Dependency
  | compiler
  | sdk
deriving DecidableEq, Repr

namespace Dependency

/-- The option that names the module. -/
def optionName : Dependency → String
  | .compiler => "initializationOptions.ripplePath"
  | .sdk => "initializationOptions.typescript.tsdk"

/-- The environment variable that names the module when the option does not. -/
def variableName : Dependency → String
  | .compiler => "RIPPLE_COMPILER_PATH"
  | .sdk => "TSDK_PATH"

/-- The path the options give. -/
def option (dependency : Dependency) (options : ClientOptions) : Option String :=
  match dependency with
  | .compiler => options.compilerPath
  | .sdk => options.sdkPath

end Dependency

/-- Errors of the configuration. They last as long as the session. -/
inductive ConfigError
  | missing (dependency : Dependency)
  | malformedOptions (reason : String)
  | missingExtensionRoot
deriving DecidableEq, Repr

/-- The words for a configuration error. -/
def ConfigError.message : ConfigError → String
  | .missing dependency => dependency.optionName ++ " is required"
  | .malformedOptions reason => "initializationOptions is malformed: " ++ reason
  | .missingExtensionRoot => "--extRoot is required to locate the extension modules"

/-- Where a path was taken from. -/
inductive PathSource
  | options
  | environment
deriving DecidableEq, Repr

/-- The name of a source. -/
def PathSource.text : PathSource → String
  | .options => "initializationOptions"
  | .environment => "environment"

/-- A path and where it was taken from. -/
structure LocatedPath where
  path : Path
  source : PathSource
deriving DecidableEq, Repr

/-- The paths of both modules. -/
structure Dependencies where
  compiler : LocatedPath
  sdk : LocatedPath
deriving DecidableEq, Repr

namespace Dependency

/-- Finds one module. -/
def locate (dependency : Dependency) (options : ClientOptions) (environment : Environment) :
    Except ConfigError LocatedPath :=
  match dependency.option options with
  | some text => .ok ⟨⟨text⟩, .options⟩
  | none =>
    match environment.text? dependency.variableName with
    | some text => .ok ⟨⟨text⟩, .environment⟩
    | none => .error (.missing dependency)

end Dependency

/-- Finds both modules, the compiler first. -/
def Dependencies.locate (options : ClientOptions) (environment : Environment) :
    Except ConfigError Dependencies := do
  let compiler ← Dependency.compiler.locate options environment
  let sdk ← Dependency.sdk.locate options environment
  .ok ⟨compiler, sdk⟩

end RippleServer
