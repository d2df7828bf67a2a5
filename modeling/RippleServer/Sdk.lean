/-
This file loads the TypeScript SDK. The directory of the SDK holds the entry
module; the package it belongs to is described by a manifest in the parent
directory. That manifest counts only if it is the one of TypeScript, and all it
is needed for is to refuse versions that are too old.
-/

import RippleServer.Messages

namespace RippleServer

/-- An SDK that was found. -/
structure Sdk where
  root : Path
  entry : Module
  version : Option String
deriving DecidableEq, Repr

/-- An SDK with the texts of its diagnostics. -/
structure LocalizedSdk where
  sdk : Sdk
  messages : Messages
deriving DecidableEq, Repr

namespace Sdk

/-- The entry module inside the directory of the SDK. -/
def entryName : String := "typescript.js"

/-- The name of the package the SDK belongs to. -/
def packageName : String := "typescript"

/-- The oldest major version that is supported. -/
def oldestMajor : Nat := 4

/-- The major version: the number before the first dot. -/
def major? (version : String) : Option Nat :=
  Text.natural? Text.unsignedBound
    (Text.trim (String.ofList (version.toList.takeWhile (· ≠ '.'))))

/-- The version in a manifest, if it is supported or not known to be too old. -/
def supportedVersion (root : Path) : Option String → Except LoadError (Option String)
  | none => .ok none
  | some version =>
    if (major? version).any (· < oldestMajor) then
      .error (.incompatible root ("TypeScript " ++ version ++ " is not supported; " ++
        Text.natural oldestMajor ++ ".0 or newer is required"))
    else .ok (some version)

/-- Where the manifest of the package stands. -/
def manifestPath? (root : Path) : Option Path :=
  root.parent?.map (·.child "package.json")

/-- The version of the SDK, if its package tells. -/
def readVersion (loader : Loader) (root : Path) : Attempt LoadError (Option String) := do
  match manifestPath? root with
  | none => pure none
  | some path =>
    match ← ExceptT.lift (loader.fetchJson path).run with
    | .error error => do
      Attempt.emit (.manifestUnavailable error)
      pure none
    | .ok value =>
      match Manifest.ofJson value with
      | .error _ => pure none
      | .ok manifest =>
        if manifest.name = some packageName then
          Attempt.ofExcept (supportedVersion root manifest.version)
        else do
          Attempt.emit (.foreignManifest path manifest.name)
          pure none

/-- Loads the SDK in a directory, with the texts for a locale. -/
def load (loader : Loader) (root : Path) (locale : String) : Attempt LoadError LocalizedSdk := do
  let entry ← loader.fetch (root.child entryName)
  let version ← readVersion loader root
  let messages ← ExceptT.lift (Messages.load loader root locale)
  Attempt.emit (.sdkLoaded root version messages.locale)
  pure { sdk := { root, entry, version }, messages }

end Sdk

end RippleServer
