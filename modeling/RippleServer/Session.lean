/-
This file runs the handshake and keeps the session it leads to. The handshake
resolves the paths of the compiler and the SDK, loads them and the extension,
and composes the plugins; the first step that fails decides the error, and
nothing of what was built before it is kept. A session is opened once: when it
is ready or has failed it stays so.
-/

import RippleServer.Client.Params
import RippleServer.Extension
import RippleServer.Launch
import RippleServer.Plugin.Providers
import RippleServer.Project
import RippleServer.Uri.FilePath
import RippleServer.Watch

namespace RippleServer

/-! ### What the session works with -/

/-- The surroundings of a session. The environment only stands in for paths the options of the
client leave out. -/
structure Surroundings where
  loader : Loader
  extensions : ExtensionSource
  environment : Environment

/-- The modules a handshake loads. -/
structure Loaded where
  compiler : Module
  sdk : LocalizedSdk
  extensions : Extensions

/-- The answer to the request that opened the session: what the server can do, and what it is. -/
structure InitializeResult where
  capabilities : ServerCapabilities
  name : String
  version : String
deriving DecidableEq, Repr

/-- The answer as a value. -/
def InitializeResult.toJson (result : InitializeResult) : Json :=
  Json.object [("capabilities", result.capabilities.toJson),
    ("serverInfo", Json.object [("name", .str result.name), ("version", .str result.version)])]

/-- What a handshake leads to. -/
structure ComposedServer where
  compiler : Module
  sdk : Sdk
  messages : Messages
  languages : List LanguagePlugin
  plugins : PluginList
  initializeResult : InitializeResult
  /-- Whether the client can be asked to watch files. -/
  watchesOnRequest : Bool
  projects : ProjectService
deriving DecidableEq, Repr

namespace ComposedServer

/-- The patterns of all files the server wants to hear about. -/
def watchPatterns (server : ComposedServer) : List String :=
  server.languages.flatMap (·.watchPatterns)

end ComposedServer

/-! ### The handshake -/

namespace Handshake

/-- The locale a client asks for; white space around it does not count. -/
def localeOf (params : InitializeParams) : String :=
  let locale := Text.trim (params.locale.getD "")
  if locale = "" then defaultLocale else locale

/-- The paths of the client's workspace folders, as far as they have one. -/
def foldersOf (params : InitializeParams) : List Path :=
  params.folders.filterMap fun folder => folder.uri.toPath?

/-- Finds the paths of the compiler and the SDK. -/
def resolve (environment : Environment) (params : InitializeParams) :
    Except InitializeError Dependencies :=
  match ClientOptions.ofPayload params.options with
  | .error reason => .error (.configuration (.malformedOptions reason))
  | .ok options =>
    match Dependencies.locate options environment with
    | .error error => .error (.configuration error)
    | .ok dependencies => .ok dependencies

/-- Loads the compiler, the SDK and the extension, in this order. -/
def load (surroundings : Surroundings) (dependencies : Dependencies) (locale : String) :
    Attempt InitializeError Loaded := do
  let loader := surroundings.loader
  let compiler ← (loader.fetch dependencies.compiler.path).mapError (.load .compiler)
  let sdk ← (Sdk.load loader dependencies.sdk.path locale).mapError (.load .sdk)
  let extensions ← surroundings.extensions.load loader
  pure { compiler, sdk, extensions }

/-- Composes the server from what was loaded. -/
def compose (loaded : Loaded) (params : InitializeParams) :
    Attempt InitializeError ComposedServer := do
  let language ← (Attempt.ofExcept (loaded.extensions.languagePlugin loaded.compiler)).mapError
    .composition
  let generic ← (loaded.extensions.servicePlugins loaded.sdk.sdk).mapError .composition
  let plugins ← (Attempt.ofExcept
    (PluginList.aggregate generic loaded.extensions.diagnosticsPlugin)).mapError .composition
  pure {
    compiler := loaded.compiler
    sdk := loaded.sdk.sdk
    messages := loaded.sdk.messages
    languages := [language]
    plugins := plugins
    initializeResult := {
      capabilities := plugins.serverCapabilities
      name := serverName
      version := serverVersion }
    watchesOnRequest := params.capabilities.watchesOnRequest
    projects := {
      sdk := loaded.sdk.sdk
      messages := loaded.sdk.messages
      languages := [language]
      folders := foldersOf params } }

end Handshake

/-! ### Sessions -/

/-- The session of one client. -/
structure Session where
  state : SessionState := .uninitialized
  server : Option ComposedServer := none
  watcher : Watcher := {}
deriving DecidableEq, Repr, Inhabited

namespace Session

/-- The context a failed handshake is reported with. -/
def reportContext : String := "Failed during onInitialize"

/-- Moves the session to a state. -/
def enter (session : Session) (state : SessionState) : Traced Session := do
  Traced.emit (.transition session.state state)
  pure { session with state }

/-- Goes through the three stages of the handshake. The session stays in the stage that ended it,
whether it failed there or came to its end. -/
def compose (surroundings : Surroundings) (session : Session) (params : InitializeParams) :
    Traced (Except InitializeError ComposedServer × Session) := do
  let session ← session.enter .resolving
  match Handshake.resolve surroundings.environment params with
  | .error error => pure (.error error, session)
  | .ok dependencies => do
    let session ← session.enter .loading
    match ← (Handshake.load surroundings dependencies (Handshake.localeOf params)).run with
    | .error error => pure (.error error, session)
    | .ok loaded => do
      let session ← session.enter .composing
      let outcome ← (Handshake.compose loaded params).run
      pure (outcome, session)

/-- Opens the session. Opening it once more is an error and changes nothing. -/
def establish (surroundings : Surroundings) (session : Session) (params : InitializeParams) :
    Traced (Except InitializeError ComposedServer × Session) := do
  if session.state ≠ .uninitialized then
    let error := InitializeError.alreadyInitialized session.state
    Traced.emit (.reported ⟨reportContext, error⟩)
    pure (.error error, session)
  else
    let (outcome, session) ← session.compose surroundings params
    match outcome with
    | .ok server => do
      Traced.emit (.sessionReady server.plugins.plugins.length server.compiler.path server.sdk.root)
      let session ← { session with server := some server }.enter .ready
      pure (.ok server, session)
    | .error error => do
      Traced.emit (.reported ⟨reportContext, error⟩)
      let session ← session.enter .failed
      pure (.error error, session)

/-- The server of a session that is ready. -/
def ready (session : Session) : Except InitializeError ComposedServer :=
  match session.state, session.server with
  | .ready, some server => .ok server
  | state, _ => .error (.notReady state)

/-- The client is ready too: its files are to be watched, if it can be asked to. -/
def initialized (session : Session) :
    Traced (Except InitializeError (Option Registration) × Session) :=
  match session.ready with
  | .error error => pure (.error error, session)
  | .ok server =>
    if server.watchesOnRequest then do
      let (registration, watcher) ← session.watcher.watch server.watchPatterns
      pure (.ok registration, { session with watcher })
    else do
      Traced.emit .watchingUnsupported
      pure (.ok none, session)

/-- The session with the projects changed. -/
def withProjects (session : Session) (server : ComposedServer) (projects : ProjectService) :
    Session :=
  { session with server := some { server with projects } }

/-- The project of a document that was opened. A document without a path has none. -/
def openDocument (session : Session) (uri : Uri) :
    Traced (Except InitializeError (Option Project) × Session) :=
  match session.ready with
  | .error error => pure (.error error, session)
  | .ok server =>
    match uri.toPath? with
    | none => do
      Traced.emit (.documentWithoutPath uri.text)
      pure (.ok none, session)
    | some path => do
      let (project, projects) ← server.projects.projectForDocument path
      pure (.ok (some project), session.withProjects server projects)

end Session

end RippleServer
