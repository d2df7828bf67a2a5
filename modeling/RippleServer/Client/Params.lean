/-
This file reads the parameters of the messages the server acts on: the request
that opens a session and the notification about an opened document. Everything a
client may say is checked, but only what the server needs is kept: the options,
the locale, the workspace folders and whether the client can be asked to watch
files.
-/

import RippleServer.Client.Capabilities
import RippleServer.Json.Decode
import RippleServer.Rpc.Message
import RippleServer.Uri.Basic

namespace RippleServer

open Json (Decoded Layout)

/-! ### Parts -/

/-- A text that is a URI reference. -/
def Uri.ofJson (value : Json) : Decoded Uri := do
  let text ← Json.asText value
  match Uri.ofText text with
  | .ok uri => .ok uri
  | .error message => .error (.badText message)

/-- The identifier in a value. -/
def Rpc.Id.ofJson (value : Json) : Decoded Rpc.Id :=
  match Rpc.Message.idOfJson? value with
  | some id => .ok id
  | none => .error (.noVariant "NumberOrString")

/-- The value as it is checked, without a result. -/
def checkOptional {α : Type} (decode : Json → Decoded α) (value : Json) : Decoded Unit := do
  let _ ← Json.asOptional decode value
  .ok ()

/-! ### Client capabilities -/

/-- What a client can do about watched files. -/
structure WatchCapabilities where
  dynamicRegistration : Option Bool := none
deriving DecidableEq, Repr

namespace WatchCapabilities

def layout : Layout :=
  { name := "DidChangeWatchedFilesClientCapabilities"
    fields := ["dynamicRegistration", "relativePatternSupport"] }

def ofJson (value : Json) : Decoded WatchCapabilities :=
  layout.fold
    (fun watch name field => do
      let flag ← Json.asOptional Json.asBool field
      .ok (if name = "dynamicRegistration" then { watch with dynamicRegistration := flag }
        else watch))
    {} value

end WatchCapabilities

/-- What a client can do about a workspace. -/
structure WorkspaceCapabilities where
  watching : Option WatchCapabilities := none
deriving DecidableEq, Repr

namespace WorkspaceCapabilities

def layout : Layout :=
  { name := "WorkspaceClientCapabilities"
    fields := ["applyEdit", "workspaceEdit", "didChangeConfiguration", "didChangeWatchedFiles",
      "symbol", "executeCommand", "workspaceFolders", "configuration", "semanticTokens", "codeLens",
      "fileOperations", "inlineValue", "inlayHint", "diagnostic"] }

def field (workspace : WorkspaceCapabilities) (name : String) (value : Json) :
    Decoded WorkspaceCapabilities :=
  if name = "didChangeWatchedFiles" then do
    let watching ← Json.asOptional WatchCapabilities.ofJson value
    .ok { watching }
  else do
    Client.checkField Client.workspaceFields name value
    .ok workspace

def ofJson (value : Json) : Decoded WorkspaceCapabilities :=
  layout.fold field {} value

end WorkspaceCapabilities

/-- What a client can do. -/
structure ClientCapabilities where
  workspace : Option WorkspaceCapabilities := none
deriving DecidableEq, Repr

namespace ClientCapabilities

def layout : Layout :=
  { name := "ClientCapabilities"
    fields := ["workspace", "textDocument", "notebookDocument", "window", "general",
      "experimental"] }

def field (client : ClientCapabilities) (name : String) (value : Json) :
    Decoded ClientCapabilities :=
  if name = "workspace" then do
    let workspace ← Json.asOptional WorkspaceCapabilities.ofJson value
    .ok { workspace }
  else do
    Client.checkField Client.otherFields name value
    .ok client

def ofJson (value : Json) : Decoded ClientCapabilities :=
  layout.fold field {} value

/-- Whether the client can be asked to watch files. -/
def watchesOnRequest (client : ClientCapabilities) : Bool :=
  ((client.workspace.bind (·.watching)).bind (·.dynamicRegistration)).getD false

end ClientCapabilities

/-! ### Opening a session -/

/-- A folder of the client's workspace. -/
structure WorkspaceFolder where
  uri : Uri
  name : String
deriving DecidableEq, Repr

namespace WorkspaceFolder

def layout : Layout :=
  { name := "WorkspaceFolder", fields := ["uri", "name"] }

def ofJson (value : Json) : Decoded WorkspaceFolder := do
  let (uri, name) ← layout.fold
    (fun (draft : Option Uri × Option String) name field =>
      if name = "uri" then do
        let uri ← Uri.ofJson field
        .ok (some uri, draft.2)
      else do
        let text ← Json.asText field
        .ok (draft.1, some text))
    (none, none) value
  let uri ← Json.require "uri" uri
  let name ← Json.require "name" name
  .ok { uri, name }

end WorkspaceFolder

/-- Checks what a client says about itself: a name and perhaps a version. -/
def checkClientInfo (value : Json) : Decoded Unit := do
  let layout : Layout := { name := "ClientInfo", fields := ["name", "version"] }
  let named ← layout.fold
    (fun named name field =>
      if name = "name" then do
        let _ ← Json.asText field
        .ok (some ())
      else do
        checkOptional Json.asText field
        .ok named)
    none value
  Json.require "name" named

/-- What a client says when it opens a session. -/
structure InitializeParams where
  options : Option Json := none
  capabilities : ClientCapabilities := {}
  folders : List WorkspaceFolder := []
  locale : Option String := none

namespace InitializeParams

/-- The parameters seen so far; the capabilities are the only ones that must come. -/
structure Draft where
  params : InitializeParams := {}
  complete : Bool := false

/-- The levels of tracing a client may ask for. -/
def traceLevels : List String := ["off", "messages", "verbose"]

/-- Reads one parameter. Parameters that are not known are passed over. -/
def field (draft : Draft) (name : String) (value : Json) : Decoded Draft :=
  if name = "capabilities" then do
    let capabilities ← ClientCapabilities.ofJson value
    .ok { params := { draft.params with capabilities }, complete := true }
  else if name = "initializationOptions" then
    let options := match value with
      | .null => none
      | other => some other
    .ok { draft with params := { draft.params with options } }
  else if name = "workspaceFolders" then do
    let folders ← Json.asOptional (Json.asList WorkspaceFolder.ofJson) value
    .ok { draft with params := { draft.params with folders := folders.getD [] } }
  else if name = "locale" then do
    let locale ← Json.asOptional Json.asText value
    .ok { draft with params := { draft.params with locale } }
  else do
    if name = "processId" then checkOptional Json.asUnsigned32 value
    else if name = "rootPath" then checkOptional Json.asText value
    else if name = "rootUri" then checkOptional Uri.ofJson value
    else if name = "trace" then checkOptional (Json.asWord traceLevels) value
    else if name = "clientInfo" then checkOptional checkClientInfo value
    .ok draft

/-- Reads all parameters, in the order of their names. -/
def fields : List (String × Json) → Draft → Decoded Draft
  | [], draft => .ok draft
  | (name, value) :: rest, draft => do
    let draft ← field draft name value
    fields rest draft

/-- Reads the parameters. The token for progress is looked at when all else is known to be
right. -/
def ofJson : Json → Decoded InitializeParams
  | .obj members => do
    let draft ← fields members {}
    if draft.complete then
      checkOptional Rpc.Id.ofJson ((Json.member? "workDoneToken" members).getD .null)
      .ok draft.params
    else .error (.missingField "capabilities")
  | other => .error (.wrongType other.found "struct InitializeParams")

end InitializeParams

/-! ### Opening a document -/

/-- What a client says about a document it opened. -/
structure OpenedDocument where
  uri : Uri
  languageId : String
  version : Int
  text : String
deriving DecidableEq, Repr

namespace OpenedDocument

/-- The fields of a document seen so far. -/
structure Draft where
  uri : Option Uri := none
  languageId : Option String := none
  version : Option Int := none
  text : Option String := none

def layout : Layout :=
  { name := "TextDocumentItem", fields := ["uri", "languageId", "version", "text"] }

def field (draft : Draft) (name : String) (value : Json) : Decoded Draft :=
  if name = "uri" then do
    let uri ← Uri.ofJson value
    .ok { draft with uri := some uri }
  else if name = "languageId" then do
    let languageId ← Json.asText value
    .ok { draft with languageId := some languageId }
  else if name = "version" then do
    let version ← Json.asSigned32 value
    .ok { draft with version := some version }
  else do
    let text ← Json.asText value
    .ok { draft with text := some text }

def itemOfJson (value : Json) : Decoded OpenedDocument := do
  let draft ← layout.fold field {} value
  let uri ← Json.require "uri" draft.uri
  let languageId ← Json.require "languageId" draft.languageId
  let version ← Json.require "version" draft.version
  let text ← Json.require "text" draft.text
  .ok { uri, languageId, version, text }

/-- The shape of the parameters around a document. -/
def paramsLayout : Layout :=
  { name := "DidOpenTextDocumentParams", fields := ["textDocument"] }

/-- The document in the parameters of the notification. -/
def ofJson (value : Json) : Decoded OpenedDocument := do
  let document ← paramsLayout.fold
    (fun _ _ field => do
      let document ← itemOfJson field
      .ok (some document))
    none value
  Json.require "textDocument" document

end OpenedDocument

end RippleServer
