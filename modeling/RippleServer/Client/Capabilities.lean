/-
This file checks what a client says it can do, apart from the few things the
server keeps. Each part is described by its fields, in the order of its array
form, with the shape each of them must have. Unless said otherwise a field may be
null, and missing from an object.
-/

import RippleServer.Json.Decode

namespace RippleServer.Client

open Json (Decoded)

/-! ### Shapes -/

/-- A check that a value has a certain shape. -/
abbrev Shape := Json → Decoded Unit

/-- The shape of the values a reading accepts. -/
def shapeOf {α : Type} (read : Json → Decoded α) : Shape :=
  fun value => (read value).map fun _ => ()

def flag : Shape := shapeOf Json.asBool

def text : Shape := shapeOf Json.asText

/-- A code for one of several kinds, of which new ones may come up. -/
def code : Shape := shapeOf Json.asSigned32

def count : Shape := shapeOf Json.asUnsigned32

def word (known : List String) : Shape := shapeOf (Json.asWord known)

def list (item : Shape) : Shape := shapeOf (Json.asList item)

def optional (shape : Shape) : Shape := shapeOf (Json.asOptional shape)

/-- A field of a record. -/
structure Field where
  name : String
  shape : Shape
  /-- Whether an object without the field is refused. -/
  required : Bool := false
  /-- Whether the field may be missing from the array form. -/
  omissible : Bool := false

/-- A field that may be null. -/
def field (name : String) (shape : Shape) : Field :=
  { name, shape := optional shape }

/-- A field that must be there. -/
def requiredField (name : String) (shape : Shape) : Field :=
  { name, shape, required := true }

/-- Checks the items of the array form, of which some have been passed. -/
def checkItems (name : String) (size : Nat) : Nat → List Field → List Json → Decoded Unit
  | _, [], [] => .ok ()
  | place, [], rest => .error (.tooMany (place + rest.length))
  | place, field :: fields, [] =>
    if field.omissible then checkItems name size (place + 1) fields []
    else .error (.tooFew place name size)
  | place, field :: fields, item :: items => do
    field.shape item
    checkItems name size (place + 1) fields items

/-- Checks the members of an object, in the order of their keys. -/
def checkMembers (fields : List Field) : List (String × Json) → Decoded Unit
  | [] => .ok ()
  | (key, value) :: rest => do
    match fields.find? fun field => field.name = key with
    | some field => field.shape value
    | none => .ok ()
    checkMembers fields rest

/-- The shape of a record with a name and fields. -/
def record (name : String) (fields : List Field) : Shape
  | .obj members => do
    checkMembers fields members
    match fields.find? fun field => field.required && (Json.member? field.name members).isNone with
    | some field => .error (.missingField field.name)
    | none => .ok ()
  | .arr items => checkItems name fields.length 0 fields items
  | other => .error (.wrongType other.found ("struct " ++ name))

/-! ### Parts that come up more than once -/

def dynamic : Field := field "dynamicRegistration" flag

/-- What only says whether it can be registered later. -/
def registrable : Shape := record "DynamicRegistrationClientCapabilities" [dynamic]

/-- What only says whether it can be asked for again. -/
def refreshable (name : String) : Shape := record name [field "refreshSupport" flag]

/-- A list of the values of one kind that the client knows. -/
def valueSet (name : String) (value : Shape) : Shape := record name [field "valueSet" (list value)]

/-- The properties a client can ask for later. -/
def properties (name : String) : Shape := record name [requiredField "properties" (list text)]

/-- The tags a client knows. Instead of them it may just say whether it knows any. -/
def tagSupport : Field where
  name := "tagSupport"
  shape := fun value =>
    match value with
    | .bool _ => .ok ()
    | value => optional (record "TagSupport" [requiredField "valueSet" (list code)]) value
  omissible := true

def markup : Shape := list (word ["plaintext", "markdown"])

/-! ### The workspace -/

def workspaceEdit : Shape :=
  record "WorkspaceEditClientCapabilities"
    [field "documentChanges" flag,
     field "resourceOperations" (list (word ["create", "rename", "delete"])),
     field "failureHandling"
       (word ["abort", "transactional", "textOnlyTransactional", "undo"]),
     field "normalizesLineEndings" flag,
     field "changeAnnotationSupport"
       (record "ChangeAnnotationWorkspaceEditClientCapabilities" [field "groupsOnLabel" flag])]

def workspaceSymbol : Shape :=
  record "WorkspaceSymbolClientCapabilities"
    [dynamic,
     field "symbolKind" (valueSet "SymbolKindCapability" code),
     tagSupport,
     field "resolveSupport" (properties "WorkspaceSymbolResolveSupportCapability")]

def fileOperations : Shape :=
  record "WorkspaceFileOperationsClientCapabilities"
    [dynamic, field "didCreate" flag, field "willCreate" flag, field "didRename" flag,
     field "willRename" flag, field "didDelete" flag, field "willDelete" flag]

/-- The parts about the workspace, apart from the watching of files. -/
def workspaceFields : List Field :=
  [field "applyEdit" flag,
   field "workspaceEdit" workspaceEdit,
   field "didChangeConfiguration" registrable,
   field "symbol" workspaceSymbol,
   field "executeCommand" registrable,
   field "workspaceFolders" flag,
   field "configuration" flag,
   field "semanticTokens" (refreshable "SemanticTokensWorkspaceClientCapabilities"),
   field "codeLens" (refreshable "CodeLensWorkspaceClientCapabilities"),
   field "fileOperations" fileOperations,
   field "inlineValue" (refreshable "InlineValueWorkspaceClientCapabilities"),
   field "inlayHint" (refreshable "InlayHintWorkspaceClientCapabilities"),
   field "diagnostic" (refreshable "DiagnosticWorkspaceClientCapabilities")]

/-! ### Documents -/

def synchronization : Shape :=
  record "TextDocumentSyncClientCapabilities"
    [dynamic, field "willSave" flag, field "willSaveWaitUntil" flag, field "didSave" flag]

def completionItem : Shape :=
  record "CompletionItemCapability"
    [field "snippetSupport" flag,
     field "commitCharactersSupport" flag,
     field "documentationFormat" markup,
     field "deprecatedSupport" flag,
     field "preselectSupport" flag,
     tagSupport,
     field "insertReplaceSupport" flag,
     field "resolveSupport" (properties "CompletionItemCapabilityResolveSupport"),
     field "insertTextModeSupport"
       (record "InsertTextModeSupport" [requiredField "valueSet" (list code)]),
     field "labelDetailsSupport" flag]

def completion : Shape :=
  record "CompletionClientCapabilities"
    [dynamic,
     field "completionItem" completionItem,
     field "completionItemKind" (valueSet "CompletionItemKindCapability" code),
     field "contextSupport" flag,
     field "insertTextMode" code,
     field "completionList"
       (record "CompletionListCapability" [field "itemDefaults" (list text)])]

def signatureInformation : Shape :=
  record "SignatureInformationSettings"
    [field "documentationFormat" markup,
     field "parameterInformation"
       (record "ParameterInformationSettings" [field "labelOffsetSupport" flag]),
     field "activeParameterSupport" flag]

def signatureHelp : Shape :=
  record "SignatureHelpClientCapabilities"
    [dynamic, field "signatureInformation" signatureInformation, field "contextSupport" flag]

def documentSymbol : Shape :=
  record "DocumentSymbolClientCapabilities"
    [dynamic,
     field "symbolKind" (valueSet "SymbolKindCapability" code),
     field "hierarchicalDocumentSymbolSupport" flag,
     tagSupport]

/-- What a client can do about going to another place. -/
def goto : Shape :=
  record "GotoCapability" [dynamic, field "linkSupport" flag]

def codeAction : Shape :=
  record "CodeActionClientCapabilities"
    [dynamic,
     field "codeActionLiteralSupport"
       (record "CodeActionLiteralSupport"
         [requiredField "codeActionKind"
           (record "CodeActionKindLiteralSupport" [requiredField "valueSet" (list text)])]),
     field "isPreferredSupport" flag,
     field "disabledSupport" flag,
     field "dataSupport" flag,
     field "resolveSupport" (properties "CodeActionCapabilityResolveSupport"),
     field "honorsChangeAnnotations" flag]

def rename : Shape :=
  record "RenameClientCapabilities"
    [dynamic,
     field "prepareSupport" flag,
     field "prepareSupportDefaultBehavior" code,
     field "honorsChangeAnnotations" flag]

def publishDiagnostics : Shape :=
  record "PublishDiagnosticsClientCapabilities"
    [field "relatedInformation" flag,
     tagSupport,
     field "versionSupport" flag,
     field "codeDescriptionSupport" flag,
     field "dataSupport" flag]

def foldingRange : Shape :=
  record "FoldingRangeClientCapabilities"
    [dynamic,
     field "rangeLimit" count,
     field "lineFoldingOnly" flag,
     field "foldingRangeKind"
       (valueSet "FoldingRangeKindCapability" (word ["comment", "imports", "region"])),
     field "foldingRange" (record "FoldingRangeCapability" [field "collapsedText" flag])]

/-- Whether a client asks for all tokens of a document, or also for what changed. This record has
no array form. -/
def fullTokens : Shape
  | .bool _ => .ok ()
  | .obj members =>
    (checkMembers [field "delta" flag] members).mapError fun _ =>
      .noVariant "SemanticTokensFullOptions"
  | _ => .error (.noVariant "SemanticTokensFullOptions")

def semanticTokens : Shape :=
  record "SemanticTokensClientCapabilities"
    [dynamic,
     requiredField "requests"
       (record "SemanticTokensClientCapabilitiesRequests"
         [field "range" flag, field "full" fullTokens]),
     requiredField "tokenTypes" (list text),
     requiredField "tokenModifiers" (list text),
     requiredField "formats" (list (word ["relative"])),
     field "overlappingTokenSupport" flag,
     field "multilineTokenSupport" flag,
     field "serverCancelSupport" flag,
     field "augmentsSyntaxTokens" flag]

def inlayHint : Shape :=
  record "InlayHintClientCapabilities"
    [dynamic, field "resolveSupport" (properties "InlayHintResolveClientCapabilities")]

def textDocument : Shape :=
  record "TextDocumentClientCapabilities"
    [field "synchronization" synchronization,
     field "completion" completion,
     field "hover" (record "HoverClientCapabilities" [dynamic, field "contentFormat" markup]),
     field "signatureHelp" signatureHelp,
     field "references" registrable,
     field "documentHighlight" registrable,
     field "documentSymbol" documentSymbol,
     field "formatting" registrable,
     field "rangeFormatting" registrable,
     field "onTypeFormatting" registrable,
     field "declaration" goto,
     field "definition" goto,
     field "typeDefinition" goto,
     field "implementation" goto,
     field "codeAction" codeAction,
     field "codeLens" registrable,
     field "documentLink"
       (record "DocumentLinkClientCapabilities" [dynamic, field "tooltipSupport" flag]),
     field "colorProvider" registrable,
     field "rename" rename,
     field "publishDiagnostics" publishDiagnostics,
     field "foldingRange" foldingRange,
     field "selectionRange" (record "SelectionRangeClientCapabilities" [dynamic]),
     field "linkedEditingRange" registrable,
     field "callHierarchy" registrable,
     field "semanticTokens" semanticTokens,
     field "moniker" registrable,
     field "typeHierarchy" registrable,
     field "inlineValue" registrable,
     field "inlayHint" inlayHint,
     field "diagnostic"
       (record "DiagnosticClientCapabilities" [dynamic, field "relatedDocumentSupport" flag])]

def notebookDocument : Shape :=
  record "NotebookDocumentClientCapabilities"
    [requiredField "synchronization"
      (record "NotebookDocumentSyncClientCapabilities"
        [dynamic, field "executionSummaryReport" flag])]

/-! ### The window and the rest -/

def window : Shape :=
  record "WindowClientCapabilities"
    [field "workDoneProgress" flag,
     field "showMessage"
       (record "ShowMessageRequestClientCapabilities"
         [field "messageActionItem"
           (record "MessageActionItemCapabilities" [field "additionalPropertiesSupport" flag])]),
     field "showDocument" (record "ShowDocumentClientCapabilities" [requiredField "support" flag])]

def general : Shape :=
  record "GeneralClientCapabilities"
    [field "regularExpressions"
       (record "RegularExpressionsClientCapabilities"
         [requiredField "engine" text, field "version" text]),
     field "markdown"
       (record "MarkdownClientCapabilities"
         [requiredField "parser" text, field "version" text, field "allowedTags" (list text)]),
     field "staleRequestSupport"
       (record "StaleRequestSupportClientCapabilities"
         [requiredField "cancel" flag, requiredField "retryOnContentModified" (list text)]),
     field "positionEncodings" (list text)]

/-- The parts of what a client can do, apart from the workspace. -/
def otherFields : List Field :=
  [field "textDocument" textDocument,
   field "notebookDocument" notebookDocument,
   field "window" window,
   field "general" general]

/-- Checks a field with one of the names listed; others are passed over. -/
def checkField (fields : List Field) (name : String) (value : Json) : Decoded Unit :=
  match fields.find? fun field => field.name = name with
  | some field => field.shape value
  | none => .ok ()

end RippleServer.Client
