import AppConfig.Rpc.Capability

/-!
# AppConfig.Rpc.Method

The methods that the server knows, and the parameters that each takes.
-/

namespace AppConfig.Rpc

open Shape (natural32 integer32)

/-! ### Parts of parameters -/

def position : Shape := .record "Position" [need "line" natural32, need "character" natural32]

def range : Shape := .record "Range" [need "start" position, need "end" position]

def documentRef : Shape := .record "TextDocumentIdentifier" [need "uri" .url]

def documentVersion : Shape :=
  .record "VersionedTextDocumentIdentifier" [need "uri" .url, need "version" integer32]

def documentItem : Shape :=
  .record "TextDocumentItem" [need "uri" .url, need "languageId" .text, need "version" integer32,
    need "text" .text]

def place : List Member := [need "textDocument" documentRef, need "position" position]

/-- A number or a text. -/
def numberOrText : Shape := .oneOf "NumberOrString" [integer32, .text]

def progress : List Member := [may "workDoneToken" numberOrText]

def partialResult : List Member := [may "partialResultToken" numberOrText]

def command : Shape :=
  .record "Command" [need "title" .text, need "command" .text, may "arguments" (.list .any)]

def textEdit : Shape := .record "TextEdit" [need "range" range, need "newText" .text]

def diagnostic : Shape :=
  .record "Diagnostic" [need "range" range, may "severity" integer32, may "code" numberOrText,
    may "codeDescription" (.record "CodeDescription" [need "href" .url]), may "source" .text,
    need "message" .text,
    may "relatedInformation" (.list (.record "DiagnosticRelatedInformation"
      [need "location" (.record "Location" [need "uri" .url, need "range" range]),
        need "message" .text])),
    may "tags" (.list integer32), may "data" .any]

def markup : Shape :=
  .record "MarkupContent" [need "kind" (.word ["plaintext", "markdown"]), need "value" .text]

/-- A text, or one with a format. -/
def documentation (name : String) : Shape := .oneOf name [.text, markup]

def completionItem : Shape :=
  .record "CompletionItem" [need "label" .text,
    may "labelDetails" (.record "CompletionItemLabelDetails"
      [may "detail" .text, may "description" .text]),
    may "kind" integer32, may "detail" .text, may "documentation" (documentation "Documentation"),
    may "deprecated" .boolean, may "preselect" .boolean, may "sortText" .text,
    may "filterText" .text, may "insertText" .text, may "insertTextFormat" integer32,
    may "insertTextMode" integer32,
    may "textEdit" (.oneOf "CompletionTextEdit" [textEdit, .record "InsertReplaceEdit"
      [need "newText" .text, need "insert" range, need "replace" range]]),
    may "additionalTextEdits" (.list textEdit), may "command" command,
    may "commitCharacters" (.list .text), may "data" .any, may "tags" (.list integer32)]

def codeAction : Shape :=
  .record "CodeAction" [need "title" .text, may "kind" .text, may "diagnostics" (.list diagnostic),
    may "edit" .any, may "command" command, may "isPreferred" .boolean,
    may "disabled" (.record "CodeActionDisabled" [need "reason" .text]), may "data" .any]

def inlayHint : Shape :=
  .record "InlayHint" [need "position" position,
    need "label" (.oneOf "InlayHintLabel" [.text, .list (.record "InlayHintLabelPart"
      [need "value" .text, may "tooltip" (documentation "InlayHintLabelPartTooltip"),
        may "location" (.record "Location" [need "uri" .url, need "range" range]),
        may "command" command])]),
    may "kind" integer32, may "textEdits" (.list textEdit),
    may "tooltip" (documentation "InlayHintTooltip"), may "paddingLeft" .boolean,
    may "paddingRight" .boolean, may "data" .any]

def workspaceSymbol : Shape :=
  .record "WorkspaceSymbol" [need "name" .text, need "kind" integer32,
    may "tags" (.list integer32), may "containerName" .text,
    need "location" (.oneOf "OneOf" [.record "Location" [need "uri" .url, need "range" range],
      .record "WorkspaceLocation" [need "uri" .url]]),
    may "data" .any]

def formatting : Shape :=
  .merged "FormattingOptions" [need "tabSize" natural32, need "insertSpaces" .boolean,
    may "trimTrailingWhitespace" .boolean, may "insertFinalNewline" .boolean,
    may "trimFinalNewlines" .boolean] []

/-- Parameters that name a document. -/
def ofDocument (name : String) (members : List Member) : Shape :=
  .merged name (need "textDocument" documentRef :: members) [progress, partialResult]

/-- Parameters that name a place in a document. -/
def ofPlace (name : String) (members : List Member) : Shape :=
  .merged name members [place, progress, partialResult]

/-- Parameters about an item that the server gave before. -/
def ofItem (name item : String) (tags : Shape) : Shape :=
  .merged name [need "item" (.record item [need "name" .text, need "kind" integer32,
    may "tags" tags, may "detail" .text, need "uri" .url, need "range" range,
    need "selectionRange" range, may "data" .any])] [progress, partialResult]

/-- Parameters that list files. -/
def ofFiles (name file : String) (keys : List String) : Shape :=
  .record name [need "files" (.list (.record file (keys.map fun k => need k .text)))]

/-! ### Parameters -/

def initializeParams : Shape :=
  .record "InitializeParams" [
    may "processId" natural32, may "rootPath" .text, may "rootUri" .url,
    may "initializationOptions" .any, need "capabilities" clientCapabilities,
    may "trace" (.word ["off", "messages", "verbose"]),
    may "workspaceFolders" (.list (.record "WorkspaceFolder" [need "uri" .url,
      need "name" .text])),
    may "clientInfo" (.record "ClientInfo" [need "name" .text, may "version" .text]),
    may "locale" .text]

def initializedParams : Shape := .record "InitializedParams" []

def didOpenParams : Shape :=
  .record "DidOpenTextDocumentParams" [need "textDocument" documentItem]

def didChangeParams : Shape :=
  .record "DidChangeTextDocumentParams" [need "textDocument" documentVersion,
    need "contentChanges" (.list (.record "TextDocumentContentChangeEvent"
      [may "range" range, may "rangeLength" natural32, need "text" .text]))]

def didCloseParams : Shape :=
  .record "DidCloseTextDocumentParams" [need "textDocument" documentRef]

def hoverParams : Shape := .merged "HoverParams" [] [place, progress]

def completionParams : Shape :=
  ofPlace "CompletionParams" [may "context" (.record "CompletionContext"
    [need "triggerKind" integer32, may "triggerCharacter" .text])]

/-- Requests that the server knows of but does not answer. -/
def unansweredParams : List (String × Shape) := [
  ("textDocument/willSaveWaitUntil", .record "WillSaveTextDocumentParams"
    [need "textDocument" documentRef, need "reason" integer32]),
  ("textDocument/declaration", ofPlace "GotoDefinitionParams" []),
  ("textDocument/definition", ofPlace "GotoDefinitionParams" []),
  ("textDocument/typeDefinition", ofPlace "GotoDefinitionParams" []),
  ("textDocument/implementation", ofPlace "GotoDefinitionParams" []),
  ("textDocument/references", ofPlace "ReferenceParams"
    [need "context" (.record "ReferenceContext" [need "includeDeclaration" .boolean])]),
  ("textDocument/prepareCallHierarchy", .merged "CallHierarchyPrepareParams" [] [place, progress]),
  ("callHierarchy/incomingCalls", ofItem "CallHierarchyIncomingCallsParams" "CallHierarchyItem"
    (.list integer32)),
  ("callHierarchy/outgoingCalls", ofItem "CallHierarchyOutgoingCallsParams" "CallHierarchyItem"
    (.list integer32)),
  ("textDocument/prepareTypeHierarchy", .merged "TypeHierarchyPrepareParams" [] [place, progress]),
  ("typeHierarchy/supertypes", ofItem "TypeHierarchySupertypesParams" "TypeHierarchyItem" integer32),
  ("typeHierarchy/subtypes", ofItem "TypeHierarchySubtypesParams" "TypeHierarchyItem" integer32),
  ("textDocument/documentHighlight", ofPlace "DocumentHighlightParams" []),
  ("textDocument/documentLink", ofDocument "DocumentLinkParams" []),
  ("documentLink/resolve", .record "DocumentLink" [need "range" range, may "target" .url,
    may "tooltip" .text, may "data" .any]),
  ("textDocument/codeLens", ofDocument "CodeLensParams" []),
  ("codeLens/resolve", .record "CodeLens" [need "range" range, may "command" command, may "data" .any]),
  ("textDocument/foldingRange", ofDocument "FoldingRangeParams" []),
  ("textDocument/selectionRange", ofDocument "SelectionRangeParams"
    [need "positions" (.list position)]),
  ("textDocument/documentSymbol", ofDocument "DocumentSymbolParams" []),
  ("textDocument/semanticTokens/full", ofDocument "SemanticTokensParams" []),
  ("textDocument/semanticTokens/full/delta", ofDocument "SemanticTokensDeltaParams"
    [need "previousResultId" .text]),
  ("textDocument/semanticTokens/range", ofDocument "SemanticTokensRangeParams"
    [need "range" range]),
  ("textDocument/inlineValue", .merged "InlineValueParams"
    [need "textDocument" documentRef, need "range" range, need "context" (.record
      "InlineValueContext" [need "frameId" integer32, need "stoppedLocation" range])] [progress]),
  ("textDocument/inlayHint", .merged "InlayHintParams"
    [need "textDocument" documentRef, need "range" range] [progress]),
  ("inlayHint/resolve", inlayHint),
  ("textDocument/moniker", ofPlace "MonikerParams" []),
  ("completionItem/resolve", completionItem),
  ("textDocument/diagnostic", ofDocument "DocumentDiagnosticParams"
    [may "identifier" .text, may "previousResultId" .text]),
  ("workspace/diagnostic", .merged "WorkspaceDiagnosticParams" [may "identifier" .text,
    need "previousResultIds" (.list (.record "PreviousResultId"
      [need "uri" .url, need "value" .text]))] [progress, partialResult]),
  ("textDocument/signatureHelp", .merged "SignatureHelpParams"
    [may "context" (.record "SignatureHelpContext" [need "triggerKind" integer32,
      may "triggerCharacter" .text, need "isRetrigger" .boolean,
      may "activeSignatureHelp" .any])] [place, progress]),
  ("textDocument/codeAction", ofDocument "CodeActionParams" [need "range" range,
    need "context" (.record "CodeActionContext" [need "diagnostics" (.list diagnostic),
      may "only" (.list .text), may "triggerKind" integer32])]),
  ("codeAction/resolve", codeAction),
  ("textDocument/documentColor", ofDocument "DocumentColorParams" []),
  ("textDocument/colorPresentation", ofDocument "ColorPresentationParams"
    [need "color" (.record "Color" [need "red" .number, need "green" .number,
      need "blue" .number, need "alpha" .number]), need "range" range]),
  ("textDocument/formatting", .merged "DocumentFormattingParams"
    [need "textDocument" documentRef, need "options" formatting] [progress]),
  ("textDocument/rangeFormatting", .merged "DocumentRangeFormattingParams"
    [need "textDocument" documentRef, need "range" range, need "options" formatting] [progress]),
  ("textDocument/onTypeFormatting", .merged "DocumentOnTypeFormattingParams"
    [need "ch" .text, need "options" formatting] [place]),
  ("textDocument/rename", .merged "RenameParams" [need "newName" .text] [place, progress]),
  ("textDocument/prepareRename", .record "TextDocumentPositionParams" place),
  ("textDocument/linkedEditingRange", .merged "LinkedEditingRangeParams" [] [place, progress]),
  ("workspace/symbol", .merged "WorkspaceSymbolParams" [need "query" .text]
    [partialResult, progress]),
  ("workspaceSymbol/resolve", workspaceSymbol),
  ("workspace/willCreateFiles", ofFiles "CreateFilesParams" "FileCreate" ["uri"]),
  ("workspace/willRenameFiles", ofFiles "RenameFilesParams" "FileRename" ["oldUri", "newUri"]),
  ("workspace/willDeleteFiles", ofFiles "DeleteFilesParams" "FileDelete" ["uri"]),
  ("workspace/executeCommand", .merged "ExecuteCommandParams" [need "command" .text,
    maybe "arguments" (.list .any)] [progress])]

/-- Notifications that the server knows of and passes over. -/
def ignoredNames : List String := [
  "textDocument/willSave", "textDocument/didSave", "workspace/didChangeConfiguration",
  "workspace/didChangeWorkspaceFolders", "workspace/didCreateFiles", "workspace/didRenameFiles",
  "workspace/didDeleteFiles", "workspace/didChangeWatchedFiles"]

inductive Method where
  | introduce
  | initialized
  | shutdown
  | exit
  | cancel
  | didOpen
  | didChange
  | didClose
  | hover
  | completion
  | unanswered (params : Shape)
  | passedOver

def methodNames : List (String × Method) := [
  ("initialize", .introduce), ("initialized", .initialized), ("shutdown", .shutdown),
  ("exit", .exit), ("$/cancelRequest", .cancel), ("textDocument/didOpen", .didOpen),
  ("textDocument/didChange", .didChange), ("textDocument/didClose", .didClose),
  ("textDocument/hover", .hover), ("textDocument/completion", .completion)]

/-- The method of a name. -/
def Method.ofName? (name : String) : Option Method :=
  match methodNames.lookup name with
  | some m => some m
  | none =>
    match unansweredParams.lookup name with
    | some shape => some (.unanswered shape)
    | none => if ignoredNames.contains name then some .passedOver else none

end AppConfig.Rpc
