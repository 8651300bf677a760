import AppConfig.Rpc.Shape

/-!
# AppConfig.Rpc.Capability

What a client may say about itself in its introduction. The server makes nothing of it, but what is
there has to have the right form.
-/

namespace AppConfig.Rpc

open Shape (natural32 integer32)

/-- A flag that may be left out. -/
def flag (key : String) : Member := may key .boolean

/-- A record of flags. -/
def flags (name : String) (keys : List String) : Shape := .record name (keys.map flag)

/-- Whether a feature can be registered later. -/
def dynamic : Shape := flags "DynamicRegistrationClientCapabilities" ["dynamicRegistration"]

/-- Whether the client can be asked to start over. -/
def refreshing (name : String) : Shape := flags name ["refreshSupport"]

/-- Properties that can be filled in later. -/
def lazily (name : String) : Shape := .record name [need "properties" (.list .text)]

/-- The formats of documentation. -/
def markupKinds : Shape := .list (.word ["plaintext", "markdown"])

def symbolKinds : Shape := .record "SymbolKindCapability" [may "valueSet" (.list integer32)]

/-! ### The workspace -/

def workspaceEdit : Shape :=
  .record "WorkspaceEditClientCapabilities" [
    flag "documentChanges",
    may "resourceOperations" (.list (.word ["create", "rename", "delete"])),
    may "failureHandling" (.word ["abort", "transactional", "textOnlyTransactional", "undo"]),
    flag "normalizesLineEndings",
    may "changeAnnotationSupport"
      (flags "ChangeAnnotationWorkspaceEditClientCapabilities" ["groupsOnLabel"])]

def workspaceSymbols : Shape :=
  .record "WorkspaceSymbolClientCapabilities" [
    flag "dynamicRegistration", may "symbolKind" symbolKinds, may "tagSupport" .any,
    may "resolveSupport" (lazily "WorkspaceSymbolResolveSupportCapability")]

def workspaceCapabilities : Shape :=
  .record "WorkspaceClientCapabilities" [
    flag "applyEdit",
    may "workspaceEdit" workspaceEdit,
    may "didChangeConfiguration" dynamic,
    may "didChangeWatchedFiles" (flags "DidChangeWatchedFilesClientCapabilities"
      ["dynamicRegistration", "relativePatternSupport"]),
    may "symbol" workspaceSymbols,
    may "executeCommand" dynamic,
    flag "workspaceFolders",
    flag "configuration",
    may "semanticTokens" (refreshing "SemanticTokensWorkspaceClientCapabilities"),
    may "codeLens" (refreshing "CodeLensWorkspaceClientCapabilities"),
    may "fileOperations" (flags "WorkspaceFileOperationsClientCapabilities"
      ["dynamicRegistration", "didCreate", "willCreate", "didRename", "willRename", "didDelete",
        "willDelete"]),
    may "inlineValue" (refreshing "InlineValueWorkspaceClientCapabilities"),
    may "inlayHint" (refreshing "InlayHintWorkspaceClientCapabilities"),
    may "diagnostic" (refreshing "DiagnosticWorkspaceClientCapabilities")]

/-! ### Documents -/

def completionItems : Shape :=
  .record "CompletionItemCapability" [
    flag "snippetSupport", flag "commitCharactersSupport", may "documentationFormat" markupKinds,
    flag "deprecatedSupport", flag "preselectSupport", may "tagSupport" .any,
    flag "insertReplaceSupport",
    may "resolveSupport" (lazily "CompletionItemCapabilityResolveSupport"),
    may "insertTextModeSupport"
      (.record "InsertTextModeSupport" [need "valueSet" (.list integer32)]),
    flag "labelDetailsSupport"]

def completionCapabilities : Shape :=
  .record "CompletionClientCapabilities" [
    flag "dynamicRegistration",
    may "completionItem" completionItems,
    may "completionItemKind"
      (.record "CompletionItemKindCapability" [may "valueSet" (.list integer32)]),
    flag "contextSupport",
    may "insertTextMode" integer32,
    may "completionList"
      (.record "CompletionListCapability" [may "itemDefaults" (.list .text)])]

def signatureCapabilities : Shape :=
  .record "SignatureHelpClientCapabilities" [
    flag "dynamicRegistration",
    may "signatureInformation" (.record "SignatureInformationSettings" [
      may "documentationFormat" markupKinds,
      may "parameterInformation" (flags "ParameterInformationSettings" ["labelOffsetSupport"]),
      flag "activeParameterSupport"]),
    flag "contextSupport"]

def symbolCapabilities : Shape :=
  .record "DocumentSymbolClientCapabilities" [
    flag "dynamicRegistration", may "symbolKind" symbolKinds,
    flag "hierarchicalDocumentSymbolSupport", may "tagSupport" .any]

/-- Links to other places. -/
def links : Shape := flags "GotoCapability" ["dynamicRegistration", "linkSupport"]

def actionCapabilities : Shape :=
  .record "CodeActionClientCapabilities" [
    flag "dynamicRegistration",
    may "codeActionLiteralSupport" (.record "CodeActionLiteralSupport" [
      need "codeActionKind"
        (.record "CodeActionKindLiteralSupport" [need "valueSet" (.list .text)])]),
    flag "isPreferredSupport", flag "disabledSupport", flag "dataSupport",
    may "resolveSupport" (lazily "CodeActionCapabilityResolveSupport"),
    flag "honorsChangeAnnotations"]

def renameCapabilities : Shape :=
  .record "RenameClientCapabilities" [
    flag "dynamicRegistration", flag "prepareSupport",
    may "prepareSupportDefaultBehavior" integer32, flag "honorsChangeAnnotations"]

def diagnosticsCapabilities : Shape :=
  .record "PublishDiagnosticsClientCapabilities" [
    flag "relatedInformation", may "tagSupport" .any, flag "versionSupport",
    flag "codeDescriptionSupport", flag "dataSupport"]

def foldingCapabilities : Shape :=
  .record "FoldingRangeClientCapabilities" [
    flag "dynamicRegistration", may "rangeLimit" natural32, flag "lineFoldingOnly",
    may "foldingRangeKind" (.record "FoldingRangeKindCapability"
      [may "valueSet" (.list (.word ["comment", "imports", "region"]))]),
    may "foldingRange" (flags "FoldingRangeCapability" ["collapsedText"])]

def tokenCapabilities : Shape :=
  .record "SemanticTokensClientCapabilities" [
    flag "dynamicRegistration",
    need "requests" (.record "SemanticTokensClientCapabilitiesRequests" [
      flag "range",
      may "full" (.oneOf "SemanticTokensFullOptions"
        [.boolean, .record "SemanticTokensFullOptions" [flag "delta"]])]),
    need "tokenTypes" (.list .text), need "tokenModifiers" (.list .text),
    need "formats" (.list .text),
    flag "overlappingTokenSupport", flag "multilineTokenSupport", flag "serverCancelSupport",
    flag "augmentsSyntaxTokens"]

def documentCapabilities : Shape :=
  .record "TextDocumentClientCapabilities" [
    may "synchronization" (flags "TextDocumentSyncClientCapabilities"
      ["dynamicRegistration", "willSave", "willSaveWaitUntil", "didSave"]),
    may "completion" completionCapabilities,
    may "hover" (.record "HoverClientCapabilities"
      [flag "dynamicRegistration", may "contentFormat" markupKinds]),
    may "signatureHelp" signatureCapabilities,
    may "references" dynamic,
    may "documentHighlight" dynamic,
    may "documentSymbol" symbolCapabilities,
    may "formatting" dynamic,
    may "rangeFormatting" dynamic,
    may "onTypeFormatting" dynamic,
    may "declaration" links,
    may "definition" links,
    may "typeDefinition" links,
    may "implementation" links,
    may "codeAction" actionCapabilities,
    may "codeLens" dynamic,
    may "documentLink"
      (flags "DocumentLinkClientCapabilities" ["dynamicRegistration", "tooltipSupport"]),
    may "colorProvider" dynamic,
    may "rename" renameCapabilities,
    may "publishDiagnostics" diagnosticsCapabilities,
    may "foldingRange" foldingCapabilities,
    may "selectionRange" (flags "SelectionRangeClientCapabilities" ["dynamicRegistration"]),
    may "linkedEditingRange" dynamic,
    may "callHierarchy" dynamic,
    may "semanticTokens" tokenCapabilities,
    may "moniker" dynamic,
    may "typeHierarchy" dynamic,
    may "inlineValue" dynamic,
    may "inlayHint" (.record "InlayHintClientCapabilities"
      [flag "dynamicRegistration",
        may "resolveSupport" (lazily "InlayHintResolveClientCapabilities")]),
    may "diagnostic"
      (flags "DiagnosticClientCapabilities" ["dynamicRegistration", "relatedDocumentSupport"])]

/-! ### The window, and all else -/

def windowCapabilities : Shape :=
  .record "WindowClientCapabilities" [
    flag "workDoneProgress",
    may "showMessage" (.record "ShowMessageRequestClientCapabilities"
      [may "messageActionItem"
        (flags "MessageActionItemCapabilities" ["additionalPropertiesSupport"])]),
    may "showDocument" (.record "ShowDocumentClientCapabilities" [need "support" .boolean])]

def generalCapabilities : Shape :=
  .record "GeneralClientCapabilities" [
    may "regularExpressions" (.record "RegularExpressionsClientCapabilities"
      [need "engine" .text, may "version" .text]),
    may "markdown" (.record "MarkdownClientCapabilities"
      [need "parser" .text, may "version" .text, may "allowedTags" (.list .text)]),
    may "staleRequestSupport" (.record "StaleRequestSupportClientCapabilities"
      [need "cancel" .boolean, need "retryOnContentModified" (.list .text)]),
    may "positionEncodings" (.list .text)]

def clientCapabilities : Shape :=
  .record "ClientCapabilities" [
    may "workspace" workspaceCapabilities, may "textDocument" documentCapabilities,
    may "window" windowCapabilities, may "general" generalCapabilities,
    may "experimental" .any]

end AppConfig.Rpc
