import DocSync.Wire.Shape

/-! # What a client can do

The capabilities that a client announces. The server reads them to check them and makes no use of
them, so there is only their shape. A support that is announced by a list of tags may also be
announced by a truth value.
-/

namespace DocSync.Capabilities

section Parts

def record (name : String) (fields : List (Fields → Fields)) : Shape :=
  .record name (fields.foldr (fun f rest => f rest) .nil)

def required (key : String) (shape : Shape) : Fields → Fields := .required key shape

def optional (key : String) (shape : Shape) : Fields → Fields := .optional key shape .dropped

def flag (key : String) : Fields → Fields := optional key .bool

def strings : Shape := .list .string

def codes : Shape := .list .int32

def dynamic : Fields → Fields := flag "dynamicRegistration"

def registration : Shape := record "DynamicRegistrationClientCapabilities" [dynamic]

def refresh (name : String) : Shape := record name [flag "refreshSupport"]

def properties (name : String) : Shape := record name [required "properties" strings]

def tagSupport : Fields → Fields :=
  .optional "tagSupport"
    (.either none .bool (record "TagSupport" [required "valueSet" codes])) .trailing

def symbolKind : Fields → Fields :=
  optional "symbolKind" (record "SymbolKindCapability" [optional "valueSet" codes])

def markup : Shape := .list (.choice ["plaintext", "markdown"])

def goto : Shape := record "GotoCapability" [dynamic, flag "linkSupport"]

end Parts

section Workspace

def workspaceEdit : Shape := record "WorkspaceEditClientCapabilities" [
  flag "documentChanges",
  optional "resourceOperations" (.list (.choice ["create", "rename", "delete"])),
  optional "failureHandling" (.choice ["abort", "transactional", "textOnlyTransactional", "undo"]),
  flag "normalizesLineEndings",
  optional "changeAnnotationSupport"
    (record "ChangeAnnotationWorkspaceEditClientCapabilities" [flag "groupsOnLabel"])]

def workspace : Shape := record "WorkspaceClientCapabilities" [
  flag "applyEdit",
  optional "workspaceEdit" workspaceEdit,
  optional "didChangeConfiguration" registration,
  optional "didChangeWatchedFiles"
    (record "DidChangeWatchedFilesClientCapabilities" [dynamic, flag "relativePatternSupport"]),
  optional "symbol" (record "WorkspaceSymbolClientCapabilities" [
    dynamic, symbolKind, tagSupport,
    optional "resolveSupport" (properties "WorkspaceSymbolResolveSupportCapability")]),
  optional "executeCommand" registration,
  flag "workspaceFolders",
  flag "configuration",
  optional "semanticTokens" (refresh "SemanticTokensWorkspaceClientCapabilities"),
  optional "codeLens" (refresh "CodeLensWorkspaceClientCapabilities"),
  optional "fileOperations" (record "WorkspaceFileOperationsClientCapabilities" [
    dynamic, flag "didCreate", flag "willCreate", flag "didRename", flag "willRename",
    flag "didDelete", flag "willDelete"]),
  optional "inlineValue" (refresh "InlineValueWorkspaceClientCapabilities"),
  optional "inlayHint" (refresh "InlayHintWorkspaceClientCapabilities"),
  optional "diagnostic" (refresh "DiagnosticWorkspaceClientCapabilities")]

end Workspace

section TextDocument

def completionItem : Shape := record "CompletionItemCapability" [
  flag "snippetSupport",
  flag "commitCharactersSupport",
  optional "documentationFormat" markup,
  flag "deprecatedSupport",
  flag "preselectSupport",
  tagSupport,
  flag "insertReplaceSupport",
  optional "resolveSupport" (properties "CompletionItemCapabilityResolveSupport"),
  optional "insertTextModeSupport" (record "InsertTextModeSupport" [required "valueSet" codes]),
  flag "labelDetailsSupport"]

def completion : Shape := record "CompletionClientCapabilities" [
  dynamic,
  optional "completionItem" completionItem,
  optional "completionItemKind"
    (record "CompletionItemKindCapability" [optional "valueSet" codes]),
  flag "contextSupport",
  optional "insertTextMode" .int32,
  optional "completionList" (record "CompletionListCapability" [optional "itemDefaults" strings])]

def signatureHelp : Shape := record "SignatureHelpClientCapabilities" [
  dynamic,
  optional "signatureInformation" (record "SignatureInformationSettings" [
    optional "documentationFormat" markup,
    optional "parameterInformation"
      (record "ParameterInformationSettings" [flag "labelOffsetSupport"]),
    flag "activeParameterSupport"]),
  flag "contextSupport"]

def codeAction : Shape := record "CodeActionClientCapabilities" [
  dynamic,
  optional "codeActionLiteralSupport" (record "CodeActionLiteralSupport" [
    required "codeActionKind"
      (record "CodeActionKindLiteralSupport" [required "valueSet" strings])]),
  flag "isPreferredSupport",
  flag "disabledSupport",
  flag "dataSupport",
  optional "resolveSupport" (properties "CodeActionCapabilityResolveSupport"),
  flag "honorsChangeAnnotations"]

def foldingRange : Shape := record "FoldingRangeClientCapabilities" [
  dynamic,
  optional "rangeLimit" .uint32,
  flag "lineFoldingOnly",
  optional "foldingRangeKind" (record "FoldingRangeKindCapability" [
    optional "valueSet" (.list (.choice ["comment", "imports", "region"]))]),
  optional "foldingRange" (record "FoldingRangeCapability" [flag "collapsedText"])]

def semanticTokens : Shape := record "SemanticTokensClientCapabilities" [
  dynamic,
  required "requests" (record "SemanticTokensClientCapabilitiesRequests" [
    flag "range",
    optional "full" (.either (some "SemanticTokensFullOptions") .bool
      (record "SemanticTokensDelta" [flag "delta"]))]),
  required "tokenTypes" strings,
  required "tokenModifiers" strings,
  required "formats" strings,
  flag "overlappingTokenSupport",
  flag "multilineTokenSupport",
  flag "serverCancelSupport",
  flag "augmentsSyntaxTokens"]

def textDocument : Shape := record "TextDocumentClientCapabilities" [
  optional "synchronization" (record "TextDocumentSyncClientCapabilities" [
    dynamic, flag "willSave", flag "willSaveWaitUntil", flag "didSave"]),
  optional "completion" completion,
  optional "hover"
    (record "HoverClientCapabilities" [dynamic, optional "contentFormat" markup]),
  optional "signatureHelp" signatureHelp,
  optional "references" registration,
  optional "documentHighlight" registration,
  optional "documentSymbol" (record "DocumentSymbolClientCapabilities" [
    dynamic, symbolKind, flag "hierarchicalDocumentSymbolSupport", tagSupport]),
  optional "formatting" registration,
  optional "rangeFormatting" registration,
  optional "onTypeFormatting" registration,
  optional "declaration" goto,
  optional "definition" goto,
  optional "typeDefinition" goto,
  optional "implementation" goto,
  optional "codeAction" codeAction,
  optional "codeLens" registration,
  optional "documentLink"
    (record "DocumentLinkClientCapabilities" [dynamic, flag "tooltipSupport"]),
  optional "colorProvider" registration,
  optional "rename" (record "RenameClientCapabilities" [
    dynamic, flag "prepareSupport", optional "prepareSupportDefaultBehavior" .int32,
    flag "honorsChangeAnnotations"]),
  optional "publishDiagnostics" (record "PublishDiagnosticsClientCapabilities" [
    flag "relatedInformation", tagSupport, flag "versionSupport", flag "codeDescriptionSupport",
    flag "dataSupport"]),
  optional "foldingRange" foldingRange,
  optional "selectionRange" (record "SelectionRangeClientCapabilities" [dynamic]),
  optional "linkedEditingRange" registration,
  optional "callHierarchy" registration,
  optional "semanticTokens" semanticTokens,
  optional "moniker" registration,
  optional "typeHierarchy" registration,
  optional "inlineValue" registration,
  optional "inlayHint" (record "InlayHintClientCapabilities" [
    dynamic, optional "resolveSupport" (properties "InlayHintResolveClientCapabilities")]),
  optional "diagnostic"
    (record "DiagnosticClientCapabilities" [dynamic, flag "relatedDocumentSupport"])]

end TextDocument

def notebookDocument : Shape := record "NotebookDocumentClientCapabilities" [
  required "synchronization" (record "NotebookDocumentSyncClientCapabilities" [
    dynamic, flag "executionSummaryReport"])]

def window : Shape := record "WindowClientCapabilities" [
  flag "workDoneProgress",
  optional "showMessage" (record "ShowMessageRequestClientCapabilities" [
    optional "messageActionItem"
      (record "MessageActionItemCapabilities" [flag "additionalPropertiesSupport"])]),
  optional "showDocument" (record "ShowDocumentClientCapabilities" [required "support" .bool])]

def general : Shape := record "GeneralClientCapabilities" [
  optional "regularExpressions" (record "RegularExpressionsClientCapabilities" [
    required "engine" .string, optional "version" .string]),
  optional "markdown" (record "MarkdownClientCapabilities" [
    required "parser" .string, optional "version" .string, optional "allowedTags" strings]),
  optional "staleRequestSupport" (record "StaleRequestSupportClientCapabilities" [
    required "cancel" .bool, required "retryOnContentModified" strings]),
  optional "positionEncodings" strings]

def shape : Shape := record "ClientCapabilities" [
  optional "workspace" workspace,
  optional "textDocument" textDocument,
  optional "notebookDocument" notebookDocument,
  optional "window" window,
  optional "general" general,
  optional "experimental" .any]

end DocSync.Capabilities
