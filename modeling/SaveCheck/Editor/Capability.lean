import SaveCheck.Editor.Piece

/-!
What an editor tells of itself when a session starts. A session makes no use of it, but one that is told
nonsense does not start.

    capabilities   workspace · textDocument · window · general · experimental
-/

namespace SaveCheck.Editor.Shape

/-- Members each of which may be left out. -/
def choices (members : List (String × Shape)) : Shape :=
  record (members.map fun (name, shape) => (name, optional shape))

/-- What may be turned on and off while a session goes on. -/
def dynamic : Shape := choices [("dynamicRegistration", flag)]

/-- Whether the editor can be asked to look again. -/
def refreshing : Shape := choices [("refreshSupport", flag)]

/-- Which properties may be told later. -/
def resolving : Shape := record [("properties", list text)]

/-- Which numbers an editor knows for the kinds of something. -/
def kinds : Shape := choices [("valueSet", list integer)]

/-- Which tags an editor knows; older ones just say whether they do. -/
def tags : Shape := defaulted (optional (either [flag, record [("valueSet", list integer)]]))

/-- Whether something can be linked to where it leads. -/
def linking : Shape := choices [("dynamicRegistration", flag), ("linkSupport", flag)]

/-- What an editor can do with a workspace. -/
def workspaceCapabilities : Shape :=
  record [
    ("applyEdit", optional flag),
    ("workspaceEdit", optional (choices [
      ("documentChanges", flag),
      ("resourceOperations", list (oneOf ["create", "rename", "delete"])),
      ("failureHandling", oneOf ["abort", "transactional", "textOnlyTransactional", "undo"]),
      ("normalizesLineEndings", flag),
      ("changeAnnotationSupport", choices [("groupsOnLabel", flag)])])),
    ("didChangeConfiguration", optional dynamic),
    ("didChangeWatchedFiles", optional (choices [
      ("dynamicRegistration", flag), ("relativePatternSupport", flag)])),
    ("symbol", optional (record [
      ("dynamicRegistration", optional flag),
      ("symbolKind", optional kinds),
      ("tagSupport", tags),
      ("resolveSupport", optional resolving)])),
    ("executeCommand", optional dynamic),
    ("workspaceFolders", optional flag),
    ("configuration", optional flag),
    ("semanticTokens", optional refreshing),
    ("codeLens", optional refreshing),
    ("fileOperations", optional (choices [
      ("dynamicRegistration", flag), ("didCreate", flag), ("willCreate", flag),
      ("didRename", flag), ("willRename", flag), ("didDelete", flag), ("willDelete", flag)])),
    ("inlineValue", optional refreshing),
    ("inlayHint", optional refreshing),
    ("diagnostic", optional refreshing)]

/-- What an editor can do with the items of a completion. -/
def completionItemCapabilities : Shape :=
  record [
    ("snippetSupport", optional flag),
    ("commitCharactersSupport", optional flag),
    ("documentationFormat", optional (list markupKind)),
    ("deprecatedSupport", optional flag),
    ("preselectSupport", optional flag),
    ("tagSupport", tags),
    ("insertReplaceSupport", optional flag),
    ("resolveSupport", optional resolving),
    ("insertTextModeSupport", optional (record [("valueSet", list integer)])),
    ("labelDetailsSupport", optional flag)]

/-- What an editor can do with the tokens of a language. -/
def semanticTokensCapabilities : Shape :=
  record [
    ("dynamicRegistration", optional flag),
    ("requests", record [
      ("range", optional flag), ("full", optional (either [flag, choices [("delta", flag)]]))]),
    ("tokenTypes", list text),
    ("tokenModifiers", list text),
    ("formats", list (oneOf ["relative"])),
    ("overlappingTokenSupport", optional flag),
    ("multilineTokenSupport", optional flag),
    ("serverCancelSupport", optional flag),
    ("augmentsSyntaxTokens", optional flag)]

/-- What an editor can do with a document. -/
def documentCapabilities : Shape :=
  choices [
    ("synchronization", choices [
      ("dynamicRegistration", flag), ("willSave", flag), ("willSaveWaitUntil", flag),
      ("didSave", flag)]),
    ("completion", choices [
      ("dynamicRegistration", flag),
      ("completionItem", completionItemCapabilities),
      ("completionItemKind", kinds),
      ("contextSupport", flag),
      ("insertTextMode", integer),
      ("completionList", choices [("itemDefaults", list text)])]),
    ("hover", choices [("dynamicRegistration", flag), ("contentFormat", list markupKind)]),
    ("signatureHelp", choices [
      ("dynamicRegistration", flag),
      ("signatureInformation", choices [
        ("documentationFormat", list markupKind),
        ("parameterInformation", choices [("labelOffsetSupport", flag)]),
        ("activeParameterSupport", flag)]),
      ("contextSupport", flag)]),
    ("references", dynamic),
    ("documentHighlight", dynamic),
    ("documentSymbol", record [
      ("dynamicRegistration", optional flag),
      ("symbolKind", optional kinds),
      ("hierarchicalDocumentSymbolSupport", optional flag),
      ("tagSupport", tags)]),
    ("formatting", dynamic),
    ("rangeFormatting", dynamic),
    ("onTypeFormatting", dynamic),
    ("declaration", linking),
    ("definition", linking),
    ("typeDefinition", linking),
    ("implementation", linking),
    ("codeAction", choices [
      ("dynamicRegistration", flag),
      ("codeActionLiteralSupport", record [("codeActionKind", record [("valueSet", list text)])]),
      ("isPreferredSupport", flag),
      ("disabledSupport", flag),
      ("dataSupport", flag),
      ("resolveSupport", resolving),
      ("honorsChangeAnnotations", flag)]),
    ("codeLens", dynamic),
    ("documentLink", choices [("dynamicRegistration", flag), ("tooltipSupport", flag)]),
    ("colorProvider", dynamic),
    ("rename", choices [
      ("dynamicRegistration", flag),
      ("prepareSupport", flag),
      ("prepareSupportDefaultBehavior", integer),
      ("honorsChangeAnnotations", flag)]),
    ("publishDiagnostics", record [
      ("relatedInformation", optional flag),
      ("tagSupport", tags),
      ("versionSupport", optional flag),
      ("codeDescriptionSupport", optional flag),
      ("dataSupport", optional flag)]),
    ("foldingRange", choices [
      ("dynamicRegistration", flag),
      ("rangeLimit", uinteger),
      ("lineFoldingOnly", flag),
      ("foldingRangeKind", choices [("valueSet", list (oneOf ["comment", "imports", "region"]))]),
      ("foldingRange", choices [("collapsedText", flag)])]),
    ("selectionRange", dynamic),
    ("linkedEditingRange", dynamic),
    ("callHierarchy", dynamic),
    ("semanticTokens", semanticTokensCapabilities),
    ("moniker", dynamic),
    ("typeHierarchy", dynamic),
    ("inlineValue", dynamic),
    ("inlayHint", choices [("dynamicRegistration", flag), ("resolveSupport", resolving)]),
    ("diagnostic", choices [("dynamicRegistration", flag), ("relatedDocumentSupport", flag)])]

/-- What an editor can do with its window. -/
def windowCapabilities : Shape :=
  choices [
    ("workDoneProgress", flag),
    ("showMessage", choices [
      ("messageActionItem", choices [("additionalPropertiesSupport", flag)])]),
    ("showDocument", record [("support", flag)])]

/-- What an editor can do whatever it works on. -/
def generalCapabilities : Shape :=
  choices [
    ("regularExpressions", record [("engine", text), ("version", optional text)]),
    ("markdown", record [
      ("parser", text), ("version", optional text), ("allowedTags", optional (list text))]),
    ("staleRequestSupport", record [("cancel", flag), ("retryOnContentModified", list text)]),
    ("positionEncodings", list text)]

/-- What an editor can do. -/
def capabilities : Shape :=
  choices [
    ("workspace", workspaceCapabilities),
    ("textDocument", documentCapabilities),
    ("window", windowCapabilities),
    ("general", generalCapabilities),
    ("experimental", any)]

/-- The params of a start. -/
def startParams : List (String × Shape) := [
  ("processId", optional uinteger),
  ("rootPath", optional text),
  ("rootUri", optional url),
  ("initializationOptions", optional any),
  ("capabilities", capabilities),
  ("trace", defaulted (optional (oneOf ["off", "messages", "verbose"]))),
  ("workspaceFolders", optional (list (record [("uri", url), ("name", text)]))),
  ("clientInfo", optional (record [("name", text), ("version", optional text)])),
  ("locale", optional text)]

end SaveCheck.Editor.Shape
