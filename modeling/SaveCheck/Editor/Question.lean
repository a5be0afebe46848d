import SaveCheck.Editor.Piece

/-!
The questions of the editor's protocol, with the shape of what is asked. A session answers none of them;
one that is asked properly is told from one that is not only by how it is refused.

    textDocument/hover   {textDocument, position, workDoneToken}
-/

namespace SaveCheck.Editor.Question

open Shape

/-! ### What is asked of a document -/

/-- A document as a member that says so. -/
def documentMember : List (String × Shape) := [("textDocument", document)]

/-- A range as a member that says so. -/
def rangeMember : List (String × Shape) := [("range", range)]

/-- About a place, with the result in one piece. -/
def atPlace : Shape := named (placed ++ workDone)

/-- About a place, with the result perhaps in parts. -/
def listedAtPlace : Shape := named (placed ++ progress)

/-- About a whole document, with the result perhaps in parts. -/
def listedInDocument : Shape := named (documentMember ++ progress)

/-- Where a name is used, perhaps where it is declared too. -/
def references : Shape :=
  named (placed ++ progress ++ [("context", record [("includeDeclaration", flag)])])

/-- What surrounds each of a list of places. -/
def selections : Shape := named (documentMember ++ progress ++ [("positions", list position)])

/-- The tokens that have changed since an earlier result. -/
def tokenChanges : Shape := named (documentMember ++ progress ++ [("previousResultId", text)])

/-- The tokens of a range. -/
def rangeTokens : Shape := named (documentMember ++ rangeMember ++ progress)

/-- The values to show in a range while a program stands still. -/
def inlineValues : Shape :=
  named (documentMember ++ rangeMember ++ workDone ++ [
    ("context", record [("frameId", integer), ("stoppedLocation", range)])])

/-- The hints to show in a range. -/
def inlayHints : Shape := named (documentMember ++ rangeMember ++ workDone)

/-- How the text at a place may go on. -/
def completion : Shape :=
  named (placed ++ progress ++ [
    ("context", optional (record [("triggerKind", integer), ("triggerCharacter", optional text)]))])

/-- The help on a call that is shown at present. -/
def signatures : Shape :=
  record [
    ("signatures", list (record [
      ("label", text),
      ("documentation", optional documentation),
      ("parameters", optional (list (record [
        ("label", either [text, tuple [uinteger, uinteger]]),
        ("documentation", optional documentation)]))),
      ("activeParameter", optional uinteger)])),
    ("activeSignature", optional uinteger),
    ("activeParameter", optional uinteger)]

/-- The help on the call at a place. -/
def signatureHelp : Shape :=
  named (placed ++ workDone ++ [
    ("context", optional (record [
      ("triggerKind", integer), ("triggerCharacter", optional text), ("isRetrigger", flag),
      ("activeSignatureHelp", optional signatures)]))])

/-- What can be done about a range. -/
def codeActions : Shape :=
  named (documentMember ++ rangeMember ++ progress ++ [
    ("context", record [
      ("diagnostics", list diagnostic), ("only", optional (list text)),
      ("triggerKind", optional integer)])])

/-- How a colour may be written. -/
def colorPresentations : Shape :=
  named (documentMember ++ rangeMember ++ progress ++ [
    ("color", record [("red", number), ("green", number), ("blue", number), ("alpha", number)])])

/-- How a document is laid out; a layout may have options of its own. -/
def layout : Shape :=
  .labelled (spell [
    ("tabSize", uinteger),
    ("insertSpaces", flag),
    ("trimTrailingWhitespace", optional flag),
    ("insertFinalNewline", optional flag),
    ("trimFinalNewlines", optional flag)]) (either [flag, integer, text])

/-- A document is to be laid out. -/
def formatting : Shape := named (documentMember ++ workDone ++ [("options", layout)])

/-- A range is to be laid out. -/
def rangeFormatting : Shape :=
  named (documentMember ++ rangeMember ++ workDone ++ [("options", layout)])

/-- What is around a character is to be laid out after it was typed. -/
def typedFormatting : Shape := named (placed ++ [("ch", text), ("options", layout)])

/-- A name is to become another. -/
def rename : Shape := named (placed ++ workDone ++ [("newName", text)])

/-- What should be changed in a document before it is saved. -/
def beforeSave : Shape := record [("textDocument", document), ("reason", integer)]

/-- The diagnostics of a document, if they are not those of an earlier result. -/
def documentDiagnostics : Shape :=
  named (documentMember ++ progress ++ [
    ("identifier", optional text), ("previousResultId", optional text)])

/-! ### What is asked of a workspace -/

/-- The diagnostics of a workspace, apart from those of earlier results. -/
def workspaceDiagnostics : Shape :=
  named (progress ++ [
    ("identifier", optional text),
    ("previousResultIds", list (record [("uri", url), ("value", text)]))])

/-- The symbols that fit a text. -/
def symbols : Shape := named (progress ++ [("query", text)])

/-- Files are to be made or removed. -/
def files : Shape := record [("files", list (record [("uri", text)]))]

/-- Files are to be moved. -/
def movedFiles : Shape :=
  record [("files", list (record [("oldUri", text), ("newUri", text)]))]

/-- A command is to be done. -/
def execution : Shape :=
  named (workDone ++ [("command", text), ("arguments", defaulted (list any))])

/-! ### What is asked of an earlier answer -/

/-- What lies above or below an item of a hierarchy, in which items are tagged in some way. -/
def hierarchy (tags : Shape) : Shape :=
  named (progress ++ [
    ("item", record [
      ("name", text), ("kind", integer), ("tags", optional tags), ("detail", optional text),
      ("uri", url), ("range", range), ("selectionRange", range), ("data", optional any)])])

/-- Calls to or from something. -/
def calls : Shape := hierarchy (list integer)

/-- Types above or below a type. -/
def types : Shape := hierarchy integer

/-- A link, to be told in full. -/
def documentLink : Shape :=
  record [
    ("range", range), ("target", optional url), ("tooltip", optional text), ("data", optional any)]

/-- A lens, to be told in full. -/
def codeLens : Shape :=
  record [("range", range), ("command", optional command), ("data", optional any)]

/-- A hint, to be told in full. -/
def inlayHint : Shape :=
  record [
    ("position", position),
    ("label", either [text, list (record [
      ("value", text), ("tooltip", optional documentation), ("location", optional location),
      ("command", optional command)])]),
    ("kind", optional integer),
    ("textEdits", optional (list edit)),
    ("tooltip", optional documentation),
    ("paddingLeft", optional flag),
    ("paddingRight", optional flag),
    ("data", optional any)]

/-- An item of a completion, to be told in full. -/
def completionItem : Shape :=
  record [
    ("label", text),
    ("labelDetails", optional (record [("detail", optional text), ("description", optional text)])),
    ("kind", optional integer),
    ("detail", optional text),
    ("documentation", optional documentation),
    ("deprecated", optional flag),
    ("preselect", optional flag),
    ("sortText", optional text),
    ("filterText", optional text),
    ("insertText", optional text),
    ("insertTextFormat", optional integer),
    ("insertTextMode", optional integer),
    ("textEdit", optional (either [
      edit, record [("newText", text), ("insert", range), ("replace", range)]])),
    ("additionalTextEdits", optional (list edit)),
    ("command", optional command),
    ("commitCharacters", optional (list text)),
    ("data", optional any),
    ("tags", optional (list integer))]

/-- Something that can be done, to be told in full. -/
def codeAction : Shape :=
  record [
    ("title", text),
    ("kind", optional text),
    ("diagnostics", optional (list diagnostic)),
    ("edit", optional workspaceEdit),
    ("command", optional command),
    ("isPreferred", optional flag),
    ("disabled", optional (record [("reason", text)])),
    ("data", optional any)]

/-- A symbol, to be told in full. -/
def workspaceSymbol : Shape :=
  record [
    ("name", text),
    ("kind", integer),
    ("tags", optional (list integer)),
    ("containerName", optional text),
    ("location", either [location, record [("uri", url)]]),
    ("data", optional any)]

/-! ### The table -/

/-- The questions with the shape of their params. -/
def table : List (Text × Shape) := spell [
  ("textDocument/willSaveWaitUntil", beforeSave),
  ("textDocument/declaration", listedAtPlace),
  ("textDocument/definition", listedAtPlace),
  ("textDocument/typeDefinition", listedAtPlace),
  ("textDocument/implementation", listedAtPlace),
  ("textDocument/references", references),
  ("textDocument/prepareCallHierarchy", atPlace),
  ("callHierarchy/incomingCalls", calls),
  ("callHierarchy/outgoingCalls", calls),
  ("textDocument/prepareTypeHierarchy", atPlace),
  ("typeHierarchy/supertypes", types),
  ("typeHierarchy/subtypes", types),
  ("textDocument/documentHighlight", listedAtPlace),
  ("textDocument/documentLink", listedInDocument),
  ("documentLink/resolve", documentLink),
  ("textDocument/hover", atPlace),
  ("textDocument/codeLens", listedInDocument),
  ("codeLens/resolve", codeLens),
  ("textDocument/foldingRange", listedInDocument),
  ("textDocument/selectionRange", selections),
  ("textDocument/documentSymbol", listedInDocument),
  ("textDocument/semanticTokens/full", listedInDocument),
  ("textDocument/semanticTokens/full/delta", tokenChanges),
  ("textDocument/semanticTokens/range", rangeTokens),
  ("textDocument/inlineValue", inlineValues),
  ("textDocument/inlayHint", inlayHints),
  ("inlayHint/resolve", inlayHint),
  ("textDocument/moniker", listedAtPlace),
  ("textDocument/completion", completion),
  ("completionItem/resolve", completionItem),
  ("textDocument/diagnostic", documentDiagnostics),
  ("workspace/diagnostic", workspaceDiagnostics),
  ("textDocument/signatureHelp", signatureHelp),
  ("textDocument/codeAction", codeActions),
  ("codeAction/resolve", codeAction),
  ("textDocument/documentColor", listedInDocument),
  ("textDocument/colorPresentation", colorPresentations),
  ("textDocument/formatting", formatting),
  ("textDocument/rangeFormatting", rangeFormatting),
  ("textDocument/onTypeFormatting", typedFormatting),
  ("textDocument/rename", rename),
  ("textDocument/prepareRename", record placed),
  ("textDocument/linkedEditingRange", atPlace),
  ("workspace/symbol", symbols),
  ("workspaceSymbol/resolve", workspaceSymbol),
  ("workspace/willCreateFiles", files),
  ("workspace/willRenameFiles", movedFiles),
  ("workspace/willDeleteFiles", files),
  ("workspace/executeCommand", execution)]

end SaveCheck.Editor.Question
