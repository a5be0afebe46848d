import SaveCheck.Editor.Shape

/-!
The shapes that messages are made of: places in a document, and what is said about or done at a place.

    document   {uri}                    position   {line, character}
    range      {start, end}             location   {uri, range}
    edit       {range, newText}         command    {title, command, arguments}
-/

namespace SaveCheck.Editor.Shape

/-! ### Places -/

/-- What names a document. -/
def documentMembers : List (String × Shape) := [("uri", url)]

/-- A document. -/
def document : Shape := record documentMembers

/-- A place between two characters. -/
def position : Shape := record [("line", uinteger), ("character", uinteger)]

/-- All between two places. -/
def range : Shape := record [("start", position), ("end", position)]

/-- A range in a document. -/
def location : Shape := record [("uri", url), ("range", range)]

/-- A place in a document, as the members that say so. -/
def placed : List (String × Shape) := [("textDocument", document), ("position", position)]

/-! ### Progress -/

/-- A whole number or a text. -/
def token : Shape := either [integer, text]

/-- The token under which the editor hears how the work on a question goes. -/
def workDone : List (String × Shape) := [("workDoneToken", optional token)]

/-- The tokens under which the editor hears how the work goes, and gets the result part by part. -/
def progress : List (String × Shape) := workDone ++ [("partialResultToken", optional token)]

/-! ### Text for the user -/

/-- How a text is marked up. -/
def markupKind : Shape := oneOf ["plaintext", "markdown"]

/-- A text, or one that is marked up. -/
def documentation : Shape := either [text, record [("kind", markupKind), ("value", text)]]

/-- Something the user can choose to be done. -/
def command : Shape :=
  record [("title", text), ("command", text), ("arguments", optional (list any))]

/-- A diagnostic as an editor has it. -/
def diagnostic : Shape :=
  record [
    ("range", range),
    ("severity", optional integer),
    ("code", optional token),
    ("codeDescription", optional (record [("href", url)])),
    ("source", optional text),
    ("message", text),
    ("relatedInformation", optional (list (record [("location", location), ("message", text)]))),
    ("tags", optional (list integer)),
    ("data", optional any)]

/-! ### Edits -/

/-- A new text for a range. -/
def edit : Shape := record [("range", range), ("newText", text)]

/-- The edits of one document, perhaps of a version of it. -/
def documentEdit : Shape :=
  record [
    ("textDocument", record [("uri", url), ("version", optional integer)]),
    ("edits", list edit)]

/-- What is done if a file is there already. -/
def overwriting : Shape := record [("overwrite", optional flag), ("ignoreIfExists", optional flag)]

/-- A file is made, moved or removed. -/
def fileChange : Shape :=
  tagged "kind".toList (spell [
    ("create", record [
      ("uri", url), ("options", optional overwriting), ("annotationId", optional text)]),
    ("rename", record [
      ("oldUri", url), ("newUri", url), ("options", optional overwriting),
      ("annotationId", optional text)]),
    ("delete", record [
      ("uri", url),
      ("options", optional (record [
        ("recursive", optional flag), ("ignoreIfNotExists", optional flag),
        ("annotationId", optional text)]))])])

/-- Edits all over a workspace. -/
def workspaceEdit : Shape :=
  record [
    ("changes", defaulted (optional (table url (list edit)))),
    ("documentChanges",
      optional (either [list documentEdit, list (either [fileChange, documentEdit])])),
    ("changeAnnotations", optional (table text (record [
      ("label", text), ("needsConfirmation", optional flag), ("description", optional text)])))]

end SaveCheck.Editor.Shape
