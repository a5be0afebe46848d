import SaveCheck.Editor.Question

/-!
The methods of the editor's protocol. A session acts on six of them; it also has to know the others by
name, because what is known but not served is refused for another reason than what is unknown.
-/

namespace SaveCheck.Editor

/-- What a message asks for. -/
inductive Method where
  | start
  | started
  | shutdown
  | leave
  | configure
  | save
  /-- A request is to be given up; all of them are answered before the next message is read. -/
  | cancel
  /-- An event that a session takes no notice of. -/
  | event
  /-- A question that a session has no answer to, with the shape of its params. -/
  | question (params : Shape)

namespace Method

/-- The methods that a session acts on. -/
def served : List (Text × Method) := [
  ("initialize".toList, .start),
  ("initialized".toList, .started),
  ("shutdown".toList, .shutdown),
  ("exit".toList, .leave),
  ("workspace/didChangeConfiguration".toList, .configure),
  ("textDocument/didSave".toList, .save),
  ("$/cancelRequest".toList, .cancel)]

/-- The other methods that tell of something. -/
def events : List Text := [
  "textDocument/didOpen".toList,
  "textDocument/didChange".toList,
  "textDocument/willSave".toList,
  "textDocument/didClose".toList,
  "workspace/didChangeWorkspaceFolders".toList,
  "workspace/didCreateFiles".toList,
  "workspace/didRenameFiles".toList,
  "workspace/didDeleteFiles".toList,
  "workspace/didChangeWatchedFiles".toList]

/-- The method of a name. -/
def ofName? (name : Text) : Option Method :=
  if events.contains name then some .event
  else
    match Question.table.lookup name with
    | some params => some (.question params)
    | none => served.lookup name

/-- An unknown method that begins with this may be left without an answer. -/
def optionalMark : Text := "$/".toList

end Method

end SaveCheck.Editor
