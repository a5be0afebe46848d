import SaveCheck.Check
import SaveCheck.Config
import SaveCheck.Editor.Capability
import SaveCheck.Editor.Message
import SaveCheck.Editor.Method
import SaveCheck.Editor.Published
import SaveCheck.Editor.Url

/-!
A session with an editor: it checks each Go file that is saved and publishes the marks.

    fresh ── start ──▶ ready ── shutdown ──▶ closed
      any ── leave ──▶ gone

Only a ready session acts on settings and saves. A request that comes too early or too late is refused,
and so is an event that is sent as a request; an event that comes too early or too late is dropped. Once
gone a session answers nothing.
-/

namespace SaveCheck.Editor

/-- How far a session has come. -/
inductive Phase where
  | fresh
  | ready
  | closed
  | gone
  deriving DecidableEq, Repr

/-- What a session keeps from one message to the next: the settings that the editor sent last, if it
sent any, and what is published. -/
structure Session where
  phase : Phase := .fresh
  settings : Option Settings := none
  published : Published := {}
  deriving DecidableEq, Repr

/-- What a message comes to. -/
structure Turn where
  session : Session
  disk : Disk
  reply : Reply := .silence
  sent : List Sent := []
  calls : List Call := []

namespace Session

/-! ### Settings -/

/-- Take settings from the editor whole, or not at all. -/
def configure (s : Session) (v : Value) : Session :=
  { s with settings := (Settings.ofEditor? v).or s.settings }

/-- The settings for a file: the editor's if it sent any, or else those that the project file and the
command line come to. The Go root of the command line goes first either way. -/
def settingsFor (s : Session) (c : Config) (h : Host) (d : Disk) (file : Path) :
    Except ConfigError Settings :=
  match s.settings with
  | some settings => .ok (c.withGoRoot settings)
  | none => c.settingsFor h d file

/-! ### Saves -/

/-- The extension of the files that are checked. -/
def goExtension : Text := "go".toList

/-- The file to check when a document is saved. -/
def goFile? (u : Url) : Option Path :=
  match u.filePath? with
  | some file => if Path.extension? file = some goExtension then some file else none
  | none => none

/-- The marks of each file that has a URL, under that URL. -/
def marksByUrl (groups : Groups) : List (Text × List Marker) :=
  groups.filterMap fun (file, marks) => (Url.ofPath? file).map fun u => (u.write, marks)

/-- Publish what the check of a document found, and clear the files that no document claims any more. -/
def publish (s : Session) (saved : Text) (ds : List Diagnostic) : Session × List Sent :=
  let (published, sent) := s.published.publish saved (marksByUrl (groupByFile ds))
  ({ s with published }, sent)

/-- What the user is told when a check fails. -/
def checkFailure (e : CheckError) : Sent := .told .error ("go-check failed: ".toList ++ e.message)

/-- What is sent about a check before its result: the notices, then the journal. -/
def account (scene : Scene) : List Sent :=
  scene.notices.map Sent.ofNotice ++ Sent.ofLines scene.journal.lines

/-- Check a file under some settings, and publish the result. A check that fails changes nothing that
is published. -/
def checkSaved (s : Session) (h : Host) (d : Disk) (saved : Url) (file : Path) (settings : Settings) :
    Turn :=
  let (result, scene) := Checker.checkOnce h settings file d
  match result with
  | .error e =>
    { session := s, disk := scene.disk, sent := account scene ++ [checkFailure e], calls := scene.calls }
  | .ok ds =>
    let (s, sent) := s.publish saved.write ds
    { session := s, disk := scene.disk, sent := account scene ++ sent, calls := scene.calls }

/-- Check a file under the settings for it, and publish the result. -/
def checkFile (s : Session) (c : Config) (h : Host) (d : Disk) (saved : Url) (file : Path) : Turn :=
  match s.settingsFor c h d file with
  | .error e => { session := s, disk := d, sent := [.told .error e.message] }
  | .ok settings => s.checkSaved h d saved file settings

/-- The place on the disk that a URL seems to lead through by a name that is no text. Such a name is no
name on the disk, though one there may be told the same way. -/
def seemingPlace? (d : Disk) (u : Url) : Option Place :=
  u.fileBytes?.bind fun bytes => d.strangePlace? [] (Text.cells (· = 0x2f) bytes)

/-- A document was saved. -/
def save (s : Session) (c : Config) (h : Host) (d : Disk) (saved : Url) : Turn :=
  match goFile? saved with
  | none => { session := s, disk := d }
  | some file =>
    match seemingPlace? d saved with
    | none => s.checkFile c h d saved file
    | some place =>
      let turn := s.checkFile c h (d.without place) saved file
      { turn with disk := turn.disk.restore place d }

/-! ### Params -/

/-- What the editor wants the session to start with, in the params of a start. -/
def startOptions? (params : Value) : Option (Option Value) :=
  if (Shape.record Shape.startParams).accepts params then
    some (Shape.member? Shape.startParams "initializationOptions" params)
  else none

/-- The members that tell of a configuration. -/
def configurationParams : List (String × Shape) := [("settings", .any)]

/-- The settings in the params of a configuration. -/
def sentSettings? (params : Value) : Option Value :=
  if (Shape.record configurationParams).accepts params then
    Shape.member? configurationParams "settings" params
  else none

/-- The members that tell of a save. The document's text may come along, and is not looked at. -/
def saveParams : List (String × Shape) := [("textDocument", .document), ("text", .optional .text)]

/-- The document in the params of a save. -/
def savedDocument? (params : Value) : Option Url :=
  if (Shape.record saveParams).accepts params then do
    let document ← Shape.member? saveParams "textDocument" params
    let uri ← Shape.member? Shape.documentMembers "uri" document
    Url.parse? (← uri.text?)
  else none

/-! ### Messages -/

/-- What a start is answered with: of documents the session wants to hear when they are opened, closed
and saved, but not how they change. -/
def welcome : Value :=
  .record [
    ("capabilities".toList, .record [
      ("textDocumentSync".toList, .record [
        ("openClose".toList, .flag true),
        ("change".toList, .number "0".toList),
        ("save".toList, .flag true)])]),
    ("serverInfo".toList, .record [
      ("name".toList, .text "go-check".toList),
      ("version".toList, .text "0.1.0".toList)])]

/-- A turn in which nothing is sent or launched. -/
def answer (s : Session) (d : Disk) (reply : Reply) : Turn := { session := s, disk := d, reply }

/-- Start a session, once. The editor's options are its first settings. -/
def start (s : Session) (d : Disk) (m : Message) : Turn :=
  if s.phase ≠ .fresh then s.answer d (m.refuse .invalidRequest)
  else if ! m.isRequest then s.answer d .silence
  else
    match m.params.bind startOptions? with
    | none => s.answer d (.refused .invalidParams)
    | some options =>
      let s := match options with
        | none | some .null => s
        | some v => s.configure v
      { s with phase := .ready }.answer d (.result welcome)

/-- Close a session. It is closed even if nobody hears the reply. -/
def shutdown (s : Session) (d : Disk) (m : Message) : Turn :=
  let reply := if m.params.isSome then m.refuse .invalidParams
    else if m.isRequest then .result .null else .silence
  { s with phase := .closed }.answer d reply

/-- An event that comes in when the session is ready. One without proper params is dropped. -/
def notice (s : Session) (c : Config) (h : Host) (d : Disk) (method : Method) (params : Value) : Turn :=
  match method with
  | .started =>
    let turn := s.answer d .silence
    if (Shape.record []).accepts params then
      { turn with sent := [.logged "go-check initialized".toList] }
    else turn
  | .configure =>
    match sentSettings? params with
    | some v => (s.configure v).answer d .silence
    | none => s.answer d .silence
  | .save =>
    match savedDocument? params with
    | some saved => s.save c h d saved
    | none => s.answer d .silence
  | _ => s.answer d .silence

/-- Why a question is refused: there is no answer even to one that is asked properly. -/
def refusal (shape : Shape) (params : Option Value) : Refusal :=
  if params.any shape.accepts then .unknownMethod else .invalidParams

/-- A message that comes in when the session is ready. An event is no request, and a question that is
none wants no answer. -/
def serve (s : Session) (c : Config) (h : Host) (d : Disk) (method : Method) (m : Message) : Turn :=
  match method with
  | .shutdown => s.shutdown d m
  | .question shape => s.answer d (m.refuse (refusal shape m.params))
  | told =>
    if m.isRequest then s.answer d (.refused .invalidRequest)
    else
      match m.params with
      | some params => s.notice c h d told params
      | none => s.answer d .silence

/-- Handle a message. -/
def handle (s : Session) (c : Config) (h : Host) (d : Disk) (m : Message) : Turn :=
  if s.phase = .gone then s.answer d .silence
  else
    match Method.ofName? m.method with
    | none =>
      s.answer d
        (if Text.startsWith Method.optionalMark m.method then .silence else m.refuse .unknownMethod)
    | some .leave => { s with phase := .gone }.answer d .silence
    | some .cancel => s.answer d (m.refuse .invalidRequest)
    | some .start => s.start d m
    | some method =>
      match s.phase with
      | .fresh => s.answer d (m.refuse .notReady)
      | .closed | .gone => s.answer d (m.refuse .invalidRequest)
      | .ready => s.serve c h d method m

end Session

end SaveCheck.Editor
