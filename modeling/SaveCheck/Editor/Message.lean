import SaveCheck.Editor.Marker
import SaveCheck.Notice
import SaveCheck.Value

/-!
What goes between an editor and a session.

    editor  ── Message ──▶  session        a request gets one reply, an event none
    editor  ◀── Reply ────  session
    editor  ◀── Sent ─────  session        any number, in order, whenever a message is handled
-/

namespace SaveCheck.Editor

/-- A message from the editor. -/
structure Message where
  method : Text
  params : Option Value := none
  isRequest : Bool := false

/-! ### Replies -/

/-- Why a request is refused. -/
inductive Refusal where
  | notReady
  | invalidRequest
  | unknownMethod
  | invalidParams
  deriving DecidableEq, Repr

/-- The number that the protocol has for a refusal. -/
def Refusal.code : Refusal → Int
  | .notReady => -32002
  | .invalidRequest => -32600
  | .unknownMethod => -32601
  | .invalidParams => -32602

/-- What a message is answered with. -/
inductive Reply where
  | silence
  | result (value : Value)
  | refused (cause : Refusal)

/-- A refusal, if the message wants a reply at all. -/
def Message.refuse (m : Message) (cause : Refusal) : Reply :=
  if m.isRequest then .refused cause else .silence

/-! ### What is sent -/

/-- How much a message to the user weighs. -/
inductive Weight where
  | error
  | warning
  | info
  deriving DecidableEq, Repr

/-- The number that the protocol has for a weight. -/
def Weight.code : Weight → Nat
  | .error => 1
  | .warning => 2
  | .info => 3

/-- Something sent to the editor: a message for the user, an entry of the log, or all marks that a file
is to show from now on. -/
inductive Sent where
  | told (weight : Weight) (text : Text)
  | logged (text : Text)
  | published (url : Text) (marks : List Marker)
  deriving DecidableEq, Repr

namespace Sent

/-- A notice as the user is told it. -/
def ofNotice : Notice → Sent
  | .info text => .told .info text
  | .install tool => .told .warning (Notice.installHint tool)

/-- Lines as one entry of the log; without lines there is none. -/
def ofLines (lines : List Text) : List Sent :=
  if lines = [] then [] else [.logged (['\n'].intercalate lines)]

/-- The weight of every entry of the log. -/
def logWeight : Weight := .info

end Sent

end SaveCheck.Editor
