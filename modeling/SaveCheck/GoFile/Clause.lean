import SaveCheck.Text.Class

/-!
The package clause, which is the first thing in a Go source that is neither blank nor comment.

    between ── // ──▶ line ── newline ──▶ between
    between ── /* ──▶ block ── */ ──▶ between
    between ── a blank ──▶ between

A block comment without an end hides the rest of the source, so there is no clause then.
-/

namespace SaveCheck.GoFile

/-- Where a scan over blanks and comments is. -/
inductive Trivia where
  | between
  | line
  | block
  deriving DecidableEq, Repr

/-- What follows the blanks and comments at the front of a text. -/
def skip : Trivia → Text → Option Text
  | .between, '/' :: '/' :: r => skip .line r
  | .between, '/' :: '*' :: r => skip .block r
  | .between, c :: r => if Text.isBlank c then skip .between r else some (c :: r)
  | .between, [] => some []
  | .line, '\n' :: r => skip .between r
  | .line, _ :: r => skip .line r
  | .line, [] => some []
  | .block, '*' :: '/' :: r => skip .between r
  | .block, _ :: r => skip .block r
  | .block, [] => none

/-- Whether a character belongs to a name. -/
def isNameChar (c : Char) : Bool := Text.isAlphanumeric c || c = '_'

/-- The name at the front of a text; it may not begin with one of the digits `0` to `9`. -/
def name? (t : Text) : Option Text :=
  match t.takeWhile isNameChar with
  | [] => none
  | c :: r => if c.isDigit then none else some (c :: r)

/-- The name after the word `package`; a blank or a comment has to stand between them. -/
def clauseName? : Text → Option Text
  | [] => none
  | c :: r => if Text.isBlank c || c = '/' then (skip .between (c :: r)).bind name? else none

/-- The name that a source's package clause declares. -/
def packageName? (source : Text) : Option Text :=
  ((skip .between (Text.dropMark source)).bind (Text.after? "package".toList)).bind clauseName?

/-- Whether a source declares `package main`. -/
def isMain (source : Text) : Bool := packageName? source = some "main".toList

end SaveCheck.GoFile
