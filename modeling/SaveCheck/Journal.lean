import SaveCheck.Notice

/-!
The journal of a check: the lines that tell which tools ran and what they reported. An editor collects
them until they are drained; a terminal gets each as a log record of its own, as it does each notice.
-/

namespace SaveCheck

/-- Lines in the order they were written. -/
structure Journal where
  lines : List Text := []
  deriving DecidableEq, Repr

namespace Journal

/-- Write one more line. -/
def append (j : Journal) (line : Text) : Journal := ⟨j.lines ++ [line]⟩

/-- Write some more lines. -/
def appendAll (j : Journal) (ls : List Text) : Journal := ⟨j.lines ++ ls⟩

/-- Take all lines, and leave none. -/
def drain (j : Journal) : List Text × Journal := (j.lines, ⟨[]⟩)

end Journal

/-! ### On a terminal -/

/-- How urgent a log record is. -/
inductive LogLevel where
  | warn
  | info
  deriving DecidableEq, Repr

/-- The name of a level. -/
def LogLevel.name : LogLevel → Text
  | .warn => "warn".toList
  | .info => "info".toList

/-- The names of the limits that let no warnings through. -/
def LogLevel.severe : List Text := ["off".toList, "error".toList]

/-- Whether records of a level are shown under a limit. -/
def LogLevel.isShown (limit : Text) : LogLevel → Bool
  | .warn => limit ∉ LogLevel.severe
  | .info => limit ∉ LogLevel.warn.name :: LogLevel.severe

/-- One record of the terminal's log; a record without a target is the program's own. -/
structure LogRecord where
  level : LogLevel
  target : Option Text
  message : Text
  deriving DecidableEq, Repr

namespace LogRecord

/-- The target of the journal's lines. -/
def journalTarget : Text := "go_check::output".toList

/-- A notice is a warning of the program's own. -/
def ofNotice (n : Notice) : LogRecord := ⟨.warn, none, n.text⟩

/-- A line of the journal. -/
def ofLine (line : Text) : LogRecord := ⟨.info, some journalTarget, line⟩

end LogRecord

end SaveCheck
