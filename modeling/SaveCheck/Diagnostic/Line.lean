import SaveCheck.Diagnostic
import SaveCheck.Text.Class

/-!
The line on which a compiler or a linter reports an issue:

    [label: ][x:]file:line[:[column]]:[tag:] message

Neither label nor file holds a colon, apart from the one after the single character of a drive. A line
can be read in up to four ways; the first that fits counts, in the order label and drive, label alone,
drive alone, neither. Within a way every part ends where it must, and a column is read whenever the
rest of the line still fits.
-/

namespace SaveCheck

/-- A reported issue as its line spells it, before the file is resolved. -/
structure DiagnosticLine where
  file : Text
  line : Nat
  column : Option Nat
  message : Text
  deriving DecidableEq, Repr

namespace DiagnosticLine

/-- The parts of a line, its numbers still as they are written. -/
structure Parts where
  file : Text
  line : Text
  column : Text
  message : Text
  deriving DecidableEq, Repr

/-! ### The parts of a line, from its end to its front -/

/-- The message: all that is left, if it stays on one line. -/
def message? : Text → Option Text
  | ' ' :: rest => if '\n' ∈ rest then none else some rest
  | _ => none

/-- The message behind a tag: a word and a colon. -/
def tagged? (t : Text) : Option Text :=
  match t.takeWhile Text.isWord, t.dropWhile Text.isWord with
  | _ :: _, ':' :: rest => message? rest
  | _, _ => none

/-- The message behind a colon, with or without a tag. -/
def trailer? : Text → Option Text
  | ':' :: rest => (tagged? rest).or (message? rest)
  | _ => none

/-- The digits of a column, which may be none at all, and the message. -/
def columned? : Text → Option (Text × Text)
  | ':' :: rest =>
    (trailer? (rest.dropWhile Text.isDecimal)).map (rest.takeWhile Text.isDecimal, ·)
  | _ => none

/-- The digits of a line and of a column, and the message. -/
def position? (t : Text) : Option (Text × Text × Text) :=
  match t.takeWhile Text.isDecimal, t.dropWhile Text.isDecimal with
  | [], _ => none
  | line, rest =>
    match columned? rest with
    | some (column, message) => some (line, column, message)
    | none => (trailer? rest).map (line, [], ·)

/-- The parts of a line whose file is spelled `drive` and what goes on to the next colon. -/
def located? (drive : Text) (t : Text) : Option Parts :=
  match Text.cut ':' t with
  | some (name, rest) =>
    (position? rest).map fun (line, column, message) => ⟨drive ++ name, line, column, message⟩
  | none => none

/-- The parts of a line whose file begins with a drive: any character, and a colon. -/
def onDrive? : Text → Option Parts
  | c :: ':' :: rest => if c = '\n' then none else located? [c, ':'] rest
  | _ => none

/-- What follows the label of a line: the text up to the first colon, if a blank comes next. -/
def afterLabel? (t : Text) : Option Text :=
  match Text.cut ':' t with
  | some (_, ' ' :: rest) => some rest
  | _ => none

/-- The four ways to read a line, in the order they are tried. -/
def readings (t : Text) : List (Option Parts) :=
  [(afterLabel? t).bind onDrive?, (afterLabel? t).bind (located? []), onDrive? t, located? [] t]

/-- The parts of a line in the first way that fits. -/
def parts? (t : Text) : Option Parts := (readings t).findSome? id

/-- Read a line. The line number has to be a numeral below the limit; a column that is none is
dropped. -/
def parse? (t : Text) : Option DiagnosticLine := do
  let p ← parts? t
  let line ← Numeral.read? p.line
  return ⟨p.file, line, Numeral.read? p.column, p.message⟩

end DiagnosticLine

end SaveCheck
