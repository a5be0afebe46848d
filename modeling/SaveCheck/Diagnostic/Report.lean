import SaveCheck.Diagnostic
import SaveCheck.Json
import SaveCheck.Text.Utf8

/-!
The report of a check: the diagnostics as one JSON array, with their fields in a fixed order. A path is told as text,
and where one is no text there is no report.
-/

namespace SaveCheck.Diagnostic

/-- A number as a value. -/
def countValue (n : Nat) : Value := .number (Numeral.write n)

/-- The text that the bytes of a path spell, if they spell any. -/
def fileText? (d : Diagnostic) : Option Text := Utf8.decode? (Utf8.encode d.file)

/-- A diagnostic as a record, with the text of its path. -/
def record (d : Diagnostic) (file : Text) : Value := .record [
  ("file".toList, .text file),
  ("line".toList, countValue d.line),
  ("column".toList, match d.column with | some c => countValue c | none => .null),
  ("message".toList, .text d.message),
  ("severity".toList, .text d.severity.name)]

/-- The report on a list of diagnostics. -/
def report? (ds : List Diagnostic) : Option Text := do
  let items ← ds.mapM fun d => d.fileText?.map d.record
  return Json.pretty 0 (.list items)

end SaveCheck.Diagnostic
