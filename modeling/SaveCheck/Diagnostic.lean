import SaveCheck.Path
import SaveCheck.Text.Numeral

/-!
Diagnostics: one reported issue in one file, the same for every tool.
-/

namespace SaveCheck

/-- How serious an issue is. -/
inductive Severity where
  | error
  | warning
  deriving DecidableEq, Repr

/-- The name of a severity. -/
def Severity.name : Severity → Text
  | .error => "error".toList
  | .warning => "warning".toList

/-- One issue in one file; lines and columns count from one. -/
structure Diagnostic where
  file : Path
  line : Nat
  column : Option Nat
  message : Text
  severity : Severity
  deriving DecidableEq, Repr

namespace Diagnostic

/-- `file:line[:column]: severity: message`, on as many lines as the message has. -/
def display (d : Diagnostic) : Text :=
  d.file ++ ':' :: Numeral.write d.line
    ++ (match d.column with | some c => ':' :: Numeral.write c | none => [])
    ++ ": ".toList ++ d.severity.name ++ ": ".toList ++ d.message

/-- Whether some diagnostic is an error. -/
def hasErrors (ds : List Diagnostic) : Bool := ds.any (·.severity = .error)

end Diagnostic

end SaveCheck
