import SaveCheck.Diagnostic

/-!
Diagnostics as an editor shows them: markers on one line each, gathered by file.
-/

namespace SaveCheck.Editor

/-- A line and a character of it, both counted from zero. -/
structure Position where
  line : Nat
  character : Nat
  deriving DecidableEq, Repr

/-- A mark: where it starts and ends, how much it weighs, who it is from, and what it says. -/
structure Marker where
  start : Position
  stop : Position
  severity : Nat
  source : Text
  message : Text
  deriving DecidableEq, Repr

/-- An editor's positions have 32 bits. -/
def positionLimit : Nat := 1 <<< 32

/-- Where every mark ends: editors clamp it to the length of the line. -/
def lineEnd : Nat := positionLimit - 1

/-- The name that every mark is shown under. -/
def publisher : Text := "go-check".toList

/-- The number an editor has for a severity. -/
def severityCode : Severity → Nat
  | .error => 1
  | .warning => 2

/-- The mark of a diagnostic, from its column or else from the start of its line. -/
def Marker.ofDiagnostic (d : Diagnostic) : Marker :=
  let line := (d.line - 1) % positionLimit
  let character := (match d.column with | some c => c - 1 | none => 0) % positionLimit
  { start := ⟨line, character⟩
    stop := ⟨line, lineEnd⟩
    severity := severityCode d.severity
    source := publisher
    message := d.message }

/-- Files with their marks, in ascending order of the paths. -/
abbrev Groups := List (Path × List Marker)

/-- Add a mark to the group of its file. The group keeps the path it was opened with. -/
def Groups.add (file : Path) (m : Marker) : Groups → Groups
  | [] => [(file, [m])]
  | (p, ms) :: rest =>
    match Path.order file p with
    | .lt => (file, [m]) :: (p, ms) :: rest
    | .eq => (p, ms ++ [m]) :: rest
    | .gt => (p, ms) :: Groups.add file m rest

/-- The marks of a list of diagnostics by file. -/
def groupByFile (ds : List Diagnostic) : Groups :=
  ds.foldl (fun groups d => groups.add d.file (.ofDiagnostic d)) []

end SaveCheck.Editor
