import Mathlib.Data.List.Forall2
import SaveCheck.Proofs.Grouping

/-!
What the mark of a diagnostic shows.

    /p/a.go:3:5: error: odd     ──▶     2:4 – 2:4294967295   1   go-check   odd

Lines and columns count from one, and those of a mark from zero. A mark starts where its diagnostic stands, as far as
32 bits can tell, and ends with the line.
-/

namespace SaveCheck.Editor

/-- A mark shows a diagnostic: what it says and how serious it is, from where it starts if that can be told. -/
structure Marker.Shows (m : Marker) (d : Diagnostic) : Prop where
  message : m.message = d.message
  severity : m.severity = match d.severity with | .error => 1 | .warning => 2
  source : m.source = "go-check".toList
  oneLine : m.start.line = m.stop.line
  forward : m.start.character ≤ m.stop.character
  counted : m.stop.line < positionLimit ∧ m.stop.character < positionLimit
  fromLine : max d.line 1 - 1 < positionLimit → m.start.line = max d.line 1 - 1
  fromColumn : (d.column.map fun c => max c 1 - 1).getD 0 < positionLimit →
    m.start.character = (d.column.map fun c => max c 1 - 1).getD 0

theorem line_ofDiagnostic (d : Diagnostic) :
    (Marker.ofDiagnostic d).start.line = (max d.line 1 - 1) % positionLimit := by
  show (d.line - 1) % positionLimit = _
  congr 1
  omega

theorem character_ofDiagnostic (d : Diagnostic) : (Marker.ofDiagnostic d).start.character =
    (d.column.map fun c => max c 1 - 1).getD 0 % positionLimit := by
  rw [Marker.ofDiagnostic]
  cases d.column with
  | none => rfl
  | some c =>
    show (c - 1) % positionLimit = (max c 1 - 1) % positionLimit
    congr 1
    omega

theorem shows_ofDiagnostic (d : Diagnostic) : (Marker.ofDiagnostic d).Shows d where
  message := rfl
  severity := by
    show severityCode d.severity = _
    cases d.severity <;> rfl
  source := rfl
  oneLine := rfl
  forward := by
    have hcharacter := Nat.mod_lt ((d.column.map fun c => max c 1 - 1).getD 0) (by decide : 0 < positionLimit)
    rw [← character_ofDiagnostic] at hcharacter
    exact Nat.le_sub_one_of_lt hcharacter
  counted := by
    have hend : lineEnd < positionLimit := by decide
    refine ⟨?_, hend⟩
    show (Marker.ofDiagnostic d).start.line < positionLimit
    rw [line_ofDiagnostic]
    exact Nat.mod_lt _ (by decide)
  fromLine := fun h => (line_ofDiagnostic d).trans (Nat.mod_eq_of_lt h)
  fromColumn := fun h => (character_ofDiagnostic d).trans (Nat.mod_eq_of_lt h)

/-- The marks in a file show its diagnostics one by one. -/
theorem forall₂_marksIn (ds : List Diagnostic) (file : Path) :
    List.Forall₂ Marker.Shows (marksIn ds file) (ds.filter (·.file = file)) := by
  rw [marksIn, List.forall₂_map_left_iff, List.forall₂_same]
  exact fun d _ => shows_ofDiagnostic d

end SaveCheck.Editor
