import Mathlib.Data.List.Forall2
import SaveCheck.Program
import SaveCheck.Proofs.JsonReading
import SaveCheck.Proofs.Utf8

/-!
The report of a check, read back.

    [
      { "file": "/p/a.go", "line": 3, "column": null,      ◀──▶   /p/a.go:3: error: odd
        "message": "odd", "severity": "error" }
    ]

The report is one value, a list with a record for each diagnostic that has all its fields and nothing else. So no two
lists of diagnostics have the same report.
-/

namespace SaveCheck

/-! ### Counts -/

/-- A numeral has no leading zero, unless it is the one of zero. -/
theorem Numeral.exists_write_cons {n : Nat} (hn : n ≠ 0) : ∃ c digits, write n = c :: digits ∧ c ≠ '0' := by
  induction n using Nat.strongRecOn with
  | ind n ih =>
    by_cases hsmall : n < 10
    · refine ⟨Nat.digitChar n, [], Nat.toDigits_of_lt_base hsmall, ?_⟩
      have hall : ∀ k < 10, k ≠ 0 → Nat.digitChar k ≠ '0' := by decide
      exact hall n hsmall hn
    · obtain ⟨c, digits, hwrite, hc⟩ := ih (n / 10) (by omega) (by omega)
      refine ⟨c, digits ++ [Nat.digitChar (n % 10)], ?_, hc⟩
      rw [write, Nat.toDigits_of_base_le (by decide) (by omega), ← write, hwrite, List.cons_append]

/-- A value is the numeral of a number. -/
def Value.Counts (v : Value) (n : Nat) : Prop :=
  ∃ digits, v = .number digits ∧ digits ≠ [] ∧ (∀ c ∈ digits, c.isDigit = true) ∧ Numeral.value digits = n

theorem Value.Counts.unique {v : Value} {m n : Nat} (hm : v.Counts m) (hn : v.Counts n) : m = n := by
  obtain ⟨digits, rfl, -, -, rfl⟩ := hm
  obtain ⟨digits', heq, -, -, rfl⟩ := hn
  rw [Value.number.inj heq]

theorem Diagnostic.countValue_counts (n : Nat) : (countValue n).Counts n :=
  ⟨Numeral.write n, rfl, Numeral.write_ne_nil n, fun _ hc => Numeral.mem_write_isDigit hc, Numeral.value_write n⟩

namespace Json

theorem Part.foldlM_digits : ∀ {digits : Text}, (∀ c ∈ digits, c.isDigit = true) →
    digits.foldlM Part.next? .whole = some .whole
  | [], _ => rfl
  | c :: digits, h => by
    obtain ⟨hc, hdigits⟩ := List.forall_mem_cons.mp h
    have hnext : Part.next? .whole c = some .whole := if_pos hc
    rw [List.foldlM_cons, hnext]
    exact foldlM_digits hdigits

theorem proper_countValue (n : Nat) : Proper (Diagnostic.countValue n) := by
  rw [Diagnostic.countValue]
  by_cases hn : n = 0
  · rw [hn]
    exact .number (rfl : Part.start? '0' = some .zero) rfl rfl
  · obtain ⟨c, digits, hwrite, hc⟩ := Numeral.exists_write_cons hn
    have hdigit : ∀ d ∈ c :: digits, d.isDigit = true := fun d hd => Numeral.mem_write_isDigit (hwrite ▸ hd)
    obtain ⟨hfirst, hdigits⟩ := List.forall_mem_cons.mp hdigit
    have hminus : c ≠ '-' := by
      rintro rfl
      cases hfirst
    have hstart : Part.start? c = some .whole := by rw [Part.start?, if_neg hminus, if_neg hc, if_pos hfirst]
    rw [hwrite]
    exact .number hstart (Part.foldlM_digits hdigits) rfl

end Json

namespace Diagnostic

/-! ### The record of a diagnostic -/

/-- A value is that of a column; none is null. -/
inductive IsColumn : Option Nat → Value → Prop where
  | none : IsColumn none .null
  | some {n : Nat} {v : Value} : v.Counts n → IsColumn (some n) v

theorem IsColumn.unique {m n : Option Nat} {v : Value} (hm : IsColumn m v) (hn : IsColumn n v) : m = n := by
  cases hm with
  | none =>
    cases hn with
    | none => rfl
    | some hcounts =>
      obtain ⟨_, hnull, -⟩ := hcounts
      cases hnull
  | some hcounts =>
    cases hn with
    | none =>
      obtain ⟨_, hnull, -⟩ := hcounts
      cases hnull
    | some hcounts' => rw [hcounts.unique hcounts']

/-- The word for a severity in a report. -/
def severityWord : Severity → Text
  | .error => "error".toList
  | .warning => "warning".toList

theorem severityWord_inj {a b : Severity} (h : severityWord a = severityWord b) : a = b := by
  revert h
  cases a <;> cases b <;> decide

/-- A record says all that a diagnostic says, and nothing else. -/
def IsRecord (d : Diagnostic) (v : Value) : Prop :=
  ∃ line column, line.Counts d.line ∧ IsColumn d.column column ∧ v = .record [
    ("file".toList, .text d.file),
    ("line".toList, line),
    ("column".toList, column),
    ("message".toList, .text d.message),
    ("severity".toList, .text (severityWord d.severity))]

/-- No two diagnostics have the same record. -/
theorem IsRecord.unique {d e : Diagnostic} {v : Value} (hd : d.IsRecord v) (he : e.IsRecord v) : d = e := by
  obtain ⟨line, column, hline, hcolumn, rfl⟩ := hd
  obtain ⟨line', column', hline', hcolumn', heq⟩ := he
  simp only [Value.record.injEq, List.cons.injEq, Prod.mk.injEq, Value.text.injEq, true_and, and_true] at heq
  obtain ⟨hfile, rfl, rfl, hmessage, hseverity⟩ := heq
  cases d
  cases e
  congr
  · exact hline.unique hline'
  · exact hcolumn.unique hcolumn'
  · exact severityWord_inj hseverity

/-- The column of a diagnostic as a value. -/
def columnValue : Option Nat → Value
  | none => .null
  | some n => countValue n

theorem isColumn_columnValue : ∀ column : Option Nat, IsColumn column (columnValue column)
  | none => .none
  | some n => .some (countValue_counts n)

/-- A diagnostic as a record with its path. -/
def toValue (d : Diagnostic) : Value := d.record d.file

theorem toValue_eq (d : Diagnostic) : d.toValue = .record [
    ("file".toList, .text d.file),
    ("line".toList, countValue d.line),
    ("column".toList, columnValue d.column),
    ("message".toList, .text d.message),
    ("severity".toList, .text (severityWord d.severity))] := by
  obtain ⟨file, line, column, message, severity⟩ := d
  cases column <;> cases severity <;> rfl

theorem isRecord_toValue (d : Diagnostic) : d.IsRecord d.toValue :=
  ⟨_, _, countValue_counts d.line, isColumn_columnValue d.column, d.toValue_eq⟩

theorem proper_toValue (d : Diagnostic) : Json.Proper d.toValue := by
  have hcolumn : Json.Proper (columnValue d.column) := by
    cases d.column with
    | none => exact .null
    | some n => exact Json.proper_countValue n
  rw [toValue_eq]
  refine .record ?_
  simp only [List.forall_mem_cons]
  exact ⟨.text _, Json.proper_countValue _, hcolumn, .text _, .text _, by simp⟩

theorem forall₂_toValue (ds : List Diagnostic) : List.Forall₂ IsRecord ds (ds.map toValue) := by
  rw [List.forall₂_map_right_iff, List.forall₂_same]
  exact fun d _ => d.isRecord_toValue

/-- The paths of diagnostics are text, so there always is a report. -/
theorem report?_eq (ds : List Diagnostic) : report? ds = some (Json.pretty 0 (.list (ds.map toValue))) := by
  have hitem (d : Diagnostic) : d.fileText?.map d.record = some d.toValue := by
    rw [fileText?, Utf8.decode?_encode]
    rfl
  have hitems : ds.mapM (fun d => some d.toValue) = some (ds.map toValue) := List.mapM_pure
  simp only [report?, hitem, hitems]
  rfl

end Diagnostic

namespace Program

/-- The report on a list of diagnostics can be printed, and is a text of JSON: a list with a record for each
diagnostic in turn. Another list of diagnostics has another report. -/
theorem read?_print (ds : List Diagnostic) :
    (∃ out items, print ds .json = .ok out ∧ Json.read? out = some (.list items) ∧
      List.Forall₂ Diagnostic.IsRecord ds items) ∧
      ∀ ds', print ds' .json = print ds .json → ds' = ds := by
  have hprint (ds : List Diagnostic) : print ds .json =
      .ok (Json.pretty 0 (.list (ds.map Diagnostic.toValue)) ++ ['\n']) := by rw [print, Diagnostic.report?_eq]
  have hread (ds : List Diagnostic) : Json.read? (Json.pretty 0 (.list (ds.map Diagnostic.toValue)) ++ ['\n']) =
      some (.list (ds.map Diagnostic.toValue)) := by
    refine Json.read?_pretty (.list fun v hv => ?_)
    obtain ⟨d, -, rfl⟩ := List.mem_map.mp hv
    exact d.proper_toValue
  refine ⟨⟨_, _, hprint ds, hread ds, Diagnostic.forall₂_toValue ds⟩, fun ds' heq => ?_⟩
  have hitems : ds'.map Diagnostic.toValue = ds.map Diagnostic.toValue := by
    have hsame := hread ds'
    rw [hprint, hprint] at heq
    rw [Except.ok.inj heq, hread ds] at hsame
    exact (Value.list.inj (Option.some.inj hsame)).symm
  have hds' := Diagnostic.forall₂_toValue ds'
  rw [hitems] at hds'
  exact List.left_unique_forall₂' (fun _ _ _ h h' => h.unique h') hds' (Diagnostic.forall₂_toValue ds)

end Program

end SaveCheck
