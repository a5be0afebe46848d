import Mathlib.Data.List.ModifyLast
import SaveCheck.Proofs.Listing

/-!
One output after another.

    a.go:1: odd        ⎫ the first
    ⇥more              ⎭
    ⇥and more          ⎫                 goes on with the last issue of the first, if it has any
    # noise            ⎪ the second
    b.go:2: odd        ⎭

The issues of the whole are those of the first output and then those of the second. All that crosses the seam are the
lines that begin with a tab and stand in the second output before its first issue. Noise can go anywhere.
-/

namespace SaveCheck

/-- A diagnostic with further lines to its message. -/
def Diagnostic.goOn (d : Diagnostic) (more : List Text) : Diagnostic :=
  { d with message := d.message ++ more.flatMap ('\n' :: ·) }

namespace Listing

/-- An issue with further lines. -/
def Entry.goOn (e : Entry) (more : List Text) : Entry := { e with more := e.more ++ more }

/-- Whether a line is the first of an issue. -/
def isIssue (line : Text) : Bool := line.head? ≠ some '\t' && (DiagnosticLine.parse? line).isSome

/-- The lines of an output that begin with a tab and come before its first issue, without their tabs. -/
def lead (t : Text) : List Text := ((Text.lines t).takeWhile (! isIssue ·)).filterMap (Text.after? ['\t'])

/-! ### Rows -/

theorem modifyLast_cons {α : Type} (f : α → α) (x : α) {xs : List α} (hne : xs ≠ []) :
    (x :: xs).modifyLast f = x :: xs.modifyLast f :=
  List.modifyLast_append_of_right_ne_nil f [x] xs hne

/-- The issues of rows after others: the lead of the others goes to the last issue before it. -/
theorem gather_append (a b : List Row) : gather (a ++ b) =
    (if (gather a).2 = [] then (gather a).1 ++ (gather b).1 else (gather a).1,
      (gather a).2.modifyLast (·.goOn (gather b).1) ++ (gather b).2) := by
  induction a with
  | nil => rfl
  | cons r a ih =>
    rw [List.cons_append]
    cases r with
    | noise => rw [gather_cons_noise, gather_cons_noise, ih]
    | more t =>
      rw [gather_cons_more, gather_cons_more, ih]
      split <;> rfl
    | issue line =>
      rw [gather_cons_issue, gather_cons_issue, ih]
      by_cases hnone : (gather a).2 = []
      · rw [if_pos hnone, hnone]
        rfl
      · rw [if_neg hnone, if_neg (List.cons_ne_nil _ _), modifyLast_cons _ _ hnone]
        rfl

/-- Noise is as good as nothing. -/
theorem gather_noise (a b : List Row) : gather (a ++ .noise :: b) = gather (a ++ b) := by
  rw [gather_append, gather_append a b, gather_cons_noise]

/-- What the rows of some lines lead with are the lines behind tabs up to the first issue. -/
theorem gather_lead_eq (lines : List Text) :
    (gather (lines.map row)).1 = (lines.takeWhile (! isIssue ·)).filterMap (Text.after? ['\t']) := by
  induction lines with
  | nil => rfl
  | cons line lines ih =>
    by_cases htab : line.head? = some '\t'
    · obtain ⟨rest, rfl⟩ := List.head?_eq_some_iff.mp htab
      exact congrArg (rest :: ·) ih
    · have hafter : Text.after? ['\t'] line = none := by
        cases line with
        | nil => rfl
        | cons c line => exact if_neg fun hc => htab (by rw [← hc]; rfl)
      rw [List.map_cons, row_eq htab]
      cases hparse : DiagnosticLine.parse? line with
      | some out =>
        have hissue : isIssue line = true := by simp [isIssue, htab, hparse]
        rw [List.takeWhile_cons_of_neg (by simp [hissue])]
        rfl
      | none =>
        have hissue : isIssue line = false := by simp [isIssue, hparse]
        rw [List.takeWhile_cons_of_pos (by simp [hissue]), List.filterMap_cons_none hafter]
        exact ih

/-! ### Outputs -/

section
variable {t : Text}

theorem gather_lines (t : Text) : gather ((Text.lines t).map row) = (lead t, entries t) :=
  Prod.ext (gather_lead_eq _) rfl

theorem entries_append (ht : Text.Whole t) (u : Text) :
    entries (t ++ u) = (entries t).modifyLast (·.goOn (lead u)) ++ entries u := by
  rw [entries, Text.lines_append ht, List.map_append, gather_append, gather_lines, gather_lines]

theorem Entry.diagnostic_goOn (e : Entry) (more : List Text) (cwd : Path) (severity : Severity) :
    (e.goOn more).diagnostic cwd severity = (e.diagnostic cwd severity).goOn more := by
  simp [goOn, diagnostic, Diagnostic.goOn]

theorem Entry.echo_goOn (e : Entry) (more : List Text) (cwd : Path) :
    (e.goOn more).echo cwd = e.echo cwd ++ more.map ('\t' :: ·) := by
  simp [goOn, echo]

theorem diagnostics_goOn (es : List Entry) (more : List Text) (cwd : Path) (severity : Severity) :
    (es.modifyLast (·.goOn more)).map (·.diagnostic cwd severity) =
      (es.map (·.diagnostic cwd severity)).modifyLast (·.goOn more) := by
  rcases List.eq_nil_or_concat es with rfl | ⟨es, e, rfl⟩
  · rfl
  · simp only [List.concat_eq_append, List.modifyLast_concat, List.map_append, List.map_cons, List.map_nil,
      Entry.diagnostic_goOn]

theorem echo_goOn (es : List Entry) (more : List Text) (cwd : Path) :
    (es.modifyLast (·.goOn more)).flatMap (·.echo cwd) =
      es.flatMap (·.echo cwd) ++ if es = [] then [] else more.map ('\t' :: ·) := by
  rcases List.eq_nil_or_concat es with rfl | ⟨es, e, rfl⟩
  · rfl
  · simp [List.modifyLast_concat, Entry.echo_goOn]

/-- An output without a line that is noise has the same issues. -/
theorem entries_erase {raw : Text} {before after : List Text} (hlines : Text.rawLines t = before ++ raw :: after)
    (htab : (Text.chomp raw).head? ≠ some '\t') (hparse : DiagnosticLine.parse? (Text.chomp raw) = none) :
    entries (before ++ after).flatten = entries t := by
  have hrow : row (Text.chomp raw) = .noise := by rw [row_eq htab, hparse]
  simp only [entries, Text.lines, Text.rawLines_erase hlines, hlines, List.map_append, List.map_cons, hrow, gather_noise]

end

/-- An output behind whole lines gives its diagnostics after theirs, and its lead to the last of theirs; where they
have none, the lead is lost. The echo is put together in the same way. So a line that neither begins with a tab nor
reports an issue can be taken out of any output. -/
theorem diagnostics_append (cwd : Path) (severity : Severity) :
    (∀ t u : Text, t = [] ∨ t.getLast? = some '\n' →
      diagnostics cwd severity (t ++ u) =
          (diagnostics cwd severity t).modifyLast (·.goOn (lead u)) ++ diagnostics cwd severity u ∧
        echo cwd (t ++ u) =
          echo cwd t ++ (if diagnostics cwd severity t = [] then [] else (lead u).map ('\t' :: ·)) ++ echo cwd u) ∧
      ∀ (t raw : Text) (before after : List Text), Text.rawLines t = before ++ raw :: after →
        (Text.chomp raw).head? ≠ some '\t' → DiagnosticLine.parse? (Text.chomp raw) = none →
          diagnostics cwd severity (before ++ after).flatten = diagnostics cwd severity t ∧
            echo cwd (before ++ after).flatten = echo cwd t := by
  refine ⟨fun t u ht => ⟨?_, ?_⟩, fun t raw before after hlines htab hparse => ?_⟩
  · rw [diagnostics, entries_append ht, List.map_append, diagnostics_goOn]
    rfl
  · have hnone : diagnostics cwd severity t = [] ↔ entries t = [] := List.map_eq_nil_iff
    rw [echo, entries_append ht, List.flatMap_append, echo_goOn]
    simp only [hnone]
    rfl
  · have hentries := entries_erase hlines htab hparse
    exact ⟨by rw [diagnostics, hentries, diagnostics], by rw [echo, hentries, echo]⟩

/-- Two lines cross the seam, and noise that stands between them can be taken out. -/
theorem diagnostics_append_detail :
    let t := "a.go:1: odd\n".toList
    let u := "\tmore\n# noise\n\ta.go:2: so\nb.go:2: odd\n\tof b\n".toList
    diagnostics "/p".toList .error (t ++ u) =
        [⟨"/p/a.go".toList, 1, none, "odd\nmore\na.go:2: so".toList, .error⟩,
          ⟨"/p/b.go".toList, 2, none, "odd\nof b".toList, .error⟩] ∧
      diagnostics "/p".toList .error (t ++ "\tmore\n\ta.go:2: so\nb.go:2: odd\n\tof b\n".toList) =
        diagnostics "/p".toList .error (t ++ u) := by
  intro t u
  obtain ⟨happend, herase⟩ := diagnostics_append "/p".toList .error
  constructor
  · rw [(happend t u (by decide)).1]
    decide +kernel
  · exact (herase (t ++ u) "# noise\n".toList ["a.go:1: odd\n".toList, "\tmore\n".toList]
      ["\ta.go:2: so\n".toList, "b.go:2: odd\n".toList, "\tof b\n".toList] (by decide) (by decide)
      (by decide +kernel)).1

end Listing

end SaveCheck
