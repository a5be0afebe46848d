import SaveCheck.Proofs.LineReadings
import SaveCheck.Proofs.Pieces
import SaveCheck.Proofs.Resolved
import SaveCheck.Proofs.TextLines

/-!
The echo of an output, which says the same as its diagnostics.

    a.go:3:2: odd       ──▶   /p/a.go:3: odd       where it is, and the first line of the message
    ⇥more detail        ──▶   ⇥more detail         each further line of the message, behind a tab
    # noise             ──▶

Each line that counts gives its message one line, so the echo can be written again from the message alone. It says
nothing of columns, and no line of it is blank.
-/

namespace SaveCheck

namespace DiagnosticLine

/-- What is read of a line stands in the layout that counts. -/
theorem exists_layout {t : Text} {out : DiagnosticLine} (h : parse? t = some out) :
    ∃ l : Layout, l.Counts t ∧ out.file = Layout.driveText l.drive ++ l.name ∧ out.message = l.position.message := by
  obtain ⟨parts, hparts, hout⟩ := Option.bind_eq_some_iff.mp h
  obtain ⟨n, -, hn⟩ := Option.bind_eq_some_iff.mp hout
  obtain rfl := Option.some.inj hn
  obtain ⟨l, hl, rfl⟩ := parts?_eq_some_iff.mp hparts
  exact ⟨l, hl, rfl, rfl⟩

/-- The file stands in the line as it is read. -/
theorem file_infix {t : Text} {out : DiagnosticLine} (h : parse? t = some out) : out.file <:+: t := by
  obtain ⟨l, hl, hfile, -⟩ := exists_layout h
  refine ⟨Layout.labelText l.label, ':' :: l.position.text, ?_⟩
  rw [← hl.fits.text, Layout.text, hfile]
  simp only [List.append_assoc]

end DiagnosticLine

/-- The lines that echo a diagnostic: where it is with the first line of its message, then the further lines. -/
def Diagnostic.echo (d : Diagnostic) : List Text :=
  let lines := Text.cells (· = '\n') d.message
  (d.file ++ ':' :: Numeral.write d.line ++ ": ".toList ++ lines.headD []) :: lines.tail.map ('\t' :: ·)

theorem Diagnostic.ne_nil_of_mem_echo {d : Diagnostic} {line : Text} (hline : line ∈ d.echo) : line ≠ [] := by
  rcases List.mem_cons.mp hline with rfl | hline
  · simp
  · obtain ⟨t, -, rfl⟩ := List.mem_map.mp hline
    exact List.cons_ne_nil _ _

theorem Diagnostic.ne_nil_of_mem_echoes {ds : List Diagnostic} {line : Text} (hline : line ∈ ds.flatMap echo) :
    line ≠ [] := by
  obtain ⟨d, -, hline⟩ := List.mem_flatMap.mp hline
  exact d.ne_nil_of_mem_echo hline

/-- The lines of a message. -/
theorem Text.cells_newline : ∀ {first : Text} {more : List Text}, '\n' ∉ first → (∀ t ∈ more, '\n' ∉ t) →
    cells (· = '\n') (first ++ more.flatMap ('\n' :: ·)) = first :: more
  | first, [], hfirst, _ => by
    rw [List.flatMap_nil, List.append_nil, cells_of_not_mem hfirst]
  | first, t :: more, hfirst, hmore => by
    obtain ⟨ht, hmore⟩ := List.forall_mem_cons.mp hmore
    rw [List.flatMap_cons, List.cons_append, cells_append (by simp), cells_newline ht hmore,
      cells_of_not_mem hfirst]
    rfl

namespace Listing

/-! ### The echo of what was read -/

/-- A row with no newline in what it says. -/
def Row.Plain : Row → Prop
  | .issue line => '\n' ∉ line.message
  | .more t => '\n' ∉ t
  | .noise => True

/-- An issue with no newline in what its lines say. -/
structure Entry.Plain (e : Entry) : Prop where
  head : '\n' ∉ e.head.message
  more : ∀ t ∈ e.more, '\n' ∉ t

theorem row_plain {line : Text} (hline : '\n' ∉ line) : (row line).Plain := by
  unfold row
  split
  · exact fun h => hline (List.mem_cons_of_mem _ h)
  · split
    · next out hparse =>
      obtain ⟨l, hl, -, hmessage⟩ := DiagnosticLine.exists_layout hparse
      exact fun h => hl.fits.proper.position.message (hmessage ▸ h)
    · trivial

theorem gather_plain : ∀ {rows : List Row}, (∀ r ∈ rows, r.Plain) →
    (∀ t ∈ (gather rows).1, '\n' ∉ t) ∧ ∀ e ∈ (gather rows).2, e.Plain
  | [], _ => by simp [gather]
  | r :: rows, h => by
    obtain ⟨hr, hrows⟩ := List.forall_mem_cons.mp h
    obtain ⟨hlead, hentries⟩ := gather_plain hrows
    cases r with
    | issue line => exact ⟨by simp [gather], List.forall_mem_cons.mpr ⟨⟨hr, hlead⟩, hentries⟩⟩
    | more t => exact ⟨List.forall_mem_cons.mpr ⟨hr, hlead⟩, hentries⟩
    | noise => exact ⟨hlead, hentries⟩

theorem entries_plain (t : Text) : ∀ e ∈ entries t, e.Plain := by
  refine (gather_plain fun r hr => ?_).2
  obtain ⟨line, hline, rfl⟩ := List.mem_map.mp hr
  exact row_plain (Text.not_mem_of_mem_lines hline)

theorem Entry.echo_diagnostic {e : Entry} (he : e.Plain) (cwd : Path) (severity : Severity) :
    (e.diagnostic cwd severity).echo = e.echo cwd := by
  have hcells := Text.cells_newline he.head he.more
  rw [Diagnostic.echo, diagnostic, hcells]
  rfl

/-- The echo of an output is that of its diagnostics. -/
theorem echo_eq_flatMap (cwd : Path) (severity : Severity) (t : Text) :
    echo cwd t = (diagnostics cwd severity t).flatMap Diagnostic.echo := by
  rw [echo, diagnostics, List.flatMap_map]
  exact List.flatMap_congr fun e he => (Entry.echo_diagnostic (entries_plain t e he) cwd severity).symm

/-! ### Lines of the echo -/

/-- An issue that is gathered stands in its row. -/
theorem issue_mem_of_mem_gather : ∀ {rows : List Row} {e : Entry}, e ∈ (gather rows).2 → .issue e.head ∈ rows
  | .more _ :: _, _, he => List.mem_cons_of_mem _ (issue_mem_of_mem_gather he)
  | .noise :: _, _, he => List.mem_cons_of_mem _ (issue_mem_of_mem_gather he)
  | .issue _ :: rows, e, he => by
    rcases List.mem_cons.mp he with rfl | he
    · exact List.mem_cons_self
    · exact List.mem_cons_of_mem _ (issue_mem_of_mem_gather he)

/-- An issue of an output is read from one of its lines. -/
theorem exists_line_of_mem_entries {t : Text} {e : Entry} (he : e ∈ entries t) :
    ∃ line ∈ Text.lines t, DiagnosticLine.parse? line = some e.head := by
  obtain ⟨line, hline, hrow⟩ := List.mem_map.mp (issue_mem_of_mem_gather he)
  refine ⟨line, hline, ?_⟩
  unfold row at hrow
  split at hrow
  · cases hrow
  · split at hrow
    · next hparse => rw [hparse, Row.issue.inj hrow]
    · cases hrow

/-- An echo is on one line each, where the directory has no newline in it. -/
theorem Entry.newline_not_mem_echo {t : Text} {e : Entry} (he : e ∈ entries t) {cwd : Path} (hcwd : '\n' ∉ cwd) :
    ∀ line ∈ e.echo cwd, '\n' ∉ line := by
  have hplain := entries_plain t e he
  have hfile : '\n' ∉ Path.resolve cwd e.head.file := by
    obtain ⟨line, hline, hparse⟩ := exists_line_of_mem_entries he
    intro hmem
    rcases Path.mem_resolve hmem with hmem | hmem | hmem
    · exact hcwd hmem
    · exact Text.not_mem_of_mem_lines hline ((DiagnosticLine.file_infix hparse).subset hmem)
    · cases hmem
  have hnumber : '\n' ∉ Numeral.write e.head.line :=
    fun h => absurd (Numeral.mem_write_isDigit h) (by decide)
  intro line hline
  rcases List.mem_cons.mp hline with rfl | hline
  · simp [hfile, hnumber, hplain.head]
  · obtain ⟨more, hmore, rfl⟩ := List.mem_map.mp hline
    simpa using hplain.more more hmore

/-- The echo and the diagnostics of an output say the same: the echo is written from the diagnostics, each by where it
is and the lines of its message. No line of it is blank, and none has a newline in it that was not in the
directory's path. -/
theorem echo_of_diagnostics (cwd : Path) (severity : Severity) (t : Text) :
    echo cwd t = (diagnostics cwd severity t).flatMap Diagnostic.echo ∧ (∀ line ∈ echo cwd t, line ≠ []) ∧
      ('\n' ∉ cwd → ∀ line ∈ echo cwd t, '\n' ∉ line) := by
  have hecho := echo_eq_flatMap cwd severity t
  refine ⟨hecho, fun line hline => ?_, fun hcwd line hline => ?_⟩
  · rw [hecho] at hline
    exact Diagnostic.ne_nil_of_mem_echoes hline
  · obtain ⟨e, he, hline⟩ := List.mem_flatMap.mp hline
    exact e.newline_not_mem_echo he hcwd line hline

/-- A further line that is empty is echoed by its tab alone. -/
theorem echo_of_diagnostics_tabs :
    let t := "a.go:3:1:tag: odd\r\n\tmore\n# noise\n\t\n".toList
    (diagnostics "/p".toList .warning t).flatMap Diagnostic.echo =
        ["/p/a.go:3: odd".toList, "\tmore".toList, "\t".toList] ∧
      ∀ line ∈ echo "/p".toList t, line ≠ [] ∧ '\n' ∉ line := by
  intro t
  obtain ⟨hecho, hblank, hnewline⟩ := echo_of_diagnostics "/p".toList .warning t
  refine ⟨hecho.symm.trans (by decide +kernel), fun line hline => ⟨hblank line hline, ?_⟩⟩
  exact hnewline (by decide) line hline

end Listing

end SaveCheck
