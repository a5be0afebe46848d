import SaveCheck.Diagnostic.Listing
import SaveCheck.Proofs.IssueLine

/-!
Reading undoes writing for whole outputs of a tool.

    ⇥lost                          before the first issue
    main.go:3:2: undefined: foo    an issue
    # example.com/proj             noise, here or anywhere else
    ⇥more detail                   goes on with the issue

Whatever stands around the issues and however the lines end, each issue is read once, in order and with
all its lines.
-/

namespace SaveCheck

/-- The lines of an issue. -/
def Issue.lines (i : Issue) : List Text := i.head :: i.more.map ('\t' :: ·)

/-- The diagnostic of an issue that a tool reports while it runs in `cwd`. -/
def Issue.diagnostic (cwd : Path) (severity : Severity) (i : Issue) : Diagnostic where
  file := Path.resolve cwd i.file
  line := i.line
  column := i.column
  message := ['\n'].intercalate (i.message :: i.more)
  severity := severity

/-- The lines that echo an issue. -/
def Issue.echo (cwd : Path) (i : Issue) : List Text :=
  (Path.resolve cwd i.file ++ ':' :: Numeral.write i.line ++ ": ".toList ++ i.message)
    :: i.more.map ('\t' :: ·)

namespace Listing
open Text (LineEnd OnLine)

/-- Elements with others put in between, before and behind them. -/
inductive Padded {α : Type} (P : α → Prop) : List α → List α → Prop where
  | nil : Padded P [] []
  | keep {a : α} {as bs : List α} : Padded P as bs → Padded P (a :: as) (a :: bs)
  | pad {b : α} {as bs : List α} : P b → Padded P as bs → Padded P as (b :: bs)

/-- A line that counts for nothing: it begins with no tab, and is not read as an issue. -/
structure Noise (t : Text) : Prop where
  onLine : OnLine t
  tab : t.head? ≠ some '\t'
  issue : DiagnosticLine.parse? t = none

/-- A line that begins with a tab. -/
def TabLed (t : Text) : Prop := ∃ rest, t = '\t' :: rest ∧ '\n' ∉ rest

/-! ### Rows -/

theorem row_eq {t : Text} (h : t.head? ≠ some '\t') :
    row t = match DiagnosticLine.parse? t with
      | some line => .issue line
      | none => .noise := by
  unfold row
  split
  · next rest => exact absurd rfl h
  · rfl

theorem row_head {i : Issue} (h : i.Proper) : row i.head = .issue i.read := by
  rw [row_eq h.head, DiagnosticLine.parse?_head h]

theorem row_noise {t : Text} (h : Noise t) : row t = .noise := by
  rw [row_eq h.tab, h.issue]

/-- The row of a line as it stands in an output. -/
def rowOf (l : Text × LineEnd) : Row := row (Text.chomp (l.1 ++ l.2.text))

theorem rowOf_eq {l : Text × LineEnd} (h : OnLine l.1) : rowOf l = row l.1 := by
  rw [rowOf, Text.chomp_append l.2 h.2]

theorem rowOf_tabLed {l : Text × LineEnd} (h : TabLed l.1) : ∃ t, rowOf l = .more t := by
  obtain ⟨line, stop⟩ := l
  obtain ⟨rest, rfl, -⟩ := h
  obtain ⟨t, ht⟩ := Text.chomp_cons rest stop (by decide : '\t' ≠ '\r')
  exact ⟨t, by rw [rowOf, ht]; rfl⟩

/-! ### Gathering -/

theorem gather_cons_more (t : Text) (rest : List Row) :
    gather (.more t :: rest) = (t :: (gather rest).1, (gather rest).2) := rfl

theorem gather_cons_issue (line : DiagnosticLine) (rest : List Row) :
    gather (.issue line :: rest) = ([], ⟨line, (gather rest).1⟩ :: (gather rest).2) := rfl

theorem gather_cons_noise (rest : List Row) : gather (.noise :: rest) = gather rest := rfl

theorem gather_more (ts : List Text) (rest : List Row) :
    gather (ts.map Row.more ++ rest) = (ts ++ (gather rest).1, (gather rest).2) := by
  induction ts with
  | nil => rfl
  | cons t ts ih => rw [List.map_cons, List.cons_append, gather, ih]; rfl

/-- Lines that go on with nothing are lost. -/
theorem gather_lead (lead rest : List Row) (h : ∀ r ∈ lead, ∃ t, r = .more t) :
    (gather (lead ++ rest)).2 = (gather rest).2 := by
  induction lead with
  | nil => rfl
  | cons r lead ih =>
    obtain ⟨t, rfl⟩ := h r List.mem_cons_self
    rw [List.cons_append, gather]
    exact ih fun r hr => h r (List.mem_cons_of_mem _ hr)

/-- Issues that follow each other are gathered each with its own lines. -/
theorem gather_issues : ∀ {issues : List Issue}, (∀ i ∈ issues, i.Proper) →
    gather ((issues.flatMap Issue.lines).map row) = ([], issues.map fun i => ⟨i.read, i.more⟩)
  | [], _ => rfl
  | i :: issues, h => by
    have ih := gather_issues fun j hj => h j (List.mem_cons_of_mem _ hj)
    have hmore : (i.more.map ('\t' :: ·)).map row = i.more.map Row.more := by
      rw [List.map_map]; rfl
    rw [List.flatMap_cons, List.map_append, Issue.lines, List.map_cons, hmore,
      row_head (h i List.mem_cons_self), List.cons_append, gather, gather_more, ih]
    simp

/-- Noise changes nothing. -/
theorem gather_padded {ls all : List (Text × LineEnd)} (h : Padded (Noise ·.1) ls all) :
    gather (all.map rowOf) = gather (ls.map rowOf) := by
  induction h with
  | nil => rfl
  | @keep l _ _ _ ih =>
    rw [List.map_cons, List.map_cons]
    cases hrow : rowOf l <;> rw [gather, gather, ih]
  | pad hnoise _ ih =>
    rw [List.map_cons, rowOf_eq hnoise.onLine, row_noise hnoise, gather, ih]

theorem Padded.forall {α : Type} {P Q : α → Prop} {as bs : List α} (h : Padded P as bs)
    (has : ∀ a ∈ as, Q a) (hP : ∀ b, P b → Q b) : ∀ b ∈ bs, Q b := by
  induction h with
  | nil => exact has
  | keep _ ih =>
    obtain ⟨ha, has⟩ := List.forall_mem_cons.mp has
    exact List.forall_mem_cons.mpr ⟨ha, ih has⟩
  | pad hb _ ih => exact List.forall_mem_cons.mpr ⟨hP _ hb, ih has⟩

theorem onLine_cons {c : Char} {t : Text} (h : OnLine t) (hnewline : c ≠ '\n')
    (hreturn : c ≠ '\r') : OnLine (c :: t) := by
  refine ⟨by simpa using ⟨Ne.symm hnewline, h.1⟩, ?_⟩
  rw [List.getLast?_cons]
  cases hlast : t.getLast? with
  | none => simpa using hreturn
  | some d => simpa using fun e => h.2 (hlast.trans (congrArg some e))

theorem onLine_append {c : Char} {before t : Text} (h : OnLine (c :: t)) (hbefore : '\n' ∉ before) :
    OnLine (before ++ c :: t) := by
  refine ⟨fun hmem => ?_, ?_⟩
  · rcases List.mem_append.mp hmem with hmem | hmem
    · exact hbefore hmem
    · exact h.1 hmem
  · rw [List.getLast?_append, List.getLast?_cons, Option.some_or, ← List.getLast?_cons]
    exact h.2

/-- The line of an issue is one line, since its message is and nothing before that ends a line. -/
theorem onLine_head {i : Issue} (h : i.Proper) : OnLine i.head := by
  have hdigits : ∀ n, '\n' ∉ Numeral.write n :=
    fun n hn => absurd (Numeral.mem_write_isDigit hn) (by decide)
  have hmessage : OnLine (' ' :: i.message) :=
    onLine_cons (h.message _ List.mem_cons_self) (by decide) (by decide)
  have htag : '\n' ∉ Issue.tagText i.tag := by
    cases ht : i.tag with
    | none => simp [Issue.tagText]
    | some t =>
      have hnewline : Text.isWord '\n' = false := by decide +kernel
      intro hmem
      rcases List.mem_append.mp hmem with hmem | hmem
      · exact absurd ((h.tag t ht).2.1 _ hmem) (by simp [hnewline])
      · exact absurd hmem (by decide)
  have hcolumn : '\n' ∉ Issue.columnText i.column := by
    cases i.column with
    | none => simp [Issue.columnText]
    | some c => simpa [Issue.columnText] using hdigits c
  have hposition : OnLine i.position := by
    rw [Issue.position, ← List.append_assoc]
    refine onLine_append (onLine_cons (onLine_append hmessage htag) (by decide) (by decide)) ?_
    simpa [hdigits] using hcolumn
  have hbody : OnLine i.body :=
    onLine_append (onLine_cons hposition (by decide) (by decide)) h.file.2
  rw [Issue.head]
  cases hlabel : i.label with
  | none => exact hbody
  | some l =>
    refine onLine_append (onLine_cons (onLine_cons hbody ?_ ?_) ?_ ?_) (h.label l hlabel).2 <;> decide

theorem onLine_lines {i : Issue} (h : i.Proper) : ∀ t ∈ i.lines, OnLine t := by
  intro t ht
  rcases List.mem_cons.mp ht with rfl | ht
  · exact onLine_head h
  · obtain ⟨m, hm, rfl⟩ := List.mem_map.mp ht
    exact onLine_cons (h.message m (List.mem_cons_of_mem _ hm)) (by decide) (by decide)

/-! ### Whole outputs -/

section
variable {issues : List Issue} {lead : List Text} {written output : List (Text × LineEnd)}

/-- The issues of an output are those that were written. -/
theorem entries_writeLines (hissues : ∀ i ∈ issues, i.Proper) (hlead : ∀ t ∈ lead, TabLed t)
    (hwritten : written.map (·.1) = lead ++ issues.flatMap Issue.lines)
    (houtput : Padded (Noise ·.1) written output) :
    entries (Text.writeLines output) = issues.map fun i => ⟨i.read, i.more⟩ := by
  obtain ⟨first, rest, rfl, hfirst, hrest⟩ := List.map_eq_append_iff.mp hwritten
  have hfirst : ∀ l ∈ first, TabLed l.1 :=
    fun l hl => hlead l.1 (hfirst ▸ List.mem_map_of_mem hl)
  have hrest' : ∀ l ∈ rest, OnLine l.1 := by
    intro l hl
    obtain ⟨i, hi, hmem⟩ := List.mem_flatMap.mp (hrest ▸ List.mem_map_of_mem hl)
    exact onLine_lines (hissues i hi) l.1 hmem
  have hnewline : ∀ l ∈ output, '\n' ∉ l.1 := by
    refine houtput.forall (fun l hl => ?_) fun l hl => hl.onLine.1
    rcases List.mem_append.mp hl with hl | hl
    · obtain ⟨rest, he, hn⟩ := hfirst l hl
      rw [he]
      simpa using hn
    · exact (hrest' l hl).1
  have hrows : (Text.lines (Text.writeLines output)).map row = output.map rowOf := by
    rw [Text.lines_writeLines hnewline, List.map_map]; rfl
  have hissueRows : rest.map rowOf = (issues.flatMap Issue.lines).map row := by
    rw [← hrest, List.map_map]
    exact List.map_congr_left fun l hl => rowOf_eq (hrest' l hl)
  have hlead : ∀ r ∈ first.map rowOf, ∃ t, r = .more t := by
    intro r hr
    obtain ⟨l, hl, rfl⟩ := List.mem_map.mp hr
    exact rowOf_tabLed (hfirst l hl)
  rw [entries, hrows, gather_padded houtput, List.map_append, gather_lead _ _ hlead, hissueRows,
    gather_issues hissues]

theorem intercalate_newline (t : Text) : ∀ ts : List Text,
    ['\n'].intercalate (t :: ts) = t ++ ts.flatMap ('\n' :: ·)
  | [] => by simp [List.intercalate]
  | u :: ts => by
    have ih := intercalate_newline u ts
    simp only [List.intercalate, List.intersperse_cons_cons, List.flatten_cons] at ih ⊢
    rw [ih]
    simp

/-- Reading undoes writing: the diagnostics of an output are those of the issues that were written,
and the echo is theirs, whatever noise stands between their lines, whatever lines that begin with a tab
come first, and however the lines end. -/
theorem diagnostics_writeLines (cwd : Path) (severity : Severity) (issues : List Issue)
    (lead : List Text) (written output : List (Text × LineEnd))
    (hissues : ∀ i ∈ issues, i.Proper) (hlead : ∀ t ∈ lead, TabLed t)
    (hwritten : written.map (·.1) = lead ++ issues.flatMap Issue.lines)
    (houtput : Padded (Noise ·.1) written output) :
    diagnostics cwd severity (Text.writeLines output) = issues.map (Issue.diagnostic cwd severity) ∧
      echo cwd (Text.writeLines output) = issues.flatMap (Issue.echo cwd) := by
  have hentries := entries_writeLines hissues hlead hwritten houtput
  constructor
  · rw [diagnostics, hentries, List.map_map]
    refine List.map_congr_left fun i _ => ?_
    rw [Issue.diagnostic, intercalate_newline]; rfl
  · rw [echo, hentries, List.flatMap_map]; rfl

end

/-- An issue on a drive, with a label, and with a tag that is a numeral. -/
def driveIssue : Issue where
  label := some "vet".toList
  file := "C:a.go".toList
  line := 12
  column := some 3
  tag := some "42".toList
  message := "bad: x".toList
  more := ["more".toList]

theorem driveIssue_proper : driveIssue.Proper where
  label := by rintro _ ⟨⟩; decide
  file := ⟨Or.inr ⟨'C', "a.go".toList, rfl, by decide⟩, by decide⟩
  line := by decide
  column := by rintro _ ⟨⟩; decide
  tag := by rintro _ ⟨⟩; exact ⟨by decide, List.all_eq_true.mp (by decide +kernel), by rintro ⟨⟩⟩
  message := by decide
  head := by decide

/-- An issue with neither column nor message. -/
def bareIssue : Issue where
  file := "b.go".toList
  line := 7
  tag := some "v2".toList
  message := []

theorem bareIssue_proper : bareIssue.Proper where
  label := by rintro _ ⟨⟩
  file := ⟨Or.inl (by decide), by decide⟩
  line := by decide
  column := by rintro _ ⟨⟩
  tag := by
    rintro _ ⟨⟩
    exact ⟨by decide, List.all_eq_true.mp (by decide +kernel), fun _ => ⟨'v', by decide, by decide⟩⟩
  message := by decide
  head := by decide

theorem diagnostics_writeLines_mixed :
    diagnostics "/p".toList .error
        "\tlost\r\nvet: C:a.go:12:3:42: bad: x\n# noise\n\tmore\r\nb.go:7:v2: \n".toList =
      [⟨"/p/C:a.go".toList, 12, some 3, "bad: x\nmore".toList, .error⟩,
        ⟨"/p/b.go".toList, 7, none, [], .error⟩] := by
  have h := diagnostics_writeLines "/p".toList .error [driveIssue, bareIssue] ["\tlost".toList]
    [("\tlost".toList, .crlf), (driveIssue.head, .lf), ("\tmore".toList, .crlf), (bareIssue.head, .lf)]
    [("\tlost".toList, .crlf), (driveIssue.head, .lf), ("# noise".toList, .lf),
      ("\tmore".toList, .crlf), (bareIssue.head, .lf)]
    (by simp [driveIssue_proper, bareIssue_proper]) (by simp [TabLed]) rfl
    (.keep <| .keep <| .pad ⟨by decide, by decide, by decide +kernel⟩ <| .keep <| .keep .nil)
  exact h.1

end Listing

end SaveCheck
