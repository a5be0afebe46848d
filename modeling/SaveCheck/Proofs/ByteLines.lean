import SaveCheck.Proofs.AsciiCuts
import SaveCheck.Proofs.Streams
import SaveCheck.Proofs.TextLines

/-!
What a tool printed, line by line.

    61 e2 82 0d 0a ff 62    ── decodeLossy ──▶    "a�\r\n�b"
            │                                         │
          lines                                     lines
            ▼                                         ▼
    61 e2 82 · ff 62        ── decodeLossy ──▶    "a�" · "�b"

Bytes that are no text stay in their line: to decode the whole and then take it apart is to take the bytes apart and
decode each line alone. So nothing at the end of one line reaches the next one.
-/

namespace SaveCheck

namespace Text

variable {α : Type} [DecidableEq α]

/-! ### Lines of anything -/

/-- What stands before a newline, without the return that it may end in. -/
def dropReturn (cr : α) (cell : List α) : List α := if cell.getLast? = some cr then cell.dropLast else cell

/-- The lines of some cells. The last cell is what stands behind the last newline, and no line if that is nothing. -/
def closed (cr : α) : List (List α) → List (List α)
  | [] => []
  | [last] => if last = [] then [] else [last]
  | cell :: next :: rest => dropReturn cr cell :: closed cr (next :: rest)

/-- The lines between newlines, without the return right before a newline. -/
def linesBetween (lf cr : α) (xs : List α) : List (List α) := closed cr (cells (· = lf) xs)

theorem dropReturn_append (cr : α) (cell : List α) : dropReturn cr (cell ++ [cr]) = cell := by
  rw [dropReturn, if_pos (by simp), List.dropLast_concat]

theorem dropReturn_of_ne {cr : α} {cell : List α} (h : cell.getLast? ≠ some cr) : dropReturn cr cell = cell := if_neg h

theorem closed_cons (cr : α) (cell : List α) {rest : List (List α)} (hrest : rest ≠ []) :
    closed cr (cell :: rest) = dropReturn cr cell :: closed cr rest := by
  obtain ⟨next, rest, rfl⟩ := List.exists_cons_of_ne_nil hrest
  rfl

/-! ### Lines of text -/

theorem chomp_newline (line : Text) : chomp (line ++ ['\n']) = dropReturn '\r' line := by
  by_cases h : line.getLast? = some '\r'
  · obtain ⟨front, rfl⟩ := List.getLast?_eq_some_iff.mp h
    rw [dropReturn_append, List.append_assoc]
    exact chomp_crlf front
  · rw [dropReturn_of_ne h]
    exact chomp_append .lf h

theorem chomp_of_not_mem {line : Text} (h : '\n' ∉ line) : chomp line = line := by
  rw [chomp]
  split
  · next r hr => exact absurd (List.mem_reverse.mp (hr ▸ List.mem_cons_self)) h
  · next r _ hr => exact absurd (List.mem_reverse.mp (hr ▸ List.mem_cons_self)) h
  · rfl

theorem closed_cells_eq {ls : List Text} (h : RawLines ls) :
    closed '\r' (cells (· = '\n') ls.flatten) = ls.map chomp := by
  induction h with
  | nil => rfl
  | @last line hne hline =>
    rw [List.flatten_singleton, cells_of_not_mem hline, List.map_singleton, chomp_of_not_mem hline]
    exact if_neg hne
  | @cons line ls hline _ ih =>
    rw [List.flatten_cons, List.append_assoc, List.singleton_append, cells_append (by simp), cells_of_not_mem hline,
      List.singleton_append, closed_cons _ _ (cells_ne_nil _ _), ih, List.map_cons, chomp_newline]

theorem flatten_rawLines (t : Text) : (rawLines t).flatten = t := by
  induction t using rawLines.induct with
  | case1 => rfl
  | case2 r ih => rw [rawLines, List.flatten_cons, ih]; rfl
  | case3 c r hc hnone ih =>
    rw [hnone] at ih
    rw [rawLines.eq_3 _ _ hc, hnone, ← ih]
    rfl
  | case4 c r hc line rest hlines ih =>
    rw [hlines] at ih
    rw [rawLines.eq_3 _ _ hc, hlines, ← ih]
    rfl

/-- The lines of a text are those between its newlines. -/
theorem lines_eq (t : Text) : lines t = linesBetween '\n' '\r' t := by
  have h := closed_cells_eq (rawLines_rawLines t)
  rw [flatten_rawLines] at h
  exact h.symm

end Text

namespace Utf8

/-! ### Decoding line by line -/

/-- The lines of some bytes. -/
def lines (bs : Bytes) : List Bytes := Text.linesBetween 0x0a 0x0d bs

/-- An ASCII character cuts the text into what its byte cuts the bytes into. -/
theorem cells_decodeLossy {sep : Char} (hsep : sep.toNat < 0x80) (bs : Bytes) :
    Text.cells (· = sep) (decodeLossy bs) = (Text.cells (· = sep.toNat.toUInt8) bs).map decodeLossy := by
  -- without such a byte there is one cell on either side
  have hsingle : ∀ a : Bytes, sep.toNat.toUInt8 ∉ a → Text.cells (· = sep) (decodeLossy a) = [decodeLossy a] ∧
      Text.cells (· = sep.toNat.toUInt8) a = [a] := by
    refine fun a ha => ⟨Text.cells_of_not_mem fun h => ha (mem_of_mem_decodeLossy hsep h), ?_⟩
    exact Text.cells_of_forall_not fun b hb => decide_eq_false fun hbyte : b = _ => ha (hbyte ▸ hb)
  induction hlength : bs.length using Nat.strong_induction_on generalizing bs with
  | _ n ih =>
    by_cases hmem : sep.toNat.toUInt8 ∈ bs
    · obtain ⟨a, r, rfl, hfirst⟩ := List.eq_append_cons_of_mem hmem
      have hbyte : sep.toNat.toUInt8.toNat = sep.toNat := toNat_toUInt8 (by omega)
      have hless : r.length < n := by
        rw [← hlength]
        simp
        omega
      rw [decodeLossy_append_ascii (by omega), hbyte, Char.ofNat_toNat, Text.cells_append (by simp),
        Text.cells_append (by simp), (hsingle a hfirst).1, (hsingle a hfirst).2, ih r.length hless r rfl]
      rfl
    · rw [(hsingle bs hmem).1, (hsingle bs hmem).2]
      rfl

theorem dropReturn_decodeLossy {cr : Char} (hcr : cr.toNat < 0x80) (cell : Bytes) :
    Text.dropReturn cr (decodeLossy cell) = decodeLossy (Text.dropReturn cr.toNat.toUInt8 cell) := by
  have hbyte : cr.toNat.toUInt8.toNat = cr.toNat := toNat_toUInt8 (by omega)
  by_cases hlast : (decodeLossy cell).getLast? = some cr
  · obtain ⟨front, hfront⟩ := List.getLast?_eq_some_iff.mp hlast
    obtain ⟨a, r, rfl, rfl, hr⟩ := exists_cut hcr hfront
    obtain rfl := decodeLossy_eq_nil_iff.mp hr
    rw [hfront, Text.dropReturn_append, Text.dropReturn_append]
  · have hlast' : cell.getLast? ≠ some cr.toNat.toUInt8 := by
      intro h
      obtain ⟨front, rfl⟩ := List.getLast?_eq_some_iff.mp h
      rw [decodeLossy_append_ascii (by omega), hbyte, Char.ofNat_toNat] at hlast
      simp [decodeLossy, pieces] at hlast
    rw [Text.dropReturn_of_ne hlast, Text.dropReturn_of_ne hlast']

theorem closed_decodeLossy {cr : Char} (hcr : cr.toNat < 0x80) : ∀ cells : List Bytes,
    Text.closed cr (cells.map decodeLossy) = (Text.closed cr.toNat.toUInt8 cells).map decodeLossy
  | [] => rfl
  | [last] => by
    rw [List.map_singleton, Text.closed, Text.closed]
    simp only [decodeLossy_eq_nil_iff]
    split <;> rfl
  | cell :: next :: rest => by
    rw [List.map_cons, Text.closed_cons _ _ (by simp), closed_decodeLossy hcr (next :: rest),
      dropReturn_decodeLossy hcr]
    rfl

/-- The lines of decoded bytes are the lines of the bytes, each decoded alone. -/
theorem lines_decodeLossy (bs : Bytes) : Text.lines (decodeLossy bs) = (lines bs).map decodeLossy := by
  rw [Text.lines_eq, Text.linesBetween, cells_decodeLossy (by decide), closed_decodeLossy (by decide)]
  rfl

/-- The lines behind a newline are those of what stands there alone. -/
theorem lines_decodeLossy_append (a b : Bytes) :
    Text.lines (decodeLossy (a ++ 0x0a :: b)) =
      Text.lines (decodeLossy (a ++ [0x0a])) ++ Text.lines (decodeLossy b) := by
  have hcut : ∀ r : Bytes, decodeLossy (a ++ 0x0a :: r) = decodeLossy a ++ '\n' :: decodeLossy r :=
    decodeLossy_append_ascii (by decide) a
  have hwhole : Text.Whole (decodeLossy a ++ ['\n']) := .inr (by simp)
  have hnil : decodeLossy [] = [] := rfl
  rw [hcut, hcut, hnil, ← Text.lines_append hwhole, List.append_assoc, List.singleton_append]

end Utf8

/-! ### A run -/

/-- The issues in some lines. -/
def Listing.issuesIn (ls : List Text) : List Entry := (gather (ls.map row)).2

namespace ToolRun

variable {r : ToolRun} {h : Host} {s : Scene} {call : Call}

/-- A run is observed as if each line of the bytes that its tool printed had been decoded alone. Whatever stands in
front of a newline, the lines behind it stay the same. -/
theorem observed_by_line (hcall : r.launch h s.disk = .ok call) :
    let lines := (Utf8.lines ((h.outcome call).on r.stream)).map Utf8.decodeLossy
    let issues := Listing.issuesIn lines
    Text.lines (r.listing h call) = lines ∧
      r.Observed h s (issues.map (·.diagnostic r.dir r.severity))
        (r.headline :: issues.flatMap (·.echo r.dir) ++ [[]]) [] ∧
      ∀ a b : Bytes, Text.lines (Utf8.decodeLossy (a ++ 0x0a :: b)) =
        Text.lines (Utf8.decodeLossy (a ++ [0x0a])) ++ Text.lines (Utf8.decodeLossy b) := by
  intro lines issues
  have hlines : Text.lines (r.listing h call) = lines := Utf8.lines_decodeLossy _
  have hissues : Listing.entries (r.listing h call) = issues := by rw [Listing.entries, hlines]; rfl
  refine ⟨hlines, ?_, Utf8.lines_decodeLossy_append⟩
  have hobserved := Observed.of_launched hcall
  rwa [diagnostics, Listing.diagnostics, echo, Listing.echo, hissues] at hobserved

/-- What no text ends in: a sequence that a return breaks off, and a byte that is part of none. -/
def garbledBytes : Bytes :=
  Utf8.encode "a.go:1: odd".toList ++ [0xe2, 0x82, 0x0d, 0x0a] ++ Utf8.encode "b.go:2: so".toList ++ [0xff]

/-- The workshop with programs that print garbled bytes. -/
def garbledWorkshop : Host := Checker.workshop.withPrograms fun _ _ _ => { err := garbledBytes }

/-- The issue of either line, each with what is garbled in it. -/
def garbledFaults : List Diagnostic :=
  [⟨"/p/a.go".toList, 1, none, "odd\ufffd".toList, .warning⟩, ⟨"/p/b.go".toList, 2, none, "so\ufffd".toList, .warning⟩]

/-- Vetting finds both issues there. -/
theorem observed_by_line_garbled :
    let vet := Checker.vetRun "/b/go".toList {} "/p/a.go".toList "/p".toList
    Utf8.lines garbledBytes =
        [Utf8.encode "a.go:1: odd".toList ++ [0xe2, 0x82], Utf8.encode "b.go:2: so".toList ++ [0xff]] ∧
      ∃ lines, vet.Observed garbledWorkshop { disk := Checker.workshopDisk } garbledFaults lines [] := by
  intro vet
  obtain ⟨ds, lines, hobserved⟩ :
      ∃ ds lines, vet.Observed garbledWorkshop { disk := Checker.workshopDisk } ds lines [] :=
    ⟨_, _, (observed_by_line rfl).2.1⟩
  obtain rfl : ds = garbledFaults := hobserved.result.symm.trans (by decide +kernel)
  exact ⟨by decide +kernel, lines, hobserved⟩

end ToolRun

end SaveCheck
