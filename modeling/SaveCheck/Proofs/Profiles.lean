import SaveCheck.Coverage.Profile
import SaveCheck.Proofs.Cuts
import SaveCheck.Proofs.TextLines

/-!
Cover profiles as they are written, and what reading makes of them.

    ⟨set, [b₁, b₂]⟩  ── rows ──▶  "mode: set" · b₁ · b₂  ── blank lines, line ends ──▶  text  ── parse ──▶  the same

A row is cut at its last colon, so the file of a block may hold anything but a newline. What can be read, however it
is written, can be written this way.
-/

namespace SaveCheck

theorem Numeral.readSigned?_write {n : Nat} (h : n < limit) : readSigned? (write n) = some n := by
  have hplus : ∀ digits, write n ≠ '+' :: digits := by
    intro digits he
    have hdigit : ('+' : Char).isDigit = true := mem_write_isDigit (n := n) (by simp [he])
    cases hdigit
  rw [readSigned?, read?_write h]
  exact hplus

theorem Numeral.lt_limit_of_read? {t : Text} {n : Nat} (h : read? t = some n) : n < limit := by
  rw [read?] at h
  split at h
  · next hread =>
    obtain rfl := Option.some.inj h
    exact of_decide_eq_true (Bool.and_eq_true_iff.mp hread).2
  · cases h

theorem Numeral.lt_limit_of_readSigned? {t : Text} {n : Nat} (h : readSigned? t = some n) : n < limit := by
  rw [readSigned?.eq_def] at h
  split at h <;> exact lt_limit_of_read? h

namespace Coverage

/-! ### Writing -/

/-- `line.column`. -/
def Position.write (p : Position) : Text := Numeral.write p.line ++ '.' :: Numeral.write p.column

/-- `start,stop`. -/
def Block.range (b : Block) : Text := b.start.write ++ ',' :: b.stop.write

/-- `file:range statements count`. -/
def Block.write (b : Block) : Text :=
  b.file ++ ':' :: (b.range ++ ' ' :: (Numeral.write b.statements ++ ' ' :: Numeral.write b.count))

/-- The rows of a profile: its mode and its blocks. -/
def Profile.rows (p : Profile) : List Text := ("mode: ".toList ++ p.mode) :: p.blocks.map Block.write

/-- Whether both numbers of a position can be counted. -/
def Position.Counted (p : Position) : Prop := p.line < Numeral.limit ∧ p.column < Numeral.limit

/-- What a block has to be like to stand on one line. -/
structure Block.Proper (b : Block) : Prop where
  file : '\n' ∉ b.file
  start : b.start.Counted
  stop : b.stop.Counted
  statements : b.statements < Numeral.limit
  count : b.count < Numeral.limit

/-- What a profile has to be like to be written. -/
structure Profile.Proper (p : Profile) : Prop where
  oneLine : '\n' ∉ p.mode
  trimmed : Text.Trimmed p.mode
  blocks : ∀ b ∈ p.blocks, b.Proper

/-- Rows with any number of blank lines between them, and an end to each line. -/
inductive Spaced : List Text → List (Text × Text.LineEnd) → Prop where
  | nil : Spaced [] []
  | row {row : Text} {rows : List Text} {ls : List (Text × Text.LineEnd)} (stop : Text.LineEnd) :
      Spaced rows ls → Spaced (row :: rows) ((row, stop) :: ls)
  | blank {line : Text} {rows : List Text} {ls : List (Text × Text.LineEnd)} (stop : Text.LineEnd) :
      (∀ c ∈ line, Text.isBlank c = true ∧ c ≠ '\n') → Spaced rows ls → Spaced rows ((line, stop) :: ls)

/-! ### Reading what is written -/

theorem position?_write {p : Position} (h : p.Counted) : position? p.write = some p := by
  have hdot : '.' ∉ Numeral.write p.line := by
    intro hmem
    cases Numeral.mem_write_isDigit hmem
  simp [position?, Position.write, Text.cut_append _ hdot, Numeral.readSigned?_write h.1,
    Numeral.readSigned?_write h.2]

/-- A position is digits and a dot. -/
theorem mem_position_write {p : Position} {c : Char} (h : c ∈ p.write) : c.isDigit = true ∨ c = '.' := by
  rcases List.mem_append.mp h with h | h
  · exact .inl (Numeral.mem_write_isDigit h)
  · exact (List.mem_cons.mp h).symm.imp Numeral.mem_write_isDigit id

theorem range?_range {b : Block} (h : b.Proper) : range? b.range = some (b.start, b.stop) := by
  have hcomma : ',' ∉ b.start.write := by
    intro hmem
    rcases mem_position_write hmem with h | h <;> cases h
  simp [range?, Block.range, Text.cut_append _ hcomma, position?_write h.start, position?_write h.stop]

theorem mem_range {b : Block} {c : Char} (h : c ∈ b.range) : c.isDigit = true ∨ c = '.' ∨ c = ',' := by
  rcases List.mem_append.mp h with h | h
  · exact (mem_position_write h).imp id .inl
  · rcases List.mem_cons.mp h with rfl | h
    · exact .inr (.inr rfl)
    · exact (mem_position_write h).imp id .inl

theorem not_isBlank_of_mem_range {b : Block} {c : Char} (h : c ∈ b.range) : Text.isBlank c = false := by
  rcases mem_range h with h | rfl | rfl
  · exact Text.isBlank_of_isDigit h
  · decide +kernel
  · decide +kernel

/-- No colon stands in a row behind the one that ends its file. -/
theorem colon_not_mem (b : Block) :
    ':' ∉ b.range ++ ' ' :: (Numeral.write b.statements ++ ' ' :: Numeral.write b.count) := by
  have hnumeral : ∀ n, ':' ∉ Numeral.write n := by
    intro n h
    cases Numeral.mem_write_isDigit h
  have hrange : ':' ∉ b.range := by
    intro h
    rcases mem_range h with h | h | h <;> cases h
  simp [hnumeral, hrange]

/-- A block is read from its row. -/
theorem block?_write {b : Block} (h : b.Proper) : block? b.write = some b := by
  have hnumeral : ∀ n, ∀ c ∈ Numeral.write n, Text.isBlank c = false :=
    fun n c hc => Text.isBlank_of_isDigit (Numeral.mem_write_isDigit hc)
  have hrange : b.range ≠ [] := by simp [Block.range]
  have hwords : Text.words (b.range ++ ' ' :: (Numeral.write b.statements ++ ' ' :: Numeral.write b.count)) =
      [b.range, Numeral.write b.statements, Numeral.write b.count] := by
    rw [Text.words_append _ hrange fun c => not_isBlank_of_mem_range,
      Text.words_append _ (Numeral.write_ne_nil _) (hnumeral _),
      Text.words_single (Numeral.write_ne_nil _) (hnumeral _)]
  simp [block?, Block.write, Text.cutLast_append _ (colon_not_mem b), hwords, range?_range h,
    Numeral.readSigned?_write h.statements, Numeral.readSigned?_write h.count]

theorem blocksFrom_write {bs : List Block} (h : ∀ b ∈ bs, b.Proper) (n : Nat) :
    blocksFrom n (bs.map Block.write) = .ok bs := by
  induction bs generalizing n with
  | nil => rfl
  | cons b bs ih =>
    rw [List.map_cons, blocksFrom, block?_write (h b List.mem_cons_self),
      ih (fun b hb => h b (List.mem_cons_of_mem _ hb)) (n + 1)]
    rfl

/-! ### Lines that count -/

/-- A row stays as it is on its line and is not blank. -/
structure Row (row : Text) : Prop where
  onLine : Text.OnLine row
  counts : isBlankLine row = false

theorem Spaced.newline_not_mem {rows : List Text} {ls : List (Text × Text.LineEnd)} (h : Spaced rows ls)
    (hrows : ∀ row ∈ rows, Row row) : ∀ l ∈ ls, '\n' ∉ l.1 := by
  induction h with
  | nil => simp
  | row stop _ ih =>
    simp only [List.mem_cons, forall_eq_or_imp] at hrows ⊢
    exact ⟨hrows.1.onLine.1, ih hrows.2⟩
  | blank stop hblank _ ih =>
    simp only [List.mem_cons, forall_eq_or_imp]
    exact ⟨fun hmem => (hblank _ hmem).2 rfl, ih hrows⟩

/-- A blank line is blank whatever it ends in. -/
theorem isBlankLine_chomp {line : Text} (stop : Text.LineEnd) (h : ∀ c ∈ line, Text.isBlank c = true) :
    isBlankLine (Text.chomp (line ++ stop.text)) = true := by
  have hall : stop.text.all Text.isBlank = true := by
    cases stop <;> decide +kernel
  have hstop := List.all_eq_true.mp hall
  refine List.all_eq_true.mpr fun c hc => ?_
  exact (List.mem_append.mp ((Text.chomp_prefix _).mem hc)).elim (h c) (hstop c)

/-- Only the rows of a text count. -/
theorem filter_lines_of_spaced {rows : List Text} {ls : List (Text × Text.LineEnd)} (h : Spaced rows ls)
    (hrows : ∀ row ∈ rows, Row row) : (Text.lines (Text.writeLines ls)).filter (! isBlankLine ·) = rows := by
  rw [Text.lines_writeLines (h.newline_not_mem hrows)]
  induction h with
  | nil => rfl
  | @row row rows ls stop _ ih =>
    have hrow := hrows row List.mem_cons_self
    rw [List.map_cons]
    dsimp only
    rw [Text.chomp_append stop hrow.onLine.2, List.filter_cons_of_pos (by rw [hrow.counts]; rfl),
      ih fun r hr => hrows r (List.mem_cons_of_mem _ hr)]
  | blank stop hblank _ ih =>
    rw [List.map_cons, List.filter_cons_of_neg, ih hrows]
    rw [isBlankLine_chomp stop fun c hc => (hblank c hc).1]
    simp

theorem isBlankLine_eq_false {line : Text} {c : Char} (hc : c ∈ line) (hblank : Text.isBlank c = false) :
    isBlankLine line = false := by
  rw [isBlankLine, List.all_eq_false]
  exact ⟨c, hc, by simp [hblank]⟩

theorem row_write {b : Block} (h : b.Proper) : Row b.write := by
  have hnewline : ∀ n, '\n' ∉ Numeral.write n := by
    intro n hmem
    cases Numeral.mem_write_isDigit hmem
  have hrange : '\n' ∉ b.range := by
    intro hmem
    rcases mem_range hmem with h | h | h <;> cases h
  -- the row ends in a digit
  have hlast : b.write.getLast? ≠ some '\r' := by
    have hends : b.write =
        (b.file ++ ':' :: (b.range ++ ' ' :: (Numeral.write b.statements ++ [' ']))) ++ Numeral.write b.count := by
      simp [Block.write]
    intro hcr
    rw [hends, List.getLast?_append_of_ne_nil _ (Numeral.write_ne_nil _)] at hcr
    cases Numeral.mem_write_isDigit (List.mem_of_getLast? hcr)
  exact ⟨⟨by simp [Block.write, h.file, hrange, hnewline], hlast⟩,
    isBlankLine_eq_false (c := ':') (by simp [Block.write]) (by decide +kernel)⟩

theorem row_header {p : Profile} (h : p.Proper) : Row ("mode: ".toList ++ p.mode) := by
  have hlast : ("mode: ".toList ++ p.mode).getLast? ≠ some '\r' := by
    rcases eq_or_ne p.mode [] with hnil | hne
    · rw [hnil]
      decide
    · rw [List.getLast?_append_of_ne_nil _ hne]
      intro hcr
      have hblank := h.trimmed.2 '\r' hcr
      revert hblank
      decide +kernel
  exact ⟨⟨by simp [h.oneLine], hlast⟩, isBlankLine_eq_false (c := 'm') (by simp) (by decide +kernel)⟩

/-- A profile is read from its rows. -/
theorem parse_writeLines {p : Profile} (h : p.Proper) {ls : List (Text × Text.LineEnd)} (hls : Spaced p.rows ls) :
    Profile.parse (Text.writeLines ls) = .ok p := by
  have hrows : ∀ row ∈ p.rows, Row row := by
    simp only [Profile.rows, List.mem_cons, List.mem_map, forall_eq_or_imp, forall_exists_index, and_imp,
      forall_apply_eq_imp_iff₂]
    exact ⟨row_header h, fun b hb => row_write (h.blocks b hb)⟩
  have hheader : Text.after? "mode:".toList ("mode: ".toList ++ p.mode) = some (' ' :: p.mode) := rfl
  have htrim : Text.trim (' ' :: p.mode) = p.mode := by
    rw [Text.trim_cons _ (by decide +kernel), Text.trim_eq_self h.trimmed]
  rw [Profile.parse, filter_lines_of_spaced hls hrows, Profile.rows]
  simp only [hheader, blocksFrom_write h.blocks, htrim]
  rfl

/-! ### What can be read -/

theorem counted_of_position? {t : Text} {p : Position} (h : position? t = some p) : p.Counted := by
  simp only [position?, Option.bind_eq_bind, Option.bind_eq_some_iff, Option.pure_def, Option.some.injEq] at h
  obtain ⟨⟨l, c⟩, -, line, hline, column, hcolumn, rfl⟩ := h
  exact ⟨Numeral.lt_limit_of_readSigned? hline, Numeral.lt_limit_of_readSigned? hcolumn⟩

theorem counted_of_range? {t : Text} {start stop : Position} (h : range? t = some (start, stop)) :
    start.Counted ∧ stop.Counted := by
  simp only [range?, Option.bind_eq_bind, Option.bind_eq_some_iff, Option.pure_def, Option.some.injEq,
    Prod.mk.injEq] at h
  obtain ⟨⟨s, t⟩, -, start, hstart, stop, hstop, rfl, rfl⟩ := h
  exact ⟨counted_of_position? hstart, counted_of_position? hstop⟩

/-- What can be read as a block can be written as one. -/
theorem proper_of_block? {line : Text} {b : Block} (h : block? line = some b) (hline : '\n' ∉ line) : b.Proper := by
  rw [block?, Option.bind_eq_bind, Option.bind_eq_some_iff] at h
  obtain ⟨⟨file, rest⟩, hcut, h⟩ := h
  have hfile : '\n' ∉ file := by
    rw [Text.eq_of_cutLast hcut, List.mem_append, not_or] at hline
    exact hline.1
  dsimp only at h
  split at h
  · simp only [Option.bind_eq_bind, Option.bind_eq_some_iff, Option.pure_def, Option.some.injEq] at h
    obtain ⟨⟨start, stop⟩, hrange, statements, hstatements, count, hcount, rfl⟩ := h
    obtain ⟨hstart, hstop⟩ := counted_of_range? hrange
    exact ⟨hfile, hstart, hstop, Numeral.lt_limit_of_readSigned? hstatements,
      Numeral.lt_limit_of_readSigned? hcount⟩
  · cases h

theorem proper_of_blocksFrom {n : Nat} {lines : List Text} {bs : List Block} (h : blocksFrom n lines = .ok bs)
    (hlines : ∀ line ∈ lines, '\n' ∉ line) : ∀ b ∈ bs, b.Proper := by
  induction lines generalizing n bs with
  | nil =>
    obtain rfl := Except.ok.inj h
    simp
  | cons line lines ih =>
    rw [blocksFrom] at h
    split at h
    · cases h
    · next b hb =>
      rw [List.forall_mem_cons] at hlines
      cases hrest : blocksFrom (n + 1) lines with
      | error e =>
        rw [hrest] at h
        cases h
      | ok rest =>
        rw [hrest] at h
        obtain rfl := Except.ok.inj h
        exact List.forall_mem_cons.mpr ⟨proper_of_block? hb hlines.1, ih hrest hlines.2⟩

/-- What can be read as a profile can be written as one. -/
theorem proper_of_parse {t : Text} {p : Profile} (h : Profile.parse t = .ok p) : p.Proper := by
  have hlines : ∀ line ∈ (Text.lines t).filter (! isBlankLine ·), '\n' ∉ line :=
    fun line hline => Text.not_mem_of_mem_lines (List.mem_filter.mp hline).1
  rw [Profile.parse] at h
  split at h
  · cases h
  · next header rest heq =>
    rw [heq, List.forall_mem_cons] at hlines
    split at h
    · cases h
    · next mode hmode =>
      have hheader : '\n' ∉ mode := by
        rw [Text.eq_of_after? hmode, List.mem_append, not_or] at hlines
        exact hlines.1.2
      cases hrest : blocksFrom 2 rest with
      | error e =>
        rw [hrest] at h
        cases h
      | ok bs =>
        rw [hrest] at h
        obtain rfl := Except.ok.inj h
        exact ⟨fun hmem => hheader (Text.mem_of_mem_trim hmem), Text.trimmed_trim mode,
          proper_of_blocksFrom hrest hlines.2⟩

/-- Whatever its line ends and the blank lines between its rows, a profile is read from its rows. And what is read
from any text at all can be written in rows, from which it is read again. -/
theorem parse_rows :
    (∀ p : Profile, p.Proper → ∀ ls, Spaced p.rows ls → Profile.parse (Text.writeLines ls) = .ok p) ∧
      ∀ t p, Profile.parse t = .ok p → ∀ ls, Spaced p.rows ls → Profile.parse (Text.writeLines ls) = .ok p :=
  ⟨fun _ h _ hls => parse_writeLines h hls, fun _ _ h _ hls => parse_writeLines (proper_of_parse h) hls⟩

/-- A block of a file whose name holds all that a row is cut at, with numbers as large as they get. -/
def oddBlock : Block := ⟨"c:/a b,c.go:1.2".toList, ⟨0, 18446744073709551615⟩, ⟨7, 2⟩, 18446744073709551615, 0⟩

def oddProfile : Profile := ⟨"set, or\rcount".toList, [oddBlock]⟩

/-- The profile is read from its rows with blank lines around them. And it is read from a text with other blanks,
with plus signs and with more than counts, so from its rows it is read again. -/
theorem parse_rows_oddProfile :
    Profile.parse (Text.writeLines [(" \r".toList, .lf), ("mode: set, or\rcount".toList, .crlf), ([], .lf),
      ("c:/a b,c.go:1.2:0.18446744073709551615,7.2 18446744073709551615 0".toList, .crlf)]) = .ok oddProfile ∧
    Profile.parse "mode:\tset, or\rcount \nc:/a b,c.go:1.2: 00.18446744073709551615,+7.02  18446744073709551615 +0 x".toList
      = .ok oddProfile ∧
    Profile.parse (Text.writeLines (oddProfile.rows.map (·, .lf))) = .ok oddProfile := by
  have hproper : oddProfile.Proper := by
    have hends : oddProfile.mode.head? = some 's' ∧ oddProfile.mode.getLast? = some 't' := by decide
    refine ⟨by decide, ⟨?_, ?_⟩, ?_⟩
    · rw [hends.1]
      rintro _ ⟨⟩
      decide +kernel
    · rw [hends.2]
      rintro _ ⟨⟩
      decide +kernel
    intro b hb
    obtain rfl := List.mem_singleton.mp hb
    exact ⟨by decide, ⟨by decide, by decide⟩, ⟨by decide, by decide⟩, by decide, by decide⟩
  have hodd : Profile.parse
      "mode:\tset, or\rcount \nc:/a b,c.go:1.2: 00.18446744073709551615,+7.02  18446744073709551615 +0 x".toList
      = .ok oddProfile := by decide +kernel
  refine ⟨parse_rows.1 _ hproper _ ?_, hodd, parse_rows.2 _ _ hodd _ ?_⟩
  · have hblank : " \r".toList.all (fun c => Text.isBlank c && c ≠ '\n') = true := by decide +kernel
    exact .blank .lf (by simpa using hblank) (.row .crlf (.blank .lf (by simp) (.row .crlf .nil)))
  · exact .row .lf (.row .lf .nil)

end Coverage

end SaveCheck
