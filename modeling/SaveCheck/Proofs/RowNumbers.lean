import SaveCheck.Proofs.Profiles

/-!
Which line a profile is rejected for, and the number that it is told by.

                            line    told as
    (blank)                   1
    mode: set                 2        1
    a.go:1.1,2.2 1 1          3        2
    (blank)                   4
    a.go:3.3                  5        3      ◀── the first line behind the mode that is no block

The line is always the first that is neither blank nor a block. But the lines are numbered when the blank ones are
gone already, so the number is that of the line in the text just where no blank line stands above it.
-/

namespace SaveCheck

theorem Numeral.write_inj {m n : Nat} (h : write m = write n) : m = n := by
  rw [← value_write m, h, value_write]

namespace Coverage

/-- The lines that are not blank. -/
def counting (ls : List Text) : List Text := ls.filter (! isBlankLine ·)

theorem counting_append_cons {above below : List Text} {row : Text} (hcounts : isBlankLine row = false) :
    counting (above ++ row :: below) = counting above ++ row :: counting below := by
  simp [counting, hcounts]

/-- The first line of a text that is not blank begins as a line does that tells the mode. -/
def Moded (t : Text) : Prop :=
  ∃ header, (Text.lines t).find? (! isBlankLine ·) = some header ∧ Text.startsWith "mode:".toList header = true

/-- With some lines above it, a line of a text is the first behind the mode that is neither blank nor a block. -/
structure FirstBad (t : Text) (above : List Text) (row : Text) : Prop where
  placed : ∃ below, Text.lines t = above ++ row :: below
  counts : isBlankLine row = false
  bad : block? row = none
  behind : ∃ header rows, counting above = header :: rows ∧ ∀ r ∈ rows, (block? r).isSome

/-- What is told about a line that is no block. -/
def malformed (number : Nat) (row : Text) : Text :=
  "Malformed cover profile line ".toList ++ Numeral.write number ++ ": ".toList ++ row

theorem malformed_inj {m n : Nat} {row : Text} : malformed m row = malformed n row ↔ m = n := by
  constructor
  · intro h
    have hfront := List.append_cancel_right (List.append_cancel_right h)
    exact Numeral.write_inj (List.append_cancel_left hfront)
  · rintro rfl
    rfl

theorem message_badLine (number : Nat) (row : Text) :
    (ProfileError.badLine number row).message = malformed number row := rfl

/-! ### The first line that is no block -/

/-- Reading stops at the first line that is no block. -/
theorem blocksFrom_eq_error_iff {lines : List Text} {n : Nat} {e : ProfileError} : blocksFrom n lines = .error e ↔
    ∃ front row back, lines = front ++ row :: back ∧ (∀ r ∈ front, (block? r).isSome) ∧ block? row = none ∧
      e = .badLine (n + front.length) row := by
  induction lines generalizing n with
  | nil => simp [blocksFrom]
  | cons line rest ih =>
    simp only [blocksFrom, List.cons_eq_append_iff]
    cases hline : block? line with
    | none =>
      constructor
      · intro h
        exact ⟨[], line, rest, .inl ⟨rfl, rfl⟩, by simp, hline, (Except.error.inj h).symm⟩
      · rintro ⟨front, row, back, ⟨rfl, h⟩ | ⟨front, rfl, -⟩, hfront, -, rfl⟩
        · simp_all
        · simp [hline] at hfront
    | some b =>
      have hmap : (blocksFrom (n + 1) rest).map (b :: ·) = .error e ↔ blocksFrom (n + 1) rest = .error e := by
        cases blocksFrom (n + 1) rest <;> simp [Except.map]
      rw [hmap, ih]
      constructor
      · rintro ⟨front, row, back, rfl, hfront, hrow, rfl⟩
        refine ⟨line :: front, row, back, .inr ⟨front, rfl, rfl⟩, by simpa [hline] using hfront, hrow, ?_⟩
        rw [List.length_cons]
        congr 1
        omega
      · rintro ⟨front, row, back, ⟨rfl, h⟩ | ⟨front, rfl, rfl⟩, hfront, hrow, rfl⟩
        · simp_all
        · rw [List.forall_mem_cons] at hfront
          refine ⟨front, row, back, rfl, hfront.2, hrow, ?_⟩
          rw [List.length_cons]
          congr 1
          omega

section

variable {t header row : Text} {rows : List Text} (hrows : counting (Text.lines t) = header :: rows)
include hrows

/-- The first of the lines that count that is no block is a line of the text. -/
theorem exists_firstBad {front back : List Text} (hsplit : rows = front ++ row :: back)
    (hfront : ∀ r ∈ front, (block? r).isSome) (hrow : block? row = none) :
    ∃ above, FirstBad t above row ∧ counting above = header :: front := by
  rw [hsplit, ← List.cons_append, counting] at hrows
  obtain ⟨ls, rest, hlines, hls, hrest⟩ := List.filter_eq_append_iff.mp hrows
  obtain ⟨blanks, below, rfl, hblanks, hcounts, -⟩ := List.filter_eq_cons_iff.mp hrest
  have habove : counting (ls ++ blanks) = header :: front := by
    rw [counting, List.filter_append, hls, List.filter_eq_nil_iff.mpr hblanks, List.append_nil]
  refine ⟨ls ++ blanks, ⟨⟨below, ?_⟩, by simpa using hcounts, hrow, header, front, habove, hfront⟩, habove⟩
  rw [hlines, List.append_assoc]

theorem FirstBad.split {above : List Text} (h : FirstBad t above row) : ∃ front back,
    rows = front ++ row :: back ∧ (∀ r ∈ front, (block? r).isSome) ∧ counting above = header :: front := by
  obtain ⟨⟨below, hlines⟩, hcounts, -, header', front, habove, hfront⟩ := h
  rw [hlines, counting_append_cons hcounts, habove, List.cons_append] at hrows
  obtain ⟨rfl, rfl⟩ := List.cons.inj hrows
  exact ⟨front, counting below, rfl, hfront, habove⟩

end

/-- A text has one first bad line. -/
theorem FirstBad.unique {t row row' : Text} {above above' : List Text} (h : FirstBad t above row)
    (h' : FirstBad t above' row') : above = above' ∧ row = row' := by
  -- of two such lines the earlier one would be a block above the later one
  have hnever : ∀ {above mid : List Text} {row row' : Text}, FirstBad t above row →
      ¬ FirstBad t (above ++ row :: mid) row' := by
    intro above mid row row' h h'
    obtain ⟨header, rows, hrows, -⟩ := h.behind
    obtain ⟨header', rows', hrows', hblocks⟩ := h'.behind
    rw [counting_append_cons h.counts, hrows, List.cons_append] at hrows'
    have hmem : row ∈ rows' := by simp [← (List.cons.inj hrows').2]
    simpa [h.bad] using hblocks row hmem
  obtain ⟨below, hlines⟩ := h.placed
  obtain ⟨below', hlines'⟩ := h'.placed
  rcases List.append_eq_append_iff.mp (hlines.symm.trans hlines') with ⟨mid, rfl, hmid⟩ | ⟨mid, rfl, hmid⟩
  · rcases mid with _ | ⟨line, mid⟩
    · exact ⟨by simp, (List.cons.inj hmid).1⟩
    · obtain rfl := (List.cons.inj hmid).1
      exact absurd h' (hnever h)
  · rcases mid with _ | ⟨line, mid⟩
    · exact ⟨by simp, (List.cons.inj hmid).1.symm⟩
    · obtain rfl := (List.cons.inj hmid).1
      exact absurd h (hnever h')

/-! ### What is told about it -/

/-- A text with a mode is rejected for its first bad line, by its number among the lines that count. -/
theorem parse_eq_error_iff {t : Text} (hmode : Moded t) {e : ProfileError} : Profile.parse t = .error e ↔
    ∃ above row, FirstBad t above row ∧ e = .badLine ((counting above).length + 1) row := by
  obtain ⟨header, hheader, hstarts⟩ := hmode
  rw [← List.head?_filter, List.head?_eq_some_iff] at hheader
  obtain ⟨rows, hrows⟩ := hheader
  obtain ⟨mode, hafter⟩ := Option.isSome_iff_exists.mp hstarts
  have hmap : Profile.parse t = .error e ↔ blocksFrom 2 rows = .error e := by
    rw [Profile.parse, hrows]
    simp only [hafter]
    cases blocksFrom 2 rows <;> simp [Except.map]
  have hnumber : ∀ front : List Text, 2 + front.length = (header :: front).length + 1 := by
    intro front
    rw [List.length_cons]
    omega
  rw [hmap, blocksFrom_eq_error_iff]
  constructor
  · rintro ⟨front, row, back, hsplit, hfront, hrow, rfl⟩
    obtain ⟨above, hbad, habove⟩ := exists_firstBad hrows hsplit hfront hrow
    exact ⟨above, row, hbad, by rw [habove, hnumber]⟩
  · rintro ⟨above, row, hbad, rfl⟩
    obtain ⟨front, back, hsplit, hfront, habove⟩ := hbad.split hrows
    exact ⟨front, row, back, hsplit, hfront, hbad.bad, by rw [habove, hnumber]⟩

/-- A text with a mode is rejected just where a line behind the mode is neither blank nor a block. It is rejected for
the first such line, which is told as it stands. The number that is told is that of the line among the lines that
are not blank; so it is that of the line in the text just where none of the lines above is blank. -/
theorem parse_first_bad {t : Text} (hmode : Moded t) :
    ((∃ e, Profile.parse t = .error e) ↔ ∃ above row, FirstBad t above row) ∧
      ∀ above row, FirstBad t above row → ∃ e, Profile.parse t = .error e ∧
        e.message = malformed ((counting above).length + 1) row ∧
        (e.message = malformed (above.length + 1) row ↔ ∀ line ∈ above, isBlankLine line = false) := by
  refine ⟨⟨?_, ?_⟩, fun above row hbad => ?_⟩
  · rintro ⟨e, he⟩
    obtain ⟨above, row, hbad, -⟩ := (parse_eq_error_iff hmode).mp he
    exact ⟨above, row, hbad⟩
  · rintro ⟨above, row, hbad⟩
    exact ⟨_, (parse_eq_error_iff hmode).mpr ⟨above, row, hbad, rfl⟩⟩
  · refine ⟨_, (parse_eq_error_iff hmode).mpr ⟨above, row, hbad, rfl⟩, rfl, ?_⟩
    have hlength : (counting above).length = above.length ↔ ∀ line ∈ above, isBlankLine line = false := by
      simp [counting, List.length_filter_eq_length_iff]
    rw [message_badLine, malformed_inj, ← hlength]
    omega

/-- A text whose fifth line is its first bad one, with blank lines on either side of its mode. -/
def gappedText : Text := "\t\nmode: set\na.go:1.1,2.2 1 1\n\r\na.go:3.3\r\nlast".toList

/-- The fifth line of the text is told as the third. -/
theorem parse_first_bad_gapped : ∃ e, Profile.parse gappedText = .error e ∧
    e.message = "Malformed cover profile line 3: a.go:3.3".toList ∧
    e.message ≠ malformed 5 "a.go:3.3".toList := by
  have hmode : Moded gappedText := ⟨"mode: set".toList, by decide +kernel, by decide +kernel⟩
  have hbad : FirstBad gappedText ["\t".toList, "mode: set".toList, "a.go:1.1,2.2 1 1".toList, []] "a.go:3.3".toList :=
    ⟨⟨["last".toList], by decide +kernel⟩, by decide +kernel, by decide +kernel,
      "mode: set".toList, ["a.go:1.1,2.2 1 1".toList], by decide +kernel, by decide +kernel⟩
  obtain ⟨e, he, hmessage, hnumber⟩ := (parse_first_bad hmode).2 _ _ hbad
  refine ⟨e, he, hmessage.trans (by decide +kernel), fun h => ?_⟩
  have hnone := hnumber.mp h [] (by simp)
  revert hnone
  decide +kernel

/-- The number that is told is not always that of the line in the text. -/
theorem not_number_of_line : ¬ ∀ t, Moded t → ∀ e, Profile.parse t = .error e →
    ∃ above row, FirstBad t above row ∧ e.message = malformed (above.length + 1) row := by
  intro h
  have hbad : FirstBad "mode: set\n\nbad\n".toList ["mode: set".toList, []] "bad".toList :=
    ⟨⟨[], by decide +kernel⟩, by decide +kernel, by decide +kernel, "mode: set".toList, [], by decide +kernel, by simp⟩
  obtain ⟨above, row, hfirst, hmessage⟩ := h "mode: set\n\nbad\n".toList
    ⟨"mode: set".toList, by decide +kernel, by decide +kernel⟩ (.badLine 2 "bad".toList) (by decide +kernel)
  obtain ⟨rfl, rfl⟩ := hfirst.unique hbad
  revert hmessage
  decide +kernel

end Coverage

end SaveCheck
