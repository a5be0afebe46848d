import SaveCheck.Text

/-!
The lines of a text that is put together line by line.

    "a" lf · "b" crlf   ── write ──▶   "a\nb\r\n"   ── lines ──▶   "a" · "b"
-/

namespace SaveCheck.Text

/-- How a line ends. -/
inductive LineEnd where
  | lf
  | crlf

/-- The characters that end a line. -/
def LineEnd.text : LineEnd → Text
  | .lf => ['\n']
  | .crlf => ['\r', '\n']

/-- Lines with their ends, one after the other. -/
def writeLines (ls : List (Text × LineEnd)) : Text := ls.flatMap fun (line, stop) => line ++ stop.text

/-- A text that a line can hold: it goes on to the line's end and leaves that end alone. -/
def OnLine (t : Text) : Prop := '\n' ∉ t ∧ t.getLast? ≠ some '\r'

instance : DecidablePred OnLine := fun t => inferInstanceAs (Decidable ('\n' ∉ t ∧ _))

theorem rawLines_newline : ∀ (line rest : Text), '\n' ∉ line →
    rawLines (line ++ '\n' :: rest) = (line ++ ['\n']) :: rawLines rest
  | [], _, _ => rfl
  | c :: line, rest, h => by
    have hc : c ≠ '\n' := fun e => h (e ▸ List.mem_cons_self)
    have ih := rawLines_newline line rest fun hm => h (List.mem_cons_of_mem _ hm)
    rw [List.cons_append, rawLines.eq_3 _ _ hc, ih]
    rfl

theorem rawLines_writeLines : ∀ ls : List (Text × LineEnd), (∀ l ∈ ls, '\n' ∉ l.1) →
    rawLines (writeLines ls) = ls.map fun (line, stop) => line ++ stop.text
  | [], _ => rfl
  | (line, stop) :: ls, h => by
    have hline : '\n' ∉ line := h _ List.mem_cons_self
    have ih := rawLines_writeLines ls fun l hl => h l (List.mem_cons_of_mem _ hl)
    rw [writeLines] at ih ⊢
    rw [List.flatMap_cons, List.map_cons, ← ih]
    cases stop with
    | lf =>
      simp only [LineEnd.text, List.append_assoc, List.singleton_append]
      exact rawLines_newline _ _ hline
    | crlf =>
      have h := rawLines_newline (line ++ ['\r']) (ls.flatMap fun (line, stop) => line ++ stop.text)
        (by simpa using hline)
      simpa [LineEnd.text] using h

theorem lines_writeLines {ls : List (Text × LineEnd)} (h : ∀ l ∈ ls, '\n' ∉ l.1) :
    lines (writeLines ls) = ls.map fun (line, stop) => chomp (line ++ stop.text) := by
  rw [lines, rawLines_writeLines ls h, List.map_map]; rfl

theorem chomp_crlf (line : Text) : chomp (line ++ ['\r', '\n']) = line := by
  simp [chomp]

/-- Either end of a line goes, and nothing else. -/
theorem chomp_append {line : Text} (stop : LineEnd) (h : line.getLast? ≠ some '\r') :
    chomp (line ++ stop.text) = line := by
  cases stop with
  | crlf => exact chomp_crlf line
  | lf =>
    rw [List.getLast?_eq_head?_reverse] at h
    rw [chomp, LineEnd.text, List.reverse_append, List.reverse_singleton, List.singleton_append]
    split
    · next r he =>
      have hr : line.reverse = '\r' :: r := (List.cons.inj he).2
      simp [hr] at h
    · next r _ he => rw [← (List.cons.inj he).2, List.reverse_reverse]
    · next hne => exact absurd rfl (hne _)

/-- What a line loses it loses at its end. -/
theorem chomp_prefix (raw : Text) : chomp raw <+: raw := by
  rw [chomp]
  split
  · next r hr => exact ⟨['\r', '\n'], by rw [← List.reverse_inj]; simp [hr]⟩
  · next r _ hr => exact ⟨['\n'], by rw [← List.reverse_inj]; simp [hr]⟩
  · exact List.prefix_rfl

/-- The first character of a line stays, whatever the line ends in. -/
theorem chomp_cons {c : Char} (line : Text) (stop : LineEnd) (hc : c ≠ '\r') :
    ∃ rest, chomp (c :: line ++ stop.text) = c :: rest := by
  by_cases h : (c :: line).getLast? = some '\r'
  · cases stop with
    | crlf => exact ⟨line, chomp_crlf _⟩
    | lf =>
      obtain ⟨front, hfront⟩ := List.getLast?_eq_some_iff.mp h
      cases front with
      | nil => exact absurd (List.cons.inj hfront).1 hc
      | cons d front =>
        obtain ⟨rfl, hline⟩ := List.cons.inj hfront
        refine ⟨front, ?_⟩
        rw [hline, LineEnd.text, ← chomp_crlf (c :: front)]
        simp
  · exact ⟨line, chomp_append stop h⟩

/-! ### The lines of any text -/

/-- A newline stands at the end of a raw line or nowhere. -/
theorem not_mem_dropLast_of_mem_rawLines {t : Text} : ∀ {raw : Text}, raw ∈ rawLines t → '\n' ∉ raw.dropLast := by
  induction t using rawLines.induct with
  | case1 => simp [rawLines]
  | case2 r ih =>
    intro raw h
    rcases List.mem_cons.mp h with rfl | h
    · simp
    · exact ih h
  | case3 c r hc hnone =>
    intro raw h
    rw [rawLines.eq_3 _ _ hc, hnone] at h
    simp [List.mem_singleton.mp h]
  | case4 c r hc line rest hlines ih =>
    intro raw h
    rw [rawLines.eq_3 _ _ hc, hlines] at h
    rcases List.mem_cons.mp h with rfl | h
    · cases line with
      | nil => simp
      | cons d line =>
        have hline : '\n' ∉ (d :: line).dropLast := ih (by simp [hlines])
        rw [List.dropLast_cons_of_ne_nil (by simp), List.mem_cons, not_or]
        exact ⟨Ne.symm hc, hline⟩
    · exact ih (by simp [hlines, h])

theorem not_mem_chomp {raw : Text} (h : '\n' ∉ raw.dropLast) : '\n' ∉ chomp raw := by
  have htail : '\n' ∉ raw.reverse.tail := by rwa [List.tail_reverse, List.mem_reverse]
  rw [chomp]
  split
  · next r hr =>
    rw [hr, List.tail_cons, List.mem_cons, not_or] at htail
    simpa using htail.2
  · next r _ hr =>
    rw [hr] at htail
    simpa using htail
  · next hcr hlf =>
    rw [← List.mem_reverse]
    cases hr : raw.reverse with
    | nil => simp
    | cons c r =>
      rw [hr] at htail
      exact List.not_mem_cons_of_ne_of_not_mem (fun hc => hlf r (by rw [hr, hc])) htail

/-- No line holds a newline. -/
theorem not_mem_of_mem_lines {t line : Text} (h : line ∈ lines t) : '\n' ∉ line := by
  obtain ⟨raw, hraw, rfl⟩ := List.mem_map.mp h
  exact not_mem_chomp (not_mem_dropLast_of_mem_rawLines hraw)

/-! ### Texts put together and lines taken out -/

/-- Whether a text is empty or ends in a newline, so that a line begins behind it. -/
def Whole (t : Text) : Prop := t = [] ∨ t.getLast? = some '\n'

instance : DecidablePred Whole := fun t => inferInstanceAs (Decidable (t = [] ∨ _))

theorem Whole.tail {c d : Char} {r : Text} (h : Whole (c :: d :: r)) : Whole (d :: r) := by
  rcases h with h | h
  · cases h
  · exact .inr (by rwa [List.getLast?_cons_cons] at h)

theorem rawLines_ne_nil (c : Char) (r : Text) : rawLines (c :: r) ≠ [] := by
  by_cases hc : c = '\n'
  · rw [hc, rawLines]
    simp
  · rw [rawLines.eq_3 _ _ hc]
    split <;> simp

/-- The lines behind whole lines are lines of their own. -/
theorem rawLines_append {t : Text} (ht : Whole t) (u : Text) : rawLines (t ++ u) = rawLines t ++ rawLines u := by
  induction t using rawLines.induct with
  | case1 => rfl
  | case2 r ih =>
    have hr : Whole r := by
      cases r with
      | nil => exact .inl rfl
      | cons d r => exact ht.tail
    rw [List.cons_append, rawLines, rawLines, ih hr, List.cons_append]
  | case3 c r hc hnone =>
    cases r with
    | nil => exact absurd (ht.resolve_left (by simp)) (by simpa using hc)
    | cons d r => exact absurd hnone (rawLines_ne_nil d r)
  | case4 c r hc line rest hlines ih =>
    have hr : Whole r := by
      cases r with
      | nil => cases hlines
      | cons d r => exact ht.tail
    have happend : rawLines (r ++ u) = line :: (rest ++ rawLines u) := by rw [ih hr, hlines, List.cons_append]
    rw [List.cons_append, rawLines.eq_3 _ _ hc, rawLines.eq_3 _ _ hc, happend, hlines]
    rfl

theorem lines_append {t : Text} (ht : Whole t) (u : Text) : lines (t ++ u) = lines t ++ lines u := by
  rw [lines, rawLines_append ht, List.map_append]; rfl

/-- Lines of a text with their ends: only the last one may lack its newline. -/
inductive RawLines : List Text → Prop where
  | nil : RawLines []
  | last {line : Text} : line ≠ [] → '\n' ∉ line → RawLines [line]
  | cons {line : Text} {ls : List Text} : '\n' ∉ line → RawLines ls → RawLines ((line ++ ['\n']) :: ls)

theorem rawLines_of_not_mem : ∀ {line : Text}, line ≠ [] → '\n' ∉ line → rawLines line = [line]
  | [c], _, h => by
    have hc : c ≠ '\n' := fun e => h (e ▸ List.mem_cons_self)
    rw [rawLines.eq_3 _ _ hc, rawLines]
  | c :: d :: r, _, h => by
    have hc : c ≠ '\n' := fun e => h (e ▸ List.mem_cons_self)
    have ih : rawLines (d :: r) = [d :: r] :=
      rawLines_of_not_mem (by simp) fun hm => h (List.mem_cons_of_mem _ hm)
    rw [rawLines.eq_3 _ _ hc, ih]

/-- Lines put together are the lines of the whole. -/
theorem RawLines.rawLines_flatten {ls : List Text} (h : RawLines ls) : rawLines ls.flatten = ls := by
  induction h with
  | nil => rfl
  | last hne hline => rw [List.flatten_singleton, rawLines_of_not_mem hne hline]
  | @cons line ls hline _ ih =>
    rw [List.flatten_cons, List.append_assoc, List.singleton_append, rawLines_newline _ _ hline, ih]

theorem rawLines_rawLines (t : Text) : RawLines (rawLines t) := by
  induction t using rawLines.induct with
  | case1 => exact .nil
  | case2 r ih => exact .cons List.not_mem_nil ih
  | case3 c r hc hnone =>
    rw [rawLines.eq_3 _ _ hc, hnone]
    exact .last (by simp) (by simpa using Ne.symm hc)
  | case4 c r hc line rest hlines ih =>
    rw [hlines] at ih
    rw [rawLines.eq_3 _ _ hc, hlines]
    cases ih with
    | last _ hline => exact .last (by simp) (List.not_mem_cons_of_ne_of_not_mem (Ne.symm hc) hline)
    | cons hline hrest =>
      have hline := List.not_mem_cons_of_ne_of_not_mem (Ne.symm hc) hline
      exact RawLines.cons hline hrest

theorem RawLines.erase {raw : Text} {after : List Text} : ∀ {before : List Text},
    RawLines (before ++ raw :: after) → RawLines (before ++ after)
  | [], h => by
    cases h with
    | last => exact .nil
    | cons _ h => exact h
  | line :: before, h => by
    rw [List.cons_append] at h ⊢
    generalize hls : before ++ raw :: after = ls at h
    cases h with
    | last => simp at hls
    | cons hline h => exact .cons hline (erase (hls ▸ h))

/-- A text without one of its lines has its other lines. -/
theorem rawLines_erase {t raw : Text} {before after : List Text} (h : rawLines t = before ++ raw :: after) :
    rawLines (before ++ after).flatten = before ++ after :=
  (RawLines.erase (h ▸ rawLines_rawLines t)).rawLines_flatten

end SaveCheck.Text
