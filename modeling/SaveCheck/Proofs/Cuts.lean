import SaveCheck.Proofs.IssueLine
import SaveCheck.Proofs.Pieces

/-!
Cuts, words and blanks of a text.

    "a:b:1.2 3"  ── cutLast ──▶  "a:b" · "1.2 3"      "1.2 3"  ── words ──▶  "1.2" · "3"

A cut loses the character it is made at and nothing else, so it can be undone.
-/

namespace SaveCheck

namespace Text

theorem cutLast_append {sep : Char} {after : Text} (before : Text) (h : sep ∉ after) :
    cutLast sep (before ++ sep :: after) = some (before, after) := by
  have hcut : cut sep (after.reverse ++ sep :: before.reverse) = some (after.reverse, before.reverse) :=
    cut_append _ (by simpa using h)
  rw [cutLast, List.reverse_append, List.reverse_cons, List.append_assoc, List.singleton_append, hcut]
  simp

/-- A cut takes a text apart and loses the character it is made at. -/
theorem eq_of_cut {sep : Char} {t before after : Text} (h : cut sep t = some (before, after)) :
    t = before ++ sep :: after := by
  rw [cut] at h
  split at h
  · cases h
  · next c rest hdrop =>
    obtain ⟨rfl, rfl⟩ := Prod.mk.inj (Option.some.inj h)
    have hc : c = sep := by
      have hstop := List.head?_dropWhile_not (· ≠ sep) t
      rw [hdrop] at hstop
      simpa using hstop
    rw [← hc, ← hdrop, hc, List.takeWhile_append_dropWhile]

theorem eq_of_cutLast {sep : Char} {t before after : Text} (h : cutLast sep t = some (before, after)) :
    t = before ++ sep :: after := by
  obtain ⟨⟨b, a⟩, hcut, he⟩ := Option.map_eq_some_iff.mp h
  obtain ⟨rfl, rfl⟩ := Prod.mk.inj he
  rw [← List.reverse_inj, eq_of_cut hcut]
  simp

theorem eq_of_after? : ∀ {head t rest : Text}, after? head t = some rest → t = head ++ rest
  | [], t, rest, h => Option.some.inj h
  | _ :: _, [], _, h => by cases h
  | c :: head, d :: t, rest, h => by
    rw [after?] at h
    split at h
    · next hcd => rw [hcd, eq_of_after? h, List.cons_append]
    · cases h

theorem after?_append : ∀ head rest : Text, after? head (head ++ rest) = some rest
  | [], _ => rfl
  | c :: head, rest => by rw [List.cons_append, after?, if_pos rfl, after?_append head rest]

theorem startsWith_iff {head t : Text} : startsWith head t = true ↔ ∃ rest, t = head ++ rest := by
  rw [startsWith, Option.isSome_iff_exists]
  constructor
  · rintro ⟨rest, hrest⟩
    exact ⟨rest, eq_of_after? hrest⟩
  · rintro ⟨rest, rfl⟩
    exact ⟨rest, after?_append head rest⟩

theorem endsWith_iff {tail t : Text} : endsWith tail t = true ↔ ∃ before, t = before ++ tail := by
  rw [endsWith, startsWith_iff]
  constructor
  · rintro ⟨rest, hrest⟩
    refine ⟨rest.reverse, ?_⟩
    rw [← List.reverse_inj, hrest]
    simp
  · rintro ⟨before, rfl⟩
    exact ⟨before.reverse, List.reverse_append⟩

/-! ### Blanks -/

theorem isBlank_of_isDigit {c : Char} (h : c.isDigit = true) : isBlank c = false := by
  simp only [Char.isDigit, Bool.and_eq_true, decide_eq_true_eq, ge_iff_le, UInt32.le_iff_toNat_le] at h
  have hdigit : 48 ≤ c.toNat ∧ c.toNat ≤ 57 := h
  clear h
  simp only [isBlank, inRanges, blankRanges, List.any_cons, List.any_nil, Bool.or_eq_false_iff,
    Bool.and_eq_false_iff, decide_eq_false_iff_not, and_true]
  omega

/-- A word before a blank is the first of the words. -/
theorem words_append {word : Text} (rest : Text) (hne : word ≠ []) (hword : ∀ c ∈ word, isBlank c = false) :
    words (word ++ ' ' :: rest) = word :: words rest := by
  rw [words, cells_append (by decide +kernel), cells_of_forall_not hword, List.singleton_append,
    List.filter_cons_of_pos (by simpa using hne), ← words]

theorem words_single {word : Text} (hne : word ≠ []) (hword : ∀ c ∈ word, isBlank c = false) :
    words word = [word] := by
  rw [words, cells_of_forall_not hword, List.filter_cons_of_pos (by simpa using hne), List.filter_nil]

/-- A text that neither begins nor ends with a blank. -/
def Trimmed (t : Text) : Prop := (∀ c ∈ t.head?, isBlank c = false) ∧ ∀ c ∈ t.getLast?, isBlank c = false

theorem trimStart_eq_self {t : Text} (h : ∀ c ∈ t.head?, isBlank c = false) : trimStart t = t := by
  cases t with
  | nil => rfl
  | cons c t => exact List.dropWhile_cons_of_neg (by simp [h c rfl])

theorem trim_eq_self {t : Text} (h : Trimmed t) : trim t = t := by
  rw [trim, trimStart_eq_self h.1, trimStart_eq_self (by simpa using h.2), List.reverse_reverse]

theorem trim_cons {c : Char} (t : Text) (h : isBlank c = true) : trim (c :: t) = trim t := by
  have hstart : trimStart (c :: t) = trimStart t := List.dropWhile_cons_of_pos h
  rw [trim, hstart, ← trim]

theorem head?_trimStart (t : Text) : ∀ c ∈ (trimStart t).head?, isBlank c = false := by
  intro c hc
  have hstop := List.head?_dropWhile_not isBlank t
  rw [trimStart] at hc
  rw [Option.mem_def.mp hc] at hstop
  exact hstop

theorem trimmed_trim (t : Text) : Trimmed (trim t) := by
  refine ⟨fun c hc => ?_, by simpa [trim] using head?_trimStart (trimStart t).reverse⟩
  -- what is dropped at the end leaves the front alone
  obtain ⟨dropped, hdropped⟩ : trim t <+: trimStart t := by
    have hsuffix := List.dropWhile_suffix isBlank (l := (trimStart t).reverse)
    simpa [trim, trimStart] using List.reverse_prefix.mpr hsuffix
  refine head?_trimStart t c ?_
  rw [← hdropped, List.head?_append, Option.mem_def.mp hc]
  rfl

theorem mem_of_mem_trim {t : Text} {c : Char} (h : c ∈ trim t) : c ∈ t := by
  rw [trim, List.mem_reverse] at h
  exact (List.dropWhile_sublist _).mem (List.mem_reverse.mp ((List.dropWhile_sublist _).mem h))

end Text

end SaveCheck
