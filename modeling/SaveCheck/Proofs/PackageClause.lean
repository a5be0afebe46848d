import SaveCheck.GoFile.Clause
import SaveCheck.Proofs.Cuts

/-!
The grammar of a package clause, and what is read from a source.

    [mark] filler package filler name rest

    filler    blanks · // to the end of its line · /* to the next */
    name      letters, digits and _, with none of the digits 0 to 9 in front
    rest      nothing, or something that the name does not go on with

A comment that the end of the source cuts off is no filler, and nothing can follow it that would make a clause.
However a source is taken apart, the name comes out the same.
-/

namespace SaveCheck

namespace Text

/-! ### Classes that share no character -/

/-- Whether no range of one list meets a range of the other. -/
def apart (rs rs' : List (Nat × Nat)) : Bool := rs.all fun r => rs'.all fun r' => r.2 < r'.1 || r'.2 < r.1

theorem not_inRanges_of_apart {rs rs' : List (Nat × Nat)} (hapart : apart rs rs' = true) {c : Char}
    (hc : inRanges rs c = true) : inRanges rs' c = false := by
  obtain ⟨r, hr, hin⟩ := List.any_eq_true.mp hc
  refine List.any_eq_false.mpr fun r' hr' hin' => ?_
  have hr := List.all_eq_true.mp (List.all_eq_true.mp hapart r hr) r' hr'
  simp only [Bool.and_eq_true, Bool.or_eq_true, decide_eq_true_eq] at hin hin' hr
  omega

/-- The ranges of all letters and numbers. -/
def alphanumericRanges : List (Nat × Nat) := alphabeticRanges ++ digitRanges ++ otherNumberRanges ++ addedRanges

theorem isAlphanumeric_eq (c : Char) : isAlphanumeric c = inRanges alphanumericRanges c := by
  simp only [isAlphanumeric, inRanges, alphanumericRanges, List.any_append]

theorem blankRanges_apart : apart blankRanges alphanumericRanges = true := by decide +kernel

end Text

namespace GoFile

/-! ### The grammar -/

/-- What may stand between words and counts for nothing: blanks and comments, in any number. -/
inductive Filler : Text → Prop where
  | nil : Filler []
  | blank {c : Char} {t : Text} : Text.isBlank c = true → Filler t → Filler (c :: t)
  | line {body t : Text} : '\n' ∉ body → Filler t → Filler ('/' :: '/' :: (body ++ '\n' :: t))
  | block {body t : Text} :
      ¬ ['*', '/'] <:+: body → Filler t → Filler ('/' :: '*' :: (body ++ '*' :: '/' :: t))

/-- A name that a package can have. -/
structure IsName (n : Text) : Prop where
  ne_nil : n ≠ []
  chars : ∀ c ∈ n, isNameChar c = true
  first : ∀ c ∈ n.head?, c.isDigit = false

/-- A source taken apart. -/
structure Clause where
  mark : Bool
  before : Text
  between : Text
  name : Text
  rest : Text
  deriving DecidableEq, Repr

namespace Clause

/-- What follows the mark. -/
def body (k : Clause) : Text := k.before ++ ("package".toList ++ (k.between ++ (k.name ++ k.rest)))

/-- The source. -/
def text (k : Clause) : Text := if k.mark then '\ufeff' :: k.body else k.body

/-- The words stand apart, and the name goes on as far as it can. -/
structure Proper (k : Clause) : Prop where
  before : Filler k.before
  between : Filler k.between
  apart : k.between ≠ []
  name : IsName k.name
  rest : ∀ c ∈ k.rest.head?, isNameChar c = false

end Clause

/-! ### Characters -/

theorem isNameChar_of_isBlank {c : Char} (hc : Text.isBlank c = true) : isNameChar c = false := by
  have halphanumeric : Text.isAlphanumeric c = false := by
    rw [Text.isAlphanumeric_eq]
    exact Text.not_inRanges_of_apart Text.blankRanges_apart hc
  have hscore : c ≠ '_' := by
    rintro rfl
    exact absurd hc (by decide +kernel)
  rw [isNameChar, halphanumeric, Bool.false_or, decide_eq_false hscore]

theorem isNameChar_slash : isNameChar '/' = false := by decide +kernel

/-- No name begins like a filler. -/
theorem isNameChar_of_front {c : Char} (hc : Text.isBlank c = true ∨ c = '/') : isNameChar c = false := by
  rcases hc with hblank | rfl
  · exact isNameChar_of_isBlank hblank
  · exact isNameChar_slash

/-- A filler begins with a blank or with a comment. -/
theorem Filler.head {f : Text} (hf : Filler f) : ∀ c ∈ f.head?, Text.isBlank c = true ∨ c = '/' := by
  rintro c hc
  cases hf with
  | nil => cases hc
  | blank hblank _ => exact .inl (Option.some.inj hc ▸ hblank)
  | line | block => exact .inr (Option.some.inj hc).symm

/-! ### What a scan passes over -/

section
variable {body f t rest : Text} {c : Char}

theorem skip_line (hbody : '\n' ∉ body) : skip .line (body ++ '\n' :: t) = skip .between t := by
  induction body with
  | nil => rw [List.nil_append, skip]
  | cons c body ih =>
    obtain ⟨hc, hbody⟩ := not_or.mp (mt List.mem_cons.mpr hbody)
    rw [List.cons_append, skip.eq_6 _ _ (Ne.symm hc), ih hbody]

theorem skip_block (hbody : ¬ ['*', '/'] <:+: body) :
    skip .block (body ++ '*' :: '/' :: t) = skip .between t := by
  induction body with
  | nil => rw [List.nil_append, skip]
  | cons c body ih =>
    obtain ⟨hstart, hbody⟩ := not_or.mp (mt List.infix_cons_iff.mpr hbody)
    rw [List.cons_append, skip.eq_9, ih hbody]
    -- a star at the end of the body goes with no slash but that of the end
    rintro r rfl hr
    cases body with
    | nil => cases hr
    | cons d body =>
      obtain rfl := (List.cons.inj hr).1
      exact hstart ⟨body, rfl⟩

/-- Without a slash no comment begins. -/
theorem skip_cons (hslash : c ≠ '/') :
    skip .between (c :: t) = if Text.isBlank c then skip .between t else some (c :: t) :=
  skip.eq_3 _ _ (fun _ h => absurd h hslash) fun _ h => absurd h hslash

theorem skip_blank (hc : Text.isBlank c = true) : skip .between (c :: t) = skip .between t := by
  have hslash : c ≠ '/' := by
    rintro rfl
    exact absurd hc (by decide +kernel)
  rw [skip_cons hslash, if_pos hc]

/-- A scan passes over a filler. -/
theorem skip_filler (hf : Filler f) : skip .between (f ++ t) = skip .between t := by
  induction hf with
  | nil => rfl
  | blank hc _ ih => rw [List.cons_append, skip_blank hc, ih]
  | line hbody _ ih =>
    simp only [List.cons_append, List.append_assoc]
    rw [skip, skip_line hbody, ih]
  | block hbody _ ih =>
    simp only [List.cons_append, List.append_assoc]
    rw [skip, skip_block hbody, ih]

/-- A scan stops where a word begins. -/
theorem skip_word (hc : isNameChar c = true) : skip .between (c :: t) = some (c :: t) := by
  have hfront : ¬ (Text.isBlank c = true ∨ c = '/') := fun h => absurd hc (by simp [isNameChar_of_front h])
  obtain ⟨hblank, hslash⟩ := not_or.mp hfront
  rw [skip_cons hslash, if_neg hblank]

/-- What is passed over from a point inside of a filler. -/
def Passes : Trivia → Text → Prop
  | .between, t => Filler t
  | .line, t => ∃ body f, '\n' ∉ body ∧ Filler f ∧ t = body ++ '\n' :: f
  | .block, t => ∃ body f, ¬ ['*', '/'] <:+: body ∧ Filler f ∧ t = body ++ '*' :: '/' :: f

/-- What a scan passes over is a filler, if it leaves anything. -/
theorem passes_of_skip {s : Trivia} (hskip : skip s t = some rest) (hrest : rest ≠ []) :
    ∃ f, Passes s f ∧ t = f ++ rest := by
  -- by the cases of the scan: what it passes next goes in front of the filler, or of the body of its first comment
  fun_induction skip s t with
  | case1 r ih =>
    obtain ⟨_, ⟨body, f, hbody, hf, rfl⟩, rfl⟩ := ih hskip
    exact ⟨_, .line hbody hf, rfl⟩
  | case2 r ih =>
    obtain ⟨_, ⟨body, f, hbody, hf, rfl⟩, rfl⟩ := ih hskip
    exact ⟨_, .block hbody hf, rfl⟩
  | case3 c r _ _ hc ih =>
    obtain ⟨f, hf, rfl⟩ := ih hskip
    exact ⟨c :: f, .blank hc hf, rfl⟩
  | case4 c r => exact ⟨[], .nil, Option.some.inj hskip⟩
  | case5 => exact absurd (Option.some.inj hskip).symm hrest
  | case6 r ih =>
    obtain ⟨f, hf, rfl⟩ := ih hskip
    exact ⟨'\n' :: f, ⟨[], f, List.not_mem_nil, hf, rfl⟩, rfl⟩
  | case7 c r hc ih =>
    obtain ⟨_, ⟨body, f, hbody, hf, rfl⟩, rfl⟩ := ih hskip
    exact ⟨_, ⟨c :: body, f, List.not_mem_cons_of_ne_of_not_mem (Ne.symm hc) hbody, hf, rfl⟩, rfl⟩
  | case8 => exact absurd (Option.some.inj hskip).symm hrest
  | case9 r ih =>
    obtain ⟨f, hf, rfl⟩ := ih hskip
    exact ⟨'*' :: '/' :: f, ⟨[], f, by decide, hf, rfl⟩, rfl⟩
  | case10 c r hc ih =>
    obtain ⟨_, ⟨body, f, hbody, hf, rfl⟩, rfl⟩ := ih hskip
    refine ⟨_, ⟨c :: body, f, fun hinfix => ?_, hf, rfl⟩, rfl⟩
    rcases List.infix_cons_iff.mp hinfix with ⟨r, hr⟩ | hinfix
    · obtain ⟨rfl, rfl⟩ := List.cons.inj hr
      exact hc _ rfl rfl
    · exact hbody hinfix
  | case11 => cases hskip

end

/-! ### The name -/

/-- A name is read as far as it goes. -/
theorem name?_eq_some_iff {t n : Text} :
    name? t = some n ↔ IsName n ∧ ∃ rest, t = n ++ rest ∧ ∀ c ∈ rest.head?, isNameChar c = false := by
  constructor
  · intro h
    rw [name?.eq_def] at h
    split at h
    · cases h
    · next c r htake =>
      split at h
      · cases h
      · next hdigit =>
        obtain rfl := Option.some.inj h
        refine ⟨⟨by simp, fun x hx => List.mem_takeWhile_imp (htake ▸ hx), ?_⟩, t.dropWhile isNameChar, ?_, ?_⟩
        · rintro _ ⟨⟩
          simpa using hdigit
        · rw [← htake, List.takeWhile_append_dropWhile]
        · intro x hx
          have hstop := List.head?_dropWhile_not isNameChar t
          rw [Option.mem_def.mp hx] at hstop
          exact hstop
  · rintro ⟨⟨hne, hchars, hfirst⟩, rest, rfl, hrest⟩
    have htake : (n ++ rest).takeWhile isNameChar = n := by
      cases rest with
      | nil => rw [List.append_nil, List.takeWhile_eq_self_iff.mpr hchars]
      | cons c rest => exact Text.takeWhile_stop rest hchars (hrest c rfl)
    obtain ⟨c, r, rfl⟩ := List.exists_cons_of_ne_nil hne
    rw [name?, htake]
    exact if_neg (by simp [hfirst c rfl])

/-- A name stands behind a filler that is not empty. -/
theorem clauseName?_eq_some_iff {t n : Text} : clauseName? t = some n ↔ IsName n ∧
    ∃ between rest, Filler between ∧ between ≠ [] ∧ t = between ++ (n ++ rest) ∧
      ∀ c ∈ rest.head?, isNameChar c = false := by
  constructor
  · intro h
    rw [clauseName?.eq_def] at h
    split at h
    · cases h
    · next c r =>
      split at h
      · next hc =>
        obtain ⟨t', hskip, hname⟩ := Option.bind_eq_some_iff.mp h
        obtain ⟨hn, rest, rfl, hrest⟩ := name?_eq_some_iff.mp hname
        obtain ⟨between, hbetween, ht⟩ := passes_of_skip hskip (by simp [hn.ne_nil])
        refine ⟨hn, between, rest, hbetween, ?_, ht, hrest⟩
        rintro rfl
        obtain ⟨d, n, rfl⟩ := List.exists_cons_of_ne_nil hn.ne_nil
        obtain rfl := (List.cons.inj ht).1
        have hname := hn.chars c List.mem_cons_self
        rw [isNameChar_of_front (by simpa using hc)] at hname
        cases hname
      · cases h
  · rintro ⟨hn, between, rest, hbetween, hapart, rfl, hrest⟩
    obtain ⟨c, r, rfl⟩ := List.exists_cons_of_ne_nil hapart
    have hc : (Text.isBlank c || decide (c = '/')) = true := by
      simpa using hbetween.head c rfl
    obtain ⟨d, m, rfl⟩ := List.exists_cons_of_ne_nil hn.ne_nil
    have hskip : skip .between (c :: r ++ (d :: m ++ rest)) = some (d :: m ++ rest) :=
      (skip_filler hbetween).trans (skip_word (hn.chars d List.mem_cons_self))
    rw [List.cons_append, clauseName?, if_pos hc, ← List.cons_append, hskip]
    exact name?_eq_some_iff.mpr ⟨hn, rest, rfl, hrest⟩

/-! ### The source -/

/-- A clause does not begin like a mark, so a mark is told from it. -/
theorem Clause.dropMark_text {k : Clause} (hk : k.Proper) : Text.dropMark k.text = k.body := by
  rw [Clause.text]
  split
  · rfl
  · have hhead : k.body.head? ≠ some '\ufeff' := by
      rw [Clause.body]
      cases hbefore : k.before with
      | nil => exact fun h => absurd (Option.some.inj h) (by decide)
      | cons c r =>
        have hc := hk.before.head c (by rw [hbefore]; rfl)
        rintro ⟨⟩
        exact absurd hc (by decide +kernel)
    rw [Text.dropMark.eq_def]
    split
    · next r hr => exact absurd (by rw [hr]; rfl) hhead
    · rfl

theorem text_of_dropMark (source : Text) :
    source = Text.dropMark source ∨ source = '\ufeff' :: Text.dropMark source := by
  rw [Text.dropMark.eq_def]
  split
  · exact .inr rfl
  · exact .inl rfl

/-- The name of a clause is read from its source. -/
theorem packageName?_text {k : Clause} (hk : k.Proper) : packageName? k.text = some k.name := by
  have hp : isNameChar 'p' = true := by decide +kernel
  have hskip : skip .between k.body = some ("package".toList ++ (k.between ++ (k.name ++ k.rest))) :=
    (skip_filler hk.before).trans (skip_word hp)
  rw [packageName?, Clause.dropMark_text hk, hskip, Option.bind_some, Text.after?_append, Option.bind_some]
  exact clauseName?_eq_some_iff.mpr ⟨hk.name, k.between, k.rest, hk.between, hk.apart, rfl, hk.rest⟩

/-- A source that a name is read from has a clause. -/
theorem exists_clause {source name : Text} (h : packageName? source = some name) :
    ∃ k : Clause, k.Proper ∧ k.text = source ∧ k.name = name := by
  obtain ⟨t, hafter, hclause⟩ := Option.bind_eq_some_iff.mp h
  obtain ⟨u, hskip, hword⟩ := Option.bind_eq_some_iff.mp hafter
  obtain ⟨hn, between, rest, hbetween, hapart, rfl, hrest⟩ := clauseName?_eq_some_iff.mp hclause
  obtain rfl := Text.eq_of_after? hword
  obtain ⟨before, hbefore, hbody⟩ := passes_of_skip hskip (by simp)
  rcases text_of_dropMark source with hsource | hsource
  · exact ⟨⟨false, before, between, name, rest⟩, ⟨hbefore, hbetween, hapart, hn, hrest⟩,
      (hsource.trans hbody).symm, rfl⟩
  · exact ⟨⟨true, before, between, name, rest⟩, ⟨hbefore, hbetween, hapart, hn, hrest⟩,
      (hsource.trans (congrArg _ hbody)).symm, rfl⟩

/-- A name is read from a source exactly when a clause declares it, and the package is `main` exactly when that is
the name. -/
theorem packageName?_eq_some_iff (source : Text) :
    (∀ name, packageName? source = some name ↔ ∃ k : Clause, k.Proper ∧ k.text = source ∧ k.name = name) ∧
      (isMain source = true ↔ ∃ k : Clause, k.Proper ∧ k.text = source ∧ k.name = "main".toList) := by
  have hname : ∀ name, packageName? source = some name ↔
      ∃ k : Clause, k.Proper ∧ k.text = source ∧ k.name = name := by
    intro name
    refine ⟨exists_clause, ?_⟩
    rintro ⟨k, hk, rfl, rfl⟩
    exact packageName?_text hk
  refine ⟨hname, ?_⟩
  rw [isMain, decide_eq_true_iff]
  exact hname _

example : packageName? "\ufeff/*/ // */package/**/main//".toList = some "main".toList := by decide +kernel

end GoFile

end SaveCheck
