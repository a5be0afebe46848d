import Mathlib.Data.List.TakeWhile
import SaveCheck.Diagnostic.Line
import SaveCheck.Proofs.Numeral
import SaveCheck.Proofs.TextLines

/-!
The lines on which issues are written, and how they are read.

    [label: ][x:]file:line[:column]:[tag:] message

A line can be read in more than one way: a label may look like a drive, and a tag like a column. What
is written is read as it was meant, because the first way that fits is the right one each time.
-/

namespace SaveCheck

/-! ### Cutting a text where a class of characters ends -/

namespace Text

theorem takeWhile_stop {p : Char → Bool} {body : Text} {c : Char} (rest : Text)
    (hbody : ∀ x ∈ body, p x = true) (hc : p c = false) : (body ++ c :: rest).takeWhile p = body := by
  rw [List.takeWhile_append_of_pos hbody, List.takeWhile_cons_of_neg (by simp [hc]), List.append_nil]

theorem dropWhile_stop {p : Char → Bool} {body : Text} {c : Char} (rest : Text)
    (hbody : ∀ x ∈ body, p x = true) (hc : p c = false) :
    (body ++ c :: rest).dropWhile p = c :: rest := by
  rw [List.dropWhile_append_of_pos hbody, List.dropWhile_cons_of_neg (by simp [hc])]

theorem cut_append {sep : Char} {before : Text} (after : Text) (h : sep ∉ before) :
    cut sep (before ++ sep :: after) = some (before, after) := by
  have hbefore : ∀ x ∈ before, decide (x ≠ sep) = true :=
    fun x hx => decide_eq_true fun e => h (e ▸ hx)
  rw [cut, dropWhile_stop after hbefore (by simp), takeWhile_stop after hbefore (by simp)]

theorem isDecimal_colon : isDecimal ':' = false := by decide +kernel

theorem isWord_colon : isWord ':' = false := by decide +kernel

theorem isWord_blank : isWord ' ' = false := by decide +kernel

end Text

/-! ### Written lines -/

/-- An issue as a tool reports it: the parts of its line, and the lines that go on with it. -/
structure Issue where
  label : Option Text := none
  file : Text
  line : Nat
  column : Option Nat := none
  tag : Option Text := none
  message : Text
  more : List Text := []

namespace Issue

/-- A column behind its colon. -/
def columnText : Option Nat → Text
  | some c => ':' :: Numeral.write c
  | none => []

/-- A tag before its colon. -/
def tagText : Option Text → Text
  | some t => t ++ [':']
  | none => []

/-- What follows the file on the line of an issue. -/
def position (i : Issue) : Text :=
  Numeral.write i.line ++ (columnText i.column ++ ':' :: (tagText i.tag ++ ' ' :: i.message))

/-- The line of an issue from its file on. -/
def body (i : Issue) : Text := i.file ++ ':' :: i.position

/-- The line of an issue. -/
def head (i : Issue) : Text :=
  match i.label with
  | some l => l ++ ':' :: ' ' :: i.body
  | none => i.body

/-- How a file can be spelled: without a colon, and not as one character alone; or on a drive, which is
any one character, with a colon and what goes on without a blank. -/
def Spelled (t : Text) : Prop :=
  (2 ≤ t.length ∧ ':' ∉ t) ∨
    ∃ c rest, t = c :: ':' :: rest ∧ c ≠ ':' ∧ ':' ∉ rest ∧ rest.head? ≠ some ' '

/-- An issue that a tool can report. A tag without a column may not be a numeral: it would be read as
the column. -/
structure Proper (i : Issue) : Prop where
  label : ∀ l ∈ i.label, ':' ∉ l ∧ '\n' ∉ l
  file : Spelled i.file ∧ '\n' ∉ i.file
  line : i.line < Numeral.limit
  column : ∀ c ∈ i.column, c < Numeral.limit
  tag : ∀ t ∈ i.tag, t ≠ [] ∧ (∀ c ∈ t, Text.isWord c = true) ∧
    (i.column = none → ∃ c ∈ t, c.isDigit = false)
  message : ∀ t ∈ i.message :: i.more, Text.OnLine t
  head : i.head.head? ≠ some '\t'

/-- An issue as its line is read. -/
def read (i : Issue) : DiagnosticLine := ⟨i.file, i.line, i.column, i.message⟩

end Issue

namespace DiagnosticLine
open Issue

/-! ### Reading from the end of a line to its front -/

theorem message?_blank {m : Text} (h : '\n' ∉ m) : message? (' ' :: m) = some m := by
  rw [message?, if_neg h]

/-- A message is found behind its tag, if it has one. -/
theorem trailer?_write (tag : Option Text) {m : Text}
    (htag : ∀ t ∈ tag, t ≠ [] ∧ ∀ c ∈ t, Text.isWord c = true) (hm : '\n' ∉ m) :
    trailer? (':' :: (tagText tag ++ ' ' :: m)) = some m := by
  cases tag with
  | none =>
    have htagged : tagged? (' ' :: m) = none := by
      rw [tagged?, List.takeWhile_cons_of_neg (by simp [Text.isWord_blank])]
    rw [tagText, List.nil_append, trailer?, htagged, Option.none_or, message?_blank hm]
  | some t =>
    obtain ⟨hne, hword⟩ := htag t rfl
    obtain ⟨c, cs, rfl⟩ := List.exists_cons_of_ne_nil hne
    have htagged : tagged? (c :: cs ++ ':' :: ' ' :: m) = some m := by
      rw [tagged?, Text.takeWhile_stop _ hword Text.isWord_colon,
        Text.dropWhile_stop _ hword Text.isWord_colon]
      exact message?_blank hm
    rw [tagText, List.append_assoc, List.singleton_append, trailer?, htagged, Option.some_or]

theorem trailer?_eq_none {c : Char} (t : Text) (h : c ≠ ':') : trailer? (c :: t) = none := by
  rw [trailer?]
  intro rest e
  exact h (List.cons.inj e).1

theorem mem_write_isDecimal {n : Nat} : ∀ c ∈ Numeral.write n, Text.isDecimal c = true :=
  fun _ hc => Text.isDecimal_of_isDigit (Numeral.mem_write_isDigit hc)

/-- A column that is there is taken for it, whatever tag comes next. -/
theorem columned?_write {n : Nat} {tag : Option Text} {m : Text}
    (htag : ∀ t ∈ tag, t ≠ [] ∧ ∀ c ∈ t, Text.isWord c = true) (hm : '\n' ∉ m) :
    columned? (':' :: (Numeral.write n ++ ':' :: (tagText tag ++ ' ' :: m))) =
      some (Numeral.write n, m) := by
  rw [columned?, Text.dropWhile_stop _ mem_write_isDecimal Text.isDecimal_colon,
    Text.takeWhile_stop _ mem_write_isDecimal Text.isDecimal_colon, trailer?_write _ htag hm]
  rfl

/-- Without a column only a tag of decimal digits is taken for one. -/
theorem columned?_tag {tag : Option Text} {m : Text}
    (htag : ∀ t ∈ tag, t ≠ [] ∧ ∀ c ∈ t, Text.isWord c = true) (hm : '\n' ∉ m) :
    columned? (':' :: (tagText tag ++ ' ' :: m)) = none ∨
      ∃ t ∈ tag, columned? (':' :: (tagText tag ++ ' ' :: m)) = some (t, m) := by
  cases tag with
  | none =>
    have hblank : Text.isDecimal ' ' = false := by decide +kernel
    rw [tagText, List.nil_append, columned?, List.dropWhile_cons_of_neg (by simp [hblank]),
      trailer?_eq_none m (by decide)]
    exact Or.inl rfl
  | some t =>
    rw [tagText, List.append_assoc, List.singleton_append, columned?]
    by_cases hall : ∀ c ∈ t, Text.isDecimal c = true
    · right
      refine ⟨t, rfl, ?_⟩
      rw [Text.dropWhile_stop _ hall Text.isDecimal_colon,
        Text.takeWhile_stop _ hall Text.isDecimal_colon]
      have h := trailer?_write none (by simp) hm
      rw [tagText, List.nil_append] at h
      rw [h]; rfl
    · left
      -- the digits end inside the tag, at a character that is no colon
      obtain ⟨c, rest, hdrop⟩ : ∃ c rest, t.dropWhile Text.isDecimal = c :: rest :=
        List.exists_cons_of_ne_nil fun hnil => hall (List.dropWhile_eq_nil_iff.mp hnil)
      have hc : c ∈ t := (List.dropWhile_sublist _).subset (hdrop ▸ List.mem_cons_self)
      have hcolon : c ≠ ':' := by
        rintro rfl
        exact absurd ((htag t rfl).2 _ hc) (by simp [Text.isWord_colon])
      rw [List.dropWhile_append, hdrop]
      exact congrArg _ (trailer?_eq_none _ hcolon)

theorem read?_eq_none_of_not_isDigit {t : Text} (h : ∃ c ∈ t, c.isDigit = false) :
    Numeral.read? t = none := by
  obtain ⟨c, hc, hdigit⟩ := h
  have hdigits : Numeral.isDigits t = false := by
    rw [Numeral.isDigits, Bool.and_eq_false_iff]
    exact Or.inr (List.all_eq_false.mpr ⟨c, hc, by simp [hdigit]⟩)
  rw [Numeral.read?, hdigits]; rfl

theorem position?_digits {digits : Text} (hne : digits ≠ [])
    (hdigits : ∀ c ∈ digits, Text.isDecimal c = true) (rest : Text) :
    position? (digits ++ ':' :: rest) =
      match columned? (':' :: rest) with
      | some (column, message) => some (digits, column, message)
      | none => (trailer? (':' :: rest)).map (digits, [], ·) := by
  have htake := Text.takeWhile_stop rest hdigits Text.isDecimal_colon
  have hdrop := Text.dropWhile_stop rest hdigits Text.isDecimal_colon
  obtain ⟨c, cs, rfl⟩ := List.exists_cons_of_ne_nil hne
  cases hcolumn : columned? (':' :: rest) with
  | none => simp only [position?, htake, hdrop, hcolumn]
  | some found => simp only [position?, htake, hdrop, hcolumn]

/-- The line of an issue is read as it was meant from its file on. -/
theorem position?_write {i : Issue} (h : i.Proper) :
    ∃ digits, position? i.position = some (Numeral.write i.line, digits, i.message) ∧
      Numeral.read? digits = i.column := by
  have htag : ∀ t ∈ i.tag, t ≠ [] ∧ ∀ c ∈ t, Text.isWord c = true :=
    fun t ht => ⟨(h.tag t ht).1, (h.tag t ht).2.1⟩
  have hm : '\n' ∉ i.message := (h.message _ List.mem_cons_self).1
  have hline := position?_digits (Numeral.write_ne_nil i.line) mem_write_isDecimal
  rw [position]
  cases hcol : i.column with
  | some n =>
    rw [columnText, List.cons_append, hline, columned?_write htag hm]
    exact ⟨_, rfl, Numeral.read?_write (h.column n hcol)⟩
  | none =>
    rw [columnText, List.nil_append, hline]
    rcases columned?_tag htag hm with hnone | ⟨t, ht, hsome⟩
    · rw [hnone, trailer?_write _ htag hm]
      exact ⟨_, rfl, rfl⟩
    · rw [hsome]
      exact ⟨t, rfl, read?_eq_none_of_not_isDigit ((h.tag t ht).2.2 hcol)⟩

/-! ### The four readings -/

theorem parts?_eq (t : Text) :
    parts? t = (((afterLabel? t).bind onDrive?).or ((afterLabel? t).bind (located? []))).or
      ((onDrive? t).or (located? [] t)) := by
  rw [parts?, readings]
  generalize (afterLabel? t).bind onDrive? = a, (afterLabel? t).bind (located? []) = b,
    onDrive? t = c, located? [] t = d
  cases a <;> cases b <;> cases c <;> cases d <;> rfl

/-- A line is located by the file that its drive and the text up to the next colon spell. -/
theorem located?_write {i : Issue} (h : i.Proper) (drive : Text) {name : Text} (hfile : i.file = drive ++ name)
    (hcolon : ':' ∉ name) : ∃ digits, Numeral.read? digits = i.column ∧
      located? drive (name ++ ':' :: i.position) =
        some ⟨i.file, Numeral.write i.line, digits, i.message⟩ := by
  obtain ⟨digits, hposition, hdigits⟩ := position?_write h
  refine ⟨digits, hdigits, ?_⟩
  rw [located?, Text.cut_append _ hcolon, hfile]
  simp only [hposition, Option.map_some]

/-- From its file on a line is read with a drive just if its file has one. -/
theorem read_body {i : Issue} (h : i.Proper) : ∃ digits, Numeral.read? digits = i.column ∧
    (onDrive? i.body).or (located? [] i.body) =
      some ⟨i.file, Numeral.write i.line, digits, i.message⟩ := by
  obtain ⟨⟨long, colon⟩ | ⟨c, rest, hfile, hc, colon, -⟩, hnewline⟩ := h.file
  · obtain ⟨digits, hdigits, hread⟩ := located?_write h [] rfl colon
    refine ⟨digits, hdigits, ?_⟩
    have hdrive : onDrive? i.body = none := by
      obtain ⟨a, b, rest, hfile⟩ : ∃ a b rest, i.file = a :: b :: rest := by
        match hf : i.file, long with
        | a :: b :: rest, _ => exact ⟨a, b, rest, rfl⟩
      rw [body, hfile, List.cons_append, List.cons_append, onDrive?]
      rintro c' rest' he
      obtain ⟨-, rfl, -⟩ := by simpa using he
      exact colon (by simp [hfile])
    rw [hdrive, Option.none_or]
    exact hread
  · obtain ⟨digits, hdigits, hread⟩ := located?_write h [c, ':'] hfile colon
    refine ⟨digits, hdigits, ?_⟩
    have hdrive : onDrive? i.body = located? [c, ':'] (rest ++ ':' :: i.position) := by
      rw [body, hfile, List.cons_append, List.cons_append, onDrive?, if_neg]
      rintro rfl
      exact hnewline (by simp [hfile])
    rw [hdrive, hread, Option.some_or]

/-- A digit or a colon comes behind the first colon, so a line has no label before its file. -/
theorem afterLabel?_body {i : Issue} (h : i.Proper) : afterLabel? i.body = none := by
  have hblank : ∀ t u : Text, ':' ∉ t → u.head? ≠ some ' ' → afterLabel? (t ++ ':' :: u) = none := by
    intro t u ht hu
    rw [afterLabel?, Text.cut_append _ ht]
    split
    · next he =>
      obtain ⟨-, rfl⟩ := by simpa using he
      exact absurd rfl hu
    · rfl
  obtain ⟨⟨long, colon⟩ | ⟨c, rest, hfile, hc, colon, hrest⟩, -⟩ := h.file
  · refine hblank _ _ colon ?_
    obtain ⟨d, ds, hline⟩ := List.exists_cons_of_ne_nil (Numeral.write_ne_nil i.line)
    have hd : d.isDigit = true := Numeral.mem_write_isDigit (hline ▸ List.mem_cons_self)
    rw [position, hline, List.cons_append, List.head?_cons]
    rintro ⟨⟩
    exact absurd hd (by decide)
  · rw [body, hfile]
    refine hblank [c] (rest ++ ':' :: i.position) (by simpa using Ne.symm hc) ?_
    cases rest with
    | nil => simp
    | cons a rest => simpa using hrest

/-- The line of an issue is read as the issue. -/
theorem parse?_head {i : Issue} (h : i.Proper) : parse? i.head = some i.read := by
  obtain ⟨digits, hdigits, hbody⟩ := read_body h
  have hparts : parts? i.head = some ⟨i.file, Numeral.write i.line, digits, i.message⟩ := by
    rw [parts?_eq, head]
    cases hlabel : i.label with
    | none =>
      simp only [afterLabel?_body h, Option.bind_none, Option.none_or]
      exact hbody
    | some l =>
      have hafter : afterLabel? (l ++ ':' :: ' ' :: i.body) = some i.body := by
        rw [afterLabel?, Text.cut_append _ (h.label l hlabel).1]; rfl
      simp only [hafter, Option.bind_some]
      rw [hbody, Option.some_or]
  rw [parse?, hparts]
  simp only [Option.bind_eq_bind, Option.bind_some, Numeral.read?_write h.line, hdigits, Issue.read]
  rfl

end DiagnosticLine

end SaveCheck
