import Mathlib.Algebra.Group.Nat.Defs
import SaveCheck.Proofs.Cuts

/-!
The grammar of a line that reports an issue, and what is read from such a line.

    [label: ][x:]name:line[:[column]]:[tag:] message

    vet: C:a.go:3:2: odd       label and drive       tried first
    vet: a.go:3:2: odd         label
    C:a.go:3:2: odd            drive
    a.go:3:2: odd              neither               tried last

A line may be laid out in more than one of these forms, and in one form with a column or without. Read is the
first form that it has, and in that form the layout with a column. Numbers are looked at after that, so a line
number that is none, or too large, makes no other layout count.
-/

namespace SaveCheck.DiagnosticLine
open Issue (tagText)

/-! ### The grammar -/

/-- What stands in front of the name of the file. -/
structure Form where
  label : Bool
  drive : Bool
  deriving DecidableEq, Repr

namespace Form

/-- The forms in the order they are tried. -/
def all : List Form := [⟨true, true⟩, ⟨true, false⟩, ⟨false, true⟩, ⟨false, false⟩]

/-- The place of a form in that order. -/
def rank (f : Form) : Nat := (if f.label then 0 else 2) + if f.drive then 0 else 1

end Form

/-- A tag is a word, if there is one. -/
def IsTag (tag : Option Text) : Prop := ∀ word ∈ tag, word ≠ [] ∧ ∀ c ∈ word, Text.isWord c = true

/-- What follows the name and its colon. A column may be there by its colon alone. -/
structure Position where
  line : Text
  column : Option Text
  tag : Option Text
  message : Text
  deriving DecidableEq, Repr

namespace Position

/-- A column behind its colon. -/
def columnText : Option Text → Text
  | some digits => ':' :: digits
  | none => []

/-- What is written. -/
def text (q : Position) : Text :=
  q.line ++ (columnText q.column ++ ':' :: (tagText q.tag ++ ' ' :: q.message))

/-- Digits and words are such, and the message goes on to the end of its line. -/
structure Proper (q : Position) : Prop where
  line : q.line ≠ [] ∧ ∀ c ∈ q.line, Text.isDecimal c = true
  column : ∀ digits ∈ q.column, ∀ c ∈ digits, Text.isDecimal c = true
  tag : IsTag q.tag
  message : '\n' ∉ q.message

end Position

/-- A line taken apart. -/
structure Layout where
  label : Option Text
  drive : Option Char
  name : Text
  position : Position
  deriving DecidableEq, Repr

namespace Layout

/-- A label with its colon and a blank. -/
def labelText : Option Text → Text
  | some label => label ++ [':', ' ']
  | none => []

/-- A drive with its colon. -/
def driveText : Option Char → Text
  | some c => [c, ':']
  | none => []

/-- The line. -/
def text (l : Layout) : Text :=
  labelText l.label ++ (driveText l.drive ++ (l.name ++ ':' :: l.position.text))

/-- Neither label nor name holds a colon; a drive is any character but the end of a line. -/
structure Proper (l : Layout) : Prop where
  label : ∀ label ∈ l.label, ':' ∉ label
  drive : ∀ c ∈ l.drive, c ≠ '\n'
  name : ':' ∉ l.name
  position : l.position.Proper

/-- What stands in front of the name. -/
def form (l : Layout) : Form := ⟨l.label.isSome, l.drive.isSome⟩

/-- A layout of a line in a form. -/
structure Fits (l : Layout) (f : Form) (t : Text) : Prop where
  text : l.text = t
  form : l.form = f
  proper : l.Proper

/-- The layout of a line that counts: no form before its own fits, and it has a column if any layout in its
form has one. -/
structure Counts (l : Layout) (t : Text) : Prop where
  fits : l.Fits l.form t
  first : ∀ (l' : Layout) (f : Form), l'.Fits f t → l.form.rank ≤ f.rank
  column : ∀ l' : Layout, l'.Fits l.form t → l.position.column = none → l'.position.column = none

/-- The number that a numeral stands for, if it is one and below the limit. -/
def number? (digits : Text) : Option Nat :=
  if digits ≠ [] ∧ digits.all Char.isDigit = true ∧ Numeral.value digits < 2 ^ 64 then
    some (Numeral.value digits)
  else none

/-- What is read from a layout whose line number is `line`. -/
def read (l : Layout) (line : Nat) : DiagnosticLine where
  file := driveText l.drive ++ l.name
  line := line
  column := l.position.column.bind number?
  message := l.position.message

end Layout

/-! ### Where the parts of a line end -/

/-- A run of a class of characters ends where the class does. -/
theorem run_inj {p : Char → Bool} {run run' rest rest' : Text} {c c' : Char}
    (hrun : ∀ x ∈ run, p x = true) (hrun' : ∀ x ∈ run', p x = true) (hc : p c = false) (hc' : p c' = false)
    (h : run ++ c :: rest = run' ++ c' :: rest') : run = run' ∧ c = c' ∧ rest = rest' := by
  have htake := congrArg (List.takeWhile p) h
  have hdrop := congrArg (List.dropWhile p) h
  rw [Text.takeWhile_stop _ hrun hc, Text.takeWhile_stop _ hrun' hc'] at htake
  rw [Text.dropWhile_stop _ hrun hc, Text.dropWhile_stop _ hrun' hc'] at hdrop
  exact ⟨htake, List.cons.inj hdrop⟩

/-- The first colon of a text is where it is. -/
theorem colon_inj {before before' after after' : Text} (hbefore : ':' ∉ before) (hbefore' : ':' ∉ before')
    (h : before ++ ':' :: after = before' ++ ':' :: after') : before = before' ∧ after = after' := by
  have hcut := Text.cut_append after hbefore
  rw [h, Text.cut_append after' hbefore'] at hcut
  obtain ⟨hb, ha⟩ := Prod.mk.inj (Option.some.inj hcut)
  exact ⟨hb.symm, ha.symm⟩

theorem cut_colon_eq_some_iff {t before after : Text} :
    Text.cut ':' t = some (before, after) ↔ ':' ∉ before ∧ t = before ++ ':' :: after := by
  refine ⟨fun h => ⟨fun hmem => ?_, Text.eq_of_cut h⟩, fun ⟨hbefore, ht⟩ => ht ▸ Text.cut_append after hbefore⟩
  rw [Text.cut] at h
  split at h
  · cases h
  · obtain ⟨rfl, -⟩ := Prod.mk.inj (Option.some.inj h)
    simpa using List.mem_takeWhile_imp hmem

/-! ### From the end of a line to its front -/

theorem message?_eq_some_iff {t m : Text} : message? t = some m ↔ t = ' ' :: m ∧ '\n' ∉ m := by
  constructor
  · intro h
    rw [message?.eq_def] at h
    split at h
    · split at h
      · cases h
      · next hm =>
        obtain rfl := Option.some.inj h
        exact ⟨rfl, hm⟩
    · cases h
  · rintro ⟨rfl, hm⟩
    exact message?_blank hm

theorem exists_of_tagged? {t m : Text} (h : tagged? t = some m) :
    ∃ word, word ≠ [] ∧ (∀ c ∈ word, Text.isWord c = true) ∧ t = word ++ ':' :: ' ' :: m ∧ '\n' ∉ m := by
  rw [tagged?.eq_def] at h
  split at h
  · next c cs rest htake hdrop =>
    obtain ⟨rfl, hm⟩ := message?_eq_some_iff.mp h
    refine ⟨c :: cs, by simp, fun x hx => List.mem_takeWhile_imp (htake ▸ hx), ?_, hm⟩
    rw [← htake, ← hdrop, List.takeWhile_append_dropWhile]
  · cases h

/-- Behind the last colon that counts stand a tag, if there is one, and the message. -/
theorem trailer?_eq_some_iff {t m : Text} : trailer? t = some m ↔
    ∃ tag, IsTag tag ∧ t = ':' :: (tagText tag ++ ' ' :: m) ∧ '\n' ∉ m := by
  constructor
  · intro h
    rw [trailer?.eq_def] at h
    split at h
    · rcases Option.or_eq_some_iff.mp h with htagged | ⟨-, hmessage⟩
      · obtain ⟨word, hne, hword, rfl, hm⟩ := exists_of_tagged? htagged
        exact ⟨some word, by rintro _ ⟨⟩; exact ⟨hne, hword⟩, by simp [tagText], hm⟩
      · obtain ⟨rfl, hm⟩ := message?_eq_some_iff.mp hmessage
        exact ⟨none, by rintro _ ⟨⟩, rfl, hm⟩
    · cases h
  · rintro ⟨tag, htag, rfl, hm⟩
    exact trailer?_write tag htag hm

theorem columned?_eq_some_iff {t digits m : Text} : columned? t = some (digits, m) ↔
    (∀ c ∈ digits, Text.isDecimal c = true) ∧
      ∃ tag, IsTag tag ∧ t = ':' :: (digits ++ ':' :: (tagText tag ++ ' ' :: m)) ∧ '\n' ∉ m := by
  constructor
  · intro h
    rw [columned?.eq_def] at h
    split at h
    · next rest =>
      obtain ⟨m', htrailer, he⟩ := Option.map_eq_some_iff.mp h
      obtain ⟨rfl, rfl⟩ := Prod.mk.inj he
      obtain ⟨tag, htag, hdrop, hm⟩ := trailer?_eq_some_iff.mp htrailer
      refine ⟨fun c => List.mem_takeWhile_imp, tag, htag, ?_, hm⟩
      rw [← hdrop, List.takeWhile_append_dropWhile]
    · cases h
  · rintro ⟨hdigits, tag, htag, rfl, hm⟩
    rw [columned?, Text.dropWhile_stop _ hdigits Text.isDecimal_colon,
      Text.takeWhile_stop _ hdigits Text.isDecimal_colon, trailer?_eq_some_iff.mpr ⟨tag, htag, rfl, hm⟩]
    rfl

/-! ### The position -/

namespace Position

/-- The position that counts in a text: it has a column if any position there has one. -/
structure Counts (q : Position) (t : Text) : Prop where
  text : q.text = t
  proper : q.Proper
  column : ∀ q' : Position, q'.text = t → q'.Proper → q.column = none → q'.column = none

/-- A tag ends at its colon, so it and the message are known from what they are written as. -/
theorem tag_inj {tag tag' : Option Text} {m m' : Text} (htag : IsTag tag) (htag' : IsTag tag')
    (h : tagText tag ++ ' ' :: m = tagText tag' ++ ' ' :: m') : tag = tag' ∧ m = m' := by
  have hword : ∀ {word : Option Text}, IsTag word → ∀ c ∈ word.getD [], Text.isWord c = true := by
    rintro (_ | word) hword
    · simp
    · exact (hword word rfl).2
  -- a tag is told from none by the character at the end of the word
  have hspell : ∀ (word : Option Text) (m : Text), ∃ c rest, tagText word ++ ' ' :: m = word.getD [] ++ c :: rest ∧
      Text.isWord c = false ∧ (c = ' ' → word = none ∧ rest = m) ∧
        (c ≠ ' ' → word = some (word.getD []) ∧ rest = ' ' :: m) := by
    rintro (_ | word) m
    · exact ⟨' ', m, rfl, Text.isWord_blank, by simp, by simp⟩
    · exact ⟨':', ' ' :: m, by simp [tagText], Text.isWord_colon, by simp, by simp⟩
  obtain ⟨c, rest, he, hc, hblank, hcolon⟩ := hspell tag m
  obtain ⟨c', rest', he', hc', hblank', hcolon'⟩ := hspell tag' m'
  rw [he, he'] at h
  obtain ⟨hrun, rfl, rfl⟩ := run_inj (hword htag) (hword htag') hc hc' h
  by_cases hcb : c = ' '
  · exact ⟨(hblank hcb).1.trans (hblank' hcb).1.symm, (hblank hcb).2.symm.trans (hblank' hcb).2⟩
  · refine ⟨?_, List.tail_eq_of_cons_eq ((hcolon hcb).2.symm.trans (hcolon' hcb).2)⟩
    rw [(hcolon hcb).1, (hcolon' hcb).1, hrun]

/-- A text has one position with a column at most, and one without. -/
theorem text_inj {q q' : Position} (hq : q.Proper) (hq' : q'.Proper) (htext : q.text = q'.text)
    (hcolumn : q.column = none ↔ q'.column = none) : q = q' := by
  obtain ⟨line, column, tag, m⟩ := q
  obtain ⟨line', column', tag', m'⟩ := q'
  dsimp only at hcolumn
  have hline : ∀ x ∈ line, Text.isDecimal x = true := hq.line.2
  have hline' : ∀ x ∈ line', Text.isDecimal x = true := hq'.line.2
  match column, column' with
  | none, none =>
    simp only [text, columnText, List.nil_append] at htext
    obtain ⟨rfl, -, hrest⟩ := run_inj hline hline' Text.isDecimal_colon Text.isDecimal_colon htext
    obtain ⟨rfl, rfl⟩ := tag_inj hq.tag hq'.tag hrest
    rfl
  | some digits, some digits' =>
    simp only [text, columnText, List.cons_append] at htext
    obtain ⟨rfl, -, hrest⟩ := run_inj hline hline' Text.isDecimal_colon Text.isDecimal_colon htext
    obtain ⟨rfl, -, hrest⟩ :=
      run_inj (hq.column _ rfl) (hq'.column _ rfl) Text.isDecimal_colon Text.isDecimal_colon hrest
    obtain ⟨rfl, rfl⟩ := tag_inj hq.tag hq'.tag hrest
    rfl
  | none, some _ => simp at hcolumn
  | some _, none => simp at hcolumn

theorem Counts.unique {q q' : Position} {t : Text} (hq : q.Counts t) (hq' : q'.Counts t) : q = q' :=
  text_inj hq.proper hq'.proper (hq.text.trans hq'.text.symm)
    ⟨hq.column q' hq'.text hq'.proper, hq'.column q hq.text hq.proper⟩

/-- What is read of a position, its numbers still as they are written. -/
def read (q : Position) : Text × Text × Text := (q.line, q.column.getD [], q.message)

/-- A text that can be read as a position is read as the one that counts. -/
theorem exists_counts {q : Position} (hq : q.Proper) :
    ∃ q' : Position, q'.Counts q.text ∧ position? q.text = some q'.read := by
  obtain ⟨line, column, tag, m⟩ := q
  obtain ⟨⟨hne, hline⟩, hcolumn, htag, hm⟩ := hq
  have hposition := position?_digits hne hline
  cases column with
  | some digits =>
    refine ⟨⟨line, some digits, tag, m⟩, ⟨rfl, ⟨⟨hne, hline⟩, hcolumn, htag, hm⟩, by simp⟩, ?_⟩
    simp only [text, columnText, List.cons_append, hposition]
    rw [columned?_eq_some_iff.mpr ⟨hcolumn _ rfl, tag, htag, rfl, hm⟩]
    rfl
  | none =>
    simp only [text, columnText, List.nil_append, hposition]
    cases hfound : columned? (':' :: (tagText tag ++ ' ' :: m)) with
    | some found =>
      obtain ⟨digits, m'⟩ := found
      obtain ⟨hdigits, tag', htag', he, hm'⟩ := columned?_eq_some_iff.mp hfound
      refine ⟨⟨line, some digits, tag', m'⟩, ⟨?_, ⟨⟨hne, hline⟩, ?_, htag', hm'⟩, by simp⟩, rfl⟩
      · simp only [text, columnText, List.cons_append]
        rw [he]
      · rintro _ ⟨⟩
        exact hdigits
    | none =>
      refine ⟨⟨line, none, tag, m⟩, ⟨rfl, ⟨⟨hne, hline⟩, by simp, htag, hm⟩, fun q' htext hq' _ => ?_⟩, ?_⟩
      · -- a position with a column would have been found
        obtain ⟨line', column', tag', m'⟩ := q'
        cases column' with
        | none => rfl
        | some digits =>
          simp only [text, columnText, List.cons_append] at htext
          obtain ⟨rfl, -, hrest⟩ := run_inj hq'.line.2 hline Text.isDecimal_colon Text.isDecimal_colon htext
          rw [columned?_eq_some_iff.mpr ⟨hq'.column _ rfl, tag', hq'.tag, by rw [hrest], hq'.message⟩] at hfound
          cases hfound
      · rw [trailer?_write tag htag hm]
        rfl

theorem exists_of_position? {t : Text} {r : Text × Text × Text} (h : position? t = some r) :
    ∃ q : Position, q.text = t ∧ q.Proper := by
  have hsplit := List.takeWhile_append_dropWhile (p := Text.isDecimal) (l := t)
  have hdigits : ∀ c ∈ t.takeWhile Text.isDecimal, Text.isDecimal c = true := fun c => List.mem_takeWhile_imp
  rw [position?.eq_def] at h
  split at h
  · cases h
  · next hne =>
    split at h
    · next digits m hcolumn =>
      obtain ⟨hall, tag, htag, hdrop, hm⟩ := columned?_eq_some_iff.mp hcolumn
      rw [hdrop] at hsplit
      refine ⟨⟨_, some digits, tag, m⟩, hsplit, ⟨⟨hne, hdigits⟩, ?_, htag, hm⟩⟩
      rintro _ ⟨⟩
      exact hall
    · obtain ⟨m, htrailer, -⟩ := Option.map_eq_some_iff.mp h
      obtain ⟨tag, htag, hdrop, hm⟩ := trailer?_eq_some_iff.mp htrailer
      rw [hdrop] at hsplit
      exact ⟨⟨_, none, tag, m⟩, hsplit, ⟨⟨hne, hdigits⟩, by simp, htag, hm⟩⟩

end Position

/-- Read is the position that counts. -/
theorem position?_eq_some_iff {t : Text} {r : Text × Text × Text} :
    position? t = some r ↔ ∃ q : Position, q.Counts t ∧ r = q.read := by
  constructor
  · intro h
    obtain ⟨q, rfl, hq⟩ := Position.exists_of_position? h
    obtain ⟨q', hcounts, hread⟩ := Position.exists_counts hq
    exact ⟨q', hcounts, Option.some.inj (h.symm.trans hread)⟩
  · rintro ⟨q, hq, rfl⟩
    obtain ⟨q', hcounts, hread⟩ := Position.exists_counts hq.proper
    rw [hq.text] at hcounts hread
    rw [hread, hcounts.unique hq]

/-! ### The front of a line -/

/-- A name up to its colon, and the position that counts behind it. -/
theorem located?_eq_some_iff {drive t : Text} {parts : Parts} : located? drive t = some parts ↔
    ∃ (name : Text) (q : Position), ':' ∉ name ∧ t = name ++ ':' :: q.text ∧ q.Counts q.text ∧
      parts = ⟨drive ++ name, q.line, q.column.getD [], q.message⟩ := by
  rw [located?]
  constructor
  · intro h
    split at h
    · next name rest hcut =>
      obtain ⟨r, hposition, rfl⟩ := Option.map_eq_some_iff.mp h
      obtain ⟨q, hq, rfl⟩ := position?_eq_some_iff.mp hposition
      obtain ⟨hname, rfl⟩ := cut_colon_eq_some_iff.mp hcut
      obtain rfl := hq.text
      exact ⟨name, q, hname, rfl, hq, rfl⟩
    · cases h
  · rintro ⟨name, q, hname, rfl, hq, rfl⟩
    simp only [Text.cut_append _ hname, position?_eq_some_iff.mpr ⟨q, hq, rfl⟩, Option.map_some]
    rfl

theorem onDrive?_eq_some_iff {t : Text} {parts : Parts} : onDrive? t = some parts ↔
    ∃ c rest, c ≠ '\n' ∧ t = c :: ':' :: rest ∧ located? [c, ':'] rest = some parts := by
  constructor
  · intro h
    rw [onDrive?.eq_def] at h
    split at h
    · next c rest =>
      split at h
      · cases h
      · next hc => exact ⟨c, rest, hc, rfl, h⟩
    · cases h
  · rintro ⟨c, rest, hc, rfl, h⟩
    rwa [onDrive?, if_neg hc]

theorem afterLabel?_eq_some_iff {t rest : Text} :
    afterLabel? t = some rest ↔ ∃ label, ':' ∉ label ∧ t = label ++ ':' :: ' ' :: rest := by
  rw [afterLabel?]
  constructor
  · intro h
    split at h
    · next label rest' hcut =>
      obtain rfl := Option.some.inj h
      exact ⟨label, cut_colon_eq_some_iff.mp hcut⟩
    · cases h
  · rintro ⟨label, hlabel, rfl⟩
    simp only [Text.cut_append _ hlabel]

/-! ### The four forms -/

/-- How a line is read in a form. -/
def reading (f : Form) (t : Text) : Option Parts :=
  (if f.label then afterLabel? t else some t).bind (if f.drive then onDrive? else located? [])

theorem readings_eq (t : Text) : readings t = Form.all.map (reading · t) := rfl

namespace Layout

/-- The parts of a line by its layout. -/
def parts (l : Layout) : Parts :=
  ⟨driveText l.drive ++ l.name, l.position.line, l.position.column.getD [], l.position.message⟩

theorem afterFront_eq_some_iff {hasLabel : Bool} {t rest : Text} :
    (if hasLabel then afterLabel? t else some t) = some rest ↔
      ∃ label : Option Text, label.isSome = hasLabel ∧ (∀ l ∈ label, ':' ∉ l) ∧ t = labelText label ++ rest := by
  cases hasLabel with
  | true =>
    rw [if_pos rfl, afterLabel?_eq_some_iff]
    constructor
    · rintro ⟨label, hlabel, rfl⟩
      exact ⟨some label, rfl, by rintro _ ⟨⟩; exact hlabel, by simp [labelText]⟩
    · rintro ⟨_ | label, hsome, hlabel, rfl⟩
      · cases hsome
      · exact ⟨label, hlabel _ rfl, by simp [labelText]⟩
  | false =>
    rw [if_neg (by simp)]
    constructor
    · rintro ⟨⟩
      exact ⟨none, rfl, by rintro _ ⟨⟩, rfl⟩
    · rintro ⟨_ | label, hnone, -, rfl⟩
      · rfl
      · cases hnone

theorem fromDrive_eq_some_iff {hasDrive : Bool} {t : Text} {parts : Parts} :
    (if hasDrive then onDrive? else located? []) t = some parts ↔
      ∃ (drive : Option Char) (name : Text) (q : Position), drive.isSome = hasDrive ∧ (∀ c ∈ drive, c ≠ '\n') ∧
        ':' ∉ name ∧ t = driveText drive ++ (name ++ ':' :: q.text) ∧ q.Counts q.text ∧
          parts = ⟨driveText drive ++ name, q.line, q.column.getD [], q.message⟩ := by
  cases hasDrive with
  | true =>
    rw [if_pos rfl, onDrive?_eq_some_iff]
    simp only [located?_eq_some_iff]
    constructor
    · rintro ⟨c, _, hc, rfl, name, q, hname, rfl, hq, rfl⟩
      exact ⟨some c, name, q, rfl, by rintro _ ⟨⟩; exact hc, hname, rfl, hq, rfl⟩
    · rintro ⟨_ | c, name, q, hsome, hc, hname, rfl, hq, rfl⟩
      · cases hsome
      · exact ⟨c, _, hc c rfl, rfl, name, q, hname, rfl, hq, rfl⟩
  | false =>
    rw [if_neg (by simp), located?_eq_some_iff]
    constructor
    · rintro ⟨name, q, hname, rfl, hq, rfl⟩
      exact ⟨none, name, q, rfl, by rintro _ ⟨⟩, hname, rfl, hq, rfl⟩
    · rintro ⟨_ | c, name, q, hnone, -, hname, rfl, hq, rfl⟩
      · exact ⟨name, q, hname, rfl, hq, rfl⟩
      · cases hnone

/-- In a form a line is read by a layout whose position counts. -/
theorem reading_eq_some_iff {f : Form} {t : Text} {parts : Parts} : reading f t = some parts ↔
    ∃ l : Layout, l.Fits f t ∧ l.position.Counts l.position.text ∧ parts = l.parts := by
  rw [reading, Option.bind_eq_some_iff]
  simp only [afterFront_eq_some_iff, fromDrive_eq_some_iff]
  constructor
  · rintro ⟨_, ⟨label, hlabel, hcolon, rfl⟩, drive, name, q, hdrive, hc, hname, rfl, hq, rfl⟩
    refine ⟨⟨label, drive, name, q⟩, ⟨rfl, ?_, hcolon, hc, hname, hq.proper⟩, hq, rfl⟩
    rw [form, hlabel, hdrive]
  · rintro ⟨⟨label, drive, name, q⟩, ⟨rfl, rfl, hcolon, hc, hname, -⟩, hq, rfl⟩
    exact ⟨_, ⟨label, rfl, hcolon, rfl⟩, drive, name, q, rfl, hc, hname, rfl, hq, rfl⟩

/-- A line has one label, drive and name in each form. -/
theorem front_inj {l l' : Layout} {f : Form} {t : Text} (hl : l.Fits f t) (hl' : l'.Fits f t) :
    l.label = l'.label ∧ l.drive = l'.drive ∧ l.name = l'.name ∧ l.position.text = l'.position.text := by
  have htext := hl.text.trans hl'.text.symm
  have hform := Form.mk.inj (hl.form.trans hl'.form.symm)
  obtain ⟨label, drive, name, q⟩ := l
  obtain ⟨label', drive', name', q'⟩ := l'
  dsimp only [text] at htext hform ⊢
  -- with or without labels, what is left is written alike
  have hafter : label = label' ∧
      driveText drive ++ (name ++ ':' :: q.text) = driveText drive' ++ (name' ++ ':' :: q'.text) := by
    match label, label' with
    | none, none => exact ⟨rfl, htext⟩
    | some label, some label' =>
      simp only [labelText, List.append_assoc, List.cons_append, List.nil_append] at htext
      obtain ⟨rfl, hrest⟩ := colon_inj (hl.proper.label _ rfl) (hl'.proper.label _ rfl) htext
      exact ⟨rfl, (List.cons.inj hrest).2⟩
    | none, some _ | some _, none => simp at hform
  have hdrive : drive = drive' ∧ name ++ ':' :: q.text = name' ++ ':' :: q'.text := by
    match drive, drive' with
    | none, none => exact ⟨rfl, hafter.2⟩
    | some c, some c' => simpa [driveText] using hafter.2
    | none, some _ | some _, none => simp at hform
  exact ⟨hafter.1, hdrive.1, colon_inj hl.proper.name hl'.proper.name hdrive.2⟩

/-- Where a layout fits, its position counts if it has a column or no layout in its form has one. -/
theorem counts_position_iff {l : Layout} {f : Form} {t : Text} (hl : l.Fits f t) :
    l.position.Counts l.position.text ↔
      ∀ l' : Layout, l'.Fits f t → l.position.column = none → l'.position.column = none := by
  constructor
  · intro hq l' hl' hnone
    exact hq.column l'.position (front_inj hl hl').2.2.2.symm hl'.proper.position hnone
  · intro hall
    refine ⟨rfl, hl.proper.position, fun q' htext hq' => hall { l with position := q' } ⟨?_, hl.form, ?_⟩⟩
    · rw [← hl.text, text, text, htext]
    · exact ⟨hl.proper.label, hl.proper.drive, hl.proper.name, hq'⟩

theorem reading_ne_none_iff {f : Form} {t : Text} : reading f t ≠ none ↔ ∃ l : Layout, l.Fits f t := by
  rw [Option.ne_none_iff_exists']
  simp only [reading_eq_some_iff]
  constructor
  · rintro ⟨_, l, hl, -⟩
    exact ⟨l, hl⟩
  · rintro ⟨l, hl⟩
    obtain ⟨q, hq, -⟩ := Position.exists_counts hl.proper.position
    refine ⟨_, { l with position := q }, ⟨?_, hl.form, ?_⟩, hq.text ▸ hq, rfl⟩
    · rw [← hl.text, text, text, hq.text]
    · exact ⟨hl.proper.label, hl.proper.drive, hl.proper.name, hq.proper⟩

end Layout

/-! ### The line -/

theorem Form.mem_all (f : Form) : f ∈ all := by
  obtain ⟨label, drive⟩ := f
  cases label <;> cases drive <;> decide

/-- The forms that are tried before one are those of a lower rank. -/
theorem Form.mem_front_iff {front back : List Form} {f g : Form} (hall : all = front ++ f :: back) :
    g ∈ front ↔ g.rank < f.rank := by
  have hsorted : all.Pairwise (·.rank < ·.rank) := by decide
  rw [hall, List.pairwise_append, List.pairwise_cons] at hsorted
  obtain ⟨-, ⟨hback, -⟩, hfront⟩ := hsorted
  refine ⟨fun hg => hfront g hg f List.mem_cons_self, fun hg => ?_⟩
  have hmem := mem_all g
  rw [hall, List.mem_append, List.mem_cons] at hmem
  rcases hmem with hmem | rfl | hmem
  · exact hmem
  · exact absurd hg (Nat.lt_irrefl _)
  · exact absurd (hback g hmem) (Nat.not_lt_of_gt hg)

theorem parts?_eq_some_iff_reading {t : Text} {parts : Parts} : parts? t = some parts ↔
    ∃ f, reading f t = some parts ∧ ∀ g, reading g t ≠ none → f.rank ≤ g.rank := by
  rw [parts?, readings_eq, List.findSome?_map, List.findSome?_eq_some_iff]
  simp only [Function.id_comp]
  constructor
  · rintro ⟨front, f, back, hall, hf, hnone⟩
    refine ⟨f, hf, fun g hg => Nat.le_of_not_lt fun hlt => hg ?_⟩
    exact hnone g ((Form.mem_front_iff hall).mpr hlt)
  · rintro ⟨f, hf, hfirst⟩
    obtain ⟨front, back, hall⟩ := List.append_of_mem (Form.mem_all f)
    refine ⟨front, f, back, hall, hf, fun g hg => ?_⟩
    by_contra hne
    exact absurd (hfirst g hne) (Nat.not_le_of_gt ((Form.mem_front_iff hall).mp hg))

/-- The parts of a line are those of the layout that counts. -/
theorem parts?_eq_some_iff {t : Text} {parts : Parts} :
    parts? t = some parts ↔ ∃ l : Layout, l.Counts t ∧ parts = l.parts := by
  rw [parts?_eq_some_iff_reading]
  simp only [Layout.reading_eq_some_iff, Layout.reading_ne_none_iff]
  constructor
  · rintro ⟨f, ⟨l, hl, hq, rfl⟩, hfirst⟩
    obtain rfl := hl.form
    exact ⟨l, ⟨hl, fun l' f' hl' => hfirst f' ⟨l', hl'⟩, (Layout.counts_position_iff hl).mp hq⟩, rfl⟩
  · rintro ⟨l, hl, rfl⟩
    refine ⟨l.form, ⟨l, hl.fits, (Layout.counts_position_iff hl.fits).mpr hl.column, rfl⟩, ?_⟩
    rintro f ⟨l', hl'⟩
    exact hl.first l' f hl'

/-- One layout of a line counts at most. -/
theorem Layout.Counts.unique {l l' : Layout} {t : Text} (hl : l.Counts t) (hl' : l'.Counts t) : l = l' := by
  have hform : l.form = l'.form := by
    have hrank := Nat.le_antisymm (hl.first l' _ hl'.fits) (hl'.first l _ hl.fits)
    revert hrank
    generalize l.form = f, l'.form = g
    obtain ⟨_ | _, _ | _⟩ := f <;> obtain ⟨_ | _, _ | _⟩ := g <;> simp [Form.rank]
  have hfits : l'.Fits l.form t := hform ▸ hl'.fits
  obtain ⟨hlabel, hdrive, hname, htext⟩ := front_inj hl.fits hfits
  have hposition : l.position = l'.position := by
    have hcounts := (counts_position_iff hl.fits).mpr hl.column
    have hcounts' := (counts_position_iff hl'.fits).mpr hl'.column
    exact hcounts.unique (htext ▸ hcounts')
  cases l
  cases l'
  simp_all

/-- A line with a layout has one that counts. -/
theorem Layout.exists_counts {l : Layout} {f : Form} {t : Text} (hl : l.Fits f t) : ∃ l' : Layout, l'.Counts t := by
  have hreading : reading f t ≠ none := reading_ne_none_iff.mpr ⟨l, hl⟩
  have hparts : parts? t ≠ none := by
    rw [parts?, readings_eq, List.findSome?_map, Ne, List.findSome?_eq_none_iff]
    exact fun hnone => hreading (hnone f (Form.mem_all f))
  obtain ⟨parts, hparts⟩ := Option.ne_none_iff_exists'.mp hparts
  obtain ⟨l', hl', -⟩ := parts?_eq_some_iff.mp hparts
  exact ⟨l', hl'⟩

theorem read?_eq_number? (digits : Text) : Numeral.read? digits = Layout.number? digits := by
  have hlimit : Numeral.limit = 2 ^ 64 := by decide
  rw [Numeral.read?, Layout.number?, hlimit]
  refine if_congr ?_ rfl rfl
  simp [Numeral.isDigits, and_assoc]

theorem number?_eq_some_iff {digits : Text} {n : Nat} : Layout.number? digits = some n ↔
    digits ≠ [] ∧ (∀ c ∈ digits, c.isDigit = true) ∧ Numeral.value digits < 2 ^ 64 ∧ n = Numeral.value digits := by
  rw [Layout.number?, Option.ite_none_right_eq_some, Option.some.injEq, eq_comm (b := n)]
  simp only [and_assoc, List.all_eq_true]

theorem read?_column (column : Option Text) :
    Numeral.read? (column.getD []) = column.bind Layout.number? := by
  cases column with
  | none => rfl
  | some digits => exact read?_eq_number? digits

/-- A line is read by the one layout of it that counts, which it has if it has any, and only if the line number
there is a numeral below the limit. -/
theorem parse?_eq_some_iff (t : Text) :
    ((∃ (l : Layout) (f : Form), l.Fits f t) ↔ ∃ l : Layout, l.Counts t) ∧
      (∀ l l' : Layout, l.Counts t → l'.Counts t → l = l') ∧
      ∀ out, parse? t = some out ↔ ∃ l : Layout, l.Counts t ∧ (∀ c ∈ l.position.line, c.isDigit = true) ∧
        Numeral.value l.position.line < 2 ^ 64 ∧ out = l.read (Numeral.value l.position.line) := by
  refine ⟨⟨fun ⟨l, f, hl⟩ => Layout.exists_counts hl, fun ⟨l, hl⟩ => ⟨l, l.form, hl.fits⟩⟩,
    fun l l' => Layout.Counts.unique, fun out => ?_⟩
  have hparse : parse? t = some out ↔ ∃ parts, parts? t = some parts ∧
      ∃ n, Numeral.read? parts.line = some n ∧
        out = ⟨parts.file, n, Numeral.read? parts.column, parts.message⟩ := by
    simp only [parse?, Option.bind_eq_bind, Option.bind_eq_some_iff, Option.pure_def, Option.some.injEq,
      eq_comm (b := out)]
  rw [hparse]
  simp only [parts?_eq_some_iff]
  constructor
  · rintro ⟨_, ⟨l, hl, rfl⟩, n, hn, rfl⟩
    rw [read?_eq_number?] at hn
    obtain ⟨-, hdigits, hlt, rfl⟩ := number?_eq_some_iff.mp hn
    exact ⟨l, hl, hdigits, hlt, by rw [Layout.read, Layout.parts, read?_column]⟩
  · rintro ⟨l, hl, hdigits, hlt, rfl⟩
    refine ⟨l.parts, ⟨l, hl, rfl⟩, Numeral.value l.position.line, ?_, ?_⟩
    · rw [read?_eq_number?]
      exact number?_eq_some_iff.mpr ⟨hl.fits.proper.position.line.1, hdigits, hlt, rfl⟩
    · rw [Layout.read, Layout.parts, read?_column]

example : parse? "1:2:18446744073709551616: odd".toList = none := by decide +kernel

end SaveCheck.DiagnosticLine
