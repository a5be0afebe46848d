import Mathlib.Data.List.TakeWhile
import SaveCheck.Proofs.IssueLine
import SaveCheck.Proofs.TomlQuoted
import SaveCheck.Toml.Document

/-!
Writing the members of a record as a TOML document, and reading them back.

    vetOnSave · false            ──▶   vetOnSave = false
    a b · list of 1 and x=2      ──▶   "a b" = [1, {x = 2}]

A value is followed by a comma, by a bracket or by the end of its line, and none of these belongs to what
is written before it: so each reader stops where the writer did. Null cannot be written, nor can brackets
be nested deeper than they are read.
-/

namespace SaveCheck.Toml

/-! ### Writing -/

/-- A name, in quotes where it needs them. -/
def writeName (name : Text) : Text := if name ≠ [] ∧ name.all isBareChar then name else quote name

/-- Things with commas between them. -/
def commas : List Text → Text
  | [] => []
  | [w] => w
  | w :: v :: ws => w ++ ',' :: ' ' :: commas (v :: ws)

/-- A name and what is written of its value. -/
def writeEntry (name value : Text) : Text := writeName name ++ " = ".toList ++ value

mutual

/-- The text of a value. There is none for null. -/
def write : Value → Text
  | .null => []
  | .flag true => "true".toList
  | .flag false => "false".toList
  | .number written => written
  | .date written => written
  | .text t => quote t
  | .list items => '[' :: commas (writeItems items) ++ [']']
  | .record members => '\x7b' :: commas (writeMembers members) ++ ['\x7d']

/-- The texts of the items of a list. -/
def writeItems : List Value → List Text
  | [] => []
  | v :: vs => write v :: writeItems vs

/-- The texts of the members of a record. -/
def writeMembers : List (Text × Value) → List Text
  | [] => []
  | (name, v) :: ms => writeEntry name (write v) :: writeMembers ms

end

/-- The document with one line for each member. -/
def writeDocument (members : List (Text × Value)) : Text := (writeMembers members).flatMap (· ++ ['\n'])

/-- The values that can be written, and read with brackets nested no deeper than `depth`. A number or a
date is one if it is written as such. -/
inductive Writable : (depth : Nat) → Value → Prop
  | flag (b : Bool) : Writable depth (.flag b)
  | number {written : Text} (h : scalar? written = some (.number written, [])) :
      Writable depth (.number written)
  | date {written : Text} (h : scalar? written = some (.date written, [])) : Writable depth (.date written)
  | text (t : Text) : Writable depth (.text t)
  | list {items : List Value} (h : ∀ v ∈ items, Writable depth v) : Writable (depth + 1) (.list items)
  | record {members : List (Text × Value)} (hnames : (members.map Prod.fst).Nodup)
      (h : ∀ m ∈ members, Writable depth m.2) : Writable (depth + 1) (.record members)

theorem writeItems_eq (items : List Value) : writeItems items = items.map write := by
  induction items with
  | nil => rfl
  | cons v items ih => rw [writeItems, ih, List.map_cons]

theorem writeMembers_eq (members : List (Text × Value)) :
    writeMembers members = members.map fun m => writeEntry m.1 (write m.2) := by
  induction members with
  | nil => rfl
  | cons m members ih => rw [writeMembers, ih, List.map_cons]

/-! ### Where a value begins and where it ends -/

/-- Whether a value or an entry can begin with a character. -/
def isFirst (c : Char) : Bool := isScalarChar c || c ∈ ['"', '[', '\x7b']

/-- Whether a text begins with a comma, a bracket or the end of a line, as what follows a value does. -/
def Stops (rest : Text) : Prop := ∃ c r, rest = c :: r ∧ c ∈ [',', ']', '\x7d', '\n']

/-- Whether a text begins as a value or an entry does. -/
def Starts (t : Text) : Prop := ∃ c r, t = c :: r ∧ isFirst c = true

/-- Characters differ where a class holds one of them only. -/
theorem ne_of_class {p : Char → Bool} {c d : Char} (hc : p c = true) (hd : p d = false) : c ≠ d := by
  rintro rfl
  rw [hc] at hd
  cases hd

theorem Starts.append {t : Text} (h : Starts t) (rest : Text) : Starts (t ++ rest) := by
  obtain ⟨c, r, rfl, hc⟩ := h
  exact ⟨c, r ++ rest, rfl, hc⟩

theorem Starts.length_pos {t : Text} (h : Starts t) : 0 < t.length := by
  obtain ⟨c, r, rfl, -⟩ := h
  exact Nat.succ_pos _

theorem Stops.head?_ne {rest : Text} (h : Stops rest) : rest.head? ≠ some '"' := by
  obtain ⟨c, r, rfl, hc⟩ := h
  rintro heq
  rw [Option.some.inj heq] at hc
  exact absurd hc (by decide)

theorem isSpace_of_isFirst {c : Char} (h : isFirst c = true) : isSpace c = false := by
  rw [isSpace, Bool.or_eq_false_iff, decide_eq_false_iff_not, decide_eq_false_iff_not]
  exact ⟨ne_of_class h (by decide), ne_of_class h (by decide)⟩

/-- No blank and no comment is skipped in front of what begins a value. -/
theorem skip_of_starts {t : Text} (h : Starts t) : skip true false t = some t := by
  obtain ⟨c, r, rfl, hc⟩ := h
  rw [skip.eq_def]
  split
  · next heq => cases heq
  · next heq => exact absurd (List.cons.inj heq).1 (ne_of_class hc (by decide))
  · next heq => exact absurd (List.cons.inj heq).1 (ne_of_class hc (by decide))
  · contradiction
  · next heq =>
    cases heq
    rw [if_neg (ne_of_class hc (by decide)), isSpace_of_isFirst hc]
    rfl

theorem skipSpace_of_starts {t : Text} (h : Starts t) : skipSpace t = t := by
  obtain ⟨c, r, rfl, hc⟩ := h
  exact List.dropWhile_cons_of_neg (by simp [isSpace_of_isFirst hc])

/-! ### Scalars -/

theorem isScalarChar_of_stops {c : Char} (hc : c ∈ [',', ']', '\x7d', '\n']) : isScalarChar c = false := by
  have hall : [',', ']', '\x7d', '\n'].all (! isScalarChar ·) = true := by decide
  simpa using List.all_eq_true.mp hall c hc

/-- A run that takes all of its text is one word, or a date with a time behind a blank. -/
theorem cases_of_scalarRun {t run : Text} (h : scalarRun t = (run, [])) :
    run = t ∧ ((∀ c ∈ t, isScalarChar c = true) ∨
      ∃ day c time, t = day ++ ' ' :: c :: time ∧ isDate day = true ∧
        (∀ d ∈ day, isScalarChar d = true) ∧ ∀ d ∈ c :: time, isScalarChar d = true) := by
  have hsplit := List.takeWhile_append_dropWhile (p := isScalarChar) (l := t)
  have hday : ∀ d ∈ t.takeWhile isScalarChar, isScalarChar d = true := fun d => List.mem_takeWhile_imp
  rw [scalarRun.eq_def] at h
  dsimp only at h
  split at h
  · next c r hdrop =>
    rw [hdrop] at hsplit
    -- the run stops at a blank; only behind a date it goes on
    split at h
    · next hcond =>
      rw [Bool.and_eq_true] at hcond
      obtain ⟨rfl, htime⟩ := Prod.mk.inj h
      have hall : ∀ d ∈ c :: r, isScalarChar d = true := List.dropWhile_eq_nil_iff.mp htime
      rw [List.takeWhile_eq_self_iff.mpr hall]
      exact ⟨hsplit, .inr ⟨_, c, r, hsplit.symm, hcond.1, hday, hall⟩⟩
    · rw [(Prod.mk.inj h).2] at hdrop
      cases hdrop
  · obtain ⟨rfl, hdrop⟩ := Prod.mk.inj h
    rw [hdrop, List.append_nil] at hsplit
    rw [hsplit] at hday ⊢
    exact ⟨rfl, .inl hday⟩

theorem scalarRun_append {t run rest : Text} (ht : scalarRun t = (run, [])) (hrest : Stops rest) :
    scalarRun (t ++ rest) = (run, rest) := by
  obtain ⟨s, r, rfl, hs⟩ := hrest
  have hstop : isScalarChar s = false := isScalarChar_of_stops hs
  obtain ⟨rfl, hword | ⟨day, c, time, rfl, hdate, hday, htime⟩⟩ := cases_of_scalarRun ht
  · rw [scalarRun.eq_def, Text.takeWhile_stop r hword hstop, Text.dropWhile_stop r hword hstop]
    dsimp only
    split
    · next heq =>
      obtain rfl := (List.cons.inj heq).1
      exact absurd hs (by decide)
    · rfl
  · have hblank : isScalarChar ' ' = false := by decide
    have htake := Text.takeWhile_stop r htime hstop
    have hdrop := Text.dropWhile_stop r htime hstop
    rw [scalarRun.eq_def, List.append_assoc, List.cons_append, Text.takeWhile_stop _ hday hblank,
      Text.dropWhile_stop _ hday hblank]
    simp only [List.cons_append] at htake hdrop ⊢
    rw [hdate, htime c List.mem_cons_self, htake, hdrop]
    rfl

theorem scalar?_append {t rest : Text} {v : Value} (ht : scalar? t = some (v, [])) (hrest : Stops rest) :
    scalar? (t ++ rest) = some (v, rest) := by
  obtain ⟨w, hof, hw⟩ := Option.map_eq_some_iff.mp ht
  obtain ⟨rfl, hnil⟩ := Prod.mk.inj hw
  have hrun : scalarRun t = ((scalarRun t).1, []) := by rw [← hnil]
  rw [scalar?, scalarRun_append hrun hrest, hof]
  rfl

/-- A scalar begins with a character of its own. -/
theorem exists_cons_of_scalar {t : Text} {v : Value} (ht : scalar? t = some (v, [])) :
    ∃ c r, t = c :: r ∧ isScalarChar c = true := by
  have hrun : scalarRun t = ((scalarRun t).1, []) := by
    obtain ⟨w, -, hw⟩ := Option.map_eq_some_iff.mp ht
    rw [← (Prod.mk.inj hw).2]
  obtain ⟨-, hword | ⟨day, c, time, rfl, hdate, hday, -⟩⟩ := cases_of_scalarRun hrun
  · cases t with
    | nil => cases ht
    | cons c t => exact ⟨c, t, rfl, hword c List.mem_cons_self⟩
  · cases day with
    | nil => exact absurd hdate (by decide)
    | cons d day => exact ⟨d, _, rfl, hday d List.mem_cons_self⟩

theorem value?_scalar (depth : Nat) {c : Char} (hc : isScalarChar c = true) (r : Text) :
    value? depth (c :: r) = scalar? (c :: r) := by
  rw [value?.eq_def]
  split
  · next heq => exact absurd (List.cons.inj heq).1 (ne_of_class hc (by decide))
  · next heq => exact absurd (List.cons.inj heq).1 (ne_of_class hc (by decide))
  · next heq => exact absurd (List.cons.inj heq).1 (ne_of_class hc (by decide))
  · next heq => exact absurd (List.cons.inj heq).1 (ne_of_class hc (by decide))
  · rfl

theorem value?_of_scalar (depth : Nat) {t rest : Text} {v : Value} (ht : scalar? t = some (v, []))
    (hrest : Stops rest) : value? depth (t ++ rest) = some (v, rest) := by
  obtain ⟨c, r, rfl, hc⟩ := exists_cons_of_scalar ht
  rw [← scalar?_append ht hrest]
  exact value?_scalar depth hc _

/-! ### Names -/

theorem isScalarChar_of_isBareChar {c : Char} (h : isBareChar c = true) : isScalarChar c = true := by
  simp only [isBareChar, Bool.or_eq_true, decide_eq_true_eq] at h
  simp only [isScalarChar, Bool.or_eq_true, decide_eq_true_eq]
  rcases h with (h | rfl) | rfl
  · exact .inl h
  · exact .inr (by decide)
  · exact .inr (by decide)

theorem exists_cons_writeName (name : Text) :
    ∃ c r, writeName name = c :: r ∧ (isBareChar c = true ∨ c = '"') := by
  rw [writeName]
  split
  · next h =>
    obtain ⟨c, r, rfl⟩ := List.exists_cons_of_ne_nil h.1
    exact ⟨c, r, rfl, .inl (List.all_eq_true.mp h.2 c List.mem_cons_self)⟩
  · exact ⟨'"', _, rfl, .inr rfl⟩

theorem starts_writeEntry (name w : Text) : Starts (writeEntry name w) := by
  obtain ⟨c, r, hname, hc⟩ := exists_cons_writeName name
  refine ⟨c, r ++ " = ".toList ++ w, by rw [writeEntry, hname]; rfl, ?_⟩
  rcases hc with hc | rfl
  · rw [isFirst, isScalarChar_of_isBareChar hc, Bool.true_or]
  · decide

theorem name?_writeName (name rest : Text) :
    name? (writeName name ++ ' ' :: rest) = some (name, ' ' :: rest) := by
  rw [writeName]
  split
  · next h =>
    have hall : ∀ c ∈ name, isBareChar c = true := List.all_eq_true.mp h.2
    have hblank : isBareChar ' ' = false := by decide
    have htake := Text.takeWhile_stop rest hall hblank
    have hdrop := Text.dropWhile_stop rest hall hblank
    obtain ⟨c, r, rfl⟩ := List.exists_cons_of_ne_nil h.1
    have hc : isBareChar c = true := hall c List.mem_cons_self
    rw [name?.eq_def]
    split
    · next heq => exact absurd (List.cons.inj heq).1 (ne_of_class hc (by decide))
    · next heq => exact absurd (List.cons.inj heq).1 (ne_of_class hc (by decide))
    · rw [htake, hdrop]
  · rw [← shortQuoted?_quote name (' ' :: rest), quote_append]
    rfl

theorem key?_writeName (name rest : Text) :
    key? (writeName name ++ ' ' :: '=' :: rest) = some ([name], '=' :: rest) := by
  rw [key?, keyLimit, names?, name?_writeName]
  rfl

theorem assignment?_writeEntry {item? : Reader Value} {name w rest : Text} {v : Value} (hw : Starts w)
    (hread : item? (w ++ rest) = some (v, rest)) :
    assignment? item? (writeEntry name w ++ rest) = some (([name], v), rest) := by
  have hentry : writeEntry name w ++ rest = writeName name ++ ' ' :: '=' :: ' ' :: (w ++ rest) := by
    simp [writeEntry]
  have hskip : skipSpace (' ' :: (w ++ rest)) = w ++ rest := skipSpace_of_starts (hw.append rest)
  rw [hentry, assignment?, key?_writeName]
  simp [hskip, hread]

/-! ### Sequences -/

theorem length_le_commas {ws : List Text} (h : ∀ w ∈ ws, Starts w) : ws.length ≤ (commas ws).length := by
  induction ws with
  | nil => exact Nat.le_refl 0
  | cons w ws ih =>
    have hw := (h w List.mem_cons_self).length_pos
    cases ws with
    | nil => exact hw
    | cons v ws =>
      have hlength := ih fun u hu => h u (List.mem_cons_of_mem w hu)
      simp only [commas, List.length_append, List.length_cons] at hlength ⊢
      omega

theorem isFirst_ne_close {c close : Char} (hclose : close = ']' ∨ close = '\x7d') (hc : isFirst c = true) :
    c ≠ close := by
  rcases hclose with rfl | rfl <;> exact ne_of_class hc (by decide)

theorem skip_close {close : Char} (hclose : close = ']' ∨ close = '\x7d') (rest : Text) :
    skip true false (close :: rest) = some (close :: rest) := by
  rcases hclose with rfl | rfl <;> rfl

theorem sequence?_blank (close : Char) (item? : Reader α) (most : Nat) (t : Text) :
    sequence? close item? most (' ' :: t) = sequence? close item? most t := by
  cases most with
  | zero => rfl
  | succ most =>
    have hskip : skip true false (' ' :: t) = skip true false t := rfl
    rw [sequence?, hskip, sequence?]

theorem sequence?_last {item? : Reader α} {close : Char} (hclose : close = ']' ∨ close = '\x7d') (most : Nat)
    {w rest : Text} {x : α} (hw : Starts w) (hread : item? (w ++ close :: rest) = some (x, close :: rest)) :
    sequence? close item? (most + 1) (w ++ close :: rest) = some ([x], rest) := by
  have hskip := skip_of_starts (hw.append (close :: rest))
  obtain ⟨c, r, rfl, hc⟩ := hw
  have hne := isFirst_ne_close hclose hc
  rw [sequence?, hskip]
  simp only [List.cons_append, Option.bind_eq_bind, Option.bind_some, hne, if_false] at hread ⊢
  simp [hread, skip_close hclose]

theorem sequence?_next {item? : Reader α} {close : Char} (hclose : close = ']' ∨ close = '\x7d') (most : Nat)
    {w rest : Text} {x : α} (hw : Starts w) (hread : item? (w ++ ',' :: rest) = some (x, ',' :: rest)) :
    sequence? close item? (most + 1) (w ++ ',' :: rest) =
      (sequence? close item? most rest).map fun (xs, r) => (x :: xs, r) := by
  have hskip := skip_of_starts (hw.append (',' :: rest))
  obtain ⟨c, r, rfl, hc⟩ := hw
  have hne := isFirst_ne_close hclose hc
  have hcomma : ',' ≠ close := by
    rcases hclose with rfl | rfl <;> decide
  have hskipComma : skip true false (',' :: rest) = some (',' :: rest) := rfl
  rw [sequence?, hskip]
  simp only [List.cons_append, Option.bind_eq_bind, Option.bind_some, hne, if_false] at hread ⊢
  cases hrest : sequence? close item? most rest <;> simp [hread, hskipComma, hcomma, hrest]

/-- What is written with commas in between is read item by item, if each item is read up to where it
stops. -/
theorem sequence?_commas {item? : Reader α} {close : Char} (hclose : close = ']' ∨ close = '\x7d')
    (wrote : β → Text) (stands : β → α) (rest : Text) : ∀ (xs : List β) {most : Nat}, xs.length < most →
    (∀ x ∈ xs, Starts (wrote x)) →
    (∀ x ∈ xs, ∀ r, Stops r → item? (wrote x ++ r) = some (stands x, r)) →
    sequence? close item? most (commas (xs.map wrote) ++ close :: rest) = some (xs.map stands, rest)
  | [], most + 1, _, _, _ => by
    change sequence? close item? (most + 1) (close :: rest) = some ([], rest)
    rw [sequence?, skip_close hclose]
    simp
  | [x], most + 1, _, hstart, hread => by
    have hstop : Stops (close :: rest) := ⟨close, rest, rfl, by rcases hclose with rfl | rfl <;> decide⟩
    exact sequence?_last hclose most (hstart x List.mem_cons_self) (hread x List.mem_cons_self _ hstop)
  | x :: y :: xs, most + 1, hmost, hstart, hread => by
    have ih := sequence?_commas hclose wrote stands rest (y :: xs) (Nat.lt_of_succ_lt_succ hmost)
      (fun z hz => hstart z (List.mem_cons_of_mem x hz)) fun z hz => hread z (List.mem_cons_of_mem x hz)
    have hstop : ∀ r, Stops (',' :: r) := fun r => ⟨',', r, rfl, by decide⟩
    have hnext := sequence?_next hclose most (hstart x List.mem_cons_self)
      (hread x List.mem_cons_self _ (hstop (' ' :: (commas ((y :: xs).map wrote) ++ close :: rest))))
    rw [sequence?_blank, ih] at hnext
    rw [List.map_cons, List.map_cons, commas, List.append_assoc]
    exact hnext

/-- The length of a text is enough for all that is written in it. -/
theorem sequence?_length {item? : Reader α} {close : Char} (hclose : close = ']' ∨ close = '\x7d')
    (wrote : β → Text) (stands : β → α) (rest : Text) {xs : List β} (hstart : ∀ x ∈ xs, Starts (wrote x))
    (hread : ∀ x ∈ xs, ∀ r, Stops r → item? (wrote x ++ r) = some (stands x, r)) :
    sequence? close item? (commas (xs.map wrote) ++ close :: rest).length
      (commas (xs.map wrote) ++ close :: rest) = some (xs.map stands, rest) := by
  have hcommas := length_le_commas (List.forall_mem_map.mpr hstart)
  have hmost : xs.length < (commas (xs.map wrote) ++ close :: rest).length := by
    rw [List.length_map] at hcommas
    rw [List.length_append, List.length_cons]
    omega
  exact sequence?_commas hclose wrote stands rest xs hmost hstart hread

/-! ### Tables -/

/-- The statement of one member. -/
def statement (m : Text × Value) : Statement := .entry [m.1] m.2

/-- A value under a new name comes behind all others. -/
theorem alter_setValue {name : Text} (v : Value) : ∀ {ms : Members}, name ∉ ms.map Prod.fst →
    alter name (setValue v) ms = some (ms ++ [(name, .value v)])
  | [], _ => rfl
  | (k, n) :: ms, h => by
    rw [List.map_cons, List.mem_cons, not_or] at h
    rw [alter, if_neg (Ne.symm h.1), alter_setValue v h.2]
    rfl

theorem foldlM_add : ∀ (members : List (Text × Value)) (tree : Members),
    (tree.map Prod.fst ++ members.map Prod.fst).Nodup →
    (members.map statement).foldlM Draft.add ⟨[], tree⟩ =
      some ⟨[], tree ++ members.map fun m => (m.1, .value m.2)⟩
  | [], tree, _ => by simp
  | (name, v) :: members, tree, h => by
    have hnew : name ∉ tree.map Prod.fst := fun hmem =>
      (List.nodup_append.mp h).2.2 name hmem name List.mem_cons_self rfl
    have hadd : Draft.add ⟨[], tree⟩ (statement (name, v)) = some ⟨[], tree ++ [(name, .value v)]⟩ := by
      rw [statement, Draft.add, within, addEntry, alter_setValue v hnew]
      rfl
    have ih := foldlM_add members (tree ++ [(name, .value v)]) (by simpa using h)
    rw [List.map_cons, List.foldlM_cons, hadd]
    simpa using ih

theorem membersValue_value (members : List (Text × Value)) :
    membersValue (members.map fun m => (m.1, .value m.2)) = members := by
  induction members with
  | nil => rfl
  | cons m members ih => rw [List.map_cons, membersValue, ih, Node.toValue]

/-- Values under names of their own make up the record of these members. -/
theorem assemble?_statements {members : List (Text × Value)} (h : (members.map Prod.fst).Nodup) :
    assemble? (members.map statement) = some (.record members) := by
  have hfold := foldlM_add members [] (by simpa using h)
  rw [assemble?]
  change Option.map _ ((members.map statement).foldlM Draft.add ⟨[], []⟩) = _
  rw [hfold, List.nil_append, Option.map_some, membersValue_value]

/-! ### Values -/

theorem starts_write {depth : Nat} {v : Value} (h : Writable depth v) : Starts (write v) := by
  have hscalar : ∀ {t : Text} {v : Value}, scalar? t = some (v, []) → Starts t := by
    intro t v ht
    obtain ⟨c, r, rfl, hc⟩ := exists_cons_of_scalar ht
    exact ⟨c, r, rfl, by rw [isFirst, hc, Bool.true_or]⟩
  cases h with
  | flag b => cases b <;> exact ⟨_, _, rfl, by decide⟩
  | number h => exact hscalar h
  | date h => exact hscalar h
  | text t => exact ⟨'"', _, rfl, by decide⟩
  | list => exact ⟨'[', _, rfl, by decide⟩
  | record => exact ⟨'\x7b', _, rfl, by decide⟩

theorem value?_list (depth : Nat) (r : Text) : value? (depth + 1) ('[' :: r) =
    (sequence? ']' (value? depth) r.length r).map fun (items, rest) => (.list items, rest) := by
  rw [value?]
  cases sequence? ']' (value? depth) r.length r <;> rfl

theorem value?_record (depth : Nat) (r : Text) : value? (depth + 1) ('\x7b' :: r) =
    (sequence? '\x7d' (assignment? (value? depth)) r.length r).bind fun (entries, rest) =>
      (inlineTable? entries).map (·, rest) := by
  rw [value?]
  cases sequence? '\x7d' (assignment? (value? depth)) r.length r with
  | none => rfl
  | some read => cases h : inlineTable? read.1 <;> simp [h]

/-- A value is read as it was written, up to where it stops. -/
theorem value?_write {depth : Nat} {v : Value} (h : Writable depth v) :
    ∀ rest, Stops rest → value? depth (write v ++ rest) = some (v, rest) := by
  -- by what makes up the value: its items and members are read at the depth below
  induction h with
  | flag b =>
    have hscalar : scalar? (write (.flag b)) = some (.flag b, []) := by
      cases b <;> rfl
    exact fun rest hrest => value?_of_scalar _ hscalar hrest
  | number h => exact fun rest hrest => value?_of_scalar _ h hrest
  | date h => exact fun rest hrest => value?_of_scalar _ h hrest
  | text t =>
    intro rest hrest
    have hquoted := quoted?_quote t hrest.head?_ne
    rw [write, quote_append] at *
    rw [value?, hquoted]
    rfl
  | @list depth items h ih =>
    intro rest hrest
    have hstart : ∀ v ∈ items, Starts (write v) := fun v hv => starts_write (h v hv)
    rw [write, writeItems_eq, List.cons_append, List.cons_append, List.append_assoc, List.singleton_append,
      value?_list, sequence?_length (.inl rfl) write id rest hstart ih, List.map_id]
    rfl
  | @record depth members hnames h ih =>
    intro rest hrest
    have hread : ∀ m ∈ members, ∀ r, Stops r →
        assignment? (value? depth) (writeEntry m.1 (write m.2) ++ r) = some (([m.1], m.2), r) :=
      fun m hm r hr => assignment?_writeEntry (starts_write (h m hm)) (ih m hm r hr)
    have htable : inlineTable? (members.map fun m => ([m.1], m.2)) = some (.record members) := by
      rw [inlineTable?, List.map_map, ← assemble?_statements hnames]
      rfl
    rw [write, writeMembers_eq, List.cons_append, List.cons_append, List.append_assoc, List.singleton_append,
      value?_record, sequence?_length (.inr rfl) _ _ rest (fun m _ => starts_writeEntry m.1 (write m.2)) hread]
    change (inlineTable? _).map _ = _
    rw [htable]
    rfl

/-! ### Documents -/

/-- The text of a document whose members are written on lines of their own. -/
theorem writeDocument_cons (m : Text × Value) (members : List (Text × Value)) :
    writeDocument (m :: members) = writeEntry m.1 (write m.2) ++ '\n' :: writeDocument members := by
  simp [writeDocument, writeMembers]

/-- No entry looks like a header. -/
theorem statement?_writeEntry {m : Text × Value} (h : Writable depthLimit m.2) {rest : Text}
    (hrest : Stops rest) : statement? (writeEntry m.1 (write m.2) ++ rest) = some (statement m, rest) := by
  have hread : assignment? (value? depthLimit) (writeEntry m.1 (write m.2) ++ rest) =
      some (([m.1], m.2), rest) := assignment?_writeEntry (starts_write h) (value?_write h rest hrest)
  obtain ⟨c, r, hname, hc⟩ := exists_cons_writeName m.1
  have hne : c ≠ '[' := by
    rintro rfl
    rcases hc with hc | hc <;> exact absurd hc (by decide)
  have hentry : writeEntry m.1 (write m.2) ++ rest = c :: (r ++ " = ".toList ++ write m.2 ++ rest) := by
    rw [writeEntry, hname]
    rfl
  rw [hentry] at hread ⊢
  rw [statement?.eq_def]
  split
  · next heq => exact absurd (List.cons.inj heq).1 hne
  · next heq => exact absurd (List.cons.inj heq).1 hne
  · rw [hread]
    rfl

/-- Every line is read as the statement of its member. -/
theorem statements?_writeDocument : ∀ (members : List (Text × Value)) {most : Nat}, members.length < most →
    (∀ m ∈ members, Writable depthLimit m.2) →
    statements? most (writeDocument members) = some (members.map statement)
  | [], most + 1, _, _ => rfl
  | m :: members, most + 1, hmost, h => by
    have ih := statements?_writeDocument members (Nat.lt_of_succ_lt_succ hmost) fun n hn =>
      h n (List.mem_cons_of_mem m hn)
    have hstop : Stops ('\n' :: writeDocument members) := ⟨'\n', _, rfl, by decide⟩
    have hread := statement?_writeEntry (h m List.mem_cons_self) hstop
    have hstart := (starts_writeEntry m.1 (write m.2)).append ('\n' :: writeDocument members)
    have hline : skip false false ('\n' :: writeDocument members) = some (writeDocument members) := rfl
    rw [writeDocument_cons, statements?, skip_of_starts hstart]
    obtain ⟨c, r, hcons, -⟩ := hstart
    rw [hcons] at hread ⊢
    simp [hread, hline, ih]

theorem length_le_writeDocument (members : List (Text × Value)) :
    members.length ≤ (writeDocument members).length := by
  induction members with
  | nil => exact Nat.le_refl 0
  | cons m members ih =>
    rw [writeDocument_cons, List.length_append, List.length_cons, List.length_cons]
    omega

theorem dropMark_writeDocument (members : List (Text × Value)) :
    Text.dropMark (writeDocument members) = writeDocument members := by
  cases members with
  | nil => rfl
  | cons m members =>
    obtain ⟨c, r, hentry, hc⟩ := (starts_writeEntry m.1 (write m.2)).append ('\n' :: writeDocument members)
    rw [writeDocument_cons, hentry, Text.dropMark.eq_def]
    split
    · next heq => exact absurd (List.cons.inj heq).1 (ne_of_class hc (by decide))
    · rfl

/-- The members of a document are read as they were written. -/
theorem document?_write {members : List (Text × Value)} (hnames : (members.map Prod.fst).Nodup)
    (h : ∀ m ∈ members, Writable depthLimit m.2) :
    document? (writeDocument members) = some (.record members) := by
  have hstatements := statements?_writeDocument members
    (Nat.lt_succ_of_le (length_le_writeDocument members)) h
  rw [document?, dropMark_writeDocument]
  simp [hstatements, assemble?_statements hnames]

end SaveCheck.Toml
