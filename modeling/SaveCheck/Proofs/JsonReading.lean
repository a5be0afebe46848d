import Mathlib.Tactic.SplitIfs
import SaveCheck.Json
import SaveCheck.Proofs.Numeral

/-!
Reading JSON text, one character at a time.

    value ── [ ──▶ first ── ] ──▶ after          value ── "…" 12 null ──▶ after
    after ── , ──▶ value                         value ── a brace ──▶ firstName
    after ── ] or a brace ──▶ after              "name" ──▶ colon ── : ──▶ value

The reader is a machine with a stack of the lists and records that are still open. It is a strict one: no comma too
many, no leading zeros, no bare control in a text and no half of a surrogate pair. What is written it reads back.
-/

namespace SaveCheck.Json

/-! ### Numbers -/

/-- How far a number has been read. -/
inductive Part where
  | minus
  | zero
  | whole
  | point
  | fraction
  | mark
  | sign
  | exponent
  deriving DecidableEq, Repr

namespace Part

/-- What a number begins with. -/
def start? (c : Char) : Option Part :=
  if c = '-' then some minus else if c = '0' then some zero else if c.isDigit then some whole else none

/-- What may follow the digits before the point. -/
def afterWhole? (c : Char) : Option Part :=
  if c = '.' then some point else if c = 'e' ∨ c = 'E' then some mark else none

/-- What may come next in a number. -/
def next? (p : Part) (c : Char) : Option Part :=
  match p with
  | minus => if c = '0' then some zero else if c.isDigit then some whole else none
  | zero => afterWhole? c
  | whole => if c.isDigit then some whole else afterWhole? c
  | point => if c.isDigit then some fraction else none
  | fraction => if c.isDigit then some fraction else if c = 'e' ∨ c = 'E' then some mark else none
  | mark => if c = '+' ∨ c = '-' then some sign else if c.isDigit then some exponent else none
  | sign | exponent => if c.isDigit then some exponent else none

/-- Whether a number may end here. -/
def isEnd (p : Part) : Bool := p ∈ [zero, whole, fraction, exponent]

end Part

/-! ### Texts -/

/-- What the letter behind a backslash stands for. -/
def short? : Char → Option Char
  | '"' => some '"'
  | '\\' => some '\\'
  | '/' => some '/'
  | 'b' => some '\x08'
  | 'f' => some '\x0c'
  | 'n' => some '\n'
  | 'r' => some '\r'
  | 't' => some '\t'
  | _ => none

/-- Where a reader is inside of quotes. A code unit has some digits to come behind the next one; the first half of a
surrogate pair waits for the other. -/
inductive Inside where
  | plain
  | escape (high : Option Nat)
  | code (high : Option Nat) (left : Nat) (unit : Nat)
  | half (high : Nat)
  deriving DecidableEq, Repr

namespace Inside

/-- Take a code unit. -/
def finish (high : Option Nat) (unit : Nat) (read : Text) : Option (Inside × Text) :=
  let isLow := 0xdc00 ≤ unit ∧ unit < 0xe000
  match high with
  | none =>
    if 0xd800 ≤ unit ∧ unit < 0xdc00 then some (.half unit, read)
    else if isLow then none
    else some (plain, read ++ [Char.ofNat unit])
  | some high =>
    if isLow then some (plain, read ++ [Char.ofNat (0x10000 + (high - 0xd800) * 0x400 + (unit - 0xdc00))])
    else none

/-- Take a character that does not close the quotes. -/
def step (read : Text) (c : Char) : Inside → Option (Inside × Text)
  | plain =>
    if c = '\\' then some (escape none, read)
    else if c.toNat < 0x20 then none
    else some (plain, read ++ [c])
  | escape none => if c = 'u' then some (code none 3 0, read) else (short? c).map fun d => (plain, read ++ [d])
  | escape (some high) => if c = 'u' then some (code (some high) 3 0, read) else none
  | code high 0 unit => (Numeral.hexValue? c).bind fun n => finish high (16 * unit + n) read
  | code high (left + 1) unit => (Numeral.hexValue? c).map fun n => (code high left (16 * unit + n), read)
  | half high => if c = '\\' then some (escape (some high), read) else none

end Inside

/-! ### Values -/

/-- A list or a record that is still open: what it holds so far, and the name of the member that is read. -/
inductive Frame where
  | items (done : List Value)
  | members (done : List (Text × Value)) (name : Text)

/-- What a text in quotes is: a value, or the name of the next member. -/
inductive Role where
  | item
  | name (done : List (Text × Value))

/-- How far a reader has come. -/
inductive State where
  | value (stack : List Frame)
  | first (stack : List Frame)
  | firstName (stack : List Frame)
  | name (done : List (Text × Value)) (stack : List Frame)
  | colon (done : List (Text × Value)) (name : Text) (stack : List Frame)
  | word (left : Text) (v : Value) (stack : List Frame)
  | number (part : Part) (written : Text) (stack : List Frame)
  | quoted (role : Role) (inside : Inside) (read : Text) (stack : List Frame)
  | after (v : Value) (stack : List Frame)

namespace State

/-- Whether a character may stand between the parts of a value. -/
def isSpace (c : Char) : Bool := c ∈ [' ', '\n', '\r', '\t']

/-- Begin a value. -/
def begin? (stack : List Frame) (c : Char) : Option State :=
  if c = '"' then some (quoted .item .plain [] stack)
  else if c = '[' then some (first stack)
  else if c = '\x7b' then some (firstName stack)
  else if c = 'n' then some (word "ull".toList .null stack)
  else if c = 't' then some (word "rue".toList (.flag true) stack)
  else if c = 'f' then some (word "alse".toList (.flag false) stack)
  else (Part.start? c).map fun part => number part [c] stack

/-- Begin the name of a member. -/
def beginName? (done : List (Text × Value)) (stack : List Frame) (c : Char) : Option State :=
  if c = '"' then some (quoted (.name done) .plain [] stack) else none

/-- Go on behind a value. -/
def goOn? (v : Value) (stack : List Frame) (c : Char) : Option State :=
  if isSpace c then some (after v stack)
  else
    match stack with
    | [] => none
    | .items done :: stack =>
      if c = ',' then some (value (.items (done ++ [v]) :: stack))
      else if c = ']' then some (after (.list (done ++ [v])) stack)
      else none
    | .members done key :: stack =>
      if c = ',' then some (name (done ++ [(key, v)]) stack)
      else if c = '\x7d' then some (after (.record (done ++ [(key, v)])) stack)
      else none

/-- Close the quotes. -/
def close (read : Text) (stack : List Frame) : Role → State
  | .item => after (.text read) stack
  | .name done => colon done read stack

/-- Take a character. -/
def step (s : State) (c : Char) : Option State :=
  match s with
  | value stack => if isSpace c then some s else begin? stack c
  | first stack =>
    if isSpace c then some s
    else if c = ']' then some (after (.list []) stack)
    else begin? (.items [] :: stack) c
  | firstName stack =>
    if isSpace c then some s
    else if c = '\x7d' then some (after (.record []) stack)
    else beginName? [] stack c
  | name done stack => if isSpace c then some s else beginName? done stack c
  | colon done key stack =>
    if isSpace c then some s else if c = ':' then some (value (.members done key :: stack)) else none
  | word left v stack =>
    match left with
    | [] => none
    | d :: left => if c = d then some (if left = [] then after v stack else word left v stack) else none
  | number part written stack =>
    match part.next? c with
    | some part => some (number part (written ++ [c]) stack)
    | none => if part.isEnd then goOn? (.number written) stack c else none
  | quoted role inside read stack =>
    if inside = .plain ∧ c = '"' then some (close read stack role)
    else (inside.step read c).map fun (inside, read) => quoted role inside read stack
  | after v stack => goOn? v stack c

/-- The value that was read, if it was read whole and nothing is open. -/
def result? : State → Option Value
  | after v [] => some v
  | number part written [] => if part.isEnd then some (.number written) else none
  | _ => none

/-- Take some characters. -/
def run (s : State) (t : Text) : Option State := t.foldlM step s

end State

/-- Read a text that is a value and nothing else. -/
def read? (t : Text) : Option Value := ((State.value []).run t).bind State.result?

/-! ### What is written is read back -/

namespace State

variable {s s' : State} {stack : List Frame} {v : Value} {t rest : Text}

theorem run_cons_of_step {c : Char} (h : s.step c = some s') (t : Text) : s.run (c :: t) = s'.run t := by
  rw [run, List.foldlM_cons, h]
  rfl

/-- Spaces change nothing here. -/
def Idles (s : State) : Prop := ∀ c, isSpace c = true → s.step c = some s

theorem idles_value : (value stack).Idles := fun _ h => if_pos h

theorem idles_first : (first stack).Idles := fun _ h => if_pos h

theorem idles_firstName : (firstName stack).Idles := fun _ h => if_pos h

theorem idles_name {done : List (Text × Value)} : (name done stack).Idles := fun _ h => if_pos h

theorem idles_after : (after v stack).Idles := fun _ h => if_pos h

theorem Idles.run_spaces (hs : s.Idles) : ∀ {spaces : Text}, (∀ c ∈ spaces, isSpace c = true) →
    s.run (spaces ++ t) = s.run t
  | [], _ => rfl
  | c :: spaces, h => by
    obtain ⟨hc, hspaces⟩ := List.forall_mem_cons.mp h
    rw [List.cons_append, run_cons_of_step (hs c hc), hs.run_spaces hspaces]

theorem Idles.run_newline (hs : s.Idles) (level : Nat) (t : Text) : s.run (newline level ++ t) = s.run t := by
  refine hs.run_spaces (List.forall_mem_cons.mpr ⟨by decide, fun c hc => ?_⟩)
  rw [List.eq_of_mem_replicate hc]
  decide

/-! #### Texts -/

theorem step_code (role : Role) (high : Option Nat) (left unit n : Nat) (read : Text) :
    (quoted role (.code high (left + 1) unit) read stack).step (Numeral.hexDigit n) =
      some (quoted role (.code high left (16 * unit + n % 16)) read stack) := by
  simp [step, Inside.step, Numeral.hexValue?_digit]

theorem step_last_code (role : Role) {unit n : Nat} (hunit : 16 * unit + n % 16 < 0xd800) (read : Text) :
    (quoted role (.code none 0 unit) read stack).step (Numeral.hexDigit n) =
      some (quoted role .plain (read ++ [Char.ofNat (16 * unit + n % 16)]) stack) := by
  have hhigh : ¬ (0xd800 ≤ 16 * unit + n % 16 ∧ 16 * unit + n % 16 < 0xdc00) := by omega
  have hlow : ¬ (0xdc00 ≤ 16 * unit + n % 16 ∧ 16 * unit + n % 16 < 0xe000) := by omega
  simp [step, Inside.step, Inside.finish, Numeral.hexValue?_digit, hhigh, hlow]

/-- A control is read back from the four digits of its code. -/
theorem run_control {c : Char} (hc : c.toNat < 0x20) (role : Role) (read t : Text) :
    (quoted role (.code none 1 0) read stack).run (Numeral.hexDigit (c.toNat / 16) :: Numeral.hexDigit c.toNat :: t) =
      (quoted role .plain (read ++ [c]) stack).run t := by
  rw [run_cons_of_step (step_code ..), run_cons_of_step (step_last_code role (by omega) read)]
  have hcode : 16 * (16 * 0 + c.toNat / 16 % 16) + c.toNat % 16 = c.toNat := by omega
  rw [hcode, Char.ofNat_toNat]

theorem run_escape (c : Char) (role : Role) (read t : Text) (stack : List Frame) :
    (quoted role .plain read stack).run (escape c ++ t) = (quoted role .plain (read ++ [c]) stack).run t := by
  rw [escape]
  split_ifs with hquote hslash hback hfeed hline hreturn htab hcontrol
  · rw [hquote]; rfl
  · rw [hslash]; rfl
  · rw [hback]; rfl
  · rw [hfeed]; rfl
  · rw [hline]; rfl
  · rw [hreturn]; rfl
  · rw [htab]; rfl
  · exact run_control hcontrol role read t
  · refine run_cons_of_step ?_ t
    simp [step, Inside.step, hquote, hslash, hcontrol]

theorem run_escapes (role : Role) (stack : List Frame) : ∀ (t read : Text),
    (quoted role .plain read stack).run (t.flatMap escape ++ '"' :: rest) = (close (read ++ t) stack role).run rest
  | [], read => by
    rw [List.append_nil]
    rfl
  | c :: t, read => by
    rw [List.flatMap_cons, List.append_assoc, run_escape, run_escapes role stack t, List.append_assoc,
      List.singleton_append]

theorem run_quote {role : Role} (hs : s.step '"' = some (quoted role .plain [] stack)) (t rest : Text) :
    s.run (quote t ++ rest) = (close t stack role).run rest := by
  have hquote : quote t ++ rest = '"' :: (t.flatMap escape ++ '"' :: rest) := by simp [quote]
  rw [hquote, run_cons_of_step hs]
  exact run_escapes role stack t []

/-! #### Numbers -/

/-- A text that begins with what stands behind a value. -/
def Stopped (t : Text) : Prop := ∃ c rest, t = c :: rest ∧ (c = ',' ∨ c = '\n')

theorem run_number (ht : Stopped t) : ∀ {digits written : Text} {part last : Part},
    digits.foldlM Part.next? part = some last → last.isEnd = true →
      (number part written stack).run (digits ++ t) = (after (.number (written ++ digits)) stack).run t
  | [], written, part, last, hpart, hlast => by
    obtain ⟨c, rest, rfl, hc⟩ := ht
    obtain rfl := Option.some.inj hpart
    have hnext : part.next? c = none := by
      rcases hc with rfl | rfl <;> cases part <;> rfl
    have hstep : (number part written stack).step c = (after (.number (written ++ [])) stack).step c := by
      simp only [step, hnext, hlast, if_true, List.append_nil]
    rw [List.nil_append, run, run, List.foldlM_cons, List.foldlM_cons, hstep]
  | c :: digits, written, part, last, hpart, hlast => by
    rw [List.foldlM_cons] at hpart
    cases hnext : part.next? c with
    | none =>
      rw [hnext] at hpart
      cases hpart
    | some next =>
      rw [hnext] at hpart
      have hstep : (number part written stack).step c = some (number next (written ++ [c]) stack) := by
        simp only [step, hnext]
      rw [List.cons_append, run_cons_of_step hstep, run_number ht hpart hlast, List.append_assoc,
        List.singleton_append]

theorem ne_of_start? {c d : Char} {part : Part} (hc : Part.start? c = some part) (hd : Part.start? d = none) :
    c ≠ d := by
  rintro rfl
  rw [hd] at hc
  cases hc

theorem begin?_start {c : Char} {part : Part} (hc : Part.start? c = some part) :
    begin? stack c = some (number part [c] stack) := by
  rw [begin?, if_neg (ne_of_start? hc rfl), if_neg (ne_of_start? hc rfl), if_neg (ne_of_start? hc rfl),
    if_neg (ne_of_start? hc rfl), if_neg (ne_of_start? hc rfl), if_neg (ne_of_start? hc rfl), hc]
  rfl

theorem isSpace_start {c : Char} {part : Part} (hc : Part.start? c = some part) : isSpace c = false := by
  refine decide_eq_false fun hmem => ?_
  simp only [List.mem_cons, List.not_mem_nil, or_false] at hmem
  rcases hmem with rfl | rfl | rfl | rfl <;> cases hc

/-! #### Values -/

/-- A value begins here, within the lists and records of a stack. -/
def Opens (s : State) (stack : List Frame) : Prop :=
  ∀ c, isSpace c = false → c ≠ ']' → s.step c = begin? stack c

theorem opens_value (stack : List Frame) : (value stack).Opens stack := fun _ hc _ => if_neg (by simp [hc])

theorem opens_first (stack : List Frame) : (first stack).Opens (.items [] :: stack) :=
  fun _ hc hend => (if_neg (by simp [hc])).trans (if_neg hend)

/-- A value that is written at a level is read back. -/
def Reads (level : Nat) (v : Value) : Prop := ∀ {s : State} {stack : List Frame} {t : Text},
  s.Opens stack → Stopped t → s.run (pretty level v ++ t) = (after v stack).run t

theorem stopped_items (level outer : Nat) (t : Text) : ∀ xs : List Value,
    Stopped (prettyItems level xs ++ (newline outer ++ t))
  | [] => ⟨'\n', _, rfl, .inr rfl⟩
  | _ :: _ => ⟨',', _, rfl, .inl rfl⟩

theorem stopped_members (level outer : Nat) (t : Text) : ∀ ms : List (Text × Value),
    Stopped (prettyMembers level ms ++ (newline outer ++ t))
  | [] => ⟨'\n', _, rfl, .inr rfl⟩
  | _ :: _ => ⟨',', _, rfl, .inl rfl⟩

theorem run_items {level outer : Nat} : ∀ {xs : List Value}, (∀ v ∈ xs, Reads level v) →
    ∀ (done : List Value) (x : Value), (after x (.items done :: stack)).run
      (prettyItems level xs ++ (newline outer ++ ']' :: t)) = (after (.list (done ++ x :: xs)) stack).run t
  | [], _, done, x => by
    rw [prettyItems, List.nil_append, idles_after.run_newline]
    rfl
  | y :: xs, h, done, x => by
    obtain ⟨hy, hxs⟩ := List.forall_mem_cons.mp h
    have hcomma : (after x (.items done :: stack)).step ',' = some (value (.items (done ++ [x]) :: stack)) := rfl
    simp only [prettyItems, List.cons_append, List.append_assoc]
    rw [run_cons_of_step hcomma, idles_value.run_newline, hy (opens_value _) (stopped_items ..), run_items hxs,
      List.append_assoc, List.singleton_append]

theorem run_colon (done : List (Text × Value)) (key t : Text) :
    (colon done key stack).run (": ".toList ++ t) = (value (.members done key :: stack)).run t := rfl

theorem run_members {level outer : Nat} : ∀ {ms : List (Text × Value)}, (∀ m ∈ ms, Reads level m.2) →
    ∀ (done : List (Text × Value)) (key : Text) (x : Value), (after x (.members done key :: stack)).run
      (prettyMembers level ms ++ (newline outer ++ '\x7d' :: t)) =
        (after (.record (done ++ (key, x) :: ms)) stack).run t
  | [], _, done, key, x => by
    rw [prettyMembers, List.nil_append, idles_after.run_newline]
    rfl
  | (k, y) :: ms, h, done, key, x => by
    obtain ⟨hy, hms⟩ := List.forall_mem_cons.mp h
    have hcomma : (after x (.members done key :: stack)).step ',' = some (name (done ++ [(key, x)]) stack) := rfl
    simp only [prettyMembers, List.cons_append, List.append_assoc]
    rw [run_cons_of_step hcomma, idles_name.run_newline, run_quote rfl, close, run_colon,
      hy (opens_value _) (stopped_members ..), run_members hms, List.append_assoc, List.singleton_append]

end State

/-- A value of JSON: it has no dates, and its numbers are written as numbers are. -/
inductive Proper : Value → Prop where
  | null : Proper .null
  | flag (b : Bool) : Proper (.flag b)
  | number {first : Char} {digits : Text} {part last : Part} : Part.start? first = some part →
      digits.foldlM Part.next? part = some last → last.isEnd = true → Proper (.number (first :: digits))
  | text (t : Text) : Proper (.text t)
  | list {items : List Value} : (∀ v ∈ items, Proper v) → Proper (.list items)
  | record {members : List (Text × Value)} : (∀ m ∈ members, Proper m.2) → Proper (.record members)

/-- The text of a value at any level is read back, wherever a value may stand. -/
theorem Proper.reads {v : Value} (hv : Proper v) : ∀ level : Nat, State.Reads level v := by
  induction hv with
  | null =>
    intro level s stack t hs _
    rw [pretty]
    exact State.run_cons_of_step (hs 'n' (by decide) (by decide)) _
  | flag b =>
    intro level s stack t hs _
    cases b with
    | true =>
      rw [pretty]
      exact State.run_cons_of_step (hs 't' (by decide) (by decide)) _
    | false =>
      rw [pretty]
      exact State.run_cons_of_step (hs 'f' (by decide) (by decide)) _
  | @number first digits part last hstart hdigits hlast =>
    intro level s stack t hs ht
    have hopen := hs first (State.isSpace_start hstart) (State.ne_of_start? hstart rfl)
    rw [pretty, List.cons_append, State.run_cons_of_step (hopen.trans (State.begin?_start hstart)),
      State.run_number ht hdigits hlast, List.singleton_append]
  | text u =>
    intro level s stack t hs _
    rw [pretty, State.run_quote (hs '"' (by decide) (by decide)), State.close]
  | @list items hitems ih =>
    intro level s stack t hs _
    cases items with
    | nil =>
      rw [pretty]
      exact State.run_cons_of_step (hs '[' (by decide) (by decide)) _
    | cons x xs =>
      obtain ⟨hx, hxs⟩ := List.forall_mem_cons.mp ih
      simp only [pretty, List.cons_append, List.append_assoc]
      rw [State.run_cons_of_step (hs '[' (by decide) (by decide)), State.idles_first.run_newline,
        hx _ (State.opens_first _) (State.stopped_items ..), State.run_items fun v hv => hxs v hv _]
      rfl
  | @record members hmembers ih =>
    intro level s stack t hs _
    cases members with
    | nil =>
      rw [pretty]
      exact State.run_cons_of_step (hs '\x7b' (by decide) (by decide)) _
    | cons m ms =>
      obtain ⟨hm, hms⟩ := List.forall_mem_cons.mp ih
      obtain ⟨key, x⟩ := m
      simp only [pretty, List.cons_append, List.append_assoc]
      rw [State.run_cons_of_step (hs '\x7b' (by decide) (by decide)), State.idles_firstName.run_newline,
        State.run_quote rfl, State.close, State.run_colon, hm _ (State.opens_value _) (State.stopped_members ..),
        State.run_members fun m hm => hms m hm _]
      rfl

/-- What is written is read back. -/
theorem read?_pretty {v : Value} (hv : Proper v) : read? (pretty 0 v ++ ['\n']) = some v := by
  rw [read?, hv.reads 0 (State.opens_value []) ⟨'\n', [], rfl, .inr rfl⟩]
  rfl

example : read? " [1, \"\\ud83d\\ude00\"]".toList = some (.list [.number ['1'], .text ['😀']]) := rfl

example : read? "[1,]".toList = none := rfl

example : read? "01".toList = none := rfl

example : read? "\"\\ud83d\"".toList = none := rfl

end SaveCheck.Json
