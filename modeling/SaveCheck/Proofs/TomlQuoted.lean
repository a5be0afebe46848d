import Mathlib.Tactic.SplitIfs
import SaveCheck.Json
import SaveCheck.Proofs.Numeral
import SaveCheck.Toml.Quoted

/-!
Quoting a text as TOML has it, and reading it back.

    a"b\c⏎d   ── quote ──▶   "a\"b\\c\nd"   ── quoted? ──▶   a"b\c⏎d

The escapes of JSON are escapes of TOML too, but TOML lets one character less stand as it is: the last of
ASCII has to be escaped. Each character is written as one of three shapes, and what the three steps of
reading do is told shape by shape.
-/

namespace SaveCheck.Toml

/-- A character inside of quotes. -/
def escape (c : Char) : Text := if c = '\x7f' then "\\u007f".toList else Json.escape c

/-- A text in quotes. -/
def quote (t : Text) : Text := '"' :: t.flatMap escape ++ ['"']

/-! ### The shapes of an escape -/

/-- How a character is written: as it is, behind a backslash, or by its code point. -/
inductive Spelled (c : Char) : Text → Prop
  | itself (hquote : c ≠ '"') (hslash : c ≠ '\\') (hplain : isPlain c = true) : Spelled c [c]
  | short (letter : Char) (hshort : shortEscape? letter = some c) (hplain : isPlain letter = true) :
      Spelled c ['\\', letter]
  | long (hcode : c.toNat < 256) :
      Spelled c ['\\', 'u', '0', '0', Numeral.hexDigit (c.toNat / 16), Numeral.hexDigit c.toNat]

theorem spelled_escape (c : Char) : Spelled c (escape c) := by
  rw [escape]
  split
  · next h => rw [h]; exact .long (by decide)
  · next hlast =>
    rw [Json.escape]
    split_ifs with hquote hslash hback hfeed hline hreturn htab hcontrol
    · exact .short '"' (by rw [hquote]; rfl) (by decide)
    · exact .short '\\' (by rw [hslash]; rfl) (by decide)
    · exact .short 'b' (by rw [hback]; rfl) (by decide)
    · exact .short 'f' (by rw [hfeed]; rfl) (by decide)
    · exact .short 'n' (by rw [hline]; rfl) (by decide)
    · exact .short 'r' (by rw [hreturn]; rfl) (by decide)
    · exact .short 't' (by rw [htab]; rfl) (by decide)
    · exact .long (by omega)
    · refine .itself hquote hslash ?_
      simp only [isPlain, Bool.or_eq_true, Bool.and_eq_true, decide_eq_true_eq]
      exact .inl ⟨by omega, hlast⟩

theorem exists_cons_of_spelled {c : Char} {w : Text} (h : Spelled c w) : ∃ d v, w = d :: v ∧ d ≠ '"' := by
  cases h with
  | itself hquote => exact ⟨c, [], rfl, hquote⟩
  | short letter => exact ⟨'\\', _, rfl, by decide⟩
  | long => exact ⟨'\\', _, rfl, by decide⟩

/-! ### Where it closes -/

theorem body?_cons {c : Char} (hquote : c ≠ '"') (hslash : c ≠ '\\') (r : Text) :
    body? '"' true (c :: r) = prepend c (body? '"' true r) := by
  cases r with
  | nil => exact if_neg hquote
  | cons d r => rw [body?, if_neg hquote, if_neg (by simpa using hslash)]

theorem body?_backslash (d : Char) (r : Text) :
    body? '"' true ('\\' :: d :: r) = prepend '\\' (prepend d (body? '"' true r)) := rfl

theorem body?_quote (r : Text) : body? '"' true ('"' :: r) = some ([], r) := by
  cases r with
  | nil => rfl
  | cons d r => rw [body?, if_pos rfl]

theorem hexDigit_ne {c : Char} (hc : Numeral.hexValue? c = none) (n : Nat) : Numeral.hexDigit n ≠ c := by
  rintro rfl
  rw [Numeral.hexValue?_digit] at hc
  cases hc

/-- The closing quote is looked for behind what a character is written as. -/
theorem body?_spelled {c : Char} {w : Text} (h : Spelled c w) {r body rest : Text}
    (hr : body? '"' true r = some (body, rest)) : body? '"' true (w ++ r) = some (w ++ body, rest) := by
  cases h with
  | itself hquote hslash => rw [List.singleton_append, body?_cons hquote hslash, hr]; rfl
  | short letter => rw [List.cons_append, List.singleton_append, body?_backslash, hr]; rfl
  | long =>
    have hquote : ∀ n, Numeral.hexDigit n ≠ '"' := hexDigit_ne (by decide)
    have hslash : ∀ n, Numeral.hexDigit n ≠ '\\' := hexDigit_ne (by decide)
    simp only [List.cons_append, List.nil_append]
    rw [body?_backslash, body?_cons (by decide) (by decide), body?_cons (by decide) (by decide),
      body?_cons (hquote _) (hslash _), body?_cons (hquote _) (hslash _), hr]
    rfl

/-! ### What stands in it -/

theorem isClean_one_line (t : Text) : isClean false t = t.all isPlain := by
  induction t with
  | nil => rfl
  | cons c t ih =>
    rw [isClean.eq_def]
    split
    · next heq => cases heq
    · next r heq =>
      cases heq
      rfl
    · next heq =>
      cases heq
      rw [ih, List.all_cons, Bool.false_and, Bool.or_false]

theorem isPlain_hexDigit (n : Nat) : isPlain (Numeral.hexDigit n) = true := by
  have hall : ∀ k < 16, isPlain (Nat.digitChar k) = true := by decide
  exact hall (n % 16) (Nat.mod_lt n (by decide))

theorem all_isPlain_spelled {c : Char} {w : Text} (h : Spelled c w) : w.all isPlain = true := by
  have hslash : isPlain '\\' = true := by decide
  cases h with
  | itself _ _ hplain => simpa using hplain
  | short letter _ hplain => simpa [hslash] using hplain
  | long =>
    have hu : isPlain 'u' = true := by decide
    have hzero : isPlain '0' = true := by decide
    simp [hslash, hu, hzero, isPlain_hexDigit]

/-! ### What it stands for -/

theorem ofCodePoint?_toNat (c : Char) : ofCodePoint? c.toNat = some c := by
  have hvalid : c.toNat.isValidChar := c.valid
  rw [ofCodePoint?, if_pos hvalid, Char.ofNat_toNat]

theorem unescape?_digits {n : Nat} (value d : Nat) (hn : 1 < n) (r : Text) :
    unescape? (.digits n value) (Numeral.hexDigit d :: r) =
      unescape? (.digits (n - 1) (16 * value + d % 16)) r := by
  rw [unescape?, Numeral.hexValue?_digit]
  exact if_pos hn

theorem unescape?_last_digit {value d : Nat} {c : Char} (hc : 16 * value + d % 16 = c.toNat) (r : Text) :
    unescape? (.digits 1 value) (Numeral.hexDigit d :: r) = (unescape? .between r).map (c :: ·) := by
  rw [unescape?, Numeral.hexValue?_digit]
  simp only [Nat.lt_irrefl, if_false, hc, ofCodePoint?_toNat]

/-- A character is read from what it is written as. -/
theorem unescape?_spelled {c : Char} {w : Text} (h : Spelled c w) (r : Text) :
    unescape? .between (w ++ r) = (unescape? .between r).map (c :: ·) := by
  cases h with
  | itself _ hslash => rw [List.singleton_append, unescape?, if_neg hslash]
  | short letter hshort =>
    rw [List.cons_append, List.singleton_append, unescape?, if_pos rfl, unescape?, hshort]
  | long hcode =>
    have hzero : '0' = Numeral.hexDigit 0 := rfl
    simp only [List.cons_append, List.nil_append]
    rw [unescape?, if_pos rfl, unescape?]
    change unescape? (.digits 4 0) ('0' :: '0' :: _ :: _ :: r) = _
    rw [hzero, unescape?_digits 0 0 (by decide), unescape?_digits _ 0 (by decide),
      unescape?_digits _ _ (by decide), unescape?_last_digit (c := c) (by omega)]

/-! ### Quoted texts -/

theorem body?_escaped (t rest : Text) :
    body? '"' true (t.flatMap escape ++ '"' :: rest) = some (t.flatMap escape, rest) := by
  induction t with
  | nil => exact body?_quote rest
  | cons c t ih => rw [List.flatMap_cons, List.append_assoc, body?_spelled (spelled_escape c) ih]

theorem isClean_escaped (t : Text) : isClean false (t.flatMap escape) = true := by
  rw [isClean_one_line, List.all_flatMap, List.all_eq_true]
  exact fun c _ => all_isPlain_spelled (spelled_escape c)

theorem unescape?_escaped (t : Text) : unescape? .between (t.flatMap escape) = some t := by
  induction t with
  | nil => rfl
  | cons c t ih => rw [List.flatMap_cons, unescape?_spelled (spelled_escape c), ih]; rfl

theorem quote_append (t rest : Text) : quote t ++ rest = '"' :: (t.flatMap escape ++ '"' :: rest) := by
  simp [quote]

theorem shortQuoted?_quote (t rest : Text) : shortQuoted? (quote t ++ rest) = some (t, rest) := by
  rw [quote_append, shortQuoted?, basic?]
  simp [body?_escaped, isClean_escaped, unescape?_escaped]

/-- It begins with three quotes only where it is blank and a quote follows. -/
theorem quoted?_quote (t : Text) {rest : Text} (hrest : rest.head? ≠ some '"') :
    quoted? (quote t ++ rest) = some (t, rest) := by
  rw [← shortQuoted?_quote t rest, quote_append, quoted?.eq_def]
  split
  · next r heq =>
    have hclose := (List.cons.inj heq).2
    cases t with
    | nil =>
      rw [(List.cons.inj hclose).2] at hrest
      exact absurd rfl hrest
    | cons c t =>
      obtain ⟨d, v, hw, hd⟩ := exists_cons_of_spelled (spelled_escape c)
      rw [List.flatMap_cons, hw] at hclose
      exact absurd (List.cons.inj hclose).1 hd
  · next r heq => exact absurd (List.cons.inj heq).1 (by decide)
  · rfl

end SaveCheck.Toml
