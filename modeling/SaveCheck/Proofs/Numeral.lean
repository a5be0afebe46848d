import SaveCheck.Text.Class
import SaveCheck.Text.Numeral

/-!
Numerals: what is written can be read back, and every digit of it is a decimal digit.
-/

namespace SaveCheck.Numeral

theorem mem_write_isDigit {n : Nat} {c : Char} (h : c ∈ write n) : c.isDigit = true :=
  Nat.isDigit_of_mem_toDigits (by decide) (by decide) h

theorem write_ne_nil (n : Nat) : write n ≠ [] := Nat.toDigits_ne_nil

theorem value_write (n : Nat) : value (write n) = n := by
  have h := Nat.ofDigitChars_ten_toDigits (n := n)
  rwa [Nat.ofDigitChars_eq_foldl] at h

/-- A number below the limit is read from its numeral. -/
theorem read?_write {n : Nat} (h : n < limit) : read? (write n) = some n := by
  have hdigits : isDigits (write n) = true := by
    simp only [isDigits, write_ne_nil, ne_eq, not_false_eq_true, decide_true, Bool.true_and,
      List.all_eq_true]
    exact fun c hc => mem_write_isDigit hc
  rw [read?, hdigits, value_write, Bool.true_and, if_pos (decide_eq_true h)]

theorem hexValue?_digit (n : Nat) : hexValue? (hexDigit n) = some (n % 16) := by
  have hall : ∀ k < 16, hexValue? (Nat.digitChar k) = some k := by decide
  exact hall (n % 16) (Nat.mod_lt n (by decide))

end SaveCheck.Numeral

namespace SaveCheck.Text

theorem isDecimal_of_isDigit {c : Char} (h : c.isDigit = true) : isDecimal c = true := by
  simp only [Char.isDigit, Bool.and_eq_true, decide_eq_true_eq, ge_iff_le,
    UInt32.le_iff_toNat_le] at h
  refine List.any_eq_true.mpr ⟨(0x30, 0x39), List.mem_cons_self, ?_⟩
  simp only [Bool.and_eq_true, decide_eq_true_eq]
  exact h

end SaveCheck.Text
