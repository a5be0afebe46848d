import SaveCheck.Text

/-!
Numerals. Those of a count stand for numbers below 2^64. Reading takes the digits `0` to `9` only, and
leading zeros; `readSigned?` also takes one plus sign in front, as the counts of a cover profile may have,
and `readInteger?` a minus sign.
-/

namespace SaveCheck.Numeral

/-- The first number that no counter of this library can hold. -/
def limit : Nat := 1 <<< 64

/-- The number that a list of decimal digits stands for. -/
def value (digits : Text) : Nat := digits.foldl (fun n c => 10 * n + (c.toNat - '0'.toNat)) 0

/-- Whether a text is one decimal digit or more. -/
def isDigits (t : Text) : Bool := t ≠ [] && t.all Char.isDigit

/-- The number a numeral stands for, if it is below the limit. -/
def read? (t : Text) : Option Nat :=
  if isDigits t && value t < limit then some (value t) else none

/-- The number a numeral with an optional plus sign stands for, if it is below the limit. -/
def readSigned? : Text → Option Nat
  | '+' :: digits => read? digits
  | digits => read? digits

/-- The number that digits with an optional minus sign stand for. -/
def readInteger? : Text → Option Int
  | '-' :: digits => if isDigits digits then some (-(value digits : Int)) else none
  | digits => if isDigits digits then some (value digits : Int) else none

/-- The numeral of a number, without leading zeros. -/
def write (n : Nat) : Text := Nat.toDigits 10 n

/-! ### Hexadecimal digits -/

/-- The digit of a number's last four bits. -/
def hexDigit (n : Nat) : Char := Nat.digitChar (n % 16)

/-- The value of a digit, in either case. -/
def hexValue? (c : Char) : Option Nat :=
  if c.isDigit then some (c.toNat - 48)
  else if 'a' ≤ c ∧ c ≤ 'f' then some (c.toNat - 87)
  else if 'A' ≤ c ∧ c ≤ 'F' then some (c.toNat - 55)
  else none

end SaveCheck.Numeral
