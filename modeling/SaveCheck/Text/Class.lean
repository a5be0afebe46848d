import SaveCheck.Text
import SaveCheck.Text.Added
import SaveCheck.Text.Alphabetic
import SaveCheck.Text.Mark
import SaveCheck.Text.Number

/-!
The classes of characters that the readers of this library ask for, each as the Unicode standard
defines it, and the ways to trim and split a text at blanks.
-/

namespace SaveCheck.Text

/-- Whether a character lies in one of the ranges, ends included. -/
def inRanges (ranges : List (Nat × Nat)) (c : Char) : Bool :=
  ranges.any fun (lo, hi) => lo ≤ c.toNat && c.toNat ≤ hi

/-- Code points with the property White_Space. -/
def blankRanges : List (Nat × Nat) := [
  (0x0009, 0x000d), (0x0020, 0x0020), (0x0085, 0x0085), (0x00a0, 0x00a0), (0x1680, 0x1680),
  (0x2000, 0x200a), (0x2028, 0x2029), (0x202f, 0x202f), (0x205f, 0x205f), (0x3000, 0x3000)]

/-- Connector punctuation and the joiners, which hold a word together. -/
def joinRanges : List (Nat × Nat) := [
  (0x005f, 0x005f), (0x200c, 0x200d), (0x203f, 0x2040), (0x2054, 0x2054), (0xfe33, 0xfe34),
  (0xfe4d, 0xfe4f), (0xff3f, 0xff3f)]

/-- White space. -/
def isBlank (c : Char) : Bool := inRanges blankRanges c

/-- A decimal digit of any script. -/
def isDecimal (c : Char) : Bool := inRanges digitRanges c

/-- A letter, a mark, a decimal digit, a connector or a joiner. -/
def isWord (c : Char) : Bool :=
  inRanges alphabeticRanges c || inRanges digitRanges c || inRanges joinRanges c || inRanges markRanges c

/-- A letter or a number of any kind, the newest ones included. -/
def isAlphanumeric (c : Char) : Bool :=
  inRanges alphabeticRanges c || inRanges digitRanges c || inRanges otherNumberRanges c
    || inRanges addedRanges c

/-! ### Blanks -/

/-- A text without the blanks that it begins with. -/
def trimStart (t : Text) : Text := t.dropWhile isBlank

/-- A text without the blanks at either end. -/
def trim (t : Text) : Text := (trimStart (trimStart t).reverse).reverse

/-- The words of a text: its non-empty pieces between blanks. -/
def words (t : Text) : List Text := (cells isBlank t).filter (· ≠ [])

/-- Lower case for the letters `A` to `Z`; every other character stays as it is. -/
def lower (t : Text) : Text := t.map Char.toLower

end SaveCheck.Text
