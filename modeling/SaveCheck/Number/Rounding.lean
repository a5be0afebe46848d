import SaveCheck.Text.Numeral

/-!
Rounding of quotients to the nearest, ties to the even neighbour: to a whole number, to a number of
significant bits, and to one decimal place.
-/

namespace SaveCheck.Rounding

/-- A quotient of two natural numbers. -/
structure Ratio where
  num : Nat
  den : Nat
  deriving DecidableEq, Repr

/-- The whole number nearest to `num / den`; of two, the even one. -/
def nearest (num den : Nat) : Nat :=
  let q := num / den
  let r := num % den
  if 2 * r < den then q
  else if den < 2 * r then q + 1
  else q + q % 2

/-- The significant bits of a double. -/
def precision : Nat := 53

/-- The number of 53 significant bits that is nearest to a quotient. The quotient is scaled by a power
of two so that its whole part has 53 or 54 bits, and once more by one when it has 54. -/
def toDouble (x : Ratio) : Ratio :=
  if x.num = 0 then ⟨0, 1⟩
  else
    let up := precision + x.den.log2 - x.num.log2
    let down := x.num.log2 - (precision + x.den.log2)
    let num := x.num <<< up
    let den := x.den <<< down
    let extra := if 1 <<< precision ≤ num / den then 1 else 0
    ⟨nearest num (den <<< extra) <<< (down + extra), 1 <<< up⟩

/-- A number with one decimal place. -/
def tenths (x : Ratio) : Text :=
  let n := nearest (10 * x.num) x.den
  Numeral.write (n / 10) ++ '.' :: Numeral.write (n % 10)

/-- A share in percent with one decimal place, each step of the sum kept to 53 bits; the share of
nothing is nothing. -/
def percent (part whole : Nat) : Text :=
  if whole = 0 then tenths ⟨0, 1⟩
  else
    let p := toDouble ⟨part, 1⟩
    let hundredfold := toDouble ⟨p.num * 100, p.den⟩
    let w := toDouble ⟨whole, 1⟩
    tenths (toDouble ⟨hundredfold.num * w.den, hundredfold.den * w.num⟩)

end SaveCheck.Rounding
