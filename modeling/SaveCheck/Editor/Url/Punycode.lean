import SaveCheck.Text

/-!
The ASCII form of a label with characters past ASCII: the ASCII ones first, then, behind a hyphen, where
each of the others goes.

    bcher-kva  ── decode? ──▶  bücher

A place is told as the distance from the last one, in digits of which each may end the number; how early
they do is adapted to the distances so far.
-/

namespace SaveCheck.Punycode

/-- The value of a digit: letters first, in either case. -/
def digit? (c : Char) : Option Nat :=
  if c.isAlpha then some (c.toLower.toNat - 'a'.toNat)
  else if c.isDigit then some (c.toNat - '0'.toNat + 26)
  else none

/-- A digit below this ends a number. -/
def threshold (bias at_ : Nat) : Nat := min 26 (max 1 (at_ - bias))

/-- Read a number whose first digit has the weight `weight`, and add it to `sum`. -/
def number? (bias : Nat) : (at_ weight sum : Nat) → Text → Option (Nat × Text)
  | _, _, _, [] => none
  | at_, weight, sum, c :: r => do
    let d ← digit? c
    let t := threshold bias at_
    let sum := sum + d * weight
    if d < t then return (sum, r) else number? bias (at_ + 36) (weight * (36 - t)) sum r

/-- Divide a distance by 35 until it is small, no more than `most` times, and say how often. -/
def settle : (most distance : Nat) → Nat × Nat
  | 0, distance => (0, distance)
  | most + 1, distance =>
    if distance ≤ 455 then (0, distance)
    else
      let (times, rest) := settle most (distance / 35)
      (times + 1, rest)

/-- The bias after a distance, in a text that has become `length` characters long. -/
def adapt (distance length : Nat) (isFirst : Bool) : Nat :=
  let distance := if isFirst then distance / 700 else distance / 2
  let (times, rest) := settle distance (distance + distance / length)
  36 * times + 36 * rest / (rest + 38)

/-- What is decoded so far: the text, the place behind the last character put in, its code, and the bias
for the next distance. -/
structure Draft where
  text : Text
  place : Nat := 0
  code : Nat := 128
  bias : Nat := 72
  isFirst : Bool := true

/-- Put in the characters that are told, no more than `most`. -/
def fill? : (most : Nat) → Draft → Text → Option Text
  | _, draft, [] => some draft.text
  | 0, _, _ :: _ => none
  | most + 1, draft, told => do
    let (sum, rest) ← number? draft.bias 36 1 draft.place told
    let length := draft.text.length + 1
    let code := draft.code + sum / length
    let place := sum % length
    if code.isValidChar then
      fill? most
        { text := draft.text.take place ++ Char.ofNat code :: draft.text.drop place
          place := place + 1
          code
          bias := adapt (sum - draft.place) length draft.isFirst
          isFirst := false } rest
    else none

/-- The label that has an ASCII form. A hyphen at its very front is none that parts it. -/
def decode? (t : Text) : Option Text :=
  match Text.cutLast '-' t with
  | some (c :: plain, told) => fill? told.length { text := c :: plain } told
  | _ => fill? t.length { text := [] } t

end SaveCheck.Punycode
