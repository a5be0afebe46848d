import SaveCheck.Text.Numeral

/-!
Hosts that are named by number.

    127.0.0.1 · 0x7f.1 · 2130706433      four bytes; the last number fills what is left of them
    [::1] · [fe80::1.2.3.4]              eight groups, of which one run of zeros may be left out
-/

namespace SaveCheck.Url

/-! ### Four bytes

Names come here in lower case.
-/

/-- The base that a number is written in, and its digits: after `0x` it is 16, after another zero 8. -/
def baseOf : Text → Nat × Text
  | '0' :: 'x' :: r => (16, r)
  | '0' :: c :: r => (8, c :: r)
  | r => (10, r)

/-- The number that digits of a base stand for; no digits stand for zero. -/
def digitsValue? (base : Nat) (digits : Text) : Option Nat :=
  digits.foldlM (fun n c => do
    let d ← Numeral.hexValue? c
    if d < base then some (base * n + d) else none) 0

/-- The number in one part of an address. -/
def addressNumber? (part : Text) : Option Nat :=
  if part = [] then none
  else
    let (base, digits) := baseOf part
    digitsValue? base digits

/-- The parts of a name between its dots; there may be one more dot at the end. -/
def dottedParts (name : Text) : List Text :=
  match (Text.cells (· = '.') name).reverse with
  | [] :: c :: rest => (c :: rest).reverse
  | all => all.reverse

/-- Whether a name is meant as an address: its last part is a number. -/
def isNumbered (name : Text) : Bool :=
  match (dottedParts name).getLast? with
  | some part => Numeral.isDigits part || (addressNumber? part).isSome
  | none => false

/-- Whether a name is an address of four bytes. -/
def isAddress (name : Text) : Bool :=
  match ((dottedParts name).mapM addressNumber?).map List.reverse with
  | some (last :: others) =>
    others.length < 4 && others.all (· < 256) && last < 1 <<< (8 * (4 - others.length))
  | _ => false

/-! ### Eight groups -/

/-- Whether a text is one byte of four at the end of an address of groups. -/
def isByte (t : Text) : Bool :=
  Numeral.isDigits t && Numeral.value t < 256 && (t.length = 1 || t.head? ≠ some '0')

/-- Whether a text is a group. -/
def isGroup (t : Text) : Bool :=
  t ≠ [] && t.length ≤ 4 && t.all fun c => (Numeral.hexValue? c).isSome

/-- How many groups a text between colons stands for; the last may be written as four bytes. -/
def groupCount? (isLast : Bool) (t : Text) : Option Nat :=
  if isGroup t then some 1
  else
    let bytes := Text.cells (· = '.') t
    if isLast && bytes.length = 4 && bytes.all isByte then some 2 else none

/-- How many groups the texts between colons stand for. -/
def groupCounts? (mayEnd : Bool) : List Text → Option Nat
  | [] => some 0
  | t :: rest => do
    let n ← groupCount? (mayEnd && rest.isEmpty) t
    return n + (← groupCounts? mayEnd rest)

/-- How many groups a text stands for; `mayEnd` says whether four bytes may end it. -/
def groups? (mayEnd : Bool) (t : Text) : Option Nat :=
  if t = [] then some 0 else groupCounts? mayEnd (Text.cells (· = ':') t)

/-- Whether a text is an address of eight groups. -/
def isGrouped (t : Text) : Bool :=
  match Text.cutAt "::".toList t with
  | none => groups? true t = some 8
  | some (left, right) =>
    match groups? false left, groups? true right with
    | some m, some n => m + n < 8
    | _, _ => false

end SaveCheck.Url
