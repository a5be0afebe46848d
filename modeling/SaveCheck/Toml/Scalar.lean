import SaveCheck.Text.Numeral
import SaveCheck.Value

/-!
The values of TOML that are written without quotes or brackets.

    true
    1_000   -7   0xff               numbers; an underscore stands between two digits
    1.5   6e-3   -inf   nan
    1979-05-27T07:32:00.5-08:00     dates, times of day, or both; a blank may stand for the T

Each runs as far as its characters go, so what is to be told is only which kind a run of them is.
-/

namespace SaveCheck.Toml

/-! ### Digits -/

/-- Whether a text is a run of digits, with single underscores between some of them. -/
def isGrouped (isDigit : Char → Bool) (t : Text) : Bool :=
  (Text.cells (· = '_') t).all fun group => group ≠ [] && group.all isDigit

/-- The digits of a run of digits. -/
def ungroup (t : Text) : Text := t.filter (· ≠ '_')

/-- Whether a text is a run of decimal digits that does not begin with a zero to no purpose. -/
def isDecimalRun (t : Text) : Bool :=
  isGrouped Char.isDigit t && (t = ['0'] || t.head? ≠ some '0')

/-- A text without the sign it may begin with. -/
def unsigned : Text → Text
  | '+' :: r => r
  | '-' :: r => r
  | t => t

/-! ### Whole numbers -/

/-- The digits of each base, by the letter that announces it, with the bits of one digit. -/
def base? : Char → Option ((Char → Bool) × Nat)
  | 'x' => some (fun c => c.isDigit || ('a' ≤ c && c ≤ 'f') || ('A' ≤ c && c ≤ 'F'), 4)
  | 'o' => some (fun c => '0' ≤ c && c ≤ '7', 3)
  | 'b' => some (fun c => c = '0' || c = '1', 1)
  | _ => none

/-- Whether digits of so many bits each stand for a number of at most 128 bits. The first digit that
is no zero may have fewer bits than the others. -/
def fits (bits : Nat) (digits : Text) : Bool :=
  match digits.dropWhile (· = '0') with
  | [] => true
  | top :: rest =>
    let topBits := if top ≤ '1' then 1 else if top ≤ '3' then 2 else if top ≤ '7' then 3 else 4
    topBits + bits * rest.length ≤ 128

/-- Whether a text is a whole number of at most 128 bits; one below zero has a bit for its sign. -/
def isInteger : Text → Bool
  | '0' :: letter :: digits =>
    match base? letter with
    | some (isDigit, bits) => isGrouped isDigit digits && fits bits (ungroup digits)
    | none => false
  | '-' :: digits => isDecimalRun digits && Numeral.value (ungroup digits) ≤ 1 <<< 127
  | t => isDecimalRun (unsigned t) && Numeral.value (ungroup (unsigned t)) < 1 <<< 128

/-! ### Fractions -/

/-- A decimal fraction: `mantissa * 10 ^ exponent`. -/
structure Scientific where
  mantissa : Nat
  exponent : Int
  deriving DecidableEq, Repr

/-- The least number that is too large for a double. -/
def doubleLimit : Nat := 1 <<< 1024 - 1 <<< 970

/-- Whether a fraction is within the range of a double. Comparing lengths first keeps the powers small. -/
def Scientific.isFinite (x : Scientific) : Bool :=
  let length : Int := (Numeral.write x.mantissa).length + x.exponent
  if x.mantissa = 0 || length < 309 then true
  else if 309 < length then false
  else if 0 ≤ x.exponent then x.mantissa * Nat.pow 10 x.exponent.toNat < doubleLimit
  else x.mantissa < doubleLimit * Nat.pow 10 (-x.exponent).toNat

/-- The exponent behind an `e`. -/
def exponent? (t : Text) : Option Int :=
  if isGrouped Char.isDigit (unsigned t) then
    let n : Int := Numeral.value (ungroup (unsigned t))
    some (if t.head? = some '-' then -n else n)
  else none

/-- The fraction in a text; it has a point or an exponent, and digits on either side of the point. -/
def fraction? (t : Text) : Option Scientific := do
  let t := unsigned t
  let (body, exponent) ← match Text.cut 'e' (t.map Char.toLower) with
    | some (body, e) => (exponent? e).map (body, ·)
    | none => if '.' ∈ t then some (t, 0) else none
  let (whole, part) := (Text.cut '.' body).getD (body, ['0'])
  if isDecimalRun whole && isGrouped Char.isDigit part then
    return ⟨Numeral.value (ungroup (whole ++ part)), exponent - (ungroup part).length⟩
  else none

/-- Whether a text is a number that is no whole one. -/
def isFraction (t : Text) : Bool :=
  unsigned t = "inf".toList || unsigned t = "nan".toList ||
    match fraction? t with
    | some x => x.isFinite
    | none => false

/-! ### Dates -/

/-- The number that a text of exactly `n` digits stands for. -/
def field? (n : Nat) (t : Text) : Option Nat :=
  if t.length = n && t.all Char.isDigit then some (Numeral.value t) else none

/-- How many days a month has. -/
def daysIn (year month : Nat) : Nat :=
  if month = 2 then
    if year % 4 = 0 && (year % 100 ≠ 0 || year % 400 = 0) then 29 else 28
  else if month ∈ [4, 6, 9, 11] then 30
  else 31

/-- Whether a text is `YYYY-MM-DD`. -/
def isDate (t : Text) : Bool :=
  match Text.cells (· = '-') t with
  | [y, m, d] =>
    match field? 4 y, field? 2 m, field? 2 d with
    | some year, some month, some day =>
      1 ≤ month && month ≤ 12 && 1 ≤ day && day ≤ daysIn year month
    | _, _, _ => false
  | _ => false

/-- Whether a text is a number of exactly two digits up to `most`. -/
def isUpTo (most : Nat) (t : Text) : Bool :=
  match field? 2 t with
  | some n => n ≤ most
  | none => false

/-- Whether a text is `SS` or `SS.F`; the second may be a leap second. -/
def isSecond (t : Text) : Bool :=
  match Text.cut '.' t with
  | some (whole, part) => isUpTo 60 whole && Numeral.isDigits part
  | none => isUpTo 60 t

/-- Whether a text is `HH:MM`, `HH:MM:SS` or `HH:MM:SS.F`. -/
def isTime (t : Text) : Bool :=
  match Text.cells (· = ':') t with
  | [h, m] => isUpTo 23 h && isUpTo 59 m
  | [h, m, s] => isUpTo 23 h && isUpTo 59 m && isSecond s
  | _ => false

/-- Whether a text is `HH:MM`. -/
def isShift (t : Text) : Bool :=
  match Text.cells (· = ':') t with
  | [h, m] => isUpTo 23 h && isUpTo 59 m
  | _ => false

/-- Whether a text is a time with or without its shift from universal time. -/
def isZonedTime (t : Text) : Bool :=
  isTime t ||
    match t.getLast?, Text.cut '+' t, Text.cut '-' t with
    | some 'z', _, _ => isTime t.dropLast
    | some 'Z', _, _ => isTime t.dropLast
    | _, some (time, shift), _ => isTime time && isShift shift
    | _, none, some (time, shift) => isTime time && isShift shift
    | _, none, none => false

/-- Whether a text is a date, a time of day, or a date and a time with a `T` or a blank between them. -/
def isMoment (t : Text) : Bool :=
  isDate t || isTime t ||
    (isDate (t.take 10) &&
      match t.drop 10 with
      | c :: time => (c = 'T' || c = 't' || c = ' ') && isZonedTime time
      | [] => false)

/-! ### Any of them -/

/-- Whether a character can belong to a value without quotes. -/
def isScalarChar (c : Char) : Bool := c.isAlphanum || c ∈ ['+', '-', '_', '.', ':']

/-- The value that a run of characters is. -/
def scalarOf? (t : Text) : Option Value :=
  if t = "true".toList then some (.flag true)
  else if t = "false".toList then some (.flag false)
  else if isInteger t || isFraction t then some (.number t)
  else if isMoment t then some (.date t)
  else none

/-- Split off the longest run that can be one value: a date takes the time after one blank with it. -/
def scalarRun (t : Text) : Text × Text :=
  let (run, rest) := (t.takeWhile isScalarChar, t.dropWhile isScalarChar)
  match rest with
  | ' ' :: c :: r =>
    if isDate run && isScalarChar c then
      (run ++ ' ' :: (c :: r).takeWhile isScalarChar, (c :: r).dropWhile isScalarChar)
    else (run, rest)
  | _ => (run, rest)

/-- Read a value without quotes. -/
def scalar? (t : Text) : Option (Value × Text) :=
  (scalarOf? (scalarRun t).1).map (·, (scalarRun t).2)

end SaveCheck.Toml
