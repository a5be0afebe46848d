/-!
Text as a list of characters, and the ways this library cuts it.

    "a\nb\r\nc"  ── rawLines ──▶  "a\n" · "b\r\n" · "c"  ── chomp ──▶  "a" · "b" · "c"

A cut loses at most the character it is made at, so what is read can be written back.
-/

namespace SaveCheck

/-- Text is the list of its characters. -/
abbrev Text := List Char

namespace Text

/-! ### Lines -/

/-- The lines of a text, each with the newline that ends it. -/
def rawLines : Text → List Text
  | [] => []
  | '\n' :: r => ['\n'] :: rawLines r
  | c :: r =>
    match rawLines r with
    | [] => [[c]]
    | line :: rest => (c :: line) :: rest

/-- A line without its end: a newline, and the carriage return right before that newline. -/
def chomp (line : Text) : Text :=
  match line.reverse with
  | '\n' :: '\r' :: r => r.reverse
  | '\n' :: r => r.reverse
  | _ => line

/-- The lines of a text without their ends; a last line need not have one. -/
def lines (t : Text) : List Text := (rawLines t).map chomp

/-! ### Cells and cuts -/

/-- The pieces between the characters that `p` picks out, or the bytes; there is always at least one. -/
def cells (p : α → Bool) : List α → List (List α)
  | [] => [[]]
  | c :: r =>
    if p c then [] :: cells p r
    else
      match cells p r with
      | [] => [[c]]
      | cell :: rest => (c :: cell) :: rest

/-- The text before the first `sep` and the text after it. -/
def cut (sep : Char) (t : Text) : Option (Text × Text) :=
  match t.dropWhile (· ≠ sep) with
  | [] => none
  | _ :: after => some (t.takeWhile (· ≠ sep), after)

/-- The text before the last `sep` and the text after it. -/
def cutLast (sep : Char) (t : Text) : Option (Text × Text) :=
  (cut sep t.reverse).map fun (after, before) => (before.reverse, after.reverse)

/-- What follows `head` in a text that begins with it. -/
def after? : (head : Text) → Text → Option Text
  | [], t => some t
  | _ :: _, [] => none
  | h :: hs, c :: r => if h = c then after? hs r else none

/-- Whether a text begins with `head`. -/
def startsWith (head t : Text) : Bool := (after? head t).isSome

/-- Whether a text ends with `tail`. -/
def endsWith (tail t : Text) : Bool := startsWith tail.reverse t.reverse

/-- The text up to the first occurrence of `mark`, and all after that occurrence. -/
def cutAt (mark : Text) : Text → Option (Text × Text)
  | [] => if mark = [] then some ([], []) else none
  | c :: r =>
    match after? mark (c :: r) with
    | some rest => some ([], rest)
    | none => (cutAt mark r).map fun (before, rest) => (c :: before, rest)

/-- A text without the byte order mark it may begin with. -/
def dropMark : Text → Text
  | '\ufeff' :: r => r
  | t => t

/-! ### Order -/

/-- Texts in dictionary order of their code points. -/
def order : Text → Text → Ordering
  | [], [] => .eq
  | [], _ :: _ => .lt
  | _ :: _, [] => .gt
  | a :: as, b :: bs => (compare a.toNat b.toNat).then (order as bs)

/-- `a` comes before `b`. -/
def before (a b : Text) : Bool := order a b == .lt

end Text

end SaveCheck
