import SaveCheck.Text.Numeral

/-!
The four ways to quote a text in TOML.

              one line      many lines
    basic     "a\tb"        """a \⏎   b"""        escapes count
    literal   'a\tb'        '''a\tb'''            every character is itself

A quoted text is read in three steps: find where it closes, see that no control stands in it, and
resolve its escapes. A newline right behind the opening quotes of a text of many lines does not count,
and such a text may end in up to two quotes of its own.
-/

namespace SaveCheck.Toml

/-! ### Where a text closes -/

/-- Put a character in front of what has been read. -/
def prepend (c : Char) : Option (Text × Text) → Option (Text × Text)
  | some (t, rest) => some (c :: t, rest)
  | none => none

/-- What stands before a closing quote, and what follows it. Where escapes count, a backslash shields
the character behind it. -/
def body? (quote : Char) (escapes : Bool) : Text → Option (Text × Text)
  | [] => none
  | [c] => if c = quote then some ([], []) else none
  | c :: d :: r =>
    if c = quote then some ([], d :: r)
    else if escapes && c = '\\' then prepend c (prepend d (body? quote escapes r))
    else prepend c (body? quote escapes (d :: r))

/-- What stands before three closing quotes, and what follows them. Of more quotes in a row up to two
belong to the text. -/
def longBody? (quote : Char) (escapes : Bool) : Text → Option (Text × Text)
  | [] => none
  | [_] => none
  | c :: d :: r =>
    match Text.after? [quote, quote, quote] (c :: d :: r) with
    | some rest =>
      let own := (rest.takeWhile (· = quote)).take 2
      some (own, rest.drop own.length)
    | none =>
      if escapes && c = '\\' then prepend c (prepend d (longBody? quote escapes r))
      else prepend c (longBody? quote escapes (d :: r))

/-! ### Which characters it may hold -/

/-- Whether a character may stand in a text or a comment: no control but the tab. -/
def isPlain (c : Char) : Bool := (0x20 ≤ c.toNat && c ≠ '\x7f') || c = '\t'

/-- Whether a text holds nothing that has to be escaped. Newlines may stand in a text of many lines,
and a carriage return before a newline only. -/
def isClean (many : Bool) : Text → Bool
  | [] => true
  | '\r' :: '\n' :: r => many && isClean many r
  | c :: r => (isPlain c || (many && c = '\n')) && isClean many r

/-! ### Its escapes -/

/-- The character with a code point; surrogates and numbers past the last code point have none. -/
def ofCodePoint? (n : Nat) : Option Char := if n.isValidChar then some (Char.ofNat n) else none

/-- The character that a backslash and one letter stand for. -/
def shortEscape? : Char → Option Char
  | 'b' => some '\x08'
  | 't' => some '\t'
  | 'n' => some '\n'
  | 'f' => some '\x0c'
  | 'r' => some '\r'
  | 'e' => some '\x1b'
  | '"' => some '"'
  | '\\' => some '\\'
  | _ => none

/-- How many hexadecimal digits follow a backslash and a letter. -/
def longEscape? : Char → Option Nat
  | 'x' => some 2
  | 'u' => some 4
  | 'U' => some 8
  | _ => none

/-- Where a text can be broken behind a backslash: at blanks and line ends. -/
def isFoldable (c : Char) : Bool := c = ' ' || c = '\t' || c = '\r' || c = '\n'

/-- Where the reading of escapes is: between characters, behind a backslash, inside of an escape with
some hexadecimal digits to come, on the rest of a line that a backslash ends, or in the blanks at the
front of the line that goes on. -/
inductive EscapeState where
  | between
  | backslash
  | digits (missing : Nat) (value : Nat)
  | lineRest
  | indent
  deriving DecidableEq, Repr

/-- Resolve the escapes of a text. -/
def unescape? : EscapeState → Text → Option Text
  | .between, [] | .indent, [] => some []
  | _, [] => none
  | .between, c :: r =>
    if c = '\\' then unescape? .backslash r else (unescape? .between r).map (c :: ·)
  | .indent, c :: r =>
    if isFoldable c then unescape? .indent r
    else if c = '\\' then unescape? .backslash r
    else (unescape? .between r).map (c :: ·)
  | .lineRest, c :: r =>
    if c = '\n' then unescape? .indent r else if isFoldable c then unescape? .lineRest r else none
  | .backslash, c :: r =>
    match shortEscape? c, longEscape? c with
    | some e, _ => (unescape? .between r).map (e :: ·)
    | none, some n => unescape? (.digits n 0) r
    | none, none =>
      if c = '\n' then unescape? .indent r else if isFoldable c then unescape? .lineRest r else none
  | .digits missing value, c :: r =>
    match Numeral.hexValue? c with
    | none => none
    | some d =>
      if 1 < missing then unescape? (.digits (missing - 1) (16 * value + d)) r
      else
        match ofCodePoint? (16 * value + d) with
        | some e => (unescape? .between r).map (e :: ·)
        | none => none

/-! ### Quoted texts -/

/-- Read a basic text from behind its opening quotes. -/
def basic? (many : Bool) (t : Text) : Option (Text × Text) := do
  let (body, rest) ← if many then longBody? '"' true t else body? '"' true t
  if isClean many body then return (← unescape? .between body, rest) else none

/-- Read a literal text from behind its opening quotes. -/
def literal? (many : Bool) (t : Text) : Option (Text × Text) := do
  let (body, rest) ← if many then longBody? '\'' false t else body? '\'' false t
  if isClean many body then return (body, rest) else none

/-- A text without the newline it may begin with. -/
def dropNewline : Text → Text
  | '\n' :: r => r
  | '\r' :: '\n' :: r => r
  | t => t

/-- Read a quoted text on one line, as a key may be. -/
def shortQuoted? : Text → Option (Text × Text)
  | '"' :: r => basic? false r
  | '\'' :: r => literal? false r
  | _ => none

/-- Read a quoted text. -/
def quoted? : Text → Option (Text × Text)
  | '"' :: '"' :: '"' :: r => basic? true (dropNewline r)
  | '\'' :: '\'' :: '\'' :: r => literal? true (dropNewline r)
  | t => shortQuoted? t

end SaveCheck.Toml
