import SaveCheck.Text.Numeral
import SaveCheck.Text.Utf8

/-!
Escapes in URLs: a byte as `%` and two digits. Each part of a URL has characters of its own that are
escaped there; controls and what lies past ASCII are escaped everywhere.

    "a b"  ── escape ──▶  "a%20b"  ── unescape ──▶  the bytes of "a b"
-/

namespace SaveCheck.Url

/-- A byte as `%` and two digits. -/
def escapeByte (b : UInt8) : Text :=
  ['%', (Numeral.hexDigit (b.toNat / 16)).toUpper, (Numeral.hexDigit b.toNat).toUpper]

/-- Escape the characters that `p` picks out. -/
def escape (p : Char → Bool) (t : Text) : Text :=
  t.flatMap fun c => if p c then (Utf8.encodeChar c).flatMap escapeByte else [c]

/-- Whether a character is escaped everywhere: a control, or one past ASCII. -/
def isForeign (c : Char) : Bool := c.toNat < 0x20 || 0x7e < c.toNat

/-- What is escaped in a fragment. -/
def isFragmentEscaped (c : Char) : Bool := isForeign c || c ∈ [' ', '"', '<', '>', '\x60']

/-- What is escaped in a query; a quote only in that of a scheme with a special meaning. -/
def isQueryEscaped (special : Bool) (c : Char) : Bool :=
  isForeign c || c ∈ [' ', '"', '<', '>', '#'] || (special && c = '\'')

/-- What is escaped in a segment that is read. -/
def isSegmentEscaped (c : Char) : Bool := isFragmentEscaped c || c ∈ ['#', '?', '\x7b', '\x7d']

/-- What is escaped in a segment that is made from a name. -/
def isNameEscaped (c : Char) : Bool := isSegmentEscaped c || c ∈ ['/', '%', '\\']

/-- What is escaped in the name and the password of a user. -/
def isUserEscaped (c : Char) : Bool :=
  isSegmentEscaped c || c ∈ ['/', ':', ';', '=', '@', '[', '\\', ']', '^', '|']

/-- The bytes of a text with its escapes resolved; a `%` without two digits is itself. -/
def unescape : Text → Bytes
  | '%' :: a :: b :: r =>
    match Numeral.hexValue? a, Numeral.hexValue? b with
    | some m, some n => (16 * m + n).toUInt8 :: unescape r
    | _, _ => Utf8.encodeChar '%' ++ unescape (a :: b :: r)
  | c :: r => Utf8.encodeChar c ++ unescape r
  | [] => []

/-! ### Characters that count for nothing -/

/-- Tabs and line ends count for nothing wherever they stand in a URL. -/
def isIgnored (c : Char) : Bool := c = '\t' || c = '\n' || c = '\r'

/-- A text without tabs and line ends. -/
def clean (t : Text) : Text := t.filter (! isIgnored ·)

/-- The first character that counts, and what follows it. -/
def peel (t : Text) : Option (Char × Text) :=
  match t.dropWhile isIgnored with
  | [] => none
  | c :: r => some (c, r)

end SaveCheck.Url
