import SaveCheck.Editor.Url.Escape

/-!
The path of a URL while it is read, one segment after the other.

    /a/b/  ── c ──▶  /a/b/c        /a/b/  ── .. ──▶  /a/
    /      ── c| ──▶ /c:           /c:/   ── .. ──▶  /c:/        the drive of a file's path

Dots lead nowhere new and up. A drive at the front of a file's path is written with a colon, takes the
place of a host, and is not left by going up.
-/

namespace SaveCheck.Url

/-- What a scheme makes of what follows it: the path of a file, an authority that has to name a host, or
anything. -/
inductive Kind where
  | file
  | hosted
  | other
  deriving DecidableEq, Repr

/-- Whether a backslash is as good as a slash. -/
def Kind.isSpecial (k : Kind) : Bool := k ≠ .other

/-- Whether a character is a slash for a kind of URL. -/
def Kind.isSlash (k : Kind) (c : Char) : Bool := c = '/' || (k.isSpecial && c = '\\')

/-! ### Drives -/

/-- Whether a text names a drive: a letter, and a colon or a bar. -/
def isDrive : Text → Bool
  | [c, mark] => c.isAlpha && (mark = ':' || mark = '|')
  | _ => false

/-- Whether a text names a drive the way a path that has been read does. -/
def isPlainDrive : Text → Bool
  | [c, ':'] => c.isAlpha
  | _ => false

/-- Whether a text names a drive up to its end or up to a backslash. -/
def startsWithDrive (t : Text) : Bool := isDrive (t.takeWhile (· ≠ '\\'))

/-- Where a tab or a line end follows the colon of a drive right away, and more follows that: the letter of
the drive, and what follows. -/
def cutDrive? (segment : Text) : Option (Char × Text) := do
  let (letter, r) ← peel segment
  let (mark, r) ← peel r
  let gap ← r.head?
  if letter.isAlpha && mark = ':' && isIgnored gap && clean r ≠ [] then return (letter, clean r) else none

/-! ### Dots -/

/-- A segment with its escaped dots resolved, to tell whether it is all dots. -/
def dots (segment : Text) : Text := Utf8.decodeLossy (unescape segment)

/-- Whether a segment stays where it is. -/
def isHere (segment : Text) : Bool := dots segment = ['.']

/-- Whether a segment leads one up. -/
def isUp (segment : Text) : Bool := dots segment = ['.', '.']

/-! ### Steps -/

/-- A path that ends in a slash. -/
def closed (path : Text) : Text := if path.getLast? = some '/' then path else path ++ ['/']

/-- A path without the slash at its end, if that is neither the root nor the end of a drive. -/
def dropSlash (path : Text) : Text :=
  if path.getLast? = some '/' then
    match Text.cutLast '/' path.dropLast with
    | some (_, last) => if startsWithDrive last then path else path.dropLast
    | none => path
  else path

/-- A path up to its last slash; the drive of a file's path stays. -/
def dropLastSegment (k : Kind) (path : Text) : Text :=
  match Text.cutLast '/' path with
  | some (before, last) => if k = .file && isPlainDrive last then path else before ++ ['/']
  | none => path

/-- The path one up. -/
def above (k : Kind) (path : Text) : Text := dropLastSegment k (dropSlash path)

/-- A path as far as it is read, and whether a drive was met, which has no host. -/
structure Trail where
  path : Text := []
  hasDrive : Bool := false
  deriving DecidableEq, Repr

namespace Trail

/-- Add a segment, and the slash behind it unless it is the last. -/
def add (k : Kind) (t : Trail) (segment : Text) (isLast : Bool) : Trail :=
  let slash := if isLast then [] else ['/']
  let plain := clean segment
  if isUp plain then
    let path := above k t.path
    { t with path := if isLast then path else closed path }
  else if isHere plain then { t with path := closed t.path }
  else if k = .file && t.path = ['/'] then
    if isDrive plain then ⟨'/' :: plain.take 1 ++ ':' :: slash, true⟩
    else
      match cutDrive? segment with
      | some (letter, rest) =>
        { t with path := '/' :: letter :: ':' :: '/' :: escape isSegmentEscaped rest ++ slash }
      | none => { t with path := '/' :: escape isSegmentEscaped plain ++ slash }
  else { t with path := t.path ++ escape isSegmentEscaped plain ++ slash }

/-- Add segments with slashes between them. -/
def addAll (k : Kind) : Trail → List Text → Trail
  | t, [] => t
  | t, segment :: rest => addAll k (t.add k segment rest.isEmpty) rest

/-- Go on from a path along all that is written. A file's path begins with one slash in the end. -/
def read (k : Kind) (start written : Text) : Trail :=
  let t := addAll k ⟨start, false⟩ (Text.cells k.isSlash written)
  if k = .file then { t with path := '/' :: t.path.dropWhile (· = '/') } else t

end Trail

end SaveCheck.Url
