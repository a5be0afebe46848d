import SaveCheck.Editor.Url.Authority
import SaveCheck.Path

/-!
Documents as an editor names them, by URL, and the files they stand for.

    file://host/proj/sp%20ace.go?q#f
    scheme authority path tail

A URL is read into a normal form: dots are resolved, and characters that have no place where they stand
are written as `%` and two digits. It stands for a file when it has a path from the root, and no host or
the one that is no other machine.
-/

namespace SaveCheck

/-- A URL in normal form. -/
structure Url where
  scheme : Text
  /-- What stands behind two slashes; a file's URL always has it. -/
  authority : Option Url.Authority
  path : Text
  /-- The query and the fragment with their marks. -/
  tail : Text
  deriving DecidableEq, Repr

namespace Url

/-! ### Reading -/

/-- The scheme of files. -/
def fileScheme : Text := "file".toList

/-- Schemes with an authority that has to name a host. -/
def hostSchemes : List Text := ["http".toList, "https".toList, "ws".toList, "wss".toList, "ftp".toList]

/-- The kind of URLs with a scheme. -/
def Kind.ofScheme (scheme : Text) : Kind :=
  if scheme = fileScheme then .file else if hostSchemes.contains scheme then .hosted else .other

/-- Whether a character may stand in a scheme. -/
def isSchemeChar (c : Char) : Bool := c.isAlphanum || c = '+' || c = '-' || c = '.'

/-- The scheme of a text, in lower case, and what follows its colon. -/
def scheme? (t : Text) : Option (Text × Text) := do
  let (name, rest) ← Text.cut ':' t
  match clean name with
  | c :: cs => if c.isAlpha && cs.all isSchemeChar then some (Text.lower (c :: cs), rest) else none
  | [] => none

/-- A text without the controls and blanks at its ends. -/
def trimEnds (t : Text) : Text :=
  let isEdge (c : Char) := c.toNat ≤ 0x20
  ((t.dropWhile isEdge).reverse.dropWhile isEdge).reverse

/-- Whether a character ends a path. -/
def endsPath (c : Char) : Bool := c = '?' || c = '#'

/-- The normal form of what follows a path. -/
def tailOf (k : Kind) (t : Text) : Text :=
  let (query, fragment) := match Text.cut '#' (clean t) with
    | some (query, fragment) => (query, '#' :: escape isFragmentEscaped fragment)
    | none => (clean t, [])
  escape (isQueryEscaped k.isSpecial) query ++ fragment

/-- A text up to its path's end, and the normal form of what follows. -/
def splitTail (k : Kind) (t : Text) : Text × Text :=
  (t.takeWhile (! endsPath ·), tailOf k (t.dropWhile (! endsPath ·)))

/-- What follows two slashes. -/
def afterSlashes? (k : Kind) (t : Text) : Option Text := do
  let (c, r) ← peel t
  let (d, r) ← peel r
  if k.isSlash c && k.isSlash d then some r else none

/-- What follows a slash, if there is one. -/
def dropFirstSlash (k : Kind) (t : Text) : Text :=
  match peel t with
  | some (c, r) => if k.isSlash c then r else t
  | none => t

/-- Whether the first character that counts is a slash. -/
def startsWithSlash (k : Kind) (t : Text) : Bool := (peel t).any fun (c, _) => k.isSlash c

/-- The URL of a file on a host. A path with a drive has none. -/
def fileUrl (host : Host) (start written tail : Text) : Url :=
  let trail := Trail.read .file start written
  let host := if trail.hasDrive then .nowhere else host
  ⟨fileScheme, some ⟨host, host.write⟩, trail.path, tail⟩

/-- Read what follows `file:`. Behind two slashes stands a host, but a drive is none, and neither is the
one that is no other machine. A path that begins right there is read from the root on, and after a host
from the slash on. -/
def readFile? (t : Text) : Option Url := do
  let (body, tail) := splitTail .file t
  match afterSlashes? .file body with
  | none => return fileUrl .nowhere (if startsWithSlash .file body then [] else ['/']) body tail
  | some r =>
    let name := clean (r.takeWhile (! Kind.isSlash .file ·))
    let rest := r.dropWhile (! Kind.isSlash .file ·)
    if isDrive name then return fileUrl .nowhere ['/'] r tail
    else if name = [] then return fileUrl .nowhere ['/'] rest tail
    else
      let host ← Host.special? name
      if host.isLocal then return fileUrl .nowhere ['/'] rest tail
      else return fileUrl host ['/'] (dropFirstSlash .file rest) tail

/-- Read what follows a scheme whose authority has to name a host; any number of slashes leads to it. -/
def readHosted? (scheme t : Text) : Option Url := do
  let (authority, rest) ← authority? .hosted scheme (t.dropWhile fun c => isIgnored c || Kind.isSlash .hosted c)
  let (body, tail) := splitTail .hosted rest
  return ⟨scheme, some authority, (Trail.read .hosted ['/'] (dropFirstSlash .hosted body)).path, tail⟩

/-- Read what follows any other scheme. A path that does not begin with a slash is taken as it is. -/
def readOther? (scheme t : Text) : Option Url :=
  match afterSlashes? .other t with
  | some r => do
    let (authority, rest) ← authority? .other scheme r
    let (body, tail) := splitTail .other rest
    let path :=
      if clean body = [] then []
      else (Trail.read .other (if startsWithSlash .other body then [] else ['/']) body).path
    return ⟨scheme, some authority, path, tail⟩
  | none =>
    let (body, tail) := splitTail .other t
    let path :=
      if startsWithSlash .other body then (Trail.read .other [] body).path else escape isForeign (clean body)
    some ⟨scheme, none, path, tail⟩

/-- Read a URL. -/
def parse? (t : Text) : Option Url := do
  let (scheme, rest) ← scheme? (trimEnds t)
  match Kind.ofScheme scheme with
  | .file => readFile? rest
  | .hosted => readHosted? scheme rest
  | .other => readOther? scheme rest

/-! ### Writing -/

/-- What stands between the scheme and the path. Without an authority a path must not look like one. -/
def front (u : Url) : Text :=
  match u.authority with
  | some authority => '/' :: '/' :: authority.written
  | none => if Text.startsWith ['/', '/'] u.path then ['/', '.'] else []

/-- The text of a URL. -/
def write (u : Url) : Text := u.scheme ++ ':' :: u.front ++ u.path ++ u.tail

/-! ### Files -/

/-- The bytes of the path of the file that a URL stands for. They need not be text. -/
def fileBytes? (u : Url) : Option Bytes :=
  if Path.isAbsolute u.path && u.authority.all (·.host.isLocal) then some (unescape u.path) else none

/-- The path of the file that a URL stands for, as it can be told. -/
def filePath? (u : Url) : Option Path := u.fileBytes?.map Utf8.decodeLossy

/-- The names of a path from the root. -/
def namesOf (p : Path) : List Text := (Path.components p).tail.map Path.Component.text

/-- The URL of a file; its path has to start at the root. -/
def ofPath? (p : Path) : Option Url :=
  if Path.isAbsolute p then
    let names := (namesOf p).map (escape isNameEscaped)
    some ⟨fileScheme, some ⟨.nowhere, []⟩, '/' :: Path.joinPieces names, []⟩
  else none

end Url

end SaveCheck
