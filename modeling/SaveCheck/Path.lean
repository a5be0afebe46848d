import SaveCheck.Text

/-!
Paths as they are written, with `/` between their pieces.

    "/a//b/./c"  ── components ──▶  root · a · b · c
    "./a/../b"   ── components ──▶  here · a · up · b

An empty piece names nothing, and neither does a dot unless a relative path begins with it. Two paths
are the same when their components are, whatever their spelling; `resolve` gives each place under a
directory one spelling.
-/

namespace SaveCheck

/-- A path is the text it is written as. Names that are no text stand on no disk here, and in no word of a command
line. -/
abbrev Path := Text

namespace Path

/-! ### Components -/

/-- One step of a path. -/
inductive Component where
  | root
  | here
  | up
  | name (text : Text)
  deriving DecidableEq, Repr

/-- What stands between the slashes of a path. -/
def pieces (p : Path) : List Text := Text.cells (· = '/') p

/-- A piece that takes no step: nothing at all, or a dot. -/
def isVoid (piece : Text) : Bool := piece = [] || piece = ['.']

/-- The step that a piece takes. -/
def step (piece : Text) : Component := if piece = ['.', '.'] then .up else .name piece

/-- The steps that a list of pieces takes. -/
def steps (ps : List Text) : List Component := (ps.filter (! isVoid ·)).map step

/-- Whether a path starts at the root. -/
def isAbsolute : Path → Bool
  | '/' :: _ => true
  | _ => false

/-- Where a path starts, and the pieces that lead on from there. -/
def split (p : Path) : Option Component × List Text :=
  if isAbsolute p then (some .root, (pieces p).tail)
  else
    match pieces p with
    | ['.'] :: rest => (some .here, rest)
    | all => (none, all)

/-- The components of a path. -/
def components (p : Path) : List Component :=
  let (start, body) := split p
  start.toList ++ steps body

/-- Pieces with slashes between them. -/
def joinPieces (ps : List Text) : Text := ['/'].intercalate ps

/-- The path that starts at `start` and leads on through the pieces of `body`. -/
def write (start : Option Component) (body : List Text) : Path :=
  match start, body with
  | some .root, body => '/' :: joinPieces body
  | some .here, [] => ['.']
  | some .here, body => '.' :: '/' :: joinPieces body
  | _, body => joinPieces body

/-! ### Parts -/

/-- The last piece of a path, if it is a name. -/
def fileName? (p : Path) : Option Text :=
  match (components p).getLast? with
  | some (.name t) => some t
  | _ => none

/-- What follows the last dot of the file's name, unless the name begins with that dot. -/
def extension? (p : Path) : Option Text :=
  match (fileName? p).bind (Text.cutLast '.') with
  | some (_ :: _, ext) => some ext
  | _ => none

/-- The directories above a path, innermost first; `body` is the path's pieces from the last to the
first. Each keeps the path's own spelling up to the last piece that counts. -/
def climb (start : Option Component) : (body : List Text) → List Path
  | [] => if start = some .here then [[]] else []
  | piece :: outer =>
    if isVoid piece then climb start outer
    else write start (outer.dropWhile isVoid).reverse :: climb start outer

/-- The directories above a path, innermost first. -/
def parents (p : Path) : List Path :=
  let (start, body) := split p
  climb start body.reverse

/-- The directory that a path lies in; the root and the empty path lie in none. -/
def parent? (p : Path) : Option Path := (parents p).head?

/-- A path and the directories above it, innermost first. -/
def ancestors (p : Path) : List Path := p :: parents p

/-! ### Joining -/

/-- The path `p` as seen from the directory `dir`. -/
def join (dir p : Path) : Path :=
  if isAbsolute p || dir = [] then p
  else if dir.getLast? = some '/' then dir ++ p
  else dir ++ '/' :: p

/-- How a component is spelled. -/
def Component.text : Component → Text
  | .root => ['/']
  | .here => ['.']
  | .up => ['.', '.']
  | .name t => t

/-- Two slashes at the front of a path, and no third, are kept as they are. -/
def startsDouble : Path → Bool
  | '/' :: '/' :: '/' :: _ => false
  | '/' :: '/' :: _ => true
  | _ => false

/-- The path as seen from the root, for a process that stands in `cwd`: dots and repeated slashes go,
`..` and a slash at the end stay. The empty path has no such form. -/
def absolute? (cwd p : Path) : Option Path :=
  if p = [] then none
  else
    let start := if isAbsolute p then (if startsDouble p then ['/', '/'] else ['/']) else cwd
    let full := ((steps (pieces p)).map Component.text).foldl join start
    some (if p.getLast? = some '/' then join full [] else full)

/-! ### Resolving -/

/-- Take one step, with the names that lead to where one stands given innermost first. There is
nothing above the top. -/
def walk (at_ : List Text) : Component → List Text
  | .name t => t :: at_
  | .up => at_.tail
  | .here | .root => at_

/-- The place that `file` means inside of `cwd`, without dots. -/
def resolve (cwd file : Path) : Path :=
  let p := join cwd file
  let names := ((components p).foldl walk []).reverse
  if isAbsolute p then '/' :: joinPieces names else joinPieces names

/-! ### Order -/

/-- The kinds of component in ascending order. -/
def Component.rank : Component → Nat
  | .root => 0
  | .here => 1
  | .up => 2
  | .name _ => 3

/-- Components by kind, names in dictionary order. -/
def Component.order : Component → Component → Ordering
  | .name a, .name b => Text.order a b
  | a, b => compare a.rank b.rank

/-- Lists of components in dictionary order. -/
def orderAll : List Component → List Component → Ordering
  | [], [] => .eq
  | [], _ :: _ => .lt
  | _ :: _, [] => .gt
  | a :: as, b :: bs => (a.order b).then (orderAll as bs)

/-- Paths in the order of their components. -/
def order (p q : Path) : Ordering := orderAll (components p) (components q)

end Path

end SaveCheck
