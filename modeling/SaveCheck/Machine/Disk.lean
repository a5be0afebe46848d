import SaveCheck.Path
import SaveCheck.Text.Utf8

/-!
The disk: what stands at each place, how a path leads to a place, and why it may not.

    a/b/../c/      from cwd to a, to b, back, to c, and c has to be a directory

Every place that a path leads through has to be a directory, the blank steps and the dots included.
-/

namespace SaveCheck

/-- A place: the names that lead to it from the root. -/
abbrev Place := List Text

/-- What can stand at a place. -/
inductive Node where
  | directory
  | file (content : Bytes) (executable : Bool)
  deriving DecidableEq, Repr

/-- Why the system refuses. -/
inductive Fault where
  | missing
  | notDirectory
  | isDirectory
  | denied
  | nameTooLong
  | argumentTooLong
  | nulInName
  | nulInCommand
  | notText
  deriving DecidableEq, Repr

/-- The wording of a refusal. -/
def Fault.message : Fault → Text
  | .missing => "No such file or directory (os error 2)".toList
  | .notDirectory => "Not a directory (os error 20)".toList
  | .isDirectory => "Is a directory (os error 21)".toList
  | .denied => "Permission denied (os error 13)".toList
  | .nameTooLong => "File name too long (os error 36)".toList
  | .argumentTooLong => "Argument list too long (os error 7)".toList
  | .nulInName => "file name contained an unexpected NUL byte".toList
  | .nulInCommand => "nul byte found in provided data".toList
  | .notText => "stream did not contain valid UTF-8".toList

/-- What stands at each place. -/
structure Disk where
  node? : Place → Option Node

/-- The path of a place. -/
def Place.path (p : Place) : Path := '/' :: Path.joinPieces p

namespace Disk

/-- The disk with a place changed. -/
def set (d : Disk) (place : Place) (node : Option Node) : Disk :=
  ⟨fun p => if p = place then node else d.node? p⟩

@[simp] theorem node?_set_self (d : Disk) (p : Place) (n : Option Node) : (d.set p n).node? p = n := by
  simp [set]

theorem node?_set_of_ne (d : Disk) (n : Option Node) {p q : Place} (h : q ≠ p) :
    (d.set p n).node? q = d.node? q := by
  simp [set, h]

theorem set_set (d : Disk) (p : Place) (m n : Option Node) : (d.set p m).set p n = d.set p n := by
  simp only [set, mk.injEq]
  funext q
  by_cases hq : q = p <;> simp [hq]

theorem set_eq_self {d : Disk} {p : Place} {n : Option Node} (h : d.node? p = n) : d.set p n = d := by
  obtain ⟨node?⟩ := d
  simp only [set, mk.injEq]
  funext q
  by_cases hq : q = p <;> simp_all

/-- The disk without a place and all below it. -/
def without (d : Disk) (place : Place) : Disk :=
  ⟨fun p => if place.isPrefixOf p then none else d.node? p⟩

/-- The disk with a place and all below it as on another one. -/
def restore (d : Disk) (place : Place) (earlier : Disk) : Disk :=
  ⟨fun p => if place.isPrefixOf p then earlier.node? p else d.node? p⟩

/-! ### From a path to a place -/

/-- How many bytes a name may have. -/
def nameLimit : Nat := 255

/-- How many bytes a path has to be short of. -/
def pathLimit : Nat := 4096

/-- Take one step from a place, which has to be a directory. -/
def step (d : Disk) (here : Place) (piece : Text) : Except Fault Place :=
  match d.node? here with
  | none => .error .missing
  | some (.file _ _) => .error .notDirectory
  | some .directory =>
    if Path.isVoid piece then .ok here
    else if piece = ['.', '.'] then .ok here.dropLast
    else if nameLimit < (Utf8.encode piece).length then .error .nameTooLong
    else if (d.node? (here ++ [piece])).isSome then .ok (here ++ [piece])
    else .error .missing

/-- The place that a path leads to from `cwd`. -/
def find (d : Disk) (cwd : Place) (p : Path) : Except Fault Place :=
  if p = [] then .error .missing
  else if '\x00' ∈ p then .error .nulInName
  else if pathLimit ≤ (Utf8.encode p).length then .error .nameTooLong
  else (Path.pieces p).foldlM d.step (if Path.isAbsolute p then [] else cwd)

/-- What a path leads to. -/
def lookup (d : Disk) (cwd : Place) (p : Path) : Except Fault (Place × Node) := do
  let place ← d.find cwd p
  match d.node? place with
  | some node => return (place, node)
  | none => .error .missing

/-- The place of the first name on the way from `here` that is no text, as that name can be told. -/
def strangePlace? (d : Disk) : (here : Place) → List Bytes → Option Place
  | _, [] => none
  | here, name :: rest =>
    match Utf8.decode? name with
    | none => some (here ++ [Utf8.decodeLossy name])
    | some piece =>
      match d.step here piece with
      | .ok there => strangePlace? d there rest
      | .error _ => none

/-- Whether a path leads to a file. -/
def isFile (d : Disk) (cwd : Place) (p : Path) : Bool :=
  match d.lookup cwd p with
  | .ok (_, .file _ _) => true
  | _ => false

/-! ### Files -/

/-- The content of a file. -/
def read (d : Disk) (cwd : Place) (p : Path) : Except Fault Bytes := do
  match ← d.lookup cwd p with
  | (_, .file content _) => return content
  | (_, .directory) => .error .isDirectory

/-- The content of a file that holds text. -/
def readText (d : Disk) (cwd : Place) (p : Path) : Except Fault Text := do
  match Utf8.decode? (← d.read cwd p) with
  | some t => return t
  | none => .error .notText

/-- The disk without a file; nothing else can be removed. -/
def remove (d : Disk) (cwd : Place) (p : Path) : Disk :=
  match d.lookup cwd p with
  | .ok (place, .file _ _) => d.set place none
  | _ => d

/-- The place where a new file with this path would stand. -/
def newPlace? (d : Disk) (cwd : Place) (p : Path) : Option Place := do
  let name ← Path.fileName? p
  let dir ← Path.parent? p
  if p.getLast? = some '/' then none
  else
    match d.lookup cwd (if dir = [] then ['.'] else dir) with
    | .ok (place, .directory) => some (place ++ [name])
    | _ => none

/-- The disk once `content` is written to a file; nothing happens where that cannot be done. -/
def write (d : Disk) (cwd : Place) (p : Path) (content : Bytes) : Disk :=
  match d.lookup cwd p with
  | .ok (place, .file _ executable) => d.set place (some (.file content executable))
  | .ok (_, .directory) => d
  | .error .missing =>
    match d.newPlace? cwd p with
    | some place => d.set place (some (.file content false))
    | none => d
  | .error _ => d

end Disk

end SaveCheck
