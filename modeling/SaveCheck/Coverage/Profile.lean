import SaveCheck.Text.Class
import SaveCheck.Text.Numeral

/-!
Cover profiles, as a test run writes them.

    mode: set
    example.com/proj/main.go:5.13,7.2 1 1
    └──────── file ────────┘ └start┘└end┘ └ statements, count

Blank lines count for nothing. A block belongs to every file whose base name is that of its own file.
-/

namespace SaveCheck.Coverage

/-- A place in a source: a line and a column. -/
structure Position where
  line : Nat
  column : Nat
  deriving DecidableEq, Repr

/-- A stretch of a source, with the number of its statements and how often they ran. -/
structure Block where
  file : Text
  start : Position
  stop : Position
  statements : Nat
  count : Nat
  deriving DecidableEq, Repr

/-- A profile: how counting was done, and the blocks. -/
structure Profile where
  mode : Text
  blocks : List Block
  deriving DecidableEq, Repr

/-- Why a text is no profile. A line is numbered among the lines that are not blank. -/
inductive ProfileError where
  | noMode
  | badLine (number : Nat) (text : Text)
  deriving DecidableEq, Repr

/-- The wording of an error. -/
def ProfileError.message : ProfileError → Text
  | .noMode => "Cover profile does not start with a mode line".toList
  | .badLine number text =>
    "Malformed cover profile line ".toList ++ Numeral.write number ++ ": ".toList ++ text

/-! ### Reading -/

/-- `line.column`. -/
def position? (t : Text) : Option Position := do
  let (line, column) ← Text.cut '.' t
  return ⟨← Numeral.readSigned? line, ← Numeral.readSigned? column⟩

/-- `start,end`. -/
def range? (t : Text) : Option (Position × Position) := do
  let (start, stop) ← Text.cut ',' t
  return (← position? start, ← position? stop)

/-- `file:range statements count`. What follows the count is ignored; the file may hold colons. -/
def block? (line : Text) : Option Block := do
  let (file, rest) ← Text.cutLast ':' line
  match Text.words rest with
  | range :: statements :: count :: _ =>
    let (start, stop) ← range? range
    return ⟨file, start, stop, ← Numeral.readSigned? statements, ← Numeral.readSigned? count⟩
  | _ => none

/-- Whether a line holds blanks only. -/
def isBlankLine (line : Text) : Bool := line.all Text.isBlank

/-- The blocks of the lines from number `n` on, up to the first line that is no block. -/
def blocksFrom (n : Nat) : List Text → Except ProfileError (List Block)
  | [] => .ok []
  | line :: rest =>
    match block? line with
    | none => .error (.badLine n line)
    | some b => (blocksFrom (n + 1) rest).map (b :: ·)

/-- Read a profile. -/
def Profile.parse (t : Text) : Except ProfileError Profile :=
  match (Text.lines t).filter (! isBlankLine ·) with
  | [] => .error .noMode
  | header :: rest =>
    match Text.after? "mode:".toList header with
    | none => .error .noMode
    | some mode => (blocksFrom 2 rest).map (⟨Text.trim mode, ·⟩)

/-! ### Counting -/

/-- What follows the last slash of a block's file. -/
def Block.baseName (b : Block) : Text :=
  match Text.cutLast '/' b.file with
  | some (_, name) => name
  | none => b.file

/-- The blocks of the files with a base name. -/
def Profile.blocksFor (p : Profile) (name : Text) : List Block := p.blocks.filter (·.baseName = name)

/-- The statements of a block that ran. -/
def Block.hit (b : Block) : Nat := if 0 < b.count then b.statements else 0

/-- Add on a counter. It has 64 bits, and starts over when they are full. -/
def add (counter n : Nat) : Nat := (counter + n) % Numeral.limit

/-- Count one more block, on a counter of the statements that ran and on one of all. -/
def tally (counts : Nat × Nat) (b : Block) : Nat × Nat := (add counts.1 b.hit, add counts.2 b.statements)

/-- How many statements of a file ran, and how many it has. -/
def Profile.counts (p : Profile) (name : Text) : Nat × Nat := (p.blocksFor name).foldl tally (0, 0)

/-- The blocks of a file that did not run. -/
def Profile.uncovered (p : Profile) (name : Text) : List Block :=
  (p.blocksFor name).filter (·.count = 0)

end SaveCheck.Coverage
