import SaveCheck.Journal
import SaveCheck.Machine.Host

/-!
Work that goes on in steps. Between two steps other work may go on; no step is ever interrupted. All
work of a check shares one scene: the disk, and what has been launched, told and written so far.
-/

namespace SaveCheck

/-- What the works of a check share. -/
structure Scene where
  disk : Disk
  calls : List Call := []
  notices : List Notice := []
  journal : Journal := {}

namespace Scene

/-- Tell the user something. -/
def tell (s : Scene) (n : Notice) : Scene := { s with notices := s.notices ++ [n] }

/-- Write lines to the journal. -/
def write (s : Scene) (lines : List Text) : Scene := { s with journal := s.journal.appendAll lines }

/-- Remove a file. -/
def remove (h : Host) (p : Path) (s : Scene) : Scene := { s with disk := s.disk.remove h.cwd p }

/-- Launch a program and let it run; where that fails nothing happens. -/
def launch (h : Host) (name : Path) (args : List Text) (dir : Path) (s : Scene) : Scene :=
  match h.launch s.disk name args dir with
  | .ok call => { s with calls := s.calls ++ [call], disk := h.after s.disk call }
  | .error _ => s

end Scene

/-- Work with a result: done, or a step that changes the scene and goes on by what it found there. -/
inductive Work (α : Type) where
  | done (result : α)
  | step (change : Scene → Scene) (next : Scene → Work α)

namespace Work

/-- Do all steps with nothing in between. -/
def run : Work α → Scene → α × Scene
  | .done a, s => (a, s)
  | .step change next, s => (next s).run (change s)

/-- Work with its result changed. -/
def map (f : α → β) : Work α → Work β
  | .done a => .done (f a)
  | .step change next => .step change fun s => (next s).map f

/-- One step that only changes the scene. -/
def act (change : Scene → Scene) (result : α) : Work α := .step change fun _ => .done result

/-- Do one work after the other, up to the first that fails, and put their results together. -/
def runAll : List (Work (Except ε (List α))) → Scene → Except ε (List α) × Scene
  | [], s => (.ok [], s)
  | w :: ws, s =>
    match w.run s with
    | (.error e, s) => (.error e, s)
    | (.ok as, s) =>
      let (rest, s) := runAll ws s
      (rest.map (as ++ ·), s)

/-! ### Turns -/

/-- Take the next step, if there is one. -/
def advance : Work α → Scene → Work α × Scene
  | .done a, s => (.done a, s)
  | .step change next, s => (next s, change s)

/-- Let one of some works take its next step. -/
def advanceAt : Nat → List (Work α) → Scene → List (Work α) × Scene
  | _, [], s => ([], s)
  | 0, w :: ws, s =>
    let (w, s) := w.advance s
    (w :: ws, s)
  | n + 1, w :: ws, s =>
    let (ws, s) := advanceAt n ws s
    (w :: ws, s)

/-- Let works take single steps in turn, and then do one after the other. -/
def runInTurns : (turns : List Nat) → List (Work (Except ε (List α))) → Scene → Except ε (List α) × Scene
  | [], ws, s => runAll ws s
  | n :: turns, ws, s =>
    let (ws, s) := advanceAt n ws s
    runInTurns turns ws s

end Work

end SaveCheck
