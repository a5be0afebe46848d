import SaveCheck.Machine.Disk

/-!
The machine that checks run on: its environment, and what its programs do when they are launched.

A launch goes to the directory first and looks for the program from there. A program's name with a slash
is a path; any other is looked for in the directories of `PATH`, where a file that may not be run is
passed over but told in the end.
-/

namespace SaveCheck

/-- The variables and the directories that a process finds. -/
structure Environment where
  path : Option Text := none
  home : Option Text := none
  goRoot : Option Text := none
  goPath : Option Text := none
  /-- The home directory on record, for a process whose environment names none. -/
  homeOnRecord : Option Path := none
  /-- Where files of no lasting value go. -/
  temp : Path

/-- What a run of a program leaves: its output, whether it succeeded, and the files it wrote. -/
structure Outcome where
  out : Bytes := []
  err : Bytes := []
  success : Bool := true
  writes : List (Path × Bytes) := []
  deriving DecidableEq, Repr

/-- A machine apart from its disk. What an executable file does depends on its place, the arguments and
the directory it runs in. -/
structure Host where
  environment : Environment
  cwd : Place
  programs : Place → List Text → Place → Outcome

/-- A program that was launched. -/
structure Call where
  program : Place
  args : List Text
  dir : Place
  deriving DecidableEq, Repr

namespace Host

/-- What is searched for programs when `PATH` is not set. -/
def standardPath : Text := "/bin:/usr/bin".toList

/-- The directories in a list of directories. -/
def directories (list : Text) : List Path := Text.cells (· = ':') list

/-- Whether an entry alone is longer than a path may be. -/
def isOverlong (entry : Path) : Bool := Disk.pathLimit ≤ (Utf8.encode entry).length

/-- The entries that are searched. An overlong one stands for nothing at the end of the list, and for the
directory that the search is made from elsewhere, as a blank one does. -/
def searched : List Path → List Path
  | [] => []
  | [entry] => if isOverlong entry then [] else [entry]
  | entry :: rest => (if isOverlong entry then [] else entry) :: searched rest

/-- The place of a program that can be run. -/
def executable (d : Disk) (dir : Place) (p : Path) : Except Fault Place := do
  match ← d.lookup dir p with
  | (place, .file _ true) => return place
  | _ => .error .denied

/-- Look for a program in one directory after the other. -/
def search (d : Disk) (dir : Place) (name : Text) :
    (denied : Bool) → (last : Fault) → List Path → Except Fault Place
  | denied, last, [] => .error (if denied then .denied else last)
  | denied, last, entry :: rest =>
    match executable d dir (if entry = [] then name else entry ++ '/' :: name) with
    | .ok place => .ok place
    | .error .denied => search d dir name true last rest
    | .error .missing => search d dir name denied .missing rest
    | .error .notDirectory => search d dir name denied .notDirectory rest
    | .error fault => .error fault

/-- The place of the program to launch in a directory. -/
def program (h : Host) (d : Disk) (dir : Place) (name : Path) : Except Fault Place :=
  if name = [] then .error .missing
  else if '/' ∈ name then executable d dir name
  else if Disk.nameLimit < (Utf8.encode name).length then .error .nameTooLong
  else search d dir name false .missing (searched (directories (h.environment.path.getD standardPath)))

/-- How many bytes an argument has to be short of. -/
def argumentLimit : Nat := 1 <<< 17

/-- Launch a program in a directory. -/
def launch (h : Host) (d : Disk) (name : Path) (args : List Text) (dir : Path) : Except Fault Call := do
  if (name :: dir :: args).any ('\x00' ∈ ·) then .error .nulInCommand
  else
    match ← d.lookup h.cwd dir with
    | (place, .directory) =>
      let program ← h.program d place name
      if args.any fun a => argumentLimit ≤ (Utf8.encode a).length then .error .argumentTooLong
      else return ⟨program, args, place⟩
    | (_, .file _ _) => .error .notDirectory

/-- What a launched program does. -/
def outcome (h : Host) (c : Call) : Outcome := h.programs c.program c.args c.dir

/-- The disk once a launched program has run. -/
def after (h : Host) (d : Disk) (c : Call) : Disk :=
  (h.outcome c).writes.foldl (fun d (p, content) => d.write c.dir p content) d

/-- The path of the directory that the process stands in. -/
def cwdPath (h : Host) : Path := Place.path h.cwd

end Host

end SaveCheck
