import SaveCheck.Program

/-!
The program at a terminal. It takes a look at the places that its words can lead to, and prints what
`Program.run` makes of them. Other programs are out of its reach, Go among them.
-/

namespace SaveCheck

/-- The number that the system has for reading a directory as a file. -/
def isDirectoryCode : UInt32 := 21

/-- What stands at a place. -/
def look (place : Place) : IO (Option Node) := do
  try
    return some (.file (← IO.FS.readBinFile (String.ofList place.path)).toList false)
  catch
    | .inappropriateType _ code _ => return if code = isDirectoryCode then some .directory else none
    | _ => return none

/-- A place and those above it. -/
def placesAbove (place : Place) : List Place := (List.range (place.length + 1)).map place.take

/-- The places that a path may lead through, those of a project file included. -/
def placesAlong (cwd : Place) (p : Path) : List Place :=
  let step (here : Place) (piece : Text) :=
    if Path.isVoid piece then here else if piece = ['.', '.'] then here.dropLast else here ++ [piece]
  let ends := (Path.pieces p).foldl (fun places piece => places ++ [step (places.getLast?.getD []) piece])
    [if Path.isAbsolute p then [] else cwd]
  let places := (ends.flatMap placesAbove).eraseDups
  places ++ places.map (· ++ [Config.projectFileName])

/-- The paths that a word may hold. -/
def pathsIn (word : Text) : List Path :=
  word :: (match Text.cut '=' word with | some (_, p) => [p] | none => [])

/-- The disk as far as some words can lead. -/
def survey (cwd : Place) (words : List Text) : IO Disk := do
  let places := ((words.flatMap pathsIn).flatMap (placesAlong cwd)).eraseDups
  let nodes ← places.mapM fun place => return (place, ← look place)
  return ⟨fun place => (nodes.lookup place).join⟩

/-- The machine that the process finds. -/
def thisHost : IO Host := do
  let var (name : String) : IO (Option Text) := return (← IO.getEnv name).map String.toList
  return {
    environment := {
      path := ← var "PATH"
      home := ← var "HOME"
      goRoot := ← var "GOROOT"
      goPath := ← var "GOPATH"
      temp := (← var "TMPDIR").getD "/tmp".toList }
    cwd := (Path.pieces (← IO.currentDir).toString.toList).filter (! Path.isVoid ·)
    programs := fun _ _ _ => {} }

/-- A log record on a line. -/
def logLine (r : LogRecord) : Text :=
  '[' :: r.level.name ++ (match r.target with | some t => ' ' :: t | none => []) ++ "] ".toList ++ r.message

end SaveCheck

open SaveCheck in
/-- Run the program, and end with its status. -/
def main (args : List String) : IO UInt32 := do
  let words := args.map String.toList
  let host ← thisHost
  let ending := Program.run host (← survey host.cwd words) words
  for record in ending.log do
    IO.eprintln (String.ofList (logLine record))
  IO.eprint (String.ofList ending.complaint)
  IO.print (String.ofList ending.out)
  return ending.status.toUInt32
