import SaveCheck.Machine.Host

/-!
Where Go and its tools are.

    go       the root's bin, then the directories of PATH
    a tool   the bin of each Go path entry, then the root's bin, then the directories of PATH

The root is the one that is set, or else that of the environment; likewise the path, whose last resort
is `go` in the home directory.
-/

namespace SaveCheck

/-- The Go program, if there is one, and the directories that hold tools, in the order they are
searched. -/
structure Toolchain where
  go : Option Path
  toolDirs : List Path
  deriving DecidableEq, Repr

namespace Toolchain

/-- The `bin` directory inside of another. -/
def bin (dir : Path) : Path := Path.join dir "bin".toList

/-- The first directory that holds a file of this name, with the file's path. -/
def firstIn (h : Host) (d : Disk) (dirs : List Path) (name : Text) : Option Path :=
  (dirs.map (Path.join · name)).find? (d.isFile h.cwd)

/-- The home directory; a blank one is none. -/
def home? (e : Environment) : Option Path :=
  match e.home with
  | none | some [] => e.homeOnRecord
  | some dir => some dir

/-- The entries of the Go path. A blank setting is a path of one blank entry, a blank variable is
none. -/
def pathEntries (e : Environment) (goPath : Option Path) : List Path :=
  match goPath, e.goPath with
  | some list, _ => Host.directories list
  | none, some (c :: cs) => Host.directories (c :: cs)
  | none, _ => ((home? e).map (Path.join · "go".toList)).toList

/-- The directories of `PATH`. -/
def searchDirs (e : Environment) : List Path :=
  match e.path with
  | some list => Host.directories list
  | none => []

/-- Find out where Go and its tools are. -/
def detect (h : Host) (d : Disk) (goRoot goPath : Option Path) : Toolchain :=
  let e := h.environment
  let root := goRoot.or e.goRoot
  let go := "go".toList
  { go := (root.bind fun dir => firstIn h d [bin dir] go).or (firstIn h d (searchDirs e) go)
    toolDirs := (pathEntries e goPath).map bin ++ (root.map bin).toList ++ searchDirs e }

/-- The path of a tool, if some directory holds it. -/
def findTool (t : Toolchain) (h : Host) (d : Disk) (name : Text) : Option Path :=
  firstIn h d t.toolDirs name

/-- What to launch for a tool: its path, or else its name. -/
def toolPath (t : Toolchain) (h : Host) (d : Disk) (name : Text) : Path :=
  (t.findTool h d name).getD name

end Toolchain

end SaveCheck
