import SaveCheck.Check.ToolWork
import SaveCheck.Coverage.Work
import SaveCheck.GoFile.Clause
import SaveCheck.Toolchain

/-!
The check of a saved file: build, lint, vet and coverage, as far as the settings enable them. They
share one scene and need nothing of each other; the diagnostics come in this order.
-/

namespace SaveCheck

/-- What checks are run with: the tools, and where the build and the cover profile are written. -/
structure Checker where
  toolchain : Toolchain
  buildOutput : Path
  profile : Path
  deriving DecidableEq, Repr

namespace Checker

/-- A checker that writes to the directory for files of no lasting value. -/
def inTemp (e : Environment) (t : Toolchain) : Checker where
  toolchain := t
  buildOutput := Path.join e.temp "go-code-check".toList
  profile := Path.join e.temp "go-code-cover".toList

/-! ### The checks -/

/-- The run that builds the package of a file. -/
def buildRun (c : Checker) (go : Path) (s : Settings) (file dir : Path) (isMain : Bool) : ToolRun :=
  { ToolRun.plain go (s.buildArgs file isMain c.buildOutput) dir .error with missing := .goNotFound }

/-- The run that lints. A tool other than the default one lists its issues on the output stream, and is
not known how to be installed. -/
def lintRun (c : Checker) (h : Host) (s : Settings) (file dir : Path) (d : Disk) : ToolRun :=
  let tool := s.linter
  let run := ToolRun.plain (c.toolchain.toolPath h d tool) (s.lintArgs file) dir .warning
  if tool = Settings.defaultLinter then { run with stream := .err, missing := .install tool }
  else
    { run with
      stream := .out
      missing := .info ("No \"".toList ++ tool ++ "\" could be found. Install ".toList ++ tool
        ++ " to use this option.".toList) }

/-- The run that vets a file. -/
def vetRun (go : Path) (s : Settings) (file dir : Path) : ToolRun :=
  { ToolRun.plain go (s.vetArgs file) dir .warning with missing := .goNotFound }

/-- The build check. Only the package clause of the file matters here, so ill-formed text is no
obstacle; the compiler will report it. -/
def buildWork (c : Checker) (h : Host) (go : Path) (s : Settings) (file dir : Path) : Work Checked :=
  .step id fun scene =>
    match scene.disk.read h.cwd file with
    | .error fault => .done (.error (.unreadable file fault))
    | .ok bytes =>
      let isMain := GoFile.isMain (Utf8.decodeLossy bytes)
      (ToolRun.work h fun _ => c.buildRun go s file dir isMain).map .ok

/-- The lint check. -/
def lintWork (c : Checker) (h : Host) (s : Settings) (file dir : Path) : Work Checked :=
  (ToolRun.work h (c.lintRun h s file dir)).map .ok

/-- The vet check. -/
def vetWork (h : Host) (go : Path) (s : Settings) (file dir : Path) : Work Checked :=
  (ToolRun.work h fun _ => vetRun go s file dir).map .ok

/-- Work that is done only if it is enabled. -/
def whenEnabled (enabled : Bool) (w : Work Checked) : Work Checked :=
  if enabled then w else .done (.ok [])

/-- The checks of a file in a directory, in the order of their diagnostics. -/
def works (c : Checker) (h : Host) (go : Path) (s : Settings) (file dir : Path) : List (Work Checked) :=
  [ whenEnabled s.buildOnSave (c.buildWork h go s file dir),
    whenEnabled s.lintOnSave (c.lintWork h s file dir),
    whenEnabled s.vetOnSave (vetWork h go s file dir),
    whenEnabled s.coverOnSave (Coverage.work h go c.profile s file dir) ]

/-! ### A whole check -/

/-- The file to check as seen from the root, and the directory it lies in. -/
def target (h : Host) (file : Path) : Except CheckError (Path × Path) :=
  match Path.absolute? h.cwdPath file with
  | none => .error .blankPath
  | some p =>
    match Path.parent? p with
    | none => .error (.noParent p)
    | some dir => .ok (p, dir)

/-- Which checks go first. Next to what a tool takes, it takes no time to read the source and to remove an
earlier profile: both are done before any tool has run. -/
def openingTurns : List Nat := [0, 3]

/-- Check a file. Without Go there is nothing to check with, and with every check disabled nothing to
do; either way no file is looked at. -/
def check (c : Checker) (h : Host) (s : Settings) (file : Path) (scene : Scene) : Checked × Scene :=
  match c.toolchain.go with
  | none => (.ok [], scene.tell .goNotFound)
  | some go =>
    if s.anyEnabled then
      match target h file with
      | .error e => (.error e, scene)
      | .ok (p, dir) => Work.runInTurns openingTurns (c.works h go s p dir) scene
    else (.ok [], scene)

/-- Check a file once, with the tools that the machine has now. -/
def checkOnce (h : Host) (s : Settings) (file : Path) (d : Disk) : Checked × Scene :=
  (inTemp h.environment (.detect h d s.goRoot s.goPath)).check h s file { disk := d }

end Checker

end SaveCheck
