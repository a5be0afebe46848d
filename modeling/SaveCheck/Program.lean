import SaveCheck.Check
import SaveCheck.CommandLine.Words
import SaveCheck.Config
import SaveCheck.Diagnostic.Report

/-!
The program as a function of its words and the machine: what it prints and how it ends.

    check    prints the diagnostics; ends with 1 if one of them is an error
    watch    ends with 1 if there is no such directory; what it goes on to do is not told of here
    serve    ends with the input; what it does until then is told of by sessions

Words that ask for nothing that can be done end with 2, and what goes wrong after that with 1.
-/

namespace SaveCheck.Program

/-- How a run of the program ends: its status, what it prints and logs, and what it launched. -/
structure Ending where
  status : Nat
  out : Text := []
  complaint : Text := []
  log : List LogRecord := []
  calls : List Call := []
  deriving DecidableEq, Repr

/-- The name and version of the program, on a line. -/
def versionLine : Text := "go-check 0.1.0\n".toList

/-- How the program is used. -/
def usage : Text := ("Usage: go-check [--log-level L] [--config FILE] [--go-root DIR] COMMAND\n\n"
  ++ "  check FILE [--format text|json]   check a file once\n"
  ++ "  watch DIR                         check each Go file below DIR that is saved\n"
  ++ "  serve                             check what an editor saves\n\n"
  ++ "check and watch take --no-build, --no-lint, --no-vet, --cover, --lint-tool TOOL\n"
  ++ "and --build-tags TAGS.\n").toList

/-- How the program ends when its words are no command line. -/
def refuse : UsageError → Ending
  | .help => { status := 0, out := usage }
  | .version => { status := 0, out := versionLine }
  | _ => { status := 2, complaint := usage }

/-- How the program ends when it fails. -/
def fail (message : Text) : Ending := { status := 1, complaint := "Error: ".toList ++ message ++ ['\n'] }

/-- Why there is no report. -/
def unreportable : Text := "path contains invalid UTF-8 characters".toList

/-- Diagnostics as they are printed. A report can fail; lines are told whatever a path is. -/
def print (ds : List Diagnostic) : Format → Except Text Text
  | .text => .ok (ds.flatMap fun d => d.display ++ ['\n'])
  | .json =>
    match Diagnostic.report? ds with
    | some report => .ok (report ++ ['\n'])
    | none => .error unreportable

/-- How the program ends when a check succeeds: it prints what was found, and nothing if it cannot. -/
def present (ds : List Diagnostic) (format : Format) : Ending :=
  match print ds format with
  | .error message => fail message
  | .ok out => { status := if Diagnostic.hasErrors ds then 1 else 0, out }

/-- Check a file. -/
def checkFile (c : Config) (h : Host) (d : Disk) (file : Path) : Except Text (List Diagnostic) × Scene :=
  match c.settingsFor h d file with
  | .error e => (.error e.message, { disk := d })
  | .ok s =>
    let (result, scene) := Checker.checkOnce h s file d
    (result.mapError CheckError.message, scene)

/-- What is logged about a check under a limit. -/
def logOf (limit : Text) (scene : Scene) : List LogRecord :=
  (scene.notices.map LogRecord.ofNotice ++ scene.journal.lines.map LogRecord.ofLine).filter
    (·.level.isShown limit)

/-- Check a file and print the result. -/
def check (c : Config) (h : Host) (d : Disk) (file : Path) (format : Format) : Ending :=
  let (result, scene) := checkFile c h d file
  let ending : Ending := match result with
    | .error message => fail message
    | .ok ds => present ds format
  { ending with log := logOf c.logLevel scene, calls := scene.calls }

/-- Watch a directory, as far as to see that it is there. From then on each Go file that is saved below it is
checked, until the program is stopped; so there is no ending to tell of. -/
def watch (h : Host) (d : Disk) (dir : Path) : Ending :=
  match d.lookup h.cwd dir with
  | .ok _ => { status := 0 }
  | .error fault => fail ("Failed to watch ".toList ++ dir ++ ": ".toList ++ fault.message)

/-- Run the program with some words, on an input that is at its end. -/
def run (h : Host) (d : Disk) (words : List Text) : Ending :=
  match CommandLine.parse words with
  | .error e => refuse e
  | .ok line =>
    match Config.ofCommandLine h d line with
    | .error e => fail e.message
    | .ok c =>
      match line.command with
      | .check file format _ => check c h d file format
      | .watch dir _ => watch h d dir
      | .serve => { status := 0 }

end SaveCheck.Program
