import SaveCheck.Check.Failure
import SaveCheck.Machine.Work
import SaveCheck.Number.Rounding
import SaveCheck.Settings.Arguments

/-!
The coverage check: the tests run and write a cover profile, and the journal tells what it says about
the checked file.

    main.go: 66.7% of statements (2/3)
    main.go:9.20,11.16 not covered

A profile that an earlier run left is removed first. Tests that fail have their output in the journal
too. There are never any diagnostics.
-/

namespace SaveCheck.Coverage

/-- How a position is written. -/
def Position.text (p : Position) : Text := Numeral.write p.line ++ '.' :: Numeral.write p.column

/-- How much of a file is covered. -/
def shareLine (file : Path) (covered total : Nat) : Text :=
  file ++ ": ".toList ++ Rounding.percent covered total ++ "% of statements (".toList
    ++ Numeral.write covered ++ '/' :: Numeral.write total ++ [')']

/-- A block of a file that did not run. -/
def gapLine (file : Path) (b : Block) : Text :=
  file ++ ':' :: b.start.text ++ ',' :: b.stop.text ++ " not covered".toList

/-- What a profile says about a file. -/
def summary (file : Path) (p : Profile) : List Text :=
  let name := (Path.fileName? file).getD []
  let (covered, total) := p.counts name
  shareLine file covered total :: (p.uncovered name).map (gapLine file)

/-- What the journal tells about tests that fail. -/
def failureLines (o : Outcome) : List Text :=
  if o.success then []
  else Text.lines (Utf8.decodeLossy o.out) ++ Text.lines (Utf8.decodeLossy o.err)

/-- That there is no profile to read. -/
def absentLine (dir : Path) : Text := "No coverage profile was written for ".toList ++ dir

/-- Read the profile and tell what it says. -/
def reading (h : Host) (profile file dir : Path) : Work Checked :=
  .step id fun s =>
    match s.disk.readText h.cwd profile with
    | .error _ => .act (·.write [absentLine dir]) (.ok [])
    | .ok text =>
      match Profile.parse text with
      | .error e => .done (.error (.badProfile e))
      | .ok p => .act (·.write (summary file p)) (.ok [])

/-- The coverage check of a file in a directory. -/
def work (h : Host) (go profile : Path) (settings : Settings) (file dir : Path) : Work Checked :=
  .step (Scene.remove h profile) fun _ =>
    let args := settings.coverArgs profile
    .step (·.launch h go args dir) fun s =>
      match h.launch s.disk go args dir with
      | .ok call => .step (·.write (failureLines (h.outcome call))) fun _ => reading h profile file dir
      | .error .missing => .act (·.tell .goNotFound) (.ok [])
      | .error fault => .done (.error (.coverageNotRun dir fault))

end SaveCheck.Coverage
