import SaveCheck.Proofs.Contributions
import SaveCheck.Proofs.Cycles
import SaveCheck.Proofs.Reports

/-!
How a run that checks a file ends, and what it prints.

    no settings, or the checks fail         1    nothing
    the build check contributed something   1    the diagnostics
    all else                                0    the diagnostics

What linting, vetting and coverage print has no bearing on the status, and neither has the format: what was found can
be printed in both, as paths are text.
-/

namespace SaveCheck

namespace Cycle

variable (h : Host) (d : Disk) (file : Path)

/-- What the cycle of a file can come to, with the scenes that the steps of each check find. -/
def Traced (settings : Except ConfigError Settings) (seen : CheckKind → List Scene) : Cycle → Prop
  | .unsettled e => settings = .error e
  | .checked s r => settings = .ok s ∧ (Checker.ofHost h s d).Traced h s file { disk := d } seen r

/-- What a check contributes to a cycle, by the scenes that its steps found. -/
def Contributes (seen : CheckKind → List Scene) (k : CheckKind) (ds : List Diagnostic) : Cycle → Prop
  | .unsettled _ => False
  | .checked s _ => (Checker.ofHost h s d).Contributes h s file seen k ds

variable {h d file}

end Cycle

namespace Program

/-- The settings for the file that a command line names. There are none if the command line is no good. -/
def settingsFor (h : Host) (d : Disk) (line : CommandLine) (file : Path) : Except ConfigError Settings :=
  match Config.ofCommandLine h d line with
  | .error e => .error e
  | .ok c => c.settingsFor h d file

/-- How a run ends after a cycle. -/
def conclude (limit : Text) (format : Format) : Cycle → Ending
  | .unsettled e => fail e.message
  | .checked _ (.error e, scene) => { fail e.message with log := logOf limit scene, calls := scene.calls }
  | .checked _ (.ok ds, scene) => { present ds format with log := logOf limit scene, calls := scene.calls }

variable {h : Host} {d : Disk} {words : List Text} {line : CommandLine} {file : Path} {format : Format}
  {overrides : Overrides}

theorem check_eq_conclude (c : Config) : check c h d file format =
    conclude c.logLevel format (.inTurn h d file (c.settingsFor h d file)) := by
  rw [check, checkFile]
  cases c.settingsFor h d file with
  | error e => rfl
  | ok s =>
    dsimp only [Cycle.inTurn]
    rcases Checker.checkOnce h s file d with ⟨e | ds, scene⟩ <;> rfl

variable {settings : Except ConfigError Settings} {seen : CheckKind → List Scene} {cycle : Cycle}

end Program

end SaveCheck
