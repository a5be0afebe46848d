import SaveCheck.Config
import SaveCheck.Proofs.Concurrency

/-!
The cycle of a file: first its settings, then its checks with their steps in any order.

    settings ──▶ checks ──▶ checked      the checks fail, or come to diagnostics
        └──────▶ unsettled               there are no settings

The editor goes through it for each Go file that is saved, and the command line for the file it names.
-/

namespace SaveCheck

/-- The checker with the tools that the machine has. -/
def Checker.ofHost (h : Host) (s : Settings) (d : Disk) : Checker :=
  .inTemp h.environment (.detect h d s.goRoot s.goPath)

/-- What a cycle comes to. -/
inductive Cycle where
  | unsettled (e : ConfigError)
  | checked (settings : Settings) (r : Checked × Scene)

namespace Cycle

variable (h : Host) (d : Disk) (file : Path)

/-- What the cycle of a file can come to under the settings for it, in some order of the steps. -/
def Of : Except ConfigError Settings → Cycle → Prop
  | .error e, cycle => cycle = .unsettled e
  | .ok s, cycle => ∃ r, (Checker.ofHost h s d).Interleaved h s file { disk := d } r ∧ cycle = .checked s r

/-- What the cycle of a file comes to in the order in which its checks are done. -/
def inTurn : Except ConfigError Settings → Cycle
  | .error e => .unsettled e
  | .ok s => .checked s (Checker.checkOnce h s file d)

theorem of_inTurn (settings : Except ConfigError Settings) :
    Of h d file settings (inTurn h d file settings) := by
  cases settings with
  | error e => rfl
  | ok s => exact ⟨_, Checker.interleaved_check .., rfl⟩

variable {h d file}

/-- A cycle that checks anything does so under the settings for the file. -/
theorem Of.checked_iff {settings : Except ConfigError Settings} {s : Settings} {r : Checked × Scene} :
    Of h d file settings (.checked s r) ↔
      settings = .ok s ∧ (Checker.ofHost h s d).Interleaved h s file { disk := d } r := by
  cases settings with
  | error e => simp [Of]
  | ok s' =>
    constructor
    · rintro ⟨r', hr, heq⟩
      obtain ⟨rfl, rfl⟩ := Cycle.checked.inj heq
      exact ⟨rfl, hr⟩
    · rintro ⟨hs, hr⟩
      obtain rfl := Except.ok.inj hs
      exact ⟨r, hr, rfl⟩

/-- The diagnostics of a cycle that succeeds. -/
def found? : Cycle → Option (List Diagnostic)
  | .checked _ (.ok ds, _) => some ds
  | _ => none

theorem found?_checked (s : Settings) (r : Checked × Scene) : (checked s r).found? = r.1.toOption := by
  rcases r with ⟨e | ds, scene⟩ <;> rfl

theorem found?_eq_some_iff {cycle : Cycle} {ds : List Diagnostic} :
    cycle.found? = some ds ↔ ∃ settings scene, cycle = .checked settings (.ok ds, scene) := by
  rcases cycle with e | ⟨settings, e | found, scene⟩ <;> simp [found?]

/-! ### Independent checks -/

/-- The checks of a cycle are independent, if it gets to them. -/
def Independent (h : Host) (d : Disk) (file : Path) (settings : Except ConfigError Settings) : Prop :=
  ∀ s go p dir, settings = .ok s → (Checker.ofHost h s d).toolchain.go = some go →
    Checker.target h file = .ok (p, dir) → (Checker.ofHost h s d).Independent h go s p dir d

/-- In every order independent checks come to the same diagnostics, or fail. -/
theorem Of.found?_eq {settings : Except ConfigError Settings} {cycle cycle' : Cycle}
    (hind : Independent h d file settings) (hcycle : Of h d file settings cycle)
    (hcycle' : Of h d file settings cycle') : cycle.found? = cycle'.found? := by
  cases settings with
  | error e =>
    obtain rfl : cycle = .unsettled e := hcycle
    obtain rfl : cycle' = .unsettled e := hcycle'
    rfl
  | ok s =>
    obtain ⟨r, hr, rfl⟩ := hcycle
    obtain ⟨r', hr', rfl⟩ := hcycle'
    rw [found?_checked, found?_checked]
    exact Checker.Interleaved.toOption_eq (fun go p dir => hind s go p dir rfl) hr hr'

end Cycle

end SaveCheck
