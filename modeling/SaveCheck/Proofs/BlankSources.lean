import SaveCheck.Proofs.Pieces
import SaveCheck.Toolchain

/-!
What a blank root or path of Go stands for, as a setting and as a variable.

    blank            counts as not given
    root setting     only where the variable is blank, too
    path setting     never
    root variable    only where a setting takes its place
    path variable    always

A blank that does not count as not given is the directory that the process stands in: `bin` is searched there, and
what the environment says is not looked at.
-/

namespace SaveCheck

namespace Host

/-- The machine with another variable for the Go root. -/
def withGoRoot (h : Host) (goRoot : Option Text) : Host := { h with environment := { h.environment with goRoot } }

/-- The machine with another variable for the Go path. -/
def withGoPath (h : Host) (goPath : Option Text) : Host := { h with environment := { h.environment with goPath } }

end Host

/-- Only nothing has one blank cell. -/
theorem Text.eq_nil_of_cells {α : Type} {p : α → Bool} : ∀ {xs : List α}, cells p xs = [[]] → xs = []
  | [], _ => rfl
  | x :: xs, h => by
    obtain ⟨cell, rest, hcells⟩ := List.exists_cons_of_ne_nil (cells_ne_nil p xs)
    rw [cells, hcells] at h
    split at h <;> simp at h

namespace Toolchain

theorem bin_eq (dir : Path) : bin dir = dir ++ (Path.gap dir ++ "bin".toList) := Path.join_eq_append dir rfl

/-- The `bin` of a blank directory is that of no other. -/
theorem bin_eq_bin_nil {dir : Path} (h : bin dir = bin []) : dir = [] := by
  have hblank : bin [] = "bin".toList := rfl
  have hlength := congrArg List.length h
  rw [bin_eq, hblank, List.length_append, List.length_append] at hlength
  exact List.length_eq_zero_iff.mp (by omega)

/-- Without a setting the entries of the Go path are never a blank one alone. -/
theorem pathEntries_ne_blank (e : Environment) : pathEntries e none ≠ [[]] := by
  rw [pathEntries.eq_def]
  split
  · next h => cases h
  · next c cs _ _ => exact fun h => List.cons_ne_nil c cs (Text.eq_nil_of_cells h)
  · cases home? e with
    | none => exact fun h => by cases h
    | some home =>
      intro h
      have hjoin : Path.join home "go".toList = [] := (List.cons.inj h).1
      rw [Path.join_eq_append home rfl, List.append_eq_nil_iff, List.append_eq_nil_iff] at hjoin
      cases hjoin.2.2

/-- The directories of tools with a blank root and with another one, if there is one. -/
theorem bins_eq_iff (root : Option Path) (front back : List Path) :
    front ++ [bin []] ++ back = front ++ (root.map bin).toList ++ back ↔ root = some [] := by
  rw [List.append_cancel_right_eq, List.append_cancel_left_eq]
  cases root with
  | none => simp
  | some dir =>
    constructor
    · exact fun h => congrArg some (bin_eq_bin_nil (List.cons.inj h).1.symm)
    · rintro ⟨⟩
      rfl

/-- A blank setting or variable gives what none gives in these cases: a root setting, where the variable is blank as
well; a root variable, where there is a setting; and a path variable always. A blank path setting leaves the Go program
as it is but never the directories of tools. -/
theorem detect_blank_iff (h : Host) (d : Disk) (root path : Option Path) :
    (detect h d (some []) path = detect h d none path ↔ h.environment.goRoot = some []) ∧
      ((detect h d root (some [])).go = (detect h d root none).go ∧
        (detect h d root (some [])).toolDirs ≠ (detect h d root none).toolDirs) ∧
      (detect (h.withGoRoot (some [])) d root path = detect (h.withGoRoot none) d root path ↔ root ≠ none) ∧
      detect (h.withGoPath (some [])) d root path = detect (h.withGoPath none) d root path := by
  refine ⟨⟨fun heq => ?_, fun hroot => ?_⟩, ⟨rfl, fun heq => ?_⟩, ⟨?_, fun hroot => ?_⟩, ?_⟩
  · exact (bins_eq_iff _ _ _).mp (congrArg toolDirs heq)
  · simp only [detect, hroot, Option.some_or, Option.none_or]
  · have hentries : (pathEntries h.environment (some [])).map bin = (pathEntries h.environment none).map bin := by
      simpa only [detect, List.append_cancel_right_eq] using heq
    have hsingle : (pathEntries h.environment none).map bin = [bin []] := hentries.symm
    obtain ⟨dir, hdir, hbin⟩ := List.map_eq_singleton_iff.mp hsingle
    rw [bin_eq_bin_nil hbin] at hdir
    exact pathEntries_ne_blank _ hdir
  · rintro heq rfl
    cases (bins_eq_iff none _ _).mp (congrArg toolDirs heq)
  · obtain ⟨dir, rfl⟩ := Option.ne_none_iff_exists'.mp hroot
    rfl
  · cases path <;> rfl

/-- A process in `/p`, with its Go root in a variable. -/
def rootedHost : Host := ⟨{ goRoot := some "/go".toList, temp := "/tmp".toList }, ["p".toList], fun _ _ _ => {}⟩

/-- A disk with Go in that root. -/
def rootedDisk : Disk where
  node? place :=
    if place = [] ∨ place = ["p".toList] ∨ place = ["go".toList] ∨ place = ["go".toList, "bin".toList] then
      some .directory
    else if place = ["go".toList, "bin".toList, "go".toList] then some (.file [] true)
    else none

/-- A blank root setting hides the variable, and with it Go. -/
theorem detect_blank_hides :
    (detect rootedHost rootedDisk (some []) none).go = none ∧
      detect rootedHost rootedDisk none none = ⟨some "/go/bin/go".toList, ["/go/bin".toList]⟩ := by
  decide +kernel

end Toolchain

end SaveCheck
