import SaveCheck.Proofs.Accounts
import SaveCheck.Proofs.Cuts

/-!
The commands that a check launches, one for each check that is enabled.

    build     go build -i -o OUT -tags "TAGS" FLAGS .                  a library
              go build -o OUT -tags "TAGS" FLAGS .                     a program
              go test -copybinary -o OUT -c -tags "TAGS" FLAGS .       a test
    lint      golint FLAGS FILE                                        or another linter, without the file
    vet       go tool vet FLAGS FILE
    coverage  go test -coverprofile=PROFILE -tags TAGS                 or without tags

They all run in the directory of the file. The flags of a check stand in its own command as they were given, and
nothing in the other commands depends on them.
-/

namespace SaveCheck

/-- A file with a name that ends in `_test.go`, in any mix of cases. -/
def GoFile.NamedTest (file : Path) : Prop :=
  ∃ stem ending, Path.fileName? file = some (stem ++ ending) ∧ ending.map Char.toLower = "_test.go".toList

theorem GoFile.isTest_iff {file : Path} : isTest file = true ↔ NamedTest file := by
  rw [isTest, NamedTest]
  cases Path.fileName? file with
  | none => simp
  | some name =>
    simp only [Text.endsWith_iff, Option.some.injEq]
    constructor
    · rintro ⟨before, hbefore⟩
      obtain ⟨stem, ending, rfl, -, hending⟩ := List.map_eq_append_iff.mp hbefore
      exact ⟨stem, ending, rfl, hending⟩
    · rintro ⟨stem, ending, rfl, hending⟩
      exact ⟨stem.map Char.toLower, by rw [Text.lower, List.map_append, hending]⟩

/-! ### Flags -/

namespace Settings

/-- The flags of a check; the tests have none. -/
def flagsOf (s : Settings) : CheckKind → List Text
  | .build => s.buildFlags
  | .lint => s.lintFlags
  | .vet => s.vetFlags
  | .cover => []

/-- Settings with other flags for one check. -/
def withFlags (s : Settings) (k : CheckKind) (flags : List Text) : Settings :=
  match k with
  | .build => { s with buildFlags := flags }
  | .lint => { s with lintFlags := flags }
  | .vet => { s with vetFlags := flags }
  | .cover => s

end Settings

/-! ### Commands -/

namespace Checker

/-- The arguments of each check, by what the file is and what is set. -/
inductive Arguments (c : Checker) (s : Settings) (file : Path) (source : Bytes) : CheckKind → List Text → Prop where
  | test : GoFile.NamedTest file →
      Arguments c s file source .build
        (["test".toList, "-copybinary".toList, "-o".toList, c.buildOutput, "-c".toList]
          ++ ["-tags".toList, '"' :: s.buildTags ++ ['"']] ++ s.buildFlags ++ [".".toList])
  | library : ¬ GoFile.NamedTest file → GoFile.packageName? (Utf8.decodeLossy source) ≠ some "main".toList →
      Arguments c s file source .build
        (["build".toList, "-i".toList, "-o".toList, c.buildOutput]
          ++ ["-tags".toList, '"' :: s.buildTags ++ ['"']] ++ s.buildFlags ++ [".".toList])
  | program : ¬ GoFile.NamedTest file → GoFile.packageName? (Utf8.decodeLossy source) = some "main".toList →
      Arguments c s file source .build
        (["build".toList, "-o".toList, c.buildOutput]
          ++ ["-tags".toList, '"' :: s.buildTags ++ ['"']] ++ s.buildFlags ++ [".".toList])
  | golint : s.linter = "golint".toList → Arguments c s file source .lint (s.lintFlags ++ [file])
  | linter : s.linter ≠ "golint".toList → Arguments c s file source .lint s.lintFlags
  | vet : Arguments c s file source .vet (["tool".toList, "vet".toList] ++ s.vetFlags ++ [file])
  | tagged : s.buildTags ≠ [] →
      Arguments c s file source .cover
        ["test".toList, "-coverprofile=".toList ++ c.profile, "-tags".toList, s.buildTags]
  | untagged : s.buildTags = [] →
      Arguments c s file source .cover ["test".toList, "-coverprofile=".toList ++ c.profile]

variable {c : Checker} {h : Host} {go : Path} {s : Settings} {p dir : Path} {source : Bytes} {d : Disk}

theorem arguments_argsOf (k : CheckKind) : c.Arguments s p source k (c.argsOf s p source k) := by
  cases k with
  | build =>
    rw [argsOf, Settings.buildArgs, Settings.buildHead]
    split
    · next htest => exact .test (GoFile.isTest_iff.mp htest)
    · next htest =>
      rw [GoFile.isTest_iff] at htest
      split
      · next hmain => exact .program htest (of_decide_eq_true hmain)
      · next hmain => exact .library htest fun hname => hmain (decide_eq_true hname)
  | lint =>
    simp only [argsOf, Settings.lintArgs]
    split
    · next hdefault => exact .golint hdefault
    · next hother =>
      rw [List.append_nil]
      exact .linter hother
  | vet => exact .vet
  | cover =>
    simp only [argsOf, Settings.coverArgs]
    split
    · next hblank => exact .untagged hblank
    · next htags => exact .tagged htags

/-- The flags of a check stand among its arguments as they were given. -/
theorem flagsOf_infix (k : CheckKind) : s.flagsOf k <:+: c.argsOf s p source k := by
  cases k with
  | build => exact ⟨_, _, rfl⟩
  | lint => exact ⟨[], _, rfl⟩
  | vet => exact ⟨_, _, rfl⟩
  | cover => exact List.nil_infix

/-- What a check launches does not depend on the flags of another one. -/
theorem launchOf_withFlags {j k : CheckKind} (hjk : j ≠ k) (flags : List Text) :
    c.launchOf h go (s.withFlags j flags) p dir source d k = c.launchOf h go s p dir source d k := by
  cases j <;> cases k <;> first | rfl | exact absurd rfl hjk

/-- A call is the command of a check: the program that is set, with the arguments that it should have, in the
directory of the file. -/
structure Command (c : Checker) (h : Host) (go : Path) (s : Settings) (p dir : Path) (source : Bytes) (d : Disk)
    (k : CheckKind) (call : Call) : Prop where
  place : d.lookup h.cwd dir = .ok (call.dir, .directory)
  program : h.program d call.dir (c.toolOf h go s d k) = .ok call.program
  args : c.Arguments s p source k call.args
  flags : s.flagsOf k <:+: call.args
  others : ∀ j flags, j ≠ k → c.launchOf h go (s.withFlags j flags) p dir source d k = .ok call

theorem command_of_launchOf {k : CheckKind} {call : Call} (hcall : c.launchOf h go s p dir source d k = .ok call) :
    c.Command h go s p dir source d k call := by
  have hlaunch := hcall
  rw [launchOf_eq] at hlaunch
  obtain ⟨-, hdir, hprogram, -, hargs⟩ := Host.launch_eq_ok_iff.mp hlaunch
  constructor
  · exact hdir
  · exact hprogram
  · rw [hargs]
    exact arguments_argsOf k
  · rw [hargs]
    exact flagsOf_infix k
  · intro j flags hjk
    rw [launchOf_withFlags hjk, hcall]

/-! ### A whole check -/

/-- A check that succeeds tries one launch for each enabled check, in whatever order, and none for the others. Where
what it launches can be launched, each enabled check has its one command, and there are no other calls. -/
theorem Traced.calls_perm {scene : Scene} {seen : CheckKind → List Scene} {r : Checked × Scene} {file : Path}
    {ds : List Diagnostic} (hgo : c.toolchain.go = some go) (hr : c.Traced h s file scene seen r)
    (hds : r.1 = .ok ds) :
    ∃ (p dir : Path) (source : Bytes) (disk : CheckKind → Disk),
      (s.enabled ≠ [] → target h file = .ok (p, dir)) ∧
      (s.buildOnSave → ∃ found ∈ seen .build, found.disk.read h.cwd p = .ok source) ∧
      (∀ k ∈ s.enabled, ∃ found ∈ seen k, found.disk = disk k) ∧
      r.2.calls.Perm (scene.calls ++
        s.enabled.flatMap fun k => (c.launchOf h go s p dir source (disk k) k).toOption.toList) ∧
      ((∀ k ∈ s.enabled, ∃ call, c.launchOf h go s p dir source (disk k) k = .ok call) →
        ∃ launched : CheckKind → Call, r.2.calls.Perm (scene.calls ++ s.enabled.map launched) ∧
          ∀ k ∈ s.enabled, c.Command h go s p dir source (disk k) k (launched k)) := by
  have : Nonempty Call := ⟨⟨[], [], []⟩⟩
  rcases hr.idle_or_meant hds with ⟨hidle, hcalls, -⟩ | ⟨go', p, dir, hgo', htarget⟩
  · have hoff : ∀ k, s.enables k = false := hidle.resolve_left (by simp [hgo])
    have hnone : s.enabled = [] := List.filter_eq_nil_iff.mpr fun k _ => by simp [hoff k]
    have hbuild : s.buildOnSave = false := hoff .build
    exact ⟨[], [], [], fun _ => scene.disk, by simp [hnone], by simp [hbuild], by simp [hnone],
      by simp [hnone, hcalls], fun _ => ⟨fun _ => ⟨[], [], []⟩, by simp [hnone, hcalls], by simp [hnone]⟩⟩
  · obtain ⟨parts, source, disk, -, htried, hcalls⟩ := hr.launches hgo htarget hds
    refine ⟨p, dir, source, disk, fun _ => htarget, fun hbuild => (htried .build hbuild).sourceFound rfl,
      fun k hk => (htried k (Settings.mem_enabled.mp hk)).found, hcalls, fun hlaunchable => ?_⟩
    choose! launched hlaunched using hlaunchable
    refine ⟨launched, ?_, fun k hk => command_of_launchOf (hlaunched k hk)⟩
    rw [List.flatMap_congr fun k hk => by rw [hlaunched k hk]] at hcalls
    rw [List.map_eq_flatMap]
    exact hcalls

/-- In the workshop all four launches succeed, and there are these four calls. -/
theorem calls_perm_workshop : ∃ (source : Bytes) (disk : CheckKind → Disk) (launched : CheckKind → Call),
    (workshopChecker.check workshop furnishedSettings "/p/a.go".toList { disk := workshopDisk }).2.calls.Perm
        (furnishedSettings.enabled.map launched) ∧
      ∀ k ∈ furnishedSettings.enabled, workshopChecker.Command workshop "/b/go".toList furnishedSettings
        "/p/a.go".toList "/p".toList source (disk k) k (launched k) := by
  obtain ⟨⟨seen, hseen⟩, hds, hfour⟩ := furnished_check
  have htarget : target workshop "/p/a.go".toList = .ok ("/p/a.go".toList, "/p".toList) := rfl
  obtain ⟨p, dir, source, disk, hmeant, -, -, hcalls, hall⟩ := Traced.calls_perm rfl hseen hds
  obtain ⟨rfl, rfl⟩ := Prod.mk.inj (Except.ok.inj (htarget.symm.trans (hmeant (by decide))))
  have hlaunchable := launched_of_length (hcalls.length_eq.symm.trans hfour)
  obtain ⟨launched, hlaunched, hcommand⟩ := hall fun k hk => by
    obtain ⟨call, hcall⟩ := hlaunchable k hk
    exact ⟨call, toOption_eq_some_iff.mp hcall⟩
  exact ⟨source, disk, launched, hlaunched, hcommand⟩

end Checker

end SaveCheck
