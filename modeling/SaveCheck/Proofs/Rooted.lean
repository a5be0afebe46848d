import SaveCheck.Proofs.Concurrency
import SaveCheck.Proofs.Parents

/-!
Whatever a check finds it reads off a listing, and it lies at a path from the root.

    a.go  ── absolute? ──▶  /proj/a.go  ── parent? ──▶  /proj  ── resolve ──▶  /proj/sub/b.go
    checked                                             where the tools run    reported

A tool names files as seen from the directory that it runs in, and that directory is given from the root. How
serious the issues are is up to the check that ran the tool.
-/

namespace SaveCheck.Path

theorem isAbsolute_join {dir : Path} (hdir : isAbsolute dir = true) (p : Path) :
    isAbsolute (join dir p) = true := by
  have hne : dir ≠ [] := by
    rintro rfl
    cases hdir
  cases hp : isAbsolute p with
  | true => simp [join, hp]
  | false => rw [join_eq_append dir hp, isAbsolute_append hne, hdir]

theorem isAbsolute_foldl_join {dir : Path} (hdir : isAbsolute dir = true) (ps : List Path) :
    isAbsolute (ps.foldl join dir) = true := by
  induction ps generalizing dir with
  | nil => exact hdir
  | cons p ps ih => exact ih (isAbsolute_join hdir p)

theorem isAbsolute_of_absolute? {cwd p q : Path} (hcwd : isAbsolute cwd = true)
    (h : absolute? cwd p = some q) : isAbsolute q = true := by
  rw [absolute?] at h
  split at h
  · cases h
  · have hstart : isAbsolute
        (if isAbsolute p then (if startsDouble p then ['/', '/'] else ['/']) else cwd) = true := by
      split
      · split <;> rfl
      · exact hcwd
    have hfull := isAbsolute_foldl_join hstart ((steps (pieces p)).map Component.text)
    obtain rfl := Option.some.inj h
    split
    · exact isAbsolute_join hfull []
    · exact hfull

theorem isAbsolute_of_mem_climb : ∀ {body : List Text} {dir : Path}, dir ∈ climb (some .root) body →
    isAbsolute dir = true
  | [], _, h => by simp [climb] at h
  | piece :: outer, dir, h => by
    rw [climb] at h
    split at h
    · exact isAbsolute_of_mem_climb h
    · rcases List.mem_cons.mp h with rfl | h
      · rfl
      · exact isAbsolute_of_mem_climb h

/-- A path from the root lies in a directory that is given from the root. -/
theorem isAbsolute_of_parent? {p dir : Path} (hp : isAbsolute p = true) (h : parent? p = some dir) :
    isAbsolute dir = true := by
  have hmem : dir ∈ parents p := List.mem_of_mem_head? h
  rw [parents, split, if_pos hp] at hmem
  exact isAbsolute_of_mem_climb hmem

theorem isAbsolute_resolve {cwd : Path} (hcwd : isAbsolute cwd = true) (file : Path) :
    isAbsolute (resolve cwd file) = true := by
  rw [resolve, if_pos (isAbsolute_join hcwd file)]
  rfl

end SaveCheck.Path

namespace SaveCheck

namespace Work

variable {α β ε : Type}

/-- Whatever its steps find, a work comes to a result with a property. -/
inductive Yields (P : α → Prop) : Work α → Prop where
  | done {a : α} : P a → Yields P (.done a)
  | step {change : Scene → Scene} {next : Scene → Work α} :
      (∀ s, Yields P (next s)) → Yields P (.step change next)

theorem Yields.mono {P Q : α → Prop} (hPQ : ∀ a, P a → Q a) {w : Work α} (hw : Yields P w) : Yields Q w := by
  induction hw with
  | done ha => exact .done (hPQ _ ha)
  | step _ ih => exact .step ih

theorem Yields.map {P : α → Prop} {Q : β → Prop} {f : α → β} (hf : ∀ a, P a → Q (f a)) {w : Work α}
    (hw : Yields P w) : Yields Q (w.map f) := by
  induction hw with
  | done ha => exact .done (hf _ ha)
  | step _ ih => exact .step ih

/-- What comes of some works in any order has a property where what each of them finds does. -/
theorem Joins.yields {P : α → Prop} {ws : List (Work (Except ε (List α)))} {s : Scene}
    {r : Except ε (List α) × Scene} (h : Joins ws s r)
    (hws : ∀ w ∈ ws, Yields (fun found => ∀ as, found = .ok as → ∀ a ∈ as, P a) w) :
    ∀ as, r.1 = .ok as → ∀ a ∈ as, P a := by
  induction h with
  | @step front back change next s r _ ih =>
    simp only [List.mem_append, List.mem_cons, or_imp, forall_and, forall_eq] at ih hws
    obtain ⟨hfront, hstep, hback⟩ := hws
    cases hstep with
    | step hnext => exact ih ⟨hfront, hnext s, hback⟩
  | fail => simp
  | @finish found s =>
    intro as has a ha
    obtain rfl := Except.ok.inj has
    obtain ⟨part, hpart, ha⟩ := List.mem_flatten.mp ha
    cases hws (.done (.ok part)) (List.mem_map.mpr ⟨part, hpart, rfl⟩) with
    | done hP => exact hP part rfl a ha

end Work

/-- A diagnostic that gives its file from the root. -/
def Diagnostic.Rooted (d : Diagnostic) : Prop := Path.isAbsolute d.file = true

/-! ### What each check finds -/

/-- What a run of a tool finds is read off some text. -/
theorem ToolRun.work_finds {h : Host} {run : Disk → ToolRun} {dir : Path} {severity : Severity}
    (hrun : ∀ d, (run d).dir = dir ∧ (run d).severity = severity) :
    (work h run).Yields fun ds => ∃ t, ds = Listing.diagnostics dir severity t := by
  refine .step fun s => ?_
  obtain ⟨hdir, hseverity⟩ := hrun s.disk
  dsimp only
  cases h.launch s.disk (run s.disk).program (run s.disk).args (run s.disk).dir with
  | ok call =>
    refine .step fun _ => .done ⟨(run s.disk).listing h call, ?_⟩
    rw [diagnostics, hdir, hseverity]
  | error fault => cases fault <;> first | exact .done ⟨[], rfl⟩ | exact .step fun _ => .done ⟨[], rfl⟩

/-- What a check can find when its tools run in a directory: what some text lists, as errors or as warnings.
Coverage finds nothing. -/
def CheckKind.Finds (dir : Path) : CheckKind → List Diagnostic → Prop
  | .build, ds => ∃ t, ds = Listing.diagnostics dir .error t
  | .lint, ds | .vet, ds => ∃ t, ds = Listing.diagnostics dir .warning t
  | .cover, ds => ds = []

theorem CheckKind.finds_nil (dir : Path) (k : CheckKind) : k.Finds dir [] := by
  cases k with
  | cover => rfl
  | _ => exact ⟨[], rfl⟩

/-- Each file that a check reports on is one as seen from the directory. -/
theorem CheckKind.Finds.file_eq {dir : Path} {k : CheckKind} {ds : List Diagnostic} (hds : k.Finds dir ds) :
    ∀ d ∈ ds, ∃ file, d.file = Path.resolve dir file := by
  have hlisting : ∀ severity t, ∀ d ∈ Listing.diagnostics dir severity t,
      ∃ file, d.file = Path.resolve dir file := by
    simp only [Listing.diagnostics, List.mem_map]
    rintro severity t d ⟨e, -, rfl⟩
    exact ⟨e.head.file, rfl⟩
  cases k with
  | cover =>
    obtain rfl : ds = [] := hds
    simp
  | _ =>
    obtain ⟨t, rfl⟩ := hds
    exact hlisting _ t

namespace Checker

variable {c : Checker} {h : Host} {s : Settings} {go file p dir : Path}

/-- The file that is checked and its directory are given from the root. -/
theorem target_rooted (htarget : target h file = .ok (p, dir)) :
    Path.isAbsolute p = true ∧ Path.isAbsolute dir = true := by
  rw [target] at htarget
  split at htarget
  · cases htarget
  · next q hq =>
    split at htarget
    · cases htarget
    · next hdir =>
      obtain ⟨rfl, rfl⟩ := Prod.mk.inj (Except.ok.inj htarget)
      have hp := Path.isAbsolute_of_absolute? rfl hq
      exact ⟨hp, Path.isAbsolute_of_parent? hp hdir⟩

theorem lintRun_eq (d : Disk) :
    (c.lintRun h s p dir d).dir = dir ∧ (c.lintRun h s p dir d).severity = .warning := by
  rw [lintRun]
  split <;> exact ⟨rfl, rfl⟩

/-- What a check comes to, if it finds anything, has a property. -/
def FindsOnly (P : List Diagnostic → Prop) (r : Checked) : Prop := ∀ ds, r = .ok ds → P ds

theorem findsOnly_ok {P : List Diagnostic → Prop} {ds : List Diagnostic} (hds : P ds) :
    FindsOnly P (.ok ds) := by
  rintro found hfound
  obtain rfl := Except.ok.inj hfound
  exact hds

theorem findsOnly_error {P : List Diagnostic → Prop} (e : CheckError) : FindsOnly P (.error e) := by
  rintro ds hds
  cases hds

theorem tool_finds {run : Disk → ToolRun} {severity : Severity}
    (hrun : ∀ d, (run d).dir = dir ∧ (run d).severity = severity) : ((ToolRun.work h run).map .ok).Yields
      (FindsOnly fun ds => ∃ t, ds = Listing.diagnostics dir severity t) :=
  (ToolRun.work_finds hrun).map fun _ => findsOnly_ok

theorem cover_finds : (Coverage.work h go c.profile s p dir).Yields (FindsOnly (· = [])) := by
  refine .step fun _ => .step fun scene => ?_
  cases h.launch scene.disk go (s.coverArgs c.profile) dir with
  | error fault =>
    cases fault <;>
      first | exact .done (findsOnly_error _) | exact .step fun _ => .done (findsOnly_ok rfl)
  | ok call =>
    refine .step fun _ => .step fun scene => ?_
    cases scene.disk.readText h.cwd c.profile with
    | error fault => exact .step fun _ => .done (findsOnly_ok rfl)
    | ok text =>
      dsimp only
      cases Coverage.Profile.parse text with
      | error e => exact .done (findsOnly_error _)
      | ok profile => exact .step fun _ => .done (findsOnly_ok rfl)

/-- Each check finds what it can find. -/
theorem workOf_finds (k : CheckKind) : (c.workOf h go s p dir k).Yields (FindsOnly (k.Finds dir)) := by
  cases k with
  | build =>
    refine .step fun scene => ?_
    dsimp only
    cases scene.disk.read h.cwd p with
    | error fault => exact .done (findsOnly_error _)
    | ok content => exact tool_finds fun _ => ⟨rfl, rfl⟩
  | lint => exact tool_finds lintRun_eq
  | vet =>
    have hvet : (vetWork h go s p dir).Yields (FindsOnly (CheckKind.Finds dir .vet)) :=
      tool_finds fun _ => ⟨rfl, rfl⟩
    exact hvet
  | cover => exact cover_finds

theorem whenEnabled_finds (k : CheckKind) :
    (whenEnabled (s.enables k) (c.workOf h go s p dir k)).Yields (FindsOnly (k.Finds dir)) := by
  rw [whenEnabled]
  split
  · exact workOf_finds k
  · exact .done (findsOnly_ok (k.finds_nil dir))

/-! ### What a whole check finds -/

/-- What a check comes to, if it finds anything, it gives from the root. -/
def Rooted (r : Checked) : Prop := ∀ ds, r = .ok ds → ∀ d ∈ ds, d.Rooted

/-- Each file that a check reports on is one as seen from a directory that is given from the root, whatever the
order of its steps. -/
theorem Interleaved.file_eq {scene : Scene} {r : Checked × Scene} (hr : c.Interleaved h s file scene r) :
    ∀ ds, r.1 = .ok ds → ∀ d ∈ ds,
      ∃ dir name, Path.isAbsolute dir = true ∧ d.file = Path.resolve dir name := by
  have hnone : ∀ ds, (.ok [] : Checked) = .ok ds → ∀ d ∈ ds,
      ∃ dir name, Path.isAbsolute dir = true ∧ d.file = Path.resolve dir name := by
    rintro ds hds
    obtain rfl := Except.ok.inj hds
    simp
  rw [Interleaved] at hr
  split at hr
  · exact hr ▸ hnone
  · split at hr
    · split at hr
      · rw [hr]
        rintro ds hds
        cases hds
      · next go _ _ p dir htarget =>
        refine hr.yields fun w hw => ?_
        rw [works_eq, List.mem_map] at hw
        obtain ⟨k, -, rfl⟩ := hw
        refine (whenEnabled_finds k).mono fun found hfound ds hds d hd => ?_
        obtain ⟨name, hname⟩ := (hfound ds hds).file_eq d hd
        exact ⟨dir, name, (target_rooted htarget).2, hname⟩
    · exact hr ▸ hnone

/-- All that a check finds it gives from the root, whatever the order of its steps. -/
theorem Interleaved.rooted {scene : Scene} {r : Checked × Scene} (hr : c.Interleaved h s file scene r) :
    Rooted r.1 := by
  intro ds hds d hd
  obtain ⟨dir, name, hdir, hname⟩ := hr.file_eq ds hds d hd
  rw [Diagnostic.Rooted, hname]
  exact Path.isAbsolute_resolve hdir name

end Checker

end SaveCheck
