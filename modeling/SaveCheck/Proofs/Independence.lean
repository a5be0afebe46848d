import SaveCheck.Check
import SaveCheck.Proofs.Interleaving

/-!
The checks one by one: what each finds on the disk and what it does to the disk.

    build    finds the file and its tool          runs the tool
    lint     finds its tool                       runs the tool
    vet      finds its tool                       runs the tool
    cover    finds the tests and the profile      removes the profile, runs the tests

Checks are independent where none of them does what changes the findings of another. Each one then settles,
whatever the others do.
-/

namespace SaveCheck

/-! ### Launches -/

/-- The disk once a launch was tried. -/
def Host.ran (h : Host) (d : Disk) (name : Path) (args : List Text) (dir : Path) : Disk :=
  match h.launch d name args dir with
  | .ok call => h.after d call
  | .error _ => d

/-- Where no program writes anything, launches leave the disk as it is. -/
theorem Host.ran_of_still (h : Host) (hstill : ∀ call, (h.outcome call).writes = []) (d : Disk) (name : Path)
    (args : List Text) (dir : Path) : h.ran d name args dir = d := by
  rw [ran]
  cases h.launch d name args dir with
  | error fault => rfl
  | ok call => simp [after, hstill call]

namespace ToolRun

/-- The launch of a tool. -/
def launch (r : ToolRun) (h : Host) (d : Disk) : Except Fault Call := h.launch d r.program r.args r.dir

/-- The disk once a tool ran. -/
def ran (r : ToolRun) (h : Host) (d : Disk) : Disk := h.ran d r.program r.args r.dir

/-- What is left of a run once the launch was tried. -/
def rest (r : ToolRun) (h : Host) : Except Fault Call → Work (List Diagnostic)
  | .ok call => r.report (r.listing h call)
  | .error .missing => .act (·.tell r.missing) []
  | .error _ => .done []

theorem work_eq (h : Host) (run : Disk → ToolRun) : work h run =
    .step (fun s => s.launch h (run s.disk).program (run s.disk).args (run s.disk).dir) fun s =>
      (run s.disk).rest h ((run s.disk).launch h s.disk) := rfl

end ToolRun

namespace Scene

variable (h : Host) (name : Path) (args : List Text) (dir : Path) (s : Scene)

theorem launch_disk : (s.launch h name args dir).disk = h.ran s.disk name args dir := by
  rw [launch, Host.ran]
  cases h.launch s.disk name args dir <;> rfl

theorem launch_notices : (s.launch h name args dir).notices = s.notices := by
  rw [launch]
  cases h.launch s.disk name args dir <;> rfl

theorem launch_calls :
    (s.launch h name args dir).calls = s.calls ++ (h.launch s.disk name args dir).toOption.toList := by
  rw [launch]
  cases h.launch s.disk name args dir <;> simp [Except.toOption]

end Scene

namespace Work.Settles

variable {α : Type} {k : Contract} {d : Disk} {a : α} {later : List Notice} {after : List Call}

/-- A step that leaves disk and launches alone. -/
theorem quiet {change : Scene → Scene} {next : Scene → Work α} (told : List Notice)
    (hdisk : ∀ s : Scene, (change s).disk = s.disk)
    (htold : ∀ s : Scene, (change s).notices = s.notices ++ told)
    (hcalls : ∀ s : Scene, (change s).calls = s.calls)
    (hnext : ∀ s : Scene, k.rely d s.disk → Settles k (next s) s.disk a later after) :
    Settles k (.step change next) d a (told ++ later) after := by
  refine .step told [] (fun s hs => ?_) (fun s _ => htold s) (fun s _ => ?_) fun s hs => ?_
  · rw [hdisk s]
    exact k.idle (k.stay hs)
  · rw [hcalls s, List.append_nil]
  · rw [hdisk s]
    exact hnext s hs

theorem write (lines : List Text) : Settles k (.act (·.write lines) a) d a [] [] :=
  quiet [] (fun _ => rfl) (fun _ => by simp [Scene.write]) (fun _ => rfl) fun _ _ => .done

theorem tell (n : Notice) : Settles k (.act (·.tell n) a) d a [n] [] :=
  quiet [n] (fun _ => rfl) (fun _ => rfl) (fun _ => rfl) fun _ _ => .done

/-- A step that tries a launch which comes to the same wherever the others leave the disk. -/
theorem launch {h : Host} {name : Path} {args : List Text} {dir : Path} {change : Scene → Scene}
    {next : Scene → Work α}
    (hchange : ∀ s : Scene, k.rely d s.disk → change s = s.launch h name args dir)
    (hlaunch : ∀ d', k.rely d d' → h.launch d' name args dir = h.launch d name args dir)
    (hgrant : ∀ d', k.rely d d' → k.grant d' (h.ran d' name args dir))
    (hnext : ∀ s : Scene, k.rely d s.disk →
      Settles k (next s) (h.ran s.disk name args dir) a later after) :
    Settles k (.step change next) d a later ((h.launch d name args dir).toOption.toList ++ after) := by
  refine .step [] _ (fun s hs => ?_) (fun s hs => ?_) (fun s hs => ?_) fun s hs => ?_
  · rw [hchange s hs, Scene.launch_disk]
    exact hgrant s.disk hs
  · rw [hchange s hs, Scene.launch_notices, List.append_nil]
  · rw [hchange s hs, Scene.launch_calls, hlaunch s.disk hs]
  · rw [hchange s hs, Scene.launch_disk]
    exact hnext s hs

end Work.Settles

namespace Work

/-- From a disk on, a work settles to something. -/
def Settling {α : Type} (k : Contract) (w : Work α) (d : Disk) : Prop :=
  ∃ a ns cs, Settles k w d a ns cs

namespace Settling

variable {α : Type} {k : Contract} {d : Disk}

theorem done (a : α) : Settling k (.done a) d := ⟨a, [], [], .done⟩

theorem map {β : Type} (f : α → β) {w : Work α} (hw : Settling k w d) : Settling k (w.map f) d := by
  obtain ⟨a, ns, cs, hw⟩ := hw
  exact ⟨f a, ns, cs, hw.map f⟩

/-- A step that only looks, and goes on alike wherever the others leave the disk. -/
theorem look {next : Scene → Work α} {w : Work α} (hnext : ∀ s : Scene, k.rely d s.disk → next s = w)
    (hw : Settling k w d) : Settling k (.step id next) d := by
  obtain ⟨a, ns, cs, hw⟩ := hw
  refine ⟨a, [] ++ ns, cs, .quiet [] (fun _ => rfl) (fun _ => by simp) (fun _ => rfl) fun s hs => ?_⟩
  rw [hnext s hs]
  exact hw.mono hs

/-- What a work settles to is what it comes to when nothing else goes on. -/
theorem run {w : Work α} (hw : Settling k w d) (hd : k.rely d d) :
    Settles k w d (w.run { disk := d }).1 (w.run { disk := d }).2.notices
      (w.run { disk := d }).2.calls := by
  obtain ⟨a, ns, cs, hw⟩ := hw
  obtain ⟨ha, hns, hcs⟩ := hw.run_eq hd { disk := d } rfl
  rw [ha, hns, hcs]
  exact hw

/-- The run of a tool settles where the others leave the tool in its place. -/
theorem tool (h : Host) (run : Disk → ToolRun)
    (hrun : ∀ d', k.rely d d' → run d' = run d)
    (hlaunch : ∀ d', k.rely d d' → (run d).launch h d' = (run d).launch h d)
    (hgrant : ∀ d', k.rely d d' → k.grant d' ((run d).ran h d')) :
    Settling k (ToolRun.work h run) d := by
  obtain ⟨found, ns, hrest⟩ : ∃ found ns, ∀ d',
      Settles k ((run d).rest h ((run d).launch h d)) d' found ns [] := by
    cases (run d).launch h d with
    | ok call => exact ⟨_, _, fun _ => .write _⟩
    | error fault =>
      cases fault with
      | missing => exact ⟨_, _, fun _ => .tell _⟩
      | _ => exact ⟨_, _, fun _ => .done⟩
  rw [ToolRun.work_eq]
  refine ⟨found, ns, _ ++ [], .launch (fun s hs => by rw [hrun s.disk hs]) hlaunch hgrant fun s hs => ?_⟩
  rw [hrun s.disk hs, hlaunch s.disk hs]
  exact hrest _

end Settling

end Work

namespace Coverage

/-- What is left of the check once the profile was read. -/
def afterReading (file dir : Path) : Except Fault Text → Work Checked
  | .error _ => .act (·.write [absentLine dir]) (.ok [])
  | .ok text =>
    match Profile.parse text with
    | .error e => .done (.error (.badProfile e))
    | .ok p => .act (·.write (summary file p)) (.ok [])

theorem reading_eq (h : Host) (profile file dir : Path) : reading h profile file dir =
    .step id fun s => afterReading file dir (s.disk.readText h.cwd profile) := by
  refine congrArg (Work.step id) (funext fun s => ?_)
  cases s.disk.readText h.cwd profile <;> rfl

/-- What is left of the check once the launch of the tests was tried. -/
def afterLaunch (h : Host) (profile file dir : Path) : Except Fault Call → Work Checked
  | .ok call => .step (·.write (failureLines (h.outcome call))) fun _ => reading h profile file dir
  | .error .missing => .act (·.tell .goNotFound) (.ok [])
  | .error fault => .done (.error (.coverageNotRun dir fault))

/-- What is left of the check once the profile of an earlier run is gone. -/
def testing (h : Host) (go profile : Path) (s : Settings) (file dir : Path) : Work Checked :=
  .step (·.launch h go (s.coverArgs profile) dir) fun scene =>
    afterLaunch h profile file dir (h.launch scene.disk go (s.coverArgs profile) dir)

theorem work_eq (h : Host) (go profile : Path) (s : Settings) (file dir : Path) :
    work h go profile s file dir =
      .step (Scene.remove h profile) fun _ => testing h go profile s file dir := rfl

end Coverage

/-! ### The checks by kind -/

/-- The checks, by what they do. -/
inductive CheckKind where
  | build
  | lint
  | vet
  | cover
  deriving DecidableEq, Repr

/-- The checks in the order of their diagnostics. -/
def CheckKind.all : List CheckKind := [.build, .lint, .vet, .cover]

theorem CheckKind.mem_all (k : CheckKind) : k ∈ all := by cases k <;> decide

namespace Settings

/-- Whether a check is to run. -/
def enables (s : Settings) : CheckKind → Bool
  | .build => s.buildOnSave
  | .lint => s.lintOnSave
  | .vet => s.vetOnSave
  | .cover => s.coverOnSave

/-- The checks that are to run. -/
def enabled (s : Settings) : List CheckKind := CheckKind.all.filter s.enables

theorem mem_enabled {s : Settings} {k : CheckKind} : k ∈ s.enabled ↔ s.enables k := by
  simp [enabled, CheckKind.mem_all]

theorem anyEnabled_eq_false_iff {s : Settings} : s.anyEnabled = false ↔ ∀ k, s.enables k = false := by
  simp only [anyEnabled, Bool.or_eq_false_iff]
  constructor
  · rintro ⟨⟨⟨hbuild, hlint⟩, hvet⟩, hcover⟩ k
    cases k
    · exact hbuild
    · exact hlint
    · exact hvet
    · exact hcover
  · exact fun h => ⟨⟨⟨h .build, h .lint⟩, h .vet⟩, h .cover⟩

/-- Settings with the other three checks switched off. -/
def only (s : Settings) (k : CheckKind) : Settings :=
  { s with
    buildOnSave := s.buildOnSave && k = .build
    lintOnSave := s.lintOnSave && k = .lint
    vetOnSave := s.vetOnSave && k = .vet
    coverOnSave := s.coverOnSave && k = .cover }

theorem enables_only (s : Settings) (j k : CheckKind) :
    (s.only k).enables j = (s.enables j && k = j) := by
  cases j <;> rfl

end Settings

namespace Checker

variable (c : Checker) (h : Host) (go : Path) (s : Settings) (file dir : Path)

/-- The work of a check. -/
def workOf : CheckKind → Work Checked
  | .build => c.buildWork h go s file dir
  | .lint => c.lintWork h s file dir
  | .vet => vetWork h go s file dir
  | .cover => Coverage.work h go c.profile s file dir

theorem works_eq : c.works h go s file dir =
    CheckKind.all.map fun k => whenEnabled (s.enables k) (c.workOf h go s file dir k) := rfl

/-! ### What a check finds and does -/

/-- The run that builds the package of a file with this content. -/
def sourceRun (content : Bytes) : ToolRun :=
  c.buildRun go s file dir (GoFile.isMain (Utf8.decodeLossy content))

/-- How the tests are launched, what profile they leave, and what profile there is without them. -/
structure TestFinding where
  launched : Except Fault Call
  left : Except Fault Text
  present : Except Fault Text
  deriving DecidableEq

def testFinding (d : Disk) : TestFinding where
  launched := h.launch d go (s.coverArgs c.profile) dir
  left := (h.ran d go (s.coverArgs c.profile) dir).readText h.cwd c.profile
  present := d.readText h.cwd c.profile

/-- What a check can find on a disk. -/
inductive Finding where
  | source (content : Except Fault (Bytes × Except Fault Call))
  | tool (run : ToolRun) (launched : Except Fault Call)
  | tests (asIs cleared : TestFinding)
  deriving DecidableEq

/-- What a check finds on a disk. The tests may run before the profile of an earlier run is gone or
after. -/
def finds (d : Disk) : CheckKind → Finding
  | .build => .source ((d.read h.cwd file).map fun content =>
      (content, (c.sourceRun go s file dir content).launch h d))
  | .lint => .tool (c.lintRun h s file dir d) ((c.lintRun h s file dir d).launch h d)
  | .vet => .tool (vetRun go s file dir) ((vetRun go s file dir).launch h d)
  | .cover =>
    .tests (c.testFinding h go s dir d) (c.testFinding h go s dir (d.remove h.cwd c.profile))

/-- A step of a check on one disk leaves the other. -/
def Does (d d' : Disk) : CheckKind → Prop
  | .build => ∃ content, d.read h.cwd file = .ok content ∧
      d' = (c.sourceRun go s file dir content).ran h d
  | .lint => d' = (c.lintRun h s file dir d).ran h d
  | .vet => d' = (vetRun go s file dir).ran h d
  | .cover => d' = d.remove h.cwd c.profile ∨ d' = h.ran d go (s.coverArgs c.profile) dir

/-- The disks that the enabled checks can bring about. -/
inductive Reached (d : Disk) : Disk → Prop where
  | start : Reached d d
  | step {k : CheckKind} {d₁ d₂ : Disk} :
      Reached d d₁ → s.enables k → c.Does h go s file dir d₁ d₂ k → Reached d d₂

/-- No enabled check does what changes the findings of another one: each of them depends on the tools, the
arguments and the directory alone. -/
def Independent (d : Disk) : Prop :=
  ∀ j k, s.enables j → s.enables k → j ≠ k → ∀ d₁ d₂, c.Reached h go s file dir d d₁ →
    c.Does h go s file dir d₁ d₂ j → c.finds h go s file dir d₂ k = c.finds h go s file dir d₁ k

section

variable {c h go s file dir} {d d₁ : Disk}

theorem does_still (hstill : ∀ call, (h.outcome call).writes = [])
    (hgone : s.enables .cover → d.remove h.cwd c.profile = d) {k : CheckKind} (hk : s.enables k)
    (hdoes : c.Does h go s file dir d d₁ k) : d₁ = d := by
  cases k with
  | build =>
    obtain ⟨content, -, rfl⟩ := hdoes
    exact h.ran_of_still hstill ..
  | lint => exact hdoes.trans (h.ran_of_still hstill ..)
  | vet => exact hdoes.trans (h.ran_of_still hstill ..)
  | cover =>
    rcases hdoes with rfl | rfl
    · exact hgone hk
    · exact h.ran_of_still hstill ..

/-- The checks are independent where none of those that are enabled changes the disk. -/
theorem independent_of_unchanged (hstill : ∀ k d₁, s.enables k → c.Does h go s file dir d d₁ k → d₁ = d) :
    c.Independent h go s file dir d := by
  have hreached : ∀ {d₁}, c.Reached h go s file dir d d₁ → d₁ = d := by
    intro d₁ hd
    induction hd with
    | start => rfl
    | step _ hk hdoes ih =>
      subst ih
      exact hstill _ _ hk hdoes
  intro j k hj _ _ d₁ d₂ hd hdoes
  obtain rfl := hreached hd
  rw [hstill _ _ hj hdoes]

/-- So they are where the tools leave the disk as it is and no profile is there to remove. -/
theorem independent_of_still (hstill : ∀ call, (h.outcome call).writes = [])
    (hgone : s.enables .cover → d.remove h.cwd c.profile = d) : c.Independent h go s file dir d :=
  independent_of_unchanged fun _ _ => does_still hstill hgone

end

/-- A check relies on its findings, and does what it does. -/
def contract (d : Disk) (k : CheckKind) : Work.Contract where
  rely d₁ d₂ := c.Reached h go s file dir d d₂ ∧
    (s.enables k → c.finds h go s file dir d₂ k = c.finds h go s file dir d₁ k)
  grant d₁ d₂ := c.Reached h go s file dir d d₁ ∧
    (d₂ = d₁ ∨ s.enables k ∧ c.Does h go s file dir d₁ d₂ k)
  trans h₁ h₂ := ⟨h₂.1, fun hk => (h₂.2 hk).trans (h₁.2 hk)⟩
  stay h₁ := ⟨h₁.1, fun _ => rfl⟩
  keep := by
    rintro d₁ d₂ ⟨hd, rfl | ⟨hk, hdoes⟩⟩
    · exact ⟨hd, fun _ => rfl⟩
    · exact ⟨.step hd hk hdoes, fun _ => rfl⟩
  idle h₁ := ⟨h₁.1, .inl rfl⟩

/-! ### Each check settles -/

variable {c h go s file dir} {d d₁ : Disk}

theorem map_pair_eq {ε α β : Type} {x y : Except ε α} {f g : α → β}
    (hxy : x.map (fun a => (a, f a)) = y.map fun a => (a, g a)) : x = y ∧ ∀ a, y = .ok a → f a = g a := by
  cases x <;> cases y <;> simp only [Except.map, Except.ok.injEq, Except.error.injEq, Prod.mk.injEq,
    reduceCtorEq] at hxy
  · simp [hxy]
  · obtain ⟨rfl, hfg⟩ := hxy
    simpa using hfg

theorem build_settling (hk : s.enables .build) :
    Work.Settling (c.contract h go s file dir d .build) (c.buildWork h go s file dir) d₁ := by
  have hfind : ∀ d₂, (c.contract h go s file dir d .build).rely d₁ d₂ →
      d₂.read h.cwd file = d₁.read h.cwd file ∧ ∀ content, d₁.read h.cwd file = .ok content →
        (c.sourceRun go s file dir content).launch h d₂ =
          (c.sourceRun go s file dir content).launch h d₁ :=
    fun d₂ hrely => map_pair_eq (Finding.source.inj (hrely.2 hk))
  refine .look (fun scene hs => by rw [(hfind scene.disk hs).1]) ?_
  cases hread : d₁.read h.cwd file with
  | error fault => exact .done _
  | ok content =>
    refine (Work.Settling.tool h (fun _ => c.sourceRun go s file dir content) (fun _ _ => rfl) ?_ ?_).map _
    · exact fun d₂ hrely => (hfind d₂ hrely).2 content hread
    · exact fun d₂ hrely => ⟨hrely.1, .inr ⟨hk, content, (hfind d₂ hrely).1.trans hread, rfl⟩⟩

theorem lint_settling (hk : s.enables .lint) :
    Work.Settling (c.contract h go s file dir d .lint) (c.lintWork h s file dir) d₁ := by
  have hfind : ∀ d₂, (c.contract h go s file dir d .lint).rely d₁ d₂ →
      c.lintRun h s file dir d₂ = c.lintRun h s file dir d₁ ∧
        (c.lintRun h s file dir d₂).launch h d₂ = (c.lintRun h s file dir d₁).launch h d₁ :=
    fun d₂ hrely => Finding.tool.inj (hrely.2 hk)
  refine (Work.Settling.tool h (c.lintRun h s file dir) (fun d₂ hrely => (hfind d₂ hrely).1) ?_ ?_).map _
  · intro d₂ hrely
    rw [← (hfind d₂ hrely).2, (hfind d₂ hrely).1]
  · intro d₂ hrely
    exact ⟨hrely.1, .inr ⟨hk, by rw [Does, (hfind d₂ hrely).1]⟩⟩

theorem vet_settling (hk : s.enables .vet) :
    Work.Settling (c.contract h go s file dir d .vet) (vetWork h go s file dir) d₁ := by
  refine (Work.Settling.tool h (fun _ => vetRun go s file dir) (fun _ _ => rfl) ?_ ?_).map _
  · exact fun d₂ hrely => (Finding.tool.inj (hrely.2 hk)).2
  · exact fun d₂ hrely => ⟨hrely.1, .inr ⟨hk, rfl⟩⟩

theorem reading_settling (hk : s.enables .cover) (text : Except Fault Text) :
    ∃ a ns, ∀ d₁, d₁.readText h.cwd c.profile = text →
      Work.Settles (c.contract h go s file dir d .cover) (Coverage.reading h c.profile file dir) d₁ a
        ns [] := by
  obtain ⟨a, ns, hafter⟩ : ∃ a ns, ∀ d₁, Work.Settles (c.contract h go s file dir d .cover)
      (Coverage.afterReading file dir text) d₁ a ns [] := by
    cases text with
    | error fault => exact ⟨_, _, fun _ => .write _⟩
    | ok text =>
      rw [Coverage.afterReading]
      cases Coverage.Profile.parse text with
      | error e => exact ⟨_, _, fun _ => .done⟩
      | ok p => exact ⟨_, _, fun _ => .write _⟩
  refine ⟨a, [] ++ ns, fun d₁ hd => ?_⟩
  rw [Coverage.reading_eq]
  refine .quiet [] (fun _ => rfl) (fun _ => by simp) (fun _ => rfl) fun scene hs => ?_
  have hpresent := congrArg TestFinding.present (Finding.tests.inj (hs.2 hk)).1
  rw [show scene.disk.readText h.cwd c.profile = text from hpresent.trans hd]
  exact hafter scene.disk

theorem tests_settling (hk : s.enables .cover) (found : TestFinding) :
    ∃ a ns cs, ∀ d₁, c.testFinding h go s dir d₁ = found →
      Work.Settles (c.contract h go s file dir d .cover) (Coverage.testing h go c.profile s file dir) d₁ a
        ns cs := by
  obtain ⟨a, ns, hafter⟩ : ∃ a ns, ∀ d₁, d₁.readText h.cwd c.profile = found.left →
      Work.Settles (c.contract h go s file dir d .cover)
        (Coverage.afterLaunch h c.profile file dir found.launched) d₁ a ns [] := by
    cases found.launched with
    | ok call =>
      obtain ⟨a, ns, hread⟩ := reading_settling hk found.left
      refine ⟨a, [] ++ ns, fun d₁ hd => ?_⟩
      refine .quiet [] (fun _ => rfl) (fun _ => by simp [Scene.write]) (fun _ => rfl) fun scene hs => ?_
      have hpresent := congrArg TestFinding.present (Finding.tests.inj (hs.2 hk)).1
      exact hread scene.disk (hpresent.trans hd)
    | error fault =>
      cases fault with
      | missing => exact ⟨_, _, fun _ _ => .tell _⟩
      | _ => exact ⟨_, _, fun _ _ => .done⟩
  refine ⟨a, ns, found.launched.toOption.toList ++ [], fun d₁ hd => ?_⟩
  subst hd
  have hfind : ∀ {d₂}, (c.contract h go s file dir d .cover).rely d₁ d₂ →
      c.testFinding h go s dir d₂ = c.testFinding h go s dir d₁ :=
    fun hrely => (Finding.tests.inj (hrely.2 hk)).1
  refine .launch (fun _ _ => rfl) (fun d₂ hrely => congrArg TestFinding.launched (hfind hrely))
    (fun d₂ hrely => ⟨hrely.1, .inr ⟨hk, .inr rfl⟩⟩) fun scene hs => ?_
  have hscene := hfind hs
  rw [show h.launch scene.disk go (s.coverArgs c.profile) dir = _ from
    congrArg TestFinding.launched hscene]
  exact hafter _ (congrArg TestFinding.left hscene)

theorem cover_settling (hk : s.enables .cover) :
    Work.Settling (c.contract h go s file dir d .cover) (Coverage.work h go c.profile s file dir)
      d₁ := by
  obtain ⟨a, ns, cs, htests⟩ : ∃ a ns cs, ∀ d₂, c.testFinding h go s dir d₂ =
      c.testFinding h go s dir (d₁.remove h.cwd c.profile) →
        Work.Settles (c.contract h go s file dir d .cover) (Coverage.testing h go c.profile s file dir)
          d₂ a ns cs := tests_settling hk _
  refine ⟨a, [] ++ ns, [] ++ cs, ?_⟩
  rw [Coverage.work_eq]
  refine .step [] [] (fun scene hs => ⟨hs.1, .inr ⟨hk, .inl rfl⟩⟩) (fun _ _ => by simp [Scene.remove])
    (fun _ _ => by simp [Scene.remove]) fun scene hs => htests _ ?_
  exact (Finding.tests.inj (hs.2 hk)).2

theorem workOf_settling {k : CheckKind} (hk : s.enables k) :
    Work.Settling (c.contract h go s file dir d k) (c.workOf h go s file dir k) d₁ := by
  cases k with
  | build => exact build_settling hk
  | lint => exact lint_settling hk
  | vet => exact vet_settling hk
  | cover => exact cover_settling hk

end Checker

end SaveCheck
