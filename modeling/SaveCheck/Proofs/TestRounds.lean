import SaveCheck.Proofs.Accounts
import SaveCheck.Proofs.Writes

/-!
Rounds of the tests that share the place of their profile, and what each of them reports.

    leftover ── remove ──▶ base ── the tests ──▶ their own profile ──▶ report
       ▲                                               │
       └──────────────── the next round ◀──────────────┘

Whatever stood in that place before a round, its report is told by how its own tests were launched and by the profile
that they themselves wrote.
-/

namespace SaveCheck.Coverage

/-- One round: the tests for a saved file, with what the programs do this time. -/
structure Round where
  programs : Place → List Text → Place → Outcome
  go : Path
  settings : Settings
  file : Path

/-- What a round reports. -/
structure Report where
  result : Checked
  lines : List Text
  notices : List Notice
  deriving DecidableEq

/-! ### Reports by what the tests left -/

/-- What is told of the profile that the tests left, if they left any. -/
def toldOf (file dir : Path) : Option Bytes → Checked × List Text
  | none => (.ok [], [absentLine dir])
  | some content =>
    match Utf8.decode? content with
    | none => (.ok [], [absentLine dir])
    | some text =>
      match Profile.parse text with
      | .error e => (.error (.badProfile e), [])
      | .ok p => (.ok [], summary file p)

/-- The report of a round by the launch of its tests and the profile that they left. -/
def reportOf (h : Host) (file dir : Path) (left : Option Bytes) : Except Fault Call → Report
  | .ok call => ⟨(toldOf file dir left).1, failureLines (h.outcome call) ++ (toldOf file dir left).2, []⟩
  | .error .missing => ⟨.ok [], [], [.goNotFound]⟩
  | .error fault => ⟨.error (.coverageNotRun dir fault), [], []⟩

/-- The profile that some tests wrote themselves, when they were launched on a disk: what they wrote last to the place
where the profile is read. -/
def own (h : Host) (profile : Path) (d : Disk) (call : Call) : Option Bytes :=
  match (h.after d call).find h.cwd profile with
  | .ok place => Disk.leftAt call.dir place d (h.outcome call).writes
  | .error _ => none

theorem write_nil (s : Scene) : s.write [] = s := by simp [Scene.write, Journal.appendAll]

theorem write_write (s : Scene) (ls ms : List Text) : (s.write ls).write ms = s.write (ls ++ ms) := by
  simp [Scene.write, Journal.appendAll]

/-- What is told once a file was looked for, by the bytes that it holds if it is there. -/
theorem run_afterReading (file dir : Path) (d : Disk) (cwd : Place) (p : Path) (s : Scene) :
    (afterReading file dir (d.readText cwd p)).run s =
      ((toldOf file dir (d.read cwd p).toOption).1, s.write (toldOf file dir (d.read cwd p).toOption).2) := by
  rw [Disk.readText]
  rcases d.read cwd p with fault | content
  · rfl
  · simp only [Bind.bind, Except.bind, Except.toOption, toldOf]
    cases Utf8.decode? content with
    | none => rfl
    | some text =>
      simp only [Pure.pure, Except.pure, afterReading]
      cases Profile.parse text with
      | error e => simp [Work.run, write_nil]
      | ok p => rfl

/-- What is told once the launch of the tests was tried, by the file that is there then. -/
theorem run_afterLaunch (h : Host) (profile file dir : Path) (launched : Except Fault Call) (s : Scene) :
    let report := reportOf h file dir (s.disk.read h.cwd profile).toOption launched
    (afterLaunch h profile file dir launched).run s =
      (report.result, { s.write report.lines with notices := s.notices ++ report.notices }) := by
  cases launched with
  | ok call =>
    rw [afterLaunch, reading_eq]
    refine (run_afterReading file dir s.disk h.cwd profile (s.write (failureLines (h.outcome call)))).trans ?_
    simp only [write_write, reportOf, List.append_nil]
    rfl
  | error fault => cases fault <;> simp [afterLaunch, reportOf, Work.act, Work.run, write_nil, Scene.tell]

/-- Where no profile was before, the tests leave the one that they wrote themselves. -/
theorem read_after {h : Host} {profile : Path} {d : Disk} (hclean : d.isFile h.cwd profile = false) (call : Call) :
    ((h.after d call).read h.cwd profile).toOption = own h profile d call := by
  have hafter : h.after d call = d.writeAll call.dir (h.outcome call).writes := rfl
  rw [own, Disk.read, Disk.lookup]
  cases hfind : (h.after d call).find h.cwd profile with
  | error fault => rfl
  | ok place =>
    obtain ⟨executable, hnode⟩ := Disk.node?_writeAll call.dir place (h.outcome call).writes d
    rw [← hafter] at hnode
    simp only [Bind.bind, Except.bind]
    cases hleft : Disk.leftAt call.dir place d (h.outcome call).writes with
    | some content =>
      rw [hleft] at hnode
      simp [hnode, Pure.pure, Except.pure, Except.toOption]
    | none =>
      rw [hleft] at hnode
      -- a file that the tests did not write would have been there before
      rcases hthere : d.node? place with _ | _ | ⟨content, runs⟩
      · simp [hnode, hthere, Except.toOption]
      · simp [hnode, hthere, Pure.pure, Except.pure, Except.toOption]
      · have hbefore : d.find h.cwd profile = .ok place :=
          Disk.find_of_directories (fun q hq => Disk.directory_of_writeAll (hafter ▸ hq)) (by simp [hthere]) hfind
        have hfile := Disk.isFile_eq_true_iff.mpr ⟨place, content, runs, hbefore, hthere⟩
        rw [hclean] at hfile
        cases hfile

/-- The tests report by how they are launched where no profile is, and by the profile that they leave there. -/
theorem run_work (h : Host) (go profile : Path) (settings : Settings) (file dir : Path) (s : Scene) :
    let cleared := s.disk.remove h.cwd profile
    let launched := h.launch cleared go (settings.coverArgs profile) dir
    let report := reportOf h file dir (launched.toOption.bind (own h profile cleared)) launched
    let scene := (s.remove h profile).launch h go (settings.coverArgs profile) dir
    (work h go profile settings file dir).run s =
      (report.result, { scene.write report.lines with notices := scene.notices ++ report.notices }) := by
  intro cleared launched report scene
  have hclean : cleared.isFile h.cwd profile = false := Disk.isFile_remove s.disk h.cwd profile
  have hreport : reportOf h file dir (scene.disk.read h.cwd profile).toOption launched = report := by
    cases hlaunched : launched with
    | error fault => cases fault <;> simp [report, hlaunched, reportOf]
    | ok call =>
      have hran : h.ran cleared go (settings.coverArgs profile) dir = h.after cleared call := by
        rw [Host.ran, show h.launch cleared go (settings.coverArgs profile) dir = .ok call from hlaunched]
      have hdisk : scene.disk = h.after cleared call := (Scene.launch_disk ..).trans hran
      rw [hdisk, read_after hclean]
      simp [report, hlaunched, Except.toOption]
  have hafter := run_afterLaunch h profile file dir launched scene
  rw [hreport] at hafter
  exact hafter

/-! ### Rounds -/

namespace Round

variable (h : Host) (profile : Path) (r : Round)

/-- The machine of a round. -/
def host : Host := h.withPrograms r.programs

/-- The launch of the tests of a round in a directory. -/
def launched (d : Disk) (dir : Path) : Except Fault Call :=
  (r.host h).launch d r.go (r.settings.coverArgs profile) dir

/-- The work of a round. There are no tests for a file that lies in no directory. -/
def work : Work Checked :=
  match Path.parent? r.file with
  | none => .done (.ok [])
  | some dir => Coverage.work (r.host h) r.go profile r.settings r.file dir

/-- What a round reports on a disk, and the disk that it leaves. -/
def run (d : Disk) : Report × Disk :=
  let done := (r.work h profile).run { disk := d }
  (⟨done.1, done.2.lines, done.2.notices⟩, done.2.disk)

end Round

/-- What rounds report one after the other, and the disk that they leave. -/
def runAll (h : Host) (profile : Path) : List Round → Disk → List Report × Disk
  | [], d => ([], d)
  | r :: rs, d =>
    let first := r.run h profile d
    let others := runAll h profile rs first.2
    (first.1 :: others.1, others.2)

section

variable {h : Host} {profile : Path} {r : Round}

theorem Round.run_of_no_directory (hdir : Path.parent? r.file = none) (d : Disk) :
    r.run h profile d = (⟨.ok [], [], []⟩, d) := by
  rw [run, work, hdir]
  rfl

/-- A round reports by how its tests are launched where no profile is, and by the profile that they leave there. -/
theorem Round.run_eq {dir : Path} (hdir : Path.parent? r.file = some dir) (d : Disk) :
    let cleared := d.remove h.cwd profile
    let launched := r.launched h profile cleared dir
    r.run h profile d =
      (reportOf (r.host h) r.file dir (launched.toOption.bind (own (r.host h) profile cleared)) launched,
        (r.host h).ran cleared r.go (r.settings.coverArgs profile) dir) := by
  intro cleared launched
  have hwork : r.work h profile = Coverage.work (r.host h) r.go profile r.settings r.file dir := by rw [work, hdir]
  rw [run, hwork, run_work]
  refine Prod.ext ?_ (Scene.launch_disk ..)
  change Report.mk _ (Scene.lines (Scene.launch ..) ++ _) ((Scene.launch ..).notices ++ _) = _
  rw [Scene.launch_lines, Scene.launch_notices]
  rfl

/-- The disk of a round is told by the disk without the profile. -/
theorem Round.run_congr {d d' : Disk} (h' : d.remove h.cwd profile = d'.remove h.cwd profile) :
    (r.run h profile d).1 = (r.run h profile d').1 ∧
      (r.run h profile d).2.remove h.cwd profile = (r.run h profile d').2.remove h.cwd profile := by
  cases hdir : Path.parent? r.file with
  | none =>
    rw [run_of_no_directory hdir, run_of_no_directory hdir]
    exact ⟨rfl, h'⟩
  | some dir =>
    rw [run_eq hdir, run_eq hdir, h']
    exact ⟨rfl, rfl⟩

theorem runAll_congr (rs : List Round) {d d' : Disk} (h' : d.remove h.cwd profile = d'.remove h.cwd profile) :
    (runAll h profile rs d).1 = (runAll h profile rs d').1 := by
  induction rs generalizing d d' with
  | nil => rfl
  | cons r rs ih =>
    obtain ⟨hreport, hdisk⟩ := Round.run_congr (r := r) h'
    simp only [runAll, hreport, ih hdisk]

/-! ### Leftovers -/

/-- A disk that differs from one without a profile by a file in the place of the profile at most. -/
structure Leftover (h : Host) (profile : Path) (base d : Disk) : Prop where
  clean : base.isFile h.cwd profile = false
  differs : d = base ∨ ∃ place content executable, base.node? place = none ∧
    d = base.set place (some (.file content executable)) ∧ d.find h.cwd profile = .ok place

/-- The tests of a round leave nothing but a profile, if anything. -/
def Round.Tidy (h : Host) (profile : Path) (base : Disk) (r : Round) : Prop :=
  ∀ dir call, Path.parent? r.file = some dir → r.launched h profile base dir = .ok call →
    Leftover h profile base ((r.host h).after base call)

variable {base d d' : Disk}

theorem Leftover.same (hd : Leftover h profile base d) : Leftover h profile base base := ⟨hd.clean, .inl rfl⟩

/-- Without the profile every such disk is the same. -/
theorem Leftover.remove_eq (hd : Leftover h profile base d) : d.remove h.cwd profile = base := by
  rcases hd.differs with rfl | ⟨place, content, executable, hnone, rfl, hfind⟩
  · exact Disk.remove_of_not_isFile hd.clean
  · rw [Disk.remove_of_find hfind (Disk.node?_set_self ..), Disk.set_set, Disk.set_eq_self hnone]

/-- A round whose tests leave nothing but a profile leaves such a disk again. -/
theorem Leftover.run {r : Round} (hd : Leftover h profile base d) (hr : r.Tidy h profile base) :
    Leftover h profile base (r.run h profile d).2 := by
  cases hdir : Path.parent? r.file with
  | none =>
    rw [Round.run_of_no_directory hdir]
    exact hd
  | some dir =>
    rw [Round.run_eq hdir, hd.remove_eq, Host.ran]
    cases hlaunched : (r.host h).launch base r.go (r.settings.coverArgs profile) dir with
    | error fault => exact hd.same
    | ok call => exact hr dir call hdir hlaunched

/-- Rounds whose tests leave nothing but profiles report what each of them reports alone. -/
theorem Leftover.runAll_eq (rs : List Round) (hd : Leftover h profile base d) (hrs : ∀ r ∈ rs, r.Tidy h profile base) :
    (runAll h profile rs d).1 = rs.map fun r => (r.run h profile base).1 := by
  induction rs generalizing d with
  | nil => rfl
  | cons r rs ih =>
    rw [List.forall_mem_cons] at hrs
    have halone : (r.run h profile d).1 = (r.run h profile base).1 :=
      (Round.run_congr (hd.remove_eq.trans hd.same.remove_eq.symm)).1
    rw [runAll, List.map_cons, halone, ih (hd.run hrs.1) hrs.2]

end

/-- What a round reports is told by how its own tests are launched, where no profile is, and by the profile that they
themselves wrote, if any. Rounds report the same on any two disks that differ by what file is in the place of the
profile, whatever has left it there. So where no tests leave anything else, each round of a sequence reports what it
reports alone and first. -/
theorem reports_of_own (h : Host) (profile : Path) :
    (∀ (r : Round) (d : Disk) (dir : Path), Path.parent? r.file = some dir →
      let cleared := d.remove h.cwd profile
      let launched := r.launched h profile cleared dir
      (r.run h profile d).1 =
          reportOf (r.host h) r.file dir (launched.toOption.bind (own (r.host h) profile cleared)) launched ∧
        ∀ call content, own (r.host h) profile cleared call = some content →
          ∃ p, (p, content) ∈ ((r.host h).outcome call).writes) ∧
    (∀ base d d', Leftover h profile base d → Leftover h profile base d' →
      ∀ rs, (runAll h profile rs d).1 = (runAll h profile rs d').1) ∧
    ∀ base d rs, Leftover h profile base d → (∀ r ∈ rs, r.Tidy h profile base) →
      (runAll h profile rs d).1 = rs.map fun r => (r.run h profile base).1 := by
  refine ⟨fun r d dir hdir => ?_, fun base d d' hd hd' rs => ?_, fun base d rs hd hrs => hd.runAll_eq rs hrs⟩
  · refine ⟨by rw [Round.run_eq hdir], fun call content hown => ?_⟩
    rw [own] at hown
    split at hown
    · exact Disk.mem_of_leftAt hown
    · cases hown
  · exact runAll_congr rs (hd.remove_eq.trans hd'.remove_eq.symm)

/-! ### In the workshop -/

/-- A round in the workshop whose tests come to something. -/
def roundOf (o : Outcome) : Round := ⟨fun _ _ _ => o, "/b/go".toList, {}, "/p/a.go".toList⟩

/-- Tests that fail before they write a profile. -/
def failing : Outcome := { out := Utf8.encode "FAIL\n".toList, success := false }

/-- Tests that write a profile. -/
def writing (content : String) : Outcome := { writes := [("/t/cover".toList, Utf8.encode content.toList)] }

/-- The disk of the workshop with a profile that was left there. -/
def staleDisk : Disk := Checker.workshopDisk.set ["t".toList, "cover".toList]
  (some (.file (Utf8.encode "mode: set\np/a.go:1.1,2.2 1 1\n".toList) false))

/-- In the workshop the failing tests do not report the profile that was left there, and no later tests report an
earlier profile. -/
theorem reports_of_own_workshop :
    Leftover Checker.workshop "/t/cover".toList Checker.workshopDisk staleDisk ∧
    (runAll Checker.workshop "/t/cover".toList
      [roundOf failing, roundOf (writing "mode: set\np/a.go:1.1,2.2 2 1\np/a.go:3.1,4.2 1 0\n"),
        roundOf (writing "p/a.go"), roundOf failing] staleDisk).1 =
      [⟨.ok [], ["FAIL".toList, "No coverage profile was written for /p".toList], []⟩,
        ⟨.ok [], ["/p/a.go: 66.7% of statements (2/3)".toList, "/p/a.go:3.1,4.2 not covered".toList], []⟩,
        ⟨.error (.badProfile .noMode), [], []⟩,
        ⟨.ok [], ["FAIL".toList, "No coverage profile was written for /p".toList], []⟩] := by
  have hclean : Checker.workshopDisk.isFile Checker.workshop.cwd "/t/cover".toList = false := by decide +kernel
  have hfile : ∀ content, Leftover Checker.workshop "/t/cover".toList Checker.workshopDisk
      (Checker.workshopDisk.set ["t".toList, "cover".toList] (some (.file content false))) :=
    fun content => ⟨hclean, .inr ⟨["t".toList, "cover".toList], content, false, rfl, rfl, rfl⟩⟩
  have hfailing : (roundOf failing).Tidy Checker.workshop "/t/cover".toList Checker.workshopDisk :=
    fun _ _ _ _ => ⟨hclean, .inl rfl⟩
  have hwriting : ∀ content,
      (roundOf (writing content)).Tidy Checker.workshop "/t/cover".toList Checker.workshopDisk := by
    intro content dir call hdir hcall
    obtain rfl := Option.some.inj ((rfl : Path.parent? "/p/a.go".toList = some "/p".toList).symm.trans hdir)
    obtain rfl := Except.ok.inj hcall
    exact hfile _
  refine ⟨hfile _, ((reports_of_own Checker.workshop "/t/cover".toList).2.2 Checker.workshopDisk staleDisk _ (hfile _)
    ?_).trans (by decide +kernel)⟩
  exact List.forall_mem_cons.mpr ⟨hfailing, List.forall_mem_cons.mpr ⟨hwriting _,
    List.forall_mem_cons.mpr ⟨hwriting _, List.forall_mem_singleton.mpr hfailing⟩⟩⟩

end SaveCheck.Coverage
