import SaveCheck.Proofs.Launching
import SaveCheck.Proofs.Rooted
import SaveCheck.Proofs.SingleRuns

/-!
What the user is told is missing.

    found from the root     /b/go       launched from the file's directory     never missing
    found from elsewhere    bin/go      looked for in the file's directory     missing, as a rule
    not found               golint      looked for in PATH                     missing, as a rule

A tool is found as seen from where the process stands, and launched where the file lies. So what was found may
be missing all the same, and what was not found may be there, unless every directory that is searched is given
from the root.
-/

namespace SaveCheck

namespace Work

variable {α ε ι : Type}

/-- Works that leave the disk as it is tell all that each of them tells, if none but the last can fail. -/
theorem notices_runAll {work : ι → Work (Except ε (List α))} {tells : ι → List Notice} {d : Disk} (last : ι)
    (hlast : ∀ s : Scene, s.disk = d → ∃ a, (work last).Ends s a d (tells last)) : ∀ ks : List ι,
    (∀ k ∈ ks, ∀ s : Scene, s.disk = d → ∃ as, (work k).Ends s (.ok as) d (tells k)) → ∀ s : Scene, s.disk = d →
      (runAll ((ks ++ [last]).map work) s).2.notices = s.notices ++ (ks ++ [last]).flatMap tells
  | [], _, s, hs => by
    obtain ⟨a, ha⟩ := hlast s hs
    have hn := ha.notices
    rcases hrun : (work last).run s with ⟨_ | as, s'⟩ <;> simp_all [runAll]
  | k :: ks, hks, s, hs => by
    obtain ⟨as, hk⟩ := hks k List.mem_cons_self s hs
    have hrest := notices_runAll last hlast ks (fun j hj => hks j (List.mem_cons_of_mem _ hj))
      ((work k).run s).2 hk.disk
    rw [hk.notices] at hrest
    have hok := hk.result
    -- a failure would end the run here, and none but the last work may fail
    rcases hrun : (work k).run s with ⟨_ | as', s'⟩
    · rw [hrun] at hok
      cases hok
    · rw [hrun] at hrest
      simp only [List.cons_append, List.map_cons, runAll, hrun, List.flatMap_cons]
      rw [hrest, List.append_assoc]

/-- On a disk the first step of a work changes nothing, and leaves the same work to do. -/
def Opens (w : Work α) (d : Disk) (w' : Work α) : Prop :=
  ∀ s : Scene, s.disk = d → w.advance s = (w', s)

theorem Opens.run {w w' : Work α} {d : Disk} (hopens : w.Opens d w') {s : Scene} (hs : s.disk = d) :
    w'.run s = w.run s := by
  have hrun := w.run_advance s
  rwa [hopens s hs] at hrun

theorem opens_done (a : α) (d : Disk) : (done a).Opens d (done a) := fun _ _ => rfl

end Work

/-! ### What each check tells -/

/-- What is said when the linter is missing. -/
def Settings.missingLinter (s : Settings) : Notice :=
  if s.linter = defaultLinter then .install s.linter
  else .info ("No \"".toList ++ s.linter ++ "\" could be found. Install ".toList ++ s.linter
    ++ " to use this option.".toList)

theorem Settings.missingLinter_ne (s : Settings) : s.missingLinter ≠ .goNotFound := by
  rw [missingLinter]
  split
  · simp [Notice.goNotFound]
  · simp [Notice.goNotFound]

namespace Checker

variable {c : Checker} {h : Host} {s : Settings} {go p dir : Path} {content : Bytes} {d : Disk}

theorem lintRun_missing : (c.lintRun h s p dir d).missing = s.missingLinter := by
  rw [lintRun, Settings.missingLinter]
  split <;> rfl

/-- What a check says when its tool is missing. -/
def missingOf (s : Settings) : CheckKind → Notice
  | .lint => s.missingLinter
  | _ => .goNotFound

theorem goNotFound_eq_missingOf_iff {k : CheckKind} : Notice.goNotFound = missingOf s k ↔ k ≠ .lint := by
  cases k <;> simp [missingOf, s.missingLinter_ne.symm]

theorem missingLinter_eq_missingOf_iff {k : CheckKind} : s.missingLinter = missingOf s k ↔ k = .lint := by
  cases k <;> simp [missingOf, s.missingLinter_ne]

/-- What becomes of the launch that a check makes for a file with this content. -/
def launchOf (c : Checker) (h : Host) (go : Path) (s : Settings) (p dir : Path) (content : Bytes) (d : Disk) :
    CheckKind → Except Fault Call
  | .build => (c.sourceRun go s p dir content).launch h d
  | .lint => (c.lintRun h s p dir d).launch h d
  | .vet => (vetRun go s p dir).launch h d
  | .cover => h.launch d go (s.coverArgs c.profile) dir

/-- What a check tells on a machine that stays as it is. -/
def tells (c : Checker) (h : Host) (go : Path) (s : Settings) (p dir : Path) (content : Bytes) (d : Disk)
    (k : CheckKind) : List Notice :=
  if s.enables k then (missingOf s k).ifMissing (c.launchOf h go s p dir content d k) else []

/-- Nothing writes to the disk, and no profile is there to remove. -/
structure Still (c : Checker) (h : Host) (s : Settings) (d : Disk) : Prop where
  writes : ∀ call, (h.outcome call).writes = []
  gone : s.coverOnSave → d.remove h.cwd c.profile = d

theorem Still.independent (hstill : c.Still h s d) : c.Independent h go s p dir d :=
  independent_of_still hstill.writes hstill.gone

theorem tool_ends (hstill : ∀ call, (h.outcome call).writes = []) (run : Disk → ToolRun) (scene : Scene) :
    ∃ ds, ((ToolRun.work h run).map .ok : Work Checked).Ends scene (.ok ds) scene.disk
      ((run scene.disk).missing.ifMissing ((run scene.disk).launch h scene.disk)) := by
  have htool := ToolRun.ends_work h run scene
  rw [ToolRun.ran, h.ran_of_still hstill] at htool
  exact ⟨_, htool.map Except.ok⟩

/-- On a machine that stays as it is a check leaves the disk and tells whether its tool is missing. None but the
last can fail. -/
theorem workOf_ends (hstill : c.Still h s d) (hread : d.read h.cwd p = .ok content) {k : CheckKind}
    (hk : s.enables k) {scene : Scene} (hscene : scene.disk = d) :
    ∃ a, (c.workOf h go s p dir k).Ends scene a d
        ((missingOf s k).ifMissing (c.launchOf h go s p dir content d k)) ∧
      (k ≠ .cover → ∃ ds, a = .ok ds) := by
  subst hscene
  cases k with
  | build =>
    obtain ⟨ds, hends⟩ := tool_ends hstill.writes (fun _ => c.sourceRun go s p dir content) scene
    refine ⟨_, Work.ends_step rfl ?_, fun _ => ⟨ds, rfl⟩⟩
    simp only [id_eq, hread]
    exact hends
  | lint =>
    obtain ⟨ds, hends⟩ := tool_ends hstill.writes (c.lintRun h s p dir) scene
    rw [lintRun_missing] at hends
    exact ⟨_, hends, fun _ => ⟨ds, rfl⟩⟩
  | vet =>
    obtain ⟨ds, hends⟩ := tool_ends hstill.writes (fun _ => vetRun go s p dir) scene
    exact ⟨_, hends, fun _ => ⟨ds, rfl⟩⟩
  | cover =>
    have hends := Coverage.ends_work h go c.profile s p dir scene
    simp only [hstill.gone hk, h.ran_of_still hstill.writes] at hends
    exact ⟨_, hends, fun hne => absurd rfl hne⟩

/-- The build check only reads the source first. -/
theorem opens_build : ∃ w, (whenEnabled (s.enables .build) (c.workOf h go s p dir .build)).Opens d w := by
  cases s.enables .build with
  | false => exact ⟨_, Work.opens_done _ d⟩
  | true =>
    refine ⟨((c.workOf h go s p dir .build).advance { disk := d }).1, ?_⟩
    rintro scene rfl
    rfl

/-- The tests first remove a profile that is not there. -/
theorem opens_cover (hstill : c.Still h s d) :
    ∃ w, (whenEnabled (s.enables .cover) (c.workOf h go s p dir .cover)).Opens d w := by
  cases hk : s.enables .cover with
  | false => exact ⟨_, Work.opens_done _ d⟩
  | true =>
    refine ⟨((c.workOf h go s p dir .cover).advance { disk := d }).1, ?_⟩
    rintro scene rfl
    have hremove : scene.remove h c.profile = scene := by rw [Scene.remove, hstill.gone hk]
    exact congrArg (_, ·) hremove

/-- With these steps taken first the checks still come to the same. -/
theorem exists_opened (hstill : c.Still h s d) : ∃ opened : CheckKind → Work Checked,
    (∀ k (scene : Scene), scene.disk = d →
      (opened k).run scene = (whenEnabled (s.enables k) (c.workOf h go s p dir k)).run scene) ∧
    Work.runInTurns openingTurns (c.works h go s p dir) { disk := d } =
      Work.runAll (CheckKind.all.map opened) { disk := d } := by
  obtain ⟨build, hbuild⟩ : ∃ w, (whenEnabled (s.enables .build) (c.workOf h go s p dir .build)).Opens d w :=
    opens_build
  obtain ⟨cover, hcover⟩ : ∃ w, (whenEnabled (s.enables .cover) (c.workOf h go s p dir .cover)).Opens d w :=
    opens_cover hstill
  let opened : CheckKind → Work Checked
    | .build => build
    | .cover => cover
    | k => whenEnabled (s.enables k) (c.workOf h go s p dir k)
  refine ⟨opened, fun k scene hscene => ?_, ?_⟩
  · cases k with
    | build => exact hbuild.run hscene
    | lint | vet => rfl
    | cover => exact hcover.run hscene
  · rw [works_eq]
    simp only [CheckKind.all, List.map_cons, List.map_nil, openingTurns, Work.runInTurns, Work.advanceAt]
    rw [hbuild _ rfl, hcover _ rfl]

/-- What a whole check tells there. -/
theorem notices_of_still (hstill : c.Still h s d) (hread : d.read h.cwd p = .ok content) :
    (Work.runInTurns openingTurns (c.works h go s p dir) { disk := d }).2.notices =
      CheckKind.all.flatMap (c.tells h go s p dir content d) := by
  obtain ⟨opened, hopened, hrun⟩ : ∃ opened : CheckKind → Work Checked, _ ∧
      Work.runInTurns openingTurns (c.works h go s p dir) { disk := d } = _ := exists_opened hstill
  have hends : ∀ k (scene : Scene), scene.disk = d → ∃ a,
      (opened k).Ends scene a d (c.tells h go s p dir content d k) ∧ (k ≠ .cover → ∃ ds, a = .ok ds) := by
    intro k scene hscene
    simp only [Work.ends_congr (hopened k scene hscene)]
    cases hk : s.enables k with
    | true =>
      simpa only [whenEnabled, tells, hk, if_true] using workOf_ends hstill hread hk hscene
    | false =>
      subst hscene
      simp only [whenEnabled, tells, hk, Bool.false_eq_true, if_false]
      exact ⟨_, Work.ends_done _ _, fun _ => ⟨[], rfl⟩⟩
  have hall : CheckKind.all = [.build, .lint, .vet] ++ [.cover] := rfl
  rw [hrun, hall]
  refine (Work.notices_runAll CheckKind.cover (fun scene hscene => ?_) [.build, .lint, .vet]
    (fun k hk scene hscene => ?_) { disk := d } rfl).trans (List.nil_append _)
  · obtain ⟨a, ha, -⟩ := hends .cover scene hscene
    exact ⟨a, ha⟩
  · obtain ⟨a, ha, hok⟩ := hends k scene hscene
    obtain ⟨ds, rfl⟩ := hok (by rintro rfl; simp at hk)
    exact ⟨ds, ha⟩

theorem mem_tells_iff {n : Notice} : n ∈ CheckKind.all.flatMap (c.tells h go s p dir content d) ↔
    ∃ k, s.enables k ∧ n = missingOf s k ∧ c.launchOf h go s p dir content d k = .error .missing := by
  simp only [List.mem_flatMap, CheckKind.mem_all, true_and]
  refine exists_congr fun k => ?_
  cases hk : s.enables k <;> simp [tells, hk, Notice.mem_ifMissing]

theorem launchOf_lint : c.launchOf h go s p dir content d .lint =
    h.launch d (c.toolchain.toolPath h d s.linter) (s.lintArgs p) dir := by
  simp only [launchOf, ToolRun.launch, lintRun]
  split <;> rfl

/-- Every other check launches Go. -/
theorem exists_launchOf {k : CheckKind} (hk : k ≠ .lint) :
    ∃ args, c.launchOf h go s p dir content d k = h.launch d go args dir := by
  cases k with
  | lint => exact absurd rfl hk
  | _ => exact ⟨_, rfl⟩

end Checker

/-! ### What was found, and what is launched -/

/-- The tools that a machine has for some settings. -/
def Host.tools (h : Host) (d : Disk) (s : Settings) : Toolchain := .detect h d s.goRoot s.goPath

/-- What a file is checked with once. -/
def Host.checker (h : Host) (d : Disk) (s : Settings) : Checker := .inTemp h.environment (h.tools d s)

/-- What the user is told when a file is checked once. -/
def Host.told (h : Host) (d : Disk) (s : Settings) (file : Path) : List Notice :=
  (Checker.checkOnce h s file d).2.notices

namespace Toolchain

variable {t : Toolchain} {h : Host} {d : Disk} {s : Settings}

theorem isFile_of_go {go : Path} (hgo : (h.tools d s).go = some go) : d.isFile h.cwd go = true := by
  simp only [Host.tools, detect, Option.or_eq_some_iff, Option.bind_eq_some_iff] at hgo
  rcases hgo with ⟨dir, -, hgo⟩ | ⟨-, hgo⟩
  · exact List.find?_some hgo
  · exact List.find?_some hgo

theorem isFile_of_findTool {name : Text} {tool : Path} (htool : t.findTool h d name = some tool) :
    d.isFile h.cwd tool = true := List.find?_some htool

theorem not_isFile_of_findTool {name : Text} (hnone : t.findTool h d name = none) {dir : Path}
    (hdir : dir ∈ t.toolDirs) : d.isFile h.cwd (Path.join dir name) = false := by
  have hall := List.find?_eq_none.mp hnone _ (List.mem_map.mpr ⟨dir, hdir, rfl⟩)
  simpa using hall

theorem isAbsolute_of_findTool {name : Text} {tool : Path} (htool : t.findTool h d name = some tool)
    (hroot : ∀ dir ∈ t.toolDirs, Path.isAbsolute dir = true) : Path.isAbsolute tool = true := by
  obtain ⟨dir, hdir, rfl⟩ := List.mem_map.mp (List.mem_of_find?_eq_some htool)
  exact Path.isAbsolute_join (hroot dir hdir) name

theorem searchDirs_subset : searchDirs h.environment ⊆ (h.tools d s).toolDirs :=
  List.subset_append_right ..

end Toolchain

theorem Settings.linter_ne_nil (s : Settings) : s.linter ≠ [] := by
  rw [linter]
  split
  · decide
  · decide
  · next tool hblank _ =>
    rintro rfl
    exact hblank rfl

/-- Whoever searches for the linter and whoever launches it by its name look at the same files: all directories
are given from the root, what they hold under the name is a file or is not there at all, and nothing about the
name and the flags is in the way of a launch. -/
structure Host.SearchesAlike (h : Host) (d : Disk) (s : Settings) : Prop where
  fromRoot : ∀ dir ∈ (h.tools d s).toolDirs, Path.isAbsolute dir = true
  path : h.environment.path ≠ none
  held : ∀ dir ∈ Toolchain.searchDirs h.environment, d.isFile h.cwd (Path.join dir s.linter) = true ∨
    d.lookup h.cwd (dir ++ '/' :: s.linter) = .error .missing
  bare : '/' ∉ s.linter
  short : (Utf8.encode s.linter).length ≤ Disk.nameLimit
  nul : ∀ t ∈ s.linter :: s.lintFlags, '\x00' ∉ t

/-- Where both look alike, a linter that was not found is missing everywhere. -/
theorem Host.SearchesAlike.program_missing {h : Host} {d : Disk} {s : Settings} (hs : h.SearchesAlike d s)
    (hnone : (h.tools d s).findTool h d s.linter = none) (place : Place) :
    h.program d place s.linter = .error .missing := by
  have habsent : ∀ dir ∈ Toolchain.searchDirs h.environment, Path.isAbsolute dir = true ∧
      d.lookup h.cwd (dir ++ '/' :: s.linter) = .error .missing := by
    intro dir hdir
    have hlisted : dir ∈ (h.tools d s).toolDirs := Toolchain.searchDirs_subset hdir
    refine ⟨hs.fromRoot dir hlisted, (hs.held dir hdir).resolve_left ?_⟩
    simp [Toolchain.not_isFile_of_findTool hnone hlisted]
  obtain ⟨list, hlist⟩ := Option.ne_none_iff_exists'.mp hs.path
  have hdirs : Toolchain.searchDirs h.environment = Host.directories list := by
    rw [Toolchain.searchDirs, hlist]
  rw [hdirs] at habsent
  rw [Host.program, if_neg s.linter_ne_nil, if_neg hs.bare, if_neg (Nat.not_lt.mpr hs.short), hlist,
    Option.getD_some, Host.searched_eq]
  · refine Host.search_missing fun dir hdir => ?_
    obtain ⟨habs, hmissing⟩ := habsent dir hdir
    have hne : dir ≠ [] := by
      rintro rfl
      cases habs
    rw [if_neg hne]
    have hsame := d.lookup_from_root (p := dir ++ '/' :: s.linter)
      (by rw [Path.isAbsolute_append hne, habs]) place h.cwd
    exact Host.executable_of_lookup (hsame.trans hmissing)
  · intro dir hdir
    have hshort := Disk.isShort_of_prefix (List.prefix_append dir _)
      (Disk.isShort_of_missing (by simp) (habsent dir hdir).2)
    simpa [Host.isOverlong, Disk.isShort] using hshort

namespace Checker

/-- A file that can be read lies in a directory, and neither is spelled with a character that ends a name. -/
theorem target_of_read {h : Host} {file p dir : Path} {d : Disk} {content : Bytes}
    (htarget : target h file = .ok (p, dir)) (hread : d.read h.cwd p = .ok content) :
    (∃ place, d.lookup h.cwd dir = .ok (place, .directory)) ∧ '\x00' ∉ p ∧ '\x00' ∉ dir := by
  have hp := (target_rooted htarget).1
  have hdir : Path.parent? p = some dir := by
    rw [target] at htarget
    split at htarget
    · cases htarget
    · split at htarget
      · cases htarget
      · next hdir =>
        obtain ⟨rfl, rfl⟩ := Prod.mk.inj (Except.ok.inj htarget)
        exact hdir
  obtain ⟨place, hfind⟩ : ∃ place, d.find h.cwd p = .ok place := by
    cases hfind : d.find h.cwd p with
    | ok place => exact ⟨place, rfl⟩
    | error fault =>
      rw [Disk.read, Disk.lookup, hfind] at hread
      cases hread
  have hnul := (Disk.find_eq_ok_iff.mp hfind).2.1
  have hsub := (Path.prefix_of_parent? hdir).subset
  exact ⟨Disk.lookup_parent? hp hdir hfind, hnul, fun hmem => hnul (hsub hmem)⟩

/-- A tool that was found by a path from the root is launched or refused, and never missing. -/
theorem launch_of_found {h : Host} {file p dir : Path} {d : Disk} {content : Bytes}
    (htarget : target h file = .ok (p, dir)) (hread : d.read h.cwd p = .ok content) {cwd : Place} {tool : Path}
    (habs : Path.isAbsolute tool = true) (hfile : d.isFile cwd tool = true) (args : List Text) :
    h.launch d tool args dir ≠ .error .missing := by
  obtain ⟨⟨place, hplace⟩, -⟩ := target_of_read htarget hread
  rw [Ne, Host.launch_missing_iff hplace, not_and]
  exact fun _ => Host.program_of_isFile habs hfile

section

variable {h : Host} {s : Settings} {file p dir : Path} {d : Disk} {content : Bytes}
  (hstill : (h.checker d s).Still h s d) (hany : s.anyEnabled) (htarget : target h file = .ok (p, dir))
include hstill hany htarget

/-- Every order of the steps that ends well tells the same. -/
theorem Interleaved.perm_told {r : Checked × Scene}
    (hr : (h.checker d s).Interleaved h s file { disk := d } r) (hok : ∃ ds, r.1 = .ok ds) :
    r.2.notices.Perm (h.told d s file) := by
  have hcheck : (h.checker d s).Interleaved h s file { disk := d } (checkOnce h s file d) :=
    interleaved_check _ h s file { disk := d }
  cases hgo : (h.checker d s).toolchain.go with
  | none =>
    rw [Interleaved, hgo] at hr hcheck
    rw [hr, Host.told, hcheck]
  | some go =>
    have hind : (h.checker d s).Independent h go s p dir d := hstill.independent
    obtain ⟨ds, hds⟩ := hok
    rcases hr.cases_alone hgo hany htarget hind with ⟨found, -, halone, hns, -⟩ | ⟨e, he, -⟩
    · rcases hcheck.cases_alone hgo hany htarget hind with ⟨_, -, -, hns', -⟩ | ⟨e, -, k, hk, he⟩
      · exact hns.trans hns'.symm
      · rw [halone k hk] at he
        cases he
    · rw [he] at hds
      cases hds

variable (hread : d.read h.cwd p = .ok content)
include hread

/-- What is told on a machine that stays as it is, Go or no Go. -/
theorem mem_told_iff {n : Notice} : n ∈ h.told d s file ↔
    (h.tools d s).go = none ∧ n = .goNotFound ∨
      ∃ go k, (h.tools d s).go = some go ∧ s.enables k ∧ n = missingOf s k ∧
        (h.checker d s).launchOf h go s p dir content d k = .error .missing := by
  have hcheck : h.told d s file = ((h.checker d s).check h s file { disk := d }).2.notices := rfl
  have htools : (h.checker d s).toolchain.go = (h.tools d s).go := rfl
  rw [hcheck, check, htools]
  cases (h.tools d s).go with
  | none => simp [Scene.tell]
  | some go =>
    simp only [hany, htarget, if_true]
    rw [notices_of_still hstill hread, mem_tells_iff]
    simp

theorem goNotFound_mem_iff : .goNotFound ∈ h.told d s file ↔
    (h.tools d s).go = none ∨ ∃ go k, (h.tools d s).go = some go ∧ s.enables k ∧ k ≠ .lint ∧
      (h.checker d s).launchOf h go s p dir content d k = .error .missing := by
  rw [mem_told_iff hstill hany htarget hread]
  simp only [and_true, goNotFound_eq_missingOf_iff]

theorem missingLinter_mem_iff : s.missingLinter ∈ h.told d s file ↔
    (h.tools d s).go ≠ none ∧ s.lintOnSave ∧
      h.launch d ((h.tools d s).toolPath h d s.linter) (s.lintArgs p) dir = .error .missing := by
  rw [mem_told_iff hstill hany htarget hread]
  simp only [s.missingLinter_ne, and_false, false_or, missingLinter_eq_missingOf_iff]
  constructor
  · rintro ⟨go, k, hsome, hk, rfl, hmissing⟩
    rw [launchOf_lint] at hmissing
    exact ⟨by simp [hsome], hk, hmissing⟩
  · rintro ⟨hsome, hk, hmissing⟩
    obtain ⟨go, hgo⟩ := Option.ne_none_iff_exists'.mp hsome
    exact ⟨go, .lint, hgo, hk, rfl, launchOf_lint.trans hmissing⟩

/-- Go that was found from the root is not missing. -/
theorem goNotFound_mem_iff_of_root (hroot : ∀ go, (h.tools d s).go = some go → Path.isAbsolute go = true) :
    .goNotFound ∈ h.told d s file ↔ (h.tools d s).go = none := by
  rw [goNotFound_mem_iff hstill hany htarget hread, or_iff_left_iff_imp]
  rintro ⟨go, k, hgo, -, hk, hmissing⟩
  obtain ⟨args, hargs⟩ : ∃ args, (h.checker d s).launchOf h go s p dir content d k = h.launch d go args dir :=
    exists_launchOf hk
  rw [hargs] at hmissing
  exact absurd hmissing (launch_of_found htarget hread (hroot go hgo) (Toolchain.isFile_of_go hgo) args)

/-- A linter that was found from the root is not missing. -/
theorem missingLinter_not_mem {tool : Path} (htool : (h.tools d s).findTool h d s.linter = some tool)
    (habs : Path.isAbsolute tool = true) : s.missingLinter ∉ h.told d s file := by
  intro hmem
  have hmissing := ((missingLinter_mem_iff hstill hany htarget hread).mp hmem).2.2
  rw [Toolchain.toolPath, htool, Option.getD_some] at hmissing
  exact launch_of_found htarget hread habs (Toolchain.isFile_of_findTool htool) _ hmissing

omit hstill hany in
/-- Where the search and the launch look alike, a linter that was not found is missing. -/
theorem launch_of_not_found (hs : h.SearchesAlike d s)
    (hnone : (h.tools d s).findTool h d s.linter = none) :
    h.launch d s.linter (s.lintArgs p) dir = .error .missing := by
  obtain ⟨⟨place, hplace⟩, hnul, hnul'⟩ := target_of_read htarget hread
  refine (Host.launch_missing_iff hplace).mpr ⟨fun text htext => ?_, hs.program_missing hnone place⟩
  rcases List.mem_cons.mp htext with rfl | htext
  · exact hs.nul _ List.mem_cons_self
  rcases List.mem_cons.mp htext with rfl | htext
  · exact hnul'
  rcases List.mem_append.mp htext with htext | htext
  · exact hs.nul _ (List.mem_cons_of_mem _ htext)
  · split at htext
    · rwa [List.mem_singleton.mp htext]
    · cases htext

theorem missingLinter_mem_iff_of_alike (hs : h.SearchesAlike d s) : s.missingLinter ∈ h.told d s file ↔
    (h.tools d s).go ≠ none ∧ s.lintOnSave ∧ (h.tools d s).findTool h d s.linter = none := by
  cases htool : (h.tools d s).findTool h d s.linter with
  | some tool =>
    have habs := Toolchain.isAbsolute_of_findTool htool hs.fromRoot
    simpa using missingLinter_not_mem hstill hany htarget hread htool habs
  | none =>
    have hlaunch := launch_of_not_found htarget hread hs htool
    simp [missingLinter_mem_iff hstill hany htarget hread, Toolchain.toolPath, htool, hlaunch]

end

/-- What the user is told is missing on a machine that stays as it is. Go is, when it was not found or when the
launch from the file's directory comes upon nothing where it was found; so is the linter. Neither can be when it
was found from the root, and then Go is only when it was not found. So is the linter where the search for it and
its launch look at the same files. Every order of the checks that ends well tells the same. -/
theorem told_missing_iff {h : Host} {s : Settings} {file p dir : Path} {d : Disk} {content : Bytes}
    (hstill : (h.checker d s).Still h s d) (hany : s.anyEnabled) (htarget : target h file = .ok (p, dir))
    (hread : d.read h.cwd p = .ok content) :
    (.goNotFound ∈ h.told d s file ↔
      (h.tools d s).go = none ∨ ∃ go k, (h.tools d s).go = some go ∧ s.enables k ∧ k ≠ .lint ∧
        (h.checker d s).launchOf h go s p dir content d k = .error .missing) ∧
    (s.missingLinter ∈ h.told d s file ↔ (h.tools d s).go ≠ none ∧ s.lintOnSave ∧
      h.launch d ((h.tools d s).toolPath h d s.linter) (s.lintArgs p) dir = .error .missing) ∧
    ((∀ go, (h.tools d s).go = some go → Path.isAbsolute go = true) →
      (.goNotFound ∈ h.told d s file ↔ (h.tools d s).go = none)) ∧
    (∀ tool, (h.tools d s).findTool h d s.linter = some tool → Path.isAbsolute tool = true →
      s.missingLinter ∉ h.told d s file) ∧
    (h.SearchesAlike d s → (s.missingLinter ∈ h.told d s file ↔
      (h.tools d s).go ≠ none ∧ s.lintOnSave ∧ (h.tools d s).findTool h d s.linter = none)) ∧
    ∀ r, (h.checker d s).Interleaved h s file { disk := d } r → (∃ ds, r.1 = .ok ds) →
      r.2.notices.Perm (h.told d s file) := by
  refine ⟨goNotFound_mem_iff hstill hany htarget hread, missingLinter_mem_iff hstill hany htarget hread,
    goNotFound_mem_iff_of_root hstill hany htarget hread, fun tool htool habs => ?_,
    missingLinter_mem_iff_of_alike hstill hany htarget hread, fun r hr hok => ?_⟩
  · exact missingLinter_not_mem hstill hany htarget hread htool habs
  · exact hr.perm_told hstill hany htarget hok

/-- A machine that looks for its programs in one directory. -/
def siteHost (bin : Text) : Host where
  environment := { path := some bin, temp := "/t".toList }
  cwd := []
  programs _ _ _ := {}

/-- Its disk, with Go in the directory `bin`, and a source in another one. -/
def siteDisk : Disk where
  node? place :=
    if place = [] ∨ place = ["bin".toList] ∨ place = ["p".toList] then some .directory
    else if place = ["bin".toList, "go".toList] then some (.file [] true)
    else if place = ["p".toList, "a.go".toList] then some (.file [] false)
    else none

theorem siteHost_searchesAlike : (siteHost "/bin".toList).SearchesAlike siteDisk {} where
  fromRoot := by decide
  path := by decide
  held := by decide
  bare := by decide
  short := by decide
  nul := by decide

theorem siteHost_still (bin : Text) :
    ((siteHost bin).checker siteDisk {}).Still (siteHost bin) {} siteDisk where
  writes _ := rfl
  gone hcover := by cases hcover

/-- With `bin` on the list Go is found from where the process stands, and missing where the source lies. With
`/bin` on the list it is found and there, and the linter is not. -/
theorem told_missing_site :
    ((siteHost "bin".toList).tools siteDisk {}).go = some "bin/go".toList ∧
      .goNotFound ∈ (siteHost "bin".toList).told siteDisk {} "/p/a.go".toList ∧
      .goNotFound ∉ (siteHost "/bin".toList).told siteDisk {} "/p/a.go".toList ∧
      Settings.missingLinter {} ∈ (siteHost "/bin".toList).told siteDisk {} "/p/a.go".toList := by
  have htarget : ∀ bin, target (siteHost bin) "/p/a.go".toList = .ok ("/p/a.go".toList, "/p".toList) :=
    fun _ => rfl
  have hread : ∀ bin, siteDisk.read (siteHost bin).cwd "/p/a.go".toList = .ok [] := fun _ => rfl
  obtain ⟨hexact, -⟩ := told_missing_iff (siteHost_still "bin".toList) rfl (htarget _) (hread _)
  obtain ⟨-, -, hroot, -, halike, -⟩ :=
    told_missing_iff (siteHost_still "/bin".toList) rfl (htarget _) (hread _)
  refine ⟨by decide, hexact.mpr (.inr ?_), ?_, (halike siteHost_searchesAlike).mpr (by decide)⟩
  · exact ⟨"bin/go".toList, .build, by decide, rfl, by decide, by decide⟩
  · rw [hroot (by decide)]
    decide

end Checker

end SaveCheck
