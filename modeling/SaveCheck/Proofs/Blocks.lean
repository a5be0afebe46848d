import SaveCheck.Proofs.Accounts
import SaveCheck.Proofs.Echoes

/-!
The journal of a check, block by block.

    Finished running tool: /b/go tool vet a.go     the headline of a run
    /p/a.go:3: odd                                 the echo of its diagnostics
    ⇥more detail
                                                   a blank line, and no other

Each run that was launched has one block, and the coverage check has its lines in two groups at most. Whatever the
order of the steps, nothing comes in between the lines of a block.
-/

namespace SaveCheck

/-- The block of a run: its headline, the echo of its diagnostics and a blank line. -/
def block (command : Text) (ds : List Diagnostic) : List Text :=
  ("Finished running tool: ".toList ++ command) :: ds.flatMap Diagnostic.echo ++ [[]]

theorem ToolRun.echo_eq_block (r : ToolRun) (text : Text) :
    r.echo text = block r.commandLine (r.diagnostics text) := by
  rw [echo, Listing.echo_eq_flatMap r.dir r.severity text]
  rfl

namespace Checker

variable {c : Checker} {h : Host} {s : Settings} {file : Path}

/-! ### What a check writes by what it has launched -/

section

variable {command : Text} {k : CheckKind} {launched : Option Call} {ds : List Diagnostic}
  {groups : List (List Text)}

theorem Reports.eq_block (hreports : Reports h command k launched ds groups) (hk : k ≠ .cover) :
    groups = launched.toList.map fun _ => block command ds := by
  cases hreports with
  | tool _ hline => rw [ToolRun.echo_eq_block, hline]; rfl
  | tests => exact absurd rfl hk
  | idle => rfl

theorem Reports.length_le (hreports : Reports h command k launched ds groups) : groups.length ≤ 2 := by
  cases hreports with
  | tool | idle => simp
  | tests hlength => exact hlength

theorem Reports.eq_nil (hreports : Reports h command k launched ds groups) (hnone : launched = none) :
    groups = [] := by
  cases hreports with
  | tool | tests => cases hnone
  | idle => rfl

end

section

variable {go p dir : Path} {source : Bytes} {d : Disk} {k : CheckKind} {call : Call}

/-- What a check has launched by the end, if it is enabled and its launch succeeded. -/
def launchedOf (c : Checker) (h : Host) (go : Path) (s : Settings) (p dir : Path) (source : Bytes) (d : Disk)
    (k : CheckKind) : Option Call :=
  if s.enables k then (c.launchOf h go s p dir source d k).toOption else none

theorem launchedOf_of_enabled (hk : s.enables k) :
    c.launchedOf h go s p dir source d k = (c.launchOf h go s p dir source d k).toOption :=
  if_pos hk

theorem launchedOf_of_disabled (hk : s.enables k = false) : c.launchedOf h go s p dir source d k = none := by
  rw [launchedOf, hk]
  rfl

theorem launchedOf_eq_some_iff : c.launchedOf h go s p dir source d k = some call ↔
    s.enables k ∧ c.launchOf h go s p dir source d k = .ok call := by
  rw [launchedOf, ← toOption_eq_some_iff]
  split <;> simp [*]

/-- The command of a check is what it has launched. -/
theorem commandOf_eq (hcall : c.launchedOf h go s p dir source d k = some call) :
    c.commandOf h go s p source d k = c.toolOf h go s d k ++ call.args.flatMap (' ' :: ·) := by
  obtain ⟨-, hlaunch⟩ := launchedOf_eq_some_iff.mp hcall
  rw [launchOf_eq] at hlaunch
  rw [commandOf, Host.args_of_launch hlaunch]

end

/-! ### A whole check -/

variable {scene : Scene} {seen : CheckKind → List Scene} {r : Checked × Scene} {ds : List Diagnostic}

/-- The journal grows by what the checks write by what they have launched. -/
theorem Traced.reports {go p dir : Path} (hgo : c.toolchain.go = some go) (htarget : target h file = .ok (p, dir))
    (hr : c.Traced h s file scene seen r) (hds : r.1 = .ok ds) :
    ∃ (groups : List (CheckKind × List Text)) (parts : CheckKind → List Diagnostic) (source : Bytes)
      (disk : CheckKind → Disk),
      r.2.journal.lines = scene.journal.lines ++ groups.flatMap (·.2) ∧ c.Parts h s file seen ds parts ∧
      r.2.calls.Perm (scene.calls ++
        CheckKind.all.flatMap fun k => (c.launchedOf h go s p dir source (disk k) k).toList) ∧
      (∀ k, s.enables k → ∃ found ∈ seen k, found.disk = disk k) ∧
      ∀ k, Reports h (c.commandOf h go s p source (disk k) k) k (c.launchedOf h go s p dir source (disk k) k)
        (parts k) (Work.piecesOf groups k) := by
  obtain ⟨parts, source, disk, hparts, htried, hcalls⟩ := hr.launches hgo htarget hds
  obtain ⟨groups, hlines, hpieces⟩ := hr.log_groups hgo htarget Scene.keeps_lines
  refine ⟨groups, parts, source, disk, hlines, hparts, ?_, fun k hk => (htried k hk).found, fun k => ?_⟩
  · rwa [flatMap_enabled (fun k hk => by rw [launchedOf_of_enabled hk])
      fun k hk => by rw [launchedOf_of_disabled hk]; rfl]
  · rw [hpieces k]
    cases hk : s.enables k with
    | true =>
      obtain ⟨written, hreports, haccounts⟩ := (htried k hk).reports
      rwa [if_pos rfl, haccounts.groups, launchedOf_of_enabled hk]
    | false =>
      have hnone : parts k = [] := by
        by_contra hne
        obtain ⟨-, -, -, -, -, henabled, -⟩ := hparts.contributes k hne
        rw [hk] at henabled
        cases henabled
      rw [launchedOf_of_disabled hk, hnone]
      exact .idle

/-- In every order of the steps a check that succeeds adds groups of lines to the journal, each in one piece. A build,
lint or vet run that was launched has one group, which is its block, and its echo has no blank line; the coverage
check has two groups at most; and what was not launched has none. -/
theorem Traced.journal_groups (hr : c.Traced h s file scene seen r) (hds : r.1 = .ok ds) :
    ∃ (groups : List (CheckKind × List Text)) (parts : CheckKind → List Diagnostic) (name : CheckKind → Path)
      (launched : CheckKind → Option Call),
      r.2.journal.lines = scene.journal.lines ++ groups.flatMap (·.2) ∧ c.Parts h s file seen ds parts ∧
      r.2.calls.Perm (scene.calls ++ CheckKind.all.flatMap fun k => (launched k).toList) ∧
      (∀ k call, launched k = some call → k ∈ s.enabled ∧
        ∃ found ∈ seen k, ∃ dir, h.launch found.disk (name k) call.args dir = .ok call) ∧
      (∀ k ≠ .cover, Work.piecesOf groups k = (launched k).toList.map fun call =>
        block (name k ++ call.args.flatMap (' ' :: ·)) (parts k)) ∧
      (Work.piecesOf groups .cover).length ≤ 2 ∧
      (∀ k, launched k = none → Work.piecesOf groups k = []) ∧
      ∀ k, ∀ line ∈ (parts k).flatMap Diagnostic.echo, line ≠ [] := by
  rcases hr.idle_or_meant hds with ⟨-, hcalls, hlines⟩ | ⟨go, p, dir, hgo, htarget⟩
  · obtain ⟨parts, hparts⟩ := hr.parts hds
    refine ⟨[], parts, fun _ => [], fun _ => none, ?_, hparts, ?_, by simp, fun _ _ => rfl, by decide,
      fun _ _ => rfl, fun k line => Diagnostic.ne_nil_of_mem_echoes⟩
    · exact hlines.trans (List.append_nil _).symm
    · exact .of_eq (hcalls.trans (List.append_nil _).symm)
  · obtain ⟨groups, parts, source, disk, hlines, hparts, hcalls, hfound, hreports⟩ := hr.reports hgo htarget hds
    refine ⟨groups, parts, fun k => c.toolOf h go s (disk k) k, fun k => c.launchedOf h go s p dir source (disk k) k,
      hlines, hparts, hcalls, fun k call hcall => ?_, fun k hk => ?_, (hreports .cover).length_le,
      fun k hnone => ?_, fun k line => Diagnostic.ne_nil_of_mem_echoes⟩
    · obtain ⟨hk, hlaunch⟩ := launchedOf_eq_some_iff.mp hcall
      obtain ⟨found, hmem, hdisk⟩ := hfound k hk
      rw [launchOf_eq] at hlaunch
      refine ⟨Settings.mem_enabled.mpr hk, found, hmem, dir, ?_⟩
      rwa [hdisk, Host.args_of_launch hlaunch]
    · rw [(hreports k).eq_block hk]
      exact List.map_congr_left fun call hcall => by rw [commandOf_eq (Option.mem_toList.mp hcall)]
    · exact (hreports k).eq_nil hnone

/-- In the workshop three runs have their blocks. -/
theorem journal_groups_workshop : ∃ (groups : List (CheckKind × List Text)) (parts : CheckKind → List Diagnostic)
    (command : CheckKind → Text),
    (workshopChecker.check workshop furnishedSettings "/p/a.go".toList { disk := workshopDisk }).2.journal.lines =
        groups.flatMap (·.2) ∧
      ∀ k ≠ .cover, Work.piecesOf groups k = [block (command k) (parts k)] := by
  obtain ⟨⟨seen, hseen⟩, hds, hfour⟩ := furnished_check
  obtain ⟨groups, parts, name, launched, hlines, -, hcalls, -, hblocks, -⟩ := Traced.journal_groups hseen hds
  have hall := launched_of_length (hcalls.length_eq.symm.trans hfour)
  choose call hcall using fun k : CheckKind => hall k k.mem_all
  refine ⟨groups, parts, fun k => name k ++ (call k).args.flatMap (' ' :: ·), hlines, fun k hk => ?_⟩
  rw [hblocks k hk, hcall k]
  rfl

end Checker

end SaveCheck
