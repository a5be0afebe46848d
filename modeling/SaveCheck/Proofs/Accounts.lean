import SaveCheck.Proofs.Contributions
import SaveCheck.Proofs.Logs
import SaveCheck.Proofs.Missing

/-!
What each check launches and writes, by the scenes that its steps found.

    build   read ──────── launch ──── report      tries one launch, writes one block
    lint    launch ─── report                     tries one launch, writes one block
    vet         launch ───────── report           tries one launch, writes one block
    cover   remove ── launch ── write ── read     tries one launch, writes twice

A check that ends well has tried its launch once, whatever else went on. Where the launch failed it has written
nothing.
-/

namespace SaveCheck

/-- The lines that have been written. -/
def Scene.lines (s : Scene) : List Text := s.journal.lines

namespace Work

variable {α β : Type} {w : Work α} {ss : List Scene} {a b : α} {calls : List Call} {groups : List (List Text)}

/-- By what its steps found a work comes to a result. It makes some calls on the way, and writes some groups of
lines, each in one step. -/
structure Accounts (w : Work α) (ss : List Scene) (a : α) (calls : List Call) (groups : List (List Text)) :
    Prop where
  result : w.follow ss = .done a
  calls : (w.adds Scene.calls ss).flatten = calls
  groups : (w.adds Scene.lines ss).filter (· ≠ []) = groups

/-- A group of its lines, if there are any. -/
def group (lines : List Text) : List (List Text) := [lines].filter (· ≠ [])

theorem length_group_le (lines : List Text) : (group lines).length ≤ 1 := List.length_filter_le ..

theorem accounts_done (a : α) (ss : List Scene) : (done a).Accounts ss a [] [] := by
  constructor
  · exact follow_done a ss
  · rw [adds_done]
    rfl
  · rw [adds_done]
    rfl

theorem Accounts.map (hw : w.Accounts ss a calls groups) (f : α → β) :
    (w.map f).Accounts ss (f a) calls groups := by
  constructor
  · rw [follow_map, hw.result]
    rfl
  · rw [adds_map, hw.calls]
  · rw [adds_map, hw.groups]

theorem Accounts.step {change : Scene → Scene} {next : Scene → Work α} {s : Scene} {new calls' : List Call}
    {lines : List Text} {groups' : List (List Text)} (hcalls : (change s).calls = s.calls ++ new)
    (hlines : (change s).lines = s.lines ++ lines) (hnext : (next s).Accounts ss a calls groups)
    (hcalls' : calls' = new ++ calls) (hgroups' : groups' = group lines ++ groups) :
    (Work.step change next).Accounts (s :: ss) a calls' groups' := by
  constructor
  · exact hnext.result
  · rw [adds, hcalls, List.drop_left, List.flatten_cons, hnext.calls, hcalls']
  · rw [adds, hlines, List.drop_left, hgroups', group, ← hnext.groups, ← List.filter_append]
    rfl

/-- One step that launches nothing, once it is taken. -/
theorem accounts_act {change : Scene → Scene} (lines : List Text) (hcalls : ∀ s, (change s).calls = s.calls)
    (hlines : ∀ s, (change s).lines = s.lines ++ lines) (hdone : (act change a).follow ss = .done b) :
    (act change a).Accounts ss a [] (group lines) := by
  match ss with
  | [] => cases hdone
  | s :: ss =>
    refine .step ?_ (hlines s) (accounts_done a ss) (List.append_nil []).symm (List.append_nil _).symm
    rw [hcalls, List.append_nil]

theorem accounts_write {lines : List Text} (hdone : (act (·.write lines) a).follow ss = .done b) :
    (act (·.write lines) a).Accounts ss a [] (group lines) :=
  accounts_act lines (fun _ => rfl) (fun _ => rfl) hdone

theorem accounts_tell {n : Notice} (hdone : (act (·.tell n) a).follow ss = .done b) :
    (act (·.tell n) a).Accounts ss a [] [] :=
  accounts_act [] (fun _ => rfl) (fun _ => (List.append_nil _).symm) hdone

end Work

namespace Scene

variable (h : Host) (name : Path) (args : List Text) (dir : Path) (s : Scene)

theorem launch_lines : (s.launch h name args dir).lines = s.lines := by
  rw [launch]
  cases h.launch s.disk name args dir <;> rfl

end Scene

/-! ### A tool -/

namespace ToolRun

variable {h : Host} {r : ToolRun} {run : Disk → ToolRun} {ss : List Scene} {ds : List Diagnostic}

theorem accounts_rest {launched : Except Fault Call} (hdone : (r.rest h launched).follow ss = .done ds) :
    (r.rest h launched).Accounts ss (r.found h launched) []
      (launched.toOption.toList.map fun call => r.echo (r.listing h call)) := by
  match launched with
  | .ok call => exact Work.accounts_write hdone
  | .error fault => cases fault <;> first | exact Work.accounts_tell hdone | exact Work.accounts_done _ ss

/-- A run that is done has tried its launch on some disk, and written its block if that succeeded. -/
theorem accounts_work (hdone : (work h run).follow ss = .done ds) : ∃ scene ∈ ss,
    (work h run).Accounts ss ((run scene.disk).found h ((run scene.disk).launch h scene.disk))
      ((run scene.disk).launch h scene.disk).toOption.toList
      (((run scene.disk).launch h scene.disk).toOption.toList.map fun call =>
        (run scene.disk).echo ((run scene.disk).listing h call)) := by
  match ss with
  | [] => cases hdone
  | scene :: ss =>
    refine ⟨scene, List.mem_cons_self, ?_⟩
    rw [work_eq] at hdone ⊢
    exact .step (Scene.launch_calls ..) ((Scene.launch_lines ..).trans (List.append_nil _).symm)
      (accounts_rest hdone) (List.append_nil _).symm rfl

end ToolRun

/-! ### The tests -/

namespace Coverage

variable {h : Host} {go profile file dir : Path} {settings : Settings} {ss : List Scene} {ds : List Diagnostic}

theorem accounts_afterReading {read : Except Fault Text}
    (hdone : (afterReading file dir read).follow ss = .done (.ok ds)) : ∃ told : List Text,
    (afterReading file dir read).Accounts ss (.ok []) [] (Work.group told) := by
  match read with
  | .error fault => exact ⟨_, Work.accounts_write hdone⟩
  | .ok text =>
    rw [afterReading] at hdone ⊢
    split at hdone
    · rw [Work.follow_done] at hdone
      cases hdone
    · exact ⟨_, Work.accounts_write hdone⟩

theorem accounts_afterLaunch {launched : Except Fault Call}
    (hdone : (afterLaunch h profile file dir launched).follow ss = .done (.ok ds)) : ∃ told : List Text,
    (afterLaunch h profile file dir launched).Accounts ss (.ok []) []
      (launched.toOption.toList.flatMap fun call =>
        Work.group (failureLines (h.outcome call)) ++ Work.group told) := by
  match launched, ss with
  | .ok call, [] => cases hdone
  | .ok call, [_] => cases hdone
  | .ok call, written :: read :: ss =>
    rw [afterLaunch, reading_eq] at hdone ⊢
    obtain ⟨told, htold⟩ := accounts_afterReading hdone
    refine ⟨told, .step (List.append_nil _).symm rfl ?_ rfl (List.append_nil _)⟩
    exact .step (List.append_nil _).symm (List.append_nil _).symm htold rfl rfl
  | .error fault, ss =>
    refine ⟨[], ?_⟩
    cases fault with
    | missing => exact Work.accounts_tell hdone
    | _ => simp [afterLaunch, Work.follow_done] at hdone

/-- A check that ends well has found nothing. It has tried its launch on some disk, and written at most twice if that
succeeded. -/
theorem accounts_work (hdone : (work h go profile settings file dir).follow ss = .done (.ok ds)) :
    ∃ scene ∈ ss, ∃ told : List Text,
      (work h go profile settings file dir).Accounts ss (.ok [])
        (h.launch scene.disk go (settings.coverArgs profile) dir).toOption.toList
        ((h.launch scene.disk go (settings.coverArgs profile) dir).toOption.toList.flatMap fun call =>
          Work.group (failureLines (h.outcome call)) ++ Work.group told) := by
  match ss with
  | [] => cases hdone
  | [_] => cases hdone
  | _ :: scene :: ss =>
    rw [work_eq, testing] at hdone ⊢
    obtain ⟨told, htold⟩ := accounts_afterLaunch hdone
    refine ⟨scene, by simp, told, .step (List.append_nil _).symm (List.append_nil _).symm ?_ rfl rfl⟩
    exact .step (Scene.launch_calls ..) ((Scene.launch_lines ..).trans (List.append_nil _).symm) htold
      (List.append_nil _).symm rfl

end Coverage

/-! ### Any check -/

namespace Checker

variable {c : Checker} {h : Host} {go : Path} {s : Settings} {p dir : Path} {ss : List Scene} {ds : List Diagnostic}
  {source : Bytes} {d : Disk}

/-- The program that a check launches. -/
def toolOf (c : Checker) (h : Host) (go : Path) (s : Settings) (d : Disk) : CheckKind → Path
  | .lint => c.toolchain.toolPath h d s.linter
  | _ => go

/-- The arguments that a check launches its program with. -/
def argsOf (c : Checker) (s : Settings) (p : Path) (source : Bytes) : CheckKind → List Text
  | .build => s.buildArgs p (GoFile.isMain (Utf8.decodeLossy source)) c.buildOutput
  | .lint => s.lintArgs p
  | .vet => s.vetArgs p
  | .cover => s.coverArgs c.profile

/-- The command of a check as one text. -/
def commandOf (c : Checker) (h : Host) (go : Path) (s : Settings) (p : Path) (source : Bytes) (d : Disk)
    (k : CheckKind) : Text :=
  c.toolOf h go s d k ++ (c.argsOf s p source k).flatMap (' ' :: ·)

theorem launchOf_eq (k : CheckKind) : c.launchOf h go s p dir source d k =
    h.launch d (c.toolOf h go s d k) (c.argsOf s p source k) dir := by
  cases k with
  | lint => exact launchOf_lint
  | _ => rfl

/-- What a check finds and writes by what it has launched, if anything. -/
inductive Reports (h : Host) (command : Text) : CheckKind → Option Call → List Diagnostic →
    List (List Text) → Prop where
  | tool {k : CheckKind} {r : ToolRun} {call : Call} : k ≠ .cover → r.commandLine = command →
      Reports h command k (some call) (r.diagnostics (r.listing h call)) [r.echo (r.listing h call)]
  | tests {call : Call} {groups : List (List Text)} : groups.length ≤ 2 →
      Reports h command .cover (some call) [] groups
  | idle {k : CheckKind} : Reports h command k none [] []

/-- A check has tried one launch on a disk that its steps found, and what it comes to and writes goes by that. -/
structure Tried (c : Checker) (h : Host) (go : Path) (s : Settings) (p dir : Path) (ss : List Scene)
    (ds : List Diagnostic) (source : Bytes) (d : Disk) (k : CheckKind) : Prop where
  found : ∃ scene ∈ ss, scene.disk = d
  sourceFound : k = .build → ∃ scene ∈ ss, scene.disk.read h.cwd p = .ok source
  reports : ∃ groups,
    Reports h (c.commandOf h go s p source d k) k (c.launchOf h go s p dir source d k).toOption ds groups ∧
    (c.workOf h go s p dir k).Accounts ss (.ok ds) (c.launchOf h go s p dir source d k).toOption.toList groups

/-- Only what the build check launches depends on what the file holds. -/
theorem Tried.withSource {k : CheckKind} (htried : c.Tried h go s p dir ss ds source d k) (hk : k ≠ .build)
    (source' : Bytes) : c.Tried h go s p dir ss ds source' d k := by
  refine ⟨htried.found, fun hbuild => absurd hbuild hk, ?_⟩
  have hreports := htried.reports
  cases k with
  | build => exact absurd rfl hk
  | _ => exact hreports

theorem follow_of_map_ok {w : Work (List Diagnostic)}
    (hdone : (w.map .ok : Work Checked).follow ss = .done (.ok ds)) : w.follow ss = .done ds := by
  rw [Work.follow_map] at hdone
  cases hw : w.follow ss with
  | done found =>
    rw [hw] at hdone
    obtain rfl := Except.ok.inj (Work.done.inj hdone)
    rfl
  | step change next =>
    rw [hw] at hdone
    cases hdone

theorem tool_tried (run : Disk → ToolRun) {k : CheckKind} (hk : k ≠ .cover)
    (hdone : ((ToolRun.work h run).map .ok : Work Checked).follow ss = .done (.ok ds)) : ∃ scene ∈ ss, ∃ groups,
      Reports h (run scene.disk).commandLine k ((run scene.disk).launch h scene.disk).toOption ds groups ∧
      ((ToolRun.work h run).map .ok : Work Checked).Accounts ss (.ok ds)
        ((run scene.disk).launch h scene.disk).toOption.toList groups := by
  have hdone := follow_of_map_ok hdone
  obtain ⟨scene, hscene, haccounts⟩ := ToolRun.accounts_work hdone
  obtain rfl := Work.done.inj (haccounts.result.symm.trans hdone)
  refine ⟨scene, hscene, _, ?_, haccounts.map Except.ok⟩
  cases (run scene.disk).launch h scene.disk with
  | ok call => exact .tool hk rfl
  | error fault => exact .idle

theorem lintRun_commandLine : (c.lintRun h s p dir d).commandLine = c.commandOf h go s p source d .lint := by
  rw [lintRun]
  split <;> rfl

/-- What is left of the build check once the file was read. -/
def afterSource (c : Checker) (h : Host) (go : Path) (s : Settings) (p dir : Path) : Except Fault Bytes → Work Checked
  | .error fault => .done (.error (.unreadable p fault))
  | .ok source => (ToolRun.work h fun _ => c.sourceRun go s p dir source).map .ok

theorem buildWork_eq : c.buildWork h go s p dir =
    .step id fun scene => c.afterSource h go s p dir (scene.disk.read h.cwd p) := by
  refine congrArg (Work.step id) (funext fun scene => ?_)
  cases scene.disk.read h.cwd p <;> rfl

theorem buildWork_tried (hdone : (c.buildWork h go s p dir).follow ss = .done (.ok ds)) :
    ∃ source d, c.Tried h go s p dir ss ds source d .build := by
  match ss with
  | [] => cases hdone
  | first :: ss =>
    rw [buildWork_eq, Work.follow] at hdone
    cases hread : first.disk.read h.cwd p with
    | error fault =>
      rw [hread, afterSource, Work.follow_done] at hdone
      cases hdone
    | ok source =>
      rw [hread] at hdone
      obtain ⟨scene, hscene, groups, hreports, haccounts⟩ :=
        tool_tried (fun _ => c.sourceRun go s p dir source) (k := .build) (by simp) hdone
      refine ⟨source, scene.disk, ⟨scene, List.mem_cons_of_mem _ hscene, rfl⟩,
        fun _ => ⟨first, List.mem_cons_self, hread⟩, groups, hreports, ?_⟩
      rw [workOf, buildWork_eq]
      refine .step (List.append_nil _).symm (List.append_nil _).symm ?_ rfl rfl
      rw [hread]
      exact haccounts

/-- A check that ends well has tried its launch. -/
theorem workOf_tried {k : CheckKind} (hdone : (c.workOf h go s p dir k).follow ss = .done (.ok ds)) :
    ∃ source d, c.Tried h go s p dir ss ds source d k := by
  cases k with
  | build => exact buildWork_tried hdone
  | lint =>
    obtain ⟨scene, hscene, groups, hreports, haccounts⟩ :=
      tool_tried (c.lintRun h s p dir) (k := .lint) (by simp) hdone
    rw [lintRun_commandLine] at hreports
    exact ⟨[], scene.disk, ⟨scene, hscene, rfl⟩, by simp, groups, hreports, haccounts⟩
  | vet =>
    obtain ⟨scene, hscene, groups, hreports, haccounts⟩ :=
      tool_tried (fun _ => vetRun go s p dir) (k := .vet) (by simp) hdone
    exact ⟨[], scene.disk, ⟨scene, hscene, rfl⟩, by simp, groups, hreports, haccounts⟩
  | cover =>
    obtain ⟨scene, hscene, told, haccounts⟩ := Coverage.accounts_work hdone
    obtain rfl := Except.ok.inj (Work.done.inj (haccounts.result.symm.trans hdone))
    refine ⟨[], scene.disk, ⟨scene, hscene, rfl⟩, by simp, _, ?_, haccounts⟩
    rw [launchOf]
    cases h.launch scene.disk go (s.coverArgs c.profile) dir with
    | ok call =>
      have hfailed := Work.length_group_le (Coverage.failureLines (h.outcome call))
      have htold := Work.length_group_le told
      refine .tests ?_
      simp only [Except.toOption, Option.toList_some, List.flatMap_singleton, List.length_append]
      omega
    | error fault => exact .idle

end Checker

/-! ### What only grows -/

/-- Nothing that a check does takes anything out of a log. -/
structure Scene.Keeps {β : Type} (log : Scene → List β) : Prop where
  launch : ∀ h name args dir s, log s <+: log (s.launch h name args dir)
  write : ∀ lines s, log s <+: log (s.write lines)
  tell : ∀ n s, log s <+: log (s.tell n)
  remove : ∀ h p s, log s <+: log (s.remove h p)

theorem Scene.keeps_calls : Keeps calls where
  launch h name args dir s := by
    rw [launch_calls]
    exact List.prefix_append ..
  write _ _ := List.prefix_rfl
  tell _ _ := List.prefix_rfl
  remove _ _ _ := List.prefix_rfl

theorem Scene.keeps_lines : Keeps lines where
  launch h name args dir s := ⟨[], (List.append_nil _).trans (launch_lines h name args dir s).symm⟩
  write _ _ := List.prefix_append ..
  tell _ _ := List.prefix_rfl
  remove _ _ _ := List.prefix_rfl

namespace Checker

variable {β : Type} {log : Scene → List β} {c : Checker} {h : Host} {go : Path} {s : Settings} {p dir : Path}

theorem tool_grows (hlog : Scene.Keeps log) (run : Disk → ToolRun) :
    ((ToolRun.work h run).map .ok : Work Checked).Grows log := by
  rw [ToolRun.work_eq]
  refine .map _ (.step (fun scene => hlog.launch ..) fun scene => ?_)
  match (run scene.disk).launch h scene.disk with
  | .ok call => exact .step (hlog.write _) fun _ => .done
  | .error fault => cases fault <;> first | exact .step (hlog.tell _) fun _ => .done | exact .done

theorem reading_grows (hlog : Scene.Keeps log) (profile : Path) :
    (Coverage.reading h profile p dir).Grows log := by
  refine .step (fun _ => List.prefix_rfl) fun scene => ?_
  split
  · exact .step (hlog.write _) fun _ => .done
  · split
    · exact .done
    · exact .step (hlog.write _) fun _ => .done

theorem workOf_grows (hlog : Scene.Keeps log) (k : CheckKind) : (c.workOf h go s p dir k).Grows log := by
  cases k with
  | build =>
    refine .step (fun _ => List.prefix_rfl) fun scene => ?_
    split
    · exact .done
    · exact tool_grows hlog _
  | lint => exact tool_grows hlog _
  | vet => exact tool_grows hlog fun _ => vetRun go s p dir
  | cover =>
    refine .step (hlog.remove h _) fun _ => .step (fun _ => hlog.launch ..) fun scene => ?_
    split
    · exact .step (hlog.write _) fun _ => reading_grows hlog _
    · exact .step (hlog.tell _) fun _ => .done
    · exact .done

theorem whenEnabled_grows (hlog : Scene.Keeps log) (k : CheckKind) :
    (whenEnabled (s.enables k) (c.workOf h go s p dir k)).Grows log := by
  rw [whenEnabled]
  split
  · exact workOf_grows hlog k
  · exact .done

/-! ### A whole check -/

/-- A check that ends well has done nothing at all, for want of Go or of a check to run, or it has a file to check. -/
theorem Traced.idle_or_meant {file : Path} {scene : Scene} {seen : CheckKind → List Scene} {r : Checked × Scene}
    {ds : List Diagnostic} (hr : c.Traced h s file scene seen r) (hds : r.1 = .ok ds) :
    ((c.toolchain.go = none ∨ ∀ k, s.enables k = false) ∧ r.2.calls = scene.calls ∧ r.2.lines = scene.lines) ∨
      ∃ go p dir, c.toolchain.go = some go ∧ target h file = .ok (p, dir) := by
  rw [Traced] at hr
  cases hgo : c.toolchain.go with
  | none =>
    obtain rfl : r = _ := by simpa only [hgo] using hr
    exact .inl ⟨.inl rfl, rfl, rfl⟩
  | some go =>
    cases htarget : target h file with
    | ok found => exact .inr ⟨go, found.1, found.2, rfl, rfl⟩
    | error e =>
      simp only [hgo, htarget] at hr
      cases hany : s.anyEnabled with
      | true =>
        obtain rfl : r = _ := by simpa only [hany, if_true] using hr
        cases hds
      | false =>
        obtain rfl : r = _ := by simpa only [hany, Bool.false_eq_true, if_false] using hr
        exact .inl ⟨.inr (Settings.anyEnabled_eq_false_iff.mp hany), rfl, rfl⟩

theorem adds_whenEnabled {k : CheckKind} {ss : List Scene} :
    (whenEnabled (s.enables k) (c.workOf h go s p dir k)).adds log ss =
      if s.enables k then (c.workOf h go s p dir k).adds log ss else [] := by
  rw [whenEnabled]
  split
  · rfl
  · rw [Work.adds_done]

section

variable {file : Path} {scene : Scene} {seen : CheckKind → List Scene} {r : Checked × Scene} {ds : List Diagnostic}
  (hgo : c.toolchain.go = some go) (htarget : target h file = .ok (p, dir))
  (hr : c.Traced h s file scene seen r)
include hgo htarget hr

/-- Either nothing is enabled and nothing happens, or the enabled checks take their steps. -/
theorem Traced.idle_or_works : (∀ k, s.enables k = false) ∧ r = (.ok [], scene) ∨
    Work.Traced (CheckKind.all.map fun k => whenEnabled (s.enables k) (c.workOf h go s p dir k)) scene
      (CheckKind.all.map seen) r := by
  rw [Traced, hgo] at hr
  dsimp only at hr
  cases hany : s.anyEnabled with
  | true =>
    right
    rw [← works_eq]
    simpa only [hany, htarget, if_true] using hr
  | false =>
    rw [hany] at hr
    exact .inl ⟨Settings.anyEnabled_eq_false_iff.mp hany, hr⟩

/-- The log has in the end what the enabled checks add to it. -/
theorem Traced.log_perm (hlog : Scene.Keeps log) : (log r.2).Perm
    (log scene ++ s.enabled.flatMap fun k => ((c.workOf h go s p dir k).adds log (seen k)).flatten) := by
  rcases hr.idle_or_works hgo htarget with ⟨hidle, rfl⟩ | hworks
  · have hnone : s.enabled = [] := List.filter_eq_nil_iff.mpr fun k _ => by simp [hidle k]
    rw [hnone]
    simp
  · have hperm := hworks.log_perm (by decide) fun k _ => whenEnabled_grows hlog k
    rwa [flatMap_enabled (fun k hk => by rw [adds_whenEnabled, if_pos hk])
      fun k hk => by rw [adds_whenEnabled, if_neg (by simp [hk])]; rfl] at hperm

/-- The log grows by groups that the enabled checks add to it, each in one piece. -/
theorem Traced.log_groups [DecidableEq β] (hlog : Scene.Keeps log) : ∃ groups : List (CheckKind × List β),
    log r.2 = log scene ++ groups.flatMap (·.2) ∧ ∀ k, Work.piecesOf groups k =
      if s.enables k then ((c.workOf h go s p dir k).adds log (seen k)).filter (· ≠ []) else [] := by
  rcases hr.idle_or_works hgo htarget with ⟨hidle, rfl⟩ | hworks
  · refine ⟨[], by simp, fun k => ?_⟩
    rw [hidle k]
    rfl
  · obtain ⟨groups, hlog, hpieces⟩ := hworks.exists_groups (by decide) fun k _ => whenEnabled_grows hlog k
    refine ⟨groups, hlog, fun k => ?_⟩
    rw [hpieces k k.mem_all, adds_whenEnabled]
    split <;> rfl

/-- A check that ends well has parts, and each enabled check has tried its launch. -/
theorem Traced.tried (hds : r.1 = .ok ds) : ∃ parts, c.Parts h s file seen ds parts ∧
    ∀ k, s.enables k → ∃ source d, c.Tried h go s p dir (seen k) (parts k) source d k := by
  obtain ⟨parts, hparts⟩ := hr.parts hds
  refine ⟨parts, hparts, fun k hk => workOf_tried ?_⟩
  rcases hr.idle_or_works hgo htarget with ⟨hidle, -⟩ | hworks
  · simp [hidle k] at hk
  · have hdone := hworks.of_ok ds hds
    rw [List.zip_map'] at hdone
    obtain ⟨found, hfound⟩ := hdone _ (List.mem_map.mpr ⟨k, k.mem_all, rfl⟩)
    dsimp only at hfound
    rw [whenEnabled, if_pos hk] at hfound
    rwa [← hparts.eq_part k found ((contributes_iff hgo htarget).mpr ⟨hk, hfound⟩)]

/-- The calls are those launches that succeeded, of one that each enabled check has tried. -/
theorem Traced.launches (hds : r.1 = .ok ds) :
    ∃ (parts : CheckKind → List Diagnostic) (source : Bytes) (disk : CheckKind → Disk),
      c.Parts h s file seen ds parts ∧
      (∀ k, s.enables k → c.Tried h go s p dir (seen k) (parts k) source (disk k) k) ∧
      r.2.calls.Perm (scene.calls ++
        s.enabled.flatMap fun k => (c.launchOf h go s p dir source (disk k) k).toOption.toList) := by
  obtain ⟨parts, hparts, htried⟩ := hr.tried hgo htarget hds
  have : Nonempty Disk := ⟨scene.disk⟩
  choose! source disk htried using htried
  have htried : ∀ k, s.enables k → c.Tried h go s p dir (seen k) (parts k) (source .build) (disk k) k := by
    intro k hk
    by_cases hbuild : k = .build
    · exact hbuild ▸ htried k hk
    · exact (htried k hk).withSource hbuild _
  refine ⟨parts, source .build, disk, hparts, htried, ?_⟩
  have hperm := hr.log_perm hgo htarget Scene.keeps_calls
  rwa [List.flatMap_congr fun k hk => ?_] at hperm
  obtain ⟨groups, -, haccounts⟩ := (htried k (Settings.mem_enabled.mp hk)).reports
  exact haccounts.calls

end

theorem toOption_eq_some_iff {launch : Except Fault Call} {call : Call} :
    launch.toOption = some call ↔ launch = .ok call := by
  cases launch <;> simp [Except.toOption]

/-- Where there are as many calls as launches, all of them succeeded. -/
theorem launched_of_length {launched : CheckKind → Option Call} {ks : List CheckKind}
    (hlength : (ks.flatMap fun k => (launched k).toList).length = ks.length) :
    ∀ k ∈ ks, ∃ call, launched k = some call := by
  intro k hk
  rw [← List.filterMap_eq_flatMap_toList, List.filterMap_length_eq_length] at hlength
  exact Option.isSome_iff_exists.mp (hlength k hk)

/-- Settings that enable all checks, with flags, tags and a linter that the workshop has. -/
def furnishedSettings : Settings where
  buildFlags := ["-v".toList]
  buildTags := "slow".toList
  lintTool := some "go".toList
  lintFlags := ["list".toList]
  vetFlags := ["-all".toList]
  coverOnSave := true

/-- In the workshop all four launches succeed, in some order of the steps. -/
theorem furnished_check :
    (∃ seen, workshopChecker.Traced workshop furnishedSettings "/p/a.go".toList { disk := workshopDisk } seen
      (workshopChecker.check workshop furnishedSettings "/p/a.go".toList { disk := workshopDisk })) ∧
    (workshopChecker.check workshop furnishedSettings "/p/a.go".toList { disk := workshopDisk }).1 =
      .ok [workshopFault .error, workshopFault .warning] ∧
    (workshopChecker.check workshop furnishedSettings "/p/a.go".toList { disk := workshopDisk }).2.calls.length = 4 :=
  ⟨interleaved_iff_traced.mp
    (interleaved_check workshopChecker workshop furnishedSettings "/p/a.go".toList { disk := workshopDisk }),
    by decide +kernel, by decide +kernel⟩

end Checker

end SaveCheck
