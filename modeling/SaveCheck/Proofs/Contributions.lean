import SaveCheck.Proofs.Failures
import SaveCheck.Proofs.Launching
import SaveCheck.Proofs.Rooted

/-!
What each check contributes to a whole one.

    build   a.go:3: error: undefined: x        errors, and these alone
    lint    a.go:1: warning: no comment        warnings
    vet     b.go:7: warning: unreachable       warnings
    cover                                      nothing

A check contributes what it comes to by the scenes that its steps found. The whole is put together from the
contributions, so there are errors in it just when the build check contributed anything.
-/

namespace SaveCheck

namespace Work

variable {α ε : Type}

/-- What a work has found once it is done. -/
def found : Work (Except ε (List α)) → List α
  | .done (.ok as) => as
  | _ => []

/-- Where all ends well, it ends with what each work comes to by what its steps found, one after the other. -/
theorem Traced.eq_flatMap {ws : List (Work (Except ε (List α)))} {s : Scene} {seen : List (List Scene)}
    {r : Except ε (List α) × Scene} (h : Traced ws s seen r) :
    ∀ as, r.1 = .ok as → as = (ws.zip seen).flatMap fun p => (p.1.follow p.2).found := by
  induction h with
  | step hlength _ ih =>
    rw [List.zip_append hlength] at ih ⊢
    simpa only [List.zip_cons_cons, List.flatMap_append, List.flatMap_cons, follow] using ih
  | fail => simp
  | @finish parts s =>
    intro as has
    obtain rfl := Except.ok.inj has
    simp only [List.zip_map', List.flatMap_map, follow, found, List.flatten_eq_flatMap]
    rfl

/-- Whatever scenes the steps of a work find, it comes to no result but those that it yields. -/
theorem Yields.of_follow {P : α → Prop} {w : Work α} (hw : Yields P w) :
    ∀ {ss : List Scene} {a : α}, w.follow ss = .done a → P a := by
  induction hw with
  | done ha =>
    intro ss a h
    rw [follow_done] at h
    obtain rfl := Work.done.inj h
    exact ha
  | step _ ih =>
    intro ss a h
    cases ss with
    | nil => cases h
    | cons s ss => exact ih s h

end Work

namespace Checker

variable {c : Checker} {h : Host} {s : Settings} {go file p dir : Path} {scene : Scene} {r : Checked × Scene}
  {seen : CheckKind → List Scene}

/-- A check that is enabled contributes what it came to by the scenes that its steps found. -/
def Contributes (c : Checker) (h : Host) (s : Settings) (file : Path) (seen : CheckKind → List Scene)
    (k : CheckKind) (ds : List Diagnostic) : Prop :=
  ∃ go p dir, c.toolchain.go = some go ∧ target h file = .ok (p, dir) ∧ s.enables k = true ∧
    (c.workOf h go s p dir k).follow (seen k) = .done (.ok ds)

theorem contributes_iff (hgo : c.toolchain.go = some go) (htarget : target h file = .ok (p, dir))
    {k : CheckKind} {ds : List Diagnostic} : c.Contributes h s file seen k ds ↔
      s.enables k = true ∧ (c.workOf h go s p dir k).follow (seen k) = .done (.ok ds) := by
  constructor
  · rintro ⟨go', p', dir', hgo', htarget', henabled, hfollow⟩
    obtain rfl := Option.some.inj (hgo.symm.trans hgo')
    obtain ⟨rfl, rfl⟩ := Prod.mk.inj (Except.ok.inj (htarget.symm.trans htarget'))
    exact ⟨henabled, hfollow⟩
  · exact fun ⟨henabled, hfollow⟩ => ⟨go, p, dir, hgo, htarget, henabled, hfollow⟩

/-- The parts of what a check comes to: all that the checks contribute, in their order. -/
structure Parts (c : Checker) (h : Host) (s : Settings) (file : Path) (seen : CheckKind → List Scene)
    (ds : List Diagnostic) (parts : CheckKind → List Diagnostic) : Prop where
  whole : ds = CheckKind.all.flatMap parts
  finds : ∀ k : CheckKind, ∃ dir, k.Finds dir (parts k)
  contributes : ∀ k : CheckKind, parts k ≠ [] → c.Contributes h s file seen k (parts k)
  eq_part : ∀ (k : CheckKind) found, c.Contributes h s file seen k found → found = parts k

theorem Parts.nil (hnone : ∀ k found, ¬ c.Contributes h s file seen k found) :
    c.Parts h s file seen [] fun _ => [] where
  whole := rfl
  finds := fun k => ⟨[], k.finds_nil []⟩
  contributes := fun _ hne => absurd rfl hne
  eq_part := fun k found hfound => absurd hfound (hnone k found)

/-- A check that succeeds has parts. -/
theorem Traced.parts (hr : c.Traced h s file scene seen r) {ds : List Diagnostic} (hds : r.1 = .ok ds) :
    ∃ parts, c.Parts h s file seen ds parts := by
  rw [Traced] at hr
  split at hr
  · next hgo =>
    rw [hr] at hds
    obtain rfl := Except.ok.inj hds
    refine ⟨_, .nil fun k found => ?_⟩
    rintro ⟨go, p, dir, hsome, -⟩
    simp [hgo] at hsome
  · next go hgo =>
    split at hr
    · split at hr
      · rw [hr] at hds
        cases hds
      · next p dir htarget =>
        have hwhole := hr.eq_flatMap ds hds
        have hdone := hr.of_ok ds hds
        rw [works_eq, List.zip_map'] at hwhole hdone
        rw [List.flatMap_map] at hwhole
        -- a check comes to its part, be it enabled or not
        have hpart : ∀ k, (whenEnabled (s.enables k) (c.workOf h go s p dir k)).follow (seen k) = .done (.ok
            ((whenEnabled (s.enables k) (c.workOf h go s p dir k)).follow (seen k)).found) := by
          intro k
          obtain ⟨found, hfound⟩ := hdone _ (List.mem_map.mpr ⟨k, CheckKind.mem_all k, rfl⟩)
          dsimp only at hfound
          rw [hfound]
          rfl
        refine ⟨_, hwhole, fun k => ⟨dir, (whenEnabled_finds k).of_follow (hpart k) _ rfl⟩, fun k hne => ?_,
          fun k found hfound => ?_⟩
        · rw [contributes_iff hgo htarget]
          have hk := hpart k
          cases henabled : s.enables k with
          | true => simpa [whenEnabled, henabled] using hk
          | false => simp [whenEnabled, henabled, Work.follow_done, Work.found] at hne
        · obtain ⟨henabled, hfollow⟩ := (contributes_iff hgo htarget).mp hfound
          simp [whenEnabled, henabled, hfollow, Work.found]
    · next hany =>
      rw [hr] at hds
      obtain rfl := Except.ok.inj hds
      refine ⟨_, .nil fun k found => ?_⟩
      rintro ⟨go, p, dir, -, -, henabled, -⟩
      simp [Settings.anyEnabled_eq_false_iff.mp (by simpa using hany) k] at henabled

end Checker

/-! ### Other programs -/

/-- The machine with other programs in the same places. -/
def Host.withPrograms (h : Host) (programs : Place → List Text → Place → Outcome) : Host :=
  { h with programs := programs }

theorem Host.args_of_launch {h : Host} {d : Disk} {name : Path} {args : List Text} {dir : Path} {call : Call}
    (hcall : h.launch d name args dir = .ok call) : call.args = args := by
  obtain ⟨-, -, -, -, hargs⟩ := launch_eq_ok_iff.mp hcall
  exact hargs

section

variable {h : Host} {programs : Place → List Text → Place → Outcome} {xs ys : List Scene}

/-- What is left of a run after its launch looks at no scene. -/
theorem ToolRun.follow_rest (r : ToolRun) (launched : Except Fault Call) {ds : List Diagnostic}
    (hlength : ys.length = xs.length) (hdone : (r.rest h launched).follow xs = .done ds) :
    (r.rest h launched).follow ys = .done ds := by
  have hact : ∀ (change : Scene → Scene) (found : List Diagnostic),
      (Work.act change found).follow xs = .done ds → (Work.act change found).follow ys = .done ds := by
    intro change found hdone
    cases xs with
    | nil => cases hdone
    | cons x xs =>
      obtain ⟨y, ys, rfl⟩ := List.exists_cons_of_length_eq_add_one hlength
      rwa [Work.act, Work.follow, Work.follow_done] at hdone ⊢
  have hquiet : (Work.done ([] : List Diagnostic)).follow xs = .done ds →
      (Work.done ([] : List Diagnostic)).follow ys = .done ds := by
    rw [Work.follow_done, Work.follow_done]
    exact id
  cases launched with
  | ok call => exact hact _ _ hdone
  | error fault => cases fault <;> first | exact hact _ _ hdone | exact hquiet hdone

/-- A tool that is found and prints as before finds what it found before. -/
theorem ToolRun.follow_withPrograms {r : ToolRun}
    (hprints : ∀ call : Call, call.args = r.args →
      (programs call.program call.args call.dir).on r.stream = (h.outcome call).on r.stream)
    (hdisks : ys.map Scene.disk = xs.map Scene.disk) {ds : List Diagnostic}
    (hdone : (work h fun _ => r).follow xs = .done ds) :
    (work (h.withPrograms programs) fun _ => r).follow ys = .done ds := by
  match xs, ys with
  | [], _ => cases hdone
  | x :: xs, [] => cases hdisks
  | x :: xs, y :: ys =>
    obtain ⟨hdisk, hdisks⟩ := List.cons.inj hdisks
    rw [work_eq, Work.follow] at hdone ⊢
    have hlaunch : r.launch (h.withPrograms programs) y.disk = r.launch h x.disk := by
      rw [hdisk]
      rfl
    have hrest : r.rest (h.withPrograms programs) (r.launch h x.disk) = r.rest h (r.launch h x.disk) := by
      cases hcall : r.launch h x.disk with
      | ok call =>
        rw [rest, rest, listing, listing, Host.outcome, Host.withPrograms,
          hprints call (Host.args_of_launch hcall)]
      | error fault => cases fault <;> rfl
    rw [hlaunch, hrest]
    exact follow_rest r _ (by simpa using congrArg List.length hdisks) hdone

variable {c : Checker} {s : Settings} {go p dir : Path}

/-- Where builds print what they did, the build check comes to what it did if its steps find the same disks. -/
theorem Checker.follow_build_withPrograms
    (hprints : ∀ (isMain : Bool) (call : Call), call.args = s.buildArgs p isMain c.buildOutput →
      (programs call.program call.args call.dir).err = (h.outcome call).err)
    (hdisks : ys.map Scene.disk = xs.map Scene.disk) {found : List Diagnostic}
    (hdone : (c.buildWork h go s p dir).follow xs = .done (.ok found)) :
    (c.buildWork (h.withPrograms programs) go s p dir).follow ys = .done (.ok found) := by
  match xs, ys with
  | [], _ => cases hdone
  | x :: xs, [] => cases hdisks
  | x :: xs, y :: ys =>
    obtain ⟨hdisk, hdisks⟩ := List.cons.inj hdisks
    simp only [buildWork, Work.follow] at hdone ⊢
    rw [hdisk]
    have hcwd : (h.withPrograms programs).cwd = h.cwd := rfl
    rw [hcwd]
    cases hread : x.disk.read h.cwd p with
    | error fault => simp [hread, Work.follow_done] at hdone
    | ok content =>
      simp only [hread, Work.follow_map] at hdone ⊢
      generalize GoFile.isMain (Utf8.decodeLossy content) = isMain at hdone ⊢
      have hsame : ∀ call : Call, call.args = (c.buildRun go s p dir isMain).args →
          (programs call.program call.args call.dir).on .err = (h.outcome call).on .err :=
        fun call hargs => hprints isMain call hargs
      cases hrun : (ToolRun.work h fun _ => c.buildRun go s p dir isMain).follow xs with
      | step => simp [hrun, Work.map] at hdone
      | done ds =>
        rw [ToolRun.follow_withPrograms hsame hdisks hrun]
        rwa [hrun] at hdone

/-- So it contributes the same. -/
theorem Checker.Contributes.withPrograms {file : Path} {seen seen' : CheckKind → List Scene}
    {found : List Diagnostic} (hfound : c.Contributes h s file seen .build found)
    (hdisks : (seen' .build).map Scene.disk = (seen .build).map Scene.disk)
    (hprints : ∀ (p : Path) (isMain : Bool) (call : Call), call.args = s.buildArgs p isMain c.buildOutput →
      (programs call.program call.args call.dir).err = (h.outcome call).err) :
    c.Contributes (h.withPrograms programs) s file seen' .build found := by
  obtain ⟨go, p, dir, hgo, htarget, henabled, hfollow⟩ := hfound
  exact ⟨go, p, dir, hgo, htarget, henabled, follow_build_withPrograms (hprints p) hdisks hfollow⟩

end

end SaveCheck
