import SaveCheck.Proofs.Concurrency

/-!
When a check fails, whatever the order of its steps.

    build   read ──────── launch ──── report      where the file cannot be read
    lint    launch ─── report                     never
    vet         launch ───────── report           never
    cover   remove ── launch ── write ── read     where the tests cannot be launched, though there is Go,
                                                  or where the profile that is there then is none

A step goes by the scene that it finds. So the scenes that the steps of a check found tell how far the check
has come, and whether it failed.
-/

namespace SaveCheck

namespace Work

variable {α β ε : Type}

/-! ### The scenes that the steps find -/

/-- What is left of a work once its steps found some scenes. -/
def follow : Work α → List Scene → Work α
  | w, [] => w
  | .done a, _ :: _ => .done a
  | .step _ next, s :: ss => (next s).follow ss

theorem follow_done (a : α) (ss : List Scene) : (done a).follow ss = .done a := by
  cases ss <;> rfl

theorem follow_map (f : α → β) : ∀ (w : Work α) (ss : List Scene), (w.map f).follow ss = (w.follow ss).map f
  | w, [] => by cases w <;> rfl
  | .done _, _ :: _ => rfl
  | .step _ next, s :: ss => follow_map f (next s) ss

/-- An order of the steps of some works, with the scenes that the steps of each of them find. -/
inductive Traced : List (Work (Except ε (List α))) → Scene → List (List Scene) →
    Except ε (List α) × Scene → Prop where
  | step {front back : List (Work (Except ε (List α)))} {change : Scene → Scene}
      {next : Scene → Work (Except ε (List α))} {s : Scene} {r : Except ε (List α) × Scene}
      {before after : List (List Scene)} {found : List Scene} :
      front.length = before.length →
      Traced (front ++ next s :: back) (change s) (before ++ found :: after) r →
      Traced (front ++ .step change next :: back) s (before ++ (s :: found) :: after) r
  | fail {ws : List (Work (Except ε (List α)))} {e : ε} {s : Scene} :
      .done (.error e) ∈ ws → Traced ws s (ws.map fun _ => []) (.error e, s)
  | finish {found : List (List α)} {s : Scene} :
      Traced (found.map fun as => .done (.ok as)) s (found.map fun _ => []) (.ok found.flatten, s)

variable {ws : List (Work (Except ε (List α)))} {s : Scene} {seen : List (List Scene)}
  {r : Except ε (List α) × Scene}

theorem Traced.length_eq (h : Traced ws s seen r) : seen.length = ws.length := by
  induction h with
  | step _ _ ih => simpa using ih
  | fail => simp
  | finish => simp

theorem Traced.joins (h : Traced ws s seen r) : Joins ws s r := by
  induction h with
  | step _ _ ih => exact .step ih
  | fail hmem => exact .fail hmem
  | finish => exact .finish

theorem Joins.traced (h : Joins ws s r) : ∃ seen, Traced ws s seen r := by
  induction h with
  | @step front back change next s r _ ih =>
    obtain ⟨seen, htraced⟩ := ih
    -- the work that took the step stands behind `front`, and so do its scenes
    have hlt : front.length < seen.length := by simp [htraced.length_eq]
    have hsplit : seen = seen.take front.length ++ seen[front.length] :: seen.drop (front.length + 1) := by
      rw [← List.drop_eq_getElem_cons hlt, List.take_append_drop]
    rw [hsplit] at htraced
    exact ⟨_, .step (List.length_take_of_le (Nat.le_of_lt hlt)).symm htraced⟩
  | fail hmem => exact ⟨_, .fail hmem⟩
  | finish => exact ⟨_, .finish⟩

/-- An error is one that a work comes to by what its steps found. -/
theorem Traced.of_error (h : Traced ws s seen r) : ∀ e, r.1 = .error e →
    ∃ p ∈ ws.zip seen, p.1.follow p.2 = .done (.error e) := by
  -- a step and the scene that it found leave together, so what each work comes to stays the same
  induction h with
  | step hlength _ ih =>
    rw [List.zip_append hlength] at ih ⊢
    simp only [List.zip_cons_cons, List.mem_append, List.mem_cons, or_and_right, exists_or,
      exists_eq_left, follow] at ih ⊢
    exact ih
  | @fail ws e s hmem =>
    intro e' he
    obtain rfl := Except.error.inj he
    have hzip : ws.zip (ws.map fun _ => []) = ws.map fun w => (w, ([] : List Scene)) := by
      simpa only [List.map_id, id_eq] using List.zip_map' (f := @id (Work (Except ε (List α)))) (l := ws)
    refine ⟨(.done (.error e), []), ?_, rfl⟩
    rw [hzip]
    exact List.mem_map.mpr ⟨_, hmem, rfl⟩
  | finish => simp

/-- Where all ends well, each work does by what its steps found. -/
theorem Traced.of_ok (h : Traced ws s seen r) : ∀ as, r.1 = .ok as →
    ∀ p ∈ ws.zip seen, ∃ bs, p.1.follow p.2 = .done (.ok bs) := by
  induction h with
  | step hlength _ ih =>
    rw [List.zip_append hlength] at ih ⊢
    simp only [List.zip_cons_cons, List.mem_append, List.mem_cons, or_imp, forall_and, forall_eq,
      follow] at ih ⊢
    exact ih
  | fail => simp
  | @finish found s =>
    intro _ _ p hp
    simp only [List.zip_map', List.mem_map] at hp
    obtain ⟨as, -, rfl⟩ := hp
    exact ⟨as, rfl⟩

theorem Traced.fails_iff (h : Traced ws s seen r) :
    (∃ e, r.1 = .error e) ↔ ∃ p ∈ ws.zip seen, ∃ e, p.1.follow p.2 = .done (.error e) := by
  refine ⟨fun ⟨e, he⟩ => ?_, fun ⟨p, hp, e, he⟩ => ?_⟩
  · obtain ⟨p, hp, hfollow⟩ := h.of_error e he
    exact ⟨p, hp, e, hfollow⟩
  · cases hr : r.1 with
    | error e => exact ⟨e, rfl⟩
    | ok as =>
      obtain ⟨bs, hbs⟩ := h.of_ok as hr p hp
      rw [he] at hbs
      cases hbs

/-- A work with no error among its results comes to none. -/
theorem follow_map_ok_ne (w : Work α) (ss : List Scene) (e : ε) :
    (w.map (.ok : α → Except ε α)).follow ss ≠ .done (.error e) := by
  rw [follow_map]
  cases w.follow ss <;> simp [map]

end Work

namespace Checker

/-! ### What makes a check fail -/

/-- The build check could not read the file. -/
def SourceUnread (h : Host) (file : Path) (seen : List Scene) : Prop :=
  ∃ found, seen[0]? = some found ∧ ∃ fault, found.disk.read h.cwd file = .error fault

/-- The tests could not be launched, and not because there is no Go. -/
def TestsRefused (c : Checker) (h : Host) (go : Path) (s : Settings) (dir : Path) (seen : List Scene) : Prop :=
  ∃ found, seen[1]? = some found ∧
    ∃ fault, h.launch found.disk go (s.coverArgs c.profile) dir = .error fault ∧ fault ≠ .missing

/-- The tests were launched, and then the text where the profile is to be was none. -/
def ProfileRejected (c : Checker) (h : Host) (go : Path) (s : Settings) (dir : Path) (seen : List Scene) :
    Prop :=
  ∃ found, seen[1]? = some found ∧
    (∃ call, h.launch found.disk go (s.coverArgs c.profile) dir = .ok call) ∧
    ∃ left, seen[3]? = some left ∧ ∃ text, left.disk.readText h.cwd c.profile = .ok text ∧
      ∃ e, Coverage.Profile.parse text = .error e

variable {c : Checker} {h : Host} {s : Settings} {go file dir : Path}

theorem build_fails_iff (seen : List Scene) :
    (∃ e, (c.buildWork h go s file dir).follow seen = .done (.error e)) ↔ SourceUnread h file seen := by
  match seen with
  | [] => simp [buildWork, Work.follow, SourceUnread]
  | found :: seen =>
    simp only [buildWork, Work.follow, SourceUnread, List.getElem?_cons_zero, Option.some.injEq,
      exists_eq_left']
    cases found.disk.read h.cwd file with
    | error fault => simp [Work.follow_done]
    | ok content => simp [Work.follow_map_ok_ne]

theorem reading_fails_iff (profile : Path) (seen : List Scene) :
    (∃ e, (Coverage.reading h profile file dir).follow seen = .done (.error e)) ↔
      ∃ left, seen[0]? = some left ∧ ∃ text, left.disk.readText h.cwd profile = .ok text ∧
        ∃ e, Coverage.Profile.parse text = .error e := by
  match seen with
  | [] => simp [Coverage.reading, Work.follow]
  | left :: seen =>
    simp only [Coverage.reading_eq, Work.follow, List.getElem?_cons_zero, Option.some.injEq, exists_eq_left']
    cases left.disk.readText h.cwd profile with
    | error fault => cases seen <;> simp [Coverage.afterReading, Work.act, Work.follow, Work.follow_done]
    | ok text =>
      cases hparse : Coverage.Profile.parse text with
      | error e => simp [Coverage.afterReading, hparse, Work.follow_done]
      | ok p =>
        cases seen <;> simp [Coverage.afterReading, hparse, Work.act, Work.follow, Work.follow_done]

theorem cover_fails_iff (seen : List Scene) :
    (∃ e, (Coverage.work h go c.profile s file dir).follow seen = .done (.error e)) ↔
      TestsRefused c h go s dir seen ∨ ProfileRejected c h go s dir seen := by
  match seen with
  | [] => simp [Coverage.work, Work.follow, TestsRefused, ProfileRejected]
  | [_] => simp [Coverage.work, Work.follow, TestsRefused, ProfileRejected]
  | _ :: found :: seen =>
    simp only [Coverage.work_eq, Coverage.testing, Work.follow, TestsRefused, ProfileRejected,
      List.getElem?_cons_succ, List.getElem?_cons_zero, Option.some.injEq, exists_eq_left']
    cases h.launch found.disk go (s.coverArgs c.profile) dir with
    | ok call =>
      match seen with
      | [] => simp [Coverage.afterLaunch, Work.follow]
      | _ :: seen => simp [Coverage.afterLaunch, Work.follow, reading_fails_iff]
    | error fault =>
      cases fault with
      | missing => cases seen <;> simp [Coverage.afterLaunch, Work.act, Work.follow, Work.follow_done]
      | _ => simp [Coverage.afterLaunch, Work.follow_done]

theorem enabled_fails_iff (k : CheckKind) (seen : List Scene) :
    (∃ e, (whenEnabled (s.enables k) (c.workOf h go s file dir k)).follow seen = .done (.error e)) ↔
      s.enables k ∧ match k with
        | .build => SourceUnread h file seen
        | .lint | .vet => False
        | .cover => TestsRefused c h go s dir seen ∨ ProfileRejected c h go s dir seen := by
  cases hk : s.enables k with
  | false => simp [whenEnabled, Work.follow_done]
  | true =>
    simp only [whenEnabled, if_true, true_and]
    cases k with
    | build => exact build_fails_iff seen
    | lint | vet => simp [workOf, lintWork, vetWork, Work.follow_map_ok_ne]
    | cover => exact cover_fails_iff seen

/-! ### A whole check -/

/-- An order in which the enabled checks take their steps, with the scenes that the steps of each find. -/
def Traced (c : Checker) (h : Host) (s : Settings) (file : Path) (scene : Scene)
    (seen : CheckKind → List Scene) (r : Checked × Scene) : Prop :=
  match c.toolchain.go with
  | none => r = (.ok [], scene.tell .goNotFound)
  | some go =>
    if s.anyEnabled then
      match target h file with
      | .error e => r = (.error e, scene)
      | .ok (p, dir) => Work.Traced (c.works h go s p dir) scene (CheckKind.all.map seen) r
    else r = (.ok [], scene)

variable {scene : Scene} {r : Checked × Scene}

/-- Whatever a check can come to it comes to in some order, where its steps find some scenes. -/
theorem interleaved_iff_traced :
    c.Interleaved h s file scene r ↔ ∃ seen, c.Traced h s file scene seen r := by
  unfold Interleaved Traced
  cases c.toolchain.go with
  | none => simp
  | some go =>
    dsimp only
    split
    · cases target h file with
      | error e => simp
      | ok found =>
        refine ⟨fun hjoins => ?_, fun ⟨_, htraced⟩ => htraced.joins⟩
        obtain ⟨seen, htraced⟩ := hjoins.traced
        obtain ⟨of, hof⟩ : ∃ of : CheckKind → List Scene, seen = CheckKind.all.map of := by
          match seen, htraced.length_eq with
          | [build, lint, vet, cover], _ =>
            exact ⟨fun | .build => build | .lint => lint | .vet => vet | .cover => cover, rfl⟩
        exact ⟨of, hof ▸ htraced⟩
    · simp

/-- No file is meant, or none that lies in a directory. -/
theorem target_fails_iff : (∃ e, target h file = .error e) ↔
    file = [] ∨ ∃ p, Path.absolute? h.cwdPath file = some p ∧ Path.parent? p = none := by
  by_cases hfile : file = []
  · simp [target, Path.absolute?, hfile]
  · obtain ⟨p, hp⟩ : ∃ p, Path.absolute? h.cwdPath file = some p := by simp [Path.absolute?, hfile]
    cases hdir : Path.parent? p <;> simp [target, hp, hdir, hfile]

theorem Traced.enabled_fails_iff {seen : CheckKind → List Scene} {p : Path}
    (hgo : c.toolchain.go = some go) (hany : s.anyEnabled) (htarget : target h file = .ok (p, dir))
    (hr : c.Traced h s file scene seen r) :
    (∃ e, r.1 = .error e) ↔ s.buildOnSave ∧ SourceUnread h p (seen .build) ∨
      s.coverOnSave ∧ (c.TestsRefused h go s dir (seen .cover) ∨
        c.ProfileRejected h go s dir (seen .cover)) := by
  have htraced : Work.Traced (c.works h go s p dir) scene (CheckKind.all.map seen) r := by
    simpa only [Traced, hgo, hany, htarget, if_true] using hr
  have hsome : (∃ e, r.1 = .error e) ↔ ∃ k, ∃ e,
      (whenEnabled (s.enables k) (c.workOf h go s p dir k)).follow (seen k) = .done (.error e) := by
    rw [htraced.fails_iff, works_eq, List.zip_map']
    simp only [List.mem_map, CheckKind.mem_all, true_and, exists_exists_eq_and]
  rw [hsome]
  simp only [Checker.enabled_fails_iff]
  refine ⟨fun ⟨k, hk, hwhy⟩ => ?_, ?_⟩
  · cases k with
    | build => exact .inl ⟨hk, hwhy⟩
    | lint | vet => exact hwhy.elim
    | cover => exact .inr ⟨hk, hwhy⟩
  · rintro (hwhy | hwhy)
    · exact ⟨.build, hwhy⟩
    · exact ⟨.cover, hwhy⟩

/-- A check fails in the cases that are listed here and in no other, whatever the order of its steps: there
is no directory to check in, the build check cannot read the file, the tests cannot be launched though there
is Go, or they were launched and what is then in the place of the profile is no profile. Without Go, or with
nothing enabled, it comes to nothing. -/
theorem check_fails_iff (c : Checker) (h : Host) (s : Settings) (file : Path) (scene : Scene) :
    c.Interleaved h s file scene (c.check h s file scene) ∧
      (∀ r, c.Interleaved h s file scene r ↔ ∃ seen, c.Traced h s file scene seen r) ∧
      ∀ seen r, c.Traced h s file scene seen r →
        ((∃ e, r.1 = .error e) ↔ ∃ go, c.toolchain.go = some go ∧ s.anyEnabled ∧
          ((file = [] ∨ ∃ p, Path.absolute? h.cwdPath file = some p ∧ Path.parent? p = none) ∨
            ∃ p dir, target h file = .ok (p, dir) ∧
              (s.buildOnSave ∧ SourceUnread h p (seen .build) ∨
                s.coverOnSave ∧ (c.TestsRefused h go s dir (seen .cover) ∨
                  c.ProfileRejected h go s dir (seen .cover))))) ∧
        (c.toolchain.go = none ∨ s.anyEnabled = false → r.1 = .ok []) := by
  refine ⟨interleaved_check c h s file scene, fun r => interleaved_iff_traced, fun seen r hr => ?_⟩
  cases hgo : c.toolchain.go with
  | none =>
    obtain rfl : r = _ := by simpa only [Traced, hgo] using hr
    simp
  | some go =>
    cases hany : s.anyEnabled with
    | false =>
      obtain rfl : r = _ := by simpa only [Traced, hgo, hany, Bool.false_eq_true, if_false] using hr
      simp
    | true =>
      simp only [reduceCtorEq, false_or, false_implies, and_true, Option.some.injEq, exists_eq_left', true_and]
      rw [← target_fails_iff]
      cases htarget : target h file with
      | error e =>
        obtain rfl : r = _ := by simpa only [Traced, hgo, hany, htarget, if_true] using hr
        simp
      | ok found =>
        obtain ⟨p, dir⟩ := found
        rw [hr.enabled_fails_iff hgo hany htarget]
        simp

/-- In the workshop a check of a source that is not there fails, as the build check cannot read it. -/
theorem check_fails_unread : ∃ seen,
    workshopChecker.Traced workshop {} "/p/b.go".toList { disk := workshopDisk } seen
        (workshopChecker.check workshop {} "/p/b.go".toList { disk := workshopDisk }) ∧
      SourceUnread workshop "/p/b.go".toList (seen .build) := by
  obtain ⟨hcheck, htraced, hfails⟩ :=
    check_fails_iff workshopChecker workshop {} "/p/b.go".toList { disk := workshopDisk }
  obtain ⟨seen, hseen⟩ := (htraced _).mp hcheck
  refine ⟨seen, hseen, ?_⟩
  have herror : (workshopChecker.check workshop {} "/p/b.go".toList { disk := workshopDisk }).1 =
      .error (.unreadable "/p/b.go".toList .missing) := by decide +kernel
  obtain ⟨go, -, -, hwhy⟩ := (hfails seen _ hseen).1.mp ⟨_, herror⟩
  have htarget : target workshop "/p/b.go".toList = .ok ("/p/b.go".toList, "/p".toList) := rfl
  rcases hwhy with hnone | ⟨p, dir, hfound, hwhy⟩
  · obtain ⟨e, he⟩ := target_fails_iff.mpr hnone
    rw [htarget] at he
    cases he
  · obtain ⟨rfl, rfl⟩ := Prod.mk.inj (Except.ok.inj (htarget.symm.trans hfound))
    rcases hwhy with ⟨-, hunread⟩ | ⟨hcover, -⟩
    · exact hunread
    · cases hcover

end Checker

end SaveCheck
