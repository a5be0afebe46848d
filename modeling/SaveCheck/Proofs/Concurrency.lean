import SaveCheck.Proofs.Independence

/-!
A whole check with the steps of its checks in any order.

    build   read ──────── launch ──── report
    lint    launch ─── report                      comes to  build ++ lint ++ vet ++ cover
    vet         launch ───────── report
    cover   remove ── launch ── write ── read

The checks end together, or with the first that fails. Where they are independent, it all comes to what each
of them comes to alone.
-/

namespace SaveCheck.Checker

variable (c : Checker) (h : Host) (s : Settings) (file : Path)

/-- What a check of a file can come to when the enabled checks take their steps in some order. -/
def Interleaved (scene : Scene) (r : Checked × Scene) : Prop :=
  match c.toolchain.go with
  | none => r = (.ok [], scene.tell .goNotFound)
  | some go =>
    if s.anyEnabled then
      match target h file with
      | .error e => r = (.error e, scene)
      | .ok (p, dir) => Work.Joins (c.works h go s p dir) scene r
    else r = (.ok [], scene)

/-- The order in which the checks are done is one of them. -/
theorem interleaved_check (scene : Scene) : c.Interleaved h s file scene (c.check h s file scene) := by
  unfold Interleaved check
  cases c.toolchain.go with
  | none => rfl
  | some go =>
    dsimp only
    split
    · cases target h file with
      | error e => rfl
      | ok found => exact Work.joins_runInTurns _ _ scene
    · rfl

/-- What one check comes to from a disk on, with the others switched off. -/
def alone (d : Disk) (k : CheckKind) : Checked × Scene := c.check h (s.only k) file { disk := d }

variable {c h s file} {go p dir : Path} {k : CheckKind}

/-- What a check does is not up to the switches. -/
theorem workOf_only (j k : CheckKind) :
    c.workOf h go (s.only k) p dir j = c.workOf h go s p dir j := by
  cases j <;> rfl

theorem works_only (hk : s.enables k) : ∃ m n, c.works h go (s.only k) p dir =
    List.replicate m .idle ++ c.workOf h go s p dir k :: List.replicate n .idle := by
  simp only [works_eq, workOf_only, Settings.enables_only, CheckKind.all, List.map_cons, List.map_nil]
  cases k with
  | build => exact ⟨0, 3, by simp [whenEnabled, hk, Work.idle]⟩
  | lint => exact ⟨1, 2, by simp [whenEnabled, hk, Work.idle]⟩
  | vet => exact ⟨2, 1, by simp [whenEnabled, hk, Work.idle]⟩
  | cover => exact ⟨3, 0, by simp [whenEnabled, hk, Work.idle]⟩

/-- Alone, a check is its work. -/
theorem alone_eq (hgo : c.toolchain.go = some go) (htarget : target h file = .ok (p, dir))
    (hk : s.enables k) (d : Disk) :
    c.alone h s file d k = (c.workOf h go s p dir k).run { disk := d } := by
  have hany : (s.only k).anyEnabled := by
    cases k <;> simp_all [Settings.enables, Settings.only, Settings.anyEnabled]
  obtain ⟨m, n, hworks⟩ : ∃ m n, c.works h go (s.only k) p dir =
      List.replicate m .idle ++ c.workOf h go s p dir k :: List.replicate n .idle :=
    works_only hk
  simp only [alone, check, hgo, hany, htarget, if_true]
  rw [hworks, Work.runInTurns_only]

/-! ### The enabled checks together -/

/-- A check as one of the parties, with what it comes to when nothing else goes on. -/
def party (c : Checker) (h : Host) (go : Path) (s : Settings) (p dir : Path) (d : Disk) (k : CheckKind) :
    Work.Party Checked :=
  let w := whenEnabled (s.enables k) (c.workOf h go s p dir k)
  { work := w
    contract := c.contract h go s p dir d k
    result := (w.run { disk := d }).1
    notices := (w.run { disk := d }).2.notices
    calls := (w.run { disk := d }).2.calls }

theorem party_settled (d : Disk) (k : CheckKind) : (c.party h go s p dir d k).Settled d := by
  have hhere : (c.contract h go s p dir d k).rely d d := ⟨.start, fun _ => rfl⟩
  refine ⟨hhere, Work.Settling.run ?_ hhere⟩
  simp only [party]
  rcases hk : s.enables k with _ | _
  · exact .done _
  · exact workOf_settling hk

theorem party_spares {d : Disk} (hind : c.Independent h go s p dir d) {j k : CheckKind} (hjk : j ≠ k) :
    (c.party h go s p dir d j).Spares (c.party h go s p dir d k) := by
  rintro d₁ d₂ ⟨hd, rfl | ⟨hj, hdoes⟩⟩
  · exact ⟨hd, fun _ => rfl⟩
  · exact ⟨.step hd hj hdoes, fun hk => hind j k hj hk hjk d₁ d₂ hd hdoes⟩

theorem parties_spare {d : Disk} (hind : c.Independent h go s p dir d) :
    (CheckKind.all.map (c.party h go s p dir d)).Pairwise fun q r => q.Spares r ∧ r.Spares q := by
  have hnodup : CheckKind.all.Pairwise (· ≠ ·) := by decide
  exact List.pairwise_map.mpr (hnodup.imp fun hjk => ⟨party_spares hind hjk, party_spares hind hjk.symm⟩)

/-- Where a function is blank on the disabled checks, only the enabled ones count. -/
theorem flatMap_enabled {β : Type} {f g : CheckKind → List β} (hon : ∀ k, s.enables k → f k = g k)
    (hoff : ∀ k, s.enables k = false → f k = []) : CheckKind.all.flatMap f = s.enabled.flatMap g := by
  rw [Settings.enabled]
  induction CheckKind.all with
  | nil => rfl
  | cons k ks ih =>
    rcases hk : s.enables k with _ | _
    · simp [hoff k hk, hk, ih]
    · simp [hon k hk, hk, ih]

theorem party_eq_alone (hgo : c.toolchain.go = some go) (htarget : target h file = .ok (p, dir))
    (hk : s.enables k) (d : Disk) :
    (c.party h go s p dir d k).result = (c.alone h s file d k).1 ∧
      (c.party h go s p dir d k).notices = (c.alone h s file d k).2.notices ∧
      (c.party h go s p dir d k).calls = (c.alone h s file d k).2.calls := by
  simp [party, whenEnabled, hk, alone_eq hgo htarget hk]

theorem party_of_disabled (hk : s.enables k = false) (d : Disk) :
    (c.party h go s p dir d k).result = .ok [] ∧ (c.party h go s p dir d k).notices = [] ∧
      (c.party h go s p dir d k).calls = [] := by
  simp [party, whenEnabled, hk, Work.run]

/-- The diagnostics that a check comes to, if it comes to any. -/
def diagnosed (r : Checked) : List Diagnostic := r.toOption.getD []

theorem diagnosed_of_ok {r : Checked} {ds : List Diagnostic} (hr : r = .ok ds) : r = .ok (diagnosed r) := by
  subst hr
  rfl

theorem all_diagnosed {result : CheckKind → Checked} : ∀ (ks : List CheckKind)
    (found : List (List Diagnostic)), ks.map result = found.map .ok →
      (∀ k ∈ ks, result k = .ok (diagnosed (result k))) ∧
        found.flatten = ks.flatMap fun k => diagnosed (result k)
  | [], [], _ => by simp
  | k :: ks, ds :: found, hfound => by
    simp only [List.map_cons, List.cons.injEq] at hfound
    obtain ⟨hrest, hflat⟩ := all_diagnosed ks found hfound.2
    simp only [List.mem_cons, forall_eq_or_imp, List.flatten_cons, List.flatMap_cons, hflat]
    exact ⟨⟨diagnosed_of_ok hfound.1, hrest⟩, by rw [hfound.1]; rfl⟩

section

variable {scene : Scene} (hgo : c.toolchain.go = some go) (hany : s.anyEnabled)
  (htarget : target h file = .ok (p, dir)) (hind : c.Independent h go s p dir scene.disk)
include hgo hany htarget hind

theorem Interleaved.outcome {r : Checked × Scene} (hr : c.Interleaved h s file scene r) :
    Work.Outcome (CheckKind.all.map (c.party h go s p dir scene.disk)) scene r := by
  have hjoins : Work.Joins (c.works h go s p dir) scene r := by
    simpa only [Interleaved, hgo, hany, htarget, if_true] using hr
  refine hjoins.outcome _ (by simp [works_eq, party]) ?_ (parties_spare hind)
  simpa using fun k _ => party_settled scene.disk k

/-- In every order either all that the enabled checks come to alone comes together, or one of their errors
is the result. -/
theorem Interleaved.cases_alone {r : Checked × Scene} (hr : c.Interleaved h s file scene r) :
    (∃ found : CheckKind → List Diagnostic, r.1 = .ok (s.enabled.flatMap found) ∧
      (∀ k ∈ s.enabled, (c.alone h s file scene.disk k).1 = .ok (found k)) ∧
      r.2.notices.Perm
        (scene.notices ++ s.enabled.flatMap fun k => (c.alone h s file scene.disk k).2.notices) ∧
      r.2.calls.Perm
        (scene.calls ++ s.enabled.flatMap fun k => (c.alone h s file scene.disk k).2.calls)) ∨
    ∃ e, r.1 = .error e ∧ ∃ k ∈ s.enabled, (c.alone h s file scene.disk k).1 = .error e := by
  rcases hr.outcome hgo hany htarget hind with ⟨found, hfound, hr, hns, hcs⟩ | ⟨q, hq, e, he, hr⟩
  · rw [List.map_map] at hfound
    obtain ⟨hall, hflat⟩ := all_diagnosed CheckKind.all found hfound
    refine .inl ⟨fun k => diagnosed (c.alone h s file scene.disk k).1, ?_, fun k hk => ?_, ?_, ?_⟩
    · rw [hr, hflat]
      exact congrArg _ (flatMap_enabled
        (fun k hk => congrArg diagnosed (party_eq_alone hgo htarget hk scene.disk).1)
        fun k hk => congrArg diagnosed (party_of_disabled hk scene.disk).1)
    · dsimp only
      rw [← (party_eq_alone hgo htarget (Settings.mem_enabled.mp hk) scene.disk).1]
      exact hall k (CheckKind.mem_all k)
    · rw [List.flatMap_map] at hns
      rwa [← flatMap_enabled (fun k hk => (party_eq_alone hgo htarget hk scene.disk).2.1)
        fun k hk => (party_of_disabled hk scene.disk).2.1]
    · rw [List.flatMap_map] at hcs
      rwa [← flatMap_enabled (fun k hk => (party_eq_alone hgo htarget hk scene.disk).2.2)
        fun k hk => (party_of_disabled hk scene.disk).2.2]
  · obtain ⟨k, _, rfl⟩ := List.mem_map.mp hq
    have hk : s.enables k := by
      by_contra hk
      rw [(party_of_disabled (by simpa using hk) _).1] at he
      cases he
    rw [(party_eq_alone hgo htarget hk _).1] at he
    exact .inr ⟨e, hr, k, Settings.mem_enabled.mpr hk, he⟩

end

/-- Independent checks come to the same in every order of their steps: to what each of them comes to alone,
or to an error that one of them comes to alone. -/
theorem interleaved_iff_alone (scene : Scene) (hgo : c.toolchain.go = some go) (hany : s.anyEnabled)
    (htarget : target h file = .ok (p, dir)) (hind : c.Independent h go s p dir scene.disk) :
    c.Interleaved h s file scene (c.check h s file scene) ∧
      ∀ r, c.Interleaved h s file scene r →
        ((∃ ds, r.1 = .ok ds) ↔ ∀ k ∈ s.enabled, ∃ ds, (c.alone h s file scene.disk k).1 = .ok ds) ∧
        (∀ ds, r.1 = .ok ds →
          (∃ found : CheckKind → List Diagnostic, ds = s.enabled.flatMap found ∧
            ∀ k ∈ s.enabled, (c.alone h s file scene.disk k).1 = .ok (found k)) ∧
          r.2.notices.Perm
            (scene.notices ++ s.enabled.flatMap fun k => (c.alone h s file scene.disk k).2.notices) ∧
          r.2.calls.Perm
            (scene.calls ++ s.enabled.flatMap fun k => (c.alone h s file scene.disk k).2.calls)) ∧
        ∀ e, r.1 = .error e → ∃ k ∈ s.enabled, (c.alone h s file scene.disk k).1 = .error e := by
  refine ⟨interleaved_check c h s file scene, fun r hr => ?_⟩
  rcases hr.cases_alone hgo hany htarget hind with ⟨found, hr, hall, hns, hcs⟩ | ⟨e, hr, k, hk, he⟩
  · refine ⟨⟨fun _ k hk => ⟨found k, hall k hk⟩, fun _ => ⟨_, hr⟩⟩, fun ds hds => ?_, fun e he => ?_⟩
    · rw [hr] at hds
      exact ⟨⟨found, (Except.ok.inj hds).symm, hall⟩, hns, hcs⟩
    · rw [hr] at he
      cases he
  · refine ⟨⟨fun hok => ?_, fun hall => ?_⟩, fun ds hok => ?_, fun e' he' => ?_⟩
    · simp [hr] at hok
    · obtain ⟨ds, hds⟩ := hall k hk
      rw [he] at hds
      cases hds
    · rw [hr] at hok
      cases hok
    · rw [hr] at he'
      exact ⟨k, hk, he.trans he'⟩

/-- So all orders come to the same diagnostics, or to none. -/
theorem Interleaved.toOption_eq {scene : Scene} (hind : ∀ go p dir, c.toolchain.go = some go →
    target h file = .ok (p, dir) → c.Independent h go s p dir scene.disk) {r r' : Checked × Scene}
    (hr : c.Interleaved h s file scene r) (hr' : c.Interleaved h s file scene r') :
    r.1.toOption = r'.1.toOption := by
  cases hgo : c.toolchain.go with
  | none =>
    simp only [Interleaved, hgo] at hr hr'
    rw [hr, hr']
  | some go =>
    cases hany : s.anyEnabled with
    | false =>
      simp only [Interleaved, hgo, hany, Bool.false_eq_true, if_false] at hr hr'
      rw [hr, hr']
    | true =>
      cases htarget : target h file with
      | error e =>
        simp only [Interleaved, hgo, hany, htarget, if_true] at hr hr'
        rw [hr, hr']
      | ok found =>
        have hindependent := hind go found.1 found.2 hgo htarget
        rcases hr.cases_alone hgo hany htarget hindependent with ⟨ds, hok, hall, -⟩ | ⟨e, herror, k, hk, he⟩
        · rcases hr'.cases_alone hgo hany htarget hindependent with ⟨ds', hok', hall', -⟩ | ⟨e, -, k, hk, he⟩
          · have hsame : ∀ k ∈ s.enabled, ds k = ds' k :=
              fun k hk => Except.ok.inj ((hall k hk).symm.trans (hall' k hk))
            rw [hok, hok', List.flatMap_congr hsame]
          · rw [hall k hk] at he
            cases he
        · rcases hr'.cases_alone hgo hany htarget hindependent with ⟨ds, -, hall, -⟩ | ⟨e', herror', -⟩
          · rw [hall k hk] at he
            cases he
          · rw [herror, herror']
            rfl

/-! ### A machine where they are independent -/

/-- A machine on which every program finds the same fault, and the tests write a profile. -/
def workshop : Host where
  environment := { path := some "/b".toList, temp := "/t".toList }
  cwd := []
  programs _ args _ :=
    { err := Utf8.encode "a.go:1:1: odd\n".toList
      writes := if args.head? = some "test".toList then
        [("/t/cover".toList, Utf8.encode "mode: set\n".toList)] else [] }

/-- Its disk, with Go and a source, and neither linter nor profile. -/
def workshopDisk : Disk where
  node? place :=
    if place ∈ [[], ["b".toList], ["t".toList], ["p".toList]] then some .directory
    else if place = ["b".toList, "go".toList] then some (.file [] true)
    else if place = ["p".toList, "a.go".toList] then
      some (.file (Utf8.encode "package a\n".toList) false)
    else none

/-- Its disk with the profile that the tests write. -/
def testedDisk : Disk :=
  workshopDisk.set ["t".toList, "cover".toList] (some (.file (Utf8.encode "mode: set\n".toList) false))

def workshopChecker : Checker where
  toolchain := ⟨some "/b/go".toList, ["/b".toList]⟩
  buildOutput := "/t/out".toList
  profile := "/t/cover".toList

def workshopSettings : Settings := { coverOnSave := true }

theorem workshop_reached {d : Disk} (hd : workshopChecker.Reached workshop "/b/go".toList workshopSettings
    "/p/a.go".toList "/p".toList workshopDisk d) : d = workshopDisk ∨ d = testedDisk := by
  induction hd with
  | start => exact .inl rfl
  | @step k _ _ _ _ hdoes ih =>
    cases k with
    | build =>
      obtain ⟨content, hread, rfl⟩ := hdoes
      rcases ih with rfl | rfl <;> obtain rfl := Except.ok.inj hread
      · exact .inl rfl
      · exact .inr rfl
    | lint => rcases ih with rfl | rfl <;> obtain rfl := hdoes <;> [left; right] <;> rfl
    | vet => rcases ih with rfl | rfl <;> obtain rfl := hdoes <;> [left; right] <;> rfl
    | cover =>
      rcases ih with rfl | rfl <;> rcases hdoes with rfl | rfl
      · exact .inl rfl
      · exact .inr rfl
      · exact .inl ((Disk.set_set ..).trans (Disk.set_eq_self rfl))
      · exact .inr (Disk.set_set ..)

theorem workshop_independent : workshopChecker.Independent workshop "/b/go".toList workshopSettings
    "/p/a.go".toList "/p".toList workshopDisk := by
  have hsame : ∀ d₁ d₂, d₁ = workshopDisk ∨ d₁ = testedDisk → d₂ = workshopDisk ∨ d₂ = testedDisk →
      ∀ k, k ≠ .cover →
        workshopChecker.finds workshop "/b/go".toList workshopSettings "/p/a.go".toList "/p".toList d₂ k =
        workshopChecker.finds workshop "/b/go".toList workshopSettings "/p/a.go".toList "/p".toList d₁ k := by
    rintro _ _ (rfl | rfl) (rfl | rfl) k hk <;> cases k <;> first | rfl | exact absurd rfl hk
  intro j k hj _ hjk d₁ d₂ hd hdoes
  by_cases hk : k = .cover
  · subst hk
    have hstill : d₂ = d₁ := by
      cases j with
      | build =>
        obtain ⟨content, hread, rfl⟩ := hdoes
        rcases workshop_reached hd with rfl | rfl <;> obtain rfl := Except.ok.inj hread <;> rfl
      | lint => rcases workshop_reached hd with rfl | rfl <;> obtain rfl := hdoes <;> rfl
      | vet => rcases workshop_reached hd with rfl | rfl <;> obtain rfl := hdoes <;> rfl
      | cover => exact absurd rfl hjk
    rw [hstill]
  · exact hsame d₁ d₂ (workshop_reached hd) (workshop_reached (.step hd hj hdoes)) k hk

/-- The fault that every program finds. -/
def workshopFault (severity : Severity) : Diagnostic := ⟨"/p/a.go".toList, 1, some 1, "odd".toList, severity⟩

/-- On the disk of the workshop the checks are independent. In every order a check of the source comes to
the fault that the build finds and the one that vetting finds, and tells once that there is no linter. -/
theorem interleaved_workshop :
    workshopChecker.Independent workshop "/b/go".toList workshopSettings "/p/a.go".toList "/p".toList
        workshopDisk ∧
      ∀ r, workshopChecker.Interleaved workshop workshopSettings "/p/a.go".toList
          { disk := workshopDisk } r →
        r.1 = .ok [workshopFault .error, workshopFault .warning] ∧
          r.2.notices = [.install "golint".toList] := by
  have htarget : target workshop "/p/a.go".toList = .ok ("/p/a.go".toList, "/p".toList) := rfl
  obtain ⟨-, hall⟩ :=
    interleaved_iff_alone { disk := workshopDisk } rfl rfl htarget workshop_independent
  refine ⟨workshop_independent, fun r hr => ?_⟩
  obtain ⟨hok, hfound, -⟩ := hall r hr
  obtain ⟨ds, hds⟩ := hok.mpr fun k _ => by cases k <;> exact ⟨_, rfl⟩
  obtain ⟨⟨found, rfl, hall⟩, hns, -⟩ := hfound ds hds
  have hbuild : found .build = [workshopFault .error] :=
    Except.ok.inj ((hall .build (by decide)).symm.trans (by decide +kernel))
  have hlint : found .lint = [] :=
    Except.ok.inj ((hall .lint (by decide)).symm.trans (by decide +kernel))
  have hvet : found .vet = [workshopFault .warning] :=
    Except.ok.inj ((hall .vet (by decide)).symm.trans (by decide +kernel))
  have hcover : found .cover = [] :=
    Except.ok.inj ((hall .cover (by decide)).symm.trans (by decide +kernel))
  refine ⟨?_, List.perm_singleton.mp hns⟩
  rw [hds, show workshopSettings.enabled = [.build, .lint, .vet, .cover] from rfl]
  simp [hbuild, hlint, hvet, hcover]

/-! ### Machines where they are not -/

/-- A machine with a linter that rewrites the source. Go finds the fault in any package but a program. -/
def rewriting : Host where
  environment := { path := some "/b".toList, temp := "/t".toList }
  cwd := []
  programs place args _ :=
    if place = ["b".toList, "fmt".toList] then
      { writes := [("/p/a.go".toList, Utf8.encode "package main\n".toList)] }
    else if args[1]? = some "-i".toList then { err := Utf8.encode "a.go:1:1: odd\n".toList }
    else {}

def rewritingDisk : Disk := workshopDisk.set ["b".toList, "fmt".toList] (some (.file [] true))

def rewritingSettings : Settings := { lintTool := some "fmt".toList, vetOnSave := false }

/-- A checker that has the tests write their profile where Go is. -/
def clearingChecker : Checker := { workshopChecker with profile := "/b/go".toList }

def clearingSettings : Settings := { lintOnSave := false, vetOnSave := false, coverOnSave := true }

/-- Checks that are not independent can come to what none of them comes to alone. The build alone finds the
fault. It does not find it when the linter has rewritten the source before, and it does not find Go when the
tests have removed what stands in the place of their profile. -/
theorem interleaved_ne_alone :
    ((workshopChecker.alone rewriting rewritingSettings "/p/a.go".toList rewritingDisk .build).1 =
        .ok [workshopFault .error] ∧
      (workshopChecker.alone rewriting rewritingSettings "/p/a.go".toList rewritingDisk .lint).1 = .ok [] ∧
      ∃ r, workshopChecker.Interleaved rewriting rewritingSettings "/p/a.go".toList
        { disk := rewritingDisk } r ∧ r.1 = .ok []) ∧
    (clearingChecker.alone workshop clearingSettings "/p/a.go".toList workshopDisk .build).1 =
        .ok [workshopFault .error] ∧
      (clearingChecker.alone workshop clearingSettings "/p/a.go".toList workshopDisk .cover).1 = .ok [] ∧
      ∃ r, clearingChecker.Interleaved workshop clearingSettings "/p/a.go".toList { disk := workshopDisk } r ∧
        r.1 = .ok [] ∧ r.2.calls = [] := by
  refine ⟨⟨by decide +kernel, by decide +kernel, ?_⟩, by decide +kernel, by decide +kernel, ?_⟩
  · -- the linter takes its first step before the source is read
    exact ⟨_, Work.joins_runInTurns [1] (workshopChecker.works rewriting "/b/go".toList rewritingSettings
      "/p/a.go".toList "/p".toList) _, by decide +kernel⟩
  · exact ⟨_, interleaved_check .., by decide +kernel, by decide +kernel⟩

end SaveCheck.Checker
