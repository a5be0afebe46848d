import Mathlib.Data.List.Perm.Basic
import SaveCheck.Machine.Work

/-!
Works that share a scene and take their steps in any order.

    build   ●────●────────●
    lint      ●─────●               one of many orders; each step finds the scene
    vet          ●───────────●      that the steps before it left

A work settles if the others may change the disk as they do and it comes to the same all the same. Works
that settle each, and leave alone what the others rely on, come to the same in every order.
-/

namespace SaveCheck.Work

variable {α ε : Type}

/-! ### Every order of the steps -/

/-- What some works can come to when they take their steps in some order: the results of all, one list
after the other, or the error of one that failed. -/
inductive Joins : List (Work (Except ε (List α))) → Scene → Except ε (List α) × Scene → Prop where
  | step {front back : List (Work (Except ε (List α)))} {change : Scene → Scene}
      {next : Scene → Work (Except ε (List α))} {s : Scene} {r : Except ε (List α) × Scene} :
      Joins (front ++ next s :: back) (change s) r → Joins (front ++ .step change next :: back) s r
  | fail {ws : List (Work (Except ε (List α)))} {e : ε} {s : Scene} :
      .done (.error e) ∈ ws → Joins ws s (.error e, s)
  | finish {found : List (List α)} {s : Scene} :
      Joins (found.map fun as => .done (.ok as)) s (.ok found.flatten, s)

/-- One work can take all its steps at once. -/
theorem joins_run {front back : List (Work (Except ε (List α)))} {r : Except ε (List α) × Scene} :
    ∀ (w : Work (Except ε (List α))) (s : Scene),
      Joins (front ++ .done (w.run s).1 :: back) (w.run s).2 r → Joins (front ++ w :: back) s r
  | .done _, _, h => h
  | .step change next, s, h => .step (joins_run (next s) (change s) h)

/-- One of the orders is to do one work after the other. -/
theorem joins_runAll (ws : List (Work (Except ε (List α)))) (s : Scene) :
    Joins ws s (runAll ws s) := by
  suffices h : ∀ (ws : List (Work (Except ε (List α)))) (found : List (List α)) (s : Scene),
      Joins (found.map (fun as => .done (.ok as)) ++ ws) s
        ((runAll ws s).1.map (found.flatten ++ ·), (runAll ws s).2) by
    have h := h ws [] s
    rcases hr : runAll ws s with ⟨_ | _, _⟩ <;> simpa [hr, Except.map] using h
  intro ws
  induction ws with
  | nil =>
    intro found s
    simpa [runAll, Except.map] using @Joins.finish α ε found s
  | cons w ws ih =>
    intro found s
    apply joins_run w s
    rcases hw : w.run s with ⟨e | as, s'⟩
    · simp only [runAll, hw, Except.map]
      exact .fail (by simp)
    · have h := ih (found ++ [as]) s'
      simp only [runAll, hw]
      rcases hr : runAll ws s' with ⟨_ | _, _⟩ <;> simpa [hr, Except.map] using h

theorem joins_advance {front back : List (Work (Except ε (List α)))} {r : Except ε (List α) × Scene}
    (w : Work (Except ε (List α))) (s : Scene)
    (h : Joins (front ++ (w.advance s).1 :: back) (w.advance s).2 r) : Joins (front ++ w :: back) s r := by
  cases w with
  | done => exact h
  | step change next => exact .step h

theorem joins_advanceAt {r : Except ε (List α) × Scene} : ∀ (n : Nat)
    (front ws : List (Work (Except ε (List α)))) (s : Scene),
      Joins (front ++ (advanceAt n ws s).1) (advanceAt n ws s).2 r → Joins (front ++ ws) s r
  | 0, _, [], _, h | _ + 1, _, [], _, h => h
  | 0, _, w :: _, s, h => joins_advance w s h
  | n + 1, front, w :: ws, s, h => by
    have hrest := joins_advanceAt n (front ++ [w]) ws s (by simpa [advanceAt] using h)
    simpa using hrest

/-- So is to let works take turns first. -/
theorem joins_runInTurns (turns : List Nat) (ws : List (Work (Except ε (List α)))) (s : Scene) :
    Joins ws s (runInTurns turns ws s) := by
  induction turns generalizing ws s with
  | nil => exact joins_runAll ws s
  | cons n turns ih => exact joins_advanceAt n [] ws s (ih _ _)

/-! ### One work among others that have nothing to do -/

/-- A work that has nothing to do. -/
def idle : Work (Except ε (List α)) := .done (.ok [])

theorem runAll_idle (n : Nat) (s : Scene) :
    runAll (List.replicate n (idle : Work (Except ε (List α)))) s = (.ok [], s) := by
  induction n with
  | zero => rfl
  | succ n ih =>
    have hrun : (idle : Work (Except ε (List α))).run s = (.ok [], s) := rfl
    simp [List.replicate_succ, runAll, hrun, ih, Except.map]

theorem runAll_only (w : Work (Except ε (List α))) (n : Nat) : ∀ (m : Nat) (s : Scene),
    runAll (List.replicate m idle ++ w :: List.replicate n idle) s = w.run s
  | 0, s => by
    rcases hw : w.run s with ⟨_ | as, s'⟩ <;> simp [runAll, hw, runAll_idle, Except.map]
  | m + 1, s => by
    have hrest := runAll_only w n m s
    simp only [List.replicate_succ, List.cons_append, runAll, idle, run] at hrest ⊢
    rw [hrest]
    rcases w.run s with ⟨_ | as, s'⟩ <;> simp [Except.map]

/-- To take a step and then all others is to take all. -/
theorem run_advance (w : Work α) (s : Scene) : (w.advance s).1.run (w.advance s).2 = w.run s := by
  cases w <;> rfl

theorem advanceAt_idle : ∀ (n k : Nat) (s : Scene),
    advanceAt k (List.replicate n (idle : Work (Except ε (List α)))) s = (List.replicate n idle, s)
  | 0, 0, _ | 0, _ + 1, _ => rfl
  | _ + 1, 0, _ => rfl
  | n + 1, k + 1, s => by rw [List.replicate_succ, advanceAt, advanceAt_idle n k s]

/-- Whoever has the turn, the one work that has something to do goes on or waits. -/
theorem advanceAt_only (w : Work (Except ε (List α))) (n : Nat) : ∀ (m k : Nat) (s : Scene), ∃ w' s',
    advanceAt k (List.replicate m idle ++ w :: List.replicate n idle) s =
        (List.replicate m idle ++ w' :: List.replicate n idle, s') ∧ w'.run s' = w.run s
  | 0, 0, s => ⟨_, _, rfl, w.run_advance s⟩
  | 0, k + 1, s => ⟨w, s, by rw [List.replicate_zero, List.nil_append, advanceAt, advanceAt_idle], rfl⟩
  | _ + 1, 0, s => ⟨w, s, rfl, rfl⟩
  | m + 1, k + 1, s => by
    obtain ⟨w', s', hrest, hrun⟩ := advanceAt_only w n m k s
    exact ⟨w', s', by rw [List.replicate_succ, List.cons_append, advanceAt, hrest]; rfl, hrun⟩

/-- Among works that have nothing to do, it all comes to what the one other work comes to. -/
theorem runInTurns_only (turns : List Nat) (w : Work (Except ε (List α))) (m n : Nat) (s : Scene) :
    runInTurns turns (List.replicate m idle ++ w :: List.replicate n idle) s = w.run s := by
  induction turns generalizing w s with
  | nil => exact runAll_only w n m s
  | cons k turns ih =>
    obtain ⟨w', s', hstep, hrun⟩ := advanceAt_only w n m k s
    rw [runInTurns, hstep, ← hrun]
    exact ih w' s'

/-! ### Works that settle -/

/-- What a work relies on the others to do to the disk, and what it does to the disk itself. -/
structure Contract where
  rely : Disk → Disk → Prop
  grant : Disk → Disk → Prop
  trans : ∀ {a b c}, rely a b → rely b c → rely a c
  stay : ∀ {a b}, rely a b → rely b b
  keep : ∀ {a b}, grant a b → rely b b
  idle : ∀ {a}, rely a a → grant a a

variable {k : Contract}

/-- From a disk on, a work comes to a result, and to what it tells and launches on the way, whatever the
others do to the disk within the contract before each of its steps; the steps keep to the contract. -/
inductive Settles (k : Contract) : Work α → Disk → α → List Notice → List Call → Prop where
  | done {a : α} {d : Disk} : Settles k (.done a) d a [] []
  | step {change : Scene → Scene} {next : Scene → Work α} {d : Disk} {a : α} {later : List Notice}
      {after : List Call} (told : List Notice) (launched : List Call) :
      (∀ s : Scene, k.rely d s.disk → k.grant s.disk (change s).disk) →
      (∀ s : Scene, k.rely d s.disk → (change s).notices = s.notices ++ told) →
      (∀ s : Scene, k.rely d s.disk → (change s).calls = s.calls ++ launched) →
      (∀ s : Scene, k.rely d s.disk → Settles k (next s) (change s).disk a later after) →
      Settles k (.step change next) d a (told ++ later) (launched ++ after)

namespace Settles

variable {w : Work α} {d d' : Disk} {a : α} {ns : List Notice} {cs : List Call}

/-- What the others do within the contract unsettles nothing. -/
theorem mono (h : Settles k w d a ns cs) (hd : k.rely d d') : Settles k w d' a ns cs := by
  cases h with
  | done => exact .done
  | step told launched hgrant htold hlaunched hnext =>
    have hall : ∀ s : Scene, k.rely d' s.disk → k.rely d s.disk := fun s hs => k.trans hd hs
    exact .step told launched (fun s hs => hgrant s (hall s hs)) (fun s hs => htold s (hall s hs))
      (fun s hs => hlaunched s (hall s hs)) fun s hs => hnext s (hall s hs)

theorem map {β : Type} (f : α → β) (h : Settles k w d a ns cs) :
    Settles k (w.map f) d (f a) ns cs := by
  induction h with
  | done => exact .done
  | step told launched hgrant htold hlaunched _ ih => exact .step told launched hgrant htold hlaunched ih

/-- Left alone, a work comes to what it settles to. -/
theorem run_eq (h : Settles k w d a ns cs) (hd : k.rely d d) :
    ∀ s : Scene, s.disk = d → (w.run s).1 = a ∧ (w.run s).2.notices = s.notices ++ ns ∧
      (w.run s).2.calls = s.calls ++ cs := by
  induction h with
  | done => intro s _; simp [run]
  | step told launched hgrant htold hlaunched _ ih =>
    rintro s rfl
    obtain ⟨ha, hn, hc⟩ := ih s hd (k.keep (hgrant s hd)) _ rfl
    refine ⟨ha, ?_, ?_⟩
    · rw [run, hn, htold s hd, List.append_assoc]
    · rw [run, hc, hlaunched s hd, List.append_assoc]

end Settles

/-! ### Works that settle together -/

/-- One of several works, with its contract and what it settles to. -/
structure Party (α : Type) where
  work : Work α
  contract : Contract
  result : α
  notices : List Notice
  calls : List Call

namespace Party

/-- From a disk on, a party settles. -/
structure Settled (p : Party α) (d : Disk) : Prop where
  here : p.contract.rely d d
  settles : Settles p.contract p.work d p.result p.notices p.calls

/-- A party does to the disk only what the other relies on. -/
def Spares (p q : Party α) : Prop := ∀ d d', p.contract.grant d d' → q.contract.rely d d'

/-- What the others do leaves a party settled. -/
theorem Settled.mono {p : Party α} {d d' : Disk} (h : p.Settled d) (hd : p.contract.rely d d') :
    p.Settled d' :=
  ⟨p.contract.stay hd, h.settles.mono hd⟩

/-- After a step a party still settles to the same, with some of it told and launched. -/
theorem Settled.step {p : Party α} {change : Scene → Scene} {next : Scene → Work α} {s : Scene}
    (h : p.Settled s.disk) (hw : p.work = .step change next) :
    p.contract.grant s.disk (change s).disk ∧
      ∃ told later launched after, p.notices = told ++ later ∧ p.calls = launched ++ after ∧
        (change s).notices = s.notices ++ told ∧ (change s).calls = s.calls ++ launched ∧
        Settled { p with work := next s, notices := later, calls := after } (change s).disk := by
  obtain ⟨work, k, a, ns, cs⟩ := p
  obtain rfl : work = _ := hw
  obtain ⟨hhere, hsettles⟩ := h
  cases hsettles with
  | @step _ _ _ _ later after told launched hgrant htold hlaunched hnext =>
    have hown := hgrant s hhere
    exact ⟨hown, told, later, launched, after, rfl, rfl, htold s hhere, hlaunched s hhere,
      k.keep hown, hnext s hhere⟩

/-- A party with no step left has its result, and nothing more to tell or launch. -/
theorem Settled.done {p : Party α} {d : Disk} {a : α} (h : p.Settled d) (hw : p.work = .done a) :
    p.result = a ∧ p.notices = [] ∧ p.calls = [] := by
  obtain ⟨work, k, b, ns, cs⟩ := p
  obtain rfl : work = _ := hw
  obtain ⟨_, hsettles⟩ := h
  change Settles k _ d b ns cs at hsettles
  cases hsettles
  exact ⟨rfl, rfl, rfl⟩

end Party

/-- What came of some parties: each of them its result, all told and launched once; or an error that one
of them settles to. -/
def Outcome (ps : List (Party (Except ε (List α)))) (s : Scene) (r : Except ε (List α) × Scene) : Prop :=
  (∃ found : List (List α), ps.map (·.result) = found.map .ok ∧ r.1 = .ok found.flatten ∧
    r.2.notices.Perm (s.notices ++ ps.flatMap (·.notices)) ∧
    r.2.calls.Perm (s.calls ++ ps.flatMap (·.calls))) ∨
  ∃ p ∈ ps, ∃ e, p.result = .error e ∧ r.1 = .error e

theorem perm_move {β : Type} (xs front new rest back : List β) :
    (xs ++ new ++ (front ++ (rest ++ back))).Perm (xs ++ (front ++ (new ++ rest ++ back))) := by
  rw [List.append_assoc]
  refine List.Perm.append_left xs ?_
  rw [← List.append_assoc, ← List.append_assoc front, ← List.append_assoc front]
  exact (List.perm_append_comm.append_right _).trans (by simp)

theorem finished {d : Disk} : ∀ (ps : List (Party (Except ε (List α)))) (found : List (List α)),
    ps.map (·.work) = found.map (fun as => .done (.ok as)) → (∀ p ∈ ps, p.Settled d) →
      ps.map (·.result) = found.map .ok ∧ ps.flatMap (·.notices) = [] ∧ ps.flatMap (·.calls) = []
  | [], [], _, _ => ⟨rfl, rfl, rfl⟩
  | p :: ps, as :: found, hws, hsettled => by
    simp only [List.map_cons, List.cons.injEq] at hws
    obtain ⟨hr, hn, hc⟩ := (hsettled p (by simp)).done hws.1
    obtain ⟨hrs, hns, hcs⟩ := finished ps found hws.2 fun q hq => hsettled q (by simp [hq])
    simp [hr, hn, hc, hrs, hns, hcs]

section

variable {front back : List (Party (Except ε (List α)))} {p : Party (Except ε (List α))}

/-- What comes of the parties once one of them has taken a step is what comes of them all. -/
theorem Outcome.of_step {w : Work (Except ε (List α))} {s s' : Scene} {r : Except ε (List α) × Scene}
    {told later : List Notice} {launched after : List Call}
    (hns : p.notices = told ++ later) (hcs : p.calls = launched ++ after)
    (htold : s'.notices = s.notices ++ told) (hlaunched : s'.calls = s.calls ++ launched)
    (hout : Outcome (front ++ { p with work := w, notices := later, calls := after } :: back) s' r) :
    Outcome (front ++ p :: back) s r := by
  rcases hout with ⟨found, hfound, hr, hn, hc⟩ | ⟨q, hq, e, he, hr⟩
  · refine .inl ⟨found, by simpa using hfound, hr, ?_, ?_⟩
    · simp only [htold, List.flatMap_append, List.flatMap_cons] at hn
      simp only [List.flatMap_append, List.flatMap_cons, hns]
      exact hn.trans (perm_move _ _ _ _ _)
    · simp only [hlaunched, List.flatMap_append, List.flatMap_cons] at hc
      simp only [List.flatMap_append, List.flatMap_cons, hcs]
      exact hc.trans (perm_move _ _ _ _ _)
  · rcases List.mem_append.mp hq with hq | hq
    · exact .inr ⟨q, by simp [hq], e, he, hr⟩
    · rcases List.mem_cons.mp hq with rfl | hq
      · exact .inr ⟨p, by simp, e, he, hr⟩
      · exact .inr ⟨q, by simp [hq], e, he, hr⟩

/-- What one party does leaves the parties around it settled. -/
theorem settled_around {d d' : Disk} {p' : Party (Except ε (List α))}
    (hsettled : ∀ q ∈ front ++ p :: back, q.Settled d)
    (hspares : (front ++ p :: back).Pairwise fun q q' => q.Spares q' ∧ q'.Spares q)
    (hown : p.contract.grant d d') (hp' : p'.Settled d') : ∀ q ∈ front ++ p' :: back, q.Settled d' := by
  rw [List.pairwise_append, List.pairwise_cons] at hspares
  obtain ⟨-, ⟨hback, -⟩, hfront⟩ := hspares
  intro q hq
  rcases List.mem_append.mp hq with hq | hq
  · exact (hsettled q (by simp [hq])).mono ((hfront q hq p (by simp)).2 _ _ hown)
  · rcases List.mem_cons.mp hq with rfl | hq
    · exact hp'
    · exact (hsettled q (by simp [hq])).mono ((hback q hq).1 _ _ hown)

end

/-- Parties that settle, and leave alone what the others rely on, come to the same in every order. -/
theorem Joins.outcome {ws : List (Work (Except ε (List α)))} {s : Scene}
    {r : Except ε (List α) × Scene} (h : Joins ws s r) :
    ∀ ps : List (Party (Except ε (List α))), ps.map (·.work) = ws → (∀ p ∈ ps, p.Settled s.disk) →
      ps.Pairwise (fun p q => p.Spares q ∧ q.Spares p) → Outcome ps s r := by
  induction h with
  | @step _ _ change next s r _ ih =>
    intro ps hws hsettled hspares
    obtain ⟨front, rest, rfl, hfront, hrest⟩ := List.map_eq_append_iff.mp hws
    obtain ⟨p, back, rfl, hp, hback⟩ := List.map_eq_cons_iff.mp hrest
    obtain ⟨hown, told, later, launched, after, hns, hcs, htold, hlaunched, hp'⟩ :=
      (hsettled p (by simp)).step hp
    refine .of_step hns hcs htold hlaunched
      (ih _ ?_ (settled_around hsettled hspares hown hp') ?_)
    · simp [hfront, hback]
    · simp only [List.pairwise_append, List.pairwise_cons, List.mem_cons, forall_eq_or_imp] at hspares ⊢
      exact hspares
  | @fail ws e s hmem =>
    rintro ps rfl hsettled _
    obtain ⟨p, hp, hw⟩ := List.mem_map.mp hmem
    exact .inr ⟨p, hp, e, ((hsettled p hp).done hw).1, rfl⟩
  | @finish found s =>
    intro ps hws hsettled _
    obtain ⟨hresults, hns, hcs⟩ := finished ps found hws hsettled
    exact .inl ⟨found, hresults, rfl, by simp [hns], by simp [hcs]⟩

end SaveCheck.Work
