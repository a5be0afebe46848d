import SaveCheck.Proofs.Failures
import SaveCheck.Proofs.Grouping

/-!
Logs that works share, and what each work adds to them.

    build    ─────── b₁b₂ ──────── b₃ ──
    vet      ── v₁ ──────── v₂v₃ ───────      the log: v₁ | b₁b₂ | v₂v₃ | b₃

A log only grows. A step adds to it what it adds and nothing comes in between, so the log is put together from
the additions of the steps: those of each work are there, in their order, and each of them is in one piece.
-/

namespace SaveCheck.Work

variable {α β ε ι : Type}

/-! ### What a work adds -/

/-- What the steps of a work add to a log, each by the scene that it found. -/
def adds (log : Scene → List β) : Work α → List Scene → List (List β)
  | .step change next, s :: ss => (log (change s)).drop (log s).length :: adds log (next s) ss
  | _, _ => []

/-- Whatever its steps find, a work takes nothing out of a log and changes nothing in it. -/
inductive Grows (log : Scene → List β) : Work α → Prop where
  | done {a : α} : Grows log (.done a)
  | step {change : Scene → Scene} {next : Scene → Work α} :
      (∀ s, log s <+: log (change s)) → (∀ s, Grows log (next s)) → Grows log (.step change next)

variable {log : Scene → List β}

theorem adds_done (a : α) (ss : List Scene) : (done a).adds log ss = [] := by
  cases ss <;> rfl

theorem adds_nil (w : Work α) : w.adds log [] = [] := by
  cases w <;> rfl

theorem adds_map {α' : Type} (f : α → α') : ∀ (w : Work α) (ss : List Scene),
    (w.map f).adds log ss = w.adds log ss
  | .done _, _ => by rw [map, adds_done, adds_done]
  | .step _ _, [] => rfl
  | .step _ next, s :: ss => congrArg (_ :: ·) (adds_map f (next s) ss)

theorem Grows.map {α' : Type} (f : α → α') {w : Work α} (hw : Grows log w) : Grows log (w.map f) := by
  induction hw with
  | done => exact .done
  | step hgrows _ ih => exact .step hgrows ih

/-! ### What is added to the log altogether -/

/-- The additions of one party to a log that is written in pieces, each piece with the party that wrote it. -/
def piecesOf [DecidableEq ι] (pieces : List (ι × List β)) (k : ι) : List (List β) :=
  (pieces.filter (·.1 = k)).map (·.2)

/-- A change at one place of a list that has it once. -/
theorem map_update_middle {γ : Type} [DecidableEq ι] {front back : List ι} {k : ι}
    (hks : (front ++ k :: back).Nodup) (f : ι → γ) (a : γ) :
    (front ++ k :: back).map (Function.update f k a) = front.map f ++ a :: back.map f := by
  obtain ⟨-, hback, hfront⟩ := List.nodup_append.mp hks
  have hback := (List.nodup_cons.mp hback).1
  rw [List.map_append, List.map_cons, Function.update_self]
  congr 1
  · exact List.map_congr_left fun j hj => Function.update_of_ne (hfront j hj k List.mem_cons_self) ..
  · exact congrArg _ (List.map_congr_left fun j hj =>
      Function.update_of_ne (fun hjk : j = k => hback (hjk ▸ hj)) ..)

/-- In every order of the steps the log grows by what the works add to it, one piece for each step. -/
theorem Traced.exists_pieces [DecidableEq ι] {ks : List ι} (hks : ks.Nodup)
    {work : ι → Work (Except ε (List α))} {seen : ι → List Scene} {s : Scene}
    {r : Except ε (List α) × Scene} (h : Traced (ks.map work) s (ks.map seen) r)
    (hgrows : ∀ k ∈ ks, Grows log (work k)) :
    ∃ pieces : List (ι × List β), log r.2 = log s ++ pieces.flatMap (·.2) ∧ (∀ piece ∈ pieces, piece.1 ∈ ks) ∧
      ∀ k ∈ ks, piecesOf pieces k = (work k).adds log (seen k) := by
  generalize hws : ks.map work = ws at h
  generalize hfound : ks.map seen = founds at h
  induction h generalizing work seen with
  | @step front back change next s r before after found hlength _ ih =>
    obtain ⟨earlier, rest, rfl, hfront, hrest⟩ := List.map_eq_append_iff.mp hws
    obtain ⟨k, later, rfl, hk, hback⟩ := List.map_eq_cons_iff.mp hrest
    rw [List.map_append, List.map_cons] at hfound
    obtain ⟨hbefore, hfound⟩ := List.append_inj hfound (by rw [← hlength, ← hfront]; simp)
    obtain ⟨hseen, hafter⟩ := List.cons.inj hfound
    have hstep := hgrows k (by simp)
    rw [hk] at hstep
    obtain ⟨hadd, hnext⟩ : log s <+: log (change s) ∧ Grows log (next s) := by
      cases hstep with
      | step hadd hnext => exact ⟨hadd s, hnext s⟩
    -- the work that took the step goes on with what is left of it
    obtain ⟨pieces, hlog, hmem, hpieces⟩ := @ih (Function.update work k (next s)) (Function.update seen k found)
      (by
        intro j hj
        by_cases hjk : j = k
        · subst hjk
          rwa [Function.update_self]
        · rw [Function.update_of_ne hjk]
          exact hgrows j hj)
      (by rw [map_update_middle hks, hfront, hback]) (by rw [map_update_middle hks, hbefore, hafter])
    obtain ⟨new, hnew⟩ := hadd
    refine ⟨(k, new) :: pieces, ?_, ?_, fun j hj => ?_⟩
    · rw [hlog, ← hnew, List.flatMap_cons, List.append_assoc]
    · exact List.forall_mem_cons.mpr ⟨by simp, hmem⟩
    · have hj' := hpieces j hj
      by_cases hjk : j = k
      · subst hjk
        rw [Function.update_self, Function.update_self] at hj'
        rw [hk, hseen, adds, ← hj', ← hnew, List.drop_left, piecesOf, piecesOf,
          List.filter_cons_of_pos (by simp), List.map_cons]
      · rw [Function.update_of_ne hjk, Function.update_of_ne hjk] at hj'
        rw [← hj', piecesOf, piecesOf, List.filter_cons_of_neg (by simpa using Ne.symm hjk)]
  | fail | finish =>
    -- no step is taken any more, so none was seen
    refine ⟨[], by simp, by simp, fun k hk => ?_⟩
    obtain ⟨_, -, hseen⟩ := List.mem_map.mp (hfound ▸ List.mem_map_of_mem hk)
    rw [← hseen, adds_nil]
    rfl

/-- The pieces of a log, without those that are empty. -/
theorem Traced.exists_groups [DecidableEq ι] [DecidableEq β] {ks : List ι} (hks : ks.Nodup)
    {work : ι → Work (Except ε (List α))} {seen : ι → List Scene} {s : Scene}
    {r : Except ε (List α) × Scene} (h : Traced (ks.map work) s (ks.map seen) r)
    (hgrows : ∀ k ∈ ks, Grows log (work k)) :
    ∃ groups : List (ι × List β), log r.2 = log s ++ groups.flatMap (·.2) ∧
      ∀ k ∈ ks, piecesOf groups k = ((work k).adds log (seen k)).filter (· ≠ []) := by
  obtain ⟨pieces, hlog, -, hpieces⟩ := h.exists_pieces hks hgrows
  refine ⟨pieces.filter (·.2 ≠ []), ?_, fun k hk => ?_⟩
  · have hempty : ∀ ps : List (ι × List β), (ps.filter (·.2 ≠ [])).flatMap (·.2) = ps.flatMap (·.2) := by
      intro ps
      induction ps with
      | nil => rfl
      | cons p ps ih => by_cases hp : p.2 = [] <;> simp [hp, ← ih]
    rw [hlog, hempty]
  · rw [← hpieces k hk, piecesOf, piecesOf, List.filter_map, List.filter_filter, List.filter_filter]
    refine congrArg _ (List.filter_congr fun p _ => ?_)
    rw [Function.comp_apply, Bool.and_comm]

/-- Whatever the order, the log has in the end what all the works add to it. -/
theorem Traced.log_perm [DecidableEq ι] {ks : List ι} (hks : ks.Nodup)
    {work : ι → Work (Except ε (List α))} {seen : ι → List Scene} {s : Scene}
    {r : Except ε (List α) × Scene} (h : Traced (ks.map work) s (ks.map seen) r)
    (hgrows : ∀ k ∈ ks, Grows log (work k)) :
    (log r.2).Perm (log s ++ ks.flatMap fun k => ((work k).adds log (seen k)).flatten) := by
  obtain ⟨pieces, hlog, hmem, hpieces⟩ := h.exists_pieces hks hgrows
  have hsorted := (Editor.flatMap_filter_perm (·.1) pieces hks hmem).symm.flatMap_right (·.2)
  have hsame : (ks.flatMap fun k => pieces.filter (·.1 = k)).flatMap (·.2) =
      ks.flatMap fun k => ((work k).adds log (seen k)).flatten := by
    rw [List.flatMap_assoc]
    refine List.flatMap_congr fun k hk => ?_
    rw [← hpieces k hk, piecesOf, List.flatMap_def]
  rw [hlog, ← hsame]
  exact hsorted.append_left _

end SaveCheck.Work
