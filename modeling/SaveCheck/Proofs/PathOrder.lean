import Mathlib.Data.List.Induction
import SaveCheck.Editor.Marker
import SaveCheck.Proofs.TextOrder

/-!
The order of paths, and the groups that marks are gathered in.

    /a/b  <  /a//c  <  /b        by components, whatever the spelling

Each component has a key, a list of numbers, and paths are in the dictionary order of their keys. So the order
is linear, and paths are level just when their components are the same. No two groups are level.
-/

namespace SaveCheck.Path
open Std

namespace Component

/-- A component as numbers that are in dictionary order when components are in theirs. -/
def key : Component → List Nat
  | .name t => 3 :: t.map Char.toNat
  | c => [c.rank]

theorem order_eq (a b : Component) : a.order b = compare a.key b.key := by
  cases a <;> cases b <;> try rfl
  case name t u => exact Text.order_eq_compare t u

theorem key_injective : Function.Injective key := by
  intro a b h
  cases a <;> cases b <;> try cases h <;> rfl
  case name t u =>
    have hcodes : t.map Char.toNat = u.map Char.toNat := (List.cons.inj h).2
    rw [Text.codes_injective hcodes]

end Component

theorem orderAll_eq (as bs : List Component) :
    orderAll as bs = compare (as.map Component.key) (bs.map Component.key) := by
  induction as generalizing bs with
  | nil => cases bs <;> rfl
  | cons a as ih =>
    cases bs with
    | nil => rfl
    | cons b bs =>
      rw [List.map_cons, List.map_cons, List.compare_cons_cons, orderAll, ih, Component.order_eq]

/-- The keys of a path's components. -/
def key (p : Path) : List (List Nat) := (components p).map Component.key

theorem order_eq_compareOn : order = compareOn key := by
  funext p q
  exact orderAll_eq (components p) (components q)

instance : TransCmp order := by
  rw [order_eq_compareOn]; infer_instance

/-- Paths are level just when their components are the same. -/
theorem order_eq_iff {p q : Path} : order p q = .eq ↔ components p = components q := by
  rw [order_eq_compareOn, compareOn, Std.compare_eq_iff_eq]
  exact (List.map_injective_iff.mpr Component.key_injective).eq_iff

end SaveCheck.Path

namespace SaveCheck.Editor
open Std

namespace Groups

/-- The paths of the groups ascend. -/
def Ascending (groups : Groups) : Prop := groups.Pairwise fun a b => Path.order a.1 b.1 = .lt

/-- What comes before the first group comes before all. -/
theorem lt_of_lt_first {file p : Path} {ms : List Marker} {rest : Groups} (hfile : Path.order file p = .lt)
    (h : Ascending ((p, ms) :: rest)) : ∀ g ∈ (p, ms) :: rest, Path.order file g.1 = .lt := by
  intro g hg
  rcases List.mem_cons.mp hg with rfl | hg
  · exact hfile
  · exact TransCmp.lt_trans hfile ((List.pairwise_cons.mp h).1 g hg)

/-- Adding a mark opens no group but that of its file, and only if none is level with it. -/
theorem mem_add {file : Path} {m : Marker} {g : Path × List Marker} : ∀ {groups : Groups},
    Ascending groups → g ∈ groups.add file m →
      (∃ g' ∈ groups, g'.1 = g.1) ∨ g.1 = file ∧ ∀ g' ∈ groups, Path.order file g'.1 ≠ .eq
  | [], _, h => by
    rw [add, List.mem_singleton] at h
    exact .inr ⟨by rw [h], by simp⟩
  | (p, ms) :: rest, hasc, h => by
    rw [add] at h
    split at h
    · next hlt =>
      rcases List.mem_cons.mp h with rfl | h
      · exact .inr ⟨rfl, fun g' hg' => by simp [lt_of_lt_first hlt hasc g' hg']⟩
      · exact .inl ⟨g, h, rfl⟩
    · rcases List.mem_cons.mp h with rfl | h
      · exact .inl ⟨(p, ms), List.mem_cons_self, rfl⟩
      · exact .inl ⟨g, List.mem_cons_of_mem _ h, rfl⟩
    · next hgt =>
      rcases List.mem_cons.mp h with rfl | h
      · exact .inl ⟨(p, ms), List.mem_cons_self, rfl⟩
      · rcases mem_add (List.pairwise_cons.mp hasc).2 h with ⟨g', hg', heq⟩ | ⟨hfile, hnone⟩
        · exact .inl ⟨g', List.mem_cons_of_mem _ hg', heq⟩
        · refine .inr ⟨hfile, fun g' hg' => ?_⟩
          rcases List.mem_cons.mp hg' with rfl | hg'
          · simp [hgt]
          · exact hnone g' hg'

theorem ascending_add (file : Path) (m : Marker) : ∀ {groups : Groups}, Ascending groups →
    Ascending (groups.add file m)
  | [], _ => List.pairwise_singleton _ _
  | (p, ms) :: rest, h => by
    obtain ⟨hp, hrest⟩ := List.pairwise_cons.mp h
    rw [add]
    split
    · next hlt => exact List.pairwise_cons.mpr ⟨lt_of_lt_first hlt h, h⟩
    · exact List.pairwise_cons.mpr ⟨hp, hrest⟩
    · next hgt =>
      refine List.pairwise_cons.mpr ⟨?_, ascending_add file m hrest⟩
      intro g hg
      rcases mem_add hrest hg with ⟨g', hg', heq⟩ | ⟨hfile, -⟩
      · show Path.order p g.1 = .lt
        rw [← heq]
        exact hp g' hg'
      · show Path.order p g.1 = .lt
        rw [hfile]
        exact OrientedCmp.lt_of_gt hgt

end Groups

theorem groupByFile_append (ds : List Diagnostic) (d : Diagnostic) :
    groupByFile (ds ++ [d]) = (groupByFile ds).add d.file (.ofDiagnostic d) := by
  rw [groupByFile, List.foldl_append, ← groupByFile]
  rfl

theorem ascending_groupByFile (ds : List Diagnostic) : (groupByFile ds).Ascending := by
  induction ds using List.reverseRecOn with
  | nil => exact List.Pairwise.nil
  | append_singleton ds d ih =>
    rw [groupByFile_append]
    exact Groups.ascending_add _ _ ih

end SaveCheck.Editor
