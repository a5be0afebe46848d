import SaveCheck.Proofs.PathOrder

/-!
The groups of a list of diagnostics, file by file.

    a: x   b: y   a: z      a: x z   b: y

There is a group for each file, with the path that the file was first spelled with and the marks of all its diagnostics
in their order. What a file is to have is seen at once: the marks that stand in the groups level with it.
-/

namespace SaveCheck.Editor
open Std

/-- The marks that a list of diagnostics makes in a file. -/
def marksIn (ds : List Diagnostic) (file : Path) : List Marker :=
  (ds.filter (·.file = file)).map .ofDiagnostic

namespace Groups

/-- The marks that stand in the groups level with a file. -/
def marksAt (groups : Groups) (file : Path) : List Marker :=
  groups.flatMap fun g => if Path.order file g.1 = .eq then g.2 else []

theorem marksAt_cons (g : Path × List Marker) (groups : Groups) (file : Path) : marksAt (g :: groups) file =
    (if Path.order file g.1 = .eq then g.2 else []) ++ marksAt groups file := List.flatMap_cons

/-- Among groups that all come later there is none level with a file. -/
theorem marksAt_of_lt {groups : Groups} {file : Path} (h : ∀ g ∈ groups, Path.order file g.1 = .lt) :
    marksAt groups file = [] := by
  refine List.flatMap_eq_nil_iff.mpr fun g hg => ?_
  rw [h g hg]
  rfl

/-- A group that is added to gains the mark at its end, and no other group changes. -/
theorem marksAt_add (file : Path) (m : Marker) (p : Path) : ∀ {groups : Groups}, Ascending groups →
    marksAt (groups.add file m) p = marksAt groups p ++ if Path.order p file = .eq then [m] else []
  | [], _ => by simp [add, marksAt]
  | (q, ms) :: rest, h => by
    obtain ⟨hq, hrest⟩ := List.pairwise_cons.mp h
    rw [add]
    split
    · next hlt =>
      rw [marksAt_cons]
      by_cases hp : Path.order p file = .eq
      · have hnone : marksAt ((q, ms) :: rest) p = [] :=
          marksAt_of_lt (lt_of_lt_first ((TransCmp.congr_left hp).trans hlt) h)
        simp [hp, hnone]
      · simp [hp]
    · next heq =>
      rw [marksAt_cons, marksAt_cons]
      have hsame : Path.order p q = Path.order p file := (TransCmp.congr_right heq).symm
      by_cases hp : Path.order p file = .eq
      · have hnone : marksAt rest p = [] :=
          marksAt_of_lt fun g hg => by rw [TransCmp.congr_left (hsame.trans hp)]; exact hq g hg
        simp [hsame, hp, hnone]
      · simp [hsame, hp]
    · rw [marksAt_cons, marksAt_cons, marksAt_add file m p hrest, List.append_assoc]

/-- In ascending groups the marks at the file of a group are those of the group. -/
theorem marksAt_of_mem {groups : Groups} (h : Ascending groups) {g : Path × List Marker} (hg : g ∈ groups) :
    marksAt groups g.1 = g.2 := by
  induction groups with
  | nil => cases hg
  | cons first rest ih =>
    obtain ⟨hfirst, hrest⟩ := List.pairwise_cons.mp h
    rw [marksAt_cons]
    rcases List.mem_cons.mp hg with rfl | hg
    · rw [marksAt_of_lt hfirst, if_pos (Path.order_eq_iff.mpr rfl), List.append_nil]
    · have hgt : Path.order g.1 first.1 ≠ .eq := by
        rw [OrientedCmp.gt_of_lt (hfirst g hg)]
        simp
      rw [if_neg hgt, List.nil_append, ih hrest hg]

end Groups

/-- The marks at a file are those of all diagnostics level with it. -/
theorem marksAt_groupByFile (ds : List Diagnostic) (file : Path) : (groupByFile ds).marksAt file =
    (ds.filter fun d => Path.order file d.file = .eq).map Marker.ofDiagnostic := by
  induction ds using List.reverseRecOn with
  | nil => rfl
  | append_singleton ds d ih =>
    rw [groupByFile_append, Groups.marksAt_add _ _ _ (ascending_groupByFile ds), ih, List.filter_append, List.map_append]
    by_cases hd : Path.order file d.file = .eq <;> simp [hd]

/-- There is a group level with the file of each diagnostic. -/
theorem exists_group_of_mem {ds : List Diagnostic} {d : Diagnostic} (hd : d ∈ ds) :
    ∃ g ∈ groupByFile ds, Path.order d.file g.1 = .eq := by
  have hmark : Marker.ofDiagnostic d ∈ (groupByFile ds).marksAt d.file := by
    rw [marksAt_groupByFile]
    refine List.mem_map_of_mem (List.mem_filter.mpr ⟨hd, ?_⟩)
    simpa using Path.order_eq_iff.mpr rfl
  obtain ⟨g, hg, hmark⟩ := List.mem_flatMap.mp hmark
  refine ⟨g, hg, ?_⟩
  by_contra hne
  simp [hne] at hmark

/-- The path of a group is that of the first diagnostic level with it. -/
theorem first_of_mem_groupByFile (ds : List Diagnostic) : ∀ g ∈ groupByFile ds, ∃ first,
    ds.find? (fun d => Path.components d.file = Path.components g.1) = some first ∧ first.file = g.1 := by
  induction ds using List.reverseRecOn with
  | nil => simp [groupByFile]
  | append_singleton ds d ih =>
    intro g hg
    rw [groupByFile_append] at hg
    rw [List.find?_append]
    rcases Groups.mem_add (ascending_groupByFile ds) hg with ⟨g', hg', heq⟩ | ⟨hfile, hnone⟩
    · obtain ⟨first, hfirst, hspelt⟩ := ih g' hg'
      rw [heq] at hfirst hspelt
      exact ⟨first, by rw [hfirst, Option.some_or], hspelt⟩
    · refine ⟨d, ?_, hfile.symm⟩
      have hfree : ds.find? (fun e => Path.components e.file = Path.components g.1) = none := by
        refine List.find?_eq_none.mpr fun e he hlevel => ?_
        obtain ⟨g', hg', horder⟩ := exists_group_of_mem he
        refine hnone g' hg' (Path.order_eq_iff.mpr ?_)
        rw [← Path.order_eq_iff.mp horder, of_decide_eq_true hlevel, hfile]
      rw [hfree, Option.none_or, List.find?_singleton, if_pos (by simp [hfile])]

/-- The path of a group is that of some diagnostic. -/
theorem exists_of_mem_groupByFile (ds : List Diagnostic) : ∀ g ∈ groupByFile ds, ∃ d ∈ ds, d.file = g.1 := by
  intro g hg
  obtain ⟨first, hfirst, hspelt⟩ := first_of_mem_groupByFile ds g hg
  exact ⟨first, List.mem_of_find?_eq_some hfirst, hspelt⟩

/-- Files that are level are the same. -/
def SpeltAlike (ds : List Diagnostic) : Prop :=
  ∀ d ∈ ds, ∀ e ∈ ds, Path.order d.file e.file = .eq → d.file = e.file

/-- Each group has the marks of the diagnostics for its file, in their order. -/
theorem groupByFile_marks {ds : List Diagnostic} (hds : SpeltAlike ds) : ∀ g ∈ groupByFile ds,
    g.2 = marksIn ds g.1 := by
  intro g hg
  obtain ⟨d, hd, hfile⟩ := exists_of_mem_groupByFile ds g hg
  have hlevel : ∀ e ∈ ds, Path.order g.1 e.file = .eq ↔ e.file = g.1 := by
    intro e he
    rw [← hfile]
    exact ⟨fun h => (hds d hd e he h).symm, fun h => Path.order_eq_iff.mpr (by rw [h])⟩
  rw [← Groups.marksAt_of_mem (ascending_groupByFile ds) hg, marksAt_groupByFile, marksIn]
  exact congrArg _ (List.filter_congr fun e he => decide_eq_decide.mpr (hlevel e he))

/-- There is a group for a file just when some diagnostic is for it. -/
theorem mem_files_groupByFile {ds : List Diagnostic} (hds : SpeltAlike ds) (file : Path) :
    file ∈ (groupByFile ds).map (·.1) ↔ ∃ d ∈ ds, d.file = file := by
  constructor
  · intro h
    obtain ⟨g, hg, rfl⟩ := List.mem_map.mp h
    exact exists_of_mem_groupByFile ds g hg
  · rintro ⟨d, hd, rfl⟩
    obtain ⟨g, hg, hlevel⟩ := exists_group_of_mem hd
    obtain ⟨e, he, hfile⟩ := exists_of_mem_groupByFile ds g hg
    have hsame := hds d hd e he (hfile ▸ hlevel)
    exact List.mem_map.mpr ⟨g, hg, (hsame.trans hfile).symm⟩

/-! ### One group for each diagnostic -/

/-- What is sorted out by its key, over all keys, is what there was. -/
theorem flatMap_filter_perm {α β : Type} [DecidableEq β] (key : α → β) : ∀ {keys : List β} (xs : List α),
    keys.Nodup → (∀ x ∈ xs, key x ∈ keys) → (keys.flatMap fun k => xs.filter (key · = k)).Perm xs
  | [], xs, _, h => by
    cases xs with
    | nil => rfl
    | cons x xs => simpa using h x List.mem_cons_self
  | k :: keys, xs, hkeys, h => by
    obtain ⟨hk, hkeys⟩ := List.nodup_cons.mp hkeys
    have hrest := flatMap_filter_perm key (xs.filter (! key · = k)) hkeys fun x hx => by
      obtain ⟨hx, hne⟩ := List.mem_filter.mp hx
      exact (List.mem_cons.mp (h x hx)).resolve_left (by simpa using hne)
    -- what is left without the first key is sorted by the others as before
    have hsame : (keys.flatMap fun j => (xs.filter (! key · = k)).filter (key · = j)) =
        keys.flatMap fun j => xs.filter (key · = j) := by
      refine List.flatMap_congr fun j hj => ?_
      rw [List.filter_filter]
      refine List.filter_congr fun x _ => ?_
      have hne : j ≠ k := fun hjk => hk (hjk ▸ hj)
      by_cases hx : key x = j <;> simp [hx, hne]
    rw [List.flatMap_cons, ← hsame]
    exact (hrest.append_left _).trans (List.filter_append_perm _ xs)

end SaveCheck.Editor
