import SaveCheck.Proofs.Resolved

/-!
Resolving in two goes.

    cwd  ── a ──▶  resolve cwd a  ── b ──▶  resolve (resolve cwd a) b
    cwd  ─────────── join a b ───────────▶  resolve cwd (join a b)

A walk takes the steps of a path one after the other, and only the names that it has led to count for the steps to
come. So it may stop in between, have those names written as a path, and go on from there.
-/

namespace SaveCheck.Path

/-! ### The steps of joined paths -/

theorem steps_append (ps qs : List Text) : steps (ps ++ qs) = steps ps ++ steps qs := by
  rw [steps, List.filter_append, List.map_append, steps, steps]

theorem isAbsolute_join_eq (dir p : Path) : isAbsolute (join dir p) = (isAbsolute dir || isAbsolute p) := by
  cases hdir : isAbsolute dir with
  | true => exact isAbsolute_join hdir p
  | false =>
    rw [join, Bool.false_or]
    split
    · rfl
    · next h =>
      obtain ⟨hp, hne⟩ : isAbsolute p = false ∧ dir ≠ [] := by simpa using h
      split
      · rw [isAbsolute_append hne, hdir, hp]
      · rw [isAbsolute_append hne, hdir, hp]

/-- A relative path that is joined to a directory goes on with its own steps. -/
theorem steps_join (dir : Path) {p : Path} (hp : isAbsolute p = false) :
    steps (pieces (join dir p)) = steps (pieces dir) ++ steps (pieces p) := by
  rw [join, hp, Bool.false_or]
  split
  · next hdir =>
    obtain rfl := of_decide_eq_true hdir
    rfl
  · split
    · next hlast =>
      obtain ⟨init, rfl⟩ := List.getLast?_eq_some_iff.mp hlast
      have hblank : steps (pieces []) = [] := rfl
      rw [List.append_assoc, List.singleton_append, pieces_append, pieces_append, steps_append, steps_append,
        hblank, List.append_nil]
    · rw [pieces_append, steps_append]

/-- Of two paths that are joined to a directory one after the other, a relative second one comes last. -/
theorem steps_join_join (dir a : Path) {b : Path} (hb : isAbsolute b = false) :
    steps (pieces (join dir (join a b))) = steps (pieces (join dir a)) ++ steps (pieces b) := by
  have hab := isAbsolute_join_eq a b
  cases ha : isAbsolute a with
  | true =>
    rw [ha, Bool.true_or] at hab
    rw [join_of_isAbsolute dir ha, join_of_isAbsolute dir hab, steps_join a hb]
  | false =>
    rw [ha, hb, Bool.false_or] at hab
    rw [steps_join dir hab, steps_join a hb, steps_join dir ha, List.append_assoc]

/-! ### What is resolved -/

theorem resolve_congr {dir dir' p p' : Path} (habs : isAbsolute (join dir p) = isAbsolute (join dir' p'))
    (hwalk : (components (join dir p)).foldl walk [] = (components (join dir' p')).foldl walk []) :
    resolve dir p = resolve dir' p' := by
  simp only [resolve, habs, hwalk]

theorem isAbsolute_resolve_eq (cwd file : Path) :
    isAbsolute (resolve cwd file) = isAbsolute (join cwd file) := by
  rw [resolve]
  split
  · next habs => exact habs.symm
  · next hrel =>
    rw [Bool.eq_false_iff.mpr hrel]
    rcases eq_or_ne ((components (join cwd file)).foldl walk []).reverse [] with hnil | hne
    · rw [hnil]
      rfl
    · exact not_isAbsolute_joinPieces hne (fun n hn => (isName_of_mem_names n hn).slash) fun n hn =>
        ne_nil_of_not_isVoid (isName_of_mem_names n (List.mem_of_mem_head? hn)).counts

/-- A resolved path leads where it was resolved from. -/
theorem foldl_walk_resolve (cwd file : Path) :
    (components (resolve cwd file)).foldl walk [] = (components (join cwd file)).foldl walk [] := by
  have hsteps := steps_joinPieces (isName_of_mem_names (p := join cwd file))
  have hwalk := foldl_walk_names ((components (join cwd file)).foldl walk []).reverse []
  rw [List.reverse_reverse, List.append_nil] at hwalk
  rw [foldl_walk_components, resolve]
  split
  · rw [← List.nil_append ('/' :: _), pieces_append, steps_append, hsteps]
    exact hwalk
  · rw [hsteps, hwalk]

/-- To resolve a path and another one from there is to resolve the two of them joined, whatever the dots and slashes
in either. -/
theorem resolve_resolve (cwd a b : Path) : resolve (resolve cwd a) b = resolve cwd (join a b) := by
  cases hb : isAbsolute b with
  | true =>
    have hjoin (dir : Path) : join dir b = b := join_of_isAbsolute dir hb
    exact resolve_congr (by rw [hjoin, hjoin, hjoin]) (by rw [hjoin, hjoin, hjoin])
  | false =>
    -- what is resolved keeps its start and where it leads, and so it does with `b` behind it
    refine resolve_congr ?_ ?_
    · rw [isAbsolute_join_eq, isAbsolute_resolve_eq, isAbsolute_join_eq, isAbsolute_join_eq,
        isAbsolute_join_eq, Bool.or_assoc]
    · calc (components (join (resolve cwd a) b)).foldl walk []
          = (steps (pieces b)).foldl walk ((components (resolve cwd a)).foldl walk []) := by
            rw [foldl_walk_components, steps_join _ hb, List.foldl_append, ← foldl_walk_components (resolve cwd a)]
        _ = (steps (pieces b)).foldl walk ((components (join cwd a)).foldl walk []) := by
            rw [foldl_walk_resolve]
        _ = (components (join cwd (join a b))).foldl walk [] := by
            rw [foldl_walk_components, foldl_walk_components, steps_join_join cwd a hb, List.foldl_append]

/-- There is nothing above where a relative path starts, in between either. -/
example : resolve (resolve "a".toList "../..".toList) "../b//.".toList = "b".toList := by decide

end SaveCheck.Path
