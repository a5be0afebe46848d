import SaveCheck.Proofs.PathOrder
import SaveCheck.Proofs.Rooted

/-!
A place has one spelling once it is resolved.

    resolve "/proj/sub" "..//./a.go"  =  "/proj/a.go"  =  '/' :: joinPieces ["proj", "a.go"]

What is left are names, with one slash before each. So the files that a check reports on are level only where
they are the same text, and from wherever such a file is seen it stays what it is.
-/

namespace SaveCheck

namespace Path

/-- A piece that leads one step down. -/
structure IsName (q : Text) : Prop where
  counts : isVoid q = false
  down : q ≠ ['.', '.']
  slash : '/' ∉ q

/-- A path that leads down from the root by names and nothing else. -/
def Resolved (p : Path) : Prop := ∃ names, (∀ n ∈ names, IsName n) ∧ p = '/' :: joinPieces names

theorem Resolved.isAbsolute {p : Path} (hp : Resolved p) : isAbsolute p = true := by
  obtain ⟨names, -, rfl⟩ := hp
  rfl

/-! ### Components -/

/-- A name that is stepped to is one of the pieces. -/
theorem mem_of_mem_steps {ps : List Text} {n : Text} (hn : .name n ∈ steps ps) :
    n ∈ ps ∧ isVoid n = false ∧ n ≠ ['.', '.'] := by
  obtain ⟨q, hq, hstep⟩ := List.mem_map.mp hn
  obtain ⟨hmem, hvoid⟩ := List.mem_filter.mp hq
  rw [step] at hstep
  split at hstep
  · cases hstep
  · next hup =>
    obtain rfl := Component.name.inj hstep
    exact ⟨hmem, by simpa using hvoid, hup⟩

theorem isName_of_mem_steps {ps : List Text} (hslash : ∀ q ∈ ps, '/' ∉ q) {n : Text}
    (hn : .name n ∈ steps ps) : IsName n := by
  obtain ⟨hmem, hvoid, hup⟩ := mem_of_mem_steps hn
  exact ⟨hvoid, hup, hslash n hmem⟩

theorem steps_cons_of_isVoid {q : Text} (hq : isVoid q = true) (ps : List Text) : steps (q :: ps) = steps ps := by
  rw [steps, List.filter_cons_of_neg (by simp [hq]), steps]

/-- Names are their own steps. -/
theorem steps_of_names {names : List Text} (hnames : ∀ n ∈ names, IsName n) :
    steps names = names.map .name := by
  rw [steps, List.filter_eq_self.mpr fun n hn => by simp [(hnames n hn).counts]]
  exact List.map_congr_left fun n hn => by rw [step, if_neg (hnames n hn).down]

/-- Names with slashes between them lead through themselves. -/
theorem steps_joinPieces {names : List Text} (hnames : ∀ n ∈ names, IsName n) :
    steps (pieces (joinPieces names)) = names.map .name := by
  rcases eq_or_ne names [] with rfl | hne
  · rfl
  · rw [pieces_joinPieces hne fun n hn => (hnames n hn).slash, steps_of_names hnames]

theorem components_of_names {names : List Text} (hnames : ∀ n ∈ names, IsName n) :
    components ('/' :: joinPieces names) = .root :: names.map .name := by
  have hpieces : pieces ('/' :: joinPieces names) = [] :: pieces (joinPieces names) := pieces_append [] _
  rw [components, split, if_pos (by rfl), hpieces, List.tail_cons]
  exact congrArg (Component.root :: ·) (steps_joinPieces hnames)

/-- Resolved paths that are level are the same. -/
theorem Resolved.eq_of_components {p q : Path} (hp : Resolved p) (hq : Resolved q)
    (h : components p = components q) : p = q := by
  obtain ⟨ms, hms, rfl⟩ := hp
  obtain ⟨ns, hns, rfl⟩ := hq
  rw [components_of_names hms, components_of_names hns] at h
  have hname : Function.Injective Component.name := fun _ _ => Component.name.inj
  rw [List.map_injective_iff.mpr hname (List.cons.inj h).2]

/-! ### Walks -/

/-- The names that a walk leads to are those one stood at and those it went through. -/
theorem mem_foldl_walk {n : Text} : ∀ {cs : List Component} {at_ : List Text}, n ∈ cs.foldl walk at_ →
    n ∈ at_ ∨ .name n ∈ cs
  | [], _, h => .inl h
  | c :: cs, at_, h => by
    have hrest : n ∈ walk at_ c ∨ .name n ∈ cs := mem_foldl_walk h
    rcases hrest with h | h
    · cases c with
      | name t =>
        rcases List.mem_cons.mp h with rfl | h
        · exact .inr List.mem_cons_self
        · exact .inl h
      | up => exact .inl (List.mem_of_mem_tail h)
      | here | root => exact .inl h
    · exact .inr (List.mem_cons_of_mem _ h)

/-- Where a path starts is no step of a walk. -/
theorem foldl_walk_components (p : Path) (at_ : List Text) :
    (components p).foldl walk at_ = (steps (pieces p)).foldl walk at_ := by
  have hcomponents : components p = (split p).1.toList ++ steps (split p).2 := rfl
  rw [hcomponents, split]
  split
  · next habs =>
    obtain ⟨q, -, hpieces⟩ := pieces_of_isAbsolute habs
    rw [hpieces, steps_cons_of_isVoid rfl]
    rfl
  · split
    · next rest hpieces =>
      rw [hpieces, steps_cons_of_isVoid rfl]
      rfl
    · rfl

/-- What a walk from the top leads to are names among the pieces of the path. -/
theorem mem_foldl_walk_components {p : Path} {n : Text} (hn : n ∈ (components p).foldl walk []) :
    n ∈ pieces p ∧ IsName n := by
  rw [foldl_walk_components] at hn
  rcases mem_foldl_walk hn with hn | hn
  · cases hn
  · exact ⟨(mem_of_mem_steps hn).1, isName_of_mem_steps (fun q hq => not_mem_of_mem_pieces hq) hn⟩

theorem isName_of_mem_names {p : Path} : ∀ n ∈ ((components p).foldl walk []).reverse, IsName n :=
  fun _ hn => (mem_foldl_walk_components (List.mem_reverse.mp hn)).2

/-- A walk by names stacks them up. -/
theorem foldl_walk_names (names at_ : List Text) : (names.map .name).foldl walk at_ = names.reverse ++ at_ := by
  induction names generalizing at_ with
  | nil => rfl
  | cons n names ih => rw [List.map_cons, List.foldl_cons, ih, List.reverse_cons, List.append_assoc]; rfl

/-! ### Resolving -/

theorem resolved_resolve {cwd : Path} (hcwd : isAbsolute cwd = true) (file : Path) :
    Resolved (resolve cwd file) := by
  refine ⟨((components (join cwd file)).foldl walk []).reverse, isName_of_mem_names, ?_⟩
  rw [resolve, if_pos (isAbsolute_join hcwd file)]

/-- Resolving puts in nothing but slashes. -/
theorem mem_resolve {cwd file : Path} {c : Char} (h : c ∈ resolve cwd file) : c ∈ cwd ∨ c ∈ file ∨ c = '/' := by
  have hnames : c ∈ joinPieces ((components (join cwd file)).foldl walk []).reverse →
      c ∈ cwd ∨ c ∈ file ∨ c = '/' := by
    intro hc
    rcases mem_joinPieces hc with rfl | ⟨n, hn, hc⟩
    · exact .inr (.inr rfl)
    · have hpiece := (mem_foldl_walk_components (List.mem_reverse.mp hn)).1
      exact mem_join (mem_of_mem_pieces hpiece hc)
  rw [resolve] at h
  split at h
  · rcases List.mem_cons.mp h with rfl | h
    · exact .inr (.inr rfl)
    · exact hnames h
  · exact hnames h

/-- A resolved path is the same from everywhere. -/
theorem Resolved.resolve_eq {p : Path} (hp : Resolved p) (cwd : Path) : resolve cwd p = p := by
  have habs := hp.isAbsolute
  have hjoin : join cwd p = p := join_of_isAbsolute cwd habs
  obtain ⟨names, hnames, rfl⟩ := hp
  rw [resolve, hjoin, if_pos habs, components_of_names hnames, List.foldl_cons, walk, foldl_walk_names,
    List.append_nil, List.reverse_reverse]

end Path

/-- The files that a check reports on are resolved, whatever the order of its steps. -/
theorem Checker.Interleaved.resolved {c : Checker} {h : Host} {s : Settings} {file : Path} {scene : Scene}
    {r : Checked × Scene} (hr : c.Interleaved h s file scene r) {ds : List Diagnostic} (hds : r.1 = .ok ds) :
    ∀ d ∈ ds, Path.Resolved d.file := by
  intro d hd
  obtain ⟨dir, name, hdir, hname⟩ := hr.file_eq ds hds d hd
  rw [hname]
  exact Path.resolved_resolve hdir name

/-- Each file that a check reports on leads from the root by names alone, however far up the tools name it and
whatever the order of the steps. So it is the same from everywhere. -/
theorem Checker.Interleaved.leads_from_root {c : Checker} {h : Host} {s : Settings} {file : Path} {scene : Scene}
    {r : Checked × Scene} (hr : c.Interleaved h s file scene r) {ds : List Diagnostic} (hds : r.1 = .ok ds) :
    ∀ d ∈ ds, Path.isAbsolute d.file = true ∧
      (∃ names : List Text, (∀ n ∈ names, Path.IsName n) ∧ Path.components d.file = .root :: names.map .name) ∧
      ∀ cwd, Path.resolve cwd d.file = d.file := by
  intro d hd
  have hresolved := hr.resolved hds d hd
  refine ⟨hresolved.isAbsolute, ?_, hresolved.resolve_eq⟩
  obtain ⟨names, hnames, hfile⟩ := hresolved
  exact ⟨names, hnames, by rw [hfile, Path.components_of_names hnames]⟩

/-- The workshop with programs that name a file far above the root. -/
def strayingWorkshop : Host :=
  { Checker.workshop with programs := fun _ _ _ => { err := Utf8.encode "../.././../x.go:1: odd\n".toList } }

/-- What the build of a source finds there it finds right below the root, and there it stays. -/
theorem Checker.leads_from_root_straying :
    let r := Checker.workshopChecker.check strayingWorkshop { lintOnSave := false, vetOnSave := false }
      "p//../p/a.go".toList { disk := Checker.workshopDisk }
    r.1 = .ok [⟨"/x.go".toList, 1, none, "odd".toList, .error⟩] ∧
      ∀ cwd, Path.resolve cwd "/x.go".toList = "/x.go".toList := by
  intro r
  have hds : r.1 = .ok [⟨"/x.go".toList, 1, none, "odd".toList, .error⟩] := by decide +kernel
  have hr : Checker.workshopChecker.Interleaved strayingWorkshop { lintOnSave := false, vetOnSave := false }
      "p//../p/a.go".toList { disk := Checker.workshopDisk } r := Checker.interleaved_check ..
  exact ⟨hds, (hr.leads_from_root hds _ (List.mem_singleton_self _)).2.2⟩

end SaveCheck
