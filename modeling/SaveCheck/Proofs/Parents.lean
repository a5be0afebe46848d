import SaveCheck.Proofs.Pieces

/-!
The directories above a path, one to the left of each name; and how those above a relative path are spelled
above the same path from the root.

    "./a//b"      "./a" · "." · ""
    "/x/./a//b"   "/x/./a" · "/x" · "/"
-/

namespace SaveCheck.Path

/-! ### Starts -/

/-- A start and pieces that are written as a path are read back from it. -/
structure Fits (start : Option Component) (body : List Text) : Prop where
  slash : ∀ q ∈ body, '/' ∉ q
  start : start = some .root ∨ start = some .here ∨
    start = none ∧ ∀ q ∈ body.head?, isVoid q = false

theorem Fits.append_left {start : Option Component} {a b : List Text} (h : Fits start (a ++ b)) :
    Fits start a := by
  refine ⟨fun q hq => h.slash q (by simp [hq]), ?_⟩
  rcases h.start with hroot | hhere | ⟨hnone, hhead⟩
  · exact .inl hroot
  · exact .inr (.inl hhere)
  · refine .inr (.inr ⟨hnone, fun q hq => hhead q ?_⟩)
    cases a with
    | nil => simp at hq
    | cons r rs => simpa using hq

theorem split_root {body : List Text} (hne : body ≠ []) (hslash : ∀ q ∈ body, '/' ∉ q) :
    split (write (some .root) body) = (some .root, body) := by
  have hpieces : pieces ('/' :: joinPieces body) = [] :: body := by
    have h := pieces_append [] (joinPieces body)
    rwa [pieces_joinPieces hne hslash] at h
  have habs : isAbsolute ('/' :: joinPieces body) = true := rfl
  rw [split, write, if_pos habs, hpieces]
  rfl

theorem split_here {body : List Text} (hslash : ∀ q ∈ body, '/' ∉ q) :
    split (write (some .here) body) = (some .here, body) := by
  cases body with
  | nil => rfl
  | cons q qs =>
    have hpieces : pieces ('.' :: '/' :: joinPieces (q :: qs)) = ['.'] :: q :: qs := by
      have h := pieces_append ['.'] (joinPieces (q :: qs))
      rwa [pieces_joinPieces (by simp) hslash] at h
    simp only [split, write, hpieces]
    rfl

theorem split_none {body : List Text} (hne : body ≠ []) (h : Fits none body) :
    split (write none body) = (none, body) := by
  have hpieces : pieces (joinPieces body) = body := pieces_joinPieces hne h.slash
  obtain ⟨q, qs, rfl⟩ := List.exists_cons_of_ne_nil hne
  have hq : isVoid q = false := by
    rcases h.start with h | h | ⟨-, h⟩
    · cases h
    · cases h
    · exact h q rfl
  have habs : isAbsolute (joinPieces (q :: qs)) = false := by
    refine not_isAbsolute_joinPieces hne h.slash fun r hr => ?_
    cases hr
    exact ne_nil_of_not_isVoid hq
  change split (joinPieces (q :: qs)) = _
  rw [split, hpieces]
  simp only [habs, Bool.false_eq_true, if_false]
  split
  · rename_i hdot
    simp only [List.cons.injEq] at hdot
    simp [hdot.1, isVoid] at hq
  · rfl

/-! ### Directories above -/

/-- Pieces that take no step lead nowhere. -/
theorem climb_dropWhile (start : Option Component) : ∀ xs : List Text,
    climb start (xs.dropWhile isVoid) = climb start xs
  | [] => rfl
  | piece :: xs => by
    rcases hv : isVoid piece with _ | _
    · rw [List.dropWhile_cons_of_neg (by simp [hv])]
    · rw [List.dropWhile_cons_of_pos hv, climb_dropWhile start xs, climb, if_pos hv]

theorem parents_write {start : Option Component} {body : List Text} (h : Fits start body) :
    parents (write start body) = climb start body.reverse := by
  rcases h.start with rfl | rfl | ⟨rfl, -⟩
  · rcases body with _ | ⟨q, qs⟩
    · rfl
    · rw [parents, split_root (by simp) h.slash]
  · rw [parents, split_here h.slash]
  · rcases body with _ | ⟨q, qs⟩
    · rfl
    · rw [parents, split_none (by simp) h]

theorem fits_split {p : Path} (hp : p ≠ []) : Fits (split p).1 (split p).2 := by
  have hslash : ∀ q ∈ pieces p, '/' ∉ q := fun q hq => not_mem_of_mem_pieces hq
  rw [split]
  split
  · exact ⟨fun q hq => hslash q (List.mem_of_mem_tail hq), .inl rfl⟩
  · rename_i habs
    split
    · rename_i hdot
      exact ⟨fun q hq => hslash q (by rw [hdot]; exact List.mem_cons_of_mem _ hq), .inr (.inl rfl)⟩
    · rename_i hdot
      refine ⟨hslash, .inr (.inr ⟨rfl, fun q hq => ?_⟩)⟩
      obtain ⟨r, rs, hr⟩ := List.exists_cons_of_ne_nil (pieces_ne_nil p)
      rw [hr] at hq
      obtain rfl : r = q := by simpa using hq
      have hdots : r ≠ ['.'] := by
        rintro rfl
        exact hdot rs hr
      have hblank : r ≠ [] := by
        rintro rfl
        have hjoin := joinPieces_pieces p
        rw [hr] at hjoin
        rcases rs with _ | ⟨s, ss⟩
        · exact hp hjoin.symm
        · rw [joinPieces_cons (by simp)] at hjoin
          rw [← hjoin] at habs
          exact habs rfl
      simp [isVoid, hdots, hblank]

/-- The directories above a directory that lies above a path are those that lie further above the path. -/
theorem parents_of_climb {start : Option Component} : ∀ {xs : List Text} {dir : Path} {rest : List Path},
    Fits start xs.reverse → climb start xs = dir :: rest → parents dir = rest
  | [], dir, rest, _, h => by
    rw [climb] at h
    split at h
    · simp only [List.cons.injEq] at h
      obtain ⟨rfl, rfl⟩ := h
      rfl
    · cases h
  | piece :: xs, dir, rest, hfits, h => by
    rw [List.reverse_cons] at hfits
    rw [climb] at h
    split at h
    · exact parents_of_climb hfits.append_left h
    · simp only [List.cons.injEq] at h
      obtain ⟨rfl, rfl⟩ := h
      have hxs := hfits.append_left
      rw [← List.takeWhile_append_dropWhile (p := isVoid) (l := xs), List.reverse_append] at hxs
      rw [parents_write hxs.append_left, List.reverse_reverse, climb_dropWhile]

theorem parents_of_parents {p dir : Path} {rest : List Path} (h : parents p = dir :: rest) :
    parents dir = rest := by
  rcases eq_or_ne p [] with rfl | hp
  · cases h
  · exact parents_of_climb (by rw [List.reverse_reverse]; exact fits_split hp) h

/-- What stands to the left of each name; the pieces are given from the last to the first. -/
def outers : List Text → List (List Text)
  | [] => []
  | piece :: outer => if isVoid piece then outers outer else outer :: outers outer

/-- The directory that pieces lead to. -/
def dirOf (start : Option Component) (outer : List Text) : Path :=
  write start (outer.dropWhile isVoid).reverse

theorem climb_eq (start : Option Component) : ∀ xs : List Text,
    climb start xs = (outers xs).map (dirOf start) ++ if start = some .here then [[]] else []
  | [] => rfl
  | piece :: xs => by
    rw [climb, outers, climb_eq start xs]
    split <;> rfl

theorem outers_append (ys : List Text) : ∀ xs : List Text,
    outers (xs ++ ys) = (outers xs).map (· ++ ys) ++ outers ys
  | [] => rfl
  | piece :: xs => by
    rw [List.cons_append, outers, outers, outers_append ys xs]
    split <;> rfl

/-! ### Seen from the root -/

/-- A directory above a relative path, as it is spelled above the path from the root. -/
def seen (cwd dir : Path) : Path := if isVoid dir then cwd else join cwd dir

/-- The directories to the left of the names of a path, innermost first. -/
def dirs (p : Path) : List Path := (outers (split p).2.reverse).map (dirOf (split p).1)

theorem parents_eq_dirs (p : Path) :
    parents p = dirs p ++ if (split p).1 = some .here then [[]] else [] :=
  climb_eq (split p).1 (split p).2.reverse

/-- The piece that a start stands for. -/
def dots : Option Component → List Text
  | some .here => [['.']]
  | _ => []

theorem pieces_eq_dots {p : Path} (hrel : isAbsolute p = false) :
    ((split p).1 = none ∨ (split p).1 = some .here) ∧ pieces p = dots (split p).1 ++ (split p).2 := by
  rw [split, hrel]
  simp only [Bool.false_eq_true, if_false]
  split
  · rename_i hdot
    exact ⟨.inr rfl, hdot⟩
  · exact ⟨.inl rfl, rfl⟩

theorem mem_outers : ∀ {xs o : List Text}, o ∈ outers xs →
    ∃ inner piece, isVoid piece = false ∧ xs = inner ++ piece :: o
  | piece :: xs, o, ho => by
    rw [outers] at ho
    split at ho
    · obtain ⟨inner, q, hq, rfl⟩ := mem_outers ho
      exact ⟨piece :: inner, q, hq, rfl⟩
    · rename_i hv
      rcases List.mem_cons.mp ho with rfl | ho
      · exact ⟨[], piece, by simpa using hv, rfl⟩
      · obtain ⟨inner, q, hq, rfl⟩ := mem_outers ho
        exact ⟨piece :: inner, q, hq, rfl⟩

/-- What is left of pieces without the last ones that take no step ends in a name. -/
theorem last_stripped {o : List Text} (hslash : ∀ q ∈ o, '/' ∉ q) :
    ∀ q ∈ (o.dropWhile isVoid).reverse.getLast?, q ≠ [] ∧ '/' ∉ q := by
  intro q hq
  rw [List.getLast?_reverse] at hq
  obtain ⟨rest, hrest⟩ : ∃ rest, o.dropWhile isVoid = q :: rest := by
    cases hdrop : o.dropWhile isVoid with
    | nil => rw [hdrop] at hq; cases hq
    | cons r rs =>
      rw [hdrop] at hq
      cases hq
      exact ⟨rs, rfl⟩
  exact ⟨ne_nil_of_not_isVoid (not_isVoid_of_dropWhile hrest),
    hslash q ((List.dropWhile_suffix isVoid).subset (by rw [hrest]; simp))⟩

theorem split_of_mem_outers {p : Path} {o : List Text} (ho : o ∈ outers (split p).2.reverse) :
    ∃ rest, (split p).2 = o.reverse ++ rest := by
  obtain ⟨inner, piece, -, hsplit⟩ := mem_outers ho
  refine ⟨piece :: inner.reverse, ?_⟩
  rw [← List.reverse_reverse (split p).2, hsplit]
  simp

theorem fits_outer {p : Path} (hp : p ≠ []) {o : List Text} (ho : o ∈ outers (split p).2.reverse) :
    Fits (split p).1 o.reverse := by
  obtain ⟨rest, hbody⟩ := split_of_mem_outers ho
  exact (hbody ▸ fits_split hp).append_left

/-- A path is written from its start and its pieces. -/
theorem write_split (p : Path) : write (split p).1 (split p).2 = p := by
  rw [split]
  split
  · rename_i habs
    obtain ⟨q, rfl, hq⟩ := pieces_of_isAbsolute habs
    rw [hq]
    exact congrArg ('/' :: ·) (joinPieces_pieces q)
  · split
    · rename_i rest hdot
      rw [← joinPieces_pieces p, hdot]
      rcases rest with _ | ⟨q, qs⟩
      · rfl
      · rw [joinPieces_cons (by simp)]
        rfl
    · exact joinPieces_pieces p

theorem write_prefix (start : Option Component) (a b : List Text) : write start a <+: write start (a ++ b) := by
  rcases eq_or_ne b [] with rfl | hb
  · simp
  rcases eq_or_ne a [] with rfl | ha
  · obtain ⟨q, qs, rfl⟩ := List.exists_cons_of_ne_nil hb
    match start with
    | none | some .up | some (.name _) => exact List.nil_prefix
    | some .root | some .here => exact List.prefix_append ..
  · rw [write_eq start ha, write_eq start (by simp [ha]), joinPieces_append ha hb, ← List.append_assoc]
    exact List.prefix_append ..

/-- The directories above a path are spelled as the path begins. -/
theorem prefix_of_mem_parents {p dir : Path} (h : dir ∈ parents p) : dir <+: p := by
  rw [parents_eq_dirs, List.mem_append] at h
  rcases h with h | h
  · obtain ⟨o, ho, rfl⟩ := List.mem_map.mp h
    obtain ⟨rest, hbody⟩ := split_of_mem_outers ho
    rw [← List.takeWhile_append_dropWhile (p := isVoid) (l := o), List.reverse_append, List.append_assoc] at hbody
    have h := write_prefix (split p).1 (o.dropWhile isVoid).reverse ((o.takeWhile isVoid).reverse ++ rest)
    rwa [← hbody, write_split] at h
  · split at h
    · rw [List.mem_singleton.mp h]
      exact List.nil_prefix
    · cases h

theorem prefix_of_parent? {p dir : Path} (h : parent? p = some dir) : dir <+: p :=
  prefix_of_mem_parents (List.mem_of_mem_head? h)

section

variable {start : Option Component} (hstart : start = none ∨ start = some .here) {o : List Text}
include hstart

theorem dirOf_void (hstrip : o.dropWhile isVoid = []) :
    isVoid (dirOf start o) = true ∧ isAbsolute (dirOf start o) = false := by
  rw [dirOf, hstrip]
  rcases hstart with rfl | rfl <;> exact ⟨rfl, rfl⟩

theorem dirOf_named (ho : Fits start o.reverse) (hstrip : o.dropWhile isVoid ≠ []) :
    dirOf start o = joinPieces (dots start ++ (o.dropWhile isVoid).reverse) ∧
      isVoid (dirOf start o) = false ∧ isAbsolute (dirOf start o) = false := by
  obtain ⟨q, qs, hstrip⟩ := List.exists_cons_of_ne_nil hstrip
  have hbody : Fits start (q :: qs).reverse := by
    rw [← List.takeWhile_append_dropWhile (p := isVoid) (l := o), List.reverse_append, hstrip] at ho
    exact ho.append_left
  have hq := not_isVoid_of_dropWhile hstrip
  have hne : (q :: qs).reverse ≠ [] := by simp
  have hdir : dirOf start o = joinPieces (dots start ++ (q :: qs).reverse) := by
    rw [dirOf, hstrip]
    rcases hstart with rfl | rfl
    · rw [write_eq none hne]
      rfl
    · rw [write_eq _ hne, dots, List.singleton_append, joinPieces_cons hne]
      rfl
  have hslash : ∀ r ∈ dots start ++ (q :: qs).reverse, '/' ∉ r := by
    intro r hr
    rcases List.mem_append.mp hr with hr | hr
    · rcases hstart with rfl | rfl <;> simp_all [dots]
    · exact hbody.slash r hr
  rw [hstrip, hdir]
  refine ⟨rfl, isVoid_joinPieces hslash (by simp) hq, ?_⟩
  refine not_isAbsolute_joinPieces (by simp) hslash fun r hr => ?_
  rcases hstart with rfl | rfl
  · rcases hbody.start with h | h | ⟨-, h⟩
    · cases h
    · cases h
    · exact ne_nil_of_not_isVoid (h r hr)
  · cases hr
    simp

theorem dirOf_relative (ho : Fits start o.reverse) : isAbsolute (dirOf start o) = false := by
  rcases eq_or_ne (o.dropWhile isVoid) [] with hstrip | hstrip
  · exact (dirOf_void hstart hstrip).2
  · exact (dirOf_named hstart ho hstrip).2.2

end

section

variable {names : List Text} (hnames : ∀ n ∈ names, isVoid n = false ∧ '/' ∉ n)
include hnames

theorem last_name : ∀ n ∈ names.getLast?, n ≠ [] ∧ '/' ∉ n := by
  intro n hn
  obtain ⟨hvoid, hslash⟩ := hnames n (List.mem_of_getLast? hn)
  exact ⟨ne_nil_of_not_isVoid hvoid, hslash⟩

theorem join_root {p : Path} (hrel : isAbsolute p = false) :
    join (write (some .root) names) p = write (some .root) (names ++ pieces p) := by
  have h := join_write (some .root) (last_name hnames) (pieces_ne_nil p)
    (by rw [joinPieces_pieces]; exact hrel)
  rwa [joinPieces_pieces] at h

theorem dropWhile_names (hvoid : List Text) (h : ∀ q ∈ hvoid, isVoid q = true) :
    (hvoid ++ names.reverse).dropWhile isVoid = names.reverse := by
  rw [List.dropWhile_append_of_pos h]
  cases hrev : names.reverse with
  | nil => rfl
  | cons n ns =>
    have hn : n ∈ names := List.mem_reverse.mp (by rw [hrev]; simp)
    rw [List.dropWhile_cons_of_neg (by simp [(hnames n hn).1])]

/-- A directory above a relative path, spelled from the root, is the one above the path from the root. -/
theorem seen_dirOf {start : Option Component} (hstart : start = none ∨ start = some .here)
    {o : List Text} (ho : Fits start o.reverse) :
    seen (write (some .root) names) (dirOf start o) =
      dirOf (some .root) (o ++ (dots start ++ names.reverse)) := by
  rcases eq_or_ne (o.dropWhile isVoid) [] with hstrip | hstrip
  · have hdots : ∀ q ∈ dots start, isVoid q = true := by
      rcases hstart with rfl | rfl <;> simp [dots, isVoid]
    have hall : ∀ q ∈ o, isVoid q = true := by
      simpa [List.dropWhile_eq_nil_iff] using hstrip
    rw [seen, if_pos (dirOf_void hstart hstrip).1, dirOf, ← List.append_assoc, dropWhile_names hnames,
      List.reverse_reverse]
    intro q hq
    rcases List.mem_append.mp hq with hq | hq
    · exact hall q hq
    · exact hdots q hq
  · obtain ⟨hdir, hvoid, habs⟩ := dirOf_named hstart ho hstrip
    rw [hdir] at habs
    rw [seen, if_neg (by simp [hvoid]), hdir, join_write _ (last_name hnames) (by simp [hstrip]) habs,
      dirOf, List.dropWhile_append]
    rcases hstart with rfl | rfl <;> simp [dots, hstrip]

theorem parents_join_root {p : Path} (hrel : isAbsolute p = false) :
    parents (join (write (some .root) names) p) =
      (outers (names ++ pieces p).reverse).map (dirOf (some .root)) := by
  have hfits : Fits (some .root) (names ++ pieces p) := by
    refine ⟨fun q hq => ?_, .inl rfl⟩
    rcases List.mem_append.mp hq with hq | hq
    · exact (hnames q hq).2
    · exact not_mem_of_mem_pieces hq
  rw [join_root hnames hrel, parents_write hfits, climb_eq]
  simp

/-- The directories above a path from the root are those to the left of its names as seen from there, then
those above the root's own part. -/
theorem parents_join {p : Path} (hrel : isAbsolute p = false) (hp : p ≠ []) :
    parents (join (write (some .root) names) p) =
      (dirs p).map (seen (write (some .root) names)) ++ parents (write (some .root) names) := by
  obtain ⟨hstart, hpieces⟩ := pieces_eq_dots hrel
  have hfits : Fits (some .root) names := ⟨fun q hq => (hnames q hq).2, .inl rfl⟩
  have hreverse : (names ++ pieces p).reverse =
      (split p).2.reverse ++ (dots (split p).1 ++ names.reverse) := by
    rw [hpieces]
    rcases hstart with h | h <;> simp [h, dots]
  have houter : outers (dots (split p).1 ++ names.reverse) = outers names.reverse := by
    rcases hstart with h | h <;> simp [h, dots, outers, isVoid]
  rw [parents_join_root hnames hrel, parents_write hfits, climb_eq, hreverse, outers_append, houter,
    dirs, List.map_append, List.map_map, List.map_map]
  simp only [reduceCtorEq, Option.some.injEq, if_false, List.append_nil]
  congr 1
  refine List.map_congr_left fun o ho => ?_
  exact (seen_dirOf hnames hstart (fits_outer hp ho)).symm

end

theorem dirs_relative {p dir : Path} (hrel : isAbsolute p = false) (hp : p ≠ []) (hdir : dir ∈ dirs p) :
    isAbsolute dir = false := by
  obtain ⟨o, ho, rfl⟩ := List.mem_map.mp hdir
  exact dirOf_relative (pieces_eq_dots hrel).1 (fits_outer hp ho)

/-- The outermost name stands right of the start. -/
theorem dirOf_start_mem (start : Option Component) : ∀ {xs : List Text}, (∃ q ∈ xs, isVoid q = false) →
    write start [] ∈ (outers xs).map (dirOf start)
  | piece :: xs, h => by
    rw [outers]
    by_cases hxs : ∃ q ∈ xs, isVoid q = false
    · have ih := dirOf_start_mem start hxs
      split
      · exact ih
      · exact List.mem_cons_of_mem _ ih
    · have hall : ∀ q ∈ xs, isVoid q = true := by simpa using hxs
      obtain ⟨q, hq, hv⟩ := h
      rcases List.mem_cons.mp hq with rfl | hq
      · rw [if_neg (by simp [hv]), List.map_cons, dirOf, List.dropWhile_eq_nil_iff.mpr hall]
        exact List.mem_cons_self
      · exact absurd ⟨q, hq, hv⟩ hxs

theorem ne_nil_of_fileName {p : Path} (hname : (fileName? p).isSome) : p ≠ [] := by
  rintro rfl
  cases hname

/-- A path with a file's name has a name among its pieces. -/
theorem exists_name {p : Path} (hname : (fileName? p).isSome) : ∃ q ∈ (split p).2, isVoid q = false := by
  by_contra hall
  have hsteps : steps (split p).2 = [] := by
    have hall : ∀ q ∈ (split p).2, isVoid q = true := by simpa using hall
    rw [steps, List.filter_eq_nil_iff.mpr (by simpa using hall)]
    rfl
  have hcomponents : components p = (split p).1.toList := by
    change (split p).1.toList ++ steps (split p).2 = _
    rw [hsteps, List.append_nil]
  have hstart : (split p).1 = some .root ∨ (split p).1 = some .here ∨ (split p).1 = none := by
    rw [split]
    split
    · exact .inl rfl
    · split
      · exact .inr (.inl rfl)
      · exact .inr (.inr rfl)
  rw [fileName?, hcomponents] at hname
  rcases hstart with h | h | h <;> simp [h] at hname

/-! ### Names of the directories above -/

/-- How many names there are among pieces. -/
def depth (o : List Text) : Nat := (o.filter (! isVoid ·)).length

/-- Further out there are fewer names. -/
theorem depth_outers (xs : List Text) : (outers xs).Pairwise fun o o' => depth o' < depth o := by
  induction xs with
  | nil => exact .nil
  | cons piece xs ih =>
    rw [outers]
    split
    · exact ih
    · refine List.pairwise_cons.mpr ⟨fun o ho => ?_, ih⟩
      obtain ⟨inner, q, hq, rfl⟩ := mem_outers ho
      simp [depth, hq]
      omega

/-- The pieces of a name in one of the directories. -/
theorem pieces_join_dirOf {o : List Text} (ho : ∀ q ∈ o, '/' ∉ q) {name : Text} (hname : '/' ∉ name)
    (hne : name ≠ []) : pieces (join (dirOf (some .root) o) name) =
      [] :: ((o.dropWhile isVoid).reverse ++ [name]) := by
  have hslash : ∀ q ∈ (o.dropWhile isVoid).reverse ++ [name], '/' ∉ q := by
    intro q hq
    rcases List.mem_append.mp hq with hq | hq
    · exact ho q ((List.dropWhile_suffix isVoid).subset (List.mem_reverse.mp hq))
    · rwa [List.mem_singleton.mp hq]
  have hjoin := join_write (some .root) (last_stripped ho) (List.cons_ne_nil name [])
    (not_isAbsolute_joinPieces (by simp) (by simpa using hname) (by simpa using hne))
  have hpieces := pieces_append [] (joinPieces ((o.dropWhile isVoid).reverse ++ [name]))
  rw [pieces_joinPieces (by simp) hslash] at hpieces
  rw [show joinPieces [name] = name by simp [joinPieces]] at hjoin
  rw [dirOf, hjoin]
  exact hpieces

end SaveCheck.Path
