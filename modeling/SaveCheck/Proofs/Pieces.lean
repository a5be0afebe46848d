import Mathlib.Data.List.Basic
import Mathlib.Data.List.TakeWhile
import SaveCheck.Path

/-!
Paths by their pieces, and what joining does to them.

    "a//b"  ── pieces ──▶  a · · b  ── joinPieces ──▶  "a//b"
    join (write start body) (joinPieces more)  =  write start (body ++ more)
-/

namespace SaveCheck

namespace Text

theorem cells_ne_nil {α : Type} (p : α → Bool) : ∀ xs : List α, cells p xs ≠ []
  | [] => by simp [cells]
  | x :: xs => by
    rw [cells]
    split
    · simp
    · split <;> simp

/-- A character that is picked out separates the cells before it from those after it. -/
theorem cells_append {α : Type} {p : α → Bool} {x : α} (hx : p x = true) (ys : List α) :
    ∀ xs : List α, cells p (xs ++ x :: ys) = cells p xs ++ cells p ys
  | [] => by simp [cells, hx]
  | z :: xs => by
    rw [List.cons_append, cells, cells, cells_append hx ys xs]
    obtain ⟨cell, rest, hcells⟩ := List.exists_cons_of_ne_nil (cells_ne_nil p xs)
    rw [hcells]
    by_cases hz : p z = true <;> simp [hz]

theorem cells_of_forall_not {α : Type} {p : α → Bool} : ∀ {xs : List α}, (∀ x ∈ xs, p x = false) →
    cells p xs = [xs]
  | [], _ => rfl
  | x :: xs, h => by
    rw [cells, if_neg (by simp [h x]), cells_of_forall_not fun y hy => h y (by simp [hy])]

theorem cells_of_not_mem {sep : Char} {t : Text} (h : sep ∉ t) : cells (· = sep) t = [t] :=
  cells_of_forall_not fun c hc => by
    simpa using fun heq : c = sep => h (heq ▸ hc)

/-- What is not picked out belongs to the first cell of what follows. -/
theorem cells_append_of_forall_not {α : Type} {p : α → Bool} {ys cell : List α} {rest : List (List α)}
    (hcells : cells p ys = cell :: rest) : ∀ {xs : List α}, (∀ x ∈ xs, p x = false) →
      cells p (xs ++ ys) = (xs ++ cell) :: rest
  | [], _ => hcells
  | x :: xs, h => by
    have ih := cells_append_of_forall_not hcells fun y hy => h y (List.mem_cons_of_mem x hy)
    rw [List.cons_append, cells, if_neg (by simp [h x]), ih]
    rfl

theorem not_of_mem_cells {α : Type} {p : α → Bool} : ∀ {xs : List α} {cell : List α},
    cell ∈ cells p xs → ∀ x ∈ cell, p x = false
  | [], cell, hcell => by simp_all [cells]
  | z :: xs, cell, hcell => by
    obtain ⟨first, rest, hcells⟩ := List.exists_cons_of_ne_nil (cells_ne_nil p xs)
    have ih : ∀ cell ∈ first :: rest, ∀ x ∈ cell, p x = false :=
      fun cell hcell => not_of_mem_cells (hcells ▸ hcell)
    rw [cells, hcells] at hcell
    by_cases hz : p z = true
    · rw [if_pos hz] at hcell
      rcases List.mem_cons.mp hcell with rfl | hcell
      · simp
      · exact ih cell hcell
    · rw [if_neg hz] at hcell
      rcases List.mem_cons.mp hcell with rfl | hcell
      · intro x hx
        rcases List.mem_cons.mp hx with rfl | hx
        · simpa using hz
        · exact ih first (by simp) x hx
      · exact ih cell (by simp [hcell])

end Text

namespace Path

/-! ### Pieces -/

theorem pieces_append (a b : Text) : pieces (a ++ '/' :: b) = pieces a ++ pieces b :=
  Text.cells_append (by simp) b a

theorem pieces_of_not_mem {q : Text} (hq : '/' ∉ q) : pieces q = [q] := Text.cells_of_not_mem hq

theorem not_mem_of_mem_pieces {p q : Text} (hq : q ∈ pieces p) : '/' ∉ q := by
  intro hmem
  simpa using Text.not_of_mem_cells hq '/' hmem

theorem pieces_ne_nil (p : Path) : pieces p ≠ [] := Text.cells_ne_nil _ p

theorem joinPieces_cons {q : Text} {qs : List Text} (hqs : qs ≠ []) :
    joinPieces (q :: qs) = q ++ '/' :: joinPieces qs := by
  obtain ⟨r, rs, rfl⟩ := List.exists_cons_of_ne_nil hqs
  simp [joinPieces, List.intercalate_cons_cons]

theorem joinPieces_append {ps qs : List Text} (hps : ps ≠ []) (hqs : qs ≠ []) :
    joinPieces (ps ++ qs) = joinPieces ps ++ '/' :: joinPieces qs := by
  induction ps with
  | nil => exact absurd rfl hps
  | cons p ps ih =>
    rw [List.cons_append, joinPieces_cons (by simp [hqs])]
    rcases ps with _ | ⟨r, rs⟩
    · simp [joinPieces]
    · rw [ih (by simp), joinPieces_cons (List.cons_ne_nil r rs)]
      simp

/-- Pieces that are joined are the pieces of the whole. -/
theorem pieces_joinPieces {ps : List Text} (hne : ps ≠ []) (hps : ∀ q ∈ ps, '/' ∉ q) :
    pieces (joinPieces ps) = ps := by
  induction ps with
  | nil => exact absurd rfl hne
  | cons p ps ih =>
    have hp : pieces p = [p] := pieces_of_not_mem (hps p (by simp))
    rcases ps with _ | ⟨r, rs⟩
    · simpa [joinPieces] using hp
    · rw [joinPieces_cons (by simp), pieces_append, hp, ih (by simp) fun q hq => hps q (by simp [hq])]
      rfl

theorem joinPieces_pieces : ∀ p : Path, joinPieces (pieces p) = p
  | [] => rfl
  | c :: p => by
    obtain ⟨first, rest, hcells⟩ := List.exists_cons_of_ne_nil (pieces_ne_nil p)
    have ih := joinPieces_pieces p
    rw [hcells] at ih
    rw [pieces] at hcells ⊢
    rw [Text.cells, hcells]
    by_cases hc : c = '/'
    · subst hc
      rw [if_pos (by simp), joinPieces_cons (by simp), ih]
      rfl
    · rw [if_neg (by simpa using hc), ← ih]
      rcases rest with _ | ⟨q, qs⟩
      · simp [joinPieces]
      · simp [joinPieces_cons (List.cons_ne_nil q qs)]

theorem mem_joinPieces {c : Char} : ∀ {ps : List Text}, c ∈ joinPieces ps → c = '/' ∨ ∃ q ∈ ps, c ∈ q
  | [], h => by cases h
  | [q], h => .inr ⟨q, by simp, by simpa [joinPieces] using h⟩
  | q :: r :: rs, h => by
    rw [joinPieces_cons (List.cons_ne_nil r rs), List.mem_append, List.mem_cons] at h
    rcases h with h | h | h
    · exact .inr ⟨q, by simp, h⟩
    · exact .inl h
    · rcases mem_joinPieces h with h | ⟨s, hs, h⟩
      · exact .inl h
      · exact .inr ⟨s, List.mem_cons_of_mem _ hs, h⟩

theorem mem_joinPieces_of_mem {c : Char} {q : Text} (hc : c ∈ q) : ∀ {ps : List Text}, q ∈ ps → c ∈ joinPieces ps
  | [p], hq => by
    obtain rfl := List.mem_singleton.mp hq
    simpa [joinPieces] using hc
  | p :: r :: rs, hq => by
    rw [joinPieces_cons (List.cons_ne_nil r rs), List.mem_append, List.mem_cons]
    rcases List.mem_cons.mp hq with rfl | hq
    · exact .inl hc
    · exact .inr (.inr (mem_joinPieces_of_mem hc hq))

theorem mem_of_mem_pieces {c : Char} {p q : Text} (hq : q ∈ pieces p) (hc : c ∈ q) : c ∈ p := by
  rw [← joinPieces_pieces p]
  exact mem_joinPieces_of_mem hc hq

/-! ### Roots and joints -/

theorem pieces_of_isAbsolute {p : Path} (h : isAbsolute p = true) :
    ∃ q, p = '/' :: q ∧ pieces p = [] :: pieces q := by
  match p with
  | [] => cases h
  | c :: q =>
    have hc : c = '/' := by
      by_contra hc
      simp [isAbsolute, hc] at h
    subst hc
    exact ⟨q, rfl, pieces_append [] q⟩

theorem not_isAbsolute_joinPieces {ps : List Text} (hne : ps ≠ []) (hslash : ∀ q ∈ ps, '/' ∉ q)
    (hhead : ∀ q ∈ ps.head?, q ≠ []) : isAbsolute (joinPieces ps) = false := by
  by_contra habs
  obtain ⟨r, -, hr⟩ := pieces_of_isAbsolute (by simpa using habs)
  rw [pieces_joinPieces hne hslash] at hr
  exact hhead [] (by rw [hr]; rfl) rfl

theorem isAbsolute_append {a : Path} (ha : a ≠ []) (b : Text) : isAbsolute (a ++ b) = isAbsolute a := by
  obtain ⟨c, r, rfl⟩ := List.exists_cons_of_ne_nil ha
  by_cases hc : c = '/' <;> simp [isAbsolute, hc]

/-- What stands between a directory and a path that is joined to it. -/
def gap (dir : Path) : Text := if dir = [] || dir.getLast? = some '/' then [] else ['/']

theorem mem_gap {dir : Path} {c : Char} (h : c ∈ gap dir) : c = '/' := by
  rw [gap] at h
  split at h
  · cases h
  · simpa using h

theorem join_of_isAbsolute (dir : Path) {p : Path} (hp : isAbsolute p = true) : join dir p = p := by
  rw [join, hp, Bool.true_or, if_pos rfl]

theorem join_eq_append (dir : Path) {p : Path} (hrel : isAbsolute p = false) :
    join dir p = dir ++ (gap dir ++ p) := by
  rw [join, hrel, gap]
  by_cases hdir : dir = []
  · simp [hdir]
  · by_cases hlast : dir.getLast? = some '/' <;> simp [hdir, hlast]

theorem mem_join {dir p : Path} {c : Char} (h : c ∈ join dir p) : c ∈ dir ∨ c ∈ p ∨ c = '/' := by
  cases hp : isAbsolute p with
  | true =>
    rw [join_of_isAbsolute dir hp] at h
    exact .inr (.inl h)
  | false =>
    rw [join_eq_append dir hp, List.mem_append, List.mem_append] at h
    rcases h with h | h | h
    · exact .inl h
    · exact .inr (.inr (mem_gap h))
    · exact .inr (.inl h)

theorem gap_append (a : Path) {b : Path} (hb : b ≠ []) : gap (a ++ b) = gap b := by
  simp [gap, hb, List.getLast?_append_of_ne_nil a hb]

theorem join_assoc (a : Path) {b c : Path} (hrel : isAbsolute b = false) (hb : b ≠ [])
    (hc : isAbsolute c = false) : join (join a b) c = join a (join b c) := by
  have hbc : isAbsolute (join b c) = false := by
    rw [join_eq_append b hc, isAbsolute_append hb, hrel]
  rw [join_eq_append a hbc, join_eq_append b hc, join_eq_append _ hc, join_eq_append a hrel,
    ← List.append_assoc a, gap_append _ hb]
  simp

/-! ### Pieces that take no step -/

theorem ne_nil_of_not_isVoid {q : Text} (hq : isVoid q = false) : q ≠ [] := by
  rintro rfl
  cases hq

/-- What is left without the first pieces that take no step begins with a name. -/
theorem not_isVoid_of_dropWhile {o qs : List Text} {q : Text} (h : o.dropWhile isVoid = q :: qs) :
    isVoid q = false := by
  have hhead := List.head?_dropWhile_not isVoid o
  rw [h] at hhead
  simpa using hhead

theorem filter_dropWhile (o : List Text) :
    (o.dropWhile isVoid).filter (! isVoid ·) = o.filter (! isVoid ·) := by
  induction o with
  | nil => rfl
  | cons q o ih =>
    rcases hq : isVoid q with _ | _
    · rw [List.dropWhile_cons_of_neg (by simp [hq])]
    · rw [List.dropWhile_cons_of_pos hq, ih, List.filter_cons_of_neg (by simp [hq])]

theorem isVoid_joinPieces {ps : List Text} {q : Text} (hslash : ∀ r ∈ ps, '/' ∉ r)
    (hlast : ps.getLast? = some q) (hq : isVoid q = false) : isVoid (joinPieces ps) = false := by
  have hne : ps ≠ [] := by rintro rfl; cases hlast
  have hpieces := pieces_joinPieces hne hslash
  -- pieces that are a void text when joined are that text alone
  have hvoid : ∀ t, pieces t = [t] → isVoid t = true → joinPieces ps ≠ t := by
    intro t ht hvoid hjoined
    rw [← hpieces, hjoined, ht] at hlast
    obtain rfl : t = q := by simpa using hlast
    rw [hq] at hvoid
    cases hvoid
  have hblank : joinPieces ps ≠ [] := hvoid [] rfl rfl
  have hdot : joinPieces ps ≠ ['.'] := hvoid ['.'] rfl rfl
  simp [isVoid, hblank, hdot]

/-! ### Written paths -/

theorem getLast?_joinPieces {body : List Text} {q : Text} (hlast : body.getLast? = some q) (hq : q ≠ []) :
    (joinPieces body).getLast? = q.getLast? := by
  obtain ⟨init, rfl⟩ := List.getLast?_eq_some_iff.mp hlast
  rcases eq_or_ne init [] with rfl | hinit
  · simp [joinPieces]
  · rw [joinPieces_append hinit (by simp), List.getLast?_append_of_ne_nil _ (by simp)]
    simp [joinPieces, List.getLast?_cons_of_ne_nil hq]

/-- What a start puts before the pieces. -/
def lead : Option Component → Text
  | some .root => ['/']
  | some .here => ['.', '/']
  | _ => []

theorem write_eq (start : Option Component) {body : List Text} (hbody : body ≠ []) :
    write start body = lead start ++ joinPieces body := by
  obtain ⟨q, qs, rfl⟩ := List.exists_cons_of_ne_nil hbody
  match start with
  | none => rfl
  | some .root => rfl
  | some .here => rfl
  | some .up => rfl
  | some (.name t) => rfl

/-- To join more pieces to a path that ends in a name, or in nothing, is to write them after it. -/
theorem join_write (start : Option Component) {body more : List Text}
    (hlast : ∀ q ∈ body.getLast?, q ≠ [] ∧ '/' ∉ q) (hmore : more ≠ [])
    (habs : isAbsolute (joinPieces more) = false) :
    join (write start body) (joinPieces more) = write start (body ++ more) := by
  rcases eq_or_ne body [] with rfl | hbody
  · rw [join, habs]
    obtain ⟨q, qs, rfl⟩ := List.exists_cons_of_ne_nil hmore
    match start with
    | none => rfl
    | some .root => rfl
    | some .here => rfl
    | some .up => rfl
    | some (.name t) => rfl
  · obtain ⟨q, hq⟩ := Option.isSome_iff_exists.mp (List.getLast?_isSome.mpr hbody)
    obtain ⟨hne, hslash⟩ := hlast q hq
    have hjoined : joinPieces body ≠ [] := by
      intro hnil
      have h := getLast?_joinPieces hq hne
      rw [hnil, List.getLast?_nil] at h
      exact hne (List.getLast?_eq_none_iff.mp h.symm)
    have hend : (lead start ++ joinPieces body).getLast? ≠ some '/' := by
      rw [List.getLast?_append_of_ne_nil _ hjoined, getLast?_joinPieces hq hne]
      intro h
      exact hslash (List.mem_of_getLast? h)
    rw [write_eq start hbody, write_eq start (by simp [hbody]), joinPieces_append hbody hmore, join,
      habs, if_neg (by simp [hjoined]), if_neg hend, List.append_assoc]

end Path

end SaveCheck
