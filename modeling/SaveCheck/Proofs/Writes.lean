import SaveCheck.Proofs.Launching

/-!
What writes leave on a disk, and what removing a file leaves.

    d  ── write a, 1 ──▶ ── write b, 2 ──▶ ── write ./a, 3 ──▶     a: 3   b: 2   elsewhere: as on d

A place holds what was written there last, whatever the paths of the writes; no write makes a directory. A path leads
to no file once the file that it led to is removed.
-/

namespace SaveCheck.Disk

/-! ### Ways on two disks -/

theorem step_of_directories {d d' : Disk} {here next : Place} {piece : Text}
    (hhere : d'.node? here = some .directory) (hnext : (d'.node? next).isSome) (h : d.step here piece = .ok next) :
    d'.step here piece = .ok next := by
  simp only [step, directory_of_step h, hhere] at h ⊢
  split_ifs at h ⊢ <;> simp_all

/-- A way that can be gone can be gone on another disk that has all the directories and what stands at the end. -/
theorem steps_of_directories {d d' : Disk}
    (hdirs : ∀ q, d.node? q = some .directory → d'.node? q = some .directory) {place : Place}
    (hplace : (d'.node? place).isSome) :
    ∀ {ps : List Text} {here : Place}, ps.foldlM d.step here = .ok place → ps.foldlM d'.step here = .ok place
  | [], _, h => h
  | piece :: ps, here, h => by
    obtain ⟨next, hstep, hrest⟩ := steps_cons_eq_ok_iff.mp h
    have hhere := hdirs here (directory_of_step hstep)
    -- what the step leads to is a directory if the way goes on, and else the end
    have hnext : (d'.node? next).isSome := by
      cases ps with
      | nil =>
        obtain rfl := Except.ok.inj hrest
        exact hplace
      | cons piece' ps =>
        obtain ⟨_, hstep', -⟩ := steps_cons_eq_ok_iff.mp hrest
        simp [hdirs next (directory_of_step hstep')]
    exact steps_cons_eq_ok_iff.mpr
      ⟨next, step_of_directories hhere hnext hstep, steps_of_directories hdirs hplace hrest⟩

theorem find_of_directories {d d' : Disk} {cwd place : Place} {p : Path}
    (hdirs : ∀ q, d.node? q = some .directory → d'.node? q = some .directory) (hplace : (d'.node? place).isSome)
    (h : d.find cwd p = .ok place) : d'.find cwd p = .ok place := by
  obtain ⟨hne, hnul, hshort, hsteps⟩ := find_eq_ok_iff.mp h
  exact find_eq_ok_iff.mpr ⟨hne, hnul, hshort, steps_of_directories hdirs hplace hsteps⟩

/-! ### A file removed -/

theorem remove_of_not_isFile {d : Disk} {cwd : Place} {p : Path} (h : d.isFile cwd p = false) :
    d.remove cwd p = d := by
  rw [isFile] at h
  rw [remove]
  split at h
  · cases h
  · simp_all

theorem remove_of_find {d : Disk} {cwd place : Place} {p : Path} {content : Bytes} {executable : Bool}
    (hfind : d.find cwd p = .ok place) (hnode : d.node? place = some (.file content executable)) :
    d.remove cwd p = d.set place none := by
  rw [remove, lookup_eq_ok_iff.mpr ⟨hfind, hnode⟩]

/-- A file that is removed is gone. -/
theorem isFile_remove (d : Disk) (cwd : Place) (p : Path) : (d.remove cwd p).isFile cwd p = false := by
  cases hfile : d.isFile cwd p with
  | false => rw [remove_of_not_isFile hfile, hfile]
  | true =>
    obtain ⟨place, content, executable, hfind, hnode⟩ := isFile_eq_true_iff.mp hfile
    rw [remove_of_find hfind hnode]
    by_contra hleft
    obtain ⟨place', content', executable', hfind', hnode'⟩ := isFile_eq_true_iff.mp (by simpa using hleft)
    have hne : place' ≠ place := by
      rintro rfl
      simp at hnode'
    rw [node?_set_of_ne _ _ hne] at hnode'
    have hdirs : ∀ q, (d.set place none).node? q = some .directory → d.node? q = some .directory := by
      intro q hq
      by_cases heq : q = place
      · subst heq
        simp at hq
      · rwa [node?_set_of_ne _ _ heq] at hq
    -- on the whole disk the path led to both places
    have hwhole := find_of_directories hdirs (by simp [hnode']) hfind'
    exact hne (Except.ok.inj (hwhole.symm.trans hfind))

/-! ### Files written -/

/-- The place that writing to a path leaves a file at. -/
def landing? (d : Disk) (dir : Place) (p : Path) : Option Place :=
  match d.lookup dir p with
  | .ok (place, .file _ _) => some place
  | .ok (_, .directory) => none
  | .error .missing => d.newPlace? dir p
  | .error _ => none

theorem write_eq (d : Disk) (dir : Place) (p : Path) (content : Bytes) : ∃ executable,
    d.write dir p content = match d.landing? dir p with
      | some place => d.set place (some (.file content executable))
      | none => d := by
  rw [write, landing?]
  rcases d.lookup dir p with fault | ⟨place, _ | ⟨_, executable⟩⟩
  · cases fault with
    | missing =>
      dsimp only
      cases d.newPlace? dir p <;> exact ⟨false, rfl⟩
    | _ => exact ⟨false, rfl⟩
  · exact ⟨false, rfl⟩
  · exact ⟨executable, rfl⟩

/-- A place holds what is written there, and any other place what it held. -/
theorem node?_write (d : Disk) (dir place : Place) (p : Path) (content : Bytes) : ∃ executable,
    (d.write dir p content).node? place =
      if d.landing? dir p = some place then some (.file content executable) else d.node? place := by
  obtain ⟨executable, hwrite⟩ := d.write_eq dir p content
  refine ⟨executable, ?_⟩
  rw [hwrite]
  cases hlanding : d.landing? dir p with
  | none => simp
  | some there =>
    by_cases hthere : there = place
    · simp [hthere]
    · rw [if_neg (by simpa using hthere)]
      exact node?_set_of_ne d _ (Ne.symm hthere)

/-- What some writes leave at a place: what is written there last, if anything is. -/
def leftAt (dir place : Place) : Disk → List (Path × Bytes) → Option Bytes
  | _, [] => none
  | d, (p, content) :: rest =>
    (leftAt dir place (d.write dir p content) rest).or
      (if d.landing? dir p = some place then some content else none)

/-- The disk after some writes. -/
def writeAll (dir : Place) (d : Disk) (writes : List (Path × Bytes)) : Disk :=
  writes.foldl (fun d (p, content) => d.write dir p content) d

/-- A place holds what some writes leave there, and what it held if they leave nothing. -/
theorem node?_writeAll (dir place : Place) : ∀ (writes : List (Path × Bytes)) (d : Disk), ∃ executable,
    (d.writeAll dir writes).node? place =
      match leftAt dir place d writes with
      | some content => some (.file content executable)
      | none => d.node? place
  | [], d => ⟨false, rfl⟩
  | (p, content) :: rest, d => by
    obtain ⟨executable, hrest⟩ := node?_writeAll dir place rest (d.write dir p content)
    obtain ⟨executable', hfirst⟩ := d.node?_write dir place p content
    rw [writeAll, List.foldl_cons, ← writeAll, hrest, leftAt]
    cases leftAt dir place (d.write dir p content) rest with
    | some later => exact ⟨executable, rfl⟩
    | none =>
      refine ⟨executable', ?_⟩
      rw [Option.none_or]
      dsimp only
      rw [hfirst]
      split <;> rfl

/-- Whatever is left was written. -/
theorem mem_of_leftAt {dir place : Place} {content : Bytes} : ∀ {writes : List (Path × Bytes)} {d : Disk},
    leftAt dir place d writes = some content → ∃ p, (p, content) ∈ writes
  | (p, first) :: rest, d, h => by
    rw [leftAt, Option.or_eq_some_iff] at h
    rcases h with h | ⟨-, h⟩
    · obtain ⟨q, hq⟩ := mem_of_leftAt h
      exact ⟨q, List.mem_cons_of_mem _ hq⟩
    · split at h
      · obtain rfl := Option.some.inj h
        exact ⟨p, List.mem_cons_self⟩
      · cases h

/-- No write makes a directory. -/
theorem directory_of_writeAll {d : Disk} {dir q : Place} {writes : List (Path × Bytes)}
    (h : (d.writeAll dir writes).node? q = some .directory) : d.node? q = some .directory := by
  obtain ⟨executable, hnode⟩ := node?_writeAll dir q writes d
  rw [hnode] at h
  split at h
  · cases h
  · exact h

end SaveCheck.Disk
