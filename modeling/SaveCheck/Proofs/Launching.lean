import SaveCheck.Proofs.Lookup

/-!
What a launch finds, and when there is nothing to launch.

    go, /b/go      from any directory    the same file
    bin/go         from /proj            /proj/bin/go, wherever the process stands

A file lies in a directory, so a launch next to a file that is there gets as far as the program. A program
that was found from the root is found again; any other is looked for once more, from that directory.
-/

namespace SaveCheck

namespace Path

/-! ### The directory of a path -/

/-- The directory that a path from the root lies in ends before the last piece that counts. -/
theorem exists_of_climb {dir : Path} : ∀ {body : List Text}, (climb (some .root) body).head? = some dir →
    ∃ rest name outer, body = rest ++ name :: outer ∧ dir = write (some .root) (outer.dropWhile isVoid).reverse
  | [], h => by simp [climb] at h
  | piece :: outer, h => by
    rw [climb] at h
    split at h
    · obtain ⟨rest, name, outer', rfl, hdir⟩ := exists_of_climb h
      exact ⟨piece :: rest, name, outer', rfl, hdir⟩
    · exact ⟨[], piece, outer, rfl, (Option.some.inj h).symm⟩

theorem exists_of_parent? {p dir : Path} (hp : isAbsolute p = true) (h : parent? p = some dir) :
    ∃ outer voids name rest, pieces p = [] :: (outer ++ voids ++ name :: rest) ∧
      (∀ v ∈ voids, isVoid v = true) ∧ dir = '/' :: joinPieces outer := by
  obtain ⟨q, rfl, hpieces⟩ := pieces_of_isAbsolute hp
  rw [parent?, parents, split, if_pos hp, hpieces, List.tail_cons] at h
  obtain ⟨rest, name, outer, hbody, rfl⟩ := exists_of_climb h
  have hq : pieces q = outer.reverse ++ name :: rest.reverse := by
    rw [← List.reverse_reverse (pieces q), hbody]
    simp
  have hsplit : outer.reverse = (outer.dropWhile isVoid).reverse ++ (outer.takeWhile isVoid).reverse := by
    rw [← List.reverse_append, List.takeWhile_append_dropWhile]
  refine ⟨(outer.dropWhile isVoid).reverse, (outer.takeWhile isVoid).reverse, name, rest.reverse, ?_, ?_, rfl⟩
  · rw [hpieces, hq, hsplit]
  · intro v hv
    exact List.mem_takeWhile_imp (List.mem_reverse.mp hv)

end Path

namespace Disk

/-! ### From the root -/

/-- A path from the root leads to the same place from everywhere. -/
theorem lookup_from_root (d : Disk) {p : Path} (hp : Path.isAbsolute p = true) (here there : Place) :
    d.lookup here p = d.lookup there p := by
  simp only [lookup, find, hp, if_true]

theorem find_eq_ok_iff {d : Disk} {cwd place : Place} {p : Path} : d.find cwd p = .ok place ↔
    p ≠ [] ∧ '\x00' ∉ p ∧ isShort p = true ∧
      (Path.pieces p).foldlM d.step (if Path.isAbsolute p then [] else cwd) = .ok place := by
  rw [find]
  split
  · simp_all
  · split
    · simp_all
    · split
      · next hlong => simp [isShort, Nat.not_lt.mpr hlong]
      · next hshort => simp_all [isShort]

theorem isShort_of_prefix {p q : Path} (h : p <+: q) (hq : isShort q = true) : isShort p = true := by
  obtain ⟨t, rfl⟩ := h
  have hlength : (Utf8.encode (p ++ t)).length < pathLimit := of_decide_eq_true hq
  rw [Utf8.encode, List.flatMap_append, List.length_append] at hlength
  exact decide_eq_true (Nat.lt_of_le_of_lt (Nat.le_add_right ..) hlength)

theorem steps_voids {d : Disk} {here : Place} (hd : d.node? here = some .directory) : ∀ {ps : List Text},
    (∀ q ∈ ps, Path.isVoid q = true) → ps.foldlM d.step here = .ok here
  | [], _ => rfl
  | q :: ps, hps => by
    rw [List.foldlM_cons, step_void hd (hps q List.mem_cons_self)]
    exact steps_voids hd fun r hr => hps r (List.mem_cons_of_mem _ hr)

theorem steps_append {d : Disk} {here there : Place} {ps qs : List Text} :
    (ps ++ qs).foldlM d.step here = .ok there ↔
      ∃ mid, ps.foldlM d.step here = .ok mid ∧ qs.foldlM d.step mid = .ok there := by
  rw [List.foldlM_append]
  cases ps.foldlM d.step here with
  | error fault => simp [Bind.bind, Except.bind]
  | ok mid => simp [Bind.bind, Except.bind]

/-- A step that can be taken starts from a directory. -/
theorem directory_of_step {d : Disk} {here there : Place} {piece : Text} (h : d.step here piece = .ok there) :
    d.node? here = some .directory := by
  rw [step] at h
  split at h
  · cases h
  · cases h
  · assumption

theorem lookup_eq_ok_iff {d : Disk} {cwd place : Place} {p : Path} {node : Node} :
    d.lookup cwd p = .ok (place, node) ↔ d.find cwd p = .ok place ∧ d.node? place = some node := by
  rw [lookup]
  cases d.find cwd p with
  | error fault => simp [Bind.bind, Except.bind]
  | ok found =>
    simp only [Bind.bind, Except.bind, Except.ok.injEq]
    cases hnode : d.node? found with
    | none =>
      simp only [reduceCtorEq, false_iff, not_and]
      rintro rfl
      simp [hnode]
    | some n =>
      simp only [Pure.pure, Except.pure, Except.ok.injEq, Prod.mk.injEq]
      constructor
      · rintro ⟨rfl, rfl⟩
        exact ⟨rfl, hnode⟩
      · rintro ⟨rfl, hn⟩
        exact ⟨rfl, Option.some.inj (hnode.symm.trans hn)⟩

/-- A path that is too long is not missing. -/
theorem isShort_of_missing {d : Disk} {cwd : Place} {p : Path} (hp : p ≠ [])
    (h : d.lookup cwd p = .error .missing) : isShort p = true := by
  by_contra hlong
  have hlimit : pathLimit ≤ (Utf8.encode p).length := by simpa [isShort] using hlong
  rw [lookup, find, if_neg hp, if_pos hlimit] at h
  split at h <;> cases h

/-- A path that leads somewhere lies in a directory. -/
theorem lookup_parent? {d : Disk} {cwd place : Place} {p dir : Path} (hp : Path.isAbsolute p = true)
    (hdir : Path.parent? p = some dir) (hfind : d.find cwd p = .ok place) :
    ∃ place, d.lookup cwd dir = .ok (place, .directory) := by
  obtain ⟨outer, voids, name, rest, hpieces, hvoids, rfl⟩ := Path.exists_of_parent? hp hdir
  obtain ⟨-, hnul, hshort, hsteps⟩ := find_eq_ok_iff.mp hfind
  have hslash : ∀ q ∈ outer, '/' ∉ q := fun q hq =>
    Path.not_mem_of_mem_pieces (p := p) (by rw [hpieces]; simp [hq])
  rw [hp, if_pos rfl, hpieces, List.append_assoc, ← List.cons_append, steps_append] at hsteps
  obtain ⟨mid, houter, hrest⟩ := hsteps
  obtain ⟨mid', hmid, hname⟩ := steps_append.mp hrest
  -- the voids between the directory and the last name lead nowhere else
  obtain rfl : mid' = mid := by
    have hstay := steps_named (fun q hq => ?_) hmid
    · rw [hstay, List.filter_eq_nil_iff.mpr fun q hq => by simp [hvoids q hq], List.append_nil]
    · rintro rfl
      cases hvoids _ hq
  have hnode : d.node? mid' = some .directory := by
    obtain ⟨next, hstep, -⟩ := steps_cons_eq_ok_iff.mp hname
    exact directory_of_step hstep
  refine ⟨mid', lookup_eq_ok_iff.mpr ⟨find_eq_ok_iff.mpr ⟨by simp, ?_, ?_, ?_⟩, hnode⟩⟩
  · exact fun h => hnul ((Path.prefix_of_parent? hdir).subset h)
  · exact isShort_of_prefix (Path.prefix_of_parent? hdir) hshort
  · have hroot : Path.pieces ('/' :: Path.joinPieces outer) = [] :: Path.pieces (Path.joinPieces outer) :=
      Path.pieces_append [] _
    have habs : Path.isAbsolute ('/' :: Path.joinPieces outer) = true := rfl
    rw [habs, if_pos rfl, hroot]
    rcases eq_or_ne outer [] with rfl | hne
    · obtain rfl : mid' = [] := steps_named (by simp) houter
      exact steps_voids hnode (by decide)
    · rw [Path.pieces_joinPieces hne hslash]
      exact houter

end Disk

namespace Host

variable {h : Host} {d : Disk} {place : Place} {name dir : Path} {args : List Text}

/-! ### What is missing -/

theorem any_nul_eq_false_iff {ts : List Text} :
    (ts.any fun t => decide ('\x00' ∈ t)) = false ↔ ∀ t ∈ ts, '\x00' ∉ t := by
  simp

/-- In a directory that is there a launch misses nothing but the program. -/
theorem launch_missing_iff (hdir : d.lookup h.cwd dir = .ok (place, .directory)) :
    h.launch d name args dir = .error .missing ↔
      (∀ t ∈ name :: dir :: args, '\x00' ∉ t) ∧ h.program d place name = .error .missing := by
  rw [launch, hdir, ← any_nul_eq_false_iff]
  cases (name :: dir :: args).any fun t => decide ('\x00' ∈ t) with
  | true => simp
  | false =>
    simp only [Bind.bind, Except.bind, Bool.false_eq_true, if_false, true_and]
    cases h.program d place name with
    | error fault => simp
    | ok found =>
      dsimp only
      split <;> simp [Pure.pure, Except.pure]

/-- What it takes to launch a program, and what is launched then. -/
theorem launch_eq_ok_iff {call : Call} : h.launch d name args dir = .ok call ↔
    (∀ t ∈ name :: dir :: args, '\x00' ∉ t) ∧ d.lookup h.cwd dir = .ok (call.dir, .directory) ∧
      h.program d call.dir name = .ok call.program ∧ (∀ a ∈ args, (Utf8.encode a).length < argumentLimit) ∧
      call.args = args := by
  rw [launch, ← any_nul_eq_false_iff]
  cases (name :: dir :: args).any fun t => decide ('\x00' ∈ t) with
  | true => simp
  | false =>
    cases hdir : d.lookup h.cwd dir with
    | error fault => simp [Bind.bind, Except.bind]
    | ok found =>
      obtain ⟨place, _ | _⟩ := found
      · simp only [Bind.bind, Except.bind, Bool.false_eq_true, if_false, true_and, Except.ok.injEq,
          Prod.mk.injEq, and_true]
        constructor
        · intro hcall
          cases hprogram : h.program d place name with
          | error fault =>
            rw [hprogram] at hcall
            cases hcall
          | ok program =>
            rw [hprogram] at hcall
            dsimp only at hcall
            split at hcall
            · cases hcall
            · next hshort =>
              obtain rfl := Except.ok.inj hcall
              exact ⟨rfl, hprogram, by simpa using hshort, rfl⟩
        · rintro ⟨rfl, hprogram, hshort, rfl⟩
          rw [hprogram]
          dsimp only
          rw [if_neg (by simpa using hshort)]
          rfl
      · simp [Bind.bind, Except.bind]

theorem executable_of_lookup {p : Path} (hp : d.lookup place p = .error .missing) :
    executable d place p = .error .missing := by
  rw [executable, hp]
  rfl

/-- A file that was found by a path from the root is not missing. -/
theorem program_of_isFile {cwd : Place} (habs : Path.isAbsolute name = true)
    (hfile : d.isFile cwd name = true) : h.program d place name ≠ .error .missing := by
  obtain ⟨found, content, runs, hfind, hnode⟩ := Disk.isFile_eq_true_iff.mp hfile
  have hlookup : d.lookup place name = .ok (found, .file content runs) :=
    (d.lookup_from_root habs place cwd).trans (Disk.lookup_eq_ok_iff.mpr ⟨hfind, hnode⟩)
  obtain ⟨rest, rfl, -⟩ := Path.pieces_of_isAbsolute habs
  rw [program, if_neg (by simp), if_pos List.mem_cons_self, executable, hlookup]
  cases runs <;> simp [Bind.bind, Except.bind, Pure.pure, Except.pure]

/-- A name that is missing in every directory is missing. -/
theorem search_missing : ∀ {entries : List Path},
    (∀ entry ∈ entries,
      executable d place (if entry = [] then name else entry ++ '/' :: name) = .error .missing) →
    search d place name false .missing entries = .error .missing
  | [], _ => rfl
  | entry :: rest, hall => by
    rw [search, hall entry List.mem_cons_self]
    exact search_missing fun e he => hall e (List.mem_cons_of_mem _ he)

theorem searched_eq : ∀ {entries : List Path}, (∀ entry ∈ entries, isOverlong entry = false) →
    searched entries = entries
  | [], _ => rfl
  | [entry], hall => by rw [searched, hall entry List.mem_cons_self]; rfl
  | entry :: next :: rest, hall => by
    rw [searched, hall entry List.mem_cons_self, searched_eq fun e he => hall e (List.mem_cons_of_mem _ he)]
    · rfl
    · simp

end Host

end SaveCheck
