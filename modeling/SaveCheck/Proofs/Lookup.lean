import SaveCheck.Machine.Host
import SaveCheck.Proofs.Parents

/-!
Where a path leads: without `..` to the place that its names spell, and from the process's directory to
where the same path leads when it is spelled from the root.

    a/./b   from  x/y        ──▶   x y a b
    /x/y/a/./b               ──▶   x y a b      if that is not too long to be a path
-/

namespace SaveCheck

namespace Path

/-- The pieces of a path that take a step. -/
def named (p : Path) : List Text := (pieces p).filter (! isVoid ·)

end Path

namespace Disk

/-- Whether a path is short enough to lead anywhere. -/
def isShort (p : Path) : Bool := (Utf8.encode p).length < pathLimit

/-! ### Steps -/

theorem step_void {d : Disk} {here : Place} {piece : Text} (hd : d.node? here = some .directory)
    (hv : Path.isVoid piece = true) : d.step here piece = .ok here := by
  rw [step, hd]
  simp [hv]

/-- A step that can be taken, and is none back, is to the name that it spells. -/
theorem step_named {d : Disk} {here there : Place} {piece : Text} (hup : piece ≠ ['.', '.'])
    (h : d.step here piece = .ok there) :
    there = here ++ [piece].filter (! Path.isVoid ·) := by
  rw [step] at h
  split at h
  · cases h
  · cases h
  · split at h
    · rename_i hv
      cases h
      simp [hv]
    · rename_i hv
      split at h
      · cases h
      · split at h
        · cases h
          simp [hv]
        · cases h

/-- A way goes on from where its first step leads to. -/
theorem steps_cons_eq_ok_iff {d : Disk} {here there : Place} {piece : Text} {ps : List Text} :
    (piece :: ps).foldlM d.step here = .ok there ↔
      ∃ next, d.step here piece = .ok next ∧ ps.foldlM d.step next = .ok there := by
  rw [List.foldlM_cons]
  cases d.step here piece with
  | error fault => simp [Bind.bind, Except.bind]
  | ok next => simp [Bind.bind, Except.bind]

theorem steps_named {d : Disk} : ∀ {ps : List Text} {here there : Place}, (∀ q ∈ ps, q ≠ ['.', '.']) →
    ps.foldlM d.step here = .ok there → there = here ++ ps.filter (! Path.isVoid ·)
  | [], here, there, _, h => by
    cases h
    simp
  | piece :: ps, here, there, hup, h => by
    obtain ⟨next, hstep, hrest⟩ := steps_cons_eq_ok_iff.mp h
    have hnext := step_named (hup piece (by simp)) hstep
    have hthere := steps_named (fun q hq => hup q (by simp [hq])) hrest
    rw [hthere, hnext, List.append_assoc, ← List.filter_append, List.singleton_append]

/-- A path without `..` leads to the place that its names spell. -/
theorem find_named {d : Disk} {cwd place : Place} {p : Path} (hup : ∀ q ∈ Path.pieces p, q ≠ ['.', '.'])
    (h : d.find cwd p = .ok place) :
    place = (if Path.isAbsolute p then [] else cwd) ++ Path.named p := by
  rw [find] at h
  split at h
  · cases h
  · split at h
    · cases h
    · split at h
      · cases h
      · exact steps_named hup h

/-- A name that a place can have. -/
structure IsName (n : Text) : Prop where
  void : Path.isVoid n = false
  up : n ≠ ['.', '.']
  slash : '/' ∉ n
  nul : '\x00' ∉ n
  short : (Utf8.encode n).length ≤ nameLimit

/-- Names lead on where there are directories all the way. -/
theorem steps_names {d : Disk} : ∀ {ns : List Text} {here : Place}, (∀ n ∈ ns, IsName n) →
    (∀ q, q <+: ns → d.node? (here ++ q) = some .directory) → ns.foldlM d.step here = .ok (here ++ ns)
  | [], here, _, _ => by simp [pure, Except.pure]
  | n :: ns, here, hns, hd => by
    have hn := hns n (by simp)
    have hhere : d.node? here = some .directory := by simpa using hd [] (by simp)
    have hthere : d.node? (here ++ [n]) = some .directory := hd [n] (by simp)
    have hstep : d.step here n = .ok (here ++ [n]) := by
      have hshort := Nat.not_lt.mpr hn.short
      simp [step, hhere, hn.void, hn.up, hshort, hthere]
    have hrest : ns.foldlM d.step (here ++ [n]) = .ok (here ++ [n] ++ ns) := by
      refine steps_names (fun m hm => hns m (by simp [hm])) fun q hq => ?_
      have h := hd (n :: q) (by simpa using hq)
      simpa using h
    rw [List.foldlM_cons, hstep]
    exact hrest.trans (by simp)

theorem isFile_eq_true_iff {d : Disk} {cwd : Place} {p : Path} : d.isFile cwd p = true ↔
    ∃ place content executable, d.find cwd p = .ok place ∧
      d.node? place = some (.file content executable) := by
  rw [isFile, lookup]
  cases hfind : d.find cwd p with
  | error fault => simp [Bind.bind, Except.bind]
  | ok place =>
    cases hnode : d.node? place with
    | none => simp [Bind.bind, Except.bind, hnode]
    | some node =>
      cases node with
      | directory => simp [Bind.bind, Except.bind, Pure.pure, Except.pure, hnode]
      | file content executable =>
        simp only [Bind.bind, Except.bind, Pure.pure, Except.pure, hnode, Except.ok.injEq, true_iff]
        exact ⟨place, content, executable, rfl, hnode⟩

/-- Paths that lead to the same place lead to a file alike. -/
theorem isFile_congr {d : Disk} {cwd : Place} {p q : Path} (h : d.find cwd p = d.find cwd q) :
    d.isFile cwd p = d.isFile cwd q := by
  rw [isFile, lookup, h, isFile, lookup]

end Disk

/-- The process stands in a directory whose place is spelled by names. -/
structure Host.Stands (h : Host) (d : Disk) : Prop where
  names : ∀ n ∈ h.cwd, Disk.IsName n
  directories : ∀ place, place <+: h.cwd → d.node? place = some .directory

namespace Host.Stands

variable {h : Host} {d : Disk} (hs : h.Stands d)
include hs

theorem cwd_names : ∀ n ∈ h.cwd, Path.isVoid n = false ∧ '/' ∉ n :=
  fun n hn => ⟨(hs.names n hn).void, (hs.names n hn).slash⟩

theorem join_eq {p : Path} (hrel : Path.isAbsolute p = false) :
    Path.join h.cwdPath p = '/' :: Path.joinPieces (h.cwd ++ Path.pieces p) :=
  Path.join_root hs.cwd_names hrel

theorem pieces_join {p : Path} (hrel : Path.isAbsolute p = false) :
    Path.pieces (Path.join h.cwdPath p) = [] :: (h.cwd ++ Path.pieces p) := by
  have hpieces := Path.pieces_append [] (Path.joinPieces (h.cwd ++ Path.pieces p))
  rw [hs.join_eq hrel, ← List.nil_append ('/' :: _), hpieces,
    Path.pieces_joinPieces (by simp [Path.pieces_ne_nil])]
  · rfl
  · intro q hq
    rcases List.mem_append.mp hq with hq | hq
    · exact (hs.names q hq).slash
    · exact Path.not_mem_of_mem_pieces hq

theorem nul_join {p : Path} (hrel : Path.isAbsolute p = false) :
    '\x00' ∈ Path.join h.cwdPath p ↔ '\x00' ∈ p := by
  rw [Path.join_eq_append h.cwdPath hrel, List.mem_append, List.mem_append]
  constructor
  · rintro (hnul | hnul | hnul)
    · rcases List.mem_cons.mp hnul with hnul | hnul
      · cases hnul
      · rcases Path.mem_joinPieces hnul with hnul | ⟨n, hn, hnul⟩
        · cases hnul
        · exact absurd hnul (hs.names n hn).nul
    · cases Path.mem_gap hnul
    · exact hnul
  · exact fun hnul => .inr (.inr hnul)

omit hs in
theorem isShort_of_join {p : Path} (hrel : Path.isAbsolute p = false)
    (hshort : Disk.isShort (Path.join h.cwdPath p) = true) : Disk.isShort p = true := by
  have hlength := of_decide_eq_true hshort
  refine decide_eq_true ?_
  simp only [Path.join_eq_append h.cwdPath hrel, Utf8.encode, List.flatMap_append,
    List.length_append] at hlength ⊢
  omega

theorem named_join {p : Path} (hrel : Path.isAbsolute p = false) :
    Path.named (Path.join h.cwdPath p) = h.cwd ++ Path.named p := by
  have hcwd : h.cwd.filter (! Path.isVoid ·) = h.cwd :=
    List.filter_eq_self.mpr fun n hn => by simp [(hs.names n hn).void]
  rw [Path.named, hs.pieces_join hrel, List.filter_cons_of_neg (by simp [Path.isVoid]),
    List.filter_append, hcwd]
  rfl

/-- A relative path that is short enough from the root, too, leads to the same place from there. -/
theorem find_join {p : Path} (hrel : Path.isAbsolute p = false) (hp : p ≠ [])
    (hshort : Disk.isShort (Path.join h.cwdPath p) = true) :
    d.find h.cwd (Path.join h.cwdPath p) = d.find h.cwd p := by
  have hshort' := isShort_of_join hrel hshort
  have hjoin : Path.join h.cwdPath p ≠ [] := by simp [hs.join_eq hrel]
  have habs : Path.isAbsolute (Path.join h.cwdPath p) = true := by
    rw [hs.join_eq hrel]
    rfl
  have hroot : d.step [] [] = .ok [] := Disk.step_void (hs.directories [] (by simp)) rfl
  have hcwd : h.cwd.foldlM d.step [] = .ok h.cwd :=
    (Disk.steps_names hs.names fun q hq => by simpa using hs.directories q hq).trans (by simp)
  simp only [Disk.isShort, decide_eq_true_eq] at hshort hshort'
  rw [Disk.find, Disk.find, if_neg hjoin, if_neg hp, if_neg (Nat.not_le.mpr hshort),
    if_neg (Nat.not_le.mpr hshort'), habs, hrel, hs.pieces_join hrel]
  simp only [hs.nul_join hrel, if_true, Bool.false_eq_true, if_false]
  rw [List.foldlM_cons, hroot]
  change (if '\x00' ∈ p then _ else List.foldlM d.step [] (h.cwd ++ Path.pieces p)) = _
  rw [List.foldlM_append, hcwd]
  rfl

/-- A path that is too long from the root leads to no file from there. -/
theorem isFile_join {p : Path} (hrel : Path.isAbsolute p = false) (hp : p ≠ []) :
    d.isFile h.cwd (Path.join h.cwdPath p) =
      (Disk.isShort (Path.join h.cwdPath p) && d.isFile h.cwd p) := by
  cases hshort : Disk.isShort (Path.join h.cwdPath p) with
  | true => rw [Disk.isFile_congr (hs.find_join hrel hp hshort), Bool.true_and]
  | false =>
    rw [Bool.false_and]
    by_contra hfile
    obtain ⟨place, content, executable, hfind, -⟩ := Disk.isFile_eq_true_iff.mp (by simpa using hfile)
    rw [Disk.find] at hfind
    simp only [Disk.isShort, decide_eq_false_iff_not, Nat.not_lt] at hshort
    rw [if_pos hshort] at hfind
    split at hfind
    · cases hfind
    · split at hfind <;> cases hfind

end Host.Stands

end SaveCheck
