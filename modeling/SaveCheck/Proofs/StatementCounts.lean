import Mathlib.Algebra.GroupWithZero.Nat
import Mathlib.Data.List.Dedup
import SaveCheck.Coverage.Work
import SaveCheck.Proofs.Grouping

/-!
The counts of a profile, file by file: how many statements there are, how many of them ran, and which blocks are told
as not covered.

    a.go:…   3 1   ┐                   ran   all   not covered
    a.go:…   2 0   ┴── a.go              3     5   the second
    b/b.go:… 4 7   ──── b.go             4     4
                        all files        7     9

A block counts for the one file that its base name tells. Where all statements together can be counted, no counter
on the way is ever full.
-/

namespace SaveCheck.Coverage

/-! ### Sums of statements -/

/-- How many statements some blocks have. -/
def statementSum : List Block → Nat
  | [] => 0
  | b :: bs => b.statements + statementSum bs

/-- How many statements a file has. -/
def Profile.total (p : Profile) (name : Text) : Nat := statementSum (p.blocksFor name)

/-- How many statements of a file ran. -/
def Profile.covered (p : Profile) (name : Text) : Nat :=
  statementSum ((p.blocksFor name).filter (0 < ·.count))

theorem statementSum_append (as bs : List Block) :
    statementSum (as ++ bs) = statementSum as + statementSum bs := by
  induction as with
  | nil => simp [statementSum]
  | cons b as ih =>
    rw [List.cons_append, statementSum, statementSum, ih]
    omega

theorem statementSum_perm {as bs : List Block} (h : as.Perm bs) : statementSum as = statementSum bs := by
  induction h with
  | nil => rfl
  | cons b _ ih => rw [statementSum, statementSum, ih]
  | swap a b bs =>
    simp only [statementSum]
    omega
  | trans _ _ ih₁ ih₂ => exact ih₁.trans ih₂

theorem statementSum_flatMap (names : List Text) (blocks : Text → List Block) :
    statementSum (names.flatMap blocks) = (names.map fun name => statementSum (blocks name)).sum := by
  induction names with
  | nil => rfl
  | cons name names ih => rw [List.flatMap_cons, statementSum_append, ih, List.map_cons, List.sum_cons]

/-- The blocks that ran and those that did not are all blocks. -/
theorem statementSum_ran_add (bs : List Block) :
    statementSum (bs.filter (0 < ·.count)) + statementSum (bs.filter (·.count = 0)) = statementSum bs := by
  have hzero : ∀ b ∈ bs, (! decide (0 < b.count)) = decide (b.count = 0) := by
    intro b _
    rcases Nat.eq_zero_or_pos b.count with h | h <;> simp [h, Nat.ne_of_gt]
  rw [← List.filter_congr hzero, ← statementSum_append]
  exact statementSum_perm (List.filter_append_perm _ bs)

/-- The counts of a file do not depend on the order of the blocks. -/
theorem blocksFor_perm {p q : Profile} (h : p.blocks.Perm q.blocks) (name : Text) :
    (p.blocksFor name).Perm (q.blocksFor name) := h.filter _

/-! ### Counting block by block -/

/-- One more addition on a counter, if that is not full then. -/
def add? (a b : Nat) : Option Nat := if a + b < Numeral.limit then some (a + b) else none

/-- Count one more block; nothing where a counter is full then. -/
def next? (counts : Nat × Nat) (b : Block) : Option (Nat × Nat) := do
  return (← add? counts.1 b.hit, ← add? counts.2 b.statements)

/-- Count the blocks of a file; nothing where a counter is full on the way. -/
def Profile.tally? (p : Profile) (name : Text) : Option (Nat × Nat) := (p.blocksFor name).foldlM next? (0, 0)

theorem add_of_add? {a b c : Nat} (h : add? a b = some c) : add a b = c := by
  rw [add?] at h
  split at h
  · next hfits => exact (Nat.mod_eq_of_lt hfits).trans (Option.some.inj h)
  · cases h

theorem tally_of_next? {counts after : Nat × Nat} {b : Block} (h : next? counts b = some after) :
    tally counts b = after := by
  simp only [next?, Option.bind_eq_bind, Option.bind_eq_some_iff, Option.pure_def, Option.some.injEq] at h
  obtain ⟨ran, hran, all, hall, rfl⟩ := h
  rw [tally, add_of_add? hran, add_of_add? hall]

/-- A counter that is never full counts as it should. -/
theorem foldl_tally {bs : List Block} {counts after : Nat × Nat} (h : bs.foldlM next? counts = some after) :
    bs.foldl tally counts = after := by
  induction bs generalizing counts with
  | nil => exact Option.some.inj h
  | cons b bs ih =>
    rw [List.foldlM_cons, Option.bind_eq_bind, Option.bind_eq_some_iff] at h
    obtain ⟨between, hnext, hrest⟩ := h
    rw [List.foldl_cons, tally_of_next? hnext, ih hrest]

theorem counts_of_tally? {p : Profile} {name : Text} {counts : Nat × Nat} (h : p.tally? name = some counts) :
    p.counts name = counts := foldl_tally h

theorem statementSum_ran_cons (b : Block) (bs : List Block) :
    statementSum ((b :: bs).filter (0 < ·.count)) = b.hit + statementSum (bs.filter (0 < ·.count)) := by
  by_cases h : 0 < b.count
  · rw [List.filter_cons_of_pos (by simpa using h), statementSum, Block.hit, if_pos h]
  · rw [List.filter_cons_of_neg (by simpa using h), Block.hit, if_neg h, Nat.zero_add]

theorem hit_le (b : Block) : b.hit ≤ b.statements := by
  rw [Block.hit]
  split <;> omega

theorem next?_eq {ran all : Nat} {b : Block} (hran : ran ≤ all) (hall : all + b.statements < Numeral.limit) :
    next? (ran, all) b = some (ran + b.hit, all + b.statements) := by
  have hhit := hit_le b
  have hfits : ran + b.hit < Numeral.limit := by omega
  simp [next?, add?, hall, hfits]

/-- As long as all statements can be counted no counter is ever full: the one for those that ran is behind. -/
theorem foldlM_next? {bs : List Block} {ran all : Nat} (hran : ran ≤ all)
    (hall : all + statementSum bs < Numeral.limit) :
    bs.foldlM next? (ran, all) = some (ran + statementSum (bs.filter (0 < ·.count)), all + statementSum bs) := by
  induction bs generalizing ran all with
  | nil => rfl
  | cons b bs ih =>
    rw [statementSum] at hall
    have hhit := hit_le b
    rw [List.foldlM_cons, next?_eq hran (by omega), Option.bind_eq_bind, Option.bind_some,
      ih (by omega) (by omega), statementSum_ran_cons, statementSum, Nat.add_assoc, Nat.add_assoc]

/-! ### Over all files -/

/-- The base names of the files of a profile, each one once. -/
def Profile.baseNames (p : Profile) : List Text := (p.blocks.map Block.baseName).dedup

theorem mem_blocksFor {p : Profile} {name : Text} {b : Block} :
    b ∈ p.blocksFor name ↔ b ∈ p.blocks ∧ b.baseName = name := by
  simp [Profile.blocksFor]

theorem baseName_mem {p : Profile} {b : Block} (h : b ∈ p.blocks) : b.baseName ∈ p.baseNames :=
  List.mem_dedup.mpr (List.mem_map_of_mem h)

/-- Sorted out by base name the blocks are what they were. -/
theorem flatMap_blocksFor_perm (p : Profile) : (p.baseNames.flatMap p.blocksFor).Perm p.blocks :=
  Editor.flatMap_filter_perm Block.baseName p.blocks (List.nodup_dedup _) fun _ => baseName_mem

theorem total_le (p : Profile) (name : Text) : p.total name ≤ statementSum p.blocks := by
  have h := statementSum_perm (List.filter_append_perm (fun b : Block => decide (b.baseName = name)) p.blocks)
  rw [statementSum_append] at h
  rw [Profile.total, Profile.blocksFor]
  omega

/-- Where all statements of a profile can be counted, those of each file are counted without a full counter. No more
of them ran than there are, and the others are those of the blocks that are told as not covered. Each block counts
for one base name, and over all base names the counts add up to those of the profile. They are the same in any order
of the blocks. -/
theorem counts_of_fits {p : Profile} (hfits : statementSum p.blocks < Numeral.limit) :
    (∀ name, p.tally? name = some (p.covered name, p.total name) ∧ p.covered name ≤ p.total name ∧
      p.total name - p.covered name = statementSum (p.uncovered name) ∧
      ∀ file, (Path.fileName? file).getD [] = name → summary file p =
        shareLine file (p.covered name) (p.total name) :: (p.uncovered name).map (gapLine file)) ∧
    (∀ b ∈ p.blocks, ∃! name, name ∈ p.baseNames ∧ b ∈ p.blocksFor name) ∧
    (p.baseNames.map p.covered).sum = statementSum (p.blocks.filter (0 < ·.count)) ∧
    (p.baseNames.map p.total).sum = statementSum p.blocks ∧
    (p.baseNames.map fun name => (p.blocksFor name).length).sum = p.blocks.length ∧
    ∀ q : Profile, q.blocks.Perm p.blocks → ∀ name, q.tally? name = some (p.covered name, p.total name) := by
  have htally : ∀ q : Profile, q.blocks.Perm p.blocks → ∀ name,
      q.tally? name = some (p.covered name, p.total name) := by
    intro q hq name
    have hperm := blocksFor_perm hq name
    have hall : 0 + statementSum (q.blocksFor name) < Numeral.limit := by
      rw [Nat.zero_add, statementSum_perm hperm]
      exact Nat.lt_of_le_of_lt (total_le p name) hfits
    rw [Profile.tally?, foldlM_next? (Nat.le_refl 0) hall, Nat.zero_add, Nat.zero_add, statementSum_perm hperm,
      statementSum_perm (hperm.filter _)]
    rfl
  have hsorted := flatMap_blocksFor_perm p
  refine ⟨fun name => ?_, fun b hb => ?_, ?_, ?_, ?_, htally⟩
  · have hsplit : p.covered name + statementSum (p.uncovered name) = p.total name :=
      statementSum_ran_add (p.blocksFor name)
    refine ⟨htally p (.refl _) name, by omega, by omega, ?_⟩
    rintro file rfl
    rw [summary, counts_of_tally? (htally p (.refl _) _)]
  · refine ⟨b.baseName, ⟨baseName_mem hb, mem_blocksFor.mpr ⟨hb, rfl⟩⟩, ?_⟩
    rintro name ⟨-, hname⟩
    exact (mem_blocksFor.mp hname).2.symm
  · rw [← statementSum_perm (hsorted.filter _), List.filter_flatMap, statementSum_flatMap]
    rfl
  · rw [← statementSum_perm hsorted, statementSum_flatMap]
    rfl
  · rw [← hsorted.length_eq, List.length_flatMap]

/-- A profile with as many statements as can be counted, of files with and without a directory and of one with a blank
base name. -/
def fullProfile : Profile where
  mode := "count".toList
  blocks := [
    ⟨"a.go".toList, ⟨1, 1⟩, ⟨2, 2⟩, 18446744073709551610, 0⟩,
    ⟨"x/a.go".toList, ⟨3, 1⟩, ⟨4, 2⟩, 4, 18446744073709551615⟩,
    ⟨"x/".toList, ⟨5, 1⟩, ⟨6, 2⟩, 1, 1⟩,
    ⟨"a.go".toList, ⟨7, 1⟩, ⟨8, 2⟩, 0, 0⟩]

/-- Of `a.go` four statements ran; two blocks did not, one of them without statements. With the statement of the other
file the profile is full. -/
theorem counts_of_fits_full :
    fullProfile.tally? "a.go".toList = some (4, 18446744073709551614) ∧
    statementSum (fullProfile.uncovered "a.go".toList) = 18446744073709551610 ∧
    (fullProfile.uncovered "a.go".toList).length = 2 ∧
    (fullProfile.baseNames.map fullProfile.total).sum = 18446744073709551615 := by
  obtain ⟨hfiles, -, -, htotal, -⟩ := counts_of_fits (p := fullProfile) (by decide)
  obtain ⟨htally, -, huncovered, -⟩ := hfiles "a.go".toList
  exact ⟨htally.trans (by decide), huncovered.symm.trans (by decide), by decide, htotal.trans (by decide)⟩

end SaveCheck.Coverage
