import Mathlib.Data.Set.List
import SaveCheck.Proofs.Grouping
import SaveCheck.Proofs.Marks

/-!
Grouping as a partition of the diagnostics.

    b: 7   a//x: 1   b/: 2   a/x: 3        ──▶      a//x: 1 3      b: 7 2

Each part is what is level with its first diagnostic, in the order of the list, and a group is a part told with the
path of that first one. A group is opened only for a file that no group is level with, and keeps its path from then
on. So the paths of the groups are those that the files were first spelled with.
-/

namespace SaveCheck.Editor

/-! ### Parts -/

/-- The diagnostics of a list that are level with the first of them, in their order. -/
structure Part (ds : List Diagnostic) where
  first : Diagnostic
  rest : List Diagnostic
  whole : first :: rest = ds.filter fun d => Path.components d.file = Path.components first.file

namespace Part

variable {ds : List Diagnostic}

/-- The diagnostics of a part. -/
def all (part : Part ds) : List Diagnostic := part.first :: part.rest

/-- The group of a part: the path as the first diagnostic spells it, and the marks of all. -/
def group (part : Part ds) : Path × List Marker := (part.first.file, part.all.map .ofDiagnostic)

theorem mem_all {part : Part ds} {d : Diagnostic} :
    d ∈ part.all ↔ d ∈ ds ∧ Path.components d.file = Path.components part.first.file := by
  rw [all, part.whole, List.mem_filter, decide_eq_true_eq]

end Part

/-- Each group is that of a part. -/
theorem exists_part {ds : List Diagnostic} {g : Path × List Marker} (hg : g ∈ groupByFile ds) :
    ∃ part : Part ds, part.group = g := by
  obtain ⟨first, hfirst, hspelt⟩ := first_of_mem_groupByFile ds g hg
  rw [← List.head?_filter, List.head?_eq_some_iff] at hfirst
  obtain ⟨rest, hrest⟩ := hfirst
  have hmarks := marksAt_groupByFile ds g.1
  rw [Groups.marksAt_of_mem (ascending_groupByFile ds) hg] at hmarks
  have hlevel : (ds.filter fun d => Path.order g.1 d.file = .eq) =
      ds.filter fun d => Path.components d.file = Path.components g.1 :=
    List.filter_congr fun d _ => decide_eq_decide.mpr (Path.order_eq_iff.trans eq_comm)
  rw [hlevel, hrest] at hmarks
  exact ⟨⟨first, rest, by rw [hspelt, hrest]⟩, Prod.ext hspelt hmarks.symm⟩

/-- The groups are those of some parts. -/
theorem exists_parts (ds : List Diagnostic) : ∃ parts : List (Part ds), groupByFile ds = parts.map Part.group := by
  have hrange : groupByFile ds ∈ Set.range (List.map (@Part.group ds)) := by
    rw [Set.range_list_map]
    exact fun g hg => exists_part hg
  obtain ⟨parts, hparts⟩ := hrange
  exact ⟨parts, hparts.symm⟩

/-- Each diagnostic is level with one of the parts. -/
theorem exists_part_of_mem {ds : List Diagnostic} {parts : List (Part ds)}
    (hparts : groupByFile ds = parts.map Part.group) : ∀ d ∈ ds, ∃ part ∈ parts,
      Path.components d.file = Path.components part.first.file := by
  intro d hd
  obtain ⟨g, hg, hlevel⟩ := exists_group_of_mem hd
  rw [hparts] at hg
  obtain ⟨part, hpart, rfl⟩ := List.mem_map.mp hg
  exact ⟨part, hpart, Path.order_eq_iff.mp hlevel⟩

/-- Parts in the order of their files sort out the whole list. -/
theorem flatMap_all_perm {ds : List Diagnostic} {parts : List (Part ds)}
    (hparts : parts.Pairwise fun a b => Path.order a.first.file b.first.file = .lt)
    (hcovers : ∀ d ∈ ds, ∃ part ∈ parts, Path.components d.file = Path.components part.first.file) :
    (parts.flatMap Part.all).Perm ds := by
  let key (d : Diagnostic) : List Path.Component := Path.components d.file
  have hkeys : (parts.map fun part => key part.first).Nodup := by
    refine List.pairwise_map.mpr (hparts.imp fun hlt heq => ?_)
    rw [Path.order_eq_iff.mpr heq] at hlt
    cases hlt
  have hmem : ∀ d ∈ ds, key d ∈ parts.map fun part => key part.first := by
    intro d hd
    obtain ⟨part, hpart, hlevel⟩ := hcovers d hd
    exact List.mem_map.mpr ⟨part, hpart, hlevel.symm⟩
  have hsorted := flatMap_filter_perm key ds hkeys hmem
  rw [List.flatMap_map] at hsorted
  exact (List.Perm.of_eq (List.flatMap_congr fun part _ => part.whole)).trans hsorted

/-! ### The partition -/

/-- Grouping parts the diagnostics by file, in the order of the files. Diagnostics are in one part just when their
files have the same components; a group has the path that its file was first spelled with and the marks of its part, in
the order of the list. Each mark shows its diagnostic. -/
theorem groupByFile_partition (ds : List Diagnostic) :
    (∃ parts : List (Part ds), groupByFile ds = parts.map Part.group ∧
      (parts.Pairwise fun a b => Path.order a.first.file b.first.file = .lt) ∧
      (parts.flatMap Part.all).Perm ds ∧
      ∀ d ∈ ds, ∀ e ∈ ds, (∃ part ∈ parts, d ∈ part.all ∧ e ∈ part.all) ↔
        Path.components d.file = Path.components e.file) ∧
    ∀ d, (Marker.ofDiagnostic d).Shows d := by
  refine ⟨?_, shows_ofDiagnostic⟩
  obtain ⟨parts, hparts⟩ := exists_parts ds
  have hascending : parts.Pairwise fun a b => Path.order a.first.file b.first.file = .lt := by
    have h := ascending_groupByFile ds
    rw [hparts] at h
    exact List.pairwise_map.mp h
  have hcovers := exists_part_of_mem hparts
  refine ⟨parts, hparts, hascending, flatMap_all_perm hascending hcovers, fun d hd e he => ⟨?_, fun hlevel => ?_⟩⟩
  · rintro ⟨part, -, hd, he⟩
    exact (Part.mem_all.mp hd).2.trans (Part.mem_all.mp he).2.symm
  · obtain ⟨part, hpart, hfirst⟩ := hcovers d hd
    exact ⟨part, hpart, Part.mem_all.mpr ⟨hd, hfirst⟩, Part.mem_all.mpr ⟨he, hlevel.symm.trans hfirst⟩⟩

/-- An issue at the end of what a mark can tell: its line is too far down, its column is not. -/
def farIssue : Diagnostic := ⟨"/p/./b.go/".toList, 4294967297, some 4294967296, "far".toList, .warning⟩

/-- An issue of the same file, spelled otherwise. -/
def nearIssue : Diagnostic := ⟨"/p/b.go".toList, 7, none, "near".toList, .error⟩

/-- Issues of two files, each in two spellings. -/
def oddlySpelt : List Diagnostic := [
  nearIssue, ⟨"/p//a.go".toList, 0, some 0, "naught".toList, .warning⟩,
  farIssue, ⟨"/p/a.go".toList, 1, some 5, "five".toList, .error⟩]

/-- The groups have the paths that came first, and both issues of `b.go` are in one of them. -/
theorem groupByFile_partition_oddlySpelt :
    (groupByFile oddlySpelt).map (·.1) = ["/p//a.go".toList, "/p/b.go".toList] ∧
    (nearIssue ∈ oddlySpelt ∧ farIssue ∈ oddlySpelt ∧ ∃ parts : List (Part oddlySpelt),
      groupByFile oddlySpelt = parts.map Part.group ∧ ∃ part ∈ parts, nearIssue ∈ part.all ∧ farIssue ∈ part.all) ∧
    (Marker.ofDiagnostic farIssue).start.character = 4294967295 := by
  obtain ⟨⟨parts, hparts, -, -, hshare⟩, hshows⟩ := groupByFile_partition oddlySpelt
  have hnear : nearIssue ∈ oddlySpelt := by decide
  have hfar : farIssue ∈ oddlySpelt := by decide
  have htogether := (hshare nearIssue hnear farIssue hfar).mpr (by decide)
  exact ⟨by decide, ⟨hnear, hfar, parts, hparts, htogether⟩, (hshows farIssue).fromColumn (by decide)⟩

end SaveCheck.Editor
