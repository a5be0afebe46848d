import SaveCheck.Config
import SaveCheck.Proofs.Lookup

/-!
The project file that applies to a file, however the file is spelled.

    from /w/sub     a.go            looks in  ""                          and stops there
                    /w/sub/a.go     looks in  /w/sub · /w · /

The two agree unless the only project file lies above the directory that the process stands in.
-/

namespace SaveCheck.Config

variable {c : Config} {h : Host} {d : Disk} {p : Path}

/-- Whether a directory holds a project file. -/
def holds (h : Host) (d : Disk) (dir : Path) : Bool :=
  d.isFile h.cwd (Path.join dir projectFileName)

/-- The place of the project file that applies to a file. -/
def placeFor (c : Config) (h : Host) (d : Disk) (file : Path) : Option Place :=
  (c.fileFor h d file).bind fun q => (d.find h.cwd q).toOption

/-- It is the one in the nearest of the directories above the file. -/
theorem fileFor_eq (hc : c.file = none) (p : Path) :
    c.fileFor h d p = ((Path.parents p).find? (holds h d)).map (Path.join · projectFileName) := by
  rw [fileFor, hc, Option.none_or, Path.parent?]
  cases hparents : Path.parents p with
  | nil => rfl
  | cons dir rest =>
    rw [List.head?_cons, Option.bind_some, nearest, Path.ancestors, Path.parents_of_parents hparents,
      List.find?_map]
    rfl

theorem placeFor_of_holds (hc : c.file = none) {dir : Path}
    (hfind : (Path.parents p).find? (holds h d) = some dir) :
    c.placeFor h d p = (d.find h.cwd (Path.join dir projectFileName)).toOption := by
  rw [placeFor, fileFor_eq hc, hfind]
  rfl

theorem placeFor_eq_none_iff (hc : c.file = none) :
    c.placeFor h d p = none ↔ ∀ dir ∈ Path.parents p, holds h d dir = false := by
  constructor
  · intro hnone
    cases hfind : (Path.parents p).find? (holds h d) with
    | none => simpa [List.find?_eq_none] using hfind
    | some dir =>
      have hholds : holds h d dir = true := List.find?_some hfind
      obtain ⟨place, -, -, hplace, -⟩ := Disk.isFile_eq_true_iff.mp hholds
      rw [placeFor_of_holds hc hfind, hplace] at hnone
      cases hnone
  · intro hall
    rw [placeFor, fileFor_eq hc, List.find?_eq_none.mpr (by simpa using hall)]
    rfl

/-! ### The directories above a relative path -/

theorem find_here (hs : h.Stands d) :
    d.find h.cwd (Path.join ['.'] projectFileName) = d.find h.cwd projectFileName := by
  have hcwd : d.step h.cwd ['.'] = .ok h.cwd :=
    Disk.step_void (hs.directories h.cwd List.prefix_rfl) rfl
  have hfind : d.find h.cwd (Path.join ['.'] projectFileName) =
      List.foldlM d.step h.cwd [['.'], projectFileName] := rfl
  rw [hfind, List.foldlM_cons, hcwd]
  rfl

/-- The project file of a directory above a relative path, seen from the root, is some relative path seen
from there that leads to the same place. -/
theorem join_seen (hs : h.Stands d) {dir : Path} (hrel : Path.isAbsolute dir = false) :
    ∃ q, Path.isAbsolute q = false ∧ q ≠ [] ∧
      Path.join (Path.seen h.cwdPath dir) projectFileName = Path.join h.cwdPath q ∧
      d.find h.cwd (Path.join dir projectFileName) = d.find h.cwd q := by
  rw [Path.seen]
  split
  · rename_i hvoid
    refine ⟨projectFileName, by decide, by decide, rfl, ?_⟩
    rcases show dir = [] ∨ dir = ['.'] by simpa [Path.isVoid] using hvoid with rfl | rfl
    · rfl
    · exact find_here hs
  · rename_i hvoid
    have hdir : dir ≠ [] := by
      rintro rfl
      exact hvoid rfl
    refine ⟨Path.join dir projectFileName, ?_, ?_, Path.join_assoc _ hrel hdir (by decide), rfl⟩
    · rw [Path.join_eq_append dir (by decide), Path.isAbsolute_append hdir, hrel]
    · simp [Path.join_eq_append dir (p := projectFileName) (by decide), hdir]

theorem find_seen (hs : h.Stands d) {dir : Path} (hrel : Path.isAbsolute dir = false)
    (hshort : Disk.isShort (Path.join (Path.seen h.cwdPath dir) projectFileName) = true) :
    d.find h.cwd (Path.join (Path.seen h.cwdPath dir) projectFileName) =
      d.find h.cwd (Path.join dir projectFileName) := by
  obtain ⟨q, hq, hne, hjoin, hfind⟩ := join_seen hs hrel
  rw [hjoin] at hshort ⊢
  rw [hs.find_join hq hne hshort, hfind]

theorem holds_seen (hs : h.Stands d) {dir : Path} (hrel : Path.isAbsolute dir = false) :
    holds h d (Path.seen h.cwdPath dir) =
      (Disk.isShort (Path.join (Path.seen h.cwdPath dir) projectFileName) && holds h d dir) := by
  obtain ⟨q, hq, hne, hjoin, hfind⟩ := join_seen hs hrel
  rw [holds, holds, hjoin, hs.isFile_join hq hne, Disk.isFile_congr hfind]

theorem not_holds_seen (hs : h.Stands d) {dirs : List Path} (hrel : ∀ dir ∈ dirs, Path.isAbsolute dir = false)
    (hnone : ∀ dir ∈ dirs, holds h d dir = false) :
    ∀ dir ∈ dirs.map (Path.seen h.cwdPath), holds h d dir = false := by
  intro e he
  obtain ⟨dir, hdir, rfl⟩ := List.mem_map.mp he
  rw [holds_seen hs (hrel dir hdir), hnone dir hdir, Bool.and_false]

/-- What a relative path finds does not hang on the blank directory that comes last. -/
theorem find?_parents (hs : h.Stands d) (hname : (Path.fileName? p).isSome) :
    (Path.parents p).find? (holds h d) = (Path.dirs p).find? (holds h d) := by
  rw [Path.parents_eq_dirs, List.find?_append]
  split
  · rename_i hhere
    cases hfind : (Path.dirs p).find? (holds h d) with
    | some dir => rfl
    | none =>
      have hmem : Path.write (Path.split p).1 [] ∈ Path.dirs p :=
        Path.dirOf_start_mem _ (by simpa using Path.exists_name hname)
      rw [hhere] at hmem
      have hdot : holds h d ['.'] = false := by
        simpa using List.find?_eq_none.mp hfind ['.'] hmem
      have hblank : holds h d [] = false := (Disk.isFile_congr (find_here hs)).symm.trans hdot
      simp [hblank]
  · simp

/-! ### The directories above a path from the root -/

section

variable (hs : h.Stands d) (hrel : Path.isAbsolute p = false)
include hs hrel

theorem parents_from_root : Path.parents (Path.join h.cwdPath p) =
    (Path.outers (h.cwd ++ Path.pieces p).reverse).map (Path.dirOf (some .root)) :=
  Path.parents_join_root hs.cwd_names hrel

omit hrel in
/-- The pieces of a project file in such a directory. -/
theorem pieces_project {o : List Text} (ho : o ∈ Path.outers (h.cwd ++ Path.pieces p).reverse) :
    Path.pieces (Path.join (Path.dirOf (some .root) o) projectFileName) =
        [] :: ((o.dropWhile Path.isVoid).reverse ++ [projectFileName]) ∧
      ∀ q ∈ o, q ∈ h.cwd ∨ q ∈ Path.pieces p := by
  obtain ⟨inner, piece, -, hsplit⟩ := Path.mem_outers ho
  have hmem : ∀ q ∈ o, q ∈ h.cwd ∨ q ∈ Path.pieces p := by
    intro q hq
    rw [← List.mem_append, ← List.mem_reverse, hsplit]
    simp [hq]
  refine ⟨Path.pieces_join_dirOf (fun q hq => ?_) (by decide) (by decide), hmem⟩
  rcases hmem q hq with hq | hq
  · exact (hs.names q hq).slash
  · exact Path.not_mem_of_mem_pieces hq

omit hrel in
theorem length_project {o : List Text} (ho : o ∈ Path.outers (h.cwd ++ Path.pieces p).reverse) :
    (Path.named (Path.join (Path.dirOf (some .root) o) projectFileName)).length = Path.depth o + 1 := by
  have hname : Path.isVoid projectFileName = false := by decide
  rw [Path.named, (pieces_project hs ho).1, List.filter_cons_of_neg (by simp [Path.isVoid]),
    List.filter_append, List.filter_reverse, Path.filter_dropWhile, List.length_append,
    List.length_reverse, List.filter_cons_of_pos (by simp [hname])]
  rfl

/-- Further out the place of a project file has fewer names. -/
theorem fewer_names : (Path.parents (Path.join h.cwdPath p)).Pairwise fun dir dir' =>
    (Path.named (Path.join dir' projectFileName)).length <
      (Path.named (Path.join dir projectFileName)).length := by
  rw [parents_from_root hs hrel, List.pairwise_map]
  refine (Path.depth_outers _).imp_of_mem fun ho ho' hlt => ?_
  rw [length_project hs ho, length_project hs ho']
  omega

theorem project_up (hup : ∀ q ∈ Path.pieces p, q ≠ ['.', '.']) :
    ∀ dir ∈ Path.parents (Path.join h.cwdPath p),
      ∀ q ∈ Path.pieces (Path.join dir projectFileName), q ≠ ['.', '.'] := by
  intro dir hdir q hq
  rw [parents_from_root hs hrel] at hdir
  obtain ⟨o, ho, rfl⟩ := List.mem_map.mp hdir
  obtain ⟨hpieces, hmem⟩ := pieces_project hs ho
  rw [hpieces] at hq
  rcases List.mem_cons.mp hq with rfl | hq
  · decide
  · rcases List.mem_append.mp hq with hq | hq
    · rcases hmem q ((List.dropWhile_suffix _).subset (List.mem_reverse.mp hq)) with hq | hq
      · exact (hs.names q hq).up
      · exact hup q hq
    · rw [List.mem_singleton.mp hq]
      decide

end

/-! ### Places of project files -/

section

variable (hs : h.Stands d) (hrel : Path.isAbsolute p = false) (hup : ∀ q ∈ Path.pieces p, q ≠ ['.', '.'])
include hs hrel hup

/-- A project file above a path from the root lies where its own path spells. -/
theorem place_from_root {dir : Path} (hdir : dir ∈ Path.parents (Path.join h.cwdPath p)) {place : Place}
    (hplace : d.find h.cwd (Path.join dir projectFileName) = .ok place) :
    place = Path.named (Path.join dir projectFileName) := by
  have habs : Path.isAbsolute (Path.join dir projectFileName) = true := by
    have hmem := hdir
    rw [parents_from_root hs hrel] at hmem
    obtain ⟨o, -, rfl⟩ := List.mem_map.mp hmem
    rw [Path.join_eq_append _ (by decide), Path.isAbsolute_append (by simp [Path.dirOf, Path.write])]
    rfl
  simpa [habs] using Disk.find_named (project_up hs hrel hup dir hdir) hplace

/-- One above a relative path lies where its path spells as seen from the root. -/
theorem place_seen {dir : Path} (hdir : Path.isAbsolute dir = false)
    (hseen : Path.seen h.cwdPath dir ∈ Path.parents (Path.join h.cwdPath p)) {place : Place}
    (hplace : d.find h.cwd (Path.join dir projectFileName) = .ok place) :
    place = Path.named (Path.join (Path.seen h.cwdPath dir) projectFileName) := by
  obtain ⟨q, hq, -, hjoin, hfind⟩ := join_seen hs hdir
  have hup' := project_up hs hrel hup _ hseen
  rw [hjoin, hs.pieces_join hq] at hup'
  rw [hfind] at hplace
  rw [hjoin, hs.named_join hq]
  simpa [hq] using Disk.find_named (fun r hr => hup' r (by simp [hr])) hplace

end

/-! ### The two spellings -/

theorem place_of_fileFor (hc : c.file = none) {f : Path} (hf : c.fileFor h d p = some f) :
    ∃ place, d.find h.cwd f = .ok place ∧ c.placeFor h d p = some place := by
  rw [fileFor_eq hc] at hf
  obtain ⟨dir, hfind, rfl⟩ := Option.map_eq_some_iff.mp hf
  have hholds : holds h d dir = true := List.find?_some hfind
  obtain ⟨place, -, -, hplace, -⟩ := Disk.isFile_eq_true_iff.mp hholds
  exact ⟨place, hplace, by rw [placeFor_of_holds hc hfind, hplace]; rfl⟩

/-- Up to the path in an error, what is read does not hang on how the way to it is spelled. -/
theorem load_congr {f g : Path} (hfind : d.find h.cwd f = d.find h.cwd g) :
    (load h d f).toOption = (load h d g).toOption := by
  have hread : d.readText h.cwd f = d.readText h.cwd g := by
    rw [Disk.readText, Disk.read, Disk.lookup, hfind, Disk.readText, Disk.read, Disk.lookup]
  rw [load, load, hread]
  cases d.readText h.cwd g with
  | error fault => rfl
  | ok text =>
    dsimp only
    cases Settings.ofDocument? text <;> rfl

theorem settingsFor_toOption (r : Path) : (c.settingsFor h d r).toOption =
    ((c.fileFor h d r).elim (some {}) fun f => (load h d f).toOption).map fun s =>
      c.withGoRoot (c.overrides.apply s) := by
  rw [settingsFor]
  cases c.fileFor h d r with
  | none => rfl
  | some f =>
    rw [Option.elim_some]
    dsimp only
    cases load h d f <;> rfl

/-- Where the project files lie in the same place, the settings are the same. -/
theorem settingsFor_congr (hc : c.file = none) {q : Path} (hplace : c.placeFor h d p = c.placeFor h d q) :
    (c.settingsFor h d p).toOption = (c.settingsFor h d q).toOption := by
  rw [settingsFor_toOption, settingsFor_toOption]
  cases hp : c.fileFor h d p with
  | none =>
    cases hq : c.fileFor h d q with
    | none => rfl
    | some g =>
      obtain ⟨place, -, hplace'⟩ := place_of_fileFor hc hq
      rw [placeFor, hp, hplace'] at hplace
      cases hplace
  | some f =>
    obtain ⟨place, hf, hplace'⟩ := place_of_fileFor hc hp
    cases hq : c.fileFor h d q with
    | none =>
      rw [hplace', placeFor, hq] at hplace
      cases hplace
    | some g =>
      obtain ⟨place', hg, hplace''⟩ := place_of_fileFor hc hq
      rw [hplace', hplace'', Option.some.injEq] at hplace
      rw [Option.elim_some, Option.elim_some, load_congr (hf.trans (hplace ▸ hg.symm))]

theorem above_from_root (hs : h.Stands d) (hrel : Path.isAbsolute p = false) (hp : p ≠ []) :
    Path.parents (Path.join h.cwdPath p) =
      (Path.dirs p).map (Path.seen h.cwdPath) ++ Path.parents h.cwdPath :=
  Path.parents_join hs.cwd_names hrel hp

section

variable (hc : c.file = none) (hs : h.Stands d) (hrel : Path.isAbsolute p = false)
  (hname : (Path.fileName? p).isSome)
include hc hs hrel hname

/-- Where the relative path finds nothing, the path from the root finds what lies further above. -/
theorem placeFor_join_of_none (hfind : (Path.parents p).find? (holds h d) = none) :
    c.placeFor h d (Path.join h.cwdPath p) = c.placeFor h d p ↔
      ∀ dir ∈ Path.parents h.cwdPath, holds h d dir = false := by
  have hp := Path.ne_nil_of_fileName hname
  have hnone : c.placeFor h d p = none :=
    (placeFor_eq_none_iff hc).mpr (by simpa [List.find?_eq_none] using hfind)
  rw [find?_parents hs hname, List.find?_eq_none] at hfind
  have hseen := not_holds_seen hs (fun dir hdir => Path.dirs_relative hrel hp hdir)
    fun dir hdir => by simpa using hfind dir hdir
  rw [hnone, placeFor_eq_none_iff hc, above_from_root hs hrel hp]
  constructor
  · exact fun hall dir hdir => hall dir (by simp [hdir])
  · intro hall dir hdir
    rcases List.mem_append.mp hdir with hdir | hdir
    · exact hseen dir hdir
    · exact hall dir hdir

omit hc in
/-- The directories above the path from the root, around the one where the relative path finds a project
file: nearer ones hold none. -/
theorem around_found {dir : Path} (hfind : (Path.parents p).find? (holds h d) = some dir) :
    Path.isAbsolute dir = false ∧ holds h d dir = true ∧
      ∃ near far, Path.parents (Path.join h.cwdPath p) = near ++ Path.seen h.cwdPath dir :: far ∧
        ∀ e ∈ near, holds h d e = false := by
  have hp := Path.ne_nil_of_fileName hname
  rw [find?_parents hs hname] at hfind
  obtain ⟨hholds, near, far, hdirs, hnear⟩ := List.find?_eq_some_iff_append.mp hfind
  have hrelative : ∀ e ∈ near, Path.isAbsolute e = false :=
    fun e he => Path.dirs_relative hrel hp (by simp [hdirs, he])
  have hnone : ∀ e ∈ near, holds h d e = false := fun e he => by simpa using hnear e he
  refine ⟨Path.dirs_relative hrel hp (by simp [hdirs]), hholds, near.map (Path.seen h.cwdPath),
    far.map (Path.seen h.cwdPath) ++ Path.parents h.cwdPath, ?_, not_holds_seen hs hrelative hnone⟩
  rw [above_from_root hs hrel hp, hdirs]
  simp

/-- Where the relative path finds a project file that can be reached from the root, both find it. -/
theorem placeFor_join_of_short {dir : Path} (hfind : (Path.parents p).find? (holds h d) = some dir)
    (hshort : Disk.isShort (Path.join (Path.seen h.cwdPath dir) projectFileName) = true) :
    c.placeFor h d (Path.join h.cwdPath p) = c.placeFor h d p := by
  obtain ⟨hdir, hholds, near, far, habove, hnear⟩ := around_found hs hrel hname hfind
  have hroot : (Path.parents (Path.join h.cwdPath p)).find? (holds h d) =
      some (Path.seen h.cwdPath dir) := by
    refine List.find?_eq_some_iff_append.mpr ⟨?_, near, far, habove, fun e he => by simp [hnear e he]⟩
    rw [holds_seen hs hdir, hshort, hholds]
    rfl
  rw [placeFor_of_holds hc hfind, placeFor_of_holds hc hroot, find_seen hs hdir hshort]

/-- Where that path is too long, the path from the root finds another one, further above, or none. -/
theorem placeFor_join_of_long (hup : ∀ q ∈ Path.pieces p, q ≠ ['.', '.']) {dir : Path}
    (hfind : (Path.parents p).find? (holds h d) = some dir)
    (hlong : Disk.isShort (Path.join (Path.seen h.cwdPath dir) projectFileName) = false) :
    c.placeFor h d (Path.join h.cwdPath p) ≠ c.placeFor h d p := by
  intro heq
  obtain ⟨hdir, hholds, near, far, habove, hnear⟩ := around_found hs hrel hname hfind
  obtain ⟨place, -, -, hplace, -⟩ := Disk.isFile_eq_true_iff.mp hholds
  have hnamed := place_seen hs hrel hup hdir (by simp [habove]) hplace
  rw [placeFor_of_holds hc hfind, hplace] at heq
  cases hroot : (Path.parents (Path.join h.cwdPath p)).find? (holds h d) with
  | none =>
    rw [(placeFor_eq_none_iff hc).mpr (by simpa [List.find?_eq_none] using hroot)] at heq
    cases heq
  | some e =>
    rw [placeFor_of_holds hc hroot] at heq
    have hplace' : d.find h.cwd (Path.join e projectFileName) = .ok place := by
      cases hfound : d.find h.cwd (Path.join e projectFileName) <;> rw [hfound] at heq <;> cases heq
      rfl
    have hmem := List.mem_of_find?_eq_some hroot
    have hnamed' := place_from_root hs hrel hup hmem hplace'
    have hholds' : holds h d e = true := List.find?_some hroot
    have hfewer := fewer_names hs hrel
    rw [habove, List.pairwise_append, List.pairwise_cons] at hfewer
    rw [habove, List.mem_append, List.mem_cons] at hmem
    rcases hmem with he | rfl | he
    · rw [hnear e he] at hholds'
      cases hholds'
    · rw [holds_seen hs hdir, hlong] at hholds'
      cases hholds'
    · have hlt := hfewer.2.1.1 e he
      rw [← hnamed, ← hnamed'] at hlt
      exact absurd hlt (Nat.lt_irrefl _)

end

/-- A relative path and the same path from the root lead to the same project file, or to none, exactly if
the one that the relative path finds can be reached from the root by a path that is short enough, or the
relative path finds none and there is none above the process's directory either. The settings are then the
same. What the path from the root finds is in the nearest directory. -/
theorem placeFor_join_iff (hc : c.file = none) (hs : h.Stands d) (hrel : Path.isAbsolute p = false)
    (hname : (Path.fileName? p).isSome) (hup : ∀ q ∈ Path.pieces p, q ≠ ['.', '.']) :
    (c.placeFor h d (Path.join h.cwdPath p) = c.placeFor h d p ↔
      match (Path.parents p).find? (holds h d) with
      | some dir => Disk.isShort (Path.join (Path.seen h.cwdPath dir) projectFileName)
      | none => ∀ dir ∈ Path.parents h.cwdPath, holds h d dir = false) ∧
    (c.placeFor h d (Path.join h.cwdPath p) = c.placeFor h d p →
      (c.settingsFor h d (Path.join h.cwdPath p)).toOption = (c.settingsFor h d p).toOption) ∧
    ∀ q, c.fileFor h d (Path.join h.cwdPath p) = some q →
      ∃ near dir far, Path.parents (Path.join h.cwdPath p) = near ++ dir :: far ∧
        q = Path.join dir projectFileName ∧ d.isFile h.cwd q = true ∧
        ∀ e ∈ near, d.isFile h.cwd (Path.join e projectFileName) = false := by
  refine ⟨?_, settingsFor_congr hc, fun q hq => ?_⟩
  · cases hfind : (Path.parents p).find? (holds h d) with
    | none => exact placeFor_join_of_none hc hs hrel hname hfind
    | some dir =>
      cases hshort : Disk.isShort (Path.join (Path.seen h.cwdPath dir) projectFileName) with
      | true => simp [placeFor_join_of_short hc hs hrel hname hfind hshort, hshort]
      | false => simp [placeFor_join_of_long hc hs hrel hname hup hfind hshort, hshort]
  · rw [fileFor_eq hc] at hq
    obtain ⟨dir, hfind, rfl⟩ := Option.map_eq_some_iff.mp hq
    obtain ⟨hholds, near, far, habove, hnear⟩ := List.find?_eq_some_iff_append.mp hfind
    exact ⟨near, dir, far, habove, rfl, hholds, fun e he => by simpa [holds] using hnear e he⟩

/-! ### A project file above the process -/

/-- A process that stands in `/sub`. -/
def subHost : Host where
  environment := { temp := "/t".toList }
  cwd := ["sub".toList]
  programs _ _ _ := {}

/-- A disk with a project file in the root alone. -/
def rootDisk : Disk where
  node? place :=
    if place = [] ∨ place = ["sub".toList] then some .directory
    else if place = [projectFileName] then
      some (.file (Utf8.encode "vetOnSave = false\n".toList) false)
    else none

/-- What a command line says that says nothing. -/
def plainConfig : Config := ⟨none, none, {}, "info".toList⟩

theorem subHost_stands : subHost.Stands rootDisk where
  names := by
    intro n hn
    obtain rfl : n = "sub".toList := List.mem_singleton.mp hn
    exact ⟨by decide, by decide, by decide, by decide, by decide⟩
  directories := by
    rintro place hplace
    rcases List.prefix_cons_iff.mp hplace with rfl | ⟨rest, rfl, hrest⟩
    · rfl
    · obtain rfl := List.prefix_nil.mp hrest
      rfl

/-- The file of the relative path has none of the settings that the same file has from the root. -/
theorem placeFor_join_ne_sub :
    plainConfig.placeFor subHost rootDisk "/sub/a.go".toList ≠
      plainConfig.placeFor subHost rootDisk "a.go".toList := by
  have hiff := (placeFor_join_iff (p := "a.go".toList) (c := plainConfig) rfl subHost_stands (by decide)
    (by decide) (by decide)).1
  intro heq
  have hnone : (Path.parents "a.go".toList).find? (holds subHost rootDisk) = none := by decide
  have hall := hiff.mp heq
  rw [hnone] at hall
  exact absurd (hall "/".toList (by decide)) (by decide +kernel)

end SaveCheck.Config
