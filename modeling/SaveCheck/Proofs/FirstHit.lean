import SaveCheck.Proofs.Writes
import SaveCheck.Toolchain

/-!
Which Go and which tools are found.

    go       root/bin · PATH ...                     the first that holds `go`
    a tool   entry/bin ... · root/bin · PATH ...     the first that holds the tool

A search goes through its directories in their order, and the first one that holds a file of the name settles it. So it
finds a file wherever there is one, and what stands anywhere but in the directories up to the first hit does not
matter: files may come and go there.
-/

namespace SaveCheck

/-- What a path leads to is a file still, if the directories are still there and nothing has changed at its place. -/
theorem Disk.isFile_of_directories {d d' : Disk} {cwd : Place} {p : Path}
    (hdirs : ∀ q, d.node? q = some .directory → d'.node? q = some .directory)
    (hplace : ∀ place, d.find cwd p = .ok place → d.node? place = d'.node? place) (h : d.isFile cwd p = true) :
    d'.isFile cwd p = true := by
  obtain ⟨place, content, executable, hfind, hnode⟩ := isFile_eq_true_iff.mp h
  have hnode' : d'.node? place = some (.file content executable) := (hplace place hfind).symm.trans hnode
  have hfind' : d'.find cwd p = .ok place := find_of_directories hdirs (by rw [hnode']; rfl) hfind
  exact isFile_eq_true_iff.mpr ⟨place, content, executable, hfind', hnode'⟩

namespace Toolchain

/-! ### Searches -/

/-- The first of some directories that holds a file of a name. -/
structure Hit (h : Host) (d : Disk) (dirs : List Path) (name : Text) where
  before : List Path
  dir : Path
  after : List Path
  split : dirs = before ++ dir :: after
  holds : d.isFile h.cwd (Path.join dir name) = true
  missed : ∀ earlier ∈ before, d.isFile h.cwd (Path.join earlier name) = false

/-- The path of the file that is hit. -/
def Hit.path {h : Host} {d : Disk} {dirs : List Path} {name : Text} (hit : Hit h d dirs name) : Path :=
  Path.join hit.dir name

/-- The directories that were looked at. -/
def Hit.tried {h : Host} {d : Disk} {dirs : List Path} {name : Text} (hit : Hit h d dirs name) : List Path :=
  hit.before ++ [hit.dir]

/-- Between two disks files have come and gone, but none at a place where a search of these directories looks. It is
the places that count: a directory can be listed twice, or be spelled otherwise. -/
structure Spares (h : Host) (dirs : List Path) (name : Text) (d d' : Disk) : Prop where
  directories : ∀ place, d.node? place = some .directory ↔ d'.node? place = some .directory
  sought : ∀ dir ∈ dirs, ∀ place, d.find h.cwd (Path.join dir name) = .ok place ∨
    d'.find h.cwd (Path.join dir name) = .ok place → d.node? place = d'.node? place

theorem Spares.isFile_eq {h : Host} {dirs : List Path} {name : Text} {d d' : Disk} (hd : Spares h dirs name d d')
    {dir : Path} (hdir : dir ∈ dirs) :
    d'.isFile h.cwd (Path.join dir name) = d.isFile h.cwd (Path.join dir name) := by
  refine Bool.eq_iff_iff.mpr ⟨fun hfile => ?_, fun hfile => ?_⟩
  · exact Disk.isFile_of_directories (fun q => (hd.directories q).mpr)
      (fun place hfind => (hd.sought dir hdir place (.inr hfind)).symm) hfile
  · exact Disk.isFile_of_directories (fun q => (hd.directories q).mp)
      (fun place hfind => hd.sought dir hdir place (.inl hfind)) hfile

/-- A file put or removed where no search of the directories leads. -/
theorem spares_set {h : Host} {dirs : List Path} {name : Text} {d : Disk} {place : Place} {node : Option Node}
    (hbefore : d.node? place ≠ some .directory) (hafter : node ≠ some .directory)
    (helsewhere : ∀ dir ∈ dirs, d.find h.cwd (Path.join dir name) ≠ .ok place ∧
      (d.set place node).find h.cwd (Path.join dir name) ≠ .ok place) :
    Spares h dirs name d (d.set place node) where
  directories := by
    intro q
    rcases eq_or_ne q place with rfl | hq
    · rw [Disk.node?_set_self]
      exact iff_of_false hbefore hafter
    · rw [Disk.node?_set_of_ne d node hq]
  sought := by
    rintro dir hdir q hfind
    refine (Disk.node?_set_of_ne d node ?_).symm
    rintro rfl
    exact hfind.elim (helsewhere dir hdir).1 (helsewhere dir hdir).2

/-- What is found on a disk is the first hit in some directories. -/
structure FindsFirst (h : Host) (dirs : List Path) (name : Text) (found : Disk → Option Path) : Prop where
  eq_some_iff : ∀ d p, found d = some p ↔ ∃ hit : Hit h d dirs name, p = hit.path
  eq_none_iff : ∀ d, found d = none ↔ ∀ dir ∈ dirs, d.isFile h.cwd (Path.join dir name) = false
  of_spares : ∀ d d' (hit : Hit h d dirs name), Spares h hit.tried name d d' → found d' = found d

theorem firstIn_eq_some_iff {h : Host} {d : Disk} {dirs : List Path} {name : Text} {p : Path} :
    firstIn h d dirs name = some p ↔ ∃ hit : Hit h d dirs name, p = hit.path := by
  rw [firstIn, List.find?_map, Option.map_eq_some_iff]
  constructor
  · rintro ⟨dir, hdir, rfl⟩
    obtain ⟨hholds, before, after, rfl, hmissed⟩ := List.find?_eq_some_iff_append.mp hdir
    exact ⟨⟨before, dir, after, rfl, hholds, fun earlier he => by simpa using hmissed earlier he⟩, rfl⟩
  · rintro ⟨⟨before, dir, after, rfl, hholds, hmissed⟩, rfl⟩
    refine ⟨dir, List.find?_eq_some_iff_append.mpr ⟨hholds, before, after, rfl, fun earlier he => ?_⟩, rfl⟩
    simpa using hmissed earlier he

theorem firstIn_eq_none_iff {h : Host} {d : Disk} {dirs : List Path} {name : Text} :
    firstIn h d dirs name = none ↔ ∀ dir ∈ dirs, d.isFile h.cwd (Path.join dir name) = false := by
  simp [firstIn]

theorem findsFirst_firstIn (h : Host) (dirs : List Path) (name : Text) :
    FindsFirst h dirs name fun d => firstIn h d dirs name where
  eq_some_iff _ _ := firstIn_eq_some_iff
  eq_none_iff _ := firstIn_eq_none_iff
  of_spares := by
    intro d d' hit hspares
    have hholds : d'.isFile h.cwd (Path.join hit.dir name) = true :=
      (hspares.isFile_eq (List.mem_append_right _ List.mem_cons_self)).trans hit.holds
    have hmissed : ∀ earlier ∈ hit.before, d'.isFile h.cwd (Path.join earlier name) = false :=
      fun earlier he => (hspares.isFile_eq (List.mem_append_left _ he)).trans (hit.missed earlier he)
    have hthere : firstIn h d' dirs name = some hit.path :=
      firstIn_eq_some_iff.mpr ⟨⟨hit.before, hit.dir, hit.after, hit.split, hholds, hmissed⟩, rfl⟩
    exact hthere.trans (firstIn_eq_some_iff.mpr ⟨hit, rfl⟩).symm

/-- What is found is the file in a directory that holds it, if none before it does. -/
theorem FindsFirst.eq_join {h : Host} {dirs : List Path} {name : Text} {found : Disk → Option Path}
    (hfirst : FindsFirst h dirs name found) {d : Disk} (before : List Path) (dir : Path) {after : List Path}
    (hsplit : dirs = before ++ dir :: after) (hholds : d.isFile h.cwd (Path.join dir name) = true)
    (hmissed : ∀ earlier ∈ before, d.isFile h.cwd (Path.join earlier name) = false) :
    found d = some (Path.join dir name) :=
  (hfirst.eq_some_iff d _).mpr ⟨⟨before, dir, after, hsplit, hholds, hmissed⟩, rfl⟩

theorem firstIn_append (h : Host) (d : Disk) (dirs dirs' : List Path) (name : Text) :
    firstIn h d (dirs ++ dirs') name = (firstIn h d dirs name).or (firstIn h d dirs' name) := by
  rw [firstIn, List.map_append, List.find?_append, firstIn, firstIn]

/-! ### Where the toolchain is searched -/

/-- The `bin` of the root that is set, or else of the root of the environment. -/
def rootBins (e : Environment) (goRoot : Option Path) : List Path :=
  ((goRoot.or e.goRoot).map fun root => Path.join root "bin".toList).toList

/-- The entries of the path that is set, or else of that of the environment if it is not blank, or else `go` in the home
directory: in the one that the environment names if that is not blank, or else in the one on record. -/
def entries (e : Environment) (goPath : Option Path) : List Path :=
  match goPath.or (e.goPath.filter (· ≠ [])) with
  | some list => Text.cells (· = ':') list
  | none => (((e.home.filter (· ≠ [])).or e.homeOnRecord).map fun home => Path.join home "go".toList).toList

/-- The `bin` of each of these entries. -/
def entryBins (e : Environment) (goPath : Option Path) : List Path :=
  (entries e goPath).map fun entry => Path.join entry "bin".toList

/-- The directories of `PATH`. -/
def listed (e : Environment) : List Path := (e.path.map (Text.cells (· = ':'))).getD []

theorem rootBins_eq (e : Environment) (goRoot : Option Path) :
    rootBins e goRoot = ((goRoot.or e.goRoot).map bin).toList := rfl

theorem home?_eq (e : Environment) : home? e = (e.home.filter (· ≠ [])).or e.homeOnRecord := by
  rw [home?]
  rcases e.home with _ | _ | ⟨c, cs⟩ <;> rfl

theorem pathEntries_eq (e : Environment) (goPath : Option Path) : pathEntries e goPath = entries e goPath := by
  rw [pathEntries.eq_def, entries, ← home?_eq]
  cases goPath with
  | some list => rfl
  | none => rcases e.goPath with _ | _ | ⟨c, cs⟩ <;> rfl

theorem searchDirs_eq (e : Environment) : searchDirs e = listed e := by
  rw [searchDirs, listed]
  cases e.path <;> rfl

theorem detect_go (h : Host) (d : Disk) (goRoot goPath : Option Path) : (detect h d goRoot goPath).go =
    firstIn h d (rootBins h.environment goRoot ++ listed h.environment) "go".toList := by
  rw [firstIn_append, ← searchDirs_eq, rootBins_eq]
  show ((goRoot.or h.environment.goRoot).bind _).or _ = _
  cases goRoot.or h.environment.goRoot with
  | none => rfl
  | some root => rfl

theorem detect_toolDirs (h : Host) (d : Disk) (goRoot goPath : Option Path) : (detect h d goRoot goPath).toolDirs =
    entryBins h.environment goPath ++ rootBins h.environment goRoot ++ listed h.environment := by
  rw [entryBins, ← pathEntries_eq, rootBins_eq, ← searchDirs_eq]
  rfl

/-- Go is the first hit in the root's `bin` and then `PATH`, and a tool is the first hit in the `bin` of each entry of
the Go path, then the root's, and then `PATH`. Where there is no hit there is no such file, and a tool goes by its bare
name. Files that come and go anywhere but where was looked up to the hit change neither. -/
theorem detect_findsFirst (h : Host) (goRoot goPath : Option Path) :
    FindsFirst h (rootBins h.environment goRoot ++ listed h.environment) "go".toList
      (fun d => (detect h d goRoot goPath).go) ∧
    ∀ detected name,
      let t := detect h detected goRoot goPath
      let dirs := entryBins h.environment goPath ++ rootBins h.environment goRoot ++ listed h.environment
      FindsFirst h dirs name (fun d => t.findTool h d name) ∧
      ∀ d, (∀ hit : Hit h d dirs name, t.toolPath h d name = hit.path) ∧
        ((∀ dir ∈ dirs, d.isFile h.cwd (Path.join dir name) = false) → t.toolPath h d name = name) := by
  constructor
  · simp only [detect_go]
    exact findsFirst_firstIn h _ _
  · intro detected name t dirs
    have hfind (d : Disk) : t.findTool h d name = firstIn h d dirs name := by
      rw [findTool, detect_toolDirs]
    refine ⟨?_, fun d => ⟨fun hit => ?_, fun hnone => ?_⟩⟩
    · simp only [hfind]
      exact findsFirst_firstIn h _ _
    · rw [toolPath, hfind, firstIn_eq_some_iff.mpr ⟨hit, rfl⟩, Option.getD_some]
    · rw [toolPath, hfind, firstIn_eq_none_iff.mpr hnone, Option.getD_none]

/-- A process with two directories on its `PATH`, a Go root and a home directory. -/
def listedHost : Host :=
  ⟨{ path := some "/a:/b".toList, home := some "/h".toList, goRoot := some "/r".toList, temp := "/tmp".toList }, [],
    fun _ _ _ => {}⟩

/-- The programs on its disk: Go in the root and in both directories, a linter in the home directory, in a directory
of its own and in the second one, and formatters in the root and in the second directory. -/
def listedPrograms : List Path := [
  "/r/bin/go".toList, "/a/go".toList, "/b/go".toList,
  "/h/go/bin/golint".toList, "/w/bin/golint".toList, "/b/golint".toList,
  "/r/bin/gofmt".toList, "/b/gofmt".toList, "/b/goimports".toList]

/-- Its disk: these programs, and the directories above them. -/
def listedDisk : Disk where
  node? place :=
    if listedPrograms.any (· = Place.path place) then some (.file [] true)
    else if place = [] ∨ listedPrograms.any (Text.startsWith (Place.path place ++ ['/'])) then some .directory
    else none

/-- Go is found in the root, and in the first directory where another root is set that is not there; it still is when
that of the second is gone. The linter is found in the home directory, or in an entry of the path that is set. What no
entry holds is found in the root, what that does not hold in the directories, and what is nowhere goes by its name. -/
theorem detect_findsFirst_listed :
    let t := detect listedHost listedDisk none none
    let elsewhere := detect listedHost listedDisk (some "/q".toList) (some "/v:/w".toList)
    t.go = some "/r/bin/go".toList ∧ elsewhere.go = some "/a/go".toList ∧
    (detect listedHost (listedDisk.set ["b".toList, "go".toList] none) (some "/q".toList) none).go =
      some "/a/go".toList ∧
    t.findTool listedHost listedDisk "golint".toList = some "/h/go/bin/golint".toList ∧
    elsewhere.findTool listedHost listedDisk "golint".toList = some "/w/bin/golint".toList ∧
    t.findTool listedHost listedDisk "gofmt".toList = some "/r/bin/gofmt".toList ∧
    t.findTool listedHost listedDisk "goimports".toList = some "/b/goimports".toList ∧
    t.findTool listedHost listedDisk "revive".toList = none ∧
    t.toolPath listedHost listedDisk "revive".toList = "revive".toList := by
  intro t elsewhere
  obtain ⟨hgo, htools⟩ := detect_findsFirst listedHost none none
  obtain ⟨hgo', htools'⟩ := detect_findsFirst listedHost (some "/q".toList) (some "/v:/w".toList)
  obtain ⟨hlinter, -⟩ := htools listedDisk "golint".toList
  obtain ⟨hlinter', -⟩ := htools' listedDisk "golint".toList
  obtain ⟨hformatter, -⟩ := htools listedDisk "gofmt".toList
  obtain ⟨hsorter, -⟩ := htools listedDisk "goimports".toList
  obtain ⟨hrevive, hname⟩ := htools listedDisk "revive".toList
  have hnone : ∀ dir ∈ ["/h/go/bin".toList, "/r/bin".toList, "/a".toList, "/b".toList],
      listedDisk.isFile [] (Path.join dir "revive".toList) = false := by decide +kernel
  refine ⟨?_, ?_, ?_, ?_, ?_, ?_, ?_, (hrevive.eq_none_iff listedDisk).mpr hnone, (hname listedDisk).2 hnone⟩
  · exact hgo.eq_join [] "/r/bin".toList rfl (by decide +kernel) (by decide +kernel)
  · exact hgo'.eq_join ["/q/bin".toList] "/a".toList rfl (by decide +kernel) (by decide +kernel)
  · -- the Go that is removed stands behind the hit
    obtain ⟨hfirst, -⟩ := detect_findsFirst listedHost (some "/q".toList) none
    let hit : Hit listedHost listedDisk ["/q/bin".toList, "/a".toList, "/b".toList] "go".toList :=
      ⟨["/q/bin".toList], "/a".toList, _, rfl, by decide +kernel, by decide +kernel⟩
    have hspares : Spares listedHost hit.tried "go".toList listedDisk
        (listedDisk.set ["b".toList, "go".toList] none) :=
      spares_set (by decide +kernel) (by decide) (by decide +kernel)
    exact (hfirst.of_spares listedDisk _ hit hspares).trans ((hfirst.eq_some_iff listedDisk _).mpr ⟨hit, rfl⟩)
  · exact hlinter.eq_join [] "/h/go/bin".toList rfl (by decide +kernel) (by decide +kernel)
  · exact hlinter'.eq_join ["/v/bin".toList] "/w/bin".toList rfl (by decide +kernel) (by decide +kernel)
  · exact hformatter.eq_join ["/h/go/bin".toList] "/r/bin".toList rfl (by decide +kernel) (by decide +kernel)
  · exact hsorter.eq_join ["/h/go/bin".toList, "/r/bin".toList, "/a".toList] "/b".toList rfl (by decide +kernel)
      (by decide +kernel)

end Toolchain

end SaveCheck
