import SaveCheck.Proofs.Published

/-!
What a save sends.

    check fails      notices, journal, the failure
    check succeeds   notices, journal, the marks of each file, the files to clear

So a save publishes what its check found and nothing else, and one that finds nothing out leaves all that is
published as it is.
-/

namespace SaveCheck.Editor

/-- The marks that something sent publishes, with their URL. -/
def Sent.publication? : Sent → Option (Text × List Marker)
  | .published url marks => some (url, marks)
  | _ => none

/-- The marks that are published, in order. -/
def publications (sent : List Sent) : List (Text × List Marker) := sent.filterMap Sent.publication?

theorem publications_append (a b : List Sent) : publications (a ++ b) = publications a ++ publications b :=
  List.filterMap_append

theorem publications_marks (marks : List (Text × List Marker)) :
    publications (marks.map fun (url, found) => .published url found) = marks := by
  rw [publications, List.filterMap_map]
  exact List.filterMap_some

/-- Where nothing is published a file goes on showing what it shows. -/
theorem foldl_over_of_publications (url : Text) {sent : List Sent} (h : publications sent = [])
    (before : List Marker) : sent.foldl (Sent.over url) before = before := by
  induction sent with
  | nil => rfl
  | cons x sent ih =>
    rw [publications, List.filterMap_cons] at h
    cases x with
    | published u marks => cases h
    | _ => exact ih h

namespace Session

/-- What is passed over in notices and in entries of the log is not in the account of a check. -/
theorem filterMap_account {β : Type} {f : Sent → Option β} (hnotice : ∀ n, f (.ofNotice n) = none)
    (hlogged : ∀ text, f (.logged text) = none) (scene : Scene) : (account scene).filterMap f = [] := by
  have hlines : (Sent.ofLines scene.journal.lines).filterMap f = [] := by
    rw [Sent.ofLines]
    split
    · rfl
    · rw [List.filterMap_cons_none (hlogged _), List.filterMap_nil]
  rw [account, List.filterMap_append, List.filterMap_map, hlines, List.append_nil]
  exact List.filterMap_eq_nil_iff.mpr fun n _ => hnotice n

/-- The account of a check publishes nothing. -/
theorem publications_account (scene : Scene) : publications (account scene) = [] :=
  filterMap_account (fun n => by cases n <;> rfl) (fun _ => rfl) scene

/-- As long as nothing is published there is nothing to clear. -/
theorem sent_publish {s : Session} (hs : s.published = {}) (saved : Text) (ds : List Diagnostic) :
    (s.publish saved ds).2 =
      (marksByUrl (groupByFile ds)).map fun (url, found) => .published url found := by
  simp [publish, hs, Published.publish, Published.record, Published.claimsOf, Published.sorted]

variable (s : Session) (c : Config) (h : Host) (d : Disk)

/-! ### The check of a file -/

/-- What the check of a file comes to, under the settings for it. -/
def checked (file : Path) : Except Text (List Diagnostic) :=
  match s.settingsFor c h d file with
  | .error e => .error e.message
  | .ok settings =>
    (Checker.checkOnce h settings file d).1.mapError fun e => "go-check failed: ".toList ++ e.message

variable {s c h d} {u : Url} {file : Path}

/-- Where the check succeeds, the session publishes what it found, after an account that publishes nothing. -/
theorem checkFile_of_ok {ds : List Diagnostic} (hds : s.checked c h d file = .ok ds) :
    (s.checkFile c h d u file).session = (s.publish u.write ds).1 ∧
      ∃ before, publications before = [] ∧
        (s.checkFile c h d u file).sent = before ++ (s.publish u.write ds).2 := by
  rw [checked] at hds
  rw [checkFile]
  cases hsettings : s.settingsFor c h d file with
  | error e =>
    rw [hsettings] at hds
    cases hds
  | ok settings =>
    simp only [hsettings] at hds
    dsimp only
    rw [checkSaved]
    split
    next result scene hcheck =>
    rw [hcheck] at hds
    cases result with
    | error e => cases hds
    | ok found =>
      obtain rfl := Except.ok.inj hds
      exact ⟨rfl, account scene, publications_account scene, rfl⟩

/-- Where the check fails, the session tells so, publishes nothing, and stays as it is. -/
theorem checkFile_of_error {message : Text} (he : s.checked c h d file = .error message) :
    (s.checkFile c h d u file).session = s ∧ publications (s.checkFile c h d u file).sent = [] ∧
      .told .error message ∈ (s.checkFile c h d u file).sent := by
  rw [checked] at he
  rw [checkFile]
  cases hsettings : s.settingsFor c h d file with
  | error e =>
    simp only [hsettings] at he
    obtain rfl := Except.error.inj he
    exact ⟨rfl, rfl, List.mem_singleton_self _⟩
  | ok settings =>
    simp only [hsettings] at he
    dsimp only
    rw [checkSaved]
    split
    next result scene hcheck =>
    rw [hcheck] at he
    cases result with
    | ok found => cases he
    | error e =>
      obtain rfl := Except.error.inj he
      refine ⟨rfl, ?_, List.mem_append_right _ (List.mem_singleton_self _)⟩
      dsimp only
      rw [publications_append, publications_account, List.nil_append]
      rfl

/-! ### A save -/

variable (s c h d) in
/-- What the save of a document finds out: the diagnostics, if a file is checked and the check succeeds. A name
that is no text is none on the disk. -/
def findings? (saved : Url) : Option (List Diagnostic) :=
  (goFile? saved).bind fun file =>
    match seemingPlace? d saved with
    | none => (s.checked c h d file).toOption
    | some place => (s.checked c h (d.without place) file).toOption

theorem save_of_findings {ds : List Diagnostic} (hds : s.findings? c h d u = some ds) :
    (s.save c h d u).session = (s.publish u.write ds).1 ∧
      ∃ before, publications before = [] ∧ (s.save c h d u).sent = before ++ (s.publish u.write ds).2 := by
  have hok : ∀ {d'} {file}, (s.checked c h d' file).toOption = some ds → s.checked c h d' file = .ok ds := by
    intro d' file
    cases s.checked c h d' file <;> simp [Except.toOption]
  obtain ⟨file, hfile, hds⟩ := Option.bind_eq_some_iff.mp hds
  rw [save, hfile]
  cases hplace : seemingPlace? d u with
  | none =>
    simp only [hplace] at hds ⊢
    exact checkFile_of_ok (hok hds)
  | some place =>
    simp only [hplace] at hds ⊢
    exact checkFile_of_ok (hok hds)

theorem save_of_no_findings (hnone : s.findings? c h d u = none) :
    (s.save c h d u).session = s ∧ publications (s.save c h d u).sent = [] := by
  have hfails : ∀ {d'} {file}, (s.checked c h d' file).toOption = none →
      (s.checkFile c h d' u file).session = s ∧ publications (s.checkFile c h d' u file).sent = [] := by
    intro d' file hnone
    cases hchecked : s.checked c h d' file with
    | ok ds => simp [hchecked, Except.toOption] at hnone
    | error message =>
      obtain ⟨hsession, hsent, -⟩ := checkFile_of_error (u := u) hchecked
      exact ⟨hsession, hsent⟩
  rw [save]
  rw [findings?] at hnone
  cases hfile : goFile? u with
  | none => exact ⟨rfl, rfl⟩
  | some file =>
    rw [hfile, Option.bind_some] at hnone
    cases hplace : seemingPlace? d u with
    | none =>
      simp only [hplace] at hnone ⊢
      exact hfails hnone
    | some place =>
      simp only [hplace] at hnone ⊢
      exact hfails hnone

end Session

end SaveCheck.Editor
