import SaveCheck.Proofs.FileUrl
import SaveCheck.Proofs.Saves

/-!
Whose marks a file shows when the checks of several documents report on it.

    save a.go   finds x in b.go      b.go shows x
    save b.go   finds y in b.go      b.go shows y
    save b.go   finds nothing        b.go shows y still, as a.go claims it

A file shows the marks of the latest check that reported on it. Of each check only the files are kept, not the
marks. So what one document published last stays until no document claims the file, also when the document takes
it back while another one goes on claiming the file.
-/

namespace SaveCheck.Editor

/-- Once the one list of its own is through, a file shows this list. -/
theorem foldl_over_marks_of_mem {url : Text} {found : List Marker} : ∀ {marks : List (Text × List Marker)}
    (before : List Marker), (marks.map (·.1)).Nodup → (url, found) ∈ marks →
      (marks.map fun (u, found) => Sent.published u found).foldl (Sent.over url) before = found
  | (u, ms) :: marks, before, hnodup, h => by
    rw [List.map_cons, List.nodup_cons] at hnodup
    rw [List.map_cons, List.foldl_cons]
    rcases List.mem_cons.mp h with heq | h
    · obtain ⟨rfl, rfl⟩ := Prod.mk.inj heq
      rw [foldl_over_marks url marks _ hnodup.1]
      exact if_pos rfl
    · exact foldl_over_marks_of_mem _ hnodup.2 h

namespace Save

/-! ### The latest report on a file -/

/-- The latest save of a document. -/
def last? (saves : List Save) (doc : Text) : Option Save := saves.reverse.find? (·.document = doc)

/-- The latest save that reported on a file. -/
def lastReport? (saves : List Save) (url : Text) : Option Save := saves.reverse.find? (·.current.contains url)

theorem last?_snoc (saves : List Save) (v : Save) (doc : Text) :
    last? (saves ++ [v]) doc = if doc = v.document then some v else last? saves doc := by
  rw [last?, List.reverse_append, List.reverse_singleton, List.singleton_append, List.find?_cons]
  by_cases h : v.document = doc
  · simp [h]
  · simp [h, Ne.symm h, last?]

theorem lastReport?_snoc (saves : List Save) (v : Save) (url : Text) :
    lastReport? (saves ++ [v]) url = if url ∈ v.current then some v else lastReport? saves url := by
  rw [lastReport?, List.reverse_append, List.reverse_singleton, List.singleton_append, List.find?_cons]
  by_cases h : url ∈ v.current <;> simp [h, lastReport?]

/-- The latest report on a file is the latest save of its document, if that reports on the file at all. -/
theorem last?_of_lastReport? {saves : List Save} {url : Text} {v : Save} (hv : lastReport? saves url = some v)
    (hmem : url ∈ latest saves v.document) : last? saves v.document = some v := by
  induction saves using List.reverseRecOn with
  | nil => cases hv
  | append_singleton saves w ih =>
    rw [lastReport?_snoc] at hv
    rw [latest_snoc] at hmem
    rw [last?_snoc]
    split at hv
    · rw [if_pos (by rw [Option.some.inj hv]), hv]
    · next hsilent =>
      split at hmem
      · exact absurd hmem hsilent
      · next hother =>
        rw [if_neg hother]
        exact ih hv hmem

/-- A file that some document claims shows the marks that the latest report on it found. -/
theorem shown_run_mem {saves : List Save} (hnodup : ∀ v ∈ saves, v.current.Nodup) {url : Text}
    (hclaimed : ∃ doc, url ∈ latest saves doc) :
    ∃ v, lastReport? saves url = some v ∧ (url, shown (run saves).2 url) ∈ v.marks := by
  induction saves using List.reverseRecOn with
  | nil => simp [latest] at hclaimed
  | append_singleton saves v ih =>
    -- the file is claimed, so the last save did not clear it
    have hshown := ((faithful_run (saves ++ [v])).shows url).mpr hclaimed
    rw [run_snoc] at hshown ⊢
    obtain ⟨hkept, hreported⟩ := (shown_publish_ne_nil (run saves) v url).mp hshown
    have hover : shown (publish (run saves) v).2 url =
        (v.marks.map fun (u, found) => Sent.published u found).foldl (Sent.over url)
          (shown (run saves).2 url) := by
      show shown ((run saves).2 ++ (v.marks.map (fun (u, found) => Sent.published u found)
        ++ ((run saves).1.record v.document v.current).2.map (Sent.published · []))) url = _
      rw [shown, List.foldl_append, List.foldl_append, foldl_over_clears, ← shown, if_neg hkept]
    rw [lastReport?_snoc, hover]
    by_cases hcur : url ∈ v.current
    · obtain ⟨⟨u, found⟩, hmark, rfl⟩ := List.mem_map.mp hcur
      rw [if_pos hcur, foldl_over_marks_of_mem _ (hnodup v (by simp)) hmark]
      exact ⟨v, rfl, hmark⟩
    · rw [if_neg hcur, foldl_over_marks url _ _ hcur]
      exact ih (fun w hw => hnodup w (by simp [hw]))
        (((faithful_run saves).shows url).mp (hreported.resolve_left hcur))

end Save

/-! ### The saves of a session -/

/-- What a session meets with when a document is saved: the machine and its disk, the settings that the editor
has sent by then, and the document. -/
structure Occasion where
  host : Host
  disk : Disk
  settings : Option Settings := none
  saved : Url

/-- The save of an occasion, if its check succeeds. -/
def Occasion.save? (c : Config) (o : Occasion) : Option Save :=
  (Session.findings? { settings := o.settings } c o.host o.disk o.saved).map (Save.ofCheck o.saved.write)

/-- The saves of some occasions, as far as their checks succeed. -/
def Occasion.saves (c : Config) (occasions : List Occasion) : List Save := occasions.filterMap (save? c)

theorem Occasion.saves_snoc (c : Config) (occasions : List Occasion) (o : Occasion) :
    saves c (occasions ++ [o]) = saves c occasions ++ (o.save? c).toList := by
  rw [saves, List.filterMap_append, ← saves]
  cases hsave : o.save? c <;> simp [hsave]

theorem Occasion.nodup_save? {o : Occasion} {c : Config} {v : Save} (hv : o.save? c = some v) :
    v.current.Nodup := by
  obtain ⟨ds, -, rfl⟩ := Option.map_eq_some_iff.mp hv
  exact Session.nodup_marksByUrl ds

namespace Session

/-- The save of an occasion, after all that was sent before it. -/
def saveAt (c : Config) (x : Session × List Sent) (o : Occasion) : Session × List Sent :=
  let turn := { x.1 with settings := o.settings }.save c o.host o.disk o.saved
  (turn.session, x.2 ++ turn.sent)

/-- A fresh session after some occasions, and all that it sent. -/
def runAt (c : Config) (occasions : List Occasion) : Session × List Sent :=
  occasions.foldl (saveAt c) ({}, [])

/-- A session publishes a run of those saves whose checks succeed. -/
structure Follows (x : Session × List Sent) (y : Published × List Sent) : Prop where
  published : x.1.published = y.1
  shows : ∀ url, shown x.2 url = shown y.2 url

theorem Follows.saveAt {x : Session × List Sent} {y : Published × List Sent} (hxy : Follows x y) (c : Config)
    (o : Occasion) : Follows (saveAt c x o) ((o.save? c).elim y (Save.publish y)) := by
  obtain ⟨claims, earlier⟩ := y
  obtain ⟨rfl, hshows⟩ : x.1.published = claims ∧ _ := ⟨hxy.published, hxy.shows⟩
  have hsame : ({ x.1 with settings := o.settings } : Session).findings? c o.host o.disk o.saved =
      findings? { settings := o.settings } c o.host o.disk o.saved := rfl
  rw [Occasion.save?, Session.saveAt]
  cases hfindings : findings? { settings := o.settings } c o.host o.disk o.saved with
  | none =>
    obtain ⟨hsession, hsent⟩ := save_of_no_findings (hsame.trans hfindings)
    refine ⟨?_, fun url => ?_⟩
    · dsimp only
      rw [hsession]
      rfl
    · show shown (x.2 ++ _) url = shown earlier url
      rw [shown, List.foldl_append, foldl_over_of_publications url hsent]
      exact hshows url
  | some ds =>
    obtain ⟨hsession, before, hbefore, hsent⟩ := save_of_findings (hsame.trans hfindings)
    have hpublish := ({ x.1 with settings := o.settings } : Session).publish_eq_save o.saved.write ds earlier
    dsimp only at hpublish ⊢
    rw [Option.map_some, Option.elim_some, ← hpublish, hsession, hsent]
    refine ⟨rfl, fun url => ?_⟩
    have hearlier : List.foldl (Sent.over url) [] x.2 = List.foldl (Sent.over url) [] earlier := hshows url
    dsimp only
    simp only [shown, List.foldl_append, foldl_over_of_publications url hbefore, hearlier]

theorem follows_runAt (c : Config) (occasions : List Occasion) :
    Follows (runAt c occasions) (Save.run (Occasion.saves c occasions)) := by
  induction occasions using List.reverseRecOn with
  | nil => exact ⟨rfl, fun _ => rfl⟩
  | append_singleton occasions o ih =>
    have hnext := ih.saveAt c o
    rw [runAt, List.foldl_append, ← runAt, Occasion.saves_snoc]
    cases hsave : o.save? c with
    | none => simpa [hsave] using hnext
    | some v => simpa [hsave, Save.run_snoc] using hnext

/-- After any saves, a file that the latest check of some document reported on shows the marks that the latest
check to report on it found there. That is the latest check of its document, unless the document was saved again
since and the file was not reported on. -/
theorem shown_latest_report (c : Config) (occasions : List Occasion) {url : Text}
    (hclaimed : ∃ doc, url ∈ Save.latest (Occasion.saves c occasions) doc) :
    ∃ v, Save.lastReport? (Occasion.saves c occasions) url = some v ∧
      (url, shown (runAt c occasions).2 url) ∈ v.marks ∧
      (url ∈ Save.latest (Occasion.saves c occasions) v.document →
        Save.last? (Occasion.saves c occasions) v.document = some v) := by
  have hnodup : ∀ v ∈ Occasion.saves c occasions, v.current.Nodup := by
    intro v hv
    obtain ⟨o, -, ho⟩ := List.mem_filterMap.mp hv
    exact Occasion.nodup_save? ho
  obtain ⟨v, hv, hmem⟩ := Save.shown_run_mem hnodup hclaimed
  rw [(follows_runAt c occasions).shows]
  exact ⟨v, hv, hmem, Save.last?_of_lastReport? hv⟩

/-! ### A file that two documents report on -/

/-- A machine with Go, on which every build says the same. -/
def sayingHost (said : Text) : Host where
  environment := { path := some "/b".toList, temp := "/t".toList }
  cwd := []
  programs _ _ _ := { err := Utf8.encode said }

/-- Its disk, with two sources next to each other. -/
def pairDisk : Disk where
  node? place :=
    if place = [] ∨ place = ["b".toList] ∨ place = ["p".toList] then some .directory
    else if place = ["b".toList, "go".toList] then some (.file [] true)
    else if place = ["p".toList, "a.go".toList] ∨ place = ["p".toList, "b.go".toList] then some (.file [] false)
    else none

/-- The URL of a file that is given from the root. -/
def plainUrl (path : Text) : Url := ⟨Url.fileScheme, some ⟨.nowhere, []⟩, path, []⟩

/-- A source is saved while every build says the same. -/
def builtSaying (path said : Text) : Occasion where
  host := sayingHost said
  disk := pairDisk
  settings := some { lintOnSave := false, vetOnSave := false }
  saved := plainUrl path

/-- The build for `a.go` reports on `b.go`, then that for `b.go` does, and then it is content. -/
def takenBack : List Occasion :=
  [builtSaying "/p/a.go".toList "b.go:1: x\n".toList, builtSaying "/p/b.go".toList "b.go:2: y\n".toList,
    builtSaying "/p/b.go".toList []]

/-- No project file, no option. -/
def bareConfig : Config := ⟨none, none, {}, []⟩

/-- The URLs of the two sources. -/
def firstUrl : Text := (plainUrl "/p/a.go".toList).write

def secondUrl : Text := (plainUrl "/p/b.go".toList).write

/-- An issue in the second source. -/
def reported (line : Nat) (message : Text) : Diagnostic := ⟨"/p/b.go".toList, line, none, message, .error⟩

/-- The saves of the three occasions. -/
def takenBackSaves : List Save :=
  [.ofCheck firstUrl [reported 1 "x".toList], .ofCheck secondUrl [reported 2 "y".toList], .ofCheck secondUrl []]

theorem save?_builtSaying {path said : Text} {ds : List Diagnostic}
    (hds : findings? { settings := (builtSaying path said).settings } bareConfig (sayingHost said) pairDisk
      (plainUrl path) = some ds) :
    (builtSaying path said).save? bareConfig = some (.ofCheck (plainUrl path).write ds) :=
  congrArg (Option.map (Save.ofCheck (plainUrl path).write)) hds

theorem saves_takenBack : Occasion.saves bareConfig takenBack = takenBackSaves := by
  have hx : (builtSaying "/p/a.go".toList "b.go:1: x\n".toList).save? bareConfig =
      some (.ofCheck firstUrl [reported 1 "x".toList]) :=
    save?_builtSaying (by decide +kernel)
  have hy : (builtSaying "/p/b.go".toList "b.go:2: y\n".toList).save? bareConfig =
      some (.ofCheck secondUrl [reported 2 "y".toList]) :=
    save?_builtSaying (by decide +kernel)
  have hnone : (builtSaying "/p/b.go".toList []).save? bareConfig = some (.ofCheck secondUrl []) :=
    save?_builtSaying (by decide +kernel)
  rw [Occasion.saves, takenBack, List.filterMap_cons_some hx, List.filterMap_cons_some hy,
    List.filterMap_cons_some hnone, List.filterMap_nil, takenBackSaves]

/-- All three checks succeed, and what `b.go` shows in the end is what its own check found before, though only
`a.go` claims it still. -/
theorem shown_takenBack :
    (∀ o ∈ takenBack, (o.save? bareConfig).isSome) ∧
      (∃ doc, secondUrl ∈ Save.latest (Occasion.saves bareConfig takenBack) doc) ∧
      ¬ ∃ doc v, Save.last? (Occasion.saves bareConfig takenBack) doc = some v ∧
        (secondUrl, shown (runAt bareConfig takenBack).2 secondUrl) ∈ v.marks := by
  have hshown : shown (runAt bareConfig takenBack).2 secondUrl = [.ofDiagnostic (reported 2 "y".toList)] := by
    rw [(follows_runAt bareConfig takenBack).shows, saves_takenBack]
    decide +kernel
  rw [hshown, saves_takenBack]
  refine ⟨by decide +kernel, ⟨firstUrl, by decide +kernel⟩, ?_⟩
  rintro ⟨doc, v, hv, hmem⟩
  have hdoc : v.document = doc := by simpa using List.find?_some hv
  have hlast : (Save.last? takenBackSaves secondUrl).map (·.marks) = some [] := by decide +kernel
  have hv' : v ∈ takenBackSaves := List.mem_reverse.mp (List.mem_of_find?_eq_some hv)
  simp only [takenBackSaves, List.mem_cons, List.not_mem_nil, or_false] at hv'
  rcases hv' with rfl | rfl | rfl
  · revert hmem
    decide +kernel
  · -- its document was saved again, and that save found nothing
    subst hdoc
    rw [show Save.last? takenBackSaves secondUrl = some _ from hv] at hlast
    revert hlast
    decide +kernel
  · revert hmem
    decide +kernel

/-- `a.go` claims `b.go` in the end, which shows what the latest report on it found. -/
theorem shown_latest_report_takenBack :
    (∃ doc, secondUrl ∈ Save.latest (Occasion.saves bareConfig takenBack) doc) ∧
      shown (runAt bareConfig takenBack).2 secondUrl = [.ofDiagnostic (reported 2 "y".toList)] := by
  have hclaimed : ∃ doc, secondUrl ∈ Save.latest (Occasion.saves bareConfig takenBack) doc := by
    rw [saves_takenBack]
    exact ⟨firstUrl, by decide +kernel⟩
  obtain ⟨v, hv, hmem, -⟩ := shown_latest_report bareConfig takenBack hclaimed
  have hmarks : (Save.lastReport? takenBackSaves secondUrl).map (·.marks) =
      some [(secondUrl, [.ofDiagnostic (reported 2 "y".toList)])] := by decide +kernel
  rw [← saves_takenBack, hv] at hmarks
  have hmarks' : v.marks = _ := Option.some.inj hmarks
  rw [hmarks'] at hmem
  exact ⟨hclaimed, (Prod.mk.inj (List.mem_singleton.mp hmem)).2⟩

end Session

end SaveCheck.Editor
