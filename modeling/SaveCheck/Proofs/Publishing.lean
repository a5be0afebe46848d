import SaveCheck.Proofs.Freshness
import SaveCheck.Proofs.Marks
import SaveCheck.Proofs.Resolved
import SaveCheck.Proofs.Sessions

/-!
What is published when the check of a saved document succeeds.

    found        b: x    a: y    b: z             claimed before by this document alone: d, c
    published    a [y]   b [x, z]   c []   d []

Each file that was reported on has one message, with all that was found there, and so has each URL that is
stale. The paths that a check reports are resolved, so every file has a URL, and none has two.
-/

namespace SaveCheck.Editor

/-! ### Publications -/

/-- What is to be published once a document was checked: the marks of each file under its URL, by ascending
paths, and then nothing under each URL that was claimed for this document alone and is not any more. -/
structure Publication (p : Published) (document : Text) (ds : List Diagnostic) where
  files : List (Path × Url)
  stale : List Text
  ascending_files : files.Pairwise fun f g => Path.order f.1 g.1 = .lt
  mem_files : ∀ file, file ∈ files.map (·.1) ↔ ∃ d ∈ ds, d.file = file
  url_files : ∀ f ∈ files, Url.ofPath? f.1 = some f.2
  ascending_stale : Published.Ascending stale
  mem_stale : ∀ url, url ∈ stale ↔ url ∈ p.claimsOf document ∧ url ∉ files.map (·.2.write) ∧
    ∀ other, other ≠ document → url ∉ p.claimsOf other

namespace Publication

variable {p : Published} {document : Text} {ds : List Diagnostic} (x : Publication p document ds)

/-- The messages of a publication, in order. -/
def messages : List (Text × List Marker) :=
  x.files.map (fun f => (f.2.write, marksIn ds f.1)) ++ x.stale.map (·, [])

theorem messages_urls : x.messages.map (·.1) = x.files.map (·.2.write) ++ x.stale := by
  simp [messages, Function.comp_def]

/-- No URL has two messages. -/
theorem nodup_urls : (x.messages.map (·.1)).Nodup := by
  have hfiles : (x.files.map (·.2.write)).Nodup := by
    rw [List.Nodup, List.pairwise_map]
    refine x.ascending_files.imp_of_mem fun {f g} hf hg hlt heq => ?_
    have hlevel := Path.order_eq_iff.mpr (Url.components_eq_of_write (x.url_files f hf) (x.url_files g hg) heq)
    rw [hlevel] at hlt
    cases hlt
  have hstale : x.stale.Nodup := by
    refine x.ascending_stale.imp fun {s t} hlt hst => ?_
    have hself : Text.order s s = .eq := Std.ReflCmp.compare_self
    rw [← hst, hself] at hlt
    cases hlt
  rw [messages_urls]
  refine List.nodup_append.mpr ⟨hfiles, hstale, fun url hfile url' hurl' heq => ?_⟩
  exact ((x.mem_stale url').mp hurl').2.1 (heq ▸ hfile)

/-- The file of each diagnostic has a URL and its message, with the diagnostic among the others for it. -/
theorem mem_messages {d : Diagnostic} (hd : d ∈ ds) : ∃ u, Url.ofPath? d.file = some u ∧
    (u.write, marksIn ds d.file) ∈ x.messages ∧ Marker.ofDiagnostic d ∈ marksIn ds d.file := by
  obtain ⟨f, hf, hfile⟩ := List.mem_map.mp ((x.mem_files d.file).mpr ⟨d, hd, rfl⟩)
  refine ⟨f.2, hfile ▸ x.url_files f hf, List.mem_append_left _ ?_, ?_⟩
  · exact List.mem_map.mpr ⟨f, hf, by rw [hfile]⟩
  · exact List.mem_map_of_mem (List.mem_filter.mpr ⟨hd, by simp⟩)

/-- The messages together have the marks of all diagnostics, each as often as it was found. -/
theorem perm_marks : (x.messages.flatMap (·.2)).Perm (ds.map Marker.ofDiagnostic) := by
  have hnodup : (x.files.map (·.1)).Nodup := by
    rw [List.Nodup, List.pairwise_map]
    refine x.ascending_files.imp fun {f g} hlt hfg => ?_
    rw [Path.order_eq_iff.mpr (congrArg Path.components hfg)] at hlt
    cases hlt
  have hsorted := flatMap_filter_perm Diagnostic.file ds hnodup fun d hd =>
    (x.mem_files d.file).mpr ⟨d, hd, rfl⟩
  have hmarks : x.messages.flatMap (·.2) =
      ((x.files.map (·.1)).flatMap fun file => ds.filter (·.file = file)).map Marker.ofDiagnostic := by
    simp [messages, marksIn, List.flatMap_map, List.map_flatMap]
  rw [hmarks]
  exact hsorted.map _

end Publication

/-- A message shows all that was found in a file, in its order, under the URL of the file. -/
def ShowsFile (ds : List Diagnostic) (file : Path × Url) (message : Text × List Marker) : Prop :=
  message.1 = file.2.write ∧ List.Forall₂ Marker.Shows message.2 (ds.filter (·.file = file.1))

namespace Publication

variable {p : Published} {document : Text} {ds : List Diagnostic} (x : Publication p document ds)

/-- The messages show the files in turn, and then come the blank ones. -/
theorem exists_shown : ∃ told, x.messages = told ++ x.stale.map (·, []) ∧
    List.Forall₂ (ShowsFile ds) x.files told := by
  refine ⟨_, rfl, ?_⟩
  rw [List.forall₂_map_right_iff, List.forall₂_same]
  exact fun f _ => ⟨rfl, forall₂_marksIn ds f.1⟩

end Publication

/-! ### What a session publishes -/

namespace Session

variable {s : Session} {ds : List Diagnostic}

theorem marksByUrl_eq {groups : Groups} (hurls : ∀ g ∈ groups, ∃ u, Url.ofPath? g.1 = some u)
    (hmarks : ∀ g ∈ groups, g.2 = marksIn ds g.1) : ∃ files : List (Path × Url),
      files.map (·.1) = groups.map (·.1) ∧ (∀ f ∈ files, Url.ofPath? f.1 = some f.2) ∧
        marksByUrl groups = files.map fun f => (f.2.write, marksIn ds f.1) := by
  induction groups with
  | nil => exact ⟨[], rfl, by simp, rfl⟩
  | cons g groups ih =>
    obtain ⟨⟨u, hu⟩, hurls⟩ := List.forall_mem_cons.mp hurls
    obtain ⟨hg, hmarks⟩ := List.forall_mem_cons.mp hmarks
    obtain ⟨files, hfiles, hof, hall⟩ := ih hurls hmarks
    refine ⟨(g.1, u) :: files, by simp [hfiles], List.forall_mem_cons.mpr ⟨hu, hof⟩, ?_⟩
    have hcons : marksByUrl (g :: groups) = (u.write, g.2) :: marksByUrl groups := by
      simp [marksByUrl, hu]
    rw [hcons, hall, hg]
    rfl

/-- What was found at resolved paths is published in full. -/
theorem exists_publication (hs : s.published.Distinct) (hds : ∀ d ∈ ds, Path.Resolved d.file)
    (document : Text) : ∃ x : Publication s.published document ds,
      publications (s.publish document ds).2 = x.messages := by
  have hspelt : SpeltAlike ds := fun d hd e he hlevel =>
    (hds d hd).eq_of_components (hds e he) (Path.order_eq_iff.mp hlevel)
  have hurls : ∀ g ∈ groupByFile ds, ∃ u, Url.ofPath? g.1 = some u := by
    intro g hg
    obtain ⟨d, hd, hfile⟩ := exists_of_mem_groupByFile ds g hg
    exact Url.exists_ofPath? (hfile ▸ (hds d hd).isAbsolute)
  obtain ⟨files, hfiles, hof, hmarks⟩ := marksByUrl_eq hurls (groupByFile_marks hspelt)
  have hcurrent : (marksByUrl (groupByFile ds)).map (·.1) = files.map (·.2.write) := by
    rw [hmarks, List.map_map]
    rfl
  have hascending : (files.map (·.1)).Pairwise fun a b => Path.order a b = .lt := by
    rw [hfiles, List.pairwise_map]
    exact ascending_groupByFile ds
  let x : Publication s.published document ds :=
    { files
      stale := (s.published.record document (files.map (·.2.write))).2
      ascending_files := List.pairwise_map.mp hascending
      mem_files := fun file => by rw [hfiles]; exact mem_files_groupByFile hspelt file
      url_files := hof
      ascending_stale := Published.ascending_sorted _
      mem_stale := Published.mem_record_iff hs document _ }
  refine ⟨x, ?_⟩
  rw [publish, Published.publish, hcurrent]
  dsimp only
  have hstale : ∀ stale : List Text, publications (stale.map (.published · [])) = stale.map (·, []) := by
    intro stale
    rw [publications, List.filterMap_map]
    exact congrFun List.filterMap_eq_map stale
  rw [publications_append, publications_marks, hmarks, hstale, Publication.messages]

/-! ### The state between saves -/

variable {c : Config} {h : Host} {d : Disk} {m : Message}

theorem start_published : (s.start d m).session.published = s.published := by
  rw [start]
  split
  · rfl
  · split
    · rfl
    · split
      · rfl
      · next options _ => rcases options with _ | v <;> first | rfl | cases v <;> rfl

/-- A session that is not ready, or that is closed by a message, keeps what is published. -/
theorem handle_published_of_idle (hidle : s.phase ≠ .ready ∨ m.closes = true) :
    (s.handle c h d m).session.published = s.published := by
  rw [Message.closes] at hidle
  rw [handle]
  split
  · rfl
  · cases hmethod : Method.ofName? m.method with
    | none => rfl
    | some method =>
      cases method with
      | leave | cancel => rfl
      | start => exact start_published
      | shutdown => cases s.phase <;> rfl
      | _ =>
        have hphase : s.phase ≠ .ready := by simpa [hmethod] using hidle
        cases hp : s.phase with
        | ready => exact absurd hp hphase
        | _ => rfl

/-- What is published changes with a check only. -/
theorem handle_published (hchecks : s.checks? m = none) :
    (s.handle c h d m).session.published = s.published := by
  by_cases hidle : s.phase ≠ .ready ∨ m.closes = true
  · exact handle_published_of_idle hidle
  · obtain ⟨hready, hopen⟩ := not_or.mp hidle
    rw [not_not] at hready
    cases hsaved : m.saved? with
    | none =>
      rw [handle_of_not_saved hready (by simpa using hopen) hsaved]
      cases m.configuration? <;> rfl
    | some saved =>
      have hfile : goFile? saved = none := by
        simpa [checks?, hready, hsaved] using hchecks
      rw [handle_of_saved hready hsaved, save, hfile]

theorem Handles.distinct {t : Turn} (ht : s.Handles c h d m t) (hs : s.published.Distinct) :
    t.session.published.Distinct := by
  cases ht with
  | @cycle saved _ cycle _ _ =>
    rw [conclude_published]
    cases cycle.found? with
    | none => exact hs
    | some ds => exact Published.distinct_claim saved.write _ hs
  | plain hchecks =>
    rw [handle_published hchecks]
    exact hs

end Session

/-- However a session has come to be, each document stands in its claims once. -/
theorem Run.distinct {c : Config} {s s' : Session} {arrivals : List Arrival} {turns : List Turn}
    (hrun : Run c s arrivals turns s') (hs : s.published.Distinct) : s'.published.Distinct := by
  induction hrun with
  | nil => exact hs
  | cons ht _ ih => exact ih (ht.distinct hs)

/-- In every session, where the check of a saved document succeeds, what is published is a message for each file
it reported on, by ascending paths, which shows all that was found there in its order, and then an empty message
for each URL that is stale, in ascending order. No URL has two messages, and no diagnostic is lost or told twice:
its path is resolved, so that it has a URL, and it stands in the message for that. -/
theorem Run.publications_of_found {c : Config} {before : List Arrival} {turns : List Turn} {s : Session}
    (hrun : Run c {} before turns s) {a : Arrival} {saved : Url} {file : Path}
    (hchecks : s.checks? a.message = some (saved, file)) {cycle : Cycle}
    (hcycle : Cycle.Of a.host (Session.diskFor a.disk saved) file
      (s.settingsFor c a.host (Session.diskFor a.disk saved) file) cycle)
    {ds : List Diagnostic} (hfound : cycle.found? = some ds) :
    s.Handles c a.host a.disk a.message (s.conclude a.disk saved cycle) ∧
      ∃ x : Publication s.published saved.write ds,
        publications (s.conclude a.disk saved cycle).sent = x.messages ∧
        (∃ told, x.messages = told ++ x.stale.map (·, []) ∧ List.Forall₂ (ShowsFile ds) x.files told) ∧
        (x.messages.map (·.1)).Nodup ∧
        (x.messages.flatMap (·.2)).Perm (ds.map Marker.ofDiagnostic) ∧
        ∀ d ∈ ds, Path.Resolved d.file ∧ ∃ u, Url.ofPath? d.file = some u ∧
          (u.write, marksIn ds d.file) ∈ x.messages ∧ Marker.ofDiagnostic d ∈ marksIn ds d.file := by
  refine ⟨.cycle hchecks hcycle, ?_⟩
  obtain ⟨settings, scene, rfl⟩ := Cycle.found?_eq_some_iff.mp hfound
  obtain ⟨-, hinterleaved⟩ := Cycle.Of.checked_iff.mp hcycle
  have hds := hinterleaved.resolved rfl
  obtain ⟨x, hx⟩ := Session.exists_publication (hrun.distinct List.nodup_nil) hds saved.write
  refine ⟨x, ?_, x.exists_shown, x.nodup_urls, x.perm_marks, fun d hd => ⟨hds d hd, x.mem_messages hd⟩⟩
  rw [Session.conclude, publications_append, Session.publications_account, List.nil_append, hx]

/-! ### A session with a stale file -/

/-- Options that ask for builds only. -/
def buildOptions : Value := .record [("lintOnSave".toList, .flag false), ("vetOnSave".toList, .flag false)]

/-- A session that wants builds only, in which `a.go` is saved and its build reports on `b.go`. -/
def savedOnce : List Arrival :=
  [⟨Session.sayingHost [], Session.pairDisk, startMessage buildOptions⟩,
    ⟨Session.sayingHost "b.go:1: x\n".toList, Session.pairDisk, saveMessage "file:///p/a.go".toList⟩]

/-- What it is then. -/
def afterSavedOnce : Session where
  phase := .ready
  settings := some { lintOnSave := false, vetOnSave := false }
  published := ⟨[(Session.firstUrl, [Session.secondUrl])]⟩

theorem parse?_first : Url.parse? "file:///p/a.go".toList = some (Session.plainUrl "/p/a.go".toList) := by
  decide +kernel

theorem run_savedOnce : ∃ turns, Run Session.bareConfig {} savedOnce turns afterSavedOnce := by
  let s : Session := { phase := .ready, settings := some { lintOnSave := false, vetOnSave := false } }
  let host := Session.sayingHost "b.go:1: x\n".toList
  let saved := Session.plainUrl "/p/a.go".toList
  have hstart : (({} : Session).handle Session.bareConfig (Session.sayingHost []) Session.pairDisk
      (startMessage buildOptions)).session = s := by
    rw [Session.handle_start rfl (startMessage_start? (some buildOptions))]
    decide +kernel
  have hchecks : s.checks? (saveMessage "file:///p/a.go".toList) = some (saved, "/p/a.go".toList) :=
    Session.checks?_saveMessage rfl parse?_first (by decide +kernel)
  have hsession : (s.conclude Session.pairDisk saved
      (.inTurn host (Session.diskFor Session.pairDisk saved) "/p/a.go".toList
        (s.settingsFor Session.bareConfig host (Session.diskFor Session.pairDisk saved)
          "/p/a.go".toList))).session = afterSavedOnce := by
    decide +kernel
  have hlast : Run Session.bareConfig s savedOnce.tail [_] afterSavedOnce :=
    .cons (.cycle hchecks (Cycle.of_inTurn ..)) (by rw [hsession]; exact .nil _)
  exact ⟨_, .cons (Session.handles_handle ..) (by rw [hstart]; exact hlast)⟩

/-- When `a.go` is saved again and its build reports on `a.go` itself, `b.go` is stale. -/
theorem Run.publications_of_found_again :
    let host := Session.sayingHost "a.go:2: y\n".toList
    let saved := Session.plainUrl "/p/a.go".toList
    let ds : List Diagnostic := [⟨"/p/a.go".toList, 2, none, "y".toList, .error⟩]
    (∃ turns, Run Session.bareConfig {} savedOnce turns afterSavedOnce) ∧
      afterSavedOnce.checks? (saveMessage "file:///p/a.go".toList) = some (saved, "/p/a.go".toList) ∧
      ∃ cycle : Cycle, cycle.found? = some ds ∧
        afterSavedOnce.Handles Session.bareConfig host Session.pairDisk (saveMessage "file:///p/a.go".toList)
          (afterSavedOnce.conclude Session.pairDisk saved cycle) ∧
        publications (afterSavedOnce.conclude Session.pairDisk saved cycle).sent =
          [("file:///p/a.go".toList, [⟨⟨1, 0⟩, ⟨1, 4294967295⟩, 1, "go-check".toList, "y".toList⟩]),
            ("file:///p/b.go".toList, [])] ∧
        ∃ x : Publication afterSavedOnce.published saved.write ds,
          publications (afterSavedOnce.conclude Session.pairDisk saved cycle).sent = x.messages ∧
          ∃ told, x.messages = told ++ x.stale.map (·, []) ∧ List.Forall₂ (ShowsFile ds) x.files told := by
  intro host saved ds
  obtain ⟨turns, hrun⟩ := run_savedOnce
  let a : Arrival := ⟨host, Session.pairDisk, saveMessage "file:///p/a.go".toList⟩
  have hchecks : afterSavedOnce.checks? a.message = some (saved, "/p/a.go".toList) :=
    Session.checks?_saveMessage rfl parse?_first (by decide +kernel)
  have hfound : (Cycle.inTurn host (Session.diskFor Session.pairDisk saved) "/p/a.go".toList
      (afterSavedOnce.settingsFor Session.bareConfig host (Session.diskFor Session.pairDisk saved)
        "/p/a.go".toList)).found? = some ds := by
    decide +kernel
  obtain ⟨hhandles, x, hx, htold, -⟩ := Run.publications_of_found hrun hchecks (Cycle.of_inTurn ..) hfound
  refine ⟨⟨turns, hrun⟩, hchecks, _, hfound, hhandles, ?_, x, hx, htold⟩
  decide +kernel

end SaveCheck.Editor
