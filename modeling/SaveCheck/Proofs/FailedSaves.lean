import SaveCheck.Proofs.Publishing

/-!
A save that fails leaves no trace in what is published.

    save a.go   a.go [x]                      save a.go   a.go [x]
    save b.go   error: go-check failed: …
    save a.go   a.go []                       save a.go   a.go []

The user is told once why it failed, and the session is as it was. So whatever comes after goes on as if the
save had not been.
-/

namespace SaveCheck

/-- What a cycle that fails tells the user: why there are no settings, or why the checks failed. -/
def Cycle.failure? : Cycle → Option Text
  | .unsettled e => some e.message
  | .checked _ (.error e, _) => some ("go-check failed: ".toList ++ e.message)
  | .checked _ (.ok _, _) => none

/-- A cycle that finds nothing out fails. -/
theorem Cycle.exists_failure {cycle : Cycle} (hnone : cycle.found? = none) :
    ∃ message, cycle.failure? = some message := by
  rcases cycle with e | ⟨settings, e | ds, scene⟩
  · exact ⟨_, rfl⟩
  · exact ⟨_, rfl⟩
  · cases hnone

namespace Editor

/-- The text of an error that the user is told. -/
def Sent.error? : Sent → Option Text
  | .told .error text => some text
  | _ => none

/-- The errors that the user is told, in order. -/
def errors (sent : List Sent) : List Text := sent.filterMap Sent.error?

theorem errors_append (a b : List Sent) : errors (a ++ b) = errors a ++ errors b := List.filterMap_append

namespace Session

/-- The account of a check tells of no error. -/
theorem errors_account (scene : Scene) : errors (account scene) = [] :=
  filterMap_account (fun n => by cases n <;> rfl) (fun _ => rfl) scene

variable {s : Session} {cycle : Cycle} {message : Text}

/-- A cycle that fails publishes nothing, tells one error, and leaves the session as it is. -/
theorem conclude_of_failure (hfailure : cycle.failure? = some message) (d : Disk) (saved : Url) :
    publications (s.conclude d saved cycle).sent = [] ∧ errors (s.conclude d saved cycle).sent = [message] ∧
      (s.conclude d saved cycle).session = s := by
  rcases cycle with e | ⟨settings, e | ds, scene⟩
  · obtain rfl := Option.some.inj hfailure
    exact ⟨rfl, rfl, rfl⟩
  · obtain rfl := Option.some.inj hfailure
    rw [conclude, publications_append, publications_account, errors_append, errors_account]
    exact ⟨rfl, rfl, rfl⟩
  · cases hfailure

end Session

/-- In every session a save that fails, since there are no settings for its file or since the checks fail,
publishes nothing and tells the user one error; settings and claims stay as they are. The session goes on as it
could without the save: whatever the turns before and after it, they are turns of the session with the save just
when they are turns of the session without it. -/
theorem Run.without_failed_save {c : Config} {start s : Session} {before : List Arrival} {turns : List Turn}
    (hrun : Run c start before turns s) {a : Arrival} {saved : Url} {file : Path}
    (hchecks : s.checks? a.message = some (saved, file)) {cycle : Cycle}
    (hcycle : Cycle.Of a.host (Session.diskFor a.disk saved) file
      (s.settingsFor c a.host (Session.diskFor a.disk saved) file) cycle)
    {message : Text} (hfailure : cycle.failure? = some message) :
    s.Handles c a.host a.disk a.message (s.conclude a.disk saved cycle) ∧
      publications (s.conclude a.disk saved cycle).sent = [] ∧
      errors (s.conclude a.disk saved cycle).sent = [message] ∧
      (s.conclude a.disk saved cycle).session.settings = s.settings ∧
      (s.conclude a.disk saved cycle).session.published = s.published ∧
      ∀ after rest final,
        Run c start (before ++ a :: after) (turns ++ s.conclude a.disk saved cycle :: rest) final ↔
          Run c start (before ++ after) (turns ++ rest) final := by
  have hhandles : s.Handles c a.host a.disk a.message (s.conclude a.disk saved cycle) := .cycle hchecks hcycle
  obtain ⟨hpublished, herrors, hsession⟩ := Session.conclude_of_failure (s := s) hfailure a.disk saved
  refine ⟨hhandles, hpublished, herrors, by rw [hsession], by rw [hsession], fun after rest final => ?_⟩
  rw [hrun.append_iff, hrun.append_iff]
  constructor
  · intro hfull
    cases hfull with
    | cons _ hrest => rwa [hsession] at hrest
  · intro hrest
    refine .cons hhandles ?_
    rwa [hsession]

/-- After `a.go` was saved once, the save of a source that is not there fails, and what `a.go` claims stays
claimed. -/
theorem Run.without_failed_save_unread :
    let host := Session.sayingHost []
    let saved := Session.plainUrl "/p/c.go".toList
    let arrival : Arrival := ⟨host, Session.pairDisk, saveMessage "file:///p/c.go".toList⟩
    ∃ turns cycle, Run Session.bareConfig {} savedOnce turns afterSavedOnce ∧
      afterSavedOnce.Handles Session.bareConfig host Session.pairDisk arrival.message
        (afterSavedOnce.conclude Session.pairDisk saved cycle) ∧
      errors (afterSavedOnce.conclude Session.pairDisk saved cycle).sent =
        ["go-check failed: Failed to read /p/c.go: No such file or directory (os error 2)".toList] ∧
      ∀ after rest final, Run Session.bareConfig {} (savedOnce ++ arrival :: after)
          (turns ++ afterSavedOnce.conclude Session.pairDisk saved cycle :: rest) final ↔
        Run Session.bareConfig {} (savedOnce ++ after) (turns ++ rest) final := by
  intro host saved arrival
  obtain ⟨turns, hrun⟩ := run_savedOnce
  have hchecks : afterSavedOnce.checks? arrival.message = some (saved, "/p/c.go".toList) :=
    Session.checks?_saveMessage rfl (by decide +kernel) (by decide +kernel)
  have hfailure : (Cycle.inTurn host (Session.diskFor Session.pairDisk saved) "/p/c.go".toList
      (afterSavedOnce.settingsFor Session.bareConfig host (Session.diskFor Session.pairDisk saved)
        "/p/c.go".toList)).failure? =
      some "go-check failed: Failed to read /p/c.go: No such file or directory (os error 2)".toList := by
    decide +kernel
  obtain ⟨hhandles, -, herrors, -, -, hwithout⟩ :=
    Run.without_failed_save hrun hchecks (Cycle.of_inTurn ..) hfailure
  exact ⟨turns, _, hrun, hhandles, herrors, hwithout⟩

end Editor

end SaveCheck
