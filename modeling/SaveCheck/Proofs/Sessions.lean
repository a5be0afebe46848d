import SaveCheck.Proofs.Cycles
import SaveCheck.Proofs.Saves

/-!
A session as it handles one message after the other.

    start [options] ── configure v ── save a.go ── configure w ── save b.go ── …

Each message comes with the machine and the disk of its moment. What the save of a Go file comes to depends on
the order in which the steps of its checks are taken; all else is settled by the message.
-/

namespace SaveCheck

theorem Disk.restore_without (d : Disk) (place : Place) : (d.without place).restore place d = d := by
  obtain ⟨node?⟩ := d
  simp only [restore, without, Disk.mk.injEq]
  funext p
  split <;> rfl

namespace Editor

/-! ### What a message tells -/

namespace Message

/-- The options of a start, if it has any. -/
def start? (m : Message) : Option (Option Value) :=
  match Method.ofName? m.method with
  | some .start => if m.isRequest then m.params.bind Session.startOptions? else none
  | _ => none

/-- What a configuration sends to be the settings. -/
def configuration? (m : Message) : Option Value :=
  match Method.ofName? m.method with
  | some .configure => if m.isRequest then none else m.params.bind Session.sentSettings?
  | _ => none

/-- The document of a save. -/
def saved? (m : Message) : Option Url :=
  match Method.ofName? m.method with
  | some .save => if m.isRequest then none else m.params.bind Session.savedDocument?
  | _ => none

/-- A save is no configuration. -/
theorem configuration?_of_saved? {m : Message} {saved : Url} (hsaved : m.saved? = some saved) :
    m.configuration? = none := by
  rw [saved?] at hsaved
  rw [configuration?]
  split at hsaved
  · next hmethod => simp [hmethod]
  · cases hsaved

/-- Whether a message ends a session. -/
def closes (m : Message) : Bool :=
  match Method.ofName? m.method with
  | some .shutdown | some .leave => true
  | _ => false

end Message

namespace Session

/-! ### Saves -/

/-- The document and the file that a message makes a session check. -/
def checks? (s : Session) (m : Message) : Option (Url × Path) :=
  if s.phase = .ready then m.saved?.bind fun saved => (goFile? saved).map (saved, ·) else none

theorem checks?_eq_some_iff {s : Session} {m : Message} {saved : Url} {file : Path} :
    s.checks? m = some (saved, file) ↔
      s.phase = .ready ∧ m.saved? = some saved ∧ goFile? saved = some file := by
  rw [checks?]
  split
  · next hready =>
    simp only [hready, true_and, Option.bind_eq_some_iff, Option.map_eq_some_iff, Prod.mk.injEq]
    constructor
    · rintro ⟨u, hu, f, hf, rfl, rfl⟩
      exact ⟨hu, hf⟩
    · rintro ⟨hu, hf⟩
      exact ⟨saved, hu, file, hf, rfl, rfl⟩
  · next hready => simp [hready]

/-- The disk as the check of a document finds it: a name that is no text is none on the disk. -/
def diskFor (d : Disk) (saved : Url) : Disk :=
  match seemingPlace? d saved with
  | none => d
  | some place => d.without place

/-- The disk once the check of a document left one, with the names that are no text. -/
def diskAfter (d : Disk) (saved : Url) (left : Disk) : Disk :=
  match seemingPlace? d saved with
  | none => left
  | some place => left.restore place d

/-- The turn that a cycle makes. -/
def conclude (s : Session) (d : Disk) (saved : Url) : Cycle → Turn
  | .unsettled e => { session := s, disk := d, sent := [.told .error e.message] }
  | .checked _ (.error e, scene) =>
    { session := s
      disk := diskAfter d saved scene.disk
      sent := account scene ++ [checkFailure e]
      calls := scene.calls }
  | .checked _ (.ok ds, scene) =>
    { session := (s.publish saved.write ds).1
      disk := diskAfter d saved scene.disk
      sent := account scene ++ (s.publish saved.write ds).2
      calls := scene.calls }

variable {s : Session} {c : Config} {h : Host} {d : Disk} {m : Message} {saved : Url} {file : Path}

/-- The save of a Go file goes through its cycle. -/
theorem save_eq_conclude (hfile : goFile? saved = some file) : s.save c h d saved =
    s.conclude d saved (.inTurn h (diskFor d saved) file (s.settingsFor c h (diskFor d saved) file)) := by
  simp only [save, hfile, diskFor]
  cases hplace : seemingPlace? d saved with
  | none =>
    dsimp only
    rw [checkFile]
    cases s.settingsFor c h d file with
    | error e => rfl
    | ok settings =>
      dsimp only [Cycle.inTurn]
      rw [checkSaved]
      rcases Checker.checkOnce h settings file d with ⟨e | ds, scene⟩ <;> simp [conclude, diskAfter, hplace]
  | some place =>
    dsimp only
    rw [checkFile]
    cases s.settingsFor c h (d.without place) file with
    | error e => simp [Cycle.inTurn, conclude, Disk.restore_without]
    | ok settings =>
      dsimp only [Cycle.inTurn]
      rw [checkSaved]
      rcases Checker.checkOnce h settings file (d.without place) with ⟨e | ds, scene⟩ <;>
        simp [conclude, diskAfter, hplace]

/-- A ready session saves what a message tells it was saved. -/
theorem handle_of_saved (hready : s.phase = .ready) (hsaved : m.saved? = some saved) :
    s.handle c h d m = s.save c h d saved := by
  rw [Message.saved?] at hsaved
  split at hsaved
  · next hmethod =>
    split at hsaved
    · cases hsaved
    · next hrequest =>
      obtain ⟨params, hparams, hdocument⟩ := Option.bind_eq_some_iff.mp hsaved
      simp [handle, serve, notice, hready, hmethod, hrequest, hparams, hdocument]
  · cases hsaved

/-- What the handling of a message can come to, with the steps of the checks in some order. -/
inductive Handles (s : Session) (c : Config) (h : Host) (d : Disk) (m : Message) : Turn → Prop where
  | cycle {saved : Url} {file : Path} {cycle : Cycle} : s.checks? m = some (saved, file) →
      Cycle.Of h (diskFor d saved) file (s.settingsFor c h (diskFor d saved) file) cycle →
      Handles s c h d m (s.conclude d saved cycle)
  | plain : s.checks? m = none → Handles s c h d m (s.handle c h d m)

/-- The order in which the checks are done is one of them. -/
theorem handles_handle (s : Session) (c : Config) (h : Host) (d : Disk) (m : Message) :
    s.Handles c h d m (s.handle c h d m) := by
  cases hchecks : s.checks? m with
  | none => exact .plain hchecks
  | some found =>
    obtain ⟨saved, file⟩ := found
    obtain ⟨hready, hsaved, hfile⟩ := checks?_eq_some_iff.mp hchecks
    rw [handle_of_saved hready hsaved, save_eq_conclude hfile]
    exact .cycle hchecks (Cycle.of_inTurn ..)

/-! ### What one message leaves -/

variable {t : Turn}

theorem conclude_phase (s : Session) (d : Disk) (saved : Url) (cycle : Cycle) :
    (s.conclude d saved cycle).session.phase = s.phase := by
  rcases cycle with e | ⟨settings, e | ds, scene⟩ <;> rfl

theorem conclude_settings (s : Session) (d : Disk) (saved : Url) (cycle : Cycle) :
    (s.conclude d saved cycle).session.settings = s.settings := by
  rcases cycle with e | ⟨settings, e | ds, scene⟩ <;> rfl

/-- A cycle publishes what it found, and nothing where it found nothing out. -/
theorem conclude_published (s : Session) (d : Disk) (saved : Url) (cycle : Cycle) :
    (s.conclude d saved cycle).session.published = cycle.found?.elim s.published fun ds =>
      (s.publish saved.write ds).1.published := by
  rcases cycle with e | ⟨settings, e | ds, scene⟩ <;> rfl

/-- An event that tells of no saved document leaves a session as it is, unless it tells of settings. -/
theorem notice_session (method : Method) (params : Value) :
    (method = .save → savedDocument? params = none) → (s.notice c h d method params).session =
      match method with
      | .configure => (sentSettings? params).elim s s.configure
      | _ => s := by
  intro hsaved
  cases method with
  | started =>
    rw [notice]
    split <;> rfl
  | configure =>
    rw [notice]
    cases sentSettings? params <;> rfl
  | save =>
    rw [notice, hsaved rfl]
    rfl
  | _ => rfl

/-- A ready session takes its settings from a configuration; any other message that is no save and does not
close it leaves it as it is. -/
theorem handle_of_not_saved (hready : s.phase = .ready) (hopen : m.closes = false) (hsaved : m.saved? = none) :
    (s.handle c h d m).session = m.configuration?.elim s s.configure := by
  rw [Message.closes] at hopen
  rw [Message.saved?] at hsaved
  rw [Message.configuration?]
  cases hmethod : Method.ofName? m.method with
  | none => simp [handle, hready, hmethod, answer]
  | some method =>
    simp only [hmethod] at hopen hsaved
    cases method with
    | leave | shutdown => cases hopen
    | cancel | question => simp [handle, serve, hready, hmethod, answer]
    | start => simp [handle, start, hready, hmethod, answer]
    | started | event | configure | save =>
      cases hrequest : m.isRequest with
      | true => simp [handle, serve, hready, hmethod, hrequest, answer]
      | false =>
        cases hparams : m.params with
        | none => simp [handle, serve, hready, hmethod, hrequest, hparams, answer]
        | some params =>
          have hnotice := notice_session (s := s) (c := c) (h := h) (d := d)
          simp_all [handle, serve]

/-- However its checks go, a ready session is still ready after a message that does not close it, and has taken
its settings from it if it is a configuration. -/
theorem Handles.settings_eq {t : Turn} (ht : s.Handles c h d m t) (hready : s.phase = .ready)
    (hopen : m.closes = false) : t.session.phase = .ready ∧
      t.session.settings = (m.configuration?.bind Settings.ofEditor?).or s.settings := by
  cases ht with
  | @cycle saved file cycle hchecks hcycle =>
    obtain ⟨-, hsaved, -⟩ := checks?_eq_some_iff.mp hchecks
    rw [conclude_phase, conclude_settings, Message.configuration?_of_saved? hsaved]
    exact ⟨hready, rfl⟩
  | plain hchecks =>
    cases hsaved : m.saved? with
    | none =>
      rw [handle_of_not_saved hready hopen hsaved]
      cases m.configuration? <;> exact ⟨hready, rfl⟩
    | some saved =>
      have hfile : goFile? saved = none := by
        simpa [checks?, hready, hsaved] using hchecks
      rw [handle_of_saved hready hsaved, save, hfile, Message.configuration?_of_saved? hsaved]
      exact ⟨hready, rfl⟩

/-- A proper start makes a fresh session ready, and its options the settings. -/
theorem handle_start {options : Option Value} (hfresh : s.phase = .fresh) (hstart : m.start? = some options) :
    (s.handle c h d m).session =
      { s with phase := .ready, settings := (options.bind Settings.ofEditor?).or s.settings } := by
  rw [Message.start?] at hstart
  split at hstart
  · next hmethod =>
    split at hstart
    · next hrequest =>
      simp only [handle, start, hfresh, hmethod, hrequest, hstart]
      cases options with
      | none => rfl
      | some v => cases v <;> rfl
    · cases hstart
  · cases hstart

/-! ### Runs -/

end Session

/-- A message as it comes in, with the machine and the disk of that moment. -/
structure Arrival where
  host : Host
  disk : Disk
  message : Message

/-- A session handles some messages, one after the other, with a turn for each. -/
inductive Run (c : Config) : Session → List Arrival → List Turn → Session → Prop where
  | nil (s : Session) : Run c s [] [] s
  | cons {s s' : Session} {a : Arrival} {arrivals : List Arrival} {t : Turn} {turns : List Turn} :
      s.Handles c a.host a.disk a.message t → Run c t.session arrivals turns s' →
      Run c s (a :: arrivals) (t :: turns) s'

namespace Run

variable {c : Config} {s middle s' : Session} {before after : List Arrival} {front back : List Turn}

/-- What comes after some turns goes on from where they led. -/
theorem append_iff (hrun : Run c s before front middle) :
    Run c s (before ++ after) (front ++ back) s' ↔ Run c middle after back s' := by
  induction hrun with
  | nil => rfl
  | cons ht _ ih =>
    constructor
    · intro hrun
      cases hrun with
      | cons _ hrun => exact ih.mp hrun
    · exact fun hrun => .cons ht (ih.mpr hrun)

/-- Whatever messages come in, a session handles them. -/
theorem exists_run (c : Config) (s : Session) (arrivals : List Arrival) :
    ∃ turns s', Run c s arrivals turns s' := by
  induction arrivals generalizing s with
  | nil => exact ⟨[], s, .nil s⟩
  | cons a arrivals ih =>
    obtain ⟨turns, s', hrun⟩ := ih (s.handle c a.host a.disk a.message).session
    exact ⟨_, s', .cons (s.handles_handle c a.host a.disk a.message) hrun⟩

end Run

/-! ### Some messages -/

/-- A name that is not spelled leads to no shape. -/
theorem Shape.lookup_spell_of_not_mem {name : String} : ∀ {members : List (String × Shape)},
    name ∉ members.map (·.1) → (spell members).lookup name.toList = none
  | [], _ => rfl
  | (other, shape) :: members, h => by
    simp only [List.map_cons, List.mem_cons, not_or] at h
    have hne : name.toList ≠ other.toList := fun heq => h.1 (String.toList_injective heq)
    rw [spell, List.map_cons, List.lookup_cons, beq_false_of_ne hne, ← spell]
    exact lookup_spell_of_not_mem h.2

/-- A method that stands for no event and no question is one that is served, or none. -/
theorem Method.ofName?_of_lookup {name : Text} (hevents : events.contains name = false)
    (hquestions : Question.table.lookup name = none) : ofName? name = served.lookup name := by
  rw [ofName?, hevents, hquestions]
  rfl

/-- A start, with options or without. -/
def startMessage (options : Option Value) : Message where
  method := "initialize".toList
  params := some (.record (("capabilities".toList, .record []) ::
    (options.map fun v => ("initializationOptions".toList, v)).toList))
  isRequest := true

theorem startMessage_start? (options : Option Value) : (startMessage options).start? = some options := by
  have hname : (startMessage options).method = "initialize".toList := rfl
  have hmethod : Method.ofName? "initialize".toList = some .start :=
    Method.ofName?_of_lookup (by simp [Method.events]) (Shape.lookup_spell_of_not_mem (by decide +kernel))
  rw [Message.start?, hname, hmethod]
  cases options with
  | none => rfl
  | some v => cases v <;> rfl

/-- A configuration. -/
def configureMessage (settings : Value) : Message where
  method := "workspace/didChangeConfiguration".toList
  params := some (.record [("settings".toList, settings)])

theorem configureMessage_ofName? (settings : Value) :
    Method.ofName? (configureMessage settings).method = some .configure := by
  have hname : (configureMessage settings).method = "workspace/didChangeConfiguration".toList := rfl
  rw [hname]
  exact Method.ofName?_of_lookup (by simp [Method.events]) (Shape.lookup_spell_of_not_mem (by decide +kernel))

theorem configureMessage_configuration? (settings : Value) :
    (configureMessage settings).configuration? = some settings := by
  rw [Message.configuration?, configureMessage_ofName?]
  rfl

theorem configureMessage_closes (settings : Value) : (configureMessage settings).closes = false := by
  rw [Message.closes, configureMessage_ofName?]

/-- The save of a document. -/
def saveMessage (uri : Text) : Message where
  method := "textDocument/didSave".toList
  params := some (.record [("textDocument".toList, .record [("uri".toList, .text uri)])])

theorem saveMessage_saved? {uri : Text} {saved : Url} (hsaved : Url.parse? uri = some saved) :
    (saveMessage uri).saved? = some saved := by
  have hname : (saveMessage uri).method = "textDocument/didSave".toList := rfl
  have hmethod : Method.ofName? "textDocument/didSave".toList = some .save :=
    Method.ofName?_of_lookup (by simp [Method.events]) (Shape.lookup_spell_of_not_mem (by decide +kernel))
  have haccepts : (Shape.record Session.saveParams).accepts
      (.record [("textDocument".toList, .record [("uri".toList, .text uri)])]) = true := by
    simp [Shape.record, Shape.spell, Session.saveParams, Shape.document, Shape.documentMembers, Shape.accepts,
      Shape.acceptsMembers, Shape.mayMiss, Value.member?, hsaved]
  rw [Message.saved?, hname, hmethod]
  show Session.savedDocument? _ = some saved
  rw [Session.savedDocument?, if_pos haccepts]
  exact hsaved

/-- A ready session checks a Go file that is saved. -/
theorem Session.checks?_saveMessage {s : Session} {uri : Text} {saved : Url} {file : Path}
    (hready : s.phase = .ready) (hsaved : Url.parse? uri = some saved) (hfile : goFile? saved = some file) :
    s.checks? (saveMessage uri) = some (saved, file) :=
  checks?_eq_some_iff.mpr ⟨hready, saveMessage_saved? hsaved, hfile⟩

end Editor

end SaveCheck
