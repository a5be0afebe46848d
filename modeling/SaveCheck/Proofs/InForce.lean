import SaveCheck.Proofs.Freshness
import SaveCheck.Proofs.Sessions

/-!
Which settings a save is checked under.

    start {"vetOnSave": false}           in force: no vetting
    configure {"lintOnSave": "no"}       cannot be read and counts for nothing
    configure {"go": {"cover…": true}}   in force: coverage, and vetting again by default

The settings that could be read last are in force, whole. As long as there are none, each file has those of its
project file, as it is when the file is saved.
-/

namespace SaveCheck

/-! ### Without overrides -/

/-- Overrides that say nothing change nothing. -/
theorem Overrides.apply_blank (s : Settings) : Overrides.apply {} s = s := by
  simp [apply]

namespace Config

/-- The defaults, with what the project file of a file says laid over them. -/
def projectSettings (c : Config) (h : Host) (d : Disk) (file : Path) : Except ConfigError Settings :=
  match c.fileFor h d file with
  | some p => load h d p
  | none => .ok {}

theorem settingsFor_of_no_overrides {c : Config} (hc : c.overrides = {}) (h : Host) (d : Disk) (file : Path) :
    c.settingsFor h d file = (c.projectSettings h d file).map c.withGoRoot := by
  rw [settingsFor, projectSettings, hc]
  cases c.fileFor h d file with
  | none => simp [Overrides.apply_blank, bind, pure, Except.bind, Except.pure, Except.map]
  | some p =>
    dsimp only
    cases load h d p <;> simp [Overrides.apply_blank, bind, pure, Except.bind, Except.pure, Except.map]

/-- The command line of a session overrides no settings. -/
theorem overrides_of_serve {h : Host} {d : Disk} {line : CommandLine} {c : Config}
    (hserve : line.command = .serve) (hc : ofCommandLine h d line = .ok c) : c.overrides = {} := by
  rw [ofCommandLine] at hc
  split at hc
  · split at hc
    · obtain rfl := Except.ok.inj hc
      simp [hserve, Command.overrides]
    · cases hc
  · obtain rfl := Except.ok.inj hc
    simp [hserve, Command.overrides]

end Config

namespace Editor

/-! ### The last settings that could be read -/

/-- The last settings that could be read among some values. -/
def lastRead? (values : List Value) : Option Settings := (values.filterMap Settings.ofEditor?).getLast?

theorem lastRead?_append (values later : List Value) :
    lastRead? (values ++ later) = (lastRead? later).or (lastRead? values) := by
  rw [lastRead?, List.filterMap_append, List.getLast?_append]
  rfl

theorem lastRead?_toList (v : Option Value) : lastRead? v.toList = v.bind Settings.ofEditor? := by
  cases v with
  | none => rfl
  | some v => cases hread : Settings.ofEditor? v <;> simp [lastRead?, hread]

/-- The settings for a file once an editor has told some values: those of the last value that could be read, or
else those of the project file. The Go root of the command line goes first either way. -/
def inForce (c : Config) (h : Host) (d : Disk) (file : Path) (told : List Value) :
    Except ConfigError Settings :=
  match lastRead? told with
  | some settings => .ok (c.withGoRoot settings)
  | none => (c.projectSettings h d file).map c.withGoRoot

/-- The values that some messages tell to be the settings. -/
def told (arrivals : List Arrival) : List Value := arrivals.filterMap (·.message.configuration?)

theorem told_cons (a : Arrival) (arrivals : List Arrival) :
    told (a :: arrivals) = a.message.configuration?.toList ++ told arrivals := by
  rw [told, List.filterMap_cons, ← told]
  cases a.message.configuration? <;> rfl

variable {c : Config} {s s' : Session} {arrivals : List Arrival} {turns : List Turn}

/-- A session that goes on holds the last settings that could be read. -/
theorem Run.settings_eq (hrun : Run c s arrivals turns s') (hready : s.phase = .ready)
    (hopen : ∀ a ∈ arrivals, a.message.closes = false) :
    s'.phase = .ready ∧ s'.settings = (lastRead? (told arrivals)).or s.settings := by
  induction hrun with
  | nil => exact ⟨hready, rfl⟩
  | @cons s s' a arrivals t turns ht hrun ih =>
    obtain ⟨hphase, hsettings⟩ := ht.settings_eq hready (hopen a List.mem_cons_self)
    obtain ⟨hphase', hsettings'⟩ := ih hphase fun b hb => hopen b (List.mem_cons_of_mem _ hb)
    refine ⟨hphase', ?_⟩
    rw [hsettings', hsettings, told_cons, lastRead?_append, lastRead?_toList, Option.or_assoc]

/-- What comes after a start goes by the settings that its options tell. -/
theorem Run.start_iff {first : Arrival} {options : Option Value}
    (hstart : first.message.start? = some options) :
    (∃ t, Run c {} (first :: arrivals) (t :: turns) s') ↔
      Run c { phase := .ready, settings := options.bind Settings.ofEditor? } arrivals turns s' := by
  have hsession := Session.handle_start (s := {}) (c := c) (h := first.host) (d := first.disk) rfl hstart
  rw [Option.or_none] at hsession
  constructor
  · rintro ⟨t, hrun⟩
    cases hrun with
    | cons ht hrun =>
      cases ht with
      | cycle hchecks => cases (Session.checks?_eq_some_iff.mp hchecks).1
      | plain => rwa [hsession] at hrun
  · intro hrun
    rw [← hsession] at hrun
    exact ⟨_, .cons (Session.handles_handle ..) hrun⟩

/-- After a start and any messages that do not close it, a session is ready, and its settings are the last ones
that could be read, those of the start included. -/
theorem Run.settings_of_start {first : Arrival} {options : Option Value}
    (hstart : first.message.start? = some options) (hopen : ∀ a ∈ arrivals, a.message.closes = false)
    (hrun : Run c {} (first :: arrivals) turns s') :
    s'.phase = .ready ∧ s'.settings = lastRead? (options.toList ++ told arrivals) := by
  obtain ⟨t, rest, rfl⟩ : ∃ t rest, turns = t :: rest := by
    cases hrun with
    | cons ht hrun => exact ⟨_, _, rfl⟩
  obtain ⟨hphase, hsettings⟩ := ((Run.start_iff hstart).mp ⟨t, hrun⟩).settings_eq rfl hopen
  refine ⟨hphase, ?_⟩
  rw [hsettings, lastRead?_append, lastRead?_toList]

/-- A ready session that holds the last settings that could be read checks each file under those in force. -/
theorem settingsFor_eq_inForce {values : List Value} (hc : c.overrides = {})
    (hsettings : s.settings = lastRead? values) (h : Host) (d : Disk) (file : Path) :
    s.settingsFor c h d file = inForce c h d file values := by
  cases hlast : lastRead? values with
  | none => simp only [Session.settingsFor, inForce, hsettings, hlast, Config.settingsFor_of_no_overrides hc]
  | some settings => simp only [Session.settingsFor, inForce, hsettings, hlast]

/-! ### Values that cannot be read -/

/-- A configuration that cannot be read makes a turn in which nothing happens. -/
theorem Session.handle_of_unread {m : Message} {v : Value} (hready : s.phase = .ready)
    (hv : m.configuration? = some v) (hunread : Settings.ofEditor? v = none) (h : Host) (d : Disk) :
    s.handle c h d m = s.answer d .silence := by
  have hsame : s.configure v = s := by rw [configure, hunread, Option.none_or]
  rw [Message.configuration?] at hv
  split at hv
  · next hmethod =>
    split at hv
    · cases hv
    · next hrequest =>
      obtain ⟨params, hparams, hsent⟩ := Option.bind_eq_some_iff.mp hv
      simp [handle, serve, notice, hready, hmethod, hrequest, hparams, hsent, hsame]
  · cases hv

theorem Session.handles_unread_iff {m : Message} {v : Value} (hready : s.phase = .ready)
    (hv : m.configuration? = some v) (hunread : Settings.ofEditor? v = none) {h : Host} {d : Disk} {t : Turn} :
    s.Handles c h d m t ↔ t = s.answer d .silence := by
  constructor
  · intro ht
    cases ht with
    | cycle hchecks =>
      obtain ⟨-, hsaved, -⟩ := checks?_eq_some_iff.mp hchecks
      rw [Message.configuration?_of_saved? hsaved] at hv
      cases hv
    | plain => exact handle_of_unread hready hv hunread h d
  · rintro rfl
    rw [← handle_of_unread hready hv hunread h d]
    exact handles_handle s c h d m

/-! ### Sessions -/

/-- In every session each Go file that is saved is checked under the settings in force: those told last that
could be read, whole, or else those of the file's project file as it is at that moment. A configuration that
cannot be read does nothing, and the session goes on as if it had not come in; options that cannot be read are
as good as none. -/
theorem Run.saves_inForce {h : Host} {d : Disk} {line : CommandLine} (hserve : line.command = .serve)
    (hc : Config.ofCommandLine h d line = .ok c) {first : Arrival} {options : Option Value}
    (hstart : first.message.start? = some options) (hopen : ∀ a ∈ arrivals, a.message.closes = false)
    (hrun : Run c {} (first :: arrivals) turns s) :
    (∀ {a : Arrival} {saved : Url} {file : Path}, a.message.saved? = some saved →
      Session.goFile? saved = some file →
        s.Handles c a.host a.disk a.message (s.handle c a.host a.disk a.message) ∧
        ∀ t, s.Handles c a.host a.disk a.message t → ∃ cycle,
          Cycle.Of a.host (Session.diskFor a.disk saved) file
            (inForce c a.host (Session.diskFor a.disk saved) file (options.toList ++ told arrivals)) cycle ∧
          t = s.conclude a.disk saved cycle) ∧
    (∀ {a : Arrival} {v : Value}, a.message.configuration? = some v → Settings.ofEditor? v = none →
      ∀ later turns' s', Run c s (a :: later) turns' s' ↔
        ∃ rest, turns' = s.answer a.disk .silence :: rest ∧ Run c s later rest s') ∧
    (options.bind Settings.ofEditor? = none → ∀ {plain : Arrival}, plain.message.start? = some none →
      ∀ rest s', (∃ t, Run c {} (first :: arrivals) (t :: rest) s') ↔
        ∃ t, Run c {} (plain :: arrivals) (t :: rest) s') := by
  have hnone := Config.overrides_of_serve hserve hc
  obtain ⟨hready, hsettings⟩ := hrun.settings_of_start hstart hopen
  refine ⟨fun {a saved file} hsaved hfile => ⟨s.handles_handle c a.host a.disk a.message, fun t ht => ?_⟩,
    fun {a v} hv hunread later turns' s' => ?_, fun hunread plain hplain rest s' => ?_⟩
  · have hchecks := Session.checks?_eq_some_iff.mpr ⟨hready, hsaved, hfile⟩
    cases ht with
    | cycle hchecks' hcycle =>
      obtain ⟨rfl, rfl⟩ := Prod.mk.inj (Option.some.inj (hchecks.symm.trans hchecks'))
      rw [settingsFor_eq_inForce hnone hsettings] at hcycle
      exact ⟨_, hcycle, rfl⟩
    | plain hplain =>
      rw [hplain] at hchecks
      cases hchecks
  · constructor
    · intro hrun'
      cases hrun' with
      | cons ht hlater =>
        obtain rfl := (Session.handles_unread_iff hready hv hunread).mp ht
        exact ⟨_, rfl, hlater⟩
    · rintro ⟨rest, rfl, hlater⟩
      exact .cons ((Session.handles_unread_iff hready hv hunread).mpr rfl) hlater
  · rw [Run.start_iff hstart, Run.start_iff hplain, hunread]
    rfl

/-- In the workshop a source is vetted no more once the options say so, and a configuration that cannot be read
does not change this. -/
theorem Run.saves_inForce_workshop :
    let v : Value := .record [("vetOnSave".toList, .flag false)]
    let w : Value := .record [("coverOnSave".toList, .flag true), ("lintOnSave".toList, .text "no".toList)]
    (startMessage v).start? = some (some v) ∧ (configureMessage w).configuration? = some w ∧
      Settings.ofEditor? w = none ∧
      ∃ turns s, Run Session.bareConfig {}
          [⟨Checker.workshop, Checker.workshopDisk, startMessage v⟩,
            ⟨Checker.workshop, Checker.workshopDisk, configureMessage w⟩] turns s ∧
        ∀ t, s.Handles Session.bareConfig Checker.workshop Checker.workshopDisk
            (saveMessage "file:///p/a.go".toList) t →
          ∃ cycle, Cycle.Of Checker.workshop Checker.workshopDisk "/p/a.go".toList
              (.ok { vetOnSave := false }) cycle ∧
            t = s.conclude Checker.workshopDisk (Session.plainUrl "/p/a.go".toList) cycle := by
  intro v w
  let first : Arrival := ⟨Checker.workshop, Checker.workshopDisk, startMessage v⟩
  let second : Arrival := ⟨Checker.workshop, Checker.workshopDisk, configureMessage w⟩
  let a : Arrival := ⟨Checker.workshop, Checker.workshopDisk, saveMessage "file:///p/a.go".toList⟩
  let line : CommandLine := ⟨[], none, none, .serve⟩
  have hconfig : Config.ofCommandLine Checker.workshop Checker.workshopDisk line = .ok Session.bareConfig := rfl
  have hstart : first.message.start? = some (some v) := startMessage_start? v
  have hopen : ∀ b ∈ [second], b.message.closes = false := by
    intro b hb
    obtain rfl := List.mem_singleton.mp hb
    exact configureMessage_closes w
  obtain ⟨turns, s, hrun⟩ := Run.exists_run Session.bareConfig {} [first, second]
  obtain ⟨hsaves, -⟩ := Run.saves_inForce rfl hconfig hstart hopen hrun
  have hurl : Url.parse? "file:///p/a.go".toList = some (Session.plainUrl "/p/a.go".toList) := by decide +kernel
  have hsaved : a.message.saved? = some (Session.plainUrl "/p/a.go".toList) := saveMessage_saved? hurl
  have hgo : Session.goFile? (Session.plainUrl "/p/a.go".toList) = some "/p/a.go".toList := by decide +kernel
  have hplace : Session.diskFor Checker.workshopDisk (Session.plainUrl "/p/a.go".toList) =
      Checker.workshopDisk := rfl
  have hin : inForce Session.bareConfig Checker.workshop Checker.workshopDisk "/p/a.go".toList
      ((some v).toList ++ told [second]) = .ok { vetOnSave := false } := by
    rw [told_cons, configureMessage_configuration?]
    rfl
  obtain ⟨-, hcycle⟩ := hsaves hsaved hgo
  rw [hplace, hin] at hcycle
  exact ⟨hstart, configureMessage_configuration? w, rfl, turns, s, hrun, hcycle⟩

end Editor

end SaveCheck
