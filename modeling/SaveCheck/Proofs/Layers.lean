import SaveCheck.Config
import SaveCheck.Proofs.Encodings

/-!
Three layers of settings, one over the other.

    command line   --no-vet --go-root /opt/go       vetOnSave = false             goRoot = "/opt/go"
    project file   vetOnSave = true                                               goRoot = "/usr/go"
    defaults       {}                               vetOnSave = true   lintTool   …
                                                    ────────────────────────────────────────────────
                                                    false              none       "/opt/go"

A setting has the value of the highest layer that gives it one, whatever the layers say about the others. There are no
settings only where a project file applies that cannot be read, is no document, or gives a setting a value that it
cannot have.
-/

namespace SaveCheck

namespace Value

/-! ### Values that can be read -/

theorem flag?_eq_some_iff {v : Value} {b : Bool} : v.flag? = some b ↔ v = .flag b := by
  cases v <;> simp [flag?]

theorem text?_eq_some_iff {v : Value} {t : Text} : v.text? = some t ↔ v = .text t := by
  cases v <;> simp [text?]

theorem optionalText?_eq_some {v : Value} {t : Option Text} (h : v.optionalText? = some t) :
    v = Settings.orNull t := by
  cases v <;> simp [optionalText?] at h <;> subst h <;> rfl

theorem mapM_text?_eq_some : ∀ {vs : List Value} {ts : List Text}, vs.mapM text? = some ts → vs = ts.map .text
  | [], ts, h => by
    obtain rfl : [] = ts := by simpa using h
    rfl
  | v :: vs, ts, h => by
    simp only [List.mapM_cons, Option.bind_eq_bind, Option.bind_eq_some_iff, Option.pure_def, Option.some.injEq] at h
    obtain ⟨t, ht, ts, hts, rfl⟩ := h
    rw [text?_eq_some_iff.mp ht, mapM_text?_eq_some hts, List.map_cons]

theorem texts?_eq_some {v : Value} {ts : List Text} (h : v.texts? = some ts) : v = .list (ts.map .text) := by
  cases v with
  | list vs => rw [mapM_text?_eq_some h]
  | _ => cases h

end Value

namespace Settings

/-! ### Settings by their values -/

/-- A value that a setting can have. -/
def Key.Admits (k : Key) (v : Value) : Prop := ∃ s : Settings, k.value s = v

/-- Settings can be put together from values, one for each. -/
theorem exists_value {values : Key → Value} (h : ∀ k, Key.Admits k (values k)) :
    ∃ s : Settings, ∀ k : Key, k.value s = values k := by
  choose donor hvalue using h
  let s : Settings := {
    buildOnSave := (donor .buildOnSave).buildOnSave
    buildFlags := (donor .buildFlags).buildFlags
    buildTags := (donor .buildTags).buildTags
    lintOnSave := (donor .lintOnSave).lintOnSave
    lintTool := (donor .lintTool).lintTool
    lintFlags := (donor .lintFlags).lintFlags
    vetOnSave := (donor .vetOnSave).vetOnSave
    vetFlags := (donor .vetFlags).vetFlags
    coverOnSave := (donor .coverOnSave).coverOnSave
    goRoot := (donor .goRoot).goRoot
    goPath := (donor .goPath).goPath }
  refine ⟨s, fun k => ?_⟩
  rw [← hvalue k]
  cases k <;> rfl

theorem orNull_inj {t u : Option Text} (h : orNull t = orNull u) : t = u := by
  have hread := optionalText?_orNull t
  rw [h, optionalText?_orNull] at hread
  exact (Option.some.inj hread).symm

theorem map_text_inj {ts us : List Text} (h : Value.list (ts.map .text) = .list (us.map .text)) : ts = us := by
  have hread := Value.texts?_map ts
  rw [h, Value.texts?_map] at hread
  exact (Option.some.inj hread).symm

/-- Settings with the same values are the same. -/
theorem eq_of_value {s t : Settings} (h : ∀ k : Key, k.value s = k.value t) : s = t := by
  obtain ⟨b, bf, bt, l, lt, lf, v, vf, cv, gr, gp⟩ := s
  obtain ⟨b', bf', bt', l', lt', lf', v', vf', cv', gr', gp'⟩ := t
  obtain rfl : b = b' := Value.flag.inj (h .buildOnSave)
  obtain rfl : bf = bf' := map_text_inj (h .buildFlags)
  obtain rfl : bt = bt' := Value.text.inj (h .buildTags)
  obtain rfl : l = l' := Value.flag.inj (h .lintOnSave)
  obtain rfl : lt = lt' := orNull_inj (h .lintTool)
  obtain rfl : lf = lf' := map_text_inj (h .lintFlags)
  obtain rfl : v = v' := Value.flag.inj (h .vetOnSave)
  obtain rfl : vf = vf' := map_text_inj (h .vetFlags)
  obtain rfl : cv = cv' := Value.flag.inj (h .coverOnSave)
  obtain rfl : gr = gr' := orNull_inj (h .goRoot)
  obtain rfl : gp = gp' := orNull_inj (h .goPath)
  rfl

/-! ### What a record decodes to -/

/-- The members that tell settings tell values that these can have. -/
def Decodes (members : List (Text × Value)) : Prop :=
  ∀ (k : Key) v, Value.member? k.name members = some v → k.Admits v

/-- What is read is the value that is given, or the default. -/
theorem eq_of_readOr {α : Type} {read : Value → Option α} {value : α → Value}
    (hread : ∀ {v x}, read v = some x → v = value x) {default x : α} {given : Option Value}
    (h : readOr default read given = some x) : value x = given.getD (value default) := by
  cases given with
  | none => rw [Option.some.inj h]; rfl
  | some v => exact (hread h).symm

/-- Each setting that is read has the value that is given for it, or its default. -/
theorem value_of_ofGiven? {given : Key → Option Value} {s : Settings} (h : ofGiven? given = some s) (k : Key) :
    k.value s = (given k).getD (k.value {}) := by
  simp only [ofGiven?, Option.bind_eq_bind, Option.bind_eq_some_iff, Option.pure_def, Option.some.injEq] at h
  obtain ⟨_, hbuild, _, hbuildFlags, _, htags, _, hlint, _, htool, _, hlintFlags, _, hvet, _, hvetFlags, _, hcover,
    _, hroot, _, hpath, rfl⟩ := h
  cases k with
  | buildOnSave => exact eq_of_readOr Value.flag?_eq_some_iff.mp hbuild
  | buildFlags => exact eq_of_readOr Value.texts?_eq_some hbuildFlags
  | buildTags => exact eq_of_readOr Value.text?_eq_some_iff.mp htags
  | lintOnSave => exact eq_of_readOr Value.flag?_eq_some_iff.mp hlint
  | lintTool => exact eq_of_readOr Value.optionalText?_eq_some htool
  | lintFlags => exact eq_of_readOr Value.texts?_eq_some hlintFlags
  | vetOnSave => exact eq_of_readOr Value.flag?_eq_some_iff.mp hvet
  | vetFlags => exact eq_of_readOr Value.texts?_eq_some hvetFlags
  | coverOnSave => exact eq_of_readOr Value.flag?_eq_some_iff.mp hcover
  | goRoot => exact eq_of_readOr Value.optionalText?_eq_some hroot
  | goPath => exact eq_of_readOr Value.optionalText?_eq_some hpath

/-- A record is read as the settings that have the values of its members, and their defaults without them. -/
theorem ofValue?_record_iff {members : List (Text × Value)} {s : Settings} :
    ofValue? (.record members) = some s ↔
      ∀ k : Key, k.value s = (Value.member? k.name members).getD (k.value {}) := by
  constructor
  · intro hs
    rw [ofValue?] at hs
    exact value_of_ofGiven? hs
  · intro hvalues
    refine ofValue?_of_tells ⟨fun k v hv => ?_, fun k hk => ?_⟩
    · rw [hvalues, hv, Option.getD_some]
    · rw [hvalues, hk, Option.getD_none]

/-- A record is read exactly if it decodes. -/
theorem decodes_iff {members : List (Text × Value)} :
    Decodes members ↔ ∃ s, ofValue? (.record members) = some s := by
  constructor
  · intro hdecodes
    have hadmits : ∀ k : Key, k.Admits ((Value.member? k.name members).getD (k.value {})) := by
      intro k
      cases hv : Value.member? k.name members with
      | none => exact ⟨{}, rfl⟩
      | some v => exact hdecodes k v hv
    obtain ⟨s, hs⟩ := exists_value hadmits
    exact ⟨s, ofValue?_record_iff.mpr hs⟩
  · rintro ⟨s, hs⟩ k v hv
    have hvalue := ofValue?_record_iff.mp hs k
    rw [hv] at hvalue
    exact ⟨s, hvalue⟩

/-- What a document describes is a record. -/
theorem eq_record_of_document? {t : Text} {v : Value} (h : Toml.document? t = some v) :
    ∃ members, v = .record members := by
  obtain ⟨statements, -, hassemble⟩ := Option.bind_eq_some_iff.mp h
  obtain ⟨draft, -, rfl⟩ := Option.map_eq_some_iff.mp hassemble
  exact ⟨_, rfl⟩

theorem ofDocument?_eq_some_iff {t : Text} {s : Settings} : ofDocument? t = some s ↔
    ∃ members, Toml.document? t = some (.record members) ∧ ofValue? (.record members) = some s := by
  rw [ofDocument?, Option.bind_eq_some_iff]
  constructor
  · rintro ⟨v, hv, hs⟩
    obtain ⟨members, rfl⟩ := eq_record_of_document? hv
    exact ⟨members, hv, hs⟩
  · rintro ⟨members, hmembers, hs⟩
    exact ⟨_, hmembers, hs⟩

theorem ofDocument?_eq_none_iff {t : Text} : ofDocument? t = none ↔
    ∀ members, Toml.document? t = some (.record members) → ¬ Decodes members := by
  simp only [Option.eq_none_iff_forall_ne_some, ne_eq, ofDocument?_eq_some_iff, decodes_iff, not_exists, not_and]
  exact ⟨fun h members hmembers s => h s members hmembers, fun h s members hmembers => h members hmembers s⟩

end Settings

/-! ### The command line -/

/-- Overrides that are laid over settings twice change no more than laid over them once. -/
theorem Overrides.apply_apply (o : Overrides) (s : Settings) : o.apply (o.apply s) = o.apply s := by
  simp only [apply, Bool.and_assoc, Bool.and_self, Bool.or_assoc, Bool.or_self, Option.or_self, ← Option.or_assoc]
  cases o.buildTags <;> rfl

namespace Config

open Settings (Key)

variable {c : Config} {h : Host} {d : Disk} {file p : Path} {s : Settings} {e : ConfigError}

/-- The value that the command line gives a setting. It can do no more than switch a check off, and coverage on. -/
def given? (c : Config) : Key → Option Value
  | .buildOnSave => if c.overrides.noBuild then some (.flag false) else none
  | .lintOnSave => if c.overrides.noLint then some (.flag false) else none
  | .vetOnSave => if c.overrides.noVet then some (.flag false) else none
  | .coverOnSave => if c.overrides.cover then some (.flag true) else none
  | .lintTool => c.overrides.lintTool.map .text
  | .buildTags => c.overrides.buildTags.map .text
  | .goRoot => c.goRoot.map .text
  | .buildFlags | .lintFlags | .vetFlags | .goPath => none

/-- Each setting has the value that the command line gives it, or else the one that it had. -/
theorem value_overridden (c : Config) (s : Settings) (k : Key) :
    k.value (c.withGoRoot (c.overrides.apply s)) = (c.given? k).getD (k.value s) := by
  have hoff : ∀ off flag : Bool, Value.flag (flag && ! off) =
      (if off then some (.flag false) else none : Option Value).getD (.flag flag) := by
    rintro (_ | _) (_ | _) <;> rfl
  have hon : ∀ on flag : Bool, Value.flag (flag || on) =
      (if on then some (.flag true) else none : Option Value).getD (.flag flag) := by
    rintro (_ | _) (_ | _) <;> rfl
  have hor : ∀ given old : Option Text, Settings.orNull (given.or old) =
      (given.map .text).getD (Settings.orNull old) := by
    rintro (_ | _) _ <;> rfl
  have hreplaced : ∀ (given : Option Text) (old : Text), Value.text (given.getD old) =
      (given.map .text).getD (.text old) := by
    rintro (_ | _) _ <;> rfl
  cases k with
  | buildOnSave | lintOnSave | vetOnSave => exact hoff _ _
  | coverOnSave => exact hon _ _
  | lintTool | goRoot => exact hor _ _
  | buildTags => exact hreplaced _ _
  | buildFlags | lintFlags | vetFlags | goPath => rfl

/-! ### The project file -/

/-- The members of the project file that applies to a file. Where none applies there are none. -/
inductive Project (c : Config) (h : Host) (d : Disk) (file : Path) : List (Text × Value) → Prop where
  | none : c.fileFor h d file = none → Project c h d file []
  | file {p : Path} {text : Text} {members : List (Text × Value)} : c.fileFor h d file = some p →
      d.readText h.cwd p = .ok text → Toml.document? text = some (.record members) → Project c h d file members

theorem load_eq_ok_iff : load h d p = .ok s ↔
    ∃ text, d.readText h.cwd p = .ok text ∧ Settings.ofDocument? text = some s := by
  rw [load]
  cases d.readText h.cwd p with
  | error fault => simp
  | ok text => cases hs : Settings.ofDocument? text <;> simp [hs]

theorem load_eq_error_iff : load h d p = .error e ↔
    (∃ fault, d.readText h.cwd p = .error fault ∧ e = .unreadable p fault) ∨
      ∃ text, d.readText h.cwd p = .ok text ∧ e = .malformed p ∧ Settings.ofDocument? text = none := by
  rw [load]
  cases d.readText h.cwd p with
  | error fault => simp [eq_comm]
  | ok text => cases hs : Settings.ofDocument? text <;> simp [hs, eq_comm]

theorem settingsFor_of_none (hfile : c.fileFor h d file = none) :
    c.settingsFor h d file = .ok (c.withGoRoot (c.overrides.apply {})) := by
  rw [settingsFor, hfile]
  rfl

theorem settingsFor_of_some (hfile : c.fileFor h d file = some p) :
    c.settingsFor h d file = (load h d p).map fun base => c.withGoRoot (c.overrides.apply base) := by
  rw [settingsFor, hfile]
  dsimp only
  cases load h d p <;> rfl

theorem settingsFor_eq_ok_iff : c.settingsFor h d file = .ok s ↔ ∃ members base, c.Project h d file members ∧
    Settings.ofValue? (.record members) = some base ∧ c.withGoRoot (c.overrides.apply base) = s := by
  constructor
  · intro hs
    cases hfile : c.fileFor h d file with
    | none =>
      rw [settingsFor_of_none hfile] at hs
      exact ⟨[], {}, .none hfile, rfl, Except.ok.inj hs⟩
    | some p =>
      rw [settingsFor_of_some hfile] at hs
      cases hload : load h d p with
      | error e =>
        rw [hload] at hs
        cases hs
      | ok base =>
        obtain ⟨text, htext, hdocument⟩ := load_eq_ok_iff.mp hload
        obtain ⟨members, hmembers, hbase⟩ := Settings.ofDocument?_eq_some_iff.mp hdocument
        rw [hload] at hs
        exact ⟨members, base, .file hfile htext hmembers, hbase, Except.ok.inj hs⟩
  · rintro ⟨members, base, hproject, hbase, rfl⟩
    cases hproject with
    | none hfile =>
      obtain rfl : {} = base := Option.some.inj hbase
      exact settingsFor_of_none hfile
    | file hfile htext hmembers =>
      have hload := load_eq_ok_iff.mpr ⟨_, htext, Settings.ofDocument?_eq_some_iff.mpr ⟨_, hmembers, hbase⟩⟩
      rw [settingsFor_of_some hfile, hload]
      rfl

theorem settingsFor_eq_error_iff : c.settingsFor h d file = .error e ↔
    ∃ p, c.fileFor h d file = some p ∧ load h d p = .error e := by
  cases hfile : c.fileFor h d file with
  | none => simp [settingsFor_of_none hfile]
  | some p =>
    rw [settingsFor_of_some hfile]
    cases hload : load h d p <;> simp [Except.map, hload]

/-- Each setting of a file has the value that the command line gives it, or else the one that the project file gives
it, or else its default. There are none exactly where a project file applies that cannot be read, or cannot be decoded.
The overrides of the command line are the same, laid over settings once or twice. -/
theorem settingsFor_layered (c : Config) (h : Host) (d : Disk) (file : Path) :
    (∀ s, c.settingsFor h d file = .ok s ↔ ∃ members, c.Project h d file members ∧ Settings.Decodes members ∧
      ∀ k : Key, k.value s = (c.given? k).getD ((Value.member? k.name members).getD (k.value {}))) ∧
    (∀ e, c.settingsFor h d file = .error e ↔ ∃ p, c.fileFor h d file = some p ∧
      ((∃ fault, d.readText h.cwd p = .error fault ∧ e = .unreadable p fault) ∨
        ∃ text, d.readText h.cwd p = .ok text ∧ e = .malformed p ∧
          ∀ members, Toml.document? text = some (.record members) → ¬ Settings.Decodes members)) ∧
    ∀ s, c.overrides.apply (c.overrides.apply s) = c.overrides.apply s := by
  refine ⟨fun s => ?_, fun e => ?_, c.overrides.apply_apply⟩
  · rw [settingsFor_eq_ok_iff]
    constructor
    · rintro ⟨members, base, hproject, hbase, rfl⟩
      refine ⟨members, hproject, Settings.decodes_iff.mpr ⟨base, hbase⟩, fun k => ?_⟩
      rw [value_overridden, Settings.ofValue?_record_iff.mp hbase]
    · rintro ⟨members, hproject, hdecodes, hvalues⟩
      obtain ⟨base, hbase⟩ := Settings.decodes_iff.mp hdecodes
      refine ⟨members, base, hproject, hbase, Settings.eq_of_value fun k => ?_⟩
      rw [hvalues, value_overridden, Settings.ofValue?_record_iff.mp hbase]
  · rw [settingsFor_eq_error_iff]
    simp only [load_eq_error_iff, Settings.ofDocument?_eq_none_iff]

/-! ### A command line that names a project file -/

/-- A command line that names a project file, asks for coverage, and gives build tags and a Go root. -/
def explicit : Config :=
  ⟨some "/c.toml".toList, some "/opt/go".toList, { cover := true, buildTags := some "race".toList }, "info".toList⟩

/-- The project file. -/
def explicitText : Text :=
  "vetOnSave = false\nlintTool = 'revive'\nbuildTags = 'e2e'\ngoRoot = '/usr/go'\n".toList

/-- A disk with this file. -/
def explicitDisk : Disk where
  node? place :=
    if place = [] then some .directory
    else if place = ["c.toml".toList] then some (.file (Utf8.encode explicitText) false)
    else none

/-- A machine with nothing of its own. -/
def bareHost : Host := ⟨{ temp := "/tmp".toList }, [], fun _ _ _ => {}⟩

/-- The file switches vetting off and names the linter. Its build tags and its Go root give way to those of the command
line, which switches coverage on, and all else is as by default. -/
theorem settingsFor_layered_explicit : explicit.settingsFor bareHost explicitDisk "/p/a.go".toList = .ok {
    vetOnSave := false
    lintTool := some "revive".toList
    buildTags := "race".toList
    coverOnSave := true
    goRoot := some "/opt/go".toList } := by
  let project : Settings := {
    vetOnSave := false
    lintTool := some "revive".toList
    buildTags := "e2e".toList
    goRoot := some "/usr/go".toList }
  have hread : explicitDisk.readText [] "/c.toml".toList = .ok explicitText := by decide +kernel
  have hdocument : Settings.ofDocument? explicitText = some project := by decide +kernel
  obtain ⟨members, hmembers, hproject⟩ := Settings.ofDocument?_eq_some_iff.mp hdocument
  refine ((settingsFor_layered explicit bareHost explicitDisk "/p/a.go".toList).1 _).mpr
    ⟨members, .file rfl hread hmembers, Settings.decodes_iff.mpr ⟨project, hproject⟩, fun k => ?_⟩
  rw [← Settings.ofValue?_record_iff.mp hproject k]
  cases k <;> rfl

end Config

end SaveCheck
