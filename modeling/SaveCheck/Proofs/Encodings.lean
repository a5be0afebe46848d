import Mathlib.Data.List.Nodup
import SaveCheck.Proofs.TomlWriting
import SaveCheck.Settings.Reading

/-!
The records that tell settings, and the ways they reach the program.

    buildTags = netgo, the rest standard
      ──▶   from an editor    {"colour": 7, "lintTool": null, "buildTags": "netgo"}
      ──▶   under a name      {"go": {"buildTags": "netgo", "colour": 7}}
      ──▶   from a document   colour = 7⏎ buildTags = "netgo"⏎

A setting that has its default may be left out, what has another name counts for nothing, and neither
does the order. All of them are read as the settings that they tell.
-/

namespace SaveCheck

namespace Value

/-- Whether a value is null, for which a document has no text. -/
def isNull : Value → Bool
  | .null => true
  | _ => false

theorem texts?_map (ts : List Text) : texts? (.list (ts.map .text)) = some ts := by
  rw [texts?]
  induction ts with
  | nil => rfl
  | cons t ts ih => rw [List.map_cons, List.mapM_cons, ih]; rfl

theorem mem_of_member? {name : Text} {v : Value} : ∀ {members : List (Text × Value)},
    member? name members = some v → (name, v) ∈ members
  | (k, w) :: members, h => by
    rw [member?] at h
    split at h
    · next hk =>
      rw [hk, Option.some.inj h]
      exact List.mem_cons_self
    · exact List.mem_cons_of_mem _ (mem_of_member? h)

theorem member?_eq_none_iff {name : Text} : ∀ {members : List (Text × Value)},
    member? name members = none ↔ name ∉ members.map Prod.fst
  | [] => by simp [member?]
  | (k, w) :: members => by
    rw [member?, List.map_cons, List.mem_cons, not_or, ← member?_eq_none_iff]
    split
    · next hk => simp [hk]
    · next hk => simp [Ne.symm hk]

/-- Where names are distinct, each member is found by its name. -/
theorem member?_of_mem {name : Text} {v : Value} : ∀ {members : List (Text × Value)},
    (members.map Prod.fst).Nodup → (name, v) ∈ members → member? name members = some v
  | (k, w) :: members, hnames, hmem => by
    rw [List.map_cons, List.nodup_cons] at hnames
    rcases List.mem_cons.mp hmem with heq | hmem
    · cases heq
      exact if_pos rfl
    · have hne : k ≠ name := by
        rintro rfl
        exact hnames.1 (List.mem_map.mpr ⟨(k, v), hmem, rfl⟩)
      rw [member?, if_neg hne, member?_of_mem hnames.2 hmem]

end Value

namespace Settings

/-- A text, or null for none. -/
def orNull : Option Text → Value
  | none => .null
  | some t => .text t

/-- The value of a setting. -/
def Key.value (s : Settings) : Key → Value
  | .buildOnSave => .flag s.buildOnSave
  | .buildFlags => .list (s.buildFlags.map .text)
  | .buildTags => .text s.buildTags
  | .lintOnSave => .flag s.lintOnSave
  | .lintTool => orNull s.lintTool
  | .lintFlags => .list (s.lintFlags.map .text)
  | .vetOnSave => .flag s.vetOnSave
  | .vetFlags => .list (s.vetFlags.map .text)
  | .coverOnSave => .flag s.coverOnSave
  | .goRoot => orNull s.goRoot
  | .goPath => orNull s.goPath

/-- The members that tell some of the settings. -/
def members (s : Settings) (told : List Key) : List (Text × Value) := told.map fun k => (k.name, k.value s)

/-- The members that a document can have. -/
def nonNull (members : List (Text × Value)) : List (Text × Value) := members.filter (! ·.2.isNull)

/-- A record tells settings if each one has its value there, or is left out and has its default. -/
structure Tells (members : List (Text × Value)) (s : Settings) : Prop where
  given : ∀ (k : Key) v, Value.member? k.name members = some v → v = k.value s
  left : ∀ k : Key, Value.member? k.name members = none → k.value s = k.value {}

/-! ### Reading what is told -/

theorem optionalText?_orNull (t : Option Text) : Value.optionalText? (orNull t) = some t := by
  cases t <;> rfl

/-- A setting is read from its value where it is told, and is its default where it is left out. -/
theorem readOr_of_tells {members : List (Text × Value)} {s : Settings} (h : Tells members s) (k : Key)
    (read : Value → Option α) (field : Settings → α) (hread : ∀ s, read (k.value s) = some (field s)) :
    readOr (field {}) read (Value.member? k.name members) = some (field s) := by
  cases hv : Value.member? k.name members with
  | none => rw [readOr, ← hread, ← h.left k hv, hread]
  | some v => rw [readOr, h.given k v hv, hread]

/-- The settings that a record tells are read from it. -/
theorem ofValue?_of_tells {members : List (Text × Value)} {s : Settings} (h : Tells members s) :
    ofValue? (.record members) = some s := by
  have hflag (k : Key) (field : Settings → Bool) (hvalue : ∀ s, k.value s = .flag (field s)) :=
    readOr_of_tells h k Value.flag? field fun s => by rw [hvalue]; rfl
  have htexts (k : Key) (field : Settings → List Text)
      (hvalue : ∀ s, k.value s = .list ((field s).map .text)) :=
    readOr_of_tells h k Value.texts? field fun s => by rw [hvalue]; exact Value.texts?_map (field s)
  have hoptional (k : Key) (field : Settings → Option Text) (hvalue : ∀ s, k.value s = orNull (field s)) :=
    readOr_of_tells h k Value.optionalText? field fun s => by
      rw [hvalue]; exact optionalText?_orNull (field s)
  have htags := readOr_of_tells h .buildTags Value.text? Settings.buildTags fun _ => rfl
  rw [ofValue?, ofGiven?, hflag .buildOnSave Settings.buildOnSave fun _ => rfl,
    htexts .buildFlags Settings.buildFlags fun _ => rfl, htags,
    hflag .lintOnSave Settings.lintOnSave fun _ => rfl, hoptional .lintTool Settings.lintTool fun _ => rfl,
    htexts .lintFlags Settings.lintFlags fun _ => rfl, hflag .vetOnSave Settings.vetOnSave fun _ => rfl,
    htexts .vetFlags Settings.vetFlags fun _ => rfl, hflag .coverOnSave Settings.coverOnSave fun _ => rfl,
    hoptional .goRoot Settings.goRoot fun _ => rfl, hoptional .goPath Settings.goPath fun _ => rfl]
  rfl

/-! ### Records that tell settings -/

theorem Key.mem_all (k : Key) : k ∈ all := by
  cases k <;> decide

theorem Key.name_inj {k l : Key} (h : k.name = l.name) : k = l := by
  have hall : ∀ k ∈ all, ∀ l ∈ all, k.name = l.name → k = l := by decide
  exact hall k k.mem_all l l.mem_all h

/-- Members encode settings: some of the settings by name, where the rest have their defaults, and other
members, in any order. -/
structure Encodes (s : Settings) (told : List Key) (other members : List (Text × Value)) : Prop where
  order : members.Perm (s.members told ++ other)
  keys : told.Nodup
  left : ∀ k : Key, k ∉ told → k.value s = k.value {}
  names : (other.map Prod.fst).Nodup
  foreign : ∀ m ∈ other, m.1 ≠ "go".toList ∧ ∀ k : Key, m.1 ≠ k.name

variable {s : Settings} {told : List Key} {other members : List (Text × Value)}

theorem map_fst_members (s : Settings) (told : List Key) :
    (s.members told).map Prod.fst = told.map Key.name := by
  rw [Settings.members, List.map_map]
  rfl

theorem Encodes.nodup (h : Encodes s told other members) : (members.map Prod.fst).Nodup := by
  have hkeys : (told.map Key.name).Nodup := h.keys.map fun _ _ => Key.name_inj
  rw [(h.order.map Prod.fst).nodup_iff, List.map_append, map_fst_members]
  refine List.nodup_append.mpr ⟨hkeys, h.names, ?_⟩
  rintro name hname _ hother rfl
  obtain ⟨k, -, rfl⟩ := List.mem_map.mp hname
  obtain ⟨m, hm, heq⟩ := List.mem_map.mp hother
  exact (h.foreign m hm).2 k heq

theorem Encodes.mem_iff (h : Encodes s told other members) {m : Text × Value} :
    m ∈ members ↔ (∃ k ∈ told, (k.name, k.value s) = m) ∨ m ∈ other := by
  rw [h.order.mem_iff, List.mem_append, Settings.members, List.mem_map]

theorem Encodes.tells (h : Encodes s told other members) : Tells members s where
  given k v hv := by
    rcases h.mem_iff.mp (Value.mem_of_member? hv) with ⟨l, -, hl⟩ | hother
    · obtain ⟨hname, rfl⟩ := Prod.mk.inj hl
      rw [Key.name_inj hname]
    · exact absurd rfl ((h.foreign _ hother).2 k)
  left k hk := by
    refine h.left k fun htold => Value.member?_eq_none_iff.mp hk ?_
    exact List.mem_map.mpr ⟨(k.name, k.value s), h.mem_iff.mpr (.inl ⟨k, htold, rfl⟩), rfl⟩

theorem Encodes.member?_go (h : Encodes s told other members) : Value.member? "go".toList members = none := by
  have hkeys : ∀ k ∈ Key.all, k.name ≠ "go".toList := by decide
  rw [Value.member?_eq_none_iff]
  intro hmem
  obtain ⟨m, hm, hgo⟩ := List.mem_map.mp hmem
  rcases h.mem_iff.mp hm with ⟨k, -, rfl⟩ | hother
  · exact hkeys k k.mem_all hgo
  · exact (h.foreign m hother).1 hgo

/-! ### What a document can have of them -/

/-- A setting without a value has its default. -/
theorem Key.value_of_isNull {k : Key} (h : (k.value s).isNull = true) : k.value s = k.value {} := by
  have horNull : ∀ t, (orNull t).isNull = true → orNull t = orNull none := by
    rintro (_ | t) ht
    · rfl
    · cases ht
  cases k with
  | lintTool => exact horNull _ h
  | goRoot => exact horNull _ h
  | goPath => exact horNull _ h
  | _ => cases h

theorem writable_value {k : Key} (h : (k.value s).isNull = false) (depth : Nat) :
    Toml.Writable (depth + 1) (k.value s) := by
  have htexts : ∀ ts : List Text, Toml.Writable (depth + 1) (.list (ts.map .text)) := by
    refine fun ts => .list ?_
    intro v hv
    obtain ⟨t, -, rfl⟩ := List.mem_map.mp hv
    exact .text t
  have hoptional : ∀ t, (orNull t).isNull = false → Toml.Writable (depth + 1) (orNull t) := by
    rintro (_ | t) ht
    · cases ht
    · exact .text t
  cases k with
  | buildOnSave | lintOnSave | vetOnSave | coverOnSave => exact .flag _
  | buildFlags | lintFlags | vetFlags => exact htexts _
  | buildTags => exact .text _
  | lintTool | goRoot | goPath => exact hoptional _ h

/-- Without the members that are null, the same settings are told. -/
theorem Encodes.nonNull (h : Encodes s told other members) :
    Encodes s (told.filter fun k => ! (k.value s).isNull) (nonNull other) (nonNull members) where
  order := by
    have hfilter := h.order.filter fun m => ! m.2.isNull
    rw [List.filter_append, Settings.members, List.filter_map] at hfilter
    exact hfilter
  keys := h.keys.filter _
  left k hk := by
    rw [List.mem_filter, not_and_or] at hk
    rcases hk with htold | hnull
    · exact h.left k htold
    · exact Key.value_of_isNull (by simpa using hnull)
  names := h.names.sublist (List.filter_sublist.map Prod.fst)
  foreign m hm := h.foreign m (List.mem_filter.mp hm).1

/-- However a record reaches the program, the settings are read that it encodes: from an editor, bare or
under a name, and without its nulls from any document that describes it, as the one written for it does. -/
theorem encodings_agree (h : Encodes s told other members) :
    ofEditor? (.record members) = some s ∧
    (∀ outer : List (Text × Value), (outer.map Prod.fst).Nodup → ("go".toList, .record members) ∈ outer →
      ofEditor? (.record outer) = some s) ∧
    (∀ t described, described.Perm (nonNull members) → Toml.document? t = some (.record described) →
      ofDocument? t = some s) ∧
    ((∀ m ∈ other, m.2.isNull = false → Toml.Writable Toml.depthLimit m.2) →
      ofDocument? (Toml.writeDocument (nonNull members)) = some s) := by
  have hdocument : ∀ t described, described.Perm (nonNull members) →
      Toml.document? t = some (.record described) → ofDocument? t = some s := by
    intro t described horder ht
    have hencodes := { h.nonNull with order := horder.trans h.nonNull.order }
    rw [ofDocument?, ht]
    exact ofValue?_of_tells hencodes.tells
  refine ⟨?_, ?_, hdocument, ?_⟩
  · rw [ofEditor?, Value.get?, h.member?_go]
    exact ofValue?_of_tells h.tells
  · intro outer hnames hmem
    rw [ofEditor?, Value.get?, Value.member?_of_mem hnames hmem]
    exact ofValue?_of_tells h.tells
  · intro hwritable
    refine hdocument _ _ (.refl _) (Toml.document?_write h.nonNull.nodup fun m hm => ?_)
    obtain ⟨hmem, hvalue⟩ := List.mem_filter.mp hm
    have hnull : m.2.isNull = false := by simpa using hvalue
    rcases h.mem_iff.mp hmem with ⟨k, -, rfl⟩ | hother
    · exact writable_value hnull _
    · exact hwritable m hother hnull

/-- Settings with characters that have to be escaped. -/
def oddSettings : Settings := {
  buildFlags := ["-race".toList, "-tags=\"a b\"".toList]
  buildTags := "net\tgo\\\x7f".toList
  lintOnSave := false
  goRoot := some "/opt/\ngo".toList }

/-- Members that tell no setting. -/
def oddOther : List (Text × Value) :=
  [("a \"b\"".toList, .record [("on".toList, .date "1979-05-27 07:32:00".toList), ([], .text [])]),
    ("absent".toList, .null), ("golint".toList, .list [.number "-1_0.5e3".toList, .flag true])]

/-- Some of `oddSettings`, among them what has its default. -/
def oddTold : List Key := [.goRoot, .buildFlags, .lintTool, .coverOnSave, .buildTags, .lintOnSave]

/-- All these members. -/
def oddMembers : List (Text × Value) := oddOther ++ oddSettings.members oddTold

/-- The document of `oddMembers`, line by line. -/
def oddDocument : Text :=
  ["\"a \\\"b\\\"\" = \x7bon = 1979-05-27 07:32:00, \"\" = \"\"\x7d",
    "golint = [-1_0.5e3, true]",
    "goRoot = \"/opt/\\ngo\"",
    "buildFlags = [\"-race\", \"-tags=\\\"a b\\\"\"]",
    "coverOnSave = false",
    "buildTags = \"net\\tgo\\\\\\u007f\"",
    "lintOnSave = false"].flatMap fun line => line.toList ++ ['\n']

theorem encodings_agree_odd :
    ofEditor? (.record oddMembers) = some oddSettings ∧
    ofEditor? (.record [("buildTags".toList, .null), ("go".toList, .record oddMembers)]) = some oddSettings ∧
    Toml.writeDocument (nonNull oddMembers) = oddDocument ∧ ofDocument? oddDocument = some oddSettings := by
  have hforeign : ∀ name ∈ oddOther.map Prod.fst, name ≠ "go".toList ∧ ∀ k ∈ Key.all, name ≠ k.name := by
    decide
  have hencodes : Encodes oddSettings oddTold oddOther oddMembers := {
    order := List.perm_append_comm
    keys := by decide
    left := by
      intro k hk
      cases k with
      | buildFlags | buildTags | lintOnSave | goRoot => exact absurd (by decide) hk
      | _ => rfl
    names := by decide
    foreign := by
      intro m hm
      obtain ⟨hgo, hkeys⟩ := hforeign m.1 (List.mem_map_of_mem hm)
      exact ⟨hgo, fun k => hkeys k k.mem_all⟩ }
  have hwritable : ∀ m ∈ oddOther, m.2.isNull = false → Toml.Writable Toml.depthLimit m.2 := by
    refine List.forall_mem_cons.mpr ⟨fun _ => .record (by decide) ?_, List.forall_mem_cons.mpr ⟨nofun, ?_⟩⟩
    · simpa using ⟨.date rfl, .text []⟩
    · simpa using fun _ => .list (by simpa using ⟨.number rfl, .flag true⟩)
  have hwritten : Toml.writeDocument (nonNull oddMembers) = oddDocument := by decide +kernel
  obtain ⟨heditor, hunder, -, hdocument⟩ := encodings_agree hencodes
  refine ⟨heditor, hunder _ (by decide) (List.mem_cons_of_mem _ List.mem_cons_self), hwritten, ?_⟩
  rw [← hwritten]
  exact hdocument hwritable

end Settings

end SaveCheck
