import SaveCheck.Editor.Session
import SaveCheck.Proofs.Grouping
import SaveCheck.Proofs.Utf8

/-!
The URL of a file stands for the file, and tells it from every other one.

    /proj/sp ace.go  ── ofPath? ──▶  file:///proj/sp%20ace.go  ── fileBytes? ──▶  the bytes of /proj/sp ace.go

So the marks of a check reach the editor under one URL for each of their files.
-/

namespace SaveCheck.Url

/-! ### Escapes -/

theorem hexValue?_hexDigit (n : Nat) : Numeral.hexValue? (Numeral.hexDigit n).toUpper = some (n % 16) := by
  have hall : ∀ k < 16, Numeral.hexValue? (Nat.digitChar k).toUpper = some k := by decide
  exact hall (n % 16) (Nat.mod_lt n (by decide))

theorem unescape_escapeByte (b : UInt8) (r : Text) : unescape (escapeByte b ++ r) = b :: unescape r := by
  have hbyte : (16 * (b.toNat / 16 % 16) + b.toNat % 16).toUInt8 = b := by
    have hb := b.toNat_lt
    rw [show 16 * (b.toNat / 16 % 16) + b.toNat % 16 = b.toNat by omega]
    simp
  rw [escapeByte, List.cons_append, List.cons_append, List.singleton_append, unescape, hexValue?_hexDigit,
    hexValue?_hexDigit]
  exact congrArg (· :: unescape r) hbyte

theorem unescape_escapeBytes (bs : Bytes) (r : Text) :
    unescape (bs.flatMap escapeByte ++ r) = bs ++ unescape r := by
  induction bs with
  | nil => rfl
  | cons b bs ih => rw [List.flatMap_cons, List.append_assoc, unescape_escapeByte, ih, List.cons_append]

theorem unescape_cons {c : Char} (hc : c ≠ '%') (r : Text) :
    unescape (c :: r) = Utf8.encodeChar c ++ unescape r := by
  rw [unescape]
  rintro a b s rfl
  exact absurd rfl hc

/-- Escapes are resolved to what was escaped, where the mark of an escape is escaped itself. -/
theorem unescape_escape {p : Char → Bool} (hp : p '%' = true) (t r : Text) :
    unescape (escape p t ++ r) = Utf8.encode t ++ unescape r := by
  induction t with
  | nil => rfl
  | cons c t ih =>
    rw [escape, List.flatMap_cons, ← escape, Utf8.encode, List.flatMap_cons, ← Utf8.encode, List.append_assoc,
      List.append_assoc]
    split
    · rw [unescape_escapeBytes, ih]
    · next hc =>
      have hmark : c ≠ '%' := by
        rintro rfl
        exact hc hp
      rw [List.singleton_append, unescape_cons hmark, ih]

/-! ### Names -/

/-- The path of a URL made from names stands for these names. -/
theorem unescape_joinPieces (names : List Text) :
    unescape (Path.joinPieces (names.map (escape isNameEscaped))) = Utf8.encode (Path.joinPieces names) := by
  have hmark : isNameEscaped '%' = true := by decide
  induction names with
  | nil => rfl
  | cons n names ih =>
    rcases eq_or_ne names [] with rfl | hnames
    · have hone := unescape_escape hmark n []
      simpa [Path.joinPieces, unescape] using hone
    · rw [List.map_cons, Path.joinPieces_cons (by simpa using hnames), Path.joinPieces_cons hnames,
        unescape_escape hmark, unescape_cons (by decide), ih, Utf8.encode_append]
      rfl

theorem text_step (q : Text) : (Path.step q).text = q := by
  rw [Path.step]
  split
  · next h => exact h.symm
  · rfl

theorem namesOf_eq {p : Path} (habs : Path.isAbsolute p = true) :
    namesOf p = (Path.pieces p).tail.filter (! Path.isVoid ·) := by
  have htext : (Path.Component.text ∘ Path.step) = id := funext text_step
  rw [namesOf, Path.components, Path.split, if_pos habs]
  simp [Path.steps, htext]

/-- The names of a path are no voids, and have no slash in them. -/
theorem mem_namesOf {p : Path} (habs : Path.isAbsolute p = true) {n : Text} (hn : n ∈ namesOf p) :
    Path.isVoid n = false ∧ '/' ∉ n := by
  rw [namesOf_eq habs, List.mem_filter] at hn
  exact ⟨by simpa using hn.2, Path.not_mem_of_mem_pieces (List.mem_of_mem_tail hn.1)⟩

/-- Two paths from the root have the same components where they have the same names. -/
theorem components_eq_of_namesOf {p q : Path} (hp : Path.isAbsolute p = true) (hq : Path.isAbsolute q = true)
    (h : namesOf p = namesOf q) : Path.components p = Path.components q := by
  rw [namesOf_eq hp, namesOf_eq hq] at h
  simp only [Path.components, Path.split, hp, hq, if_true, Path.steps, h]

theorem joinPieces_inj {ms ns : List Text} (hms : ∀ n ∈ ms, Path.isVoid n = false ∧ '/' ∉ n)
    (hns : ∀ n ∈ ns, Path.isVoid n = false ∧ '/' ∉ n) (h : Path.joinPieces ms = Path.joinPieces ns) :
    ms = ns := by
  have hblank : ∀ {ks : List Text}, (∀ n ∈ ks, Path.isVoid n = false ∧ '/' ∉ n) →
      Path.joinPieces ks = [] → ks = [] := by
    intro ks hks hnil
    by_contra hne
    have hpieces := Path.pieces_joinPieces hne fun n hn => (hks n hn).2
    rw [hnil] at hpieces
    exact absurd (hks [] (by rw [← hpieces]; exact List.mem_singleton_self _)).1 (by decide)
  rcases eq_or_ne ms [] with rfl | hm
  · exact (hblank hns h.symm).symm
  rcases eq_or_ne ns [] with rfl | hn
  · exact hblank hms h
  rw [← Path.pieces_joinPieces hm fun n hn => (hms n hn).2, h,
    Path.pieces_joinPieces hn fun n hn => (hns n hn).2]

/-! ### Files -/

theorem ofPath?_eq_some {p : Path} {u : Url} (h : ofPath? p = some u) : Path.isAbsolute p = true ∧
    u = ⟨fileScheme, some ⟨.nowhere, []⟩,
      '/' :: Path.joinPieces ((namesOf p).map (escape isNameEscaped)), []⟩ := by
  rw [ofPath?] at h
  split at h
  · next habs => exact ⟨habs, (Option.some.inj h).symm⟩
  · cases h

theorem exists_ofPath? {p : Path} (habs : Path.isAbsolute p = true) : ∃ u, ofPath? p = some u := by
  rw [ofPath?, if_pos habs]
  exact ⟨_, rfl⟩

/-- The URL of a file stands for the path that the file's names spell. -/
theorem fileBytes?_ofPath? {p : Path} {u : Url} (h : ofPath? p = some u) :
    u.fileBytes? = some (Utf8.encode ('/' :: Path.joinPieces (namesOf p))) := by
  obtain ⟨-, rfl⟩ := ofPath?_eq_some h
  have hunescape := unescape_cons (c := '/') (by decide)
    (Path.joinPieces ((namesOf p).map (escape isNameEscaped)))
  rw [unescape_joinPieces] at hunescape
  exact congrArg some hunescape

/-- Where all pieces after the root are names, the URL stands for the path itself. -/
theorem fileBytes?_ofPath?_of_names {p : Path} {u : Url} (h : ofPath? p = some u)
    (hnames : ∀ q ∈ (Path.pieces p).tail, Path.isVoid q = false) : u.fileBytes? = some (Utf8.encode p) := by
  have habs := (ofPath?_eq_some h).1
  rw [fileBytes?_ofPath? h, namesOf_eq habs, List.filter_eq_self.mpr fun r hr => by simp [hnames r hr]]
  obtain ⟨q, rfl, hpieces⟩ := Path.pieces_of_isAbsolute habs
  rw [hpieces, List.tail_cons, Path.joinPieces_pieces]

/-- Level paths alone share a URL. -/
theorem components_eq_of_write {p q : Path} {u v : Url} (hu : ofPath? p = some u) (hv : ofPath? q = some v)
    (h : u.write = v.write) : Path.components p = Path.components q := by
  have hbytes : u.fileBytes? = v.fileBytes? := by
    obtain ⟨-, rfl⟩ := ofPath?_eq_some hu
    obtain ⟨-, rfl⟩ := ofPath?_eq_some hv
    have hpath : Path.joinPieces ((namesOf p).map (escape isNameEscaped)) =
        Path.joinPieces ((namesOf q).map (escape isNameEscaped)) := by
      simpa [write, front] using h
    rw [hpath]
  have hp := (ofPath?_eq_some hu).1
  have hq := (ofPath?_eq_some hv).1
  rw [fileBytes?_ofPath? hu, fileBytes?_ofPath? hv] at hbytes
  have hjoined := (List.cons.inj (Utf8.encode_injective (Option.some.inj hbytes))).2
  exact components_eq_of_namesOf hp hq
    (joinPieces_inj (fun _ => mem_namesOf hp) (fun _ => mem_namesOf hq) hjoined)

end SaveCheck.Url

namespace SaveCheck.Editor.Session

/-! ### The files of a check -/

/-- No two files of a check are published under one URL. -/
theorem nodup_marksByUrl (ds : List Diagnostic) : ((marksByUrl (groupByFile ds)).map (·.1)).Nodup := by
  rw [List.Nodup, List.pairwise_map, marksByUrl, List.pairwise_filterMap]
  refine (ascending_groupByFile ds).imp fun {a b} hlt m hm n hn hmn => ?_
  obtain ⟨u, hu, rfl⟩ := Option.map_eq_some_iff.mp hm
  obtain ⟨v, hv, rfl⟩ := Option.map_eq_some_iff.mp hn
  have hlevel := Path.order_eq_iff.mpr (Url.components_eq_of_write hu hv hmn)
  rw [hlevel] at hlt
  cases hlt

/-- The marks of a file and what is published of them. -/
def UnderUrl (group message : Path × List Marker) : Prop :=
  ∃ u, Url.ofPath? group.1 = some u ∧ message = (u.write, group.2)

/-- Every file of a check is published where the paths of the diagnostics start at the root. -/
theorem marksByUrl_complete {ds : List Diagnostic} (habs : ∀ d ∈ ds, Path.isAbsolute d.file = true) :
    List.Forall₂ UnderUrl (groupByFile ds) (marksByUrl (groupByFile ds)) := by
  have hgroups : ∀ g ∈ groupByFile ds, ∃ u, Url.ofPath? g.1 = some u := by
    intro g hg
    obtain ⟨d, hd, hfile⟩ := exists_of_mem_groupByFile ds g hg
    exact Url.exists_ofPath? (hfile ▸ habs d hd)
  revert hgroups
  generalize groupByFile ds = groups
  intro hgroups
  induction groups with
  | nil => exact .nil
  | cons g groups ih =>
    obtain ⟨u, hu⟩ := hgroups g List.mem_cons_self
    have hcons : marksByUrl (g :: groups) = (u.write, g.2) :: marksByUrl groups := by
      simp [marksByUrl, hu]
    rw [hcons]
    exact .cons ⟨u, hu, rfl⟩ (ih fun g' hg' => hgroups g' (List.mem_cons_of_mem _ hg'))

end SaveCheck.Editor.Session
