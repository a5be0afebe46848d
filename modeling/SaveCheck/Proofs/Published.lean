import Mathlib.Data.List.Induction
import SaveCheck.Editor.Session
import SaveCheck.Proofs.TextOrder

/-!
What an editor shows after any run of saves.

    save a [x, y]   sent: x ●  y ●          a claims x, y
    save b [y]      sent: y ●               b claims y
    save a []       sent: x ○               y is still claimed by b

The marks of a file are those that were sent for it last. A file shows marks exactly while the latest
save of some document found some there: nothing is cleared too early, and nothing is left over.
-/

namespace SaveCheck.Editor
open Std

namespace Published

/-! ### Ascending lists -/

theorem mem_insert (t u : Text) : ∀ ts : List Text, u ∈ insert t ts ↔ u = t ∨ u ∈ ts
  | [] => by simp [insert]
  | s :: rest => by
    rw [insert]
    split
    · simp
    · next h => simp [LawfulEqCmp.eq_of_compare h]
    · rw [List.mem_cons, mem_insert t u rest, List.mem_cons]; tauto

theorem mem_sorted (u : Text) : ∀ ts : List Text, u ∈ sorted ts ↔ u ∈ ts
  | [] => by simp [sorted]
  | t :: ts => by
    show u ∈ insert t (sorted ts) ↔ _
    rw [mem_insert, mem_sorted u ts, List.mem_cons]

/-- Each text comes strictly before all that follow it. -/
def Ascending (ts : List Text) : Prop := ts.Pairwise (Text.order · · = .lt)

theorem ascending_insert (t : Text) : ∀ {ts : List Text}, Ascending ts → Ascending (insert t ts)
  | [], _ => List.pairwise_singleton _ _
  | s :: rest, h => by
    obtain ⟨hs, hrest⟩ := List.pairwise_cons.mp h
    rw [insert]
    split
    · next hts =>
      refine List.pairwise_cons.mpr ⟨?_, h⟩
      intro u hu
      rcases List.mem_cons.mp hu with rfl | hu
      · exact hts
      · exact TransCmp.lt_trans hts (hs u hu)
    · exact h
    · next hts =>
      refine List.pairwise_cons.mpr ⟨?_, ascending_insert t hrest⟩
      intro u hu
      rcases (mem_insert t u rest).mp hu with rfl | hu
      · exact OrientedCmp.lt_of_gt hts
      · exact hs u hu

theorem ascending_sorted : ∀ ts : List Text, Ascending (sorted ts)
  | [] => List.Pairwise.nil
  | t :: ts => ascending_insert t (ascending_sorted ts)

/-! ### Claims -/

/-- Each document stands in the claims once. -/
def Distinct (p : Published) : Prop := (p.claims.map (·.1)).Nodup

theorem distinct_claim {p : Published} (saved : Text) (current : List Text) (h : p.Distinct) :
    (p.claim saved current).Distinct := by
  refine List.nodup_cons.mpr ⟨?_, ?_⟩
  · simp
  · exact h.sublist (List.filter_sublist.map _)

/-- Recording a check changes the claims of its own document only. -/
theorem claimsOf_claim (p : Published) (saved doc : Text) (current : List Text) :
    (p.claim saved current).claimsOf doc = if doc = saved then current else p.claimsOf doc := by
  obtain ⟨claims⟩ := p
  simp only [claim, claimsOf, List.lookup_cons]
  split
  · next h => rw [if_pos (eq_of_beq h)]; rfl
  · next h =>
    rw [if_neg (ne_of_beq_false (by simpa using h))]
    congr 1
    induction claims with
    | nil => rfl
    | cons c cs ih =>
      by_cases hc : c.1 = saved
      · rw [List.filter_cons_of_neg (by simpa using hc), ih, List.lookup_cons, hc]
        simp [h]
      · rw [List.filter_cons_of_pos (by simpa using hc), List.lookup_cons, List.lookup_cons, ih]

theorem isClaimed_iff {p : Published} (h : p.Distinct) (file : Text) :
    p.isClaimed file = true ↔ ∃ doc, file ∈ p.claimsOf doc := by
  rw [isClaimed, List.any_eq_true]
  constructor
  · rintro ⟨⟨doc, files⟩, hmem, hfile⟩
    obtain ⟨front, back, hsplit⟩ := List.append_of_mem hmem
    have hlookup : p.claims.lookup doc = some files := by
      refine List.lookup_eq_some_iff.mpr ⟨front, back, hsplit, ?_⟩
      intro c hc
      rw [Distinct, hsplit, List.map_append, List.map_cons] at h
      have hne := (List.nodup_append.mp h).2.2 c.1 (List.mem_map_of_mem hc) doc (by simp)
      simpa using hne.symm
    refine ⟨doc, ?_⟩
    rw [claimsOf, hlookup]
    simpa using hfile
  · rintro ⟨doc, hfile⟩
    rw [claimsOf] at hfile
    cases hlookup : p.claims.lookup doc with
    | none => simp [hlookup] at hfile
    | some files =>
      obtain ⟨front, back, hsplit, -⟩ := List.lookup_eq_some_iff.mp hlookup
      refine ⟨(doc, files), by simp [hsplit], ?_⟩
      simpa [hlookup] using hfile

/-- The stale files of a record: those that only the document's own last check had claimed. -/
theorem mem_record_iff {p : Published} (h : p.Distinct) (saved : Text) (current : List Text)
    (file : Text) :
    file ∈ (p.record saved current).2 ↔
      file ∈ p.claimsOf saved ∧ file ∉ current ∧ ∀ doc, doc ≠ saved → file ∉ p.claimsOf doc := by
  have hclaimed := isClaimed_iff (distinct_claim saved current h) file
  simp only [claimsOf_claim] at hclaimed
  simp only [record, mem_sorted, List.mem_filter, Bool.not_eq_true', ← Bool.not_eq_true, hclaimed]
  refine and_congr_right fun _ => ?_
  constructor
  · intro hnone
    refine ⟨fun hc => hnone ⟨saved, by rwa [if_pos rfl]⟩, ?_⟩
    intro doc hdoc hfile
    exact hnone ⟨doc, by rwa [if_neg hdoc]⟩
  · rintro ⟨hcur, hrest⟩ ⟨doc, hdoc⟩
    split at hdoc
    · exact hcur hdoc
    · next hne => exact hrest doc hne hdoc

end Published

/-! ### What a file shows -/

/-- The marks of a file once a message is through, when it showed `before`. -/
def Sent.over (url : Text) (before : List Marker) : Sent → List Marker
  | .published u marks => if u = url then marks else before
  | _ => before

/-- The marks that a file shows: those that were sent for it last. -/
def shown (sent : List Sent) (url : Text) : List Marker := sent.foldl (Sent.over url) []

/-- A file shows the marks that it shows already, unless a list of its own comes in. -/
theorem foldl_over_marks (url : Text) : ∀ (marks : List (Text × List Marker)) (before : List Marker),
    url ∉ marks.map (·.1) →
      (marks.map fun (u, found) => Sent.published u found).foldl (Sent.over url) before = before
  | [], _, _ => rfl
  | (u, found) :: marks, before, h => by
    rw [List.map_cons, List.mem_cons, not_or] at h
    rw [List.map_cons, List.foldl_cons, foldl_over_marks url marks _ h.2]
    exact if_neg (Ne.symm h.1)

/-- Once a list of its own comes in, a file shows marks if all such lists hold some. -/
theorem foldl_over_marks_ne_nil (url : Text) : ∀ (marks : List (Text × List Marker))
    (before : List Marker), (∀ m ∈ marks, m.2 ≠ []) → url ∈ marks.map (·.1) →
      (marks.map fun (u, found) => Sent.published u found).foldl (Sent.over url) before ≠ []
  | (u, found) :: marks, before, hne, h => by
    rw [List.map_cons, List.foldl_cons]
    by_cases hrest : url ∈ marks.map (·.1)
    · exact foldl_over_marks_ne_nil url marks _ (fun m hm => hne m (List.mem_cons_of_mem _ hm)) hrest
    · rw [foldl_over_marks url marks _ hrest]
      have hu : u = url := by
        rcases List.mem_cons.mp h with rfl | h
        · rfl
        · exact absurd h hrest
      rw [Sent.over, if_pos hu]
      exact hne (u, found) List.mem_cons_self

theorem foldl_over_clears (url : Text) : ∀ (stale : List Text) (before : List Marker),
    (stale.map (Sent.published · [])).foldl (Sent.over url) before
      = if url ∈ stale then [] else before
  | [], _ => rfl
  | u :: stale, before => by
    rw [List.map_cons, List.foldl_cons, foldl_over_clears url stale]
    by_cases hu : u = url
    · simp [Sent.over, hu]
    · simp [Sent.over, hu, Ne.symm hu]

/-! ### Runs of saves -/

/-- A save of a document, with the marks that its check found; a file without marks is not listed. -/
structure Save where
  document : Text
  marks : List (Text × List Marker)
  found : ∀ m ∈ marks, m.2 ≠ []

namespace Save

/-- The files that the check of a save reported on. -/
def current (v : Save) : List Text := v.marks.map (·.1)

/-- Publish a save after all that was sent before it. -/
def publish (x : Published × List Sent) (v : Save) : Published × List Sent :=
  let (p, sent) := x.1.publish v.document v.marks
  (p, x.2 ++ sent)

/-- The claims after some saves, and all that was sent. -/
def run (saves : List Save) : Published × List Sent := saves.foldl publish ({}, [])

/-- The files that the latest save of a document reported on; none if it was never saved. -/
def latest (saves : List Save) (doc : Text) : List Text :=
  ((saves.reverse.find? (·.document = doc)).map current).getD []

theorem run_snoc (saves : List Save) (v : Save) : run (saves ++ [v]) = publish (run saves) v := by
  rw [run, List.foldl_append]; rfl

theorem latest_snoc (saves : List Save) (v : Save) (doc : Text) :
    latest (saves ++ [v]) doc = if doc = v.document then v.current else latest saves doc := by
  rw [latest, List.reverse_append, List.reverse_singleton, List.singleton_append, List.find?_cons]
  by_cases h : v.document = doc
  · simp [h]
  · simp [h, Ne.symm h, latest]

/-! ### The invariant of a run -/

/-- What holds between saves: the claims are those of the latest saves, and the files that show marks
are the claimed ones. -/
structure Faithful (saves : List Save) (x : Published × List Sent) : Prop where
  distinct : x.1.Distinct
  claims : ∀ doc, x.1.claimsOf doc = latest saves doc
  shows : ∀ url, shown x.2 url ≠ [] ↔ ∃ doc, url ∈ latest saves doc

/-- A file shows marks after a save if the save found some there, or if it did before and is not
cleared. -/
theorem shown_publish_ne_nil (x : Published × List Sent) (v : Save) (url : Text) :
    shown (publish x v).2 url ≠ [] ↔
      url ∉ (x.1.record v.document v.current).2 ∧ (url ∈ v.current ∨ shown x.2 url ≠ []) := by
  show shown (x.2 ++ (v.marks.map (fun (u, found) => Sent.published u found)
    ++ (x.1.record v.document v.current).2.map (Sent.published · []))) url ≠ [] ↔ _
  rw [shown, List.foldl_append, List.foldl_append, foldl_over_clears, ← shown]
  by_cases hstale : url ∈ (x.1.record v.document v.current).2
  · simp [hstale]
  · rw [if_neg hstale]
    by_cases hcur : url ∈ v.current
    · exact iff_of_true (foldl_over_marks_ne_nil url _ _ v.found hcur) ⟨hstale, Or.inl hcur⟩
    · rw [foldl_over_marks url _ _ hcur]
      exact ⟨fun h => ⟨hstale, Or.inr h⟩, fun h => h.2.resolve_left hcur⟩

theorem faithful_publish {saves : List Save} {x : Published × List Sent} (h : Faithful saves x)
    (v : Save) : Faithful (saves ++ [v]) (publish x v) := by
  have hclaims : ∀ doc, (publish x v).1.claimsOf doc = latest (saves ++ [v]) doc := by
    intro doc
    rw [latest_snoc, ← h.claims]
    exact Published.claimsOf_claim x.1 v.document doc v.current
  refine ⟨Published.distinct_claim v.document v.current h.distinct, hclaims, ?_⟩
  intro url
  rw [shown_publish_ne_nil, Published.mem_record_iff h.distinct, h.shows]
  simp only [h.claims, latest_snoc]
  constructor
  · rintro ⟨hkept, hcur | ⟨doc, hdoc⟩⟩
    · exact ⟨v.document, by rwa [if_pos rfl]⟩
    · by_cases hcur : url ∈ v.current
      · exact ⟨v.document, by rwa [if_pos rfl]⟩
      · -- it is not cleared, so another document claims it, if only its own last check did so far
        by_contra hnone
        have hother : ∀ doc', doc' ≠ v.document → url ∉ latest saves doc' :=
          fun doc' hne hmem => hnone ⟨doc', by rwa [if_neg hne]⟩
        by_cases hd : doc = v.document
        · exact hkept ⟨hd ▸ hdoc, hcur, hother⟩
        · exact hother doc hd hdoc
  · rintro ⟨doc, hdoc⟩
    split at hdoc
    · exact ⟨fun hstale => hstale.2.1 hdoc, Or.inl hdoc⟩
    · next hne => exact ⟨fun hstale => hstale.2.2 doc hne hdoc, Or.inr ⟨doc, hdoc⟩⟩

theorem faithful_run (saves : List Save) : Faithful saves (run saves) := by
  induction saves using List.reverseRecOn with
  | nil => exact ⟨List.nodup_nil, fun _ => rfl, fun _ => by simp [run, shown, latest]⟩
  | append_singleton saves v ih => rw [run_snoc]; exact faithful_publish ih v

/-- After every run of saves a file shows marks just when the latest save of some document found some
there. What the next save clears comes in strictly ascending order, shows marks until then, and is no
file that this save found marks in. -/
theorem shown_iff_latest (saves : List Save) :
    (∀ url, shown (run saves).2 url ≠ [] ↔ ∃ doc, url ∈ latest saves doc) ∧
    ∀ v : Save, Published.Ascending ((run saves).1.record v.document v.current).2 ∧
      ∀ url ∈ ((run saves).1.record v.document v.current).2,
        shown (run saves).2 url ≠ [] ∧ url ∉ v.current := by
  have h := faithful_run saves
  refine ⟨h.shows, fun v => ⟨Published.ascending_sorted _, ?_⟩⟩
  intro url hurl
  obtain ⟨hclaimed, hcur, -⟩ := (Published.mem_record_iff h.distinct ..).mp hurl
  exact ⟨(h.shows url).mpr ⟨v.document, h.claims v.document ▸ hclaimed⟩, hcur⟩

end Save

/-! ### The saves of a session -/

theorem Groups.mem_add_ne_nil (file : Path) (m : Marker) : ∀ groups : Groups,
    (∀ g ∈ groups, g.2 ≠ []) → ∀ g ∈ groups.add file m, g.2 ≠ []
  | [], _ => by simp [Groups.add]
  | (p, ms) :: rest, h => by
    have hrest := fun g hg => h g (List.mem_cons_of_mem _ hg)
    rw [Groups.add]
    split <;> intro g hg <;> rcases List.mem_cons.mp hg with rfl | hg
    · simp
    · exact h g hg
    · simp
    · exact hrest g hg
    · exact h _ List.mem_cons_self
    · exact Groups.mem_add_ne_nil file m rest hrest g hg

/-- No file is listed without marks. -/
theorem mem_groupByFile_ne_nil (ds : List Diagnostic) : ∀ g ∈ groupByFile ds, g.2 ≠ [] := by
  induction ds using List.reverseRecOn with
  | nil => simp [groupByFile]
  | append_singleton ds d ih =>
    rw [groupByFile, List.foldl_append, ← groupByFile]
    exact Groups.mem_add_ne_nil _ _ _ ih

theorem mem_marksByUrl_ne_nil {groups : Groups} (h : ∀ g ∈ groups, g.2 ≠ []) :
    ∀ m ∈ Session.marksByUrl groups, m.2 ≠ [] := by
  intro m hm
  obtain ⟨g, hg, hu⟩ := List.mem_filterMap.mp hm
  obtain ⟨u, -, rfl⟩ := Option.map_eq_some_iff.mp hu
  exact h g hg

/-- The save of a document whose check found some diagnostics. -/
def Save.ofCheck (document : Text) (ds : List Diagnostic) : Save where
  document := document
  marks := Session.marksByUrl (groupByFile ds)
  found := mem_marksByUrl_ne_nil (mem_groupByFile_ne_nil ds)

/-- A session publishes what a check found as such a save. -/
theorem Session.publish_eq_save (s : Session) (document : Text) (ds : List Diagnostic)
    (sent : List Sent) :
    ((s.publish document ds).1.published, sent ++ (s.publish document ds).2) =
      Save.publish (s.published, sent) (Save.ofCheck document ds) := rfl

end SaveCheck.Editor
