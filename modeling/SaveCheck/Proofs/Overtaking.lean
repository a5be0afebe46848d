import Mathlib.Logic.Function.Basic
import SaveCheck.Proofs.Published

/-!
Saves that are under way at the same time.

    save a []    record ───────────────────▶ clear x     nobody claims x when a records
    save b [x]            report x ── record             b claims x, which shows nothing in the end

A save reports on its files one by one, records them all in one step, and then clears one by one the files that it
was told to clear. Others may take their steps in between. Once all of them have landed no file shows marks that
nobody claims. But what a save was told to clear it clears later, and others may have reported on the file and
recorded it by then: the clear overtakes the report, and what the file showed is lost.
-/

namespace SaveCheck.Editor

/-! ### Saves under way -/

/-- How far a save has come: what it has still to report, or what it has still to clear once it has recorded. -/
inductive Stage where
  | reporting (rest : List (Text × List Marker))
  | clearing (rest : List Text)
  deriving DecidableEq

/-- What has still to be reported. -/
def Stage.unreported : Stage → List (Text × List Marker)
  | .reporting rest => rest
  | .clearing _ => []

/-- One step of a save. -/
inductive Step where
  | report (url : Text) (marks : List Marker)
  | record
  | clear (url : Text)
  deriving DecidableEq

/-- What a step sends. -/
def Step.sent? : Step → Option Sent
  | .report url marks => some (.published url marks)
  | .record => none
  | .clear url => some (.published url [])

/-- Saves under way: how far each has come, what is claimed, and the steps that were taken, in order. -/
structure Flight (ι : Type) where
  stage : ι → Stage
  published : Published := {}
  log : List (ι × Step) := []

/-- What is sent by some steps. -/
def sentBy {ι : Type} (log : List (ι × Step)) : List Sent := log.filterMap (·.2.sent?)

/-- What a save has reported. -/
def reportsBy {ι : Type} [DecidableEq ι] (log : List (ι × Step)) (i : ι) : List (Text × List Marker) :=
  log.filterMap fun
    | (j, .report url marks) => if j = i then some (url, marks) else none
    | _ => none

/-! ### What is shown -/

section

variable {ι : Type} {log : List (ι × Step)} {url : Text}

theorem shown_report (log : List (ι × Step)) (i : ι) (u : Text) (marks : List Marker) (url : Text) :
    shown (sentBy (log ++ [(i, .report u marks)])) url = if u = url then marks else shown (sentBy log) url := by
  simp [sentBy, shown, Step.sent?, Sent.over]

theorem shown_record (log : List (ι × Step)) (i : ι) (url : Text) :
    shown (sentBy (log ++ [(i, .record)])) url = shown (sentBy log) url := by
  simp [sentBy, Step.sent?]

theorem shown_clear (log : List (ι × Step)) (i : ι) (u url : Text) :
    shown (sentBy (log ++ [(i, .clear u)])) url = if u = url then [] else shown (sentBy log) url := by
  simp [sentBy, shown, Step.sent?, Sent.over]

/-- A file shows nothing once it is cleared, as long as nobody reports on it again. -/
theorem shown_of_clear {before after : List (ι × Step)} {i : ι}
    (hafter : ∀ j marks, (j, .report url marks) ∉ after) :
    shown (sentBy (before ++ (i, .clear url) :: after)) url = [] := by
  induction after using List.reverseRecOn with
  | nil => rw [shown_clear, if_pos rfl]
  | append_singleton after e ih =>
    have hrest := ih fun j marks hj => hafter j marks (List.mem_append_left _ hj)
    rw [← List.cons_append, ← List.append_assoc]
    rcases e with ⟨j, (⟨u, marks⟩ | _ | u)⟩
    · have hne : u ≠ url := by
        rintro rfl
        exact hafter j marks (by simp)
      rw [shown_report, if_neg hne, hrest]
    · rw [shown_record, hrest]
    · rw [shown_clear, hrest, ite_self]

/-- A file that was reported on and shows nothing was cleared after the last report on it. -/
theorem exists_clear (hmarks : ∀ i marks, (i, .report url marks) ∈ log → marks ≠ [])
    (hreport : ∃ i marks, (i, .report url marks) ∈ log) (hshown : shown (sentBy log) url = []) :
    ∃ before i after, log = before ++ (i, .clear url) :: after ∧ ∀ j marks, (j, .report url marks) ∉ after := by
  induction log using List.reverseRecOn with
  | nil => simp at hreport
  | append_singleton log e ih =>
    -- where the last step is no report on the file, the clear stands before it
    have hrest (hne : ∀ j marks, e ≠ (j, .report url marks)) (hsame : shown (sentBy log) url = []) :
        ∃ before i after, log ++ [e] = before ++ (i, .clear url) :: after ∧
          ∀ j marks, (j, .report url marks) ∉ after := by
      obtain ⟨i, marks, hi⟩ := hreport
      have hi' : (i, .report url marks) ∈ log :=
        (List.mem_append.mp hi).resolve_right fun h => hne i marks (List.mem_singleton.mp h).symm
      obtain ⟨before, j, after, rfl, hafter⟩ :=
        ih (fun j marks hj => hmarks j marks (List.mem_append_left _ hj)) ⟨i, marks, hi'⟩ hsame
      refine ⟨before, j, after ++ [e], by simp, ?_⟩
      intro k marks hk
      rcases List.mem_append.mp hk with hk | hk
      · exact hafter k marks hk
      · exact hne k marks (List.mem_singleton.mp hk).symm
    rcases e with ⟨j, (⟨u, marks⟩ | _ | u)⟩
    · rw [shown_report] at hshown
      split at hshown
      · next hu =>
        subst hu
        exact absurd hshown (hmarks j marks (by simp))
      · next hu => exact hrest (by simp [hu]) hshown
    · exact hrest (by simp) (by rwa [shown_record] at hshown)
    · rw [shown_clear] at hshown
      split at hshown
      · next hu =>
        subst hu
        exact ⟨log, j, [], rfl, by simp⟩
      · exact hrest (by simp) hshown

theorem mem_reportsBy [DecidableEq ι] {i : ι} {marks : List Marker} :
    (url, marks) ∈ reportsBy log i ↔ (i, .report url marks) ∈ log := by
  rw [reportsBy, List.mem_filterMap]
  constructor
  · rintro ⟨⟨j, (⟨u, ms⟩ | _ | u)⟩, hmem, he⟩ <;> simp at he
    obtain ⟨rfl, rfl, rfl⟩ := he
    exact hmem
  · exact fun hmem => ⟨_, hmem, by simp⟩

theorem reportsBy_report [DecidableEq ι] (log : List (ι × Step)) (i j : ι) (url : Text) (marks : List Marker) :
    reportsBy (log ++ [(j, .report url marks)]) i =
      if j = i then reportsBy log i ++ [(url, marks)] else reportsBy log i := by
  split <;> simp [reportsBy, *]

/-- No other step is a report. -/
theorem reportsBy_snoc [DecidableEq ι] (log : List (ι × Step)) (i j : ι) {s : Step}
    (hs : ∀ url marks, s ≠ .report url marks) : reportsBy (log ++ [(j, s)]) i = reportsBy log i := by
  cases s with
  | report url marks => exact absurd rfl (hs url marks)
  | record | clear => simp [reportsBy]

end

namespace Flight

variable {ι : Type} [DecidableEq ι] (saves : ι → Save)

/-- No save has taken a step. -/
def start : Flight ι where
  stage i := .reporting (saves i).marks

/-- The next step of a save, if it has one left. -/
def advance (x : Flight ι) (i : ι) : Flight ι :=
  match x.stage i with
  | .reporting ((url, marks) :: rest) =>
    { x with
      stage := Function.update x.stage i (.reporting rest)
      log := x.log ++ [(i, .report url marks)] }
  | .reporting [] =>
    let (published, stale) := x.published.record (saves i).document (saves i).current
    { stage := Function.update x.stage i (.clearing stale), published, log := x.log ++ [(i, .record)] }
  | .clearing (url :: rest) =>
    { x with
      stage := Function.update x.stage i (.clearing rest)
      log := x.log ++ [(i, .clear url)] }
  | .clearing [] => x

/-- What comes of it when the saves take their steps in some order. -/
def run (turns : List ι) : Flight ι := turns.foldl (advance saves) (start saves)

/-- Every save has taken all its steps. -/
def Landed (x : Flight ι) : Prop := ∀ i, x.stage i = .clearing []

/-! ### One step -/

variable {saves} {x : Flight ι} {i : ι}

theorem advance_report {url : Text} {marks : List Marker} {rest : List (Text × List Marker)}
    (h : x.stage i = .reporting ((url, marks) :: rest)) : advance saves x i =
      { x with
        stage := Function.update x.stage i (.reporting rest)
        log := x.log ++ [(i, .report url marks)] } := by
  rw [advance, h]

theorem advance_record (h : x.stage i = .reporting []) : advance saves x i =
    { stage := Function.update x.stage i
        (.clearing (x.published.record (saves i).document (saves i).current).2)
      published := x.published.claim (saves i).document (saves i).current
      log := x.log ++ [(i, .record)] } := by
  rw [advance, h]
  rfl

theorem advance_clear {url : Text} {rest : List Text} (h : x.stage i = .clearing (url :: rest)) :
    advance saves x i =
      { x with
        stage := Function.update x.stage i (.clearing rest)
        log := x.log ++ [(i, .clear url)] } := by
  rw [advance, h]

theorem advance_landed (h : x.stage i = .clearing []) : advance saves x i = x := by
  rw [advance, h]

/-! ### What holds between any two steps -/

/-- Whether a save has still to answer for a file: it is told to clear the file, or has reported on it and has not
recorded that yet. -/
def Owes (x : Flight ι) (i : ι) (url : Text) : Prop :=
  match x.stage i with
  | .reporting _ => url ∈ (reportsBy x.log i).map (·.1)
  | .clearing rest => url ∈ rest

/-- What holds between any two steps: each save has reported what it has not still to report, and a file that shows
marks is claimed, or some save has still to answer for it. -/
structure Sound (saves : ι → Save) (x : Flight ι) : Prop where
  distinct : x.published.Distinct
  reports : ∀ i, reportsBy x.log i ++ (x.stage i).unreported = (saves i).marks
  shows : ∀ url, shown (sentBy x.log) url ≠ [] →
    (∃ doc, url ∈ x.published.claimsOf doc) ∨ ∃ i, x.Owes i url

theorem sound_start (saves : ι → Save) : Sound saves (start saves) where
  distinct := List.nodup_nil
  reports _ := rfl
  shows := by simp [start, sentBy, shown]

theorem Sound.report (hx : Sound saves x) {url : Text} {marks : List Marker} {rest : List (Text × List Marker)}
    (hstage : x.stage i = .reporting ((url, marks) :: rest)) : Sound saves (x.advance saves i) := by
  rw [advance_report hstage]
  refine ⟨hx.distinct, fun j => ?_, fun file hshown => ?_⟩
  · rcases eq_or_ne j i with rfl | hne
    · simpa [reportsBy_report, hstage, Stage.unreported] using hx.reports j
    · simpa [reportsBy_report, hne, Ne.symm hne] using hx.reports j
  · dsimp only at hshown
    rw [shown_report] at hshown
    split at hshown
    · next hurl => exact .inr ⟨i, by simp [Owes, reportsBy_report, hurl]⟩
    · refine (hx.shows file hshown).imp id ?_
      rintro ⟨j, hj⟩
      refine ⟨j, ?_⟩
      rw [Owes] at hj ⊢
      rcases eq_or_ne j i with rfl | hne
      · rw [hstage] at hj
        simp [reportsBy_report, hj]
      · simpa [reportsBy_report, hne, Ne.symm hne] using hj

theorem Sound.clear (hx : Sound saves x) {url : Text} {rest : List Text}
    (hstage : x.stage i = .clearing (url :: rest)) : Sound saves (x.advance saves i) := by
  rw [advance_clear hstage]
  refine ⟨hx.distinct, fun j => ?_, fun file hshown => ?_⟩
  · rw [reportsBy_snoc _ _ _ (by simp)]
    rcases eq_or_ne j i with rfl | hne
    · simpa [hstage, Stage.unreported] using hx.reports j
    · simpa [hne] using hx.reports j
  · dsimp only at hshown
    rw [shown_clear] at hshown
    split at hshown
    · exact absurd rfl hshown
    · next hurl =>
      refine (hx.shows file hshown).imp id ?_
      rintro ⟨j, hj⟩
      refine ⟨j, ?_⟩
      rw [Owes] at hj ⊢
      rw [reportsBy_snoc _ _ _ (by simp)]
      rcases eq_or_ne j i with rfl | hne
      · rw [hstage] at hj
        simpa using (List.mem_cons.mp hj).resolve_left (Ne.symm hurl)
      · simpa [hne] using hj

/-- A save that records claims what it has reported, and has to clear what nobody claims any more. -/
theorem Sound.record (hx : Sound saves x) (hstage : x.stage i = .reporting []) :
    Sound saves (x.advance saves i) := by
  have hreported : reportsBy x.log i = (saves i).marks := by
    simpa [hstage, Stage.unreported] using hx.reports i
  rw [advance_record hstage]
  refine ⟨Published.distinct_claim _ _ hx.distinct, fun j => ?_, fun file hshown => ?_⟩
  · rw [reportsBy_snoc _ _ _ (by simp)]
    rcases eq_or_ne j i with rfl | hne
    · simpa [Stage.unreported] using hreported
    · simpa [hne] using hx.reports j
  · dsimp only at hshown ⊢
    rw [shown_record] at hshown
    have hclaims := fun doc => Published.claimsOf_claim x.published (saves i).document doc (saves i).current
    by_cases hcur : file ∈ (saves i).current
    · exact .inl ⟨(saves i).document, by rwa [hclaims, if_pos rfl]⟩
    rcases hx.shows file hshown with ⟨doc, hdoc⟩ | ⟨j, hj⟩
    · by_cases hother : ∃ doc, doc ≠ (saves i).document ∧ file ∈ x.published.claimsOf doc
      · obtain ⟨doc, hne, hdoc⟩ := hother
        exact .inl ⟨doc, by rwa [hclaims, if_neg hne]⟩
      · -- only the document's own last check claimed the file, so the save is told to clear it
        have hown : doc = (saves i).document := by
          by_contra hne
          exact hother ⟨doc, hne, hdoc⟩
        have hstale : file ∈ (x.published.record (saves i).document (saves i).current).2 :=
          (Published.mem_record_iff hx.distinct ..).mpr
            ⟨hown ▸ hdoc, hcur, fun doc' hne hdoc' => hother ⟨doc', hne, hdoc'⟩⟩
        exact .inr ⟨i, by simpa [Owes] using hstale⟩
    · refine .inr ⟨j, ?_⟩
      rw [Owes] at hj ⊢
      rw [reportsBy_snoc _ _ _ (by simp)]
      rcases eq_or_ne j i with rfl | hne
      · rw [hstage] at hj
        dsimp only at hj
        rw [hreported] at hj
        exact absurd hj hcur
      · simpa [hne] using hj

theorem Sound.advance (hx : Sound saves x) (i : ι) : Sound saves (x.advance saves i) := by
  rcases hstage : x.stage i with ((_ | ⟨⟨url, marks⟩, rest⟩) | (_ | ⟨url, rest⟩))
  · exact hx.record hstage
  · exact hx.report hstage
  · rwa [advance_landed hstage]
  · exact hx.clear hstage

theorem sound_run (turns : List ι) : Sound saves (run saves turns) := by
  induction turns using List.reverseRecOn with
  | nil => exact sound_start saves
  | append_singleton turns i ih =>
    rw [run, List.foldl_append]
    exact ih.advance i

/-! ### What was claimed, and who clears what -/

theorem mem_marks_of_report (hx : Sound saves x) {url : Text} {marks : List Marker}
    (h : (i, .report url marks) ∈ x.log) : (url, marks) ∈ (saves i).marks := by
  rw [← hx.reports i]
  exact List.mem_append_left _ (mem_reportsBy.mpr h)

/-- What a save of a landed flight has found it has reported. -/
theorem reportsBy_of_landed (hx : Sound saves x) (hlanded : x.Landed) (i : ι) :
    reportsBy x.log i = (saves i).marks := by
  simpa [hlanded i, Stage.unreported] using hx.reports i

/-- A step goes to the end of the log, and a file that is claimed after it was claimed before, unless the step
records it. -/
theorem claimed_advance (saves : ι → Save) (x : Flight ι) (i : ι) :
    ∃ steps, (x.advance saves i).log = x.log ++ steps ∧
      ∀ url doc, url ∈ (x.advance saves i).published.claimsOf doc →
        url ∈ x.published.claimsOf doc ∨ (i, .record) ∈ steps ∧ url ∈ (saves i).current := by
  rcases hstage : x.stage i with ((_ | ⟨⟨u, marks⟩, rest⟩) | (_ | ⟨u, rest⟩))
  · rw [advance_record hstage]
    refine ⟨_, rfl, fun url doc hdoc => ?_⟩
    dsimp only at hdoc
    rw [Published.claimsOf_claim] at hdoc
    split at hdoc
    · exact .inr ⟨List.mem_singleton_self _, hdoc⟩
    · exact .inl hdoc
  · rw [advance_report hstage]
    exact ⟨_, rfl, fun url doc hdoc => .inl hdoc⟩
  · rw [advance_landed hstage]
    exact ⟨[], by simp, fun url doc hdoc => .inl hdoc⟩
  · rw [advance_clear hstage]
    exact ⟨_, rfl, fun url doc hdoc => .inl hdoc⟩

/-- A file that is claimed after some steps was claimed before them, or one of them recorded it. -/
theorem claimed_later (saves : ι → Save) (x : Flight ι) (turns : List ι) :
    ∃ steps, (turns.foldl (advance saves) x).log = x.log ++ steps ∧
      ∀ url doc, url ∈ (turns.foldl (advance saves) x).published.claimsOf doc →
        url ∈ x.published.claimsOf doc ∨ ∃ j, (j, .record) ∈ steps ∧ url ∈ (saves j).current := by
  induction turns generalizing x with
  | nil => exact ⟨[], by simp, fun url doc hdoc => .inl hdoc⟩
  | cons i turns ih =>
    obtain ⟨first, hfirst, hclaims⟩ := claimed_advance saves x i
    obtain ⟨steps, hsteps, hlater⟩ := ih (x.advance saves i)
    rw [List.foldl_cons]
    refine ⟨first ++ steps, by rw [hsteps, hfirst, List.append_assoc], fun url doc hdoc => ?_⟩
    rcases hlater url doc hdoc with hdoc | ⟨j, hj, hcur⟩
    · exact (hclaims url doc hdoc).imp id fun h => ⟨i, List.mem_append_left _ h.1, h.2⟩
    · exact .inr ⟨j, List.mem_append_right _ hj, hcur⟩

/-- Whether a save clears a file: it has done so or is told to. -/
def Clears (x : Flight ι) (i : ι) (url : Text) : Prop :=
  (i, .clear url) ∈ x.log ∨ ∃ rest, x.stage i = .clearing rest ∧ url ∈ rest

/-- A save clears what it is told to clear when it records. -/
theorem Clears.of_advance {j : ι} {url : Text} (h : (x.advance saves j).Clears i url) :
    x.Clears i url ∨ i = j ∧ x.stage i = .reporting [] ∧
      url ∈ (x.published.record (saves i).document (saves i).current).2 := by
  rcases hstage : x.stage j with ((_ | ⟨⟨u, marks⟩, rest⟩) | (_ | ⟨u, rest⟩))
  · rw [advance_record hstage] at h
    rcases eq_or_ne i j with rfl | hne
    · rcases h with h | ⟨rest, hrest, hmem⟩
      · exact .inl (.inl (by simpa using h))
      · dsimp only at hrest
        rw [Function.update_self] at hrest
        exact .inr ⟨rfl, hstage, Stage.clearing.inj hrest ▸ hmem⟩
    · exact .inl (by simpa [Clears, hne] using h)
  · rw [advance_report hstage] at h
    rcases eq_or_ne i j with rfl | hne
    · exact .inl (.inl (by simpa [Clears] using h))
    · exact .inl (by simpa [Clears, hne] using h)
  · rw [advance_landed hstage] at h
    exact .inl h
  · rw [advance_clear hstage] at h
    rcases eq_or_ne i j with rfl | hne
    · rcases h with h | ⟨rest', hrest, hmem⟩
      · rcases List.mem_append.mp h with h | h
        · exact .inl (.inl h)
        · have hurl : url = u := by simpa using h
          exact .inl (.inr ⟨_, hstage, hurl ▸ List.mem_cons_self⟩)
      · dsimp only at hrest
        rw [Function.update_self] at hrest
        exact .inl (.inr ⟨_, hstage, List.mem_cons_of_mem _ (Stage.clearing.inj hrest ▸ hmem)⟩)
    · exact .inl (by simpa [Clears, hne] using h)

/-- What a save clears it was told to clear when it recorded, as nobody claimed it then. -/
theorem exists_record_of_clears {turns : List ι} {url : Text} (h : (run saves turns).Clears i url) :
    ∃ earlier later, turns = earlier ++ i :: later ∧ (run saves earlier).stage i = .reporting [] ∧
      url ∈ ((run saves earlier).published.record (saves i).document (saves i).current).2 := by
  induction turns using List.reverseRecOn with
  | nil => simp [Clears, run, start] at h
  | append_singleton turns j ih =>
    rw [run, List.foldl_append] at h
    rcases Clears.of_advance h with h | ⟨rfl, hstage, hstale⟩
    · obtain ⟨earlier, later, rfl, hrecord⟩ := ih h
      exact ⟨earlier, later ++ [j], by simp, hrecord⟩
    · exact ⟨turns, [], rfl, hstage, hstale⟩

/-! ### Clears that come too late -/

/-- A clear of a file overtakes a report on it: nobody reports on the file after the clear, somebody did before,
and this save recorded its report after the other one was told to clear the file. -/
def Overtaken (log : List (ι × Step)) (url : Text) : Prop :=
  ∃ i j, (∃ before after, log = before ++ (i, .clear url) :: after ∧ url ∈ (reportsBy before j).map (·.1) ∧
      ∀ k marks, (k, .report url marks) ∉ after) ∧
    ∃ earlier later, log = earlier ++ (i, .record) :: later ∧ (j, .record) ∈ later

/-- A file that is claimed once all saves have landed was reported on by a save that recorded it. -/
theorem exists_report {turns : List ι} (hlanded : (run saves turns).Landed) {url doc : Text}
    (hdoc : url ∈ (run saves turns).published.claimsOf doc) :
    ∃ j marks, (j, .report url marks) ∈ (run saves turns).log := by
  obtain ⟨steps, -, hclaims⟩ := claimed_later saves (start saves) turns
  rcases hclaims url doc hdoc with h | ⟨j, -, hcur⟩
  · cases h
  · obtain ⟨⟨u, marks⟩, hmem, rfl⟩ := List.mem_map.mp hcur
    rw [← reportsBy_of_landed (sound_run turns) hlanded j] at hmem
    exact ⟨j, marks, mem_reportsBy.mp hmem⟩

/-- A file that is claimed once all saves have landed and shows nothing was cleared too late. -/
theorem overtaken_of_claimed {turns : List ι} (hlanded : (run saves turns).Landed) {url doc : Text}
    (hdoc : url ∈ (run saves turns).published.claimsOf doc)
    (hshown : shown (sentBy (run saves turns).log) url = []) : Overtaken (run saves turns).log url := by
  have hx : Sound saves (run saves turns) := sound_run turns
  have hmarks : ∀ i marks, (i, .report url marks) ∈ (run saves turns).log → marks ≠ [] :=
    fun i marks h => (saves i).found _ (mem_marks_of_report hx h)
  obtain ⟨before, i, after, hlog, hafter⟩ := exists_clear hmarks (exists_report hlanded hdoc) hshown
  have hclears : (run saves turns).Clears i url := .inl (by simp [hlog])
  obtain ⟨earlier, later, rfl, hstage, hstale⟩ := exists_record_of_clears hclears
  -- nobody claimed the file when the save that clears it had recorded, so another one recorded it since
  obtain ⟨steps, hsteps, hclaims⟩ := claimed_later saves ((run saves earlier).advance saves i) later
  have hrun : run saves (earlier ++ i :: later) =
      later.foldl (advance saves) ((run saves earlier).advance saves i) := by
    rw [run, List.foldl_append, List.foldl_cons, ← run]
  rw [← hrun] at hsteps hclaims
  rw [advance_record hstage] at hsteps hclaims
  obtain ⟨-, hcur, hothers⟩ := (Published.mem_record_iff (sound_run earlier).distinct ..).mp hstale
  obtain ⟨j, hj, hcurj⟩ := (hclaims url doc hdoc).resolve_left (by
    dsimp only
    rw [Published.claimsOf_claim]
    split
    · exact hcur
    · next hne => exact hothers doc hne)
  obtain ⟨⟨u, marks⟩, hmem, rfl⟩ := List.mem_map.mp hcurj
  rw [← reportsBy_of_landed hx hlanded j, mem_reportsBy, hlog] at hmem
  have hbefore : (j, .report u marks) ∈ before := by
    rcases List.mem_append.mp hmem with h | h
    · exact h
    · rcases List.mem_cons.mp h with h | h
      · cases h
      · exact absurd h (hafter j marks)
  refine ⟨i, j, ⟨before, after, hlog, List.mem_map_of_mem (mem_reportsBy.mpr hbefore), hafter⟩, ?_⟩
  exact ⟨(run saves earlier).log, steps, by simpa using hsteps, hj⟩

/-- Once all saves have landed, whatever the order of their steps, a file shows marks just when some document claims
it, unless a clear has overtaken the last report on the file. -/
theorem shown_iff_claimed_of_landed {turns : List ι} (hlanded : (run saves turns).Landed) (url : Text) :
    shown (sentBy (run saves turns).log) url ≠ [] ↔
      (run saves turns).published.isClaimed url ∧ ¬ Overtaken (run saves turns).log url := by
  have hx : Sound saves (run saves turns) := sound_run turns
  rw [Published.isClaimed_iff hx.distinct]
  constructor
  · intro hshown
    constructor
    · refine (hx.shows url hshown).resolve_right ?_
      rintro ⟨i, hi⟩
      rw [Owes, hlanded i] at hi
      cases hi
    · rintro ⟨i, j, ⟨before, after, hlog, -, hafter⟩, -⟩
      rw [hlog, shown_of_clear hafter] at hshown
      exact hshown rfl
  · rintro ⟨⟨doc, hdoc⟩, hkept⟩ hshown
    exact hkept (overtaken_of_claimed hlanded hdoc hshown)

/-! ### Three saves that cross -/

/-- A mark in `x`. -/
def markInX (message : Text) : Marker := .ofDiagnostic ⟨"x".toList, 1, none, message, .error⟩

/-- `a` is saved with marks in `x`, and again without; and `b` with marks in `x`. -/
def crossing : Fin 3 → Save
  | 0 => ⟨"a".toList, [("x".toList, [markInX "old".toList])], by decide⟩
  | 1 => ⟨"a".toList, [], by decide⟩
  | 2 => ⟨"b".toList, [("x".toList, [markInX "new".toList])], by decide⟩

/-- The second save is told to clear `x`, and does so once the third one has reported on it and recorded that. -/
def crossingTurns : List (Fin 3) := [0, 0, 1, 2, 2, 1]

/-- All saves have landed, `b` claims `x`, and `x` shows nothing. -/
theorem not_shown_crossing : (run crossing crossingTurns).Landed ∧
    (run crossing crossingTurns).published.isClaimed "x".toList ∧
    shown (sentBy (run crossing crossingTurns).log) "x".toList = [] :=
  ⟨show ∀ i, _ by decide +kernel, by decide +kernel, by decide +kernel⟩

/-- That is since the clear of `x` has overtaken the report on it. -/
theorem overtaken_crossing : (run crossing crossingTurns).Landed ∧
    Overtaken (run crossing crossingTurns).log "x".toList := by
  have hlanded : (run crossing crossingTurns).Landed := show ∀ i, _ by decide +kernel
  refine ⟨hlanded, ?_⟩
  by_contra hkept
  have hshown := (shown_iff_claimed_of_landed hlanded "x".toList).mpr ⟨by decide +kernel, hkept⟩
  exact absurd hshown (by decide +kernel)

end Flight

end SaveCheck.Editor
