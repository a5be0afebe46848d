import SaveCheck.Proofs.TestRounds

/-!
What becomes of the file that the tests leave in the place of their profile.

    a profile                  ──▶  what it says about the saved file
    another text               ──▶  an error
    bytes that are no text     ──▶  No coverage profile was written for /p
    no file                    ──▶  No coverage profile was written for /p

The line of the last two is never one of the first, whatever the file is called. So bytes that are no text are just
what is neither told about nor an error.
-/

namespace SaveCheck

/-- What begins with itself behind some other items is made of those. -/
theorem Text.mem_of_prefix_append {q : Text} (hq : q ≠ []) {t : Text} (h : t <+: q ++ t) : ∀ c ∈ t, c ∈ q := by
  induction hlength : t.length using Nat.strong_induction_on generalizing t with
  | _ n ih =>
    rcases List.prefix_or_prefix_of_prefix h (List.prefix_append q t) with hshort | ⟨rest, rfl⟩
    · exact hshort.subset
    · have hless : rest.length < n := by
        have := List.length_pos_of_ne_nil hq
        rw [List.length_append] at hlength
        omega
      have hrest := ih rest.length hless ((List.prefix_append_right_inj q).mp h) rfl
      exact fun c hc => (List.mem_append.mp hc).elim id (hrest c)

namespace Coverage

/-! ### The line on an absent profile -/

/-- A line on a file begins with the file, and ends in a way that the line on an absent profile does not. -/
theorem of_mem_summary {file line : Text} {p : Profile} (h : line ∈ summary file p) :
    file <+: line ∧ ∃ c ∈ line.getLast?, c = ')' ∨ c = 'd' := by
  rw [summary, List.mem_cons] at h
  rcases h with rfl | h
  · refine ⟨?_, ')', ?_, .inl rfl⟩
    · simp only [shareLine, List.append_assoc]
      exact List.prefix_append ..
    · rw [shareLine, List.getLast?_append_of_ne_nil _ (by simp)]
      simp
  · obtain ⟨b, -, rfl⟩ := List.mem_map.mp h
    refine ⟨?_, 'd', ?_, .inr rfl⟩
    · simp only [gapLine, List.append_assoc]
      exact List.prefix_append ..
    · rw [gapLine, List.getLast?_append_of_ne_nil _ (by simp)]
      rfl

/-- A summary never says that there is no profile. -/
theorem absentLine_not_mem_summary {file dir : Path} (hdir : Path.parent? file = some dir) (p : Profile) :
    absentLine dir ∉ summary file p := by
  intro hmem
  obtain ⟨hfile, c, hlast, hc⟩ := of_mem_summary hmem
  have hdirs := Text.mem_of_prefix_append (by simp) ((Path.prefix_of_parent? hdir).trans hfile)
  have hwords : c ∈ "No coverage profile was written for ".toList :=
    (List.mem_append.mp (List.mem_of_getLast? hlast)).elim id (hdirs c)
  rcases hc with rfl | rfl <;> revert hwords <;> decide

/-! ### What is told -/

/-- A file that the tests left is accounted for when it is a profile and what it says is told, and when there is an
error. -/
def Accounted (file : Path) (content : Bytes) (result : Checked) (told : List Text) : Prop :=
  (∃ text p, Utf8.decode? content = some text ∧ Profile.parse text = .ok p ∧ result = .ok [] ∧
    told = summary file p) ∨ ∃ e, result = .error e

/-- Just what is text is accounted for. -/
theorem accounted_toldOf (file dir : Path) (content : Bytes) :
    Accounted file content (toldOf file dir (some content)).1 (toldOf file dir (some content)).2 ↔
      (Utf8.decode? content).isSome := by
  cases hdecode : Utf8.decode? content with
  | none => simp [toldOf, Accounted, hdecode]
  | some text =>
    cases hparse : Profile.parse text with
    | error e => simp [toldOf, Accounted, hdecode, hparse]
    | ok p => simp [toldOf, Accounted, hdecode, hparse]

/-- Just what is no text is told about as if there were no file. -/
theorem absentLine_mem_toldOf {file dir : Path} (hdir : Path.parent? file = some dir) (left : Option Bytes) :
    absentLine dir ∈ (toldOf file dir left).2 ↔ ∀ content ∈ left, Utf8.decode? content = none := by
  cases left with
  | none => simp [toldOf]
  | some content =>
    cases hdecode : Utf8.decode? content with
    | none => simp [toldOf, hdecode]
    | some text =>
      cases hparse : Profile.parse text with
      | error e => simp [toldOf, hdecode, hparse]
      | ok p => simp [toldOf, hdecode, hparse, absentLine_not_mem_summary hdir]

/-- A round whose tests were launched reports by the file that they leave. -/
theorem Round.run_of_launched {h : Host} {profile : Path} {r : Round} {d : Disk} {dir : Path} {call : Call}
    (hdir : Path.parent? r.file = some dir)
    (hcall : r.launched h profile (d.remove h.cwd profile) dir = .ok call) :
    (r.run h profile d).1 = reportOf (r.host h) r.file dir
      (((r.host h).after (d.remove h.cwd profile) call).read h.cwd profile).toOption (.ok call) := by
  have hclean : (d.remove h.cwd profile).isFile (r.host h).cwd profile = false := Disk.isFile_remove d h.cwd profile
  rw [run_eq hdir, hcall]
  exact congrArg (reportOf (r.host h) r.file dir · (.ok call)) (read_after hclean call).symm

/-- In the workshop what the tests write to the place of the profile is left there. -/
theorem left_in_workshop (content : Bytes) :
    let r := roundOf { writes := [("/t/cover".toList, content)] }
    let cleared := Checker.workshopDisk.remove Checker.workshop.cwd "/t/cover".toList
    ∃ call, r.launched Checker.workshop "/t/cover".toList cleared "/p".toList = .ok call ∧
      ((r.host Checker.workshop).after cleared call).read Checker.workshop.cwd "/t/cover".toList = .ok content := by
  intro r cleared
  obtain ⟨call, hcall⟩ : ∃ call, r.launched Checker.workshop "/t/cover".toList cleared "/p".toList = .ok call :=
    ⟨_, rfl⟩
  refine ⟨call, hcall, ?_⟩
  obtain rfl := Except.ok.inj hcall
  rfl

/-- A file that the tests leave in the place of their profile is accounted for just when it is UTF-8 text: then what a
well-formed profile says is told, and all else is an error. Behind what tests that fail print, the line on an absent
profile is told when there is no file, and also when the file is no text. -/
theorem accounted_iff_text (h : Host) (profile : Path) (r : Round) (d : Disk) (dir : Path) (call : Call)
    (hdir : Path.parent? r.file = some dir)
    (hcall : r.launched h profile (d.remove h.cwd profile) dir = .ok call) :
    let left := ((r.host h).after (d.remove h.cwd profile) call).read h.cwd profile
    let report := (r.run h profile d).1
    ∃ told, report.lines = failureLines ((r.host h).outcome call) ++ told ∧
      (∀ content, left = .ok content →
        (Accounted r.file content report.result told ↔ (Utf8.decode? content).isSome)) ∧
      (absentLine dir ∈ told ↔ ∀ content, left = .ok content → Utf8.decode? content = none) := by
  intro left report
  have hreport : report = reportOf (r.host h) r.file dir left.toOption (.ok call) := Round.run_of_launched hdir hcall
  refine ⟨(toldOf r.file dir left.toOption).2, by rw [hreport, reportOf], fun content hleft => ?_, ?_⟩
  · rw [hreport, hleft]
    exact accounted_toldOf r.file dir content
  · rw [absentLine_mem_toldOf hdir]
    cases left <;> simp [Except.toOption]

/-- In the workshop a profile that has no mode is accounted for. -/
theorem accounted_iff_text_no_mode :
    let r := roundOf (writing "p/a.go")
    let cleared := Checker.workshopDisk.remove Checker.workshop.cwd "/t/cover".toList
    let report := (r.run Checker.workshop "/t/cover".toList Checker.workshopDisk).1
    ∃ call, r.launched Checker.workshop "/t/cover".toList cleared "/p".toList = .ok call ∧
      ((r.host Checker.workshop).after cleared call).read Checker.workshop.cwd "/t/cover".toList =
        .ok (Utf8.encode "p/a.go".toList) ∧
      Accounted r.file (Utf8.encode "p/a.go".toList) report.result report.lines := by
  intro r cleared report
  obtain ⟨call, hcall, hleft⟩ := left_in_workshop (Utf8.encode "p/a.go".toList)
  obtain ⟨told, hlines, haccounted, -⟩ :=
    accounted_iff_text Checker.workshop "/t/cover".toList r Checker.workshopDisk "/p".toList call rfl hcall
  have htold : report.lines = told := hlines
  rw [htold]
  exact ⟨call, hcall, hleft, (haccounted _ hleft).mpr (by decide +kernel)⟩

/-- In the workshop a byte that is no text stands in the place of the profile, and is told about as if there were no
file. -/
theorem byte_told_as_absent :
    let r := roundOf { writes := [("/t/cover".toList, [255])] }
    let cleared := Checker.workshopDisk.remove Checker.workshop.cwd "/t/cover".toList
    let report := (r.run Checker.workshop "/t/cover".toList Checker.workshopDisk).1
    ∃ call, r.launched Checker.workshop "/t/cover".toList cleared "/p".toList = .ok call ∧
      ((r.host Checker.workshop).after cleared call).read Checker.workshop.cwd "/t/cover".toList = .ok [255] ∧
      ¬ Accounted r.file [255] report.result report.lines ∧ report.lines = [absentLine "/p".toList] := by
  intro r cleared report
  have hreport : report = ⟨.ok [], [absentLine "/p".toList], []⟩ := by decide +kernel
  obtain ⟨call, hcall, hleft⟩ := left_in_workshop [255]
  refine ⟨call, hcall, hleft, ?_, by rw [hreport]⟩
  rw [hreport]
  rintro (⟨text, p, hdecode, -⟩ | ⟨e, herror⟩)
  · cases hdecode
  · cases herror

end Coverage

end SaveCheck
