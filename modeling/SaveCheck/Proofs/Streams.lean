import SaveCheck.Proofs.Accounts

/-!
What is observed of the run of a tool.

    launched   ──▶   the diagnostics on one stream, and the block of lines that echoes them
    missing    ──▶   nothing found and nothing written, and one notice
    refused    ──▶   nothing at all

How a tool exits and what it prints to its other stream is observed nowhere. It is the same for a run that is left alone
and for one among others, which change the scene between its launch and its report.
-/

namespace SaveCheck

namespace Work

variable {α : Type}

/-- By what its steps found a work comes to a result. On the way it writes some lines and tells some notices, behind
what others wrote and told. -/
inductive Leaves : Work α → List Scene → α → List Text → List Notice → Prop where
  | done {a : α} {ss : List Scene} : Leaves (.done a) ss a [] []
  | step {change : Scene → Scene} {next : Scene → Work α} {s : Scene} {ss : List Scene} {a : α}
      {lines laterLines : List Text} {notices laterNotices : List Notice} :
      (change s).lines = s.lines ++ lines → (change s).notices = s.notices ++ notices →
      Leaves (next s) ss a laterLines laterNotices →
      Leaves (.step change next) (s :: ss) a (lines ++ laterLines) (notices ++ laterNotices)

/-- The scenes that the steps of a work find when nothing else goes on. -/
def trail : Work α → Scene → List Scene
  | .done _, _ => []
  | .step change next, s => s :: (next s).trail (change s)

/-- Left alone, a work leaves what it writes and tells behind what was there before. -/
theorem Leaves.run : ∀ {w : Work α} {s : Scene} {a : α} {lines : List Text} {notices : List Notice},
    w.Leaves (w.trail s) a lines notices →
      (w.run s).1 = a ∧ (w.run s).2.lines = s.lines ++ lines ∧ (w.run s).2.notices = s.notices ++ notices
  | .done _, s, _, _, _, .done => ⟨rfl, (List.append_nil _).symm, (List.append_nil _).symm⟩
  | .step change next, s, _, _, _, .step hlines hnotices hnext => by
    obtain ⟨hresult, hlater, hlater'⟩ := hnext.run
    refine ⟨hresult, ?_, ?_⟩
    · rw [Work.run, hlater, hlines, List.append_assoc]
    · rw [Work.run, hlater', hnotices, List.append_assoc]

theorem Leaves.follow {w : Work α} {ss : List Scene} {a : α} {lines : List Text} {notices : List Notice}
    (h : w.Leaves ss a lines notices) : w.follow ss = .done a := by
  induction h with
  | done => exact follow_done _ _
  | step _ _ _ ih => exact ih

/-- A step that neither writes nor tells. -/
theorem leaves_quiet {change : Scene → Scene} {next : Scene → Work α} {s : Scene} {ss : List Scene} {a : α}
    {lines : List Text} {notices : List Notice} (hlines : (change s).lines = s.lines)
    (hnotices : (change s).notices = s.notices) (hnext : (next s).Leaves ss a lines notices) :
    (step change next).Leaves (s :: ss) a lines notices := by
  rw [← List.append_nil s.lines] at hlines
  rw [← List.append_nil s.notices] at hnotices
  exact .step hlines hnotices hnext

theorem leaves_write (lines : List Text) (a : α) (s : Scene) (ss : List Scene) :
    (act (·.write lines) a).Leaves (s :: ss) a lines [] := by
  have h : (act (·.write lines) a).Leaves (s :: ss) a (lines ++ []) ([] ++ []) :=
    .step rfl (List.append_nil _).symm .done
  rwa [List.append_nil] at h

theorem leaves_tell (n : Notice) (a : α) (s : Scene) (ss : List Scene) :
    (act (·.tell n) a).Leaves (s :: ss) a [] [n] := by
  have h : (act (·.tell n) a).Leaves (s :: ss) a ([] ++ []) ([n] ++ []) :=
    .step (List.append_nil _).symm rfl .done
  exact h

end Work

namespace ToolRun

variable (r : ToolRun) (h : Host)

/-- What a run writes by its launch. -/
def written : Except Fault Call → List Text
  | .ok call => r.echo (r.listing h call)
  | .error _ => []

theorem leaves_rest (launched : Except Fault Call) (later : Scene) (ss : List Scene) :
    (r.rest h launched).Leaves (later :: ss) (r.found h launched) (r.written h launched)
      (r.missing.ifMissing launched) := by
  match launched with
  | .ok call => exact Work.leaves_write _ _ later ss
  | .error fault => cases fault <;> first | exact Work.leaves_tell _ _ later ss | exact .done

/-- The launch of a tool leaves no trace in what is written and told. -/
theorem leaves_work {s : Scene} {ss : List Scene} {ds : List Diagnostic} {lines : List Text} {notices : List Notice}
    (hrest : (r.rest h (r.launch h s.disk)).Leaves ss ds lines notices) :
    (work h fun _ => r).Leaves (s :: ss) ds lines notices :=
  Work.leaves_quiet (Scene.launch_lines ..) (Scene.launch_notices ..) hrest

/-- What is observed of a run that is launched on some scene: among others, whatever scene they leave for its report,
and when nothing else goes on. -/
structure Observed (s : Scene) (ds : List Diagnostic) (lines : List Text) (notices : List Notice) : Prop where
  among : ∀ later, (work h fun _ => r).Leaves [s, later] ds lines notices
  result : ((work h fun _ => r).run s).1 = ds
  lines : ((work h fun _ => r).run s).2.lines = s.lines ++ lines
  notices : ((work h fun _ => r).run s).2.notices = s.notices ++ notices

/-- All that is observed of a run goes by its launch. -/
theorem observed (s : Scene) : r.Observed h s (r.found h (r.launch h s.disk)) (r.written h (r.launch h s.disk))
    (r.missing.ifMissing (r.launch h s.disk)) := by
  have hrest : ∀ launched, (r.rest h launched).Leaves
      ((r.rest h launched).trail (s.launch h r.program r.args r.dir)) (r.found h launched) (r.written h launched)
      (r.missing.ifMissing launched) := by
    intro launched
    match launched with
    | .ok call => exact r.leaves_rest h (.ok call) _ []
    | .error fault => cases fault <;> first | exact r.leaves_rest h (.error .missing) _ [] | exact .done
  have halone : (work h fun _ => r).Leaves ((work h fun _ => r).trail s) (r.found h (r.launch h s.disk))
      (r.written h (r.launch h s.disk)) (r.missing.ifMissing (r.launch h s.disk)) :=
    r.leaves_work h (hrest _)
  obtain ⟨hresult, hlines, hnotices⟩ := halone.run
  exact ⟨fun later => r.leaves_work h (r.leaves_rest h _ later []), hresult, hlines, hnotices⟩

variable {r h}

theorem Observed.of_launched {s : Scene} {call : Call} (hcall : r.launch h s.disk = .ok call) :
    r.Observed h s (r.diagnostics (r.listing h call)) (r.echo (r.listing h call)) [] := by
  have hobserved := r.observed h s
  rwa [hcall] at hobserved

/-- Runs whose launch succeeds are observed alike wherever their tools print the same to the stream that lists the
issues, and the user is told nothing. Where the tool is missing, the run finds and writes nothing and tells just its
own notice; where the launch fails otherwise, not even that. -/
theorem observed_by_stream (r : ToolRun) :
    (∀ (h h' : Host) (s s' : Scene) (call call' : Call), r.launch h s.disk = .ok call →
      r.launch h' s'.disk = .ok call' → (h.outcome call).on r.stream = (h'.outcome call').on r.stream →
        ∃ ds lines, r.Observed h s ds lines [] ∧ r.Observed h' s' ds lines []) ∧
    (∀ (h : Host) (s : Scene), r.launch h s.disk = .error .missing → r.Observed h s [] [] [r.missing]) ∧
    ∀ (h : Host) (s : Scene) (fault : Fault), r.launch h s.disk = .error fault → fault ≠ .missing →
      r.Observed h s [] [] [] := by
  refine ⟨fun h h' s s' call call' hcall hcall' hsame => ?_, fun h s hmissing => ?_,
    fun h s fault hfault hne => ?_⟩
  · have hlisting : r.listing h call = r.listing h' call' := by rw [listing, listing, hsame]
    refine ⟨_, _, .of_launched hcall, ?_⟩
    rw [hlisting]
    exact .of_launched hcall'
  · have hobserved := r.observed h s
    rwa [hmissing] at hobserved
  · have hobserved := r.observed h s
    rw [hfault] at hobserved
    cases fault with
    | missing => exact absurd rfl hne
    | _ => exact hobserved

/-- The workshop with programs that fail, and print what is no text to their output. -/
def noisyWorkshop : Host := Checker.workshop.withPrograms fun _ _ _ =>
  { out := [0xff], err := Utf8.encode "a.go:1:1: odd\n".toList, success := false }

/-- Vetting finds the same in either workshop. The linter is missing there, and arguments with a NUL are refused. -/
theorem observed_by_stream_workshop :
    let scene : Scene := { disk := Checker.workshopDisk }
    let vet := Checker.vetRun "/b/go".toList {} "/p/a.go".toList "/p".toList
    let lint := Checker.workshopChecker.lintRun Checker.workshop {} "/p/a.go".toList "/p".toList scene.disk
    let odd := { vet with args := [['\x00']] }
    (∃ lines, vet.Observed Checker.workshop scene [Checker.workshopFault .warning] lines [] ∧
      vet.Observed noisyWorkshop scene [Checker.workshopFault .warning] lines []) ∧
    lint.Observed Checker.workshop scene [] [] [.install "golint".toList] ∧
    odd.Observed Checker.workshop scene [] [] [] := by
  intro scene vet lint odd
  refine ⟨?_, (observed_by_stream lint).2.1 Checker.workshop scene rfl,
    (observed_by_stream odd).2.2 Checker.workshop scene .nulInCommand rfl (by simp)⟩
  obtain ⟨ds, lines, hquiet, hnoisy⟩ :=
    (observed_by_stream vet).1 Checker.workshop noisyWorkshop scene scene _ _ rfl rfl rfl
  obtain rfl : ds = [Checker.workshopFault .warning] := hquiet.result.symm.trans (by decide +kernel)
  exact ⟨lines, hquiet, hnoisy⟩

end ToolRun

end SaveCheck
