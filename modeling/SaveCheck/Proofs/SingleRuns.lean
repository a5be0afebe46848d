import SaveCheck.Proofs.Independence

/-!
What each check comes to when nothing else goes on.

    a tool       launched  ──▶  the diagnostics that it printed
                 missing   ──▶  none, and the user is told
                 refused   ──▶  none
    the tests    launched  ──▶  none, or a failure by the profile that is there then
                 missing   ──▶  none, and the user is told
                 refused   ──▶  a failure

No tool makes a check fail, whatever becomes of its launch.
-/

namespace SaveCheck

namespace Work

variable {α β ε : Type}

theorem run_map (f : α → β) : ∀ (w : Work α) (s : Scene), (w.map f).run s = (f (w.run s).1, (w.run s).2)
  | .done _, _ => rfl
  | .step change next, s => run_map f (next s) (change s)

/-- From a scene on and left alone, a work comes to a result, leaves a disk, and tells something on the
way. -/
structure Ends (w : Work α) (s : Scene) (a : α) (d : Disk) (ns : List Notice) : Prop where
  result : (w.run s).1 = a
  disk : (w.run s).2.disk = d
  notices : (w.run s).2.notices = s.notices ++ ns

theorem ends_congr {v w : Work α} {s : Scene} (h : v.run s = w.run s) {a : α} {d : Disk} {ns : List Notice} :
    v.Ends s a d ns ↔ w.Ends s a d ns := by
  constructor <;> rintro ⟨ha, hd, hn⟩
  · exact ⟨h ▸ ha, h ▸ hd, h ▸ hn⟩
  · exact ⟨h ▸ ha, h ▸ hd, h ▸ hn⟩

theorem Ends.map {w : Work α} {s : Scene} {a : α} {d : Disk} {ns : List Notice} (hw : w.Ends s a d ns)
    (f : α → β) : (w.map f).Ends s (f a) d ns := by
  obtain ⟨ha, hd, hn⟩ := hw
  constructor
  · rw [run_map, ha]
  · rw [run_map, hd]
  · rw [run_map, hn]

theorem ends_done (a : α) (s : Scene) : (done a).Ends s a s.disk [] :=
  ⟨rfl, rfl, (List.append_nil _).symm⟩

theorem ends_write (lines : List Text) (a : α) (s : Scene) : (act (·.write lines) a).Ends s a s.disk [] :=
  ⟨rfl, rfl, (List.append_nil _).symm⟩

theorem ends_tell (n : Notice) (a : α) (s : Scene) : (act (·.tell n) a).Ends s a s.disk [n] :=
  ⟨rfl, rfl, rfl⟩

/-- A first step that tells nothing. -/
theorem ends_step {change : Scene → Scene} {next : Scene → Work α} {s : Scene} {a : α} {d : Disk}
    {ns : List Notice} (hsilent : (change s).notices = s.notices) (hnext : (next s).Ends (change s) a d ns) :
    (step change next).Ends s a d ns :=
  ⟨hnext.result, hnext.disk, by rw [← hsilent]; exact hnext.notices⟩

end Work

/-- What is told about a launch: that there was nothing to launch. -/
def Notice.ifMissing (n : Notice) : Except Fault Call → List Notice
  | .error .missing => [n]
  | _ => []

theorem Notice.mem_ifMissing {m n : Notice} {launched : Except Fault Call} :
    m ∈ n.ifMissing launched ↔ m = n ∧ launched = .error .missing := by
  match launched with
  | .ok call => simp [ifMissing]
  | .error fault => cases fault <;> simp [ifMissing]

/-! ### A tool -/

namespace ToolRun

/-- The diagnostics of a tool by its launch. -/
def found (r : ToolRun) (h : Host) : Except Fault Call → List Diagnostic
  | .ok call => r.diagnostics (r.listing h call)
  | .error _ => []

theorem ends_rest (r : ToolRun) (h : Host) (launched : Except Fault Call) (s : Scene) :
    (r.rest h launched).Ends s (r.found h launched) s.disk (r.missing.ifMissing launched) := by
  match launched with
  | .ok call => exact Work.ends_write _ _ s
  | .error fault => cases fault <;> first | exact Work.ends_tell _ _ s | exact Work.ends_done _ s

theorem ends_work (h : Host) (run : Disk → ToolRun) (s : Scene) :
    (work h run).Ends s ((run s.disk).found h ((run s.disk).launch h s.disk)) ((run s.disk).ran h s.disk)
      ((run s.disk).missing.ifMissing ((run s.disk).launch h s.disk)) := by
  rw [work_eq]
  refine Work.ends_step (Scene.launch_notices ..) ?_
  have hrest := ends_rest (run s.disk) h ((run s.disk).launch h s.disk)
    (s.launch h (run s.disk).program (run s.disk).args (run s.disk).dir)
  rwa [Scene.launch_disk] at hrest

end ToolRun

/-! ### The tests -/

namespace Coverage

/-- What the check comes to by the profile that is there. -/
def verdict : Except Fault Text → Checked
  | .error _ => .ok []
  | .ok text =>
    match Profile.parse text with
    | .error e => .error (.badProfile e)
    | .ok _ => .ok []

theorem ends_afterReading (file dir : Path) (read : Except Fault Text) (s : Scene) :
    (afterReading file dir read).Ends s (verdict read) s.disk [] := by
  match read with
  | .error fault => exact Work.ends_write _ _ s
  | .ok text =>
    rw [afterReading, verdict]
    cases Profile.parse text with
    | error e => exact Work.ends_done _ s
    | ok p => exact Work.ends_write _ _ s

/-- What the check comes to by the launch of the tests, with the disk that it leaves. -/
def judged (h : Host) (profile dir : Path) (left : Disk) : Except Fault Call → Checked
  | .ok _ => verdict (left.readText h.cwd profile)
  | .error .missing => .ok []
  | .error fault => .error (.coverageNotRun dir fault)

theorem ends_afterLaunch (h : Host) (profile file dir : Path) (launched : Except Fault Call) (s : Scene) :
    (afterLaunch h profile file dir launched).Ends s (judged h profile dir s.disk launched) s.disk
      (Notice.goNotFound.ifMissing launched) := by
  match launched with
  | .ok call =>
    rw [afterLaunch, reading_eq]
    exact Work.ends_step rfl (Work.ends_step rfl (ends_afterReading file dir _ _))
  | .error fault => cases fault <;> first | exact Work.ends_tell _ _ s | exact Work.ends_done _ s

theorem ends_work (h : Host) (go profile : Path) (settings : Settings) (file dir : Path) (s : Scene) :
    let cleared := s.disk.remove h.cwd profile
    let launched := h.launch cleared go (settings.coverArgs profile) dir
    let left := h.ran cleared go (settings.coverArgs profile) dir
    (work h go profile settings file dir).Ends s (judged h profile dir left launched) left
      (Notice.goNotFound.ifMissing launched) := by
  intro cleared launched left
  rw [work_eq, testing]
  refine Work.ends_step rfl (Work.ends_step (Scene.launch_notices ..) ?_)
  have hafter := ends_afterLaunch h profile file dir launched
    ((s.remove h profile).launch h go (settings.coverArgs profile) dir)
  rwa [Scene.launch_disk] at hafter

end Coverage

end SaveCheck
