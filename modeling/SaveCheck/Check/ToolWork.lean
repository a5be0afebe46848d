import SaveCheck.Machine.Work
import SaveCheck.ToolRun

/-!
Running a tool, as work in two steps: it is launched, and what it printed is read. The exit of a tool
counts for nothing. One that is missing is told instead; any other failure to launch leaves no trace.
-/

namespace SaveCheck

/-- What a run printed to a stream. -/
def Outcome.on (o : Outcome) : Stream → Bytes
  | .out => o.out
  | .err => o.err

namespace ToolRun

/-- The text that lists a launched tool's issues. -/
def listing (h : Host) (r : ToolRun) (c : Call) : Text := Utf8.decodeLossy ((h.outcome c).on r.stream)

/-- Read what a launched tool printed. -/
def report (r : ToolRun) (text : Text) : Work (List Diagnostic) :=
  .act (·.write (r.echo text)) (r.diagnostics text)

/-- Run a tool. What is launched may depend on where the tool is found. -/
def work (h : Host) (run : Disk → ToolRun) : Work (List Diagnostic) :=
  .step (fun s => s.launch h (run s.disk).program (run s.disk).args (run s.disk).dir) fun s =>
    let r := run s.disk
    match h.launch s.disk r.program r.args r.dir with
    | .ok call => r.report (r.listing h call)
    | .error .missing => .act (·.tell r.missing) []
    | .error _ => .done []

end ToolRun

end SaveCheck
