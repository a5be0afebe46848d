import SaveCheck.Diagnostic.Listing
import SaveCheck.Journal

/-!
One run of a tool: what is launched and where, which of its streams lists the issues, and what the user
is told when there is no such tool.
-/

namespace SaveCheck

/-- The two streams that a tool can print to. -/
inductive Stream where
  | out
  | err
  deriving DecidableEq, Repr

/-- The name of a stream. -/
def Stream.name : Stream → Text
  | .out => "stdout".toList
  | .err => "stderr".toList

/-- A tool to run in a directory. -/
structure ToolRun where
  program : Path
  args : List Text
  dir : Path
  severity : Severity
  stream : Stream
  missing : Notice
  deriving DecidableEq, Repr

namespace ToolRun

/-- A run that lists its issues on the error stream, and names the program when it is missing. -/
def plain (program : Path) (args : List Text) (dir : Path) (severity : Severity) : ToolRun where
  program := program
  args := args
  dir := dir
  severity := severity
  stream := .err
  missing := .info ("Cannot find \"".toList ++ program ++ "\"".toList)

/-- The command as the journal shows it. -/
def commandLine (r : ToolRun) : Text := r.program ++ r.args.flatMap (' ' :: ·)

/-- The journal's first line on a run that was launched. -/
def headline (r : ToolRun) : Text := "Finished running tool: ".toList ++ r.commandLine

/-- The journal's lines on a run whose stream held `text`. -/
def echo (r : ToolRun) (text : Text) : List Text := r.headline :: Listing.echo r.dir text ++ [[]]

/-- The diagnostics of a run whose stream held `text`. -/
def diagnostics (r : ToolRun) (text : Text) : List Diagnostic :=
  Listing.diagnostics r.dir r.severity text

end ToolRun

end SaveCheck
