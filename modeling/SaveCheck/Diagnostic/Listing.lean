import SaveCheck.Diagnostic.Line

/-!
What a tool prints, read as diagnostics.

    main.go:3:2: undefined: foo        an issue
    ⇥more detail                       goes on with the issue before it
    # example.com/proj                 noise

A line that begins with a tab goes on with the last issue above it, over any noise in between, and is
lost when there is none. Every line that counts is echoed, the issue lines with their file resolved.
-/

namespace SaveCheck.Listing

/-- What one line of a tool's output is. -/
inductive Row where
  | issue (line : DiagnosticLine)
  | more (text : Text)
  | noise
  deriving DecidableEq, Repr

/-- Tell the kind of a line. -/
def row : Text → Row
  | '\t' :: rest => .more rest
  | t => match DiagnosticLine.parse? t with
    | some line => .issue line
    | none => .noise

/-- An issue and the lines that go on with it. -/
structure Entry where
  head : DiagnosticLine
  more : List Text
  deriving DecidableEq, Repr

/-- The lines that go on with an issue above these rows, and the issues in them. -/
def gather : List Row → List Text × List Entry
  | [] => ([], [])
  | .more t :: rest => let (lead, entries) := gather rest; (t :: lead, entries)
  | .noise :: rest => gather rest
  | .issue line :: rest => let (lead, entries) := gather rest; ([], ⟨line, lead⟩ :: entries)

/-- The issues of an output. -/
def entries (t : Text) : List Entry := (gather ((Text.lines t).map row)).2

/-- The diagnostic of an issue that a tool reported while it ran in `cwd`. -/
def Entry.diagnostic (cwd : Path) (severity : Severity) (e : Entry) : Diagnostic where
  file := Path.resolve cwd e.head.file
  line := e.head.line
  column := e.head.column
  message := e.head.message ++ e.more.flatMap ('\n' :: ·)
  severity := severity

/-- The lines that echo an issue. -/
def Entry.echo (cwd : Path) (e : Entry) : List Text :=
  (Path.resolve cwd e.head.file ++ ':' :: Numeral.write e.head.line ++ ": ".toList ++ e.head.message)
    :: e.more.map ('\t' :: ·)

/-- The diagnostics of an output. -/
def diagnostics (cwd : Path) (severity : Severity) (t : Text) : List Diagnostic :=
  (entries t).map (·.diagnostic cwd severity)

/-- The echo of an output. -/
def echo (cwd : Path) (t : Text) : List Text := (entries t).flatMap (·.echo cwd)

end SaveCheck.Listing
