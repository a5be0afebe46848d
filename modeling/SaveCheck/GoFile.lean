import SaveCheck.Path
import SaveCheck.Text.Class

/-!
What the name of a file says about it: whether it is a Go source, and whether it is a Go test.
-/

namespace SaveCheck.GoFile

/-- Whether a file is named `*_test.go`, in any mix of cases. Only the letters `A` to `Z` have lower
cases among the letters of that ending, so folding those is enough. -/
def isTest (file : Path) : Bool :=
  match Path.fileName? file with
  | some name => Text.endsWith "_test.go".toList (Text.lower name)
  | none => false

/-- Whether a file is a Go source that is neither hidden nor an editor's backup. -/
def isSource (file : Path) : Bool :=
  match Path.fileName? file with
  | some ('.' :: _) => false
  | some name => Text.endsWith ".go".toList name
  | none => false

end SaveCheck.GoFile
