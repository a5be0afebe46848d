import SaveCheck.Text

/-!
What the user is told while a file is checked: a plain message, or that a tool has to be installed
first. The tools that this library knows come with the import path that installs them.
-/

namespace SaveCheck

/-- One message to the user. -/
inductive Notice where
  | info (text : Text)
  | install (tool : Text)
  deriving DecidableEq, Repr

namespace Notice

/-- The tools that can be installed by an import path. -/
def importPaths : List (Text × Text) := [
  ("golint".toList, "github.com/golang/lint/golint".toList),
  ("gometalinter".toList, "github.com/alecthomas/gometalinter".toList),
  ("staticcheck".toList, "honnef.co/go/tools/cmd/staticcheck".toList),
  ("revive".toList, "github.com/mgechev/revive".toList),
  ("golangci-lint".toList, "github.com/golangci/golangci-lint/cmd/golangci-lint".toList)]

/-- The import path that installs a tool. -/
def importPath? (tool : Text) : Option Text := importPaths.lookup tool

/-- How to come by a tool that is missing. -/
def installHint (tool : Text) : Text :=
  "The \"".toList ++ tool ++ "\" command is not available. ".toList ++
    match importPath? tool with
    | some path => "Use \"go get -u -v ".toList ++ path ++ "\" to install.".toList
    | none => "Install it and make sure it is on your PATH.".toList

/-- The wording of a notice. -/
def text : Notice → Text
  | .info t => t
  | .install tool => installHint tool

/-- What is said when there is no Go to run. -/
def goNotFound : Notice :=
  .info "Cannot find \"go\" binary. Update PATH or GOROOT appropriately".toList

end Notice

end SaveCheck
