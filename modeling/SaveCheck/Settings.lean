import SaveCheck.Path

/-!
Which checks run when a file is saved, and how.
-/

namespace SaveCheck

/-- The settings of a check. -/
structure Settings where
  buildOnSave : Bool := true
  buildFlags : List Text := []
  buildTags : Text := []
  lintOnSave : Bool := true
  lintTool : Option Text := none
  lintFlags : List Text := []
  vetOnSave : Bool := true
  vetFlags : List Text := []
  coverOnSave : Bool := false
  goRoot : Option Path := none
  goPath : Option Path := none
  deriving DecidableEq, Repr

namespace Settings

/-- Settings that run no check. -/
def disabled : Settings :=
  { buildOnSave := false, lintOnSave := false, vetOnSave := false, coverOnSave := false }

/-- The lint tool when none is set. -/
def defaultLinter : Text := "golint".toList

/-- The lint tool to run; a blank one is none. -/
def linter (s : Settings) : Text :=
  match s.lintTool with
  | none | some [] => defaultLinter
  | some tool => tool

/-- Whether some check is to run. -/
def anyEnabled (s : Settings) : Bool :=
  s.buildOnSave || s.lintOnSave || s.vetOnSave || s.coverOnSave

end Settings

end SaveCheck
