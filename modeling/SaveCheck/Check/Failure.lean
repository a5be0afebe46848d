import SaveCheck.Coverage.Profile
import SaveCheck.Diagnostic
import SaveCheck.Machine.Disk

/-!
Why a check fails. What the tools find, or that one of them is missing, is no failure.
-/

namespace SaveCheck

/-- Why a check fails. -/
inductive CheckError where
  | blankPath
  | noParent (file : Path)
  | unreadable (file : Path) (fault : Fault)
  | coverageNotRun (dir : Path) (fault : Fault)
  | badProfile (error : Coverage.ProfileError)
  deriving DecidableEq, Repr

/-- The wording of a failure. -/
def CheckError.message : CheckError → Text
  | .blankPath => "Failed to resolve : cannot make an empty path absolute".toList
  | .noParent file => file ++ " has no parent directory".toList
  | .unreadable file fault => "Failed to read ".toList ++ file ++ ": ".toList ++ fault.message
  | .coverageNotRun dir fault =>
    "Failed to run go test for coverage in ".toList ++ dir ++ ": ".toList ++ fault.message
  | .badProfile error => error.message

/-- What a check comes to. -/
abbrev Checked := Except CheckError (List Diagnostic)

end SaveCheck
