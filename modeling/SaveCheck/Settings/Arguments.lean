import SaveCheck.GoFile
import SaveCheck.Settings

/-!
The arguments that each check launches its tool with.

    build     build [-i] -o OUT -tags "TAGS" FLAGS .         -i unless the package is main
              test -copybinary -o OUT -c -tags "TAGS" FLAGS .       for a test
    lint      FLAGS [FILE]                                   FILE for the default linter
    vet       tool vet FLAGS FILE
    coverage  test -coverprofile=PROFILE [-tags TAGS]        no tags when they are blank
-/

namespace SaveCheck.Settings

/-- How the arguments of the build begin: a package other than `main` gets its imports installed too,
and a test is compiled and not run. -/
def buildHead (file : Path) (isMain : Bool) (output : Path) : List Text :=
  if GoFile.isTest file then
    ["test".toList, "-copybinary".toList, "-o".toList, output, "-c".toList]
  else
    "build".toList :: (if isMain then [] else ["-i".toList]) ++ ["-o".toList, output]

/-- The arguments of the build; the tags are quoted, also when there are none. -/
def buildArgs (s : Settings) (file : Path) (isMain : Bool) (output : Path) : List Text :=
  buildHead file isMain output ++ ["-tags".toList, '"' :: s.buildTags ++ ['"']] ++ s.buildFlags
    ++ [".".toList]

/-- The arguments of the lint tool. Only the default one is told the file. -/
def lintArgs (s : Settings) (file : Path) : List Text :=
  s.lintFlags ++ if s.linter = defaultLinter then [file] else []

/-- The arguments of the vet tool. -/
def vetArgs (s : Settings) (file : Path) : List Text :=
  ["tool".toList, "vet".toList] ++ s.vetFlags ++ [file]

/-- The arguments of the test run that writes a cover profile. -/
def coverArgs (s : Settings) (profile : Path) : List Text :=
  ["test".toList, "-coverprofile=".toList ++ profile]
    ++ if s.buildTags = [] then [] else ["-tags".toList, s.buildTags]

end SaveCheck.Settings
