import SaveCheck.Settings

/-!
What a command line asks for.

    [--log-level L] [--config FILE] [--go-root DIR]
      check FILE [--format text|json] OVERRIDES
      watch DIR OVERRIDES
      serve

The first three options may also stand behind the command.
-/

namespace SaveCheck

/-- How diagnostics are printed. -/
inductive Format where
  | text
  | json
  deriving DecidableEq, Repr

/-- What the command line says about the settings. -/
structure Overrides where
  noBuild : Bool := false
  noLint : Bool := false
  noVet : Bool := false
  cover : Bool := false
  lintTool : Option Text := none
  buildTags : Option Text := none
  deriving DecidableEq, Repr

/-- Settings with what the command line says laid over them: a check can be switched off, or coverage
on, and never the other way. -/
def Overrides.apply (o : Overrides) (s : Settings) : Settings :=
  { s with
    buildOnSave := s.buildOnSave && ! o.noBuild
    lintOnSave := s.lintOnSave && ! o.noLint
    vetOnSave := s.vetOnSave && ! o.noVet
    coverOnSave := s.coverOnSave || o.cover
    lintTool := o.lintTool.or s.lintTool
    buildTags := o.buildTags.getD s.buildTags }

/-- What to do. -/
inductive Command where
  | check (file : Path) (format : Format) (overrides : Overrides)
  | watch (dir : Path) (overrides : Overrides)
  | serve
  deriving DecidableEq, Repr

/-- What a command says about the settings. -/
def Command.overrides : Command → Overrides
  | .check _ _ o => o
  | .watch _ o => o
  | .serve => {}

/-- A command with the options that every command has. -/
structure CommandLine where
  logLevel : Text
  config : Option Path
  goRoot : Option Path
  command : Command
  deriving DecidableEq, Repr

/-- Why there is nothing to do: the words are no command line, or they ask for help or the version. -/
inductive UsageError where
  | unknownArgument
  | invalidValue
  | invalidSubcommand
  | missingOperand
  | missingSubcommand
  | tooManyValues
  | conflict
  | help
  | nothingGiven
  | version
  deriving DecidableEq, Repr

end SaveCheck
