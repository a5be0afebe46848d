import SaveCheck.CommandLine
import SaveCheck.Machine.Host
import SaveCheck.Settings.Reading

/-!
Where the settings for a file come from.

    the command line     overrides, and the Go root
    a project file       the one that the command line names, or else the nearest `.go-check.toml`
                         in the directories above the checked file
    the defaults

What stands higher wins, each setting for itself.
-/

namespace SaveCheck

/-- What the command line says about every check. -/
structure Config where
  file : Option Path
  goRoot : Option Path
  overrides : Overrides
  logLevel : Text
  deriving DecidableEq, Repr

/-- Why there are no settings. -/
inductive ConfigError where
  | notFound (file : Path)
  | unreadable (file : Path) (fault : Fault)
  | malformed (file : Path)
  deriving DecidableEq, Repr

/-- The wording of an error. -/
def ConfigError.message : ConfigError → Text
  | .notFound file => "Config file not found: ".toList ++ file
  | .unreadable file fault =>
    "Failed to read config file: ".toList ++ file ++ ": ".toList ++ fault.message
  | .malformed file => "Failed to parse config file: ".toList ++ file

namespace Config

/-- The name of a project file. -/
def projectFileName : Text := ".go-check.toml".toList

/-- The configuration of a command line. A file that it names has to be there. -/
def ofCommandLine (h : Host) (d : Disk) (c : CommandLine) : Except ConfigError Config :=
  let config : Config := ⟨c.config, c.goRoot, c.command.overrides, c.logLevel⟩
  match c.config with
  | some p => if d.isFile h.cwd p then .ok config else .error (.notFound p)
  | none => .ok config

/-- The nearest project file from a directory upwards. -/
def nearest (h : Host) (d : Disk) (dir : Path) : Option Path :=
  ((Path.ancestors dir).map (Path.join · projectFileName)).find? (d.isFile h.cwd)

/-- The project file that applies to a file. -/
def fileFor (c : Config) (h : Host) (d : Disk) (file : Path) : Option Path :=
  c.file.or ((Path.parent? file).bind (nearest h d))

/-- The settings in a project file. -/
def load (h : Host) (d : Disk) (p : Path) : Except ConfigError Settings :=
  match d.readText h.cwd p with
  | .error fault => .error (.unreadable p fault)
  | .ok text =>
    match Settings.ofDocument? text with
    | some s => .ok s
    | none => .error (.malformed p)

/-- Settings with the Go root that the command line gives, if it does. -/
def withGoRoot (c : Config) (s : Settings) : Settings := { s with goRoot := c.goRoot.or s.goRoot }

/-- The settings for a file. -/
def settingsFor (c : Config) (h : Host) (d : Disk) (file : Path) : Except ConfigError Settings := do
  let s ← match c.fileFor h d file with
    | some p => load h d p
    | none => .ok {}
  return c.withGoRoot (c.overrides.apply s)

end Config

end SaveCheck
