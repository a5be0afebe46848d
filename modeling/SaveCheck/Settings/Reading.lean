import SaveCheck.Settings
import SaveCheck.Toml.Document

/-!
Settings from a value, which an editor sends or a TOML document describes: a record with the settings
by name, or a list with the first few of them in their order. What is left out has its default; a member
with another name counts for nothing.

    record  buildTags = "netgo", colour = 7    ──▶  the tags, and defaults
    list    false, ["-race"], "netgo"          ──▶  buildOnSave, buildFlags, buildTags, and defaults
-/

namespace SaveCheck.Settings

/-- The settings in the order in which a list gives them. -/
inductive Key where
  | buildOnSave
  | buildFlags
  | buildTags
  | lintOnSave
  | lintTool
  | lintFlags
  | vetOnSave
  | vetFlags
  | coverOnSave
  | goRoot
  | goPath
  deriving DecidableEq, Repr

namespace Key

/-- All settings in order. -/
def all : List Key := [
  .buildOnSave, .buildFlags, .buildTags, .lintOnSave, .lintTool, .lintFlags, .vetOnSave, .vetFlags,
  .coverOnSave, .goRoot, .goPath]

/-- The name of a setting. -/
def name : Key → Text
  | .buildOnSave => "buildOnSave".toList
  | .buildFlags => "buildFlags".toList
  | .buildTags => "buildTags".toList
  | .lintOnSave => "lintOnSave".toList
  | .lintTool => "lintTool".toList
  | .lintFlags => "lintFlags".toList
  | .vetOnSave => "vetOnSave".toList
  | .vetFlags => "vetFlags".toList
  | .coverOnSave => "coverOnSave".toList
  | .goRoot => "goRoot".toList
  | .goPath => "goPath".toList

/-- The place of a setting in a list. -/
def place (k : Key) : Nat := all.idxOf k

end Key

/-- Read a value that may be left out. -/
def readOr (default : α) (read : Value → Option α) : Option Value → Option α
  | none => some default
  | some v => read v

/-- The settings whose values `given` tells, with defaults for those it does not. -/
def ofGiven? (given : Key → Option Value) : Option Settings := do
  let standard : Settings := {}
  return {
    buildOnSave := ← readOr standard.buildOnSave Value.flag? (given .buildOnSave)
    buildFlags := ← readOr standard.buildFlags Value.texts? (given .buildFlags)
    buildTags := ← readOr standard.buildTags Value.text? (given .buildTags)
    lintOnSave := ← readOr standard.lintOnSave Value.flag? (given .lintOnSave)
    lintTool := ← readOr standard.lintTool Value.optionalText? (given .lintTool)
    lintFlags := ← readOr standard.lintFlags Value.texts? (given .lintFlags)
    vetOnSave := ← readOr standard.vetOnSave Value.flag? (given .vetOnSave)
    vetFlags := ← readOr standard.vetFlags Value.texts? (given .vetFlags)
    coverOnSave := ← readOr standard.coverOnSave Value.flag? (given .coverOnSave)
    goRoot := ← readOr standard.goRoot Value.optionalText? (given .goRoot)
    goPath := ← readOr standard.goPath Value.optionalText? (given .goPath) }

/-- The settings in a value. -/
def ofValue? : Value → Option Settings
  | .record members => ofGiven? fun k => Value.member? k.name members
  | .list items => if items.length ≤ Key.all.length then ofGiven? fun k => items[k.place]? else none
  | _ => none

/-- What settings are read from. -/
inductive Source where
  | document
  | editor
  deriving DecidableEq, Repr

/-- What is said when there are no settings in a source. -/
def Source.refusal : Source → Text
  | .document => "Failed to parse go-check settings".toList
  | .editor => "Failed to parse editor settings".toList

/-- The settings in a TOML document. -/
def ofDocument? (t : Text) : Option Settings := (Toml.document? t).bind ofValue?

/-- The settings that an editor sends: the member `go` of its record, or else the value itself. -/
def ofEditor? (v : Value) : Option Settings := ofValue? ((v.get? "go".toList).getD v)

end SaveCheck.Settings
