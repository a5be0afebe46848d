import SaveCheck.CommandLine

/-!
Reading the words of a command line, one after the other, on two levels: the options of the program, and
behind the name of a command those of the command.

    word                with a value to come     otherwise
    --                  only operands follow     only operands follow
    --name, --name=V    a new option             a new option
    -letters            switches                 switches
    any other           the value                a command, or the operand

A value or an operand is examined only once the next option or operand of its level comes up, or the
level ends. So of two faults the later word's can be the one that is told.
-/

namespace SaveCheck.CommandLine

/-! ### What the words can name -/

/-- What has no value. -/
inductive Switch where
  | help
  | version
  | noBuild
  | noLint
  | noVet
  | cover
  deriving DecidableEq, Repr

/-- What has a value. -/
inductive Slot where
  | logLevel
  | config
  | goRoot
  | format
  | lintTool
  | buildTags
  | operand
  deriving DecidableEq, Repr

/-- Which words may come next: those of the program, or those of one command. -/
inductive Level where
  | top
  | check
  | watch
  | serve
  deriving DecidableEq, Repr

/-- The commands by name. -/
def Level.ofName? (t : Text) : Option Level :=
  if t = "check".toList then some .check
  else if t = "watch".toList then some .watch
  else if t = "serve".toList then some .serve
  else none

/-- The name of the command that explains the others. -/
def helpName : Text := "help".toList

/-- Whether a word names a command. -/
def isCommandName (t : Text) : Bool := (Level.ofName? t).isSome || t = helpName

/-- Whether a level's command has an operand. -/
def Level.hasOperand : Level → Bool
  | .check | .watch => true
  | .top | .serve => false

/-- What can be named with two dashes. -/
abbrev Name := Switch ⊕ Slot

/-- The options of every level. -/
def globalNames : List (Text × Name) := [
  ("help".toList, .inl .help),
  ("log-level".toList, .inr .logLevel),
  ("config".toList, .inr .config),
  ("go-root".toList, .inr .goRoot)]

/-- The options that override settings. -/
def overrideNames : List (Text × Name) := [
  ("no-build".toList, .inl .noBuild),
  ("no-lint".toList, .inl .noLint),
  ("no-vet".toList, .inl .noVet),
  ("cover".toList, .inl .cover),
  ("lint-tool".toList, .inr .lintTool),
  ("build-tags".toList, .inr .buildTags)]

/-- The options of a level. -/
def Level.names : Level → List (Text × Name)
  | .top => globalNames ++ [("version".toList, .inl .version)]
  | .check => globalNames ++ overrideNames ++ [("format".toList, .inr .format)]
  | .watch => globalNames ++ overrideNames
  | .serve => globalNames

/-- The switches of a level that have a letter. -/
def Level.letters : Level → List (Char × Switch)
  | .top => [('h', .help), ('V', .version)]
  | _ => [('h', .help)]

/-- The formats by name. -/
def formatOf? (t : Text) : Option Format :=
  if t = "text".toList then some .text
  else if t = "json".toList then some .json
  else none

/-- Whether a slot can have a value: a path may not be blank, and there are but two formats. -/
def Slot.accepts (v : Text) : Slot → Bool
  | .logLevel | .lintTool | .buildTags => true
  | .config | .goRoot | .operand => v ≠ []
  | .format => (formatOf? v).isSome

/-! ### One level -/

/-- What has been read on a level: the switches that are on, the values that have been examined, and
the slot that has not, with its value if that has come. Behind `--` every word is an operand. -/
structure Reading where
  switches : List Switch := []
  values : List (Slot × Text) := []
  pending : Option (Slot × Option Text) := none
  hasOperand : Bool := false
  isLiteral : Bool := false
  deriving DecidableEq, Repr

/-- The value of a slot. -/
def Reading.value? (r : Reading) (slot : Slot) : Option Text := r.values.lookup slot

/-- Whether a switch is on. -/
def Reading.isOn (r : Reading) (s : Switch) : Bool := r.switches.contains s

/-- Whether nothing was given on a level. -/
def Reading.isBlank (r : Reading) : Bool := r.switches.isEmpty && r.values.isEmpty

/-- Give a slot its value; it has to have one, and only one. -/
def Reading.assign (r : Reading) (slot : Slot) : Option Text → Except UsageError Reading
  | none => .error .invalidValue
  | some v =>
    if (r.value? slot).isSome then .error .conflict
    else if slot.accepts v then .ok { r with values := (slot, v) :: r.values }
    else .error .invalidValue

/-- Examine the slot that is pending. -/
def Reading.settle (r : Reading) : Except UsageError Reading :=
  match r.pending with
  | none => .ok r
  | some (slot, v) => { r with pending := none }.assign slot v

/-- Turn a switch on, once at most. -/
def Reading.turnOn (r : Reading) (s : Switch) : Except UsageError Reading :=
  match s with
  | .help => .error .help
  | .version => .error .version
  | s => if r.isOn s then .error .conflict else .ok { r with switches := s :: r.switches }

/-- Whether the next word can be the value of an option. -/
def Reading.awaitsValue (r : Reading) : Bool :=
  match r.pending with
  | some (_, none) => ! r.isLiteral
  | _ => false

/-- A word that is none of the level's operands. -/
def Level.surplus (level : Level) (isLiteral : Bool) (word : Text) : UsageError :=
  if level = .top && ! (isLiteral && isCommandName word) then .invalidSubcommand else .unknownArgument

/-- Read an operand. -/
def Reading.operand (r : Reading) (level : Level) (word : Text) : Except UsageError Reading :=
  if level.hasOperand && ! r.hasOperand then do
    let r ← r.settle
    return { r with pending := some (.operand, some word), hasOperand := true }
  else .error (level.surplus r.isLiteral word)

/-- Read what stands behind two dashes. -/
def Reading.long (r : Reading) (level : Level) (body : Text) : Except UsageError Reading :=
  let (name, value) := match Text.cut '=' body with
    | some (name, value) => (name, some value)
    | none => (body, none)
  match level.names.lookup name, value with
  | none, _ => .error .unknownArgument
  | some (.inl _), some _ => .error .tooManyValues
  | some (.inl s), none => do (← r.settle).turnOn s
  | some (.inr slot), some v => do (← r.settle).assign slot (some v)
  | some (.inr slot), none => do return { ← r.settle with pending := some (slot, none) }

/-- Read one letter of those behind a single dash. -/
def Reading.letter (level : Level) (r : Reading) (c : Char) : Except UsageError Reading :=
  match level.letters.lookup c with
  | none => .error .unknownArgument
  | some s => do (← r.settle).turnOn s

/-- Read a word that names no command. -/
def Reading.word (level : Level) (r : Reading) (w : Text) : Except UsageError Reading :=
  if r.isLiteral then r.operand level w
  else
    match w with
    | ['-', '-'] => .ok { r with isLiteral := true }
    | '-' :: '-' :: body => r.long level body
    | '-' :: c :: cs => (c :: cs).foldlM (Reading.letter level) r
    | w =>
      match r.pending with
      | some (slot, none) => .ok { r with pending := some (slot, some w) }
      | _ => r.operand level w

/-! ### Both levels -/

/-- Read the words of a command. -/
def readCommand (level : Level) (words : List Text) : Except UsageError Reading := do
  let r ← words.foldlM (Reading.word level) {}
  let r ← r.settle
  if level.hasOperand && ! r.hasOperand then .error .missingOperand else return r

/-- What the command `help` answers: help on the command that is named, if it is one. -/
def readHelp : List Text → UsageError
  | [] => .help
  | [name] => if isCommandName name then .help else .invalidSubcommand
  | _ => .invalidSubcommand

/-- What a command's words say about the settings. -/
def overridesOf (r : Reading) : Overrides where
  noBuild := r.isOn .noBuild
  noLint := r.isOn .noLint
  noVet := r.isOn .noVet
  cover := r.isOn .cover
  lintTool := r.value? .lintTool
  buildTags := r.value? .buildTags

/-- The command that a level's words describe. -/
def commandOf (level : Level) (r : Reading) : Command :=
  let operand := (r.value? .operand).getD []
  match level with
  | .check => .check operand (((r.value? .format).bind formatOf?).getD .text) (overridesOf r)
  | .watch => .watch operand (overridesOf r)
  | .serve | .top => .serve

/-- The log level where none is given. -/
def defaultLogLevel : Text := "info".toList

/-- The command line of a program's and a command's words. What the command says goes first. -/
def ofReadings (outer : Reading) (level : Level) (inner : Reading) : CommandLine :=
  let value (slot : Slot) := (inner.value? slot).or (outer.value? slot)
  { logLevel := (value .logLevel).getD defaultLogLevel
    config := value .config
    goRoot := value .goRoot
    command := commandOf level inner }

/-- Read the words from the program's options on. -/
def readTop (r : Reading) : List Text → Except UsageError CommandLine
  | [] => do
    let r ← r.settle
    .error (if r.isBlank then .nothingGiven else .missingSubcommand)
  | w :: ws =>
    if r.isLiteral || r.awaitsValue || ! isCommandName w then do readTop (← r.word .top w) ws
    else
      match Level.ofName? w with
      | none => .error (readHelp ws)
      | some level => do
        let inner ← readCommand level ws
        return ofReadings (← r.settle) level inner

/-- Read a command line. -/
def parse (words : List Text) : Except UsageError CommandLine := readTop {} words

end SaveCheck.CommandLine
