import SaveCheck.Toml.Quoted
import SaveCheck.Toml.Scalar
import SaveCheck.Toml.Tree

/-!
TOML documents.

    # a comment
    vetOnSave = false
    buildFlags = [
      "-race",
    ]
    [section]
    point = { x = 1, y.z = 2 }

Every reader takes the text from where it stands and gives what it has read with the text that follows.
Keys, lists and inline tables are read to a limited depth, and loops run no longer than the text is.
-/

namespace SaveCheck.Toml

/-- What reads something off the front of a text. -/
abbrev Reader (α : Type) := Text → Option (α × Text)

/-! ### Blanks and comments -/

/-- Whether a character separates the words of a line. -/
def isSpace (c : Char) : Bool := c = ' ' || c = '\t'

/-- Skip the blanks of a line. -/
def skipSpace (t : Text) : Text := t.dropWhile isSpace

/-- Skip blanks and comments: up to the end of the line, which has to come next, or over any number of
lines. -/
def skip (many : Bool) : (inComment : Bool) → Text → Option Text
  | _, [] => some []
  | _, '\n' :: r => if many then skip many false r else some r
  | _, '\r' :: '\n' :: r => if many then skip many false r else some r
  | true, c :: r => if isPlain c then skip many true r else none
  | false, c :: r =>
    if c = '#' then skip many true r
    else if isSpace c then skip many false r
    else if many then some (c :: r)
    else none

/-! ### Keys -/

/-- Whether a character may stand in a name without quotes. -/
def isBareChar (c : Char) : Bool := c.isAlphanum || c = '_' || c = '-'

/-- Read a name, quoted or not. -/
def name? : Reader Text
  | '"' :: r => shortQuoted? ('"' :: r)
  | '\'' :: r => shortQuoted? ('\'' :: r)
  | t =>
    match t.takeWhile isBareChar with
    | [] => none
    | run => some (run, t.dropWhile isBareChar)

/-- Read names with dots between them, no more than `most`. -/
def names? : (most : Nat) → Reader (List Text)
  | 0, _ => none
  | most + 1, t => do
    let (name, rest) ← name? t
    match skipSpace rest with
    | '.' :: r =>
      let (names, rest) ← names? most (skipSpace r)
      return (name :: names, rest)
    | rest => return ([name], rest)

/-- How many names a key may have. -/
def keyLimit : Nat := 80

/-- Read a key. -/
def key? : Reader (List Text) := names? keyLimit

/-! ### Values -/

/-- Read `key = value`. -/
def assignment? (value? : Reader Value) : Reader (List Text × Value) := fun t => do
  let (key, rest) ← key? t
  match rest with
  | '=' :: r =>
    let (v, rest) ← value? (skipSpace r)
    return ((key, v), rest)
  | _ => none

/-- Read things with commas between them, no more than `most`, and the bracket that closes them. A comma
may stand behind the last one. -/
def sequence? (close : Char) (item? : Reader α) : (most : Nat) → Reader (List α)
  | 0, _ => none
  | most + 1, t => do
    match ← skip true false t with
    | [] => none
    | c :: r =>
      if c = close then return ([], r)
      else
        let (x, rest) ← item? (c :: r)
        match ← skip true false rest with
        | [] => none
        | d :: rest =>
          if d = close then return ([x], rest)
          else if d = ',' then
            let (xs, rest) ← sequence? close item? most rest
            return (x :: xs, rest)
          else none

/-- The table that the entries between braces make up. -/
def inlineTable? (entries : List (List Text × Value)) : Option Value :=
  assemble? (entries.map fun (key, v) => .entry key v)

/-- Read a value in which brackets are nested no deeper than `depth`. -/
def value? : (depth : Nat) → Reader Value
  | _, '"' :: r => (quoted? ('"' :: r)).map fun (t, rest) => (.text t, rest)
  | _, '\'' :: r => (quoted? ('\'' :: r)).map fun (t, rest) => (.text t, rest)
  | depth + 1, '[' :: r => do
    let (items, rest) ← sequence? ']' (value? depth) r.length r
    return (.list items, rest)
  | depth + 1, '\x7b' :: r => do
    let (entries, rest) ← sequence? '\x7d' (assignment? (value? depth)) r.length r
    return (← inlineTable? entries, rest)
  | _, t => scalar? t

/-- How deep brackets may be nested. -/
def depthLimit : Nat := 80

/-! ### Statements -/

/-- Read a header up to the brackets that close it. -/
def header? (close : Text) : Reader (List Text) := fun t => do
  let (path, rest) ← key? (skipSpace t)
  return (path, ← Text.after? close rest)

/-- Read a statement. -/
def statement? : Reader Statement
  | '[' :: '[' :: r => (header? "]]".toList r).map fun (path, rest) => (.element path, rest)
  | '[' :: r => (header? "]".toList r).map fun (path, rest) => (.table path, rest)
  | t => (assignment? (value? depthLimit) t).map fun ((key, v), rest) => (.entry key v, rest)

/-- Read statements on lines of their own, no more than `most`, up to the end of the text. -/
def statements? : (most : Nat) → Text → Option (List Statement)
  | 0, _ => none
  | most + 1, t => do
    match ← skip true false t with
    | [] => return []
    | t =>
      let (s, rest) ← statement? t
      return s :: (← statements? most (← skip false false rest))

/-- The record that a document describes. -/
def document? (t : Text) : Option Value := do
  let t := Text.dropMark t
  assemble? (← statements? (t.length + 1) t)

end SaveCheck.Toml
