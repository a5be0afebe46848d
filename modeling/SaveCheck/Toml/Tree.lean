import SaveCheck.Value

/-!
The tables of a TOML document while its statements are put in one after the other.

    [a.b]        a is implied, b is stated
    c.d = 1      within b: c is dotted, d is a value
    [[e]]        e is a list of tables, and what follows belongs to its last one

A table is stated once, a dotted key turns what was implied into a dotted table, which no header states
any more, and a value never grows.
-/

namespace SaveCheck.Toml

/-- How a table came to be: on the way to another table, by a dotted key, or by a header of its own. -/
inductive TableKind where
  | implied
  | dotted
  | stated
  deriving DecidableEq, Repr

/-- What a name stands for. Of a list of tables the last one is still open. -/
inductive Node where
  | value (v : Value)
  | table (kind : TableKind) (members : List (Text × Node))
  | tables (earlier : List (List (Text × Node))) (last : List (Text × Node))

/-- What the names of one table stand for. -/
abbrev Members := List (Text × Node)

/-- Change what a name stands for, unless the change is refused. -/
def alter (name : Text) (change : Option Node → Option Node) : Members → Option Members
  | [] => (change none).map fun n => [(name, n)]
  | (k, n) :: rest =>
    if k = name then (change (some n)).map fun n' => (k, n') :: rest
    else (alter name change rest).map ((k, n) :: ·)

/-! ### Headers -/

/-- Change the table that a name stands for; a new one is implied. -/
def enter (change : Members → Option Members) : Option Node → Option Node
  | none => (change []).map (.table .implied)
  | some (.table kind ms) => (change ms).map (.table kind)
  | some (.tables earlier last) => (change last).map (.tables earlier)
  | some (.value _) => none

/-- Change the table that a path leads to. -/
def within : List Text → (Members → Option Members) → Members → Option Members
  | [], change => change
  | k :: ks, change => alter k (enter (within ks change))

/-- Change what the last name of a path stands for. -/
def alterAt (path : List Text) (change : Option Node → Option Node) (ms : Members) : Option Members :=
  match path.getLast? with
  | some name => within path.dropLast (alter name change) ms
  | none => none

/-- State a table. It may have been implied before. -/
def openTable : Option Node → Option Node
  | none => some (.table .stated [])
  | some (.table .implied ms) => some (.table .stated ms)
  | some _ => none

/-- Open one more table of a list. -/
def openElement : Option Node → Option Node
  | none => some (.tables [] [])
  | some (.tables earlier last) => some (.tables (earlier ++ [last]) [])
  | some _ => none

/-! ### Entries -/

/-- Change the table that a name in a dotted key stands for; it is dotted from then on. A stated table is
closed to dotted keys. They lead through the open table of a list, but enter nothing there themselves. -/
def enterDotted (isLast : Bool) (change : Members → Option Members) : Option Node → Option Node
  | none => (change []).map (.table .dotted)
  | some (.table .stated _) => none
  | some (.table _ ms) => (change ms).map (.table .dotted)
  | some (.tables earlier last) => if isLast then none else (change last).map (.tables earlier)
  | some (.value _) => none

/-- Enter a value under a name that stands for nothing yet. -/
def setValue (v : Value) : Option Node → Option Node
  | none => some (.value v)
  | some _ => none

/-- Enter a value under a key, whose names but the last lead to a table. -/
def addEntry (v : Value) : List Text → Members → Option Members
  | [], _ => none
  | [name], ms => alter name (setValue v) ms
  | k :: ks, ms => alter k (enterDotted (ks.length = 1) (addEntry v ks)) ms

/-! ### The whole tree -/

mutual

/-- The value of a node. -/
def Node.toValue : Node → Value
  | .value v => v
  | .table _ ms => .record (membersValue ms)
  | .tables earlier last => .list (elementsValue earlier ++ [.record (membersValue last)])

/-- The members of a table as values. -/
def membersValue : List (Text × Node) → List (Text × Value)
  | [] => []
  | (k, n) :: rest => (k, n.toValue) :: membersValue rest

/-- The tables of a list as values. -/
def elementsValue : List (List (Text × Node)) → List Value
  | [] => []
  | ms :: rest => .record (membersValue ms) :: elementsValue rest

end

/-- One statement of a document. -/
inductive Statement where
  | table (path : List Text)
  | element (path : List Text)
  | entry (key : List Text) (v : Value)

/-- A document as far as it is read: the path of the open section, and all tables. -/
structure Draft where
  openPath : List Text := []
  tree : Members := []

/-- Put in one statement. -/
def Draft.add (p : Draft) : Statement → Option Draft
  | .table path => (alterAt path openTable p.tree).map (⟨path, ·⟩)
  | .element path => (alterAt path openElement p.tree).map (⟨path, ·⟩)
  | .entry key v => (within p.openPath (addEntry v key) p.tree).map (⟨p.openPath, ·⟩)

/-- The value of a list of statements. -/
def assemble? (statements : List Statement) : Option Value :=
  (statements.foldlM Draft.add {}).map fun p => .record (membersValue p.tree)

end SaveCheck.Toml
