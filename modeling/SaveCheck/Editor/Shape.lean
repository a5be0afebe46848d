import SaveCheck.Editor.Url
import SaveCheck.Text.Numeral
import SaveCheck.Value

/-!
Shapes: what a value that an editor sends has to look like.

    record [line, character]      {"line": 3, "character": 0}     by name, in any order
                                  [3, 0]                          or in the order of the members
    optional text                 "a", null, or no such member

Members that a record does not know are passed over. Whether a value has a shape is one recursion over
the shape.
-/

namespace SaveCheck.Editor

/-- A shape of values. -/
inductive Shape where
  | any
  | flag
  | text
  /-- A text that can be read as a URL. -/
  | url
  | number
  /-- A whole number, written as such, from `low` to `high`. -/
  | whole (low high : Int)
  /-- One of some words. -/
  | word (choices : List Text)
  /-- Null stands for nothing, and as a member the value may be left out. -/
  | optional (shape : Shape)
  /-- The value may be left out as a member, and at the end of a list of members. -/
  | defaulted (shape : Shape)
  | list (item : Shape)
  /-- A list with an item for each shape. -/
  | tuple (items : List Shape)
  /-- Members by name, or their values in order. -/
  | fields (members : List (Text × Shape))
  /-- Members by name only; all others have the shape `rest`. -/
  | labelled (members : List (Text × Shape)) (rest : Shape)
  /-- Any number of members. -/
  | table (key value : Shape)
  /-- Members of which one, `tag`, tells the shape of the others; in a list it comes first. -/
  | tagged (tag : Text) (cases : List (Text × Shape))
  /-- One shape of several. -/
  | either (choices : List Shape)

namespace Shape

/-! ### Ways to write a shape -/

/-- Names as texts. -/
def spell (members : List (String × Shape)) : List (Text × Shape) :=
  members.map fun (name, shape) => (name.toList, shape)

/-- Members by name, or their values in order. -/
def record (members : List (String × Shape)) : Shape := .fields (spell members)

/-- Members by name only, whatever else there is. -/
def named (members : List (String × Shape)) : Shape := .labelled (spell members) .any

/-- One of some words. -/
def oneOf (choices : List String) : Shape := .word (choices.map String.toList)

/-- A whole number of 32 bits. -/
def integer : Shape := .whole (-(1 <<< 31)) ((1 <<< 31) - 1)

/-- A whole number of 32 bits that is not negative. -/
def uinteger : Shape := .whole 0 ((1 <<< 32) - 1)

/-! ### Acceptance -/

/-- Whether a member with this shape may be left out. -/
def mayMiss : Shape → Bool
  | .optional _ | .defaulted _ => true
  | _ => false

/-- Whether a list of members may end before one with this shape. -/
def mayEnd : Shape → Bool
  | .defaulted _ => true
  | _ => false

/-- Whether a number is written as a whole one, and lies between two others. -/
def isWithin (low high : Int) (written : Text) : Bool :=
  match Numeral.readInteger? written with
  | some n => low ≤ n && n ≤ high
  | none => false

mutual

/-- Whether a value has a shape. -/
def accepts : Shape → Value → Bool
  | .any, _ => true
  | .flag, .flag _ => true
  | .text, .text _ => true
  | .url, .text t => (Url.parse? t).isSome
  | .number, .number _ => true
  | .whole low high, .number written => isWithin low high written
  | .word choices, .text t => choices.contains t
  | .word choices, .record [(t, .null)] => choices.contains t
  | .optional _, .null => true
  | .optional shape, v => accepts shape v
  | .defaulted shape, v => accepts shape v
  | .list item, .list vs => vs.all fun v => accepts item v
  | .tuple items, .list vs => acceptsItems items vs
  | .fields members, .record vs => acceptsMembers members vs
  | .fields members, .list vs => acceptsInOrder members vs
  | .labelled members rest, .record vs =>
    acceptsMembers members vs
      && vs.all fun (name, v) => members.any (fun m => m.1 == name) || accepts rest v
  | .table key value, .record vs => vs.all fun (name, v) => accepts key (.text name) && accepts value v
  | .tagged tag cases, .record vs =>
    match Value.member? tag vs with
    | some (.text name) => acceptsCase name (.record vs) cases
    | _ => false
  | .tagged _ cases, .list (.text name :: vs) => acceptsCase name (.list vs) cases
  | .either choices, v => acceptsSome v choices
  | _, _ => false

/-- Whether each of the shapes has its value, and there is no other. -/
def acceptsItems : List Shape → List Value → Bool
  | [], [] => true
  | shape :: shapes, v :: vs => accepts shape v && acceptsItems shapes vs
  | _, _ => false

/-- Whether all members of a record are there or may be left out. -/
def acceptsMembers : List (Text × Shape) → List (Text × Value) → Bool
  | [], _ => true
  | (name, shape) :: members, vs =>
    (match Value.member? name vs with
      | some v => accepts shape v
      | none => mayMiss shape) && acceptsMembers members vs

/-- Whether the values are those of the members in order. -/
def acceptsInOrder : List (Text × Shape) → List Value → Bool
  | [], vs => vs.isEmpty
  | (_, shape) :: members, [] => mayEnd shape && acceptsInOrder members []
  | (_, shape) :: members, v :: vs => accepts shape v && acceptsInOrder members vs

/-- Whether a value has the shape that a name stands for. -/
def acceptsCase (name : Text) (v : Value) : List (Text × Shape) → Bool
  | [] => false
  | (k, shape) :: cases => if k = name then accepts shape v else acceptsCase name v cases

/-- Whether a value has one shape of several. -/
def acceptsSome (v : Value) : List Shape → Bool
  | [] => false
  | shape :: shapes => accepts shape v || acceptsSome v shapes

end

/-! ### Reading -/

/-- The value of one member of a record. -/
def member? (members : List (String × Shape)) (name : String) (v : Value) : Option Value :=
  v.field? (members.map (·.1.toList)) name.toList

end Shape

end SaveCheck.Editor
