import SaveCheck.Text

/-!
Values of a data format, as a settings file or an editor sends them. Numbers and dates are kept as they
are written; the members of a record keep their order.
-/

namespace SaveCheck

/-- A value of a data format. -/
inductive Value where
  | null
  | flag (b : Bool)
  | number (written : Text)
  | date (written : Text)
  | text (t : Text)
  | list (items : List Value)
  | record (members : List (Text × Value))
  deriving Inhabited

namespace Value

/-- The value of the first member with a name. -/
def member? (name : Text) : List (Text × Value) → Option Value
  | [] => none
  | (k, v) :: rest => if k = name then some v else member? name rest

/-- The member of a record; no other value has members. -/
def get? (name : Text) : Value → Option Value
  | .record members => member? name members
  | _ => none

/-- The member of a record by its name, or the item of a list that has the place of `name` in `names`. -/
def field? (names : List Text) (name : Text) : Value → Option Value
  | .record members => member? name members
  | .list items => (names.zip items).lookup name
  | _ => none

/-! ### Reading one kind of value -/

/-- The truth of a flag. -/
def flag? : Value → Option Bool
  | .flag b => some b
  | _ => none

/-- The text of a text. -/
def text? : Value → Option Text
  | .text t => some t
  | _ => none

/-- The texts of a list that holds nothing else. -/
def texts? : Value → Option (List Text)
  | .list items => items.mapM text?
  | _ => none

/-- A text or nothing, which is written as null. -/
def optionalText? : Value → Option (Option Text)
  | .null => some none
  | .text t => some (some t)
  | _ => none

end Value

end SaveCheck
