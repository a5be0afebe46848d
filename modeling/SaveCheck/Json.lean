import SaveCheck.Text.Numeral
import SaveCheck.Value

/-!
The JSON text of a value, with two blanks of indent per level.
-/

namespace SaveCheck.Json

/-- A character inside of quotes. Only quotes, backslashes and controls are escaped. -/
def escape (c : Char) : Text :=
  if c = '"' then ['\\', '"']
  else if c = '\\' then ['\\', '\\']
  else if c = '\x08' then ['\\', 'b']
  else if c = '\x0c' then ['\\', 'f']
  else if c = '\n' then ['\\', 'n']
  else if c = '\r' then ['\\', 'r']
  else if c = '\t' then ['\\', 't']
  else if c.toNat < 0x20 then ['\\', 'u', '0', '0', Numeral.hexDigit (c.toNat / 16), Numeral.hexDigit c.toNat]
  else [c]

/-- A text in quotes. -/
def quote (t : Text) : Text := '"' :: t.flatMap escape ++ ['"']

/-- A new line, indented for a level. -/
def newline (level : Nat) : Text := '\n' :: List.replicate (2 * level) ' '

mutual

/-- The text of a value that stands at a level. JSON has no dates; they are written as texts. -/
def pretty (level : Nat) : Value → Text
  | .null => "null".toList
  | .flag true => "true".toList
  | .flag false => "false".toList
  | .number written => written
  | .date written => quote written
  | .text t => quote t
  | .list [] => "[]".toList
  | .list (x :: xs) =>
    '[' :: newline (level + 1) ++ pretty (level + 1) x ++ prettyItems (level + 1) xs
      ++ newline level ++ [']']
  | .record [] => ['\x7b', '\x7d']
  | .record ((k, v) :: ms) =>
    '\x7b' :: newline (level + 1) ++ quote k ++ ": ".toList ++ pretty (level + 1) v
      ++ prettyMembers (level + 1) ms ++ newline level ++ ['\x7d']

/-- The items after the first. -/
def prettyItems (level : Nat) : List Value → Text
  | [] => []
  | x :: xs => ',' :: newline level ++ pretty level x ++ prettyItems level xs

/-- The members after the first. -/
def prettyMembers (level : Nat) : List (Text × Value) → Text
  | [] => []
  | (k, v) :: ms =>
    ',' :: newline level ++ quote k ++ ": ".toList ++ pretty level v ++ prettyMembers level ms

end

end SaveCheck.Json
