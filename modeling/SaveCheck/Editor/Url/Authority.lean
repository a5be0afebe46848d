import SaveCheck.Editor.Url.Address
import SaveCheck.Editor.Url.Domain
import SaveCheck.Editor.Url.Trail

/-!
What stands between the two slashes of a URL and its path: who asks, which host, and at which of its
ports.

    user:secret@localhost:8080

Everything has one spelling in the end: a user without a name goes, and so does a port that the scheme
implies.
-/

namespace SaveCheck.Url

/-- Where something is found: nowhere in particular, at a host with a name, or at an address. -/
inductive Host where
  | nowhere
  | named (name : Text)
  | address (written : Text)
  deriving DecidableEq, Repr

namespace Host

/-- The host that means no other machine. -/
def localName : Text := "localhost".toList

/-- Whether a host is no other machine. -/
def isLocal : Host → Bool
  | .nowhere => true
  | .named name => name = localName
  | .address _ => false

/-- How a host is written. -/
def write : Host → Text
  | .nowhere => []
  | .named name => name
  | .address written => written

/-- A name, which may be blank. -/
def ofName (name : Text) : Host := if name = [] then .nowhere else .named name

/-- An address in brackets. -/
def bracketed? (t : Text) : Option Host :=
  match t.reverse with
  | ']' :: inner => if isGrouped inner.reverse then some (.address ('[' :: Text.lower t)) else none
  | _ => none

/-- The host of a scheme with a special meaning. -/
def special? : Text → Option Host
  | '[' :: r => bracketed? r
  | t => do
    let name ← domain? (← Utf8.decode? (unescape t))
    if name = [] then none
    else if isNumbered name then if isAddress name then some (.address name) else none
    else some (.named name)

/-- What no other host may have in its name. -/
def isForbidden (c : Char) : Bool := c = '\x00' || c ∈ " #/:<>?@[\\]^|".toList

/-- The host of any other scheme. -/
def other? : Text → Option Host
  | '[' :: r => bracketed? r
  | t => if t.any isForbidden then none else some (ofName (escape isForeign t))

/-- Read a host. -/
def read? (k : Kind) (t : Text) : Option Host := if k.isSpecial then special? t else other? t

end Host

/-! ### Users -/

/-- A user with the mark that follows; a blank name and a blank password are left out. -/
def user (t : Text) : Text :=
  let written := match Text.cut ':' t with
    | some (name, []) => escape isUserEscaped name
    | some (name, secret) => escape isUserEscaped name ++ ':' :: escape isUserEscaped secret
    | none => escape isUserEscaped t
  if written = [] then [] else written ++ ['@']

/-! ### Ports -/

/-- The port that a scheme implies. -/
def impliedPort? (scheme : Text) : Option Nat :=
  [("http", 80), ("ws", 80), ("https", 443), ("wss", 443), ("ftp", 21)].findSome? fun (s, port) =>
    if s.toList = scheme then some port else none

/-- The first number that no port has. -/
def portLimit : Nat := 1 <<< 16

/-- A port with the mark in front of it. -/
def port? (scheme digits : Text) : Option Text :=
  if digits.all Char.isDigit && Numeral.value digits < portLimit then
    let port := Numeral.value digits
    some (if digits = [] || impliedPort? scheme = some port then [] else ':' :: Numeral.write port)
  else none

/-! ### The whole -/

/-- A host, and how it is written with a user and a port. -/
structure Authority where
  host : Host
  written : Text
  deriving DecidableEq, Repr

/-- Cut a text at its first colon outside of brackets. -/
def cutPort : (inside : Bool) → Text → Text × Option Text
  | _, [] => ([], none)
  | inside, c :: r =>
    if c = ':' && ! inside then ([], some r)
    else
      let (host, port) := cutPort (if c = '[' then true else if c = ']' then false else inside) r
      (c :: host, port)

/-- Whether a character ends an authority. -/
def Kind.endsAuthority (k : Kind) (c : Char) : Bool := k.isSlash c || c = '?' || c = '#'

/-- Read the authority at the front of a text, which comes with what follows it. A backslash behind a port
is never part of it. Nobody at nowhere is no authority, unless the text ends there. -/
def authority? (k : Kind) (scheme t : Text) : Option (Authority × Text) := do
  let own := t.takeWhile (! k.endsAuthority ·)
  let rest := t.dropWhile (! k.endsAuthority ·)
  let (who, place) := match Text.cutLast '@' own with
    | some (who, place) => (some (clean who), place)
    | none => (none, own)
  let (host, port) := cutPort false place
  let host ← Host.read? k (clean host)
  let user := (who.map user).getD []
  if host = .nowhere && (user ≠ [] || port.isSome || (who = some [] && rest ≠ [])) then none
  else
    let port := port.getD []
    let written ← port? scheme (clean (port.takeWhile (· ≠ '\\')))
    return (⟨host, user ++ host.write ++ written⟩, port.dropWhile (· ≠ '\\') ++ rest)

end SaveCheck.Url
