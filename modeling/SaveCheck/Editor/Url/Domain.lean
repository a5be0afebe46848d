import SaveCheck.Editor.Url.Punycode
import SaveCheck.Text.Barred
import SaveCheck.Text.Class
import SaveCheck.Text.Folded

/-!
Names of hosts: letters in lower case, other ways to write ASCII folded, and nothing in them that a name
may not have.

    LocalHost · ｌocalhost · localho%C5%BFt  ── domain? ──▶  localhost

Only ASCII names mean anything to this library, so what has no ASCII form is only looked at for
whether it is barred, and stays as it is.
-/

namespace SaveCheck.Url

/-! ### Characters -/

/-- ASCII characters that no host name may have. -/
def isForbidden (c : Char) : Bool := c.toNat ≤ 0x20 || c.toNat = 0x7f || c ∈ "#%/:<>?@[\\]^|".toList

/-- The ASCII text that a character past ASCII stands for. -/
def folded? (c : Char) : Option Text :=
  match Text.foldedRuns.find? fun (lo, hi, _) => lo ≤ c.toNat && c.toNat ≤ hi with
  | some (lo, _, first) => some [Char.ofNat (first + (c.toNat - lo))]
  | none => (Text.foldedTexts.lookup c.toNat).map String.toList

/-- What a character of a host name is read as. -/
def foldChar? (c : Char) : Option Text :=
  if c.toNat < 0x80 then if isForbidden c then none else some [c.toLower]
  else if Text.inRanges Text.ignoredRanges c then some []
  else
    match folded? c with
    | some t => some t
    | none => if Text.inRanges Text.barredRanges c then none else some [c]

/-- Whether a character stays what it is in a host name. -/
def isKept (c : Char) : Bool := foldChar? c = some [c]

/-! ### Labels -/

/-- The two joiners, which hold characters of some scripts together. -/
def isJoiner (c : Char) : Bool := c = '\u200c' || c = '\u200d'

/-- Whether every joiner follows a character past ASCII; `before` is what stands before the first. -/
def joinersFit : (before : Char) → Text → Bool
  | _, [] => true
  | before, c :: r => (! isJoiner c || 0x80 ≤ before.toNat) && joinersFit c r

/-- Whether a label past ASCII may stand in a host name. -/
def isLabel (label : Text) : Bool :=
  joinersFit ' ' label && ! label.head?.any (Text.inRanges Text.markRanges ·)

/-- What marks the ASCII form of a label. -/
def encodedMark : Text := "xn--".toList

/-- Whether a label with a mark is the ASCII form of one past ASCII. -/
def isEncoded (form : Text) : Bool :=
  match Punycode.decode? form with
  | some label => label.any (0x80 ≤ ·.toNat) && label.all isKept && isLabel label
  | none => false

/-- Whether a label is what it seems to be. -/
def isSound (label : Text) : Bool :=
  match Text.after? encodedMark label with
  | some form => isEncoded form
  | none => label.all (·.toNat < 0x80) || isLabel label

/-- The name of a host, if it is one. -/
def domain? (t : Text) : Option Text := do
  let name := (← t.mapM foldChar?).flatten
  if (Text.cells (· = '.') name).all isSound then return name else none

end SaveCheck.Url
