import SaveCheck.Text

/-!
UTF-8, byte by byte. The decoder keeps the sequence it is inside of and says what each byte settles:

    start ── 00..7f ──▶ a character            start ── c2..f4 ──▶ inside
    inside ── a byte in range ──▶ inside, or a character when it was the last one
    inside ── any other byte ──▶ an ill-formed piece, and the byte is read again from the start

So each ill-formed piece is as long as it can be and still begin a well-formed sequence.
-/

namespace SaveCheck

/-- Raw data: what a file holds or a program prints. -/
abbrev Bytes := List UInt8

namespace Utf8

/-- A sequence that has begun: the bits read so far, how many bytes are to come, and the range that
the next of them must lie in. -/
structure Pending where
  bits : Nat
  missing : Nat
  lo : Nat
  hi : Nat
  deriving DecidableEq, Repr

/-- What a text is decoded from: a character, or an ill-formed piece. -/
abbrev Piece := Option Char

/-- The first byte of a sequence settles a character, opens a sequence, or is ill-formed alone. The
narrower ranges leave out overlong forms, surrogates and what lies past the last code point. -/
def open? (b : Nat) : Piece ⊕ Pending :=
  if b < 0x80 then .inl (some (Char.ofNat b))
  else if b < 0xc2 then .inl none
  else if b < 0xe0 then .inr ⟨b - 0xc0, 1, 0x80, 0xbf⟩
  else if b = 0xe0 then .inr ⟨0, 2, 0xa0, 0xbf⟩
  else if b = 0xed then .inr ⟨0xd, 2, 0x80, 0x9f⟩
  else if b < 0xf0 then .inr ⟨b - 0xe0, 2, 0x80, 0xbf⟩
  else if b = 0xf0 then .inr ⟨0, 3, 0x90, 0xbf⟩
  else if b < 0xf4 then .inr ⟨b - 0xf0, 3, 0x80, 0xbf⟩
  else if b = 0xf4 then .inr ⟨4, 3, 0x80, 0x8f⟩
  else .inl none

/-- A byte at the start of a sequence. -/
def first (b : Nat) : List Piece × Option Pending :=
  match open? b with
  | .inl p => ([p], none)
  | .inr s => ([], some s)

/-- One byte: the pieces it settles, and the sequence it leaves open. -/
def step (s : Option Pending) (b : Nat) : List Piece × Option Pending :=
  match s with
  | none => first b
  | some p =>
    if p.lo ≤ b ∧ b ≤ p.hi then
      let bits := p.bits * 64 + b % 64
      if p.missing ≤ 1 then ([some (Char.ofNat bits)], none)
      else ([], some ⟨bits, p.missing - 1, 0x80, 0xbf⟩)
    else
      let (pieces, s') := first b
      (none :: pieces, s')

/-- The pieces of the bytes that follow an open sequence. -/
def pieces (s : Option Pending) : Bytes → List Piece
  | [] => if s.isSome then [none] else []
  | b :: r =>
    let (settled, s') := step s b.toNat
    settled ++ pieces s' r

/-- The character that stands for an ill-formed piece. -/
def replacement : Char := '\ufffd'

/-- The text of any bytes: each ill-formed piece becomes one replacement character. -/
def decodeLossy (bs : Bytes) : Text := (pieces none bs).map (·.getD replacement)

/-- The text of well-formed bytes, and nothing for any other. -/
def decode? (bs : Bytes) : Option Text := (pieces none bs).mapM id

/-- The bytes of a character. -/
def encodeChar (c : Char) : Bytes :=
  let n := c.toNat
  if n < 0x80 then [n.toUInt8]
  else if n < 0x800 then [(0xc0 + n / 64).toUInt8, (0x80 + n % 64).toUInt8]
  else if n < 0x10000 then
    [(0xe0 + n / 4096).toUInt8, (0x80 + n / 64 % 64).toUInt8, (0x80 + n % 64).toUInt8]
  else
    [(0xf0 + n / 262144).toUInt8, (0x80 + n / 4096 % 64).toUInt8, (0x80 + n / 64 % 64).toUInt8,
      (0x80 + n % 64).toUInt8]

/-- The bytes of a text. -/
def encode (t : Text) : Bytes := t.flatMap encodeChar

end Utf8

end SaveCheck
