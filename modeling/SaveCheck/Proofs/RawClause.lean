import SaveCheck.Proofs.AsciiCuts
import SaveCheck.Proofs.Commands
import SaveCheck.Proofs.PackageClause
import SaveCheck.Proofs.Streams

/-!
The package clause of a source whose bytes need not be text.

    [ef bb bf] filler package filler name stop rest

The filler is blanks and comments in ASCII, where the body of a comment may hold any bytes, and so may what stands
behind the byte that stops the name. Decoding makes or breaks no delimiter, so the clause is read from the decoded bytes
as it stands in the source.
-/

namespace SaveCheck

namespace Text

/-! ### Classes of ASCII -/

theorem inRanges_ascii {c : Char} (hc : c.toNat < 0x80) (rs : List (Nat × Nat)) :
    inRanges rs c = inRanges (rs.filter (·.1 < 0x80)) c := by
  rw [inRanges, inRanges, List.any_filter]
  refine congrArg rs.any (funext fun r => ?_)
  by_cases hr : r.1 < 0x80
  · simp [hr]
  · simp [hr]
    omega

theorem alphanumericRanges_ascii :
    alphanumericRanges.filter (·.1 < 0x80) = [(0x41, 0x5a), (0x61, 0x7a), (0x30, 0x39)] := by
  decide +kernel

end Text

namespace GoFile

/-! ### The grammar of the bytes -/

/-- Blanks and comments in any number. -/
inductive RawFiller : Bytes → Prop where
  | nil : RawFiller []
  | blank {b : UInt8} {bs : Bytes} : b = 0x20 ∨ 0x09 ≤ b ∧ b ≤ 0x0d → RawFiller bs → RawFiller (b :: bs)
  | line {body bs : Bytes} : 0x0a ∉ body → RawFiller bs → RawFiller (0x2f :: 0x2f :: (body ++ 0x0a :: bs))
  | block {body bs : Bytes} : ¬ [0x2a, 0x2f] <:+: body → RawFiller bs →
      RawFiller (0x2f :: 0x2a :: (body ++ 0x2a :: 0x2f :: bs))

/-- An ASCII letter, an ASCII digit or a low line. -/
def isIdentifierChar (c : Char) : Bool := c.isAlphanum || c = '_'

/-- A source with a clause in ASCII. -/
structure RawClause where
  mark : Bool
  before : Bytes
  between : Bytes
  name : Text
  stop : UInt8
  rest : Bytes
  before_filler : RawFiller before
  between_filler : RawFiller between
  between_ne_nil : between ≠ []
  name_ne_nil : name ≠ []
  name_chars : ∀ c ∈ name, isIdentifierChar c = true
  name_first : ∀ c ∈ name.head?, c.isDigit = false
  stop_ascii : stop.toNat < 0x80
  stop_stops : isIdentifierChar (Char.ofNat stop.toNat) = false

namespace RawClause

/-- The bytes of the source. -/
def bytes (k : RawClause) : Bytes :=
  (if k.mark then [0xef, 0xbb, 0xbf] else []) ++ (k.before ++ (Utf8.encode "package".toList ++
    (k.between ++ (Utf8.encode k.name ++ k.stop :: k.rest))))

/-- The clause in the decoded source. -/
def decoded (k : RawClause) : Clause where
  mark := k.mark
  before := Utf8.decodeLossy k.before
  between := Utf8.decodeLossy k.between
  name := k.name
  rest := Char.ofNat k.stop.toNat :: Utf8.decodeLossy k.rest

end RawClause

/-! ### ASCII characters -/

/-- What an identifier in ASCII is made of, by code points. -/
theorem isIdentifierChar_iff {c : Char} : isIdentifierChar c = true ↔
    Text.inRanges [(0x41, 0x5a), (0x61, 0x7a), (0x30, 0x39)] c = true ∨ c = '_' := by
  have hranges : isIdentifierChar c = ((decide (0x41 ≤ c.val ∧ c.val ≤ 0x5a) ||
      (decide (0x61 ≤ c.val) && decide (c.val ≤ 0x7a)) || (decide (0x30 ≤ c.val) && decide (c.val ≤ 0x39))) ||
      decide (c = '_')) := rfl
  rw [hranges]
  simp [Text.inRanges, UInt32.le_iff_toNat_le, or_assoc]

theorem ascii_of_isIdentifierChar {c : Char} (hc : isIdentifierChar c = true) : c.toNat < 0x80 := by
  rcases isIdentifierChar_iff.mp hc with hin | rfl
  · simp [Text.inRanges] at hin
    omega
  · decide

/-- In ASCII a name is made of what an identifier is made of. -/
theorem isNameChar_ascii {c : Char} (hc : c.toNat < 0x80) : isNameChar c = isIdentifierChar c := by
  rw [Bool.eq_iff_iff, isIdentifierChar_iff, ← Text.alphanumericRanges_ascii, ← Text.inRanges_ascii hc,
    ← Text.isAlphanumeric_eq]
  simp [isNameChar]

theorem isBlank_ascii {b : UInt8} (hb : b = 0x20 ∨ 0x09 ≤ b ∧ b ≤ 0x0d) :
    b.toNat < 0x80 ∧ Text.isBlank (Char.ofNat b.toNat) = true := by
  have hall : ∀ n < 0x80, n = 0x20 ∨ 0x09 ≤ n ∧ n ≤ 0x0d → Text.isBlank (Char.ofNat n) = true := by decide +kernel
  have hnat : b.toNat = 0x20 ∨ 0x09 ≤ b.toNat ∧ b.toNat ≤ 0x0d := by
    rcases hb with rfl | ⟨hlo, hhi⟩
    · exact .inl rfl
    · exact .inr ⟨UInt8.le_iff_toNat_le.mp hlo, UInt8.le_iff_toNat_le.mp hhi⟩
  exact ⟨by omega, hall _ (by omega) hnat⟩

/-! ### What the bytes are decoded to -/

/-- A block comment ends in the text where it ends in the bytes. -/
theorem not_infix_decodeLossy {body : Bytes} (hbody : ¬ [0x2a, 0x2f] <:+: body) :
    ¬ ['*', '/'] <:+: Utf8.decodeLossy body := by
  rintro ⟨u, v, huv⟩
  have hstar : Utf8.decodeLossy body = u ++ '*' :: '/' :: v := by simpa using huv.symm
  obtain ⟨a, r, rfl, -, hslash⟩ := Utf8.exists_cut (by decide) hstar
  obtain ⟨a', r', rfl, hnil, -⟩ := Utf8.exists_cut (u := []) (by decide) hslash
  obtain rfl := Utf8.decodeLossy_eq_nil_iff.mp hnil
  exact hbody ⟨a, r', by simp⟩

theorem decodeLossy_line (body r : Bytes) : Utf8.decodeLossy (0x2f :: 0x2f :: (body ++ 0x0a :: r)) =
    '/' :: '/' :: (Utf8.decodeLossy body ++ '\n' :: Utf8.decodeLossy r) := by
  rw [Utf8.decodeLossy_cons_ascii (by decide), Utf8.decodeLossy_cons_ascii (by decide),
    Utf8.decodeLossy_append_ascii (by decide)]
  rfl

theorem decodeLossy_block (body r : Bytes) : Utf8.decodeLossy (0x2f :: 0x2a :: (body ++ 0x2a :: 0x2f :: r)) =
    '/' :: '*' :: (Utf8.decodeLossy body ++ '*' :: '/' :: Utf8.decodeLossy r) := by
  rw [Utf8.decodeLossy_cons_ascii (by decide), Utf8.decodeLossy_cons_ascii (by decide),
    Utf8.decodeLossy_append_ascii (by decide), Utf8.decodeLossy_cons_ascii (by decide)]
  rfl

/-- A filler of bytes is decoded to a filler. -/
theorem RawFiller.filler {f : Bytes} (hf : RawFiller f) : Filler (Utf8.decodeLossy f) := by
  induction hf with
  | nil => exact .nil
  | blank hb _ ih =>
    obtain ⟨hascii, hblank⟩ := isBlank_ascii hb
    rw [Utf8.decodeLossy_cons_ascii hascii]
    exact .blank hblank ih
  | line hbody _ ih =>
    rw [decodeLossy_line]
    exact .line (mt (Utf8.mem_of_mem_decodeLossy (by decide)) hbody) ih
  | block hbody _ ih =>
    rw [decodeLossy_block]
    exact .block (not_infix_decodeLossy hbody) ih

/-- It ends in ASCII, so nothing behind it is decoded together with it. -/
theorem RawFiller.decodeLossy_append {f : Bytes} (hf : RawFiller f) (r : Bytes) :
    Utf8.decodeLossy (f ++ r) = Utf8.decodeLossy f ++ Utf8.decodeLossy r := by
  induction hf with
  | nil => rfl
  | blank hb _ ih =>
    have hascii := (isBlank_ascii hb).1
    rw [List.cons_append, Utf8.decodeLossy_cons_ascii hascii, Utf8.decodeLossy_cons_ascii hascii, ih, List.cons_append]
  | line _ _ ih =>
    simp only [List.cons_append, List.append_assoc]
    rw [decodeLossy_line, decodeLossy_line, ih]
    simp
  | block _ _ ih =>
    simp only [List.cons_append, List.append_assoc]
    rw [decodeLossy_block, decodeLossy_block, ih]
    simp

namespace RawClause

variable (k : RawClause)

theorem decodeLossy_bytes : Utf8.decodeLossy k.bytes = k.decoded.text := by
  have hmark : ∀ r, Utf8.decodeLossy ((if k.mark then [0xef, 0xbb, 0xbf] else []) ++ r) =
      if k.mark then '\ufeff' :: Utf8.decodeLossy r else Utf8.decodeLossy r := by
    intro r
    split
    · exact Utf8.decodeLossy_encode_append ['\ufeff'] r
    · rfl
  rw [bytes, hmark, k.before_filler.decodeLossy_append, Utf8.decodeLossy_encode_append,
    k.between_filler.decodeLossy_append, Utf8.decodeLossy_encode_append, Utf8.decodeLossy_cons_ascii k.stop_ascii]
  rfl

theorem decoded_proper : k.decoded.Proper where
  before := k.before_filler.filler
  between := k.between_filler.filler
  apart := mt Utf8.decodeLossy_eq_nil_iff.mp k.between_ne_nil
  name.ne_nil := k.name_ne_nil
  name.chars c hc := (isNameChar_ascii (ascii_of_isIdentifierChar (k.name_chars c hc))).trans (k.name_chars c hc)
  name.first := k.name_first
  rest := by
    rintro _ ⟨⟩
    have hascii : (Char.ofNat k.stop.toNat).toNat < 0x80 := by
      rw [Utf8.toNat_ofNat_ascii k.stop_ascii]
      exact k.stop_ascii
    exact (isNameChar_ascii hascii).trans k.stop_stops

/-- The name is read from the decoded bytes. -/
theorem packageName?_decodeLossy : packageName? (Utf8.decodeLossy k.bytes) = some k.name := by
  rw [k.decodeLossy_bytes]
  exact packageName?_text k.decoded_proper

end RawClause

end GoFile

/-! ### The build check -/

namespace Checker

variable {c : Checker} {h : Host} {go file dir : Path} {s : Settings}

/-- A source that holds such a clause is built by the name in it, whatever the other bytes are: the build check takes
that name for the name of the package, runs the command for it, and comes to what that finds. -/
theorem builds_rawClause (k : GoFile.RawClause) {found : Scene} (hread : found.disk.read h.cwd file = .ok k.bytes) :
    let r := c.buildRun go s file dir (k.name = "main".toList)
    GoFile.packageName? (Utf8.decodeLossy k.bytes) = some k.name ∧
      (∀ ss e, (c.buildWork h go s file dir).follow (found :: ss) ≠ .done (.error e)) ∧
      (∀ launching later, (c.buildWork h go s file dir).follow [found, launching, later] =
        .done (.ok (r.found h (r.launch h launching.disk)))) ∧
      (¬ GoFile.NamedTest file → r.args =
        "build".toList :: (if k.name = "main".toList then [] else ["-i".toList]) ++ ["-o".toList, c.buildOutput]
          ++ ["-tags".toList, '"' :: s.buildTags ++ ['"']] ++ s.buildFlags ++ [".".toList]) := by
  intro r
  have hname := k.packageName?_decodeLossy
  have hmain : GoFile.isMain (Utf8.decodeLossy k.bytes) = decide (k.name = "main".toList) := by
    rw [GoFile.isMain, hname]
    simp
  have hwork : ∀ ss, (c.buildWork h go s file dir).follow (found :: ss) =
      ((ToolRun.work h fun _ => r).map .ok).follow ss := by
    intro ss
    rw [buildWork_eq, Work.follow, hread, afterSource, sourceRun, hmain]
  refine ⟨hname, fun ss e => ?_, fun launching later => ?_, fun htest => ?_⟩
  · rw [hwork]
    exact Work.follow_map_ok_ne _ ss e
  · rw [hwork, Work.follow_map, (r.leaves_work h (r.leaves_rest h _ later [])).follow]
    rfl
  · have hargs : r.args = s.buildArgs file (k.name = "main".toList) c.buildOutput := rfl
    rw [hargs, Settings.buildArgs, Settings.buildHead, if_neg (mt GoFile.isTest_iff.mp htest)]
    simp

/-- A library with comments that are no text, and no text behind its clause. -/
def oddClause : GoFile.RawClause where
  mark := true
  before := 0x2f :: 0x2a :: ([0xff, 0x2a, 0xe2] ++ 0x2a :: 0x2f :: 0x0a :: [])
  between := 0x2f :: 0x2f :: ([0x2a, 0x2f, 0xf0, 0x9f] ++ 0x0a :: [])
  name := "util".toList
  stop := 0x0a
  rest := [0xff, 0xfe]
  before_filler := .block (by decide) (.blank (by decide) .nil)
  between_filler := .line (by decide) .nil
  between_ne_nil := by simp
  name_ne_nil := by decide
  name_chars := List.all_eq_true.mp (by decide)
  name_first := by
    rintro _ ⟨⟩
    rfl
  stop_ascii := by decide
  stop_stops := by decide

/-- The disk of the workshop with that source. -/
def oddDisk : Disk := workshopDisk.set ["p".toList, "a.go".toList] (some (.file oddClause.bytes false))

/-- It is built like any other library, and the issue of the build is found. -/
theorem builds_rawClause_odd :
    let scene : Scene := { disk := oddDisk }
    (workshopChecker.buildWork workshop "/b/go".toList {} "/p/a.go".toList "/p".toList).follow [scene, scene, scene] =
        .done (.ok [workshopFault .error]) ∧
      (workshopChecker.buildRun "/b/go".toList {} "/p/a.go".toList "/p".toList false).args =
        ["build".toList, "-i".toList, "-o".toList, "/t/out".toList, "-tags".toList, "\"\"".toList, ".".toList] := by
  intro scene
  obtain ⟨-, -, hresult, hargs⟩ := @builds_rawClause workshopChecker workshop "/b/go".toList "/p/a.go".toList
    "/p".toList {} oddClause scene rfl
  refine ⟨?_, hargs (mt GoFile.isTest_iff.mpr (by decide +kernel))⟩
  rw [hresult scene scene]
  exact congrArg _ (congrArg _ (by decide +kernel))

end Checker

end SaveCheck
