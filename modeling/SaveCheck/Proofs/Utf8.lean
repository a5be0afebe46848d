import SaveCheck.Proofs.Pieces
import SaveCheck.Text.Utf8

/-!
Encoded text is read back as it was.

    c  ── encodeChar ──▶  b · b' · b''  ── pieces ──▶  c

The first byte of a character opens a sequence whose range the next byte lies in. No byte of a character past
ASCII is an ASCII one, so encoded text falls into the same cells as the text.
-/

namespace SaveCheck.Utf8

/-! ### One character -/

theorem toNat_toUInt8 {n : Nat} (h : n < 256) : n.toUInt8.toNat = n := by
  simpa using Nat.mod_eq_of_lt h

theorem pieces_settle {b : UInt8} {c : Char} (r : Bytes) (h : open? b.toNat = .inl (some c)) :
    pieces none (b :: r) = some c :: pieces none r := by
  simp [pieces, step, first, h]

theorem pieces_open {b : UInt8} {p : Pending} (r : Bytes) (h : open? b.toNat = .inr p) :
    pieces none (b :: r) = pieces (some p) r := by
  simp [pieces, step, first, h]

section

variable {bits missing lo hi k : Nat} (r : Bytes) (hk : k < 64) (hlo : lo ≤ 0x80 + k) (hhi : 0x80 + k ≤ hi)
include hk hlo hhi

/-- A byte in range leads on while more are to come. -/
theorem pieces_inside (hmore : 1 < missing) :
    pieces (some ⟨bits, missing, lo, hi⟩) ((0x80 + k).toUInt8 :: r)
      = pieces (some ⟨bits * 64 + k, missing - 1, 0x80, 0xbf⟩) r := by
  have hbits : (0x80 + k) % 64 = k := by omega
  simp only [pieces, step, toNat_toUInt8 (show 0x80 + k < 256 by omega), hlo, hhi, hbits, and_self, if_true,
    if_neg (Nat.not_le.mpr hmore), List.nil_append]

/-- The last byte settles the character. -/
theorem pieces_last :
    pieces (some ⟨bits, 1, lo, hi⟩) ((0x80 + k).toUInt8 :: r)
      = some (Char.ofNat (bits * 64 + k)) :: pieces none r := by
  have hbits : (0x80 + k) % 64 = k := by omega
  simp only [pieces, step, toNat_toUInt8 (show 0x80 + k < 256 by omega), hlo, hhi, hbits, and_self, if_true,
    Nat.le_refl, List.singleton_append]

end

/-- No character stands for a surrogate, and none lies past the last code point. -/
theorem toNat_valid (c : Char) : c.toNat < 0xd800 ∨ 0xdfff < c.toNat ∧ c.toNat < 0x110000 := c.valid

theorem ofNat_eq {c : Char} {n : Nat} (h : n = c.toNat) : Char.ofNat n = c := by
  rw [h, Char.ofNat_toNat]

/-- The range of the second of three bytes leaves out overlong forms and surrogates. -/
theorem open?_three {m : Nat} (hm : m < 16) : ∃ lo hi, open? (0xe0 + m) = .inr ⟨m, 2, lo, hi⟩ ∧
    ∀ k, k < 64 → (m = 0 → 32 ≤ k) → (m = 13 → k < 32) → lo ≤ 0x80 + k ∧ 0x80 + k ≤ hi := by
  by_cases h0 : m = 0
  · exact ⟨0xa0, 0xbf, by simp [open?, h0], fun k hk h _ => by have := h h0; omega⟩
  by_cases h13 : m = 13
  · exact ⟨0x80, 0x9f, by simp [open?, h13], fun k hk _ h => by have := h h13; omega⟩
  refine ⟨0x80, 0xbf, ?_, fun k hk _ _ => by omega⟩
  rw [open?, if_neg (by omega), if_neg (by omega), if_neg (by omega), if_neg (by omega),
    if_neg (by omega), if_pos (by omega), Nat.add_sub_cancel_left]

/-- The range of the second of four bytes leaves out overlong forms and what lies past the last code
point. -/
theorem open?_four {m : Nat} (hm : m < 5) : ∃ lo hi, open? (0xf0 + m) = .inr ⟨m, 3, lo, hi⟩ ∧
    ∀ k, k < 64 → (m = 0 → 16 ≤ k) → (m = 4 → k < 16) → lo ≤ 0x80 + k ∧ 0x80 + k ≤ hi := by
  by_cases h0 : m = 0
  · exact ⟨0x90, 0xbf, by simp [open?, h0], fun k hk h _ => by have := h h0; omega⟩
  by_cases h4 : m = 4
  · exact ⟨0x80, 0x8f, by simp [open?, h4], fun k hk _ h => by have := h h4; omega⟩
  refine ⟨0x80, 0xbf, ?_, fun k hk _ _ => by omega⟩
  rw [open?, if_neg (by omega), if_neg (by omega), if_neg (by omega), if_neg (by omega),
    if_neg (by omega), if_neg (by omega), if_neg (by omega), if_pos (by omega), Nat.add_sub_cancel_left]

/-- The bytes of a character are read as that character. -/
theorem pieces_encodeChar (c : Char) (r : Bytes) :
    pieces none (encodeChar c ++ r) = some c :: pieces none r := by
  have hvalid := toNat_valid c
  have htail : ∀ n, n % 64 < 64 := fun n => Nat.mod_lt n (by decide)
  rw [encodeChar]
  split
  · refine pieces_settle r ?_
    rw [toNat_toUInt8 (by omega), open?, if_pos (by omega), Char.ofNat_toNat]
  split
  · have hopen : open? (0xc0 + c.toNat / 64) = .inr ⟨c.toNat / 64, 1, 0x80, 0xbf⟩ := by
      rw [open?, if_neg (by omega), if_neg (by omega), if_pos (by omega), Nat.add_sub_cancel_left]
    rw [List.cons_append, pieces_open _ (by rwa [toNat_toUInt8 (by omega)]), List.singleton_append,
      pieces_last r (htail _) (by omega) (by omega), ofNat_eq (c := c) (by omega)]
  split
  · obtain ⟨lo, hi, hopen, hrange⟩ := open?_three (m := c.toNat / 4096) (by omega)
    obtain ⟨hlo, hhi⟩ := hrange (c.toNat / 64 % 64) (htail _) (by omega) (by omega)
    rw [List.cons_append, pieces_open _ (by rwa [toNat_toUInt8 (by omega)]), List.cons_append,
      pieces_inside _ (htail _) hlo hhi (by omega), List.singleton_append,
      pieces_last r (htail _) (by omega) (by omega), ofNat_eq (c := c) (by omega)]
  · obtain ⟨lo, hi, hopen, hrange⟩ := open?_four (m := c.toNat / 262144) (by omega)
    obtain ⟨hlo, hhi⟩ := hrange (c.toNat / 4096 % 64) (htail _) (by omega) (by omega)
    rw [List.cons_append, pieces_open _ (by rwa [toNat_toUInt8 (by omega)]), List.cons_append,
      pieces_inside _ (htail _) hlo hhi (by omega), List.cons_append,
      pieces_inside _ (htail _) (by omega) (by omega) (by omega), List.singleton_append,
      pieces_last r (htail _) (by omega) (by omega), ofNat_eq (c := c) (by omega)]

/-! ### Text -/

theorem pieces_encode (t : Text) : pieces none (encode t) = t.map some := by
  induction t with
  | nil => rfl
  | cons c t ih => rw [encode, List.flatMap_cons, ← encode, pieces_encodeChar, ih, List.map_cons]

/-- Encoded text is decoded as it was. -/
theorem decode?_encode (t : Text) : decode? (encode t) = some t := by
  rw [decode?, pieces_encode]
  induction t with
  | nil => rfl
  | cons c t ih => rw [List.map_cons, List.mapM_cons, ih]; rfl

/-- Encoded text is decoded as it was, whatever follows. -/
theorem decodeLossy_encode_append (t : Text) (r : Bytes) : decodeLossy (encode t ++ r) = t ++ decodeLossy r := by
  induction t with
  | nil => rfl
  | cons c t ih =>
    rw [decodeLossy] at ih ⊢
    rw [encode, List.flatMap_cons, ← encode, List.append_assoc, pieces_encodeChar, List.map_cons, ih]
    rfl

theorem decodeLossy_encode (t : Text) : decodeLossy (encode t) = t := by
  have happend := decodeLossy_encode_append t []
  rw [List.append_nil] at happend
  exact happend.trans (List.append_nil t)

theorem encode_injective : Function.Injective encode := by
  intro t u h
  rw [← decodeLossy_encode t, h, decodeLossy_encode]

theorem encode_append (t u : Text) : encode (t ++ u) = encode t ++ encode u := List.flatMap_append

/-! ### Cells -/

/-- An ASCII byte stands for its own character only. -/
theorem mem_encodeChar_ascii {c : Char} {n : Nat} (hn : n < 0x80) (h : n.toUInt8 ∈ encodeChar c) :
    c.toNat = n := by
  have hbyte : ∀ m, m < 256 → n.toUInt8 = m.toUInt8 → n = m := by
    intro m hm heq
    have hnat := congrArg UInt8.toNat heq
    rwa [toNat_toUInt8 (by omega), toNat_toUInt8 hm] at hnat
  have hvalid := toNat_valid c
  rw [encodeChar] at h
  split at h
  · rw [List.mem_singleton] at h
    exact (hbyte _ (by omega) h).symm
  · exfalso
    split at h
    · simp only [List.mem_cons, List.not_mem_nil, or_false] at h
      rcases h with h | h <;> have := hbyte _ (by omega) h <;> omega
    split at h
    · simp only [List.mem_cons, List.not_mem_nil, or_false] at h
      rcases h with h | h | h <;> have := hbyte _ (by omega) h <;> omega
    · simp only [List.mem_cons, List.not_mem_nil, or_false] at h
      rcases h with h | h | h | h <;> have := hbyte _ (by omega) h <;> omega

/-- Encoded text falls into cells at an ASCII byte where the text does at its character. -/
theorem cells_encode {sep : Char} (hsep : sep.toNat < 0x80) (t : Text) :
    Text.cells (· = sep.toNat.toUInt8) (encode t) = (Text.cells (· = sep) t).map encode := by
  induction t with
  | nil => rfl
  | cons c t ih =>
    rw [encode, List.flatMap_cons, ← encode]
    by_cases hc : c = sep
    · have hbyte : encodeChar c = [sep.toNat.toUInt8] := by rw [hc, encodeChar, if_pos hsep]
      rw [hbyte, List.singleton_append, Text.cells, Text.cells, if_pos (by simp), if_pos (by simpa using hc),
        ih, List.map_cons]
      rfl
    · have hother : ∀ b ∈ encodeChar c, decide (b = sep.toNat.toUInt8) = false := by
        intro b hb
        refine decide_eq_false fun heq => hc (Char.ext (UInt32.toNat_inj.mp ?_))
        exact mem_encodeChar_ascii hsep (heq ▸ hb)
      obtain ⟨cell, rest, hcells⟩ := List.exists_cons_of_ne_nil (Text.cells_ne_nil (· = sep) t)
      rw [hcells, List.map_cons] at ih
      rw [Text.cells_append_of_forall_not ih hother, Text.cells, if_neg (by simpa using hc), hcells,
        List.map_cons]
      rfl

end SaveCheck.Utf8
