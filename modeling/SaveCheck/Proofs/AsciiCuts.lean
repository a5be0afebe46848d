import Mathlib.Data.List.Basic
import SaveCheck.Proofs.Utf8

/-!
ASCII in bytes of any kind.

    61 e2 82 │ 0a │ ff 62   ── decodeLossy ──▶   a � │ \n │ � b

No sequence goes on past an ASCII byte and none ends in an ASCII character. So an ASCII character of the text is an
ASCII byte of its own, and what stands before and behind it is decoded as if it stood alone.
-/

namespace SaveCheck.Utf8

/-! ### What a sequence can end in -/

/-- A code point past ASCII that some character has. -/
def PastAscii (n : Nat) : Prop := 0x80 ≤ n ∧ (n < 0xd800 ∨ 0xdfff < n ∧ n < 0x110000)

theorem toNat_ofNat {n : Nat} (hn : n.isValidChar) : (Char.ofNat n).toNat = n := by
  rw [Char.ofNat, dif_pos hn]
  exact UInt32.toNat_ofNatLT

theorem toNat_ofNat_ascii {n : Nat} (hn : n < 0x80) : (Char.ofNat n).toNat = n :=
  toNat_ofNat (.inl (by omega))

theorem PastAscii.toNat_ofNat {n : Nat} (hn : PastAscii n) : (Char.ofNat n).toNat = n := by
  refine Utf8.toNat_ofNat ?_
  unfold PastAscii at hn
  unfold Nat.isValidChar
  omega

/-- A sequence that takes no ASCII byte and ends past ASCII, whatever bytes in its range complete it. -/
inductive Pending.Sound : Pending → Prop where
  | last {bits lo hi : Nat} : 0x80 ≤ lo → (∀ b, lo ≤ b → b ≤ hi → PastAscii (bits * 64 + b % 64)) →
      Sound ⟨bits, 1, lo, hi⟩
  | more {bits missing lo hi : Nat} : 0x80 ≤ lo →
      (∀ b, lo ≤ b → b ≤ hi → Sound ⟨bits * 64 + b % 64, missing + 1, 0x80, 0xbf⟩) →
      Sound ⟨bits, missing + 2, lo, hi⟩

theorem Pending.Sound.lo {p : Pending} (hp : p.Sound) : 0x80 ≤ p.lo := by
  cases hp <;> assumption

theorem Pending.sound_one {bits lo hi : Nat} (hlo : 0x80 ≤ lo) (hhi : hi ≤ 0xbf)
    (hleast : 0x80 ≤ bits * 64 + (lo - 0x80))
    (hvalid : bits * 64 + (hi - 0x80) < 0xd800 ∨
      0xdfff < bits * 64 + (lo - 0x80) ∧ bits * 64 + (hi - 0x80) < 0x110000) :
    Sound ⟨bits, 1, lo, hi⟩ := by
  refine .last hlo fun b hb hb' => ?_
  have hbits : b % 64 = b - 0x80 := by omega
  unfold PastAscii
  omega

theorem Pending.sound_two {bits lo hi : Nat} (hlo : 0x80 ≤ lo) (hhi : hi ≤ 0xbf)
    (hleast : 2 ≤ bits * 64 + (lo - 0x80))
    (hvalid : bits * 64 + (hi - 0x80) < 0x360 ∨
      0x380 ≤ bits * 64 + (lo - 0x80) ∧ bits * 64 + (hi - 0x80) < 0x4400) :
    Sound ⟨bits, 2, lo, hi⟩ := by
  refine .more hlo fun b hb hb' => sound_one (Nat.le_refl _) (Nat.le_refl _) ?_ ?_
  · omega
  · omega

theorem Pending.sound_three {bits lo hi : Nat} (hlo : 0x80 ≤ lo) (hhi : hi ≤ 0xbf)
    (hleast : 0x10 ≤ bits * 64 + (lo - 0x80)) (hvalid : bits * 64 + (hi - 0x80) < 0x110) :
    Sound ⟨bits, 3, lo, hi⟩ := by
  refine .more hlo fun b hb hb' => sound_two (Nat.le_refl _) (Nat.le_refl _) ?_ ?_
  · omega
  · omega

/-- A byte that is not ASCII opens a sound sequence, or is ill-formed alone. -/
theorem open?_of_not_ascii {b : Nat} (hb : 0x80 ≤ b) : open? b = .inl none ∨ ∃ p, open? b = .inr p ∧ p.Sound := by
  unfold open?
  split
  · omega
  split
  · exact .inl rfl
  split
  · exact .inr ⟨_, rfl, Pending.sound_one (by omega) (by omega) (by omega) (by omega)⟩
  split
  · exact .inr ⟨_, rfl, Pending.sound_two (by omega) (by omega) (by omega) (by omega)⟩
  split
  · exact .inr ⟨_, rfl, Pending.sound_two (by omega) (by omega) (by omega) (by omega)⟩
  split
  · exact .inr ⟨_, rfl, Pending.sound_two (by omega) (by omega) (by omega) (by omega)⟩
  split
  · exact .inr ⟨_, rfl, Pending.sound_three (by omega) (by omega) (by omega) (by omega)⟩
  split
  · exact .inr ⟨_, rfl, Pending.sound_three (by omega) (by omega) (by omega) (by omega)⟩
  split
  · exact .inr ⟨_, rfl, Pending.sound_three (by omega) (by omega) (by omega) (by omega)⟩
  · exact .inl rfl

/-! ### One byte -/

/-- No sequence is open, or a sound one. -/
def Ready (s : Option Pending) : Prop := ∀ p ∈ s, p.Sound

theorem ready_none : Ready none := nofun

/-- The piece that an open sequence leaves when it is broken off. -/
def cutOff (s : Option Pending) : List Piece := if s.isSome then [none] else []

/-- An ASCII byte breaks off what is open and stands for its own character. -/
theorem step_ascii {s : Option Pending} (hs : Ready s) {b : Nat} (hb : b < 0x80) :
    step s b = (cutOff s ++ [some (Char.ofNat b)], none) := by
  have hfirst : first b = ([some (Char.ofNat b)], none) := by rw [first, open?, if_pos hb]
  cases s with
  | none => exact hfirst
  | some p =>
    have hlo := (hs p rfl).lo
    have hout : ¬ (p.lo ≤ b ∧ b ≤ p.hi) := by omega
    rw [step, if_neg hout, hfirst]
    rfl

/-- A byte that is not ASCII settles no ASCII character. -/
theorem step_of_not_ascii {s : Option Pending} (hs : Ready s) {b : Nat} (hb : 0x80 ≤ b) :
    (∀ c, some c ∈ (step s b).1 → 0x80 ≤ c.toNat) ∧ Ready (step s b).2 := by
  have hfirst : (∀ c, some c ∉ (first b).1) ∧ Ready (first b).2 := by
    rw [first]
    rcases open?_of_not_ascii hb with hopen | ⟨p, hopen, hp⟩
    · rw [hopen]
      exact ⟨by simp, ready_none⟩
    · rw [hopen]
      exact ⟨by simp, fun q hq => Option.some.inj hq ▸ hp⟩
  cases s with
  | none => exact ⟨fun c hc => absurd hc (hfirst.1 c), hfirst.2⟩
  | some p =>
    rw [step]
    split
    · next hin =>
      have hp := hs p rfl
      cases hp with
      | last _ hall =>
        refine ⟨fun c hc => ?_, ready_none⟩
        have hpast := hall b hin.1 hin.2
        obtain rfl : c = Char.ofNat _ := by simpa using hc
        rw [hpast.toNat_ofNat]
        exact hpast.1
      | more _ hall =>
        exact ⟨by simp, fun q hq => Option.some.inj hq ▸ hall b hin.1 hin.2⟩
    · exact ⟨fun c hc => by simp [hfirst.1 c] at hc, hfirst.2⟩

theorem ready_step {s : Option Pending} (hs : Ready s) (b : Nat) : Ready (step s b).2 := by
  by_cases hb : b < 0x80
  · rw [step_ascii hs hb]
    exact ready_none
  · exact (step_of_not_ascii hs (by omega)).2

/-! ### All bytes -/

theorem pieces_cons (s : Option Pending) (b : UInt8) (r : Bytes) :
    pieces s (b :: r) = (step s b.toNat).1 ++ pieces (step s b.toNat).2 r := rfl

/-- Around an ASCII byte the pieces are those of the two sides. -/
theorem pieces_append_ascii {b : UInt8} (hb : b.toNat < 0x80) (r : Bytes) : ∀ {s : Option Pending} (bs : Bytes),
    Ready s → pieces s (bs ++ b :: r) = pieces s bs ++ some (Char.ofNat b.toNat) :: pieces none r
  | s, [], hs => by
    rw [List.nil_append, pieces_cons, step_ascii hs hb, pieces, cutOff, List.append_assoc]
    rfl
  | s, x :: bs, hs => by
    rw [List.cons_append, pieces_cons, pieces_cons, pieces_append_ascii hb r bs (ready_step hs _), List.append_assoc]

/-- An ASCII character comes from its own byte. -/
theorem mem_of_mem_pieces {c : Char} (hc : c.toNat < 0x80) : ∀ {s : Option Pending} {bs : Bytes},
    Ready s → some c ∈ pieces s bs → c.toNat.toUInt8 ∈ bs
  | s, [], _, h => by
    rw [pieces] at h
    split at h <;> simp at h
  | s, x :: bs, hs, h => by
    rw [pieces_cons, List.mem_append] at h
    rcases h with h | h
    · by_cases hx : x.toNat < 0x80
      · rw [step_ascii hs hx, cutOff] at h
        obtain rfl : c = Char.ofNat x.toNat := by
          split at h <;> simpa using h
        rw [toNat_ofNat_ascii hx]
        simp
      · exact absurd ((step_of_not_ascii hs (by omega)).1 c h) (by omega)
    · exact List.mem_cons_of_mem _ (mem_of_mem_pieces hc (ready_step hs _) h)

/-- An open sequence leaves a piece, whatever follows. -/
theorem pieces_ne_nil : ∀ (p : Pending) (bs : Bytes), pieces (some p) bs ≠ []
  | p, [] => by simp [pieces]
  | p, b :: bs => by
    rw [pieces_cons, step]
    split
    · split
      · simp
      · exact pieces_ne_nil _ bs
    · simp

/-! ### Text -/

theorem decodeLossy_eq_nil_iff {bs : Bytes} : decodeLossy bs = [] ↔ bs = [] := by
  rw [decodeLossy, List.map_eq_nil_iff]
  cases bs with
  | nil => simp [pieces]
  | cons b bs =>
    simp only [pieces, step, first, reduceCtorEq, iff_false]
    cases open? b.toNat with
    | inl p => simp
    | inr p => exact pieces_ne_nil p bs

/-- Around an ASCII byte each side is decoded for itself. -/
theorem decodeLossy_append_ascii {b : UInt8} (hb : b.toNat < 0x80) (bs r : Bytes) :
    decodeLossy (bs ++ b :: r) = decodeLossy bs ++ Char.ofNat b.toNat :: decodeLossy r := by
  rw [decodeLossy, pieces_append_ascii hb r bs ready_none, List.map_append]
  rfl

theorem decodeLossy_cons_ascii {b : UInt8} (hb : b.toNat < 0x80) (r : Bytes) :
    decodeLossy (b :: r) = Char.ofNat b.toNat :: decodeLossy r :=
  decodeLossy_append_ascii hb [] r

/-- An ASCII character of the text is a byte of its own. -/
theorem mem_of_mem_decodeLossy {c : Char} (hc : c.toNat < 0x80) {bs : Bytes} (h : c ∈ decodeLossy bs) :
    c.toNat.toUInt8 ∈ bs := by
  obtain ⟨p, hp, hpc⟩ := List.mem_map.mp h
  cases p with
  | none =>
    obtain rfl : replacement = c := hpc
    exact absurd hc (by decide)
  | some d =>
    obtain rfl : d = c := hpc
    exact mem_of_mem_pieces hc ready_none hp

/-- An ASCII character cuts the text where its byte cuts the bytes. -/
theorem exists_cut {c : Char} (hc : c.toNat < 0x80) {v : Text} : ∀ {u : Text} {bs : Bytes},
    decodeLossy bs = u ++ c :: v →
      ∃ a r, bs = a ++ c.toNat.toUInt8 :: r ∧ decodeLossy a = u ∧ decodeLossy r = v := by
  intro u
  induction hlength : u.length using Nat.strong_induction_on generalizing u with
  | _ n ih =>
    intro bs h
    -- up to the first such byte there is no such character, so the cut is here or further on
    have hmem : c ∈ decodeLossy bs := by
      rw [h]
      simp
    obtain ⟨a, r, rfl, hfirst⟩ := List.eq_append_cons_of_mem (mem_of_mem_decodeLossy hc hmem)
    have hbyte : c.toNat.toUInt8.toNat = c.toNat := toNat_toUInt8 (by omega)
    have hnot : c ∉ decodeLossy a := fun hmem => hfirst (mem_of_mem_decodeLossy hc hmem)
    rw [decodeLossy_append_ascii (by omega), hbyte, Char.ofNat_toNat] at h
    rcases List.append_eq_append_iff.mp h with ⟨w, hu, hw⟩ | ⟨w, ha, hw⟩
    · cases w with
      | nil =>
        obtain ⟨-, hr⟩ := List.cons.inj hw
        exact ⟨a, r, rfl, by simpa using hu.symm, hr⟩
      | cons d w =>
        obtain ⟨rfl, hr⟩ := List.cons.inj hw
        have hless : w.length < n := by
          rw [← hlength, hu]
          simp
          omega
        obtain ⟨a', r', rfl, ha', hr'⟩ := ih w.length hless rfl hr
        refine ⟨a ++ c.toNat.toUInt8 :: a', r', by simp, ?_, hr'⟩
        rw [decodeLossy_append_ascii (by omega), hbyte, Char.ofNat_toNat, ha', hu]
    · cases w with
      | nil =>
        obtain ⟨-, hr⟩ := List.cons.inj hw
        exact ⟨a, r, rfl, by simpa using ha, hr.symm⟩
      | cons d w =>
        obtain ⟨rfl, -⟩ := List.cons.inj hw
        exact absurd (ha ▸ by simp) hnot

end SaveCheck.Utf8
