import Mathlib.Data.UInt
import QemuAppleSilicon.Lib.Bytes

/-!
# 32-bit words as sets of bit positions

A `UInt32` used as a mask is a set of positions below 32: `Bit x k` says position `k` is in it.
The word operations are the set operations (`bit_or`, `bit_and`, `bit_not`), shifts move the
positions (`bit_shiftLeft`, `bit_shiftRight`), a single shifted one is a singleton
(`bit_one_shiftLeft`), one less than it is an initial segment (`bit_one_shiftLeft_sub_one`),
and a word is zero exactly when it is empty (`eq_zero_iff`, `and_eq_zero_iff`); two words are
equal when their bits below 32 are (`ext_bit_lt`), a one-bit mask keeps all or nothing
(`and_one_shiftLeft_eq_zero_or`), and bits ored in outside a mask stay out of it
(`or_and_of_and_eq_zero`). These are the facts a proof about code that ORs, ANDs and tests masks
needs, stated once so that such proofs reason about sets. The last section is about a word
loaded into a 64-bit temporary and masked with shifts of `~0UL` (`testBit_and_allOnes_shiftLeft`,
`and_allOnes_shiftRight`). The one after it assembles a word from its four bytes by ors of
shifted bytes, as C code does, and proves that this is the little-endian value of the bytes
(`or_shiftLeft_bytes`).
-/

namespace QemuAppleSilicon.Lib

/-- Bit `k` of the word `x` is set. -/
def Bit (x : UInt32) (k : ℕ) : Prop := x.toNat.testBit k = true

instance (x : UInt32) (k : ℕ) : Decidable (Bit x k) :=
  inferInstanceAs (Decidable (_ = true))

/-- Bits read through the bit vector of the word. -/
theorem bit_iff_getLsbD {x : UInt32} {k : ℕ} : Bit x k ↔ x.toBitVec.getLsbD k = true := by
  rw [Bit, ← UInt32.toNat_toBitVec, BitVec.testBit_toNat]

/-- No bit of the zero word is set. -/
@[simp] theorem bit_zero (k : ℕ) : ¬ Bit 0 k := by
  simp [Bit]

/-- A word below `2 ^ n` has its bits below `n`. -/
theorem lt_of_bit_of_toNat_lt {x : UInt32} {n k : ℕ} (hx : x.toNat < 2 ^ n) (h : Bit x k) :
    k < n := by
  by_contra hk
  have hlt : x.toNat < 2 ^ k := lt_of_lt_of_le hx (Nat.pow_le_pow_right (by decide) (by omega))
  rw [Bit, Nat.testBit_lt_two_pow hlt] at h
  cases h

/-- A word's bits are below 32. -/
theorem lt_of_bit {x : UInt32} {k : ℕ} (h : Bit x k) : k < 32 :=
  lt_of_bit_of_toNat_lt x.toNat_lt h

/-- A byte widened to a word has its bits below 8. -/
theorem lt_of_bit_toUInt32 {b : UInt8} {k : ℕ} (h : Bit b.toUInt32 k) : k < 8 :=
  lt_of_bit_of_toNat_lt (by simpa [UInt8.toNat_toUInt32] using b.toNat_lt) h

/-- The word one is position zero alone. -/
@[simp] theorem bit_one {k : ℕ} : Bit 1 k ↔ k = 0 := by
  simp [Bit, Nat.testBit_one_eq_true_iff_self_eq_zero]

/-- The byte mask is the positions below 8. -/
@[simp] theorem bit_byteMask {k : ℕ} : Bit 0xff k ↔ k < 8 := by
  have h : (0xff : UInt32).toNat = 2 ^ 8 - 1 := rfl
  rw [Bit, h, Nat.testBit_two_pow_sub_one, decide_eq_true_eq]

/-- Or is union. -/
@[simp] theorem bit_or {x y : UInt32} {k : ℕ} : Bit (x ||| y) k ↔ Bit x k ∨ Bit y k := by
  simp [Bit, UInt32.toNat_or, Nat.testBit_or]

/-- And is intersection. -/
@[simp] theorem bit_and {x y : UInt32} {k : ℕ} : Bit (x &&& y) k ↔ Bit x k ∧ Bit y k := by
  simp [Bit, UInt32.toNat_and, Nat.testBit_and]

/-- Not is the complement within the 32 positions. -/
@[simp] theorem bit_not {x : UInt32} {k : ℕ} : Bit (~~~x) k ↔ k < 32 ∧ ¬ Bit x k := by
  simp [bit_iff_getLsbD, UInt32.toBitVec_not, BitVec.getLsbD_not]

/-- Shifting left by `n < 32` moves bit `k - n` to `k`, and drops what passes bit 31. -/
@[simp] theorem bit_shiftLeft {x n : UInt32} {k : ℕ} (hn : n.toNat < 32) :
    Bit (x <<< n) k ↔ n.toNat ≤ k ∧ k < 32 ∧ Bit x (k - n.toNat) := by
  rw [Bit, UInt32.toNat_shiftLeft, Nat.mod_eq_of_lt hn, Nat.testBit_mod_two_pow,
    Nat.testBit_shiftLeft, Bit]
  simp only [Bool.and_eq_true, decide_eq_true_eq, ge_iff_le]
  tauto

/-- Shifting right by `n < 32` moves bit `k + n` to `k`. -/
@[simp] theorem bit_shiftRight {x n : UInt32} {k : ℕ} (hn : n.toNat < 32) :
    Bit (x >>> n) k ↔ Bit x (k + n.toNat) := by
  rw [Bit, UInt32.toNat_shiftRight, Nat.mod_eq_of_lt hn, Nat.testBit_shiftRight, Bit,
    Nat.add_comm]

/-- A one shifted to a position below 32 is that position alone. -/
theorem bit_one_shiftLeft {n k : ℕ} (hn : n < 32) :
    Bit ((1 : UInt32) <<< UInt32.ofNat n) k ↔ k = n := by
  have hshift : ((1 : UInt32) <<< UInt32.ofNat n).toNat = 2 ^ n := by
    rw [UInt32.toNat_shiftLeft, UInt32.toNat_ofNat', Nat.mod_eq_of_lt (by omega : n < 2 ^ 32),
      Nat.mod_eq_of_lt hn, UInt32.toNat_one, Nat.one_shiftLeft,
      Nat.mod_eq_of_lt (Nat.pow_lt_pow_right (by decide) hn)]
  rw [Bit, hshift, Nat.testBit_two_pow, decide_eq_true_eq, eq_comm]

/-- One less than a one shifted to `n < 32` is the positions below `n`. -/
theorem bit_one_shiftLeft_sub_one {n k : ℕ} (hn : n < 32) :
    Bit (((1 : UInt32) <<< UInt32.ofNat n) - 1) k ↔ k < n := by
  have hshift : ((1 : UInt32) <<< UInt32.ofNat n).toNat = 2 ^ n := by
    rw [UInt32.toNat_shiftLeft, UInt32.toNat_ofNat', Nat.mod_eq_of_lt (by omega : n < 2 ^ 32),
      Nat.mod_eq_of_lt hn, UInt32.toNat_one, Nat.one_shiftLeft,
      Nat.mod_eq_of_lt (Nat.pow_lt_pow_right (by decide) hn)]
  have hpos : 0 < 2 ^ n := Nat.two_pow_pos n
  have hlt : 2 ^ n < 2 ^ 32 := Nat.pow_lt_pow_right (by decide) hn
  have hsub : (((1 : UInt32) <<< UInt32.ofNat n) - 1).toNat = 2 ^ n - 1 := by
    rw [UInt32.toNat_sub, hshift, UInt32.toNat_one]
    omega
  rw [Bit, hsub, Nat.testBit_two_pow_sub_one, decide_eq_true_eq]

/-- A word is zero exactly when no bit of it is set. -/
theorem eq_zero_iff {x : UInt32} : x = 0 ↔ ∀ k, ¬ Bit x k := by
  constructor
  · rintro rfl k
    exact bit_zero k
  · intro h
    apply UInt32.toBitVec_inj.mp
    apply BitVec.eq_of_getLsbD_eq
    intro k _
    rw [UInt32.toBitVec_zero, BitVec.getLsbD_zero]
    simpa [bit_iff_getLsbD] using h k

/-- Two words with the same bits are equal. -/
theorem ext_bit {x y : UInt32} (h : ∀ k, Bit x k ↔ Bit y k) : x = y := by
  apply UInt32.toBitVec_inj.mp
  apply BitVec.eq_of_getLsbD_eq
  intro k _
  rw [Bool.eq_iff_iff, ← bit_iff_getLsbD, ← bit_iff_getLsbD]
  exact h k

/-- Two words with the same bits below 32 are equal: no word has a bit above. -/
theorem ext_bit_lt {x y : UInt32} (h : ∀ k < 32, (Bit x k ↔ Bit y k)) : x = y :=
  ext_bit fun k => ⟨fun hx => (h k (lt_of_bit hx)).mp hx, fun hy => (h k (lt_of_bit hy)).mpr hy⟩

/-- Two words share no bit exactly when their and is zero. -/
theorem and_eq_zero_iff {x y : UInt32} : x &&& y = 0 ↔ ∀ k, Bit x k → ¬ Bit y k := by
  rw [eq_zero_iff]
  simp only [bit_and, not_and]

/-- Bits ored in outside a mask do not show through it. -/
theorem or_and_of_and_eq_zero {x y m : UInt32} (h : y &&& m = 0) : (x ||| y) &&& m = x &&& m := by
  apply ext_bit
  intro k
  rw [bit_and, bit_or, bit_and]
  exact ⟨fun ⟨hxy, hm⟩ => ⟨hxy.resolve_right fun hy => and_eq_zero_iff.mp h k hy hm, hm⟩,
    fun ⟨hx, hm⟩ => ⟨.inl hx, hm⟩⟩

/-- A word misses a position below 32 exactly when its and with the shifted one is zero. -/
theorem and_one_shiftLeft_eq_zero {x : UInt32} {n : ℕ} (hn : n < 32) :
    x &&& ((1 : UInt32) <<< UInt32.ofNat n) = 0 ↔ ¬ Bit x n := by
  rw [and_eq_zero_iff]
  constructor
  · intro h hx
    exact h n hx ((bit_one_shiftLeft hn).mpr rfl)
  · intro h k hk hone
    rw [bit_one_shiftLeft hn] at hone
    exact h (hone ▸ hk)

/-- A word masked with a one at a position below 32 keeps either nothing or that one. -/
theorem and_one_shiftLeft_eq_zero_or (x : UInt32) {n : ℕ} (hn : n < 32) :
    x &&& ((1 : UInt32) <<< UInt32.ofNat n) = 0 ∨
      x &&& ((1 : UInt32) <<< UInt32.ofNat n) = (1 : UInt32) <<< UInt32.ofNat n := by
  by_cases hx : Bit x n
  · right
    apply ext_bit
    intro k
    rw [bit_and, bit_one_shiftLeft hn]
    constructor
    · exact And.right
    · rintro rfl
      exact ⟨hx, rfl⟩
  · exact Or.inl ((and_one_shiftLeft_eq_zero hn).mpr hx)

/-! ## A word held in a 64-bit `unsigned long`

Code ported from `unsigned long` loops loads a word into a 64-bit temporary and masks it with
shifts of `~0UL`. The temporary stays below `2 ^ 32`, so it is zero exactly when its low word is,
and a mask that keeps 32 bits or more changes nothing. -/

/-- All ones in 64 bits. -/
theorem allOnes64_toNat : (~~~0 : UInt64).toNat = 2 ^ 64 - 1 := by decide

/-- A shift count below 64 is taken as it is. -/
theorem toNat_ofNat_mod_64 {k : ℕ} (hk : k < 64) : (UInt64.ofNat k).toNat % 64 = k := by
  rw [UInt64.toNat_ofNat_of_lt' (Nat.lt_of_lt_of_le hk (by decide)), Nat.mod_eq_of_lt hk]

/-- `(unsigned long)x & (~0UL << k)` keeps the bits of `x` from `k` on. -/
theorem testBit_and_allOnes_shiftLeft (x : UInt32) {k : ℕ} (hk : k < 64) (j : ℕ) :
    (x.toUInt64 &&& ((~~~0 : UInt64) <<< UInt64.ofNat k)).toNat.testBit j =
      (x.toNat.testBit j && decide (k ≤ j)) := by
  rw [UInt64.toNat_and, UInt32.toNat_toUInt64, UInt64.toNat_shiftLeft, toNat_ofNat_mod_64 hk,
    allOnes64_toNat, Nat.testBit_and, Nat.testBit_mod_two_pow, Nat.testBit_shiftLeft,
    Nat.testBit_two_pow_sub_one]
  by_cases hj : j < 32
  · by_cases hkj : k ≤ j
    · simp [hkj]; omega
    · simp [hkj]
  · -- above bit 31 the word itself is clear
    have hx : x.toNat.testBit j = false := Bool.eq_false_iff.mpr fun h => hj (lt_of_bit h)
    rw [hx, Bool.false_and, Bool.false_and]

/-- A temporary below `2 ^ 32` and the mask `~0UL >> (32 - s)`, which keeps `32 + s` bits. -/
theorem and_allOnes_shiftRight {t : UInt64} (ht : t.toNat < 2 ^ 32) {s : ℕ} (hs : s ≤ 32) :
    t &&& ((~~~0 : UInt64) >>> UInt64.ofNat (32 - s)) = t := by
  apply UInt64.toNat_inj.mp
  apply Nat.eq_of_testBit_eq
  intro j
  rw [UInt64.toNat_and, UInt64.toNat_shiftRight, toNat_ofNat_mod_64 (by omega), allOnes64_toNat,
    Nat.testBit_and, Nat.testBit_shiftRight, Nat.testBit_two_pow_sub_one]
  by_cases hj : j < 32
  · simp; omega
  · rw [Nat.testBit_lt_two_pow (Nat.lt_of_lt_of_le ht (Nat.pow_le_pow_right (by decide) (by omega))),
      Bool.false_and]

/-- A temporary below `2 ^ 32` is zero exactly when its low word is. -/
theorem toUInt32_eq_zero_iff {t : UInt64} (ht : t.toNat < 2 ^ 32) : t.toUInt32 = 0 ↔ t = 0 := by
  rw [← UInt32.toNat_inj, ← UInt64.toNat_inj, UInt64.toNat_toUInt32, Nat.mod_eq_of_lt ht]
  rfl

/-- The bits of the low word of a temporary below `2 ^ 32` are its bits. -/
theorem bit_toUInt32 {t : UInt64} (ht : t.toNat < 2 ^ 32) (j : ℕ) :
    Bit t.toUInt32 j ↔ t.toNat.testBit j = true := by
  rw [Bit, UInt64.toNat_toUInt32, Nat.mod_eq_of_lt ht]

/-- A word loaded into an `unsigned long` is zero exactly when the word is. -/
theorem toUInt64_eq_zero_iff {x : UInt32} : x.toUInt64 = 0 ↔ x = 0 := by
  rw [← UInt64.toNat_inj, ← UInt32.toNat_inj, UInt32.toNat_toUInt64]
  rfl

/-! ## A word assembled from its bytes -/

/-- A byte widened and shifted to byte lane `m` has bit `k` when `k` is in that lane and the
byte has the bit `k % 8`. -/
theorem bit_byte_shiftLeft (b : UInt8) (s : UInt32) {m k : ℕ} (hm : m < 4) (hs : s.toNat = m * 8) :
    Bit (b.toUInt32 <<< s) k ↔ k / 8 = m ∧ b.toNat.testBit (k % 8) := by
  have hb : b.toNat < 2 ^ 8 := b.toNat_lt
  rw [bit_shiftLeft (by omega), hs, Bit, UInt8.toNat_toUInt32]
  constructor
  · rintro ⟨h₁, -, h₃⟩
    -- a byte has no bit from 8 on, so the position is inside the lane
    have hlt : k - m * 8 < 8 := by
      by_contra hge
      rw [Nat.testBit_lt_two_pow (lt_of_lt_of_le hb (Nat.pow_le_pow_right (by decide) (by omega)))] at h₃
      exact absurd h₃ Bool.false_ne_true
    refine ⟨by omega, ?_⟩
    rwa [show k % 8 = k - m * 8 by omega]
  · rintro ⟨h₁, h₂⟩
    refine ⟨by omega, by omega, ?_⟩
    rwa [show k - m * 8 = k % 8 by omega]

/-- Four bytes ored into lanes 0 to 3 make the word of their little-endian value. -/
theorem or_shiftLeft_bytes (b₀ b₁ b₂ b₃ : UInt8) :
    (0 : UInt32) ||| b₀.toUInt32 <<< 0 ||| b₁.toUInt32 <<< 8 ||| b₂.toUInt32 <<< 16 ||| b₃.toUInt32 <<< 24 =
      UInt32.ofNat (leValue [b₀, b₁, b₂, b₃]) := by
  have hlt : leValue [b₀, b₁, b₂, b₃] < 2 ^ 32 := by simpa using leValue_lt [b₀, b₁, b₂, b₃]
  apply ext_bit
  intro k
  have hvalue : Bit (UInt32.ofNat (leValue [b₀, b₁, b₂, b₃])) k ↔
      ([b₀, b₁, b₂, b₃].getD (k / 8) 0).toNat.testBit (k % 8) := by
    rw [Bit, UInt32.toNat_ofNat_of_lt' hlt, testBit_leValue]
  simp only [bit_or, bit_zero, false_or, hvalue, bit_byte_shiftLeft b₀ 0 (m := 0) (by decide) rfl,
    bit_byte_shiftLeft b₁ 8 (m := 1) (by decide) rfl, bit_byte_shiftLeft b₂ 16 (m := 2) (by decide) rfl,
    bit_byte_shiftLeft b₃ 24 (m := 3) (by decide) rfl]
  by_cases hk : 4 ≤ k / 8
  · -- past the fourth byte no bit is set on either side
    have hnil : [b₀, b₁, b₂, b₃].getD (k / 8) 0 = 0 := List.getD_eq_default _ _ (by simp; omega)
    simp only [hnil, show k / 8 ≠ 0 by omega, show k / 8 ≠ 1 by omega, show k / 8 ≠ 2 by omega,
      show k / 8 ≠ 3 by omega, false_and, or_false, UInt8.toNat_zero, Nat.zero_testBit,
      Bool.false_eq_true]
  · -- otherwise the bit is in exactly one of the four bytes
    obtain h | h | h | h : k / 8 = 0 ∨ k / 8 = 1 ∨ k / 8 = 2 ∨ k / 8 = 3 := by omega
    all_goals simp [h]

end QemuAppleSilicon.Lib
