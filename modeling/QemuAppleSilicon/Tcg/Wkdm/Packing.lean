import QemuAppleSilicon.Tcg.Wkdm.Format
import QemuAppleSilicon.Lib.Bits32
import Mathlib.Tactic.IntervalCases

/-!
# The packers and unpackers of `WKdm` undo each other

The packed format keeps its three intermediate arrays in packed words: the tags as four
two-bit lanes per byte (`WK_pack_2bits`), the queue positions as two four-bit lanes per byte
(`WK_pack_4bits`), the low bits as three ten-bit fields per word (`WK_pack_3_tenbits`). A word
holds byte lanes of width `w` (`LaneBits w`) when every set bit sits in the low `w` bits of its
byte; the byte arrays the compressor fills with values below `2 ^ w` read as such words
(`bytesToWords_lanes`). On lanes of the right width each unpacker inverts its packer
(`wkUnpack2bits_wkPack2bits`, `wkUnpack4bits_wkPack4bits`, `wkUnpack3Tenbits_wkPack3Tenbits`),
and a byte array read as words and stored back is the byte array (`wordsToBytes_bytesToWords`).

The per-word facts are proved bit by bit: `ext_bit`, the bit lemmas of `Lib.Bits32` for the
shifts, ors and masks, and the lane bounds for the positions a mask keeps.
-/

namespace QemuAppleSilicon.Tcg.Wkdm

open QemuAppleSilicon.Lib QemuAppleSilicon.Qemu

/-! ## Byte lanes and the masks -/

/-- The word holds four byte lanes of width `w`: each set bit is among the low `w` bits of its
byte. -/
def LaneBits (w : ℕ) (x : UInt32) : Prop := ∀ k, Bit x k → k % 8 < w

/-- `TWO_BITS_PACKING_MASK` is the low two bits of each byte. -/
theorem bit_TWO_BITS_PACKING_MASK {k : ℕ} : Bit TWO_BITS_PACKING_MASK k ↔ k < 32 ∧ k % 8 < 2 := by
  by_cases hk : k < 32
  · interval_cases k <;> decide
  · exact ⟨fun h => absurd (lt_of_bit h) hk, fun h => absurd h.1 hk⟩

/-- `FOUR_BITS_PACKING_MASK` is the low four bits of each byte. -/
theorem bit_FOUR_BITS_PACKING_MASK {k : ℕ} :
    Bit FOUR_BITS_PACKING_MASK k ↔ k < 32 ∧ k % 8 < 4 := by
  by_cases hk : k < 32
  · interval_cases k <;> decide
  · exact ⟨fun h => absurd (lt_of_bit h) hk, fun h => absurd h.1 hk⟩

/-- `LOW_BITS_MASK` is the low ten bits. -/
theorem bit_LOW_BITS_MASK {k : ℕ} : Bit LOW_BITS_MASK k ↔ k < 10 := by
  have h : LOW_BITS_MASK.toNat = 2 ^ 10 - 1 := rfl
  rw [Bit, h, Nat.testBit_two_pow_sub_one, decide_eq_true_eq]

/-- Four bytes below `2 ^ w` read as a word of byte lanes of width `w`. -/
theorem lanes_ofNat_leValue {w : ℕ} {b₀ b₁ b₂ b₃ : UInt8}
    (hw : ∀ b ∈ [b₀, b₁, b₂, b₃], b.toNat < 2 ^ w) :
    LaneBits w (UInt32.ofNat (leValue [b₀, b₁, b₂, b₃])) := by
  intro k hk
  have hlt : leValue [b₀, b₁, b₂, b₃] < 2 ^ 32 := by
    simpa using leValue_lt [b₀, b₁, b₂, b₃]
  rw [Bit, UInt32.toNat_ofNat_of_lt' hlt, testBit_leValue] at hk
  -- bit `k` is bit `k % 8` of byte `k / 8`, which must be one of the four
  have hj : k / 8 < 4 := by
    by_contra hj
    rw [List.getD_eq_default _ _ (by simp; omega)] at hk
    simp at hk
  by_contra hkw
  have hb : ([b₀, b₁, b₂, b₃].getD (k / 8) 0).toNat < 2 ^ w := by
    apply hw
    rw [List.getD_eq_getElem _ _ (by simpa using hj)]
    exact List.getElem_mem _
  rw [Nat.testBit_lt_two_pow (lt_of_lt_of_le hb (Nat.pow_le_pow_right (by decide) (by omega)))] at hk
  cases hk

/-- The decoder's rebuild of a partial match: the high bits of the dictionary word, which are
the word's own, and the word's low ten bits. -/
theorem highBits_or_lowBits {w d : UInt32} (h : w >>> 10 = d >>> 10) :
    ((d >>> 10) <<< 10) ||| (w &&& LOW_BITS_MASK) = w := by
  rw [← h]
  have h10 : (10 : UInt32).toNat < 32 := by decide
  apply ext_bit
  intro k
  simp only [bit_and, bit_or, bit_shiftLeft h10, bit_shiftRight h10, bit_LOW_BITS_MASK]
  grind [lt_of_bit]

/-! ## One packed word -/

/-- `WK_unpack_2bits` takes a word `WK_pack_2bits` built apart again. -/
theorem wkUnpack2bits_cons {a b c d : UInt32} (ha : LaneBits 2 a) (hb : LaneBits 2 b)
    (hc : LaneBits 2 c) (hd : LaneBits 2 d) (ws : List UInt32) :
    wkUnpack2bits ((a ||| b <<< 2 ||| c <<< 4 ||| d <<< 6) :: ws) =
      a :: b :: c :: d :: wkUnpack2bits ws := by
  simp only [wkUnpack2bits, List.flatMap_cons, List.cons_append, List.nil_append, List.cons.injEq,
    and_true]
  have h2 : (2 : UInt32).toNat < 32 := by decide
  have h4 : (4 : UInt32).toNat < 32 := by decide
  have h6 : (6 : UInt32).toNat < 32 := by decide
  -- lane `j` of each byte comes back from the shift by `2 j`; the other lanes miss the mask
  refine ⟨?_, ?_, ?_, ?_⟩ <;> apply ext_bit <;> intro k <;>
    simp only [bit_and, bit_or, bit_shiftLeft h2, bit_shiftLeft h4, bit_shiftLeft h6,
      bit_shiftRight h2, bit_shiftRight h4, bit_shiftRight h6, bit_TWO_BITS_PACKING_MASK]
  all_goals grind [lt_of_bit, LaneBits]

/-- `WK_unpack_4bits` takes a word `WK_pack_4bits` built apart again. -/
theorem wkUnpack4bits_cons {a b : UInt32} (ha : LaneBits 4 a) (hb : LaneBits 4 b)
    (ws : List UInt32) :
    wkUnpack4bits ((a ||| b <<< 4) :: ws) = a :: b :: wkUnpack4bits ws := by
  simp only [wkUnpack4bits, List.flatMap_cons, List.cons_append, List.nil_append, List.cons.injEq,
    and_true]
  have h4 : (4 : UInt32).toNat < 32 := by decide
  constructor <;> apply ext_bit <;> intro k <;>
    simp only [bit_and, bit_or, bit_shiftLeft h4, bit_shiftRight h4, bit_FOUR_BITS_PACKING_MASK]
  all_goals grind [lt_of_bit, LaneBits]

/-- `WK_unpack_3_tenbits` takes a word `WK_pack_3_tenbits` built apart again; the third field
needs no mask, since nothing is packed above it. -/
theorem wkUnpack3Tenbits_cons {a b c : UInt32} (ha : a.toNat < 2 ^ 10) (hb : b.toNat < 2 ^ 10)
    (hc : c.toNat < 2 ^ 10) (ws : List UInt32) :
    wkUnpack3Tenbits ((a ||| b <<< 10 ||| c <<< 20) :: ws) = a :: b :: c :: wkUnpack3Tenbits ws := by
  simp only [wkUnpack3Tenbits, List.flatMap_cons, List.cons_append, List.nil_append,
    List.cons.injEq, and_true]
  have h10 : (10 : UInt32).toNat < 32 := by decide
  have h20 : (20 : UInt32).toNat < 32 := by decide
  have ha' := fun k => lt_of_bit_of_toNat_lt (k := k) ha
  have hb' := fun k => lt_of_bit_of_toNat_lt (k := k) hb
  have hc' := fun k => lt_of_bit_of_toNat_lt (k := k) hc
  refine ⟨?_, ?_, ?_⟩ <;> apply ext_bit <;> intro k <;>
    simp only [bit_and, bit_or, bit_shiftLeft h10, bit_shiftLeft h20, bit_shiftRight h10,
      bit_shiftRight h20, bit_LOW_BITS_MASK]
  all_goals grind

/-! ## Whole arrays

Each induction follows the packer's own recursion, a group of four, two or three words at a
time; a length that is not a multiple of the group is excluded by the hypothesis. -/

@[simp] theorem bytesToWords_length : ∀ bs : List UInt8, (bytesToWords bs).length = bs.length / 4
  | [] | [_] | [_, _] | [_, _, _] => by simp [bytesToWords]
  | _ :: _ :: _ :: _ :: rest => by
    simp only [bytesToWords, List.length_cons, bytesToWords_length rest]
    omega

@[simp] theorem wkPack2bits_length : ∀ ws : List UInt32, (wkPack2bits ws).length = ws.length / 4
  | [] | [_] | [_, _] | [_, _, _] => by simp [wkPack2bits]
  | _ :: _ :: _ :: _ :: rest => by
    simp only [wkPack2bits, List.length_cons, wkPack2bits_length rest]
    omega

@[simp] theorem wkPack4bits_length : ∀ ws : List UInt32, (wkPack4bits ws).length = ws.length / 2
  | [] | [_] => by simp [wkPack4bits]
  | _ :: _ :: rest => by
    simp only [wkPack4bits, List.length_cons, wkPack4bits_length rest]
    omega

@[simp] theorem wkPack3Tenbits_length :
    ∀ ws : List UInt32, (wkPack3Tenbits ws).length = ws.length / 3
  | [] | [_] | [_, _] => by simp [wkPack3Tenbits]
  | _ :: _ :: _ :: rest => by
    simp only [wkPack3Tenbits, List.length_cons, wkPack3Tenbits_length rest]
    omega

/-- A byte array of whole words, read as words and stored back, is the byte array. -/
theorem wordsToBytes_bytesToWords : ∀ bs : List UInt8, bs.length % 4 = 0 →
    wordsToBytes (bytesToWords bs) = bs
  | [], _ => rfl
  | [_], h | [_, _], h | [_, _, _], h => by simp at h
  | b₀ :: b₁ :: b₂ :: b₃ :: rest, h => by
    have hlt : leValue [b₀, b₁, b₂, b₃] < 2 ^ 32 := by
      simpa using leValue_lt [b₀, b₁, b₂, b₃]
    have hrest := wordsToBytes_bytesToWords rest (by simp only [List.length_cons] at h; omega)
    simp only [bytesToWords, wordsToBytes, List.flatMap_cons] at hrest ⊢
    rw [hrest, UInt32.toNat_ofNat_of_lt' hlt]
    exact congrArg (· ++ rest) (leBytes_leValue [b₀, b₁, b₂, b₃])

/-- Bytes below `2 ^ w` read as words of byte lanes of width `w`. -/
theorem bytesToWords_lanes {w : ℕ} : ∀ bs : List UInt8, (∀ b ∈ bs, b.toNat < 2 ^ w) →
    ∀ x ∈ bytesToWords bs, LaneBits w x
  | [], _ | [_], _ | [_, _], _ | [_, _, _], _ => by simp [bytesToWords]
  | b₀ :: b₁ :: b₂ :: b₃ :: rest, hb => by
    intro x hx
    rw [bytesToWords, List.mem_cons] at hx
    rcases hx with rfl | hx
    · exact lanes_ofNat_leValue fun b h => hb b (by simp at h ⊢; tauto)
    · exact bytesToWords_lanes rest (fun b h => hb b (by simp [h])) x hx

/-- **`WK_unpack_2bits` inverts `WK_pack_2bits`** on two-bit lanes. -/
theorem wkUnpack2bits_wkPack2bits : ∀ ws : List UInt32, ws.length % 4 = 0 →
    (∀ w ∈ ws, LaneBits 2 w) → wkUnpack2bits (wkPack2bits ws) = ws
  | [], _, _ => rfl
  | [_], h, _ | [_, _], h, _ | [_, _, _], h, _ => by simp at h
  | a :: b :: c :: d :: rest, h, hw => by
    have hrest := wkUnpack2bits_wkPack2bits rest (by simp only [List.length_cons] at h; omega)
      (fun w hw' => hw w (by simp [hw']))
    rw [wkPack2bits,
      wkUnpack2bits_cons (hw a (by simp)) (hw b (by simp)) (hw c (by simp)) (hw d (by simp)), hrest]

/-- **`WK_unpack_4bits` inverts `WK_pack_4bits`** on four-bit lanes. -/
theorem wkUnpack4bits_wkPack4bits : ∀ ws : List UInt32, ws.length % 2 = 0 →
    (∀ w ∈ ws, LaneBits 4 w) → wkUnpack4bits (wkPack4bits ws) = ws
  | [], _, _ => rfl
  | [_], h, _ => by simp at h
  | a :: b :: rest, h, hw => by
    have hrest := wkUnpack4bits_wkPack4bits rest (by simp only [List.length_cons] at h; omega)
      (fun w hw' => hw w (by simp [hw']))
    rw [wkPack4bits, wkUnpack4bits_cons (hw a (by simp)) (hw b (by simp)), hrest]

/-- **`WK_unpack_3_tenbits` inverts `WK_pack_3_tenbits`** on ten-bit values. -/
theorem wkUnpack3Tenbits_wkPack3Tenbits : ∀ ws : List UInt32, ws.length % 3 = 0 →
    (∀ w ∈ ws, w.toNat < 2 ^ 10) → wkUnpack3Tenbits (wkPack3Tenbits ws) = ws
  | [], _, _ => rfl
  | [_], h, _ | [_, _], h, _ => by simp at h
  | a :: b :: c :: rest, h, hw => by
    have hrest := wkUnpack3Tenbits_wkPack3Tenbits rest (by simp only [List.length_cons] at h; omega)
      (fun w hw' => hw w (by simp [hw']))
    rw [wkPack3Tenbits, wkUnpack3Tenbits_cons (hw a (by simp)) (hw b (by simp)) (hw c (by simp)),
      hrest]

end QemuAppleSilicon.Tcg.Wkdm
