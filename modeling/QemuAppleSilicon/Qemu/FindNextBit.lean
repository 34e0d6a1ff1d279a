import QemuAppleSilicon.Qemu.Bitops

/-!
# `find_next_bit32` (`util/bitops.c`)

`find_next_bit32(addr, size, offset)` is the 32-bit port of the `unsigned long` routine
`find_next_bit`: it keeps `tmp` in an `unsigned long`, masks the first word with
`~0UL << offset`, scans four words at a time and then one at a time, and masks the last,
partial word with `~0UL >> (BITS_PER_INT - size)`. On a 64-bit host that last mask keeps
`32 + size` bits, so it keeps the whole 32-bit word: the routine scans up to the end of the
word that holds bit `size - 1`, not up to `size`.

* `findNextBit32_eq` — the answer is the first set bit from `offset` up to the end of the last
  word, and `size` when there is none (`offset >= size` answers `size`).
* `find_next_bit32_overshoots_size` — when the answer is at most `size` it is the first set bit
  in `[offset, size)` (or `size`); when no bit there is set, it is the first set bit of the last
  word at or past `size`, which can exceed `size`.
* `findNextBit32Walk_eq` — the callers' loop
  `i = -1; while ((i = find_next_bit32(addr, size, i + 1)) < size)` still visits exactly the set
  bits below `size` (`setBits32`): an answer past `size` only ends the loop.

The loops are structural recursions on a count of iterations: the callers pass
`size / BITS_PER_INT` and `size / (4 * BITS_PER_INT)`, which the guards `size >= BITS_PER_INT`
and `size >= 4*BITS_PER_INT` never outlast.
-/

namespace QemuAppleSilicon.Qemu

open QemuAppleSilicon.Lib

/-! ## The code -/

/-- `BITS_PER_INT`: `sizeof (unsigned int) * BITS_PER_BYTE`.
Source: `include/qemu/bitops.h` `BITS_PER_INT`
Kind: D -/
def BITS_PER_INT : ℕ := 32

/-- `found_middle: return result + ctz32(tmp);` — `ctz32` takes the low 32 bits of `tmp`.
Source: `util/bitops.c` `find_next_bit32`
Kind: D -/
def findNextBit32FoundMiddle (result : ℕ) (tmp : UInt64) : ℕ :=
  result + ctz32 tmp.toUInt32

/-- `found_first:` the last word, masked with the `unsigned long` mask
`~0UL >> (BITS_PER_INT - size)`; `result + size` when nothing is left.
Source: `util/bitops.c` `find_next_bit32`
Kind: D -/
def findNextBit32FoundFirst (result size : ℕ) (tmp : UInt64) : ℕ :=
  let tmp := tmp &&& (~~~0 >>> UInt64.ofNat (BITS_PER_INT - size))
  if tmp = 0 then result + size
  else findNextBit32FoundMiddle result tmp

/-- After the loops: `if (!size) return result; tmp = *p;` and on to `found_first`.
Source: `util/bitops.c` `find_next_bit32`
Kind: D -/
def findNextBit32Tail (addr : ℕ → UInt32) (p result size : ℕ) : ℕ :=
  if size = 0 then result
  else findNextBit32FoundFirst result size (addr p).toUInt64

/-- The word loop `while (size >= BITS_PER_INT)` from word `p`, at most `n` more times.
Source: `util/bitops.c` `find_next_bit32`
Kind: D -/
def findNextBit32Words (addr : ℕ → UInt32) : ℕ → ℕ → ℕ → ℕ → ℕ
  | 0, p, result, size => findNextBit32Tail addr p result size
  | n + 1, p, result, size =>
    if size ≥ BITS_PER_INT then
      let tmp := (addr p).toUInt64
      if tmp ≠ 0 then findNextBit32FoundMiddle result tmp
      else findNextBit32Words addr n (p + 1) (result + BITS_PER_INT) (size - BITS_PER_INT)
    else findNextBit32Tail addr p result size

/-- The loop `while (size >= 4*BITS_PER_INT)` from word `p`, at most `n` more times: a
non-zero first word is answered at once, a non-zero word among the next three breaks to the
word loop.
Source: `util/bitops.c` `find_next_bit32`
Kind: D -/
def findNextBit32Quads (addr : ℕ → UInt32) : ℕ → ℕ → ℕ → ℕ → ℕ
  | 0, p, result, size => findNextBit32Words addr (size / BITS_PER_INT) p result size
  | n + 1, p, result, size =>
    if size ≥ 4 * BITS_PER_INT then
      let tmp := (addr p).toUInt64
      let d1 := addr (p + 1)
      let d2 := addr (p + 2)
      let d3 := addr (p + 3)
      if tmp ≠ 0 then findNextBit32FoundMiddle result tmp
      else if d1 ||| d2 ||| d3 ≠ 0 then findNextBit32Words addr (size / BITS_PER_INT) p result size
      else findNextBit32Quads addr n (p + 4) (result + 4 * BITS_PER_INT) (size - 4 * BITS_PER_INT)
    else findNextBit32Words addr (size / BITS_PER_INT) p result size

/-- The code after `offset %= BITS_PER_INT`: the block `if (offset)`, which masks word `p`
with `~0UL << offset`, and then the loops.
Source: `util/bitops.c` `find_next_bit32`
Kind: D -/
def findNextBit32Head (addr : ℕ → UInt32) (p result size offset : ℕ) : ℕ :=
  if offset ≠ 0 then
    let tmp := (addr p).toUInt64 &&& (~~~0 <<< UInt64.ofNat offset)
    if size < BITS_PER_INT then findNextBit32FoundFirst result size tmp
    else if tmp ≠ 0 then findNextBit32FoundMiddle result tmp
    else findNextBit32Quads addr ((size - BITS_PER_INT) / (4 * BITS_PER_INT)) (p + 1)
      (result + BITS_PER_INT) (size - BITS_PER_INT)
  else findNextBit32Quads addr (size / (4 * BITS_PER_INT)) p result size

/-- `find_next_bit32(addr, size, offset)`; `result = offset & ~(BITS_PER_INT-1)` is `offset`
rounded down to its word.
Source: `util/bitops.c` `find_next_bit32`
Kind: D -/
def findNextBit32 (addr : ℕ → UInt32) (size offset : ℕ) : ℕ :=
  let p := BIT32_WORD offset
  let result := offset / BITS_PER_INT * BITS_PER_INT
  if offset ≥ size then size
  else findNextBit32Head addr p result (size - result) (offset % BITS_PER_INT)

example : findNextBit32 (fun w => if w = 5 then 8 else 0) 300 1 = 163 := by decide

/-! ## What it scans -/

/-- The first set bit among the `n` positions from `i`.
Source: none: specification
Kind: D -/
def firstSet32 (addr : ℕ → UInt32) (i n : ℕ) : Option ℕ :=
  (List.range' i n).find? fun k => testBit32 k addr

/-- What a scan of `size` bits from the word-aligned position `r` answers when it reads whole
words: the first set bit up to the end of the last word, and `r + size` when there is none.
Source: none: specification
Kind: D -/
def wordScan32 (addr : ℕ → UInt32) (r size : ℕ) : ℕ :=
  (firstSet32 addr r ((size + 31) / 32 * 32)).getD (r + size)

/-- A scan splits where its range does. -/
theorem firstSet32_append (addr : ℕ → UInt32) (i m n : ℕ) :
    firstSet32 addr i (m + n) = (firstSet32 addr i m).or (firstSet32 addr (i + m) n) := by
  rw [firstSet32, firstSet32, firstSet32, ← List.range'_append_1, List.find?_append]

/-- The scan of word `w` from bit `k` on, against a temporary `t` that holds exactly those bits
of the word: none when `t` is zero, and otherwise what `found_middle` answers. -/
theorem firstSet32_word (addr : ℕ → UInt32) (w : ℕ) {k : ℕ} (hk : k < 32) {t : UInt64}
    (ht : t.toNat < 2 ^ 32)
    (hbits : ∀ j, t.toNat.testBit j = ((addr w).toNat.testBit j && decide (k ≤ j))) :
    firstSet32 addr (32 * w + k) (32 - k) =
      if t = 0 then none else some (findNextBit32FoundMiddle (32 * w) t) := by
  -- bit `j` of word `w` is set at or above `k` exactly when bit `j` of `t` is
  have hword : ∀ j, 32 * w + k ≤ j → j < 32 * w + k + (32 - k) →
      (testBit32 j addr = true ↔ Bit t.toUInt32 (j % 32)) := by
    intro j hlo hhi
    have hkj : k ≤ j % 32 := by omega
    rw [testBit32_iff, bit_toUInt32 ht, hbits, show j / 32 = w by omega, Bit, decide_eq_true hkj,
      Bool.and_true]
  split
  · rename_i h0
    rw [firstSet32, List.find?_range'_eq_none]
    intro j hlo hhi
    rw [Bool.not_eq_true', Bool.eq_false_iff, Ne, hword j hlo hhi, (toUInt32_eq_zero_iff ht).mpr h0]
    exact bit_zero _
  · rename_i h0
    obtain ⟨hlt, hbit, hlow⟩ := ctz32_spec (mt (toUInt32_eq_zero_iff ht).mp h0)
    have hk_le : k ≤ ctz32 t.toUInt32 := by
      have := (bit_toUInt32 ht _).mp hbit
      rw [hbits, Bool.and_eq_true, decide_eq_true_eq] at this
      exact this.2
    rw [firstSet32, List.find?_range'_eq_some, findNextBit32FoundMiddle]
    refine ⟨(hword _ (by omega) (by omega)).mpr ?_, List.mem_range'_1.mpr ⟨by omega, by omega⟩, ?_⟩
    · rwa [show (32 * w + ctz32 t.toUInt32) % 32 = ctz32 t.toUInt32 by omega]
    · intro j hlo hhi
      rw [Bool.not_eq_true', Bool.eq_false_iff, Ne, hword j hlo (by omega)]
      exact hlow _ (by omega)

/-- A whole word, loaded with `tmp = *p`. -/
theorem firstSet32_wholeWord (addr : ℕ → UInt32) (w : ℕ) :
    firstSet32 addr (32 * w) 32 =
      if (addr w).toUInt64 = 0 then none
      else some (findNextBit32FoundMiddle (32 * w) (addr w).toUInt64) := by
  have h := firstSet32_word addr w (k := 0) (by decide) (t := (addr w).toUInt64)
    (by rw [UInt32.toNat_toUInt64]; exact (addr w).toNat_lt) (fun j => by simp)
  rwa [Nat.add_zero, Nat.sub_zero] at h

/-! ## The loops answer the whole-word scan -/

/-- An empty scan answers where it starts. -/
theorem wordScan32_zero (addr : ℕ → UInt32) (r : ℕ) : wordScan32 addr r 0 = r := rfl

/-- A scan of `size > 0` bits reads the whole first word. -/
theorem wordScan32_of_pos (addr : ℕ → UInt32) (p : ℕ) {size : ℕ} (hsize : 0 < size) :
    wordScan32 addr (32 * p) size =
      ((firstSet32 addr (32 * p) 32).or
        (firstSet32 addr (32 * (p + 1)) ((size - 32 + 31) / 32 * 32))).getD (32 * p + size) := by
  rw [wordScan32, show (size + 31) / 32 * 32 = 32 + (size - 32 + 31) / 32 * 32 by omega,
    firstSet32_append, show 32 * p + 32 = 32 * (p + 1) by omega]

/-- A non-zero first word answers the scan. -/
theorem wordScan32_of_ne_zero (addr : ℕ → UInt32) (p : ℕ) {size : ℕ} (hsize : 0 < size)
    (h : (addr p).toUInt64 ≠ 0) :
    wordScan32 addr (32 * p) size = findNextBit32FoundMiddle (32 * p) (addr p).toUInt64 := by
  rw [wordScan32_of_pos addr p hsize, firstSet32_wholeWord, if_neg h]
  rfl

/-- A zero first word, with a whole word left to scan, is skipped. -/
theorem wordScan32_of_eq_zero (addr : ℕ → UInt32) (p : ℕ) {size : ℕ} (hsize : 32 ≤ size)
    (h : (addr p).toUInt64 = 0) :
    wordScan32 addr (32 * p) size = wordScan32 addr (32 * (p + 1)) (size - 32) := by
  rw [wordScan32_of_pos addr p (by omega), firstSet32_wholeWord, if_pos h, Option.none_or,
    wordScan32, show 32 * (p + 1) + (size - 32) = 32 * p + size by omega]

/-- The code after the loops answers the scan of the last, partial word: the mask of
`found_first` keeps the whole word.
Source: `util/bitops.c` `find_next_bit32`
Kind: L -/
theorem findNextBit32Tail_eq (addr : ℕ → UInt32) (p : ℕ) {size : ℕ} (hsize : size < 32) :
    findNextBit32Tail addr p (32 * p) size = wordScan32 addr (32 * p) size := by
  rw [findNextBit32Tail]
  split
  · rename_i h0
    rw [h0, wordScan32_zero]
  · rename_i h0
    have hword : ((addr p).toUInt64).toNat < 2 ^ 32 := by
      rw [UInt32.toNat_toUInt64]; exact (addr p).toNat_lt
    rw [findNextBit32FoundFirst, BITS_PER_INT, and_allOnes_shiftRight hword (by omega)]
    split
    · rename_i hz
      rw [wordScan32_of_pos addr p (by omega), firstSet32_wholeWord, if_pos hz,
        show size - 32 = 0 by omega]
      rfl
    · rename_i hz
      rw [wordScan32_of_ne_zero addr p (by omega) hz]

/-- The word loop from word `p` with `result = 32 * p` answers the whole-word scan, by induction on
the iterations left.
Source: `util/bitops.c` `find_next_bit32`
Kind: L -/
theorem findNextBit32Words_eq (addr : ℕ → UInt32) :
    ∀ n p size, size / 32 ≤ n →
      findNextBit32Words addr n p (32 * p) size = wordScan32 addr (32 * p) size
  | 0, p, size, hn => by
    rw [findNextBit32Words, findNextBit32Tail_eq addr p (by omega)]
  | n + 1, p, size, hn => by
    rw [findNextBit32Words]
    dsimp only
    split
    · rename_i hge
      split
      · rename_i hz
        rw [wordScan32_of_ne_zero addr p (by simp [BITS_PER_INT] at hge; omega) hz]
      · rename_i hz
        rw [not_not] at hz
        have hge' : 32 ≤ size := hge
        rw [wordScan32_of_eq_zero addr p hge' hz, show 32 * p + BITS_PER_INT = 32 * (p + 1) by
          rw [BITS_PER_INT]; omega]
        exact findNextBit32Words_eq addr n (p + 1) (size - 32) (by omega)
    · rename_i hlt
      exact findNextBit32Tail_eq addr p (by simp [BITS_PER_INT] at hlt; omega)

/-- The four-word loop answers the whole-word scan: a break hands the same state to the word
loop, and four zero words are four skipped words.
Source: `util/bitops.c` `find_next_bit32`
Kind: L -/
theorem findNextBit32Quads_eq (addr : ℕ → UInt32) :
    ∀ n p size, findNextBit32Quads addr n p (32 * p) size = wordScan32 addr (32 * p) size
  | 0, p, size => by
    rw [findNextBit32Quads]
    exact findNextBit32Words_eq addr _ p size le_rfl
  | n + 1, p, size => by
    rw [findNextBit32Quads]
    dsimp only
    split
    · rename_i hge
      have hge' : 128 ≤ size := hge
      split
      · rename_i hz
        rw [wordScan32_of_ne_zero addr p (by omega) hz]
      · rename_i hz
        rw [not_not] at hz
        split
        · exact findNextBit32Words_eq addr _ p size le_rfl
        · -- the four words are zero: step over them one at a time
          rename_i hd
          rw [not_not, UInt32.or_eq_zero_iff, UInt32.or_eq_zero_iff] at hd
          obtain ⟨⟨h1, h2⟩, h3⟩ := hd
          rw [wordScan32_of_eq_zero addr p (by omega) hz,
            wordScan32_of_eq_zero addr (p + 1) (by omega) (toUInt64_eq_zero_iff.mpr h1),
            wordScan32_of_eq_zero addr (p + 1 + 1) (by omega) (toUInt64_eq_zero_iff.mpr h2),
            wordScan32_of_eq_zero addr (p + 1 + 1 + 1) (by omega) (toUInt64_eq_zero_iff.mpr h3),
            show 32 * p + 4 * BITS_PER_INT = 32 * (p + 4) by rw [BITS_PER_INT]; omega,
            show size - 32 - 32 - 32 - 32 = size - 4 * BITS_PER_INT by rw [BITS_PER_INT]; omega]
          exact findNextBit32Quads_eq addr n (p + 4) (size - 4 * BITS_PER_INT)
    · exact findNextBit32Words_eq addr _ p size le_rfl

/-- The block `if (offset)` from bit `k > 0` of word `p`, with `size` bits left from the word's
start: found_first when the range ends in this word, found_middle when the masked word is not
zero, and otherwise the loops from the next word.
Source: `util/bitops.c` `find_next_bit32`
Kind: L -/
theorem findNextBit32Head_of_ne_zero (addr : ℕ → UInt32) (p : ℕ) {size k : ℕ} (hk : k < 32)
    (hk0 : k ≠ 0) (hsize : k < size) :
    findNextBit32Head addr p (32 * p) size k =
      (firstSet32 addr (32 * p + k) ((size + 31) / 32 * 32 - k)).getD (32 * p + size) := by
  rw [findNextBit32Head, if_pos hk0, BITS_PER_INT]
  dsimp only
  set tmp := (addr p).toUInt64 &&& ((~~~0 : UInt64) <<< UInt64.ofNat k) with htmp_def
  have htmp : tmp.toNat < 2 ^ 32 := by
    rw [htmp_def, UInt64.toNat_and, UInt32.toNat_toUInt64]
    exact Nat.lt_of_le_of_lt Nat.and_le_left (addr p).toNat_lt
  -- the scan is word `p` from bit `k`, then the words after it
  have hsplit : firstSet32 addr (32 * p + k) ((size + 31) / 32 * 32 - k) =
      (firstSet32 addr (32 * p + k) (32 - k)).or
        (firstSet32 addr (32 * (p + 1)) ((size - 32 + 31) / 32 * 32)) := by
    rw [show (size + 31) / 32 * 32 - k = (32 - k) + (size - 32 + 31) / 32 * 32 by omega,
      firstSet32_append, show 32 * p + k + (32 - k) = 32 * (p + 1) by omega]
  rw [hsplit, firstSet32_word addr p hk htmp (testBit_and_allOnes_shiftLeft (addr p) (by omega))]
  by_cases hlast : size < 32
  · -- the range ends in word `p`: found_first, whose mask keeps the whole word
    rw [if_pos hlast, findNextBit32FoundFirst, BITS_PER_INT,
      and_allOnes_shiftRight htmp (by omega), show (size - 32 + 31) / 32 * 32 = 0 by omega]
    by_cases hz : tmp = 0
    · rw [if_pos hz, if_pos hz]
      rfl
    · rw [if_neg hz, if_neg hz]
      rfl
  · rw [if_neg hlast]
    by_cases hz : tmp = 0
    · rw [if_neg (not_not.mpr hz), if_pos hz, Option.none_or, show 32 * p + 32 = 32 * (p + 1) by omega,
        findNextBit32Quads_eq, wordScan32, show 32 * (p + 1) + (size - 32) = 32 * p + size by omega]
    · rw [if_pos hz, if_neg hz]
      rfl

/-- The code after `offset %= BITS_PER_INT` scans from bit `k` of word `p` to the end of the
last word.
Source: `util/bitops.c` `find_next_bit32`
Kind: L -/
theorem findNextBit32Head_eq (addr : ℕ → UInt32) (p : ℕ) {size k : ℕ} (hk : k < 32)
    (hsize : k < size) :
    findNextBit32Head addr p (32 * p) size k =
      (firstSet32 addr (32 * p + k) ((size + 31) / 32 * 32 - k)).getD (32 * p + size) := by
  by_cases hk0 : k = 0
  · subst hk0
    rw [findNextBit32Head, if_neg (not_not.mpr rfl), findNextBit32Quads_eq, wordScan32,
      Nat.add_zero (32 * p), Nat.sub_zero]
  · exact findNextBit32Head_of_ne_zero addr p hk hk0 hsize

/-- **`find_next_bit32(addr, size, offset)` answers the first set bit from `offset` to the end of
the word that holds bit `size - 1`, and `size` when there is none.**
Source: `util/bitops.c` `find_next_bit32`
Kind: L -/
theorem findNextBit32_eq (addr : ℕ → UInt32) (size offset : ℕ) :
    findNextBit32 addr size offset =
      if size ≤ offset then size
      else (firstSet32 addr offset ((size + 31) / 32 * 32 - offset)).getD size := by
  rw [findNextBit32]
  by_cases h : size ≤ offset
  · rw [if_pos h, if_pos h]
  · rw [if_neg h, if_neg h, BITS_PER_INT, BIT32_WORD, show offset / 32 * 32 = 32 * (offset / 32) by omega,
      findNextBit32Head_eq addr _ (Nat.mod_lt _ (by decide)) (by omega),
      show 32 * (offset / 32) + offset % 32 = offset by omega,
      show (size - 32 * (offset / 32) + 31) / 32 * 32 - offset % 32 = (size + 31) / 32 * 32 - offset by omega,
      show 32 * (offset / 32) + (size - 32 * (offset / 32)) = size by omega]

/-! ## The scan as a search over positions -/

/-- A found position lies in the scanned range. -/
theorem firstSet32_bounds {addr : ℕ → UInt32} {i n j : ℕ} (h : firstSet32 addr i n = some j) :
    i ≤ j ∧ j < i + n := by
  rw [firstSet32, List.find?_range'_eq_some, List.mem_range'_1] at h
  exact h.2.1

/-- Below the size, the scan to the end of the last word is the scan to the size followed by
the bits of the last word from the size on. -/
theorem firstSet32_to_word_end (addr : ℕ → UInt32) {size offset : ℕ} (h : offset < size) :
    firstSet32 addr offset ((size + 31) / 32 * 32 - offset) =
      (firstSet32 addr offset (size - offset)).or
        (firstSet32 addr size ((size + 31) / 32 * 32 - size)) := by
  rw [show (size + 31) / 32 * 32 - offset = (size - offset) + ((size + 31) / 32 * 32 - size) by omega,
    firstSet32_append, Nat.add_sub_cancel' h.le]

/-- An answer below the size is the first set bit in `[offset, size)`.
Source: `util/bitops.c` `find_next_bit32`
Kind: L -/
theorem firstSet32_of_findNextBit32_lt {addr : ℕ → UInt32} {size offset : ℕ}
    (h : findNextBit32 addr size offset < size) :
    firstSet32 addr offset (size - offset) = some (findNextBit32 addr size offset) := by
  rw [findNextBit32_eq] at h ⊢
  by_cases hle : size ≤ offset
  · rw [if_pos hle] at h
    exact absurd h (Nat.lt_irrefl size)
  · rw [if_neg hle] at h ⊢
    rw [firstSet32_to_word_end addr (by omega)] at h ⊢
    cases hA : firstSet32 addr offset (size - offset) with
    | none =>
      -- past the size, every position the last word offers is at least the size
      rw [hA, Option.none_or] at h
      cases hB : firstSet32 addr size ((size + 31) / 32 * 32 - size) with
      | none => rw [hB, Option.getD_none] at h; exact absurd h (Nat.lt_irrefl size)
      | some j => rw [hB, Option.getD_some] at h; exact absurd (firstSet32_bounds hB).1 (by omega)
    | some j => rfl

/-- An answer at or past the size means that no bit in `[offset, size)` is set.
Source: `util/bitops.c` `find_next_bit32`
Kind: L -/
theorem firstSet32_eq_none_of_le_findNextBit32 {addr : ℕ → UInt32} {size offset : ℕ}
    (h : size ≤ findNextBit32 addr size offset) : firstSet32 addr offset (size - offset) = none := by
  cases hA : firstSet32 addr offset (size - offset) with
  | none => rfl
  | some j =>
    have hj := firstSet32_bounds hA
    rw [findNextBit32_eq, if_neg (by omega), firstSet32_to_word_end addr (by omega), hA] at h
    exact absurd h (by rw [Option.some_or, Option.getD_some]; omega)

/-- An answer below the size is at least the offset.
Source: `util/bitops.c` `find_next_bit32`
Kind: L -/
theorem le_findNextBit32 {addr : ℕ → UInt32} {size offset : ℕ}
    (h : findNextBit32 addr size offset < size) : offset ≤ findNextBit32 addr size offset :=
  (firstSet32_bounds (firstSet32_of_findNextBit32_lt h)).1

/-- **An answer of at most `size` is the first set bit in `[offset, size)`, or `size`; with no bit
there set, the answer is the first set bit of the last word at or past `size`.**
Source: `util/bitops.c` `find_next_bit32`
Kind: P -/
theorem find_next_bit32_overshoots_size (addr : ℕ → UInt32) (size offset : ℕ) :
    (findNextBit32 addr size offset ≤ size →
      findNextBit32 addr size offset = (firstSet32 addr offset (size - offset)).getD size) ∧
    (offset < size → firstSet32 addr offset (size - offset) = none →
      findNextBit32 addr size offset =
        (firstSet32 addr size ((size + 31) / 32 * 32 - size)).getD size) := by
  constructor
  · intro hle
    rcases Nat.lt_or_eq_of_le hle with hlt | heq
    · rw [firstSet32_of_findNextBit32_lt hlt, Option.getD_some]
    · rw [firstSet32_eq_none_of_le_findNextBit32 heq.ge, Option.getD_none, heq]
  · intro hlt hnone
    rw [findNextBit32_eq, if_neg (by omega), firstSet32_to_word_end addr hlt, hnone, Option.none_or]

/-- One bit, bit 2 of word 0 set: `find_next_bit32(addr, 1, 0)` answers 2.
Source: `util/bitops.c` `find_next_bit32`
Kind: P -/
theorem find_next_bit32_overshoots_size_one_bit : findNextBit32 (fun _ => 4) 1 0 = 2 :=
  ((find_next_bit32_overshoots_size (fun _ => 4) 1 0).2 (by decide) (by decide)).trans (by decide)

/-! ## The callers' loop -/

/-- The positions `i = start - 1; while ((i = find_next_bit32(addr, size, i + 1)) < size)` visits.
Source: `hw/intc/apple_aic.c` `apple_aic_update`
Kind: D -/
def findNextBit32Walk (addr : ℕ → UInt32) (size start : ℕ) : List ℕ :=
  let i := findNextBit32 addr size start
  if h : i < size then i :: findNextBit32Walk addr size (i + 1) else []
termination_by size - start
decreasing_by have := le_findNextBit32 h; omega

/-- The loop visits the set bits in `[start, size)` in increasing order, by induction on the
loop: each answer below the size is the next set bit.
Source: `util/bitops.c` `find_next_bit32`
Kind: L -/
theorem findNextBit32Walk_eq (addr : ℕ → UInt32) (size start : ℕ) :
    findNextBit32Walk addr size start =
      (List.range' start (size - start)).filter fun k => testBit32 k addr := by
  fun_induction findNextBit32Walk addr size start with
  | case1 start i h ih =>
    -- `i` is the first set bit from `start`: the positions before it are all clear
    obtain ⟨hbit, hmem, hlow⟩ := List.find?_range'_eq_some.mp (firstSet32_of_findNextBit32_lt h)
    rw [List.mem_range'_1] at hmem
    have hbefore : (List.range' start (i - start)).filter (fun k => testBit32 k addr) = [] := by
      apply List.filter_eq_nil_iff.mpr
      intro j hj
      rw [List.mem_range'_1] at hj
      simpa using hlow j hj.1 (by omega)
    rw [ih, show size - start = (i - start) + ((size - (i + 1)) + 1) by omega,
      ← List.range'_append_1, List.filter_append, hbefore, List.nil_append,
      show start + (i - start) = i by omega, List.range'_succ,
      List.filter_cons_of_pos (p := fun k => testBit32 k addr) hbit]
  | case2 start i h =>
    have hnone := firstSet32_eq_none_of_le_findNextBit32 (Nat.le_of_not_lt h)
    rw [firstSet32, List.find?_range'_eq_none] at hnone
    symm
    apply List.filter_eq_nil_iff.mpr
    intro j hj
    rw [List.mem_range'_1] at hj
    simpa using hnone j hj.1 hj.2

/-- **From `i = -1` the loop visits exactly `setBits32 addr size`, for every size.**
Source: `hw/intc/apple_aic.c` `apple_aic_update`
Kind: L -/
theorem findNextBit32Walk_zero (addr : ℕ → UInt32) (size : ℕ) :
    findNextBit32Walk addr size 0 = setBits32 addr size := by
  rw [findNextBit32Walk_eq, setBits32, List.range_eq_range', Nat.sub_zero]

end QemuAppleSilicon.Qemu
