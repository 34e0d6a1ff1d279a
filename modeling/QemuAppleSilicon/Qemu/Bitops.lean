import QemuAppleSilicon.Lib.Bits32

/-!
# Bit arrays of 32-bit words (`include/qemu/bitops.h`, `include/qemu/host-utils.h`)

A bit array is an array of `uint32_t` words; bit `nr` is bit `nr % 32` of word `nr / 32`. The
array is modelled as a function from word index to word. The loops that walk the set bits with
`find_next_bit32` visit them in increasing order; they are modelled by `setBits32`, the list of the
set positions below the size.

* `testBit32_iff`, `testBit32_setBit32` — what `test_bit32` reads, also after `set_bit32`.
* `ctz32_spec` — `ctz32` of a non-zero word is its lowest set bit.
* `findFirstBit32_of_ne_zero` — `find_first_bit32` from a non-zero word is its lowest set bit when
  that is below the size, and the size otherwise.
-/

namespace QemuAppleSilicon.Qemu

open QemuAppleSilicon.Lib

/-- `BIT32_WORD(nr)`: the word of bit `nr`.
Source: `include/qemu/bitops.h` `BIT32_WORD`
Kind: D -/
def BIT32_WORD (nr : ℕ) : ℕ := nr / 32

/-- `BIT32_MASK(nr)`: bit `nr` within its word.
Source: `include/qemu/bitops.h` `BIT32_MASK`
Kind: D -/
def BIT32_MASK (nr : ℕ) : UInt32 := 1 <<< UInt32.ofNat (nr % 32)

/-- `test_bit32(nr, addr)`, as whether it returns one.
Source: `include/qemu/bitops.h` `test_bit32`
Kind: D -/
def testBit32 (nr : ℕ) (addr : ℕ → UInt32) : Bool :=
  1 &&& (addr (BIT32_WORD nr) >>> UInt32.ofNat (nr % 32)) != 0

/-- `set_bit32(nr, addr)`.
Source: `include/qemu/bitops.h` `set_bit32`
Kind: D -/
def setBit32 (nr : ℕ) (addr : ℕ → UInt32) : ℕ → UInt32 :=
  Function.update addr (BIT32_WORD nr) (addr (BIT32_WORD nr) ||| BIT32_MASK nr)

/-- `clear_bit32(nr, addr)`.
Source: `include/qemu/bitops.h` `clear_bit32`
Kind: D -/
def clearBit32 (nr : ℕ) (addr : ℕ → UInt32) : ℕ → UInt32 :=
  Function.update addr (BIT32_WORD nr) (addr (BIT32_WORD nr) &&& ~~~BIT32_MASK nr)

/-- `ctz32(val)`: the number of trailing zeros, 32 for zero.
Source: `include/qemu/host-utils.h` `ctz32`
Kind: D -/
def ctz32 (val : UInt32) : ℕ :=
  ((List.range 32).find? fun i => val.toNat.testBit i).getD 32

/-- The loop of `find_first_bit32(addr, size)` from word `w` with `n` words left: the first
non-zero word gives its lowest bit, capped at the size.
Source: `include/qemu/bitops.h` `find_first_bit32`
Kind: D -/
def findFirstBit32Loop (addr : ℕ → UInt32) (size w : ℕ) : ℕ → ℕ
  | 0 => size
  | n + 1 =>
    let tmp := addr w
    if tmp ≠ 0 then
      let result := 32 * w + ctz32 tmp
      if result < size then result else size
    else findFirstBit32Loop addr size (w + 1) n

/-- `find_first_bit32(addr, size)`: the loop runs over the words that hold the first `size` bits.
Source: `include/qemu/bitops.h` `find_first_bit32`
Kind: D -/
def findFirstBit32 (addr : ℕ → UInt32) (size : ℕ) : ℕ :=
  findFirstBit32Loop addr size 0 ((size + 31) / 32)

/-- The set bits below `size`, in increasing order: the positions a loop
`while ((i = find_next_bit32(addr, size, i + 1)) < size)` visits from `i = -1`.
Source: `include/qemu/bitops.h` `find_next_bit32`
Kind: D -/
def setBits32 (addr : ℕ → UInt32) (size : ℕ) : List ℕ :=
  (List.range size).filter fun i => testBit32 i addr

/-- `deposit32(value, start, length, fieldval)`: the bits `start .. start + length - 1` of
`value` replaced by the low bits of `fieldval`.
Source: `include/qemu/bitops.h` `deposit32`
Kind: D -/
def deposit32 (value : UInt32) (start length : ℕ) (fieldval : UInt32) : UInt32 :=
  let mask := (~~~(0 : UInt32) >>> UInt32.ofNat (32 - length)) <<< UInt32.ofNat start
  (value &&& ~~~mask) ||| ((fieldval <<< UInt32.ofNat start) &&& mask)

/-- `test_bit32` reads bit `nr % 32` of word `nr / 32`. -/
theorem testBit32_iff {nr : ℕ} {addr : ℕ → UInt32} :
    testBit32 nr addr = true ↔ Bit (addr (nr / 32)) (nr % 32) := by
  have hlt : nr % 32 < 32 := Nat.mod_lt nr (by decide)
  have hshift : (UInt32.ofNat (nr % 32)).toNat = nr % 32 := by
    rw [UInt32.toNat_ofNat', Nat.mod_eq_of_lt (by omega)]
  have hone : (1 : UInt32) = 1 <<< UInt32.ofNat 0 := rfl
  rw [testBit32, bne_iff_ne, Ne, UInt32.and_comm, hone, and_one_shiftLeft_eq_zero (by decide),
    not_not, Bit, UInt32.toNat_shiftRight, hshift, Nat.mod_eq_of_lt hlt, Nat.testBit_shiftRight,
    Nat.add_zero, BIT32_WORD]
  rfl

/-- A bit of a set bit array: the bit set, or one set before. -/
theorem testBit32_setBit32 (nr m : ℕ) (addr : ℕ → UInt32) :
    testBit32 m (setBit32 nr addr) = true ↔ testBit32 m addr = true ∨ m = nr := by
  have hmask : ∀ k, Bit (BIT32_MASK nr) k ↔ k = nr % 32 := fun k =>
    bit_one_shiftLeft (Nat.mod_lt nr (by decide))
  rw [testBit32_iff, testBit32_iff, setBit32, BIT32_WORD]
  by_cases hw : m / 32 = nr / 32
  · rw [hw, Function.update_self, bit_or, hmask]
    constructor
    · rintro (h | h)
      · exact Or.inl h
      · exact Or.inr (by omega)
    · rintro (h | rfl)
      · exact Or.inl h
      · exact Or.inr rfl
  · rw [Function.update_of_ne hw]
    constructor
    · exact Or.inl
    · rintro (h | rfl)
      · exact h
      · exact absurd rfl hw

/-- `ctz32` of a non-zero word is its lowest set bit. -/
theorem ctz32_spec {x : UInt32} (hx : x ≠ 0) :
    ctz32 x < 32 ∧ Bit x (ctz32 x) ∧ ∀ j < ctz32 x, ¬ Bit x j := by
  have hbit : ∃ k, Bit x k := by
    by_contra h
    exact hx (eq_zero_iff.mpr fun k hk => h ⟨k, hk⟩)
  obtain ⟨k, hk⟩ := hbit
  cases hfind : (List.range 32).find? (fun i => x.toNat.testBit i) with
  | none =>
    rw [List.find?_range_eq_none] at hfind
    have := hfind k (lt_of_bit hk)
    rw [Bit] at hk
    rw [hk] at this
    cases this
  | some i =>
    obtain ⟨hi, hmem, hbelow⟩ := List.find?_range_eq_some.mp hfind
    rw [ctz32, hfind, Option.getD_some]
    refine ⟨List.mem_range.mp hmem, hi, fun j hj hjb => ?_⟩
    have := hbelow j hj
    rw [Bit] at hjb
    rw [hjb] at this
    cases this

/-- `find_first_bit32` from a non-zero first word: its lowest set bit when below the size, else
the size. -/
theorem findFirstBit32_of_ne_zero {addr : ℕ → UInt32} {size : ℕ} (hsize : 0 < size)
    (hx : addr 0 ≠ 0) :
    findFirstBit32 addr size = if ctz32 (addr 0) < size then ctz32 (addr 0) else size := by
  obtain ⟨n, hn⟩ : ∃ n, (size + 31) / 32 = n + 1 := ⟨(size + 31) / 32 - 1, by omega⟩
  rw [findFirstBit32, hn, findFirstBit32Loop]
  simp only [if_pos hx, Nat.mul_zero, Nat.zero_add]

/-- The positions `setBits32` lists are the set bits below the size. -/
theorem mem_setBits32 {addr : ℕ → UInt32} {size i : ℕ} :
    i ∈ setBits32 addr size ↔ i < size ∧ testBit32 i addr = true := by
  rw [setBits32, List.mem_filter, List.mem_range]

/-- A bit of a cleared bit array: a bit set before, other than the one cleared. -/
theorem testBit32_clearBit32 (nr m : ℕ) (addr : ℕ → UInt32) :
    testBit32 m (clearBit32 nr addr) = true ↔ testBit32 m addr = true ∧ m ≠ nr := by
  have hmask : ∀ k, Bit (BIT32_MASK nr) k ↔ k = nr % 32 := fun k =>
    bit_one_shiftLeft (Nat.mod_lt nr (by decide))
  rw [testBit32_iff, testBit32_iff, clearBit32, BIT32_WORD]
  by_cases hw : m / 32 = nr / 32
  · have hlt : m % 32 < 32 := Nat.mod_lt m (by decide)
    rw [hw, Function.update_self, bit_and, bit_not, hmask]
    constructor
    · rintro ⟨h, _, hne⟩
      exact ⟨h, fun hm => hne (by rw [hm])⟩
    · rintro ⟨h, hne⟩
      exact ⟨h, hlt, fun hm => hne (by omega)⟩
  · rw [Function.update_of_ne hw]
    exact ⟨fun h => ⟨h, fun hm => hw (by rw [hm])⟩, fun h => h.1⟩

/-- `testBit32_setBit32` as an equation of booleans. -/
theorem testBit32_setBit32_eq (nr m : ℕ) (addr : ℕ → UInt32) :
    testBit32 m (setBit32 nr addr) = (testBit32 m addr || decide (m = nr)) := by
  rw [Bool.eq_iff_iff, testBit32_setBit32, Bool.or_eq_true, decide_eq_true_eq]

/-- `testBit32_clearBit32` as an equation of booleans. -/
theorem testBit32_clearBit32_eq (nr m : ℕ) (addr : ℕ → UInt32) :
    testBit32 m (clearBit32 nr addr) = (testBit32 m addr && decide (m ≠ nr)) := by
  rw [Bool.eq_iff_iff, testBit32_clearBit32, Bool.and_eq_true, decide_eq_true_eq]

/-- A bit of a bit array whose word `w` lost the bits of `v`. -/
theorem testBit32_update_and_not (w m : ℕ) (v : UInt32) (addr : ℕ → UInt32) :
    testBit32 m (Function.update addr w (addr w &&& ~~~v)) = true ↔
      testBit32 m addr = true ∧ (m / 32 = w → ¬ Bit v (m % 32)) := by
  rw [testBit32_iff, testBit32_iff]
  by_cases hw : m / 32 = w
  · have hlt : m % 32 < 32 := Nat.mod_lt m (by decide)
    subst hw
    rw [Function.update_self, bit_and, bit_not]
    constructor
    · rintro ⟨h, _, hv⟩
      exact ⟨h, fun _ => hv⟩
    · rintro ⟨h, hv⟩
      exact ⟨h, hlt, hv rfl⟩
  · rw [Function.update_of_ne hw]
    exact ⟨fun h => ⟨h, fun h' => absurd h' hw⟩, fun h => h.1⟩

/-- The bit array from word `base` on (`&addr[base]` in C): its bit `k` is bit
`32 * base + k` of `addr`. -/
theorem testBit32_shift (base k : ℕ) (addr : ℕ → UInt32) :
    testBit32 k (fun w => addr (base + w)) = testBit32 (base * 32 + k) addr := by
  have hdiv : (base * 32 + k) / 32 = base + k / 32 := by omega
  have hmod : (base * 32 + k) % 32 = k % 32 := by omega
  rw [testBit32, testBit32, BIT32_WORD, BIT32_WORD, hdiv, hmod]

/-- The loop of `find_first_bit32` from word `w` with `n` words left answers other than the
size exactly when one of those words has a set bit below the size. By induction on `n`: a zero
word is skipped, and the lowest bit of the first non-zero word is below the size exactly when
some bit from there on is. -/
theorem findFirstBit32Loop_ne_size_iff (addr : ℕ → UInt32) (size : ℕ) :
    ∀ n w, findFirstBit32Loop addr size w n ≠ size ↔
      ∃ k, 32 * w ≤ k ∧ k < 32 * (w + n) ∧ k < size ∧ testBit32 k addr = true
  | 0, w => by
    simp only [findFirstBit32Loop, ne_eq, not_true_eq_false, Nat.add_zero, false_iff, not_exists,
      not_and]
    intro k hk hk'
    omega
  | n + 1, w => by
    rw [findFirstBit32Loop]
    dsimp only
    by_cases hx : addr w ≠ 0
    · obtain ⟨hlt, hbit, hlow⟩ := ctz32_spec hx
      rw [if_pos hx]
      -- bit `k` of word `w` lies at `32 * w + k % 32`
      have hword : ∀ k, testBit32 k addr = true → k / 32 = w → ctz32 (addr w) ≤ k % 32 := by
        intro k hk hkw
        rw [testBit32_iff, hkw] at hk
        by_contra hgt
        exact hlow (k % 32) (by omega) hk
      have hfirst : testBit32 (32 * w + ctz32 (addr w)) addr = true := by
        rw [testBit32_iff, show (32 * w + ctz32 (addr w)) / 32 = w by omega,
          show (32 * w + ctz32 (addr w)) % 32 = ctz32 (addr w) by omega]
        exact hbit
      by_cases hr : 32 * w + ctz32 (addr w) < size
      · rw [if_pos hr]
        exact ⟨fun _ => ⟨_, by omega, by omega, hr, hfirst⟩, fun _ => by omega⟩
      · rw [if_neg hr]
        simp only [ne_eq, not_true_eq_false, false_iff, not_exists, not_and]
        intro k hk _ hks hbk
        by_cases hkw : k / 32 = w
        · have := hword k hbk hkw
          omega
        · omega
    · rw [if_neg hx, findFirstBit32Loop_ne_size_iff addr size n (w + 1)]
      rw [not_not] at hx
      -- word `w` is zero: no bit of it is set
      have hnone : ∀ k, k / 32 = w → testBit32 k addr = false := by
        intro k hkw
        rw [Bool.eq_false_iff, Ne, testBit32_iff, hkw, hx]
        exact bit_zero _
      constructor
      · rintro ⟨k, hk, hk', hks, hbk⟩
        exact ⟨k, by omega, by omega, hks, hbk⟩
      · rintro ⟨k, hk, hk', hks, hbk⟩
        refine ⟨k, ?_, by omega, hks, hbk⟩
        by_contra hlt
        rw [hnone k (by omega)] at hbk
        cases hbk

/-- **`find_first_bit32(addr, size)` answers other than `size` exactly when a bit below `size`
is set.**
Source: `include/qemu/bitops.h` `find_first_bit32`
Kind: L -/
theorem findFirstBit32_ne_size_iff (addr : ℕ → UInt32) (size : ℕ) :
    findFirstBit32 addr size ≠ size ↔ ∃ k < size, testBit32 k addr = true := by
  rw [findFirstBit32, findFirstBit32Loop_ne_size_iff]
  constructor
  · rintro ⟨k, _, _, hks, hbk⟩
    exact ⟨k, hks, hbk⟩
  · rintro ⟨k, hks, hbk⟩
    exact ⟨k, by omega, by omega, hks, hbk⟩

end QemuAppleSilicon.Qemu
