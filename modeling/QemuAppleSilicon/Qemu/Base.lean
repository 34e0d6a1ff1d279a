import Mathlib.Data.UInt
import QemuAppleSilicon.Lib.Bytes

/-!
# The C and QEMU utility layer the device models use

The helpers of `include/qemu/osdep.h`, `include/qemu/bswap.h` and `util/cutils.c`, and the C
library and GLib string functions the device code calls, each as the code computes it.

* `roundUp32 n d` — `ROUND_UP(n, d)` on a `uint32_t`: `(n + d - 1) & -d` in 32-bit
  arithmetic, so it wraps to `0` for `n > 2^32 - d`; `roundUp32_toNat` is its value when it
  does not. `roundUp` is the same macro on a 64-bit size that does not wrap.
* `stlLeP` / `ldlLeP` — `stl_le_p` / `ldl_le_p` on a byte memory, with the round trip
  `ldlLeP_stlLeP`.
* `roundDown64 n d` — `ROUND_DOWN(n, d)` on a `hwaddr`; `roundDown64_toNat` is its value for a
  power-of-two `d`.
* `cString`, `strnlenBytes`, `strncpyBytes` — a C string inside a buffer, `strnlen` and
  `strncpy` (which pads with zeroes to its bound).
* `printfDecimal` — what `%d` prints; below `2^31` the decimal digits, distinct for distinct
  values (`printfDecimal_toInt32_injective`).
* `qemuStrsep` — the token sequence the `while ((token = qemu_strsep(&next, delim)))` loop
  yields: `List.splitOn`, empty tokens included.
* `gAsciiStrtoull` — `g_ascii_strtoull(s, NULL, 0)`: leading blanks, a sign, the `0x`/`0`
  base prefixes, saturation at `G_MAXUINT64`, negation modulo `2^64`, as GLib documents it.
-/

namespace QemuAppleSilicon.Qemu

open QemuAppleSilicon.Lib

/-! ## `osdep.h` -/

/-- `ROUND_UP(n, d)` on a `uint32_t`: `ROUND_DOWN((n) + (d) - 1, (d))` with
`ROUND_DOWN(n, d) = (n) & -(d)`, all in 32-bit unsigned arithmetic.
Source: `include/qemu/osdep.h` `ROUND_UP` / `ROUND_DOWN`
Kind: D -/
def roundUp32 (n d : UInt32) : UInt32 := (n + d - 1) &&& (0 - d)

/-- `ROUND_UP(n, d)` on a 64-bit size that stays far below `2^64`.
Source: `include/qemu/osdep.h` `ROUND_UP`
Kind: D -/
def roundUp (n d : ℕ) : ℕ := (n + d - 1) / d * d

/-- `ROUND_UP_16K(v)`.
Source: `include/hw/arm/apple-silicon/mem.h` `ROUND_UP_16K`
Kind: D -/
def roundUp16K (v : ℕ) : ℕ := roundUp v 0x4000

/-- `ROUND_DOWN(n, d)` on a `hwaddr`: `(n) & -(d)` in 64-bit unsigned arithmetic.
Source: `include/qemu/osdep.h` `ROUND_DOWN`
Kind: D -/
def roundDown64 (n d : UInt64) : UInt64 := n &&& (0 - d)

/-- For a power of two `d`, `ROUND_DOWN(n, d)` is the multiple of `d` at or below `n`. -/
theorem roundDown64_toNat (n : UInt64) {d : UInt64} {k : ℕ} (hd : d.toNat = 2 ^ k) :
    (roundDown64 n d).toNat = n.toNat / d.toNat * d.toNat := by
  have hk : k < 64 := by
    have h := d.toNat_lt
    rw [hd] at h
    exact (Nat.pow_lt_pow_iff_right (by norm_num)).mp h
  have hmask : (0 - d).toNat = 2 ^ 64 - 2 ^ k := by
    rw [UInt64.toNat_sub, hd]
    simp
  rw [roundDown64, UInt64.toNat_and, hmask, hd]
  exact and_two_pow_sub_two_pow n.toNat_lt hk.le

theorem le_roundUp (n : ℕ) {d : ℕ} (hd : 0 < d) : n ≤ roundUp n d := by
  unfold roundUp
  have h := Nat.lt_div_mul_add (a := n + d - 1) hd
  omega

/-- `ROUND_UP(n, 4)` below the wrap point is the next multiple of four. -/
theorem roundUp32_four_toNat (n : UInt32) (h : n.toNat + 3 < 2 ^ 32) :
    (roundUp32 n 4).toNat = roundUp n.toNat 4 := by
  have hsum : (n + 4 - 1).toNat = n.toNat + 3 := by
    rw [add_sub_assoc, show (4 : UInt32) - 1 = 3 from rfl, UInt32.toNat_add]
    simp only [UInt32.reduceToNat]
    omega
  have hmask : ((0 : UInt32) - 4).toNat = 2 ^ 32 - 2 ^ 2 := rfl
  have hround := and_two_pow_sub_two_pow (k := 2) h (by omega)
  rw [roundUp32, UInt32.toNat_and, hsum, hmask, hround, roundUp]
  rfl

@[simp] theorem roundUp32_zero_four : roundUp32 0 4 = 0 := rfl

/-- `ROUND_UP(n, 4)` never undershoots `n` below the wrap point, and is below `n + 4`. -/
theorem roundUp_four_bounds (n : ℕ) : n ≤ roundUp n 4 ∧ roundUp n 4 < n + 4 := by
  unfold roundUp
  omega

/-! ## `bswap.h` -/

/-- `stl_le_p(p, v)`: store a 32-bit word little-endian.
Source: `include/qemu/bswap.h` `stl_le_p`
Kind: D -/
def stlLeP (m : Mem) (p : ℕ) (v : UInt32) : Mem := m.write p (leBytes v.toNat 4)

/-- `ldl_le_p(p)`: load a little-endian 32-bit word (its bit pattern; the `int` the C function
returns is stored back into `uint32_t` fields unchanged).
Source: `include/qemu/bswap.h` `ldl_le_p`
Kind: D -/
def ldlLeP (m : Mem) (p : ℕ) : UInt32 := UInt32.ofNat (leValue (m.read p 4))

/-- `cpu_to_be32(v)` on a little-endian host: the word with its bytes reversed, so that it is
stored big-endian.
Source: `include/qemu/bswap.h` `cpu_to_be32`
Kind: D -/
def cpuToBe32 (v : UInt32) : UInt32 := UInt32.ofNat (leValue (leBytes v.toNat 4).reverse)

theorem ldlLeP_eq_of_agree {m m' : Mem} {p : ℕ} (h : Mem.AgreeOn m m' p (p + 4)) :
    ldlLeP m p = ldlLeP m' p := by
  rw [ldlLeP, ldlLeP, h.read_eq]

/-- A stored word loads back. -/
theorem ldlLeP_stlLeP_of_agree {m m' : Mem} {p : ℕ} {v : UInt32}
    (h : Mem.AgreeOn (stlLeP m p v) m' p (p + 4)) : ldlLeP m' p = v := by
  have hlen : (leBytes v.toNat 4).length = 4 := leBytes_length _ _
  have hread : m'.read p 4 = leBytes v.toNat 4 := by
    rw [← hlen]
    exact Mem.read_write_of_agree m (by simpa [stlLeP] using h)
  rw [ldlLeP, hread, leValue_leBytes_of_lt (by simpa using v.toNat_lt)]
  simp

@[simp] theorem ldlLeP_stlLeP (m : Mem) (p : ℕ) (v : UInt32) : ldlLeP (stlLeP m p v) p = v :=
  ldlLeP_stlLeP_of_agree fun _ _ _ => rfl

theorem unchanged_stlLeP (m : Mem) (p : ℕ) (v : UInt32) : Mem.Unchanged m (stlLeP m p v) p (p + 4) := by
  simpa [stlLeP] using m.unchanged_write p (leBytes v.toNat 4)

/-- `stw_le_p(p, v)`: store a 16-bit value little-endian.
Source: `include/qemu/bswap.h` `stw_le_p`
Kind: D -/
def stwLeP (m : Mem) (p : ℕ) (v : UInt16) : Mem := m.write p (leBytes v.toNat 2)

/-- `lduw_le_p(p)`: load a little-endian 16-bit value.
Source: `include/qemu/bswap.h` `lduw_le_p`
Kind: D -/
def lduwLeP (m : Mem) (p : ℕ) : UInt16 := UInt16.ofNat (leValue (m.read p 2))

@[simp] theorem lduwLeP_stwLeP (m : Mem) (p : ℕ) (v : UInt16) : lduwLeP (stwLeP m p v) p = v := by
  have hread := Mem.read_write_self m p (leBytes v.toNat 2)
  rw [leBytes_length] at hread
  rw [lduwLeP, stwLeP, hread, leValue_leBytes_of_lt (by simpa using v.toNat_lt)]
  simp

theorem unchanged_stwLeP (m : Mem) (p : ℕ) (v : UInt16) : Mem.Unchanged m (stwLeP m p v) p (p + 2) := by
  simpa [stwLeP] using m.unchanged_write p (leBytes v.toNat 2)

/-- A load outside the range a memory change is confined to sees the old word. -/
theorem ldlLeP_eq_of_unchanged {m m' : Mem} {lo hi p : ℕ} (h : Mem.Unchanged m m' lo hi)
    (hp : p + 4 ≤ lo ∨ hi ≤ p) : ldlLeP m' p = ldlLeP m p :=
  (ldlLeP_eq_of_agree (h.agreeOn hp)).symm

theorem lduwLeP_eq_of_agree {m m' : Mem} {p : ℕ} (h : Mem.AgreeOn m m' p (p + 2)) :
    lduwLeP m p = lduwLeP m' p := by
  rw [lduwLeP, lduwLeP, h.read_eq]

/-- A word inside a copied range loads as the original word. -/
theorem ldlLeP_write_read (m m' : Mem) {a b n k : ℕ} (hk : k + 4 ≤ n) :
    ldlLeP (m.write a (m'.read b n)) (a + k) = ldlLeP m' (b + k) := by
  rw [ldlLeP, ldlLeP, Mem.read_write_read m m' hk]

theorem lduwLeP_write_read (m m' : Mem) {a b n k : ℕ} (hk : k + 2 ≤ n) :
    lduwLeP (m.write a (m'.read b n)) (a + k) = lduwLeP m' (b + k) := by
  rw [lduwLeP, lduwLeP, Mem.read_write_read m m' hk]

/-! ## Arrays of 32-bit words -/

/-- The bytes of an array of 32-bit words on a little-endian host. -/
def wordsToBytes (ws : List UInt32) : List UInt8 := ws.flatMap fun w => leBytes w.toNat 4

@[simp] theorem wordsToBytes_length (ws : List UInt32) : (wordsToBytes ws).length = 4 * ws.length := by
  induction ws with
  | nil => rfl
  | cons w ws ih =>
    simp only [wordsToBytes, List.flatMap_cons, List.length_append, leBytes_length] at ih ⊢
    rw [ih, List.length_cons]
    ring

/-- Store an array of words at `p`, one `stl_le_p` after another. -/
def storeWords (m : Mem) (p : ℕ) (ws : List UInt32) : Mem := m.write p (wordsToBytes ws)

/-- Load `n` words from `p`. -/
def loadWords (m : Mem) (p n : ℕ) : List UInt32 := List.ofFn fun i : Fin n => ldlLeP m (p + 4 * i)

@[simp] theorem storeWords_nil (m : Mem) (p : ℕ) : storeWords m p [] = m := rfl

/-- Storing a word array is storing its first word, then the rest. -/
theorem storeWords_cons (m : Mem) (p : ℕ) (w : UInt32) (ws : List UInt32) :
    storeWords m p (w :: ws) = storeWords (stlLeP m p w) (p + 4) ws := by
  simp only [storeWords, stlLeP, wordsToBytes, List.flatMap_cons]
  rw [Mem.write_append, leBytes_length]

/-- A load is not disturbed by a write that does not overlap it. -/
theorem ldlLeP_write_of_disjoint (m : Mem) {a p : ℕ} (bs : List UInt8)
    (h : p + 4 ≤ a ∨ a + bs.length ≤ p) : ldlLeP (m.write a bs) p = ldlLeP m p :=
  (ldlLeP_eq_of_agree ((m.unchanged_write a bs).agreeOn h)).symm

theorem unchanged_storeWords (m : Mem) (p : ℕ) (ws : List UInt32) :
    Mem.Unchanged m (storeWords m p ws) p (p + 4 * ws.length) := by
  simpa [storeWords] using m.unchanged_write p (wordsToBytes ws)

/-- Word `j` of a stored array loads back. -/
theorem ldlLeP_storeWords (ws : List UInt32) :
    ∀ (m : Mem) (p j : ℕ) (hj : j < ws.length), ldlLeP (storeWords m p ws) (p + 4 * j) = ws[j] := by
  induction ws with
  | nil => intro m p j hj; simp at hj
  | cons w ws ih =>
    intro m p j hj
    rw [storeWords_cons]
    cases j with
    | zero =>
      -- the rest of the array is stored after the first word
      have hrest : Mem.AgreeOn (stlLeP m p w) (storeWords (stlLeP m p w) (p + 4) ws) p (p + 4) :=
        (unchanged_storeWords (stlLeP m p w) (p + 4) ws).agreeOn (Or.inl (le_refl _))
      show ldlLeP _ (p + 4 * 0) = w
      simp only [Nat.mul_zero, Nat.add_zero]
      rw [← ldlLeP_eq_of_agree hrest, ldlLeP_stlLeP]
    | succ j =>
      rw [show p + 4 * (j + 1) = p + 4 + 4 * j by ring]
      exact ih _ _ j (by simpa using hj)

/-- A load is not disturbed by a word stored elsewhere. -/
theorem ldlLeP_stlLeP_of_disjoint {m : Mem} {a p : ℕ} {v : UInt32} (h : p + 4 ≤ a ∨ a + 4 ≤ p) :
    ldlLeP (stlLeP m a v) p = ldlLeP m p :=
  ldlLeP_eq_of_unchanged (unchanged_stlLeP m a v) h

/-- A load is not disturbed by a word array stored elsewhere. -/
theorem ldlLeP_storeWords_of_disjoint {m : Mem} {a p : ℕ} {ws : List UInt32}
    (h : p + 4 ≤ a ∨ a + 4 * ws.length ≤ p) : ldlLeP (storeWords m a ws) p = ldlLeP m p :=
  ldlLeP_eq_of_unchanged (unchanged_storeWords m a ws) h

/-- Words loaded outside the range a memory change is confined to are the old words. -/
theorem loadWords_eq_of_unchanged {m m' : Mem} {lo hi p n : ℕ} (h : Mem.Unchanged m m' lo hi)
    (hp : p + 4 * n ≤ lo ∨ hi ≤ p) : loadWords m' p n = loadWords m p n := by
  simp only [loadWords]
  congr 1
  funext j
  exact ldlLeP_eq_of_unchanged h (by have := j.isLt; omega)

/-- A stored word array loads back. -/
theorem loadWords_storeWords (m : Mem) (p : ℕ) (ws : List UInt32) :
    loadWords (storeWords m p ws) p ws.length = ws := by
  apply List.ext_getElem (by simp [loadWords])
  intro j h₁ h₂
  simp [loadWords, ldlLeP_storeWords]

theorem loadWords_stlLeP_of_disjoint {m : Mem} {a p n : ℕ} {v : UInt32}
    (h : p + 4 * n ≤ a ∨ a + 4 ≤ p) : loadWords (stlLeP m a v) p n = loadWords m p n :=
  loadWords_eq_of_unchanged (unchanged_stlLeP m a v) h

theorem loadWords_storeWords_of_disjoint {m : Mem} {a p n : ℕ} {ws : List UInt32}
    (h : p + 4 * n ≤ a ∨ a + 4 * ws.length ≤ p) : loadWords (storeWords m a ws) p n = loadWords m p n :=
  loadWords_eq_of_unchanged (unchanged_storeWords m a ws) h

/-! ## C strings -/

/-- The C string stored in a buffer: its bytes up to the first `NUL`.
Source: C library string convention
Kind: D -/
def cString (bs : List UInt8) : List UInt8 := bs.takeWhile (· != 0)

/-- `strnlen`-bounded string at `p`: the bytes before the first `NUL` among the first `n`.
Source: C library `strnlen` (used with `memcpy` in `dtb_deserialise_prop`)
Kind: D -/
def strnlenBytes (m : Mem) (p n : ℕ) : List UInt8 := cString (m.read p n)

/-- `strncpy(dst, src, n)`: the `n` bytes it stores — `src` up to its end, then `NUL` padding,
cut at `n`.
Source: C library `strncpy`
Kind: D -/
def strncpyBytes (src : List UInt8) (n : ℕ) : List UInt8 := (src ++ List.replicate n 0).take n

@[simp] theorem strncpyBytes_length (src : List UInt8) (n : ℕ) : (strncpyBytes src n).length = n := by
  simp [strncpyBytes]

/-- A short string is copied whole, then padded with zeros. -/
theorem strncpyBytes_of_le {src : List UInt8} {n : ℕ} (hn : src.length ≤ n) :
    strncpyBytes src n = src ++ List.replicate (n - src.length) 0 := by
  rw [strncpyBytes, List.take_append, List.take_of_length_le hn, List.take_replicate]
  congr 2
  omega

/-- A string without `NUL` bytes that is shorter than the bound survives `strncpy` followed
by `strnlen`. -/
theorem cString_strncpyBytes {src : List UInt8} {n : ℕ} (hz : 0 ∉ src) (hn : src.length < n) :
    cString (strncpyBytes src n) = src := by
  have hsplit := strncpyBytes_of_le (show src.length ≤ n by omega)
  have hpad : List.replicate (n - src.length) (0 : UInt8) =
      0 :: List.replicate (n - src.length - 1) 0 := by
    rw [← List.replicate_succ]
    congr 1
    omega
  have hall : ∀ b ∈ src, (b != 0) = true := by
    intro b hb
    have : b ≠ 0 := fun h => hz (h ▸ hb)
    simpa using this
  rw [cString, hsplit, hpad, List.takeWhile_append_of_pos hall]
  simp

/-- The bytes of an ASCII string literal. -/
def asciiBytes (s : String) : List UInt8 := s.toList.map fun c => c.toNat.toUInt8

theorem asciiBytes_append (s t : String) : asciiBytes (s ++ t) = asciiBytes s ++ asciiBytes t := by
  rw [asciiBytes, asciiBytes, asciiBytes, String.toList_append, List.map_append]

/-! ## `printf("%d")` -/

/-- The characters `%d` prints for an `int`: its decimal digits, with a `-` before a negative
value.
Source: C library `printf` (`%d`)
Kind: D -/
def printfDecimal (v : Int32) : List UInt8 := asciiBytes (toString v.toInt)

theorem toNat_of_isDigit {c : Char} (hc : c.isDigit) : 48 ≤ c.toNat ∧ c.toNat ≤ 57 := by
  simp only [Char.isDigit, Bool.and_eq_true, decide_eq_true_eq] at hc
  obtain ⟨h0, h9⟩ := hc
  exact ⟨Char.le_def.mp h0, Char.le_def.mp h9⟩

/-- A digit character is one byte. -/
theorem toNat_toUInt8_of_isDigit {c : Char} (hc : c.isDigit) : c.toNat.toUInt8.toNat = c.toNat := by
  have hrange := toNat_of_isDigit hc
  rw [Nat.toUInt8_eq, UInt8.toNat_ofNat', Nat.mod_eq_of_lt (by omega)]

theorem toUInt8_ne_zero_of_isDigit {c : Char} (hc : c.isDigit) : c.toNat.toUInt8 ≠ 0 := by
  have hrange := toNat_of_isDigit hc
  intro h
  have h' := congrArg UInt8.toNat h
  rw [toNat_toUInt8_of_isDigit hc, UInt8.toNat_zero] at h'
  omega

/-- A `uint32_t` below `2^31` passed to `%d` prints as its decimal digits. -/
theorem printfDecimal_toInt32 {n : UInt32} (hn : n.toNat < 2 ^ 31) :
    printfDecimal n.toInt32 = (Nat.toDigits 10 n.toNat).map fun c => c.toNat.toUInt8 := by
  have hint : n.toInt32.toInt = n.toNat := by
    rw [Int32.toInt, UInt32.toBitVec_toInt32,
      BitVec.toInt_eq_toNat_of_lt (by simp only [UInt32.toNat_toBitVec] at *; omega)]
    rfl
  have hs : toString n.toInt32.toInt = toString n.toNat := by
    rw [hint]
    rfl
  rw [printfDecimal, hs, Nat.toString_eq_repr, asciiBytes, Nat.toList_repr]

/-- Decimal digits printed as bytes read back as the number: the printed forms of two numbers
differ. The bytes are mapped back to characters, then `Nat.ofDigitChars` parses them. -/
theorem decimal_bytes_injective {m n : ℕ}
    (h : (Nat.toDigits 10 m).map (fun c => c.toNat.toUInt8) =
      (Nat.toDigits 10 n).map fun c => c.toNat.toUInt8) :
    m = n := by
  have hback : ∀ k, ((Nat.toDigits 10 k).map fun c => c.toNat.toUInt8).map
      (fun b => Char.ofNat b.toNat) = Nat.toDigits 10 k := by
    intro k
    rw [List.map_map]
    refine List.map_congr_left (fun c hc => ?_) |>.trans (List.map_id _)
    have hdigit := Nat.isDigit_of_mem_toDigits (by norm_num) le_rfl hc
    simp only [Function.comp_apply, toNat_toUInt8_of_isDigit hdigit, Char.ofNat_toNat, id]
  have hdigits : Nat.toDigits 10 m = Nat.toDigits 10 n := by
    rw [← hback m, h, hback n]
  have hval := congrArg (fun ds => Nat.ofDigitChars 10 ds 0) hdigits
  simpa only [Nat.ofDigitChars_ten_toDigits] using hval

/-- Below `2^31`, distinct `uint32_t` values print differently under `%d`. -/
theorem printfDecimal_toInt32_injective {m n : UInt32} (hm : m.toNat < 2 ^ 31)
    (hn : n.toNat < 2 ^ 31) (h : printfDecimal m.toInt32 = printfDecimal n.toInt32) : m = n := by
  rw [printfDecimal_toInt32 hm, printfDecimal_toInt32 hn] at h
  exact UInt32.toNat_inj.mp (decimal_bytes_injective h)

/-- Below `2^31`, `%d` prints at most ten characters, none of them `NUL`. -/
theorem printfDecimal_toInt32_cstr {n : UInt32} (hn : n.toNat < 2 ^ 31) :
    (printfDecimal n.toInt32).length ≤ 10 ∧ 0 ∉ printfDecimal n.toInt32 := by
  rw [printfDecimal_toInt32 hn, List.length_map, List.mem_map]
  refine ⟨(Nat.length_toDigits_le_iff (by norm_num) (by norm_num)).mpr (by omega), ?_⟩
  rintro ⟨c, hc, h⟩
  exact toUInt8_ne_zero_of_isDigit (Nat.isDigit_of_mem_toDigits (by norm_num) le_rfl hc) h

/-- `qemu_strsep` called until it returns `NULL`: the tokens between delimiters, empty ones
included, the last one running to the end of the string.
Source: `util/cutils.c` `qemu_strsep`
Kind: D -/
def qemuStrsep (s : List UInt8) (delim : UInt8) : List (List UInt8) := s.splitOn delim

/-! ## `g_ascii_strtoull` -/

/-- `g_ascii_isspace`: space, `\t`, `\n`, `\v`, `\f`, `\r`.
Source: GLib `g_ascii_isspace`
Kind: D -/
def asciiIsSpace (c : UInt8) : Bool := c == 32 || (9 ≤ c && c ≤ 13)

/-- The digit value GLib's parser gives a character: `0`–`9`, then letters of either case
from `10`.
Source: GLib `g_parse_long_long` (digit decoding)
Kind: D -/
def asciiDigit (c : UInt8) : Option ℕ :=
  if 48 ≤ c ∧ c ≤ 57 then some (c.toNat - 48)
  else if 65 ≤ c ∧ c ≤ 90 then some (c.toNat - 55)
  else if 97 ≤ c ∧ c ≤ 122 then some (c.toNat - 87)
  else none

/-- The largest `guint64`.
Source: GLib `G_MAXUINT64`
Kind: D -/
def gMaxUInt64 : ℕ := 2 ^ 64 - 1

/-- The digit loop of `g_parse_long_long`: accumulate digits below `base`, and once a digit
would overflow `G_MAXUINT64` set the overflow flag and stop accumulating.
Source: GLib `g_parse_long_long`
Kind: D -/
def parseDigits (base : ℕ) : List UInt8 → ℕ → Bool → ℕ × Bool
  | [], acc, ovf => (acc, ovf)
  | c :: cs, acc, ovf =>
    match asciiDigit c with
    | none => (acc, ovf)
    | some d =>
      if base ≤ d then (acc, ovf)
      else if gMaxUInt64 / base < acc ∨ (acc = gMaxUInt64 / base ∧ gMaxUInt64 % base < d) then
        parseDigits base cs acc true
      else parseDigits base cs (acc * base + d) ovf

/-- `g_ascii_strtoull(s, NULL, 0)`: skip blanks, read a sign, pick the base from a `0x` or
`0` prefix, parse; no digit gives `0`, overflow gives `G_MAXUINT64`, a minus sign negates
modulo `2^64`.
Source: GLib `g_ascii_strtoull` / `g_parse_long_long`
Kind: D -/
def gAsciiStrtoull (s : List UInt8) : ℕ :=
  let s := s.dropWhile asciiIsSpace
  let (neg, s) : Bool × List UInt8 := match s with
    | 45 :: t => (true, t)
    | 43 :: t => (false, t)
    | t => (false, t)
  let (base, s) : ℕ × List UInt8 := match s with
    | 48 :: x :: t => if x = 88 ∨ x = 120 then (16, t) else (8, 48 :: x :: t)
    | 48 :: [] => (8, [48])
    | t => (10, t)
  if (s.head? >>= asciiDigit).any (· < base) then
    let (v, ovf) := parseDigits base s 0 false
    if ovf then gMaxUInt64 else if neg then (2 ^ 64 - v) % 2 ^ 64 else v
  else 0

end QemuAppleSilicon.Qemu
