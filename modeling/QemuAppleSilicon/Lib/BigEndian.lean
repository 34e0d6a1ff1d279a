import QemuAppleSilicon.Lib.Bytes
import Mathlib.Data.Nat.Digits.Lemmas

/-!
# Big-endian byte strings

The big-endian counterparts of `leBytes` and `leValue`, over no particular program:

* `beValue bs` — the value of bytes read most significant first, `leValue` of the reversed list;
* `beBytes n w` — the `w` big-endian bytes of `n`, a fixed-width field;
* `beBytesMin n` — the shortest big-endian bytes of `n`: none for `0`, otherwise a first byte
  that is not zero (the digits of `n` in base 256).

`beValue_beBytesMin` and `beValue_beBytes` are the round trips; `beValue_append` says how a
field that starts with a shorter encoding and goes on with other bytes reads back, which is what
becomes of a minimal encoding written into a fixed-width field.
-/

namespace QemuAppleSilicon.Lib

/-- The value of a byte list read most significant byte first. -/
def beValue (bs : List UInt8) : ℕ := leValue bs.reverse

/-- The `w` big-endian bytes of `n`. -/
def beBytes (n w : ℕ) : List UInt8 := (leBytes n w).reverse

/-- The shortest big-endian bytes of `n`: its base-256 digits, most significant first. -/
def beBytesMin (n : ℕ) : List UInt8 := ((Nat.digits 256 n).map UInt8.ofNat).reverse

theorem leValue_append (xs ys : List UInt8) :
    leValue (xs ++ ys) = leValue xs + 256 ^ xs.length * leValue ys := by
  induction xs with
  | nil => simp
  | cons x xs ih =>
    rw [List.cons_append, leValue_cons, leValue_cons, ih, List.length_cons, pow_succ]
    ring

/-- A field made of `l₁` then `l₂` reads as `l₁` shifted past `l₂`, plus `l₂`. -/
theorem beValue_append (l₁ l₂ : List UInt8) :
    beValue (l₁ ++ l₂) = beValue l₁ * 256 ^ l₂.length + beValue l₂ := by
  rw [beValue, List.reverse_append, leValue_append, List.length_reverse, beValue, beValue,
    Nat.mul_comm, Nat.add_comm]

theorem beValue_lt (bs : List UInt8) : beValue bs < 256 ^ bs.length := by
  rw [beValue, ← List.length_reverse]
  exact leValue_lt _

@[simp] theorem length_beBytes (n w : ℕ) : (beBytes n w).length = w := by
  simp [beBytes]

theorem beValue_beBytes (n w : ℕ) : beValue (beBytes n w) = n % 256 ^ w := by
  rw [beValue, beBytes, List.reverse_reverse, leValue_leBytes]

/-- Bytes that are base-256 digits read back, least significant first, as the number they
spell. -/
theorem leValue_map_ofNat (L : List ℕ) (hL : ∀ d ∈ L, d < 256) :
    leValue (L.map UInt8.ofNat) = Nat.ofDigits 256 L := by
  induction L with
  | nil => rfl
  | cons d L ih =>
    have hd : (UInt8.ofNat d).toNat = d := UInt8.toNat_ofNat_of_lt' (hL d List.mem_cons_self)
    rw [List.map_cons, leValue_cons, hd, ih fun e he => hL e (List.mem_cons_of_mem d he),
      Nat.ofDigits_cons]

theorem beValue_beBytesMin (n : ℕ) : beValue (beBytesMin n) = n := by
  rw [beValue, beBytesMin, List.reverse_reverse,
    leValue_map_ofNat _ fun d hd => Nat.digits_lt_base (by decide) hd, Nat.ofDigits_digits]

/-- The shortest encoding fits in `k` bytes exactly when `n < 256^k`. -/
theorem length_beBytesMin_le_iff (n k : ℕ) : (beBytesMin n).length ≤ k ↔ n < 256 ^ k := by
  rw [beBytesMin, List.length_reverse, List.length_map]
  exact Nat.digits_length_le_iff (by decide) n

end QemuAppleSilicon.Lib
