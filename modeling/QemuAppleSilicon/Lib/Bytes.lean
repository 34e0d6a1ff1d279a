import Mathlib.Data.List.OfFn
import Mathlib.Logic.Function.Basic
import Mathlib.Tactic.Ring
import Mathlib.Data.Nat.Bitwise

/-!
# Bytes: little-endian words and a byte-addressed memory

A library for reasoning about code that stores fixed-width integers into byte buffers and
reads them back, over no particular program.

* `leBytes n w` / `leValue bs` — the `w` little-endian bytes of `n`, and the value of a byte
  list; `leValue_leBytes` is the round trip (`n mod 256^w`) and `leBytes_leValue` the
  converse on lists.
* `and_two_pow_sub_two_pow` — masking off the low `k` bits of a value below `2^n` with
  `2^n - 2^k` rounds it down to a multiple of `2^k`.
* `Mem` — a total byte memory `ℕ → UInt8`; `Mem.write m a bs` stores a list of bytes,
  `Mem.read m a n` loads `n` bytes. The two frame lemmas (`Mem.write_apply_of_lt`,
  `Mem.write_apply_of_le`) and `Mem.read_write_self` are the rules every encoder/decoder proof
  of the development is built from.
* `Mem.Unchanged m m' lo hi` — `m'` differs from `m` only inside `[lo, hi)`, the form in which
  "a routine writes only its own region" is stated; it composes (`Unchanged.trans`) and widens
  (`Unchanged.mono`).
* `Mem.AgreeOn m m' lo hi` — the two memories hold the same bytes on `[lo, hi)`, the
  hypothesis under which a reader gives the same answer on both.
* `repeatDecode d n c` — a decoder that reads one item at a cursor, run `n` times (a counted
  loop of a deserialiser); `repeatDecode_succ_of_eq` is the rule its proofs go by.
-/

namespace QemuAppleSilicon.Lib

/-! ## Little-endian words -/

/-- The `w` little-endian bytes of `n`: byte `i` is `⌊n / 256^i⌋ mod 256`. -/
def leBytes (n : ℕ) : ℕ → List UInt8
  | 0 => []
  | w + 1 => UInt8.ofNat n :: leBytes (n / 256) w

/-- The value of a little-endian byte list. -/
def leValue : List UInt8 → ℕ
  | [] => 0
  | b :: bs => b.toNat + 256 * leValue bs

@[simp] theorem leBytes_length (n w : ℕ) : (leBytes n w).length = w := by
  induction w generalizing n with
  | zero => rfl
  | succ w ih => simp [leBytes, ih]

@[simp] theorem leValue_nil : leValue [] = 0 := rfl

@[simp] theorem leValue_cons (b : UInt8) (bs : List UInt8) :
    leValue (b :: bs) = b.toNat + 256 * leValue bs := rfl

/-- A list of `k` bytes has value below `256^k`. -/
theorem leValue_lt (bs : List UInt8) : leValue bs < 256 ^ bs.length := by
  induction bs with
  | nil => simp
  | cons b bs ih =>
    have hb : b.toNat < 256 := b.toNat_lt
    rw [leValue_cons, List.length_cons, pow_succ]
    omega

/-- Reading back the bytes of `n` gives `n` modulo `256^w`. -/
theorem leValue_leBytes (n w : ℕ) : leValue (leBytes n w) = n % 256 ^ w := by
  induction w generalizing n with
  | zero => simp [leBytes, Nat.mod_one]
  | succ w ih =>
    have byte : (UInt8.ofNat n).toNat = n % 256 := by simp
    rw [leBytes, leValue_cons, ih, byte, pow_succ, Nat.mul_comm (256 ^ w) 256, Nat.mod_mul]

/-- A value below `256^w` reads back exactly. -/
theorem leValue_leBytes_of_lt {n w : ℕ} (h : n < 256 ^ w) : leValue (leBytes n w) = n := by
  rw [leValue_leBytes, Nat.mod_eq_of_lt h]

/-- The bytes of a list's value are the list. -/
theorem leBytes_leValue (bs : List UInt8) : leBytes (leValue bs) bs.length = bs := by
  induction bs with
  | nil => rfl
  | cons b bs ih =>
    have hb : b.toNat < 256 := b.toNat_lt
    have hdiv : (b.toNat + 256 * leValue bs) / 256 = leValue bs := by omega
    simp only [leValue_cons, List.length_cons, leBytes, hdiv, ih]
    congr 1
    apply UInt8.toNat_inj.mp
    simp

/-- Bit `k` of a little-endian value is bit `k % 8` of byte `k / 8`, and clear past the end. -/
theorem testBit_leValue (bs : List UInt8) (k : ℕ) :
    (leValue bs).testBit k = (bs.getD (k / 8) 0).toNat.testBit (k % 8) := by
  induction bs generalizing k with
  | nil => simp
  | cons b bs ih =>
    have hb : b.toNat < 2 ^ 8 := b.toNat_lt
    rw [leValue_cons, show b.toNat + 256 * leValue bs = 2 ^ 8 * leValue bs + b.toNat by ring,
      Nat.testBit_two_pow_mul_add _ hb]
    by_cases hk : k < 8
    · simp [hk, Nat.div_eq_of_lt hk, Nat.mod_eq_of_lt hk]
    · -- past the first byte: bit `k - 8` of the rest
      rw [if_neg hk, ih]
      obtain ⟨j, rfl⟩ : ∃ j, k = j + 8 := ⟨k - 8, by omega⟩
      simp [Nat.add_div_right, Nat.add_mod_right]

/-! ## Masks -/

/-- Clearing the low `k` bits with the mask `2^n - 2^k` rounds down to a multiple of `2^k`. -/
theorem and_two_pow_sub_two_pow {x n k : ℕ} (hx : x < 2 ^ n) (hk : k ≤ n) :
    x &&& (2 ^ n - 2 ^ k) = x / 2 ^ k * 2 ^ k := by
  have hmask : 2 ^ n - 2 ^ k = 2 ^ n - ((2 ^ k - 1) + 1) := by
    have : 0 < 2 ^ k := Nat.two_pow_pos k
    omega
  have hlt : 2 ^ k - 1 < 2 ^ n := by
    have := Nat.pow_le_pow_right (n := 2) (by omega) hk
    omega
  have hshift : x / 2 ^ k * 2 ^ k = (x >>> k) <<< k := by
    rw [Nat.shiftLeft_eq, Nat.shiftRight_eq_div_pow]
  apply Nat.eq_of_testBit_eq
  intro i
  rw [Nat.testBit_and, hmask, Nat.testBit_two_pow_sub_succ hlt, Nat.testBit_two_pow_sub_one,
    hshift, Nat.testBit_shiftLeft, Nat.testBit_shiftRight]
  -- bit `i` survives on both sides exactly when `k ≤ i < n`; above `n` the value has no bits
  by_cases hin : i < n
  · by_cases hik : i < k
    · simp [hin, hik]
    · have : k + (i - k) = i := by omega
      simp [hin, hik, this]
      omega
  · have hzero : x.testBit i = false := by
      apply Nat.testBit_eq_false_of_lt
      exact lt_of_lt_of_le hx (Nat.pow_le_pow_right (by omega) (by omega))
    have : k + (i - k) = i := by omega
    simp [hin, hzero, this]

/-! ## A byte-addressed memory -/

/-- A total byte memory. -/
abbrev Mem := ℕ → UInt8

/-- Store `bs` at `a, a + 1, …`. -/
def Mem.write (m : Mem) (a : ℕ) : List UInt8 → Mem
  | [] => m
  | b :: bs => Mem.write (Function.update m a b) (a + 1) bs

/-- Load `n` bytes from `a`. -/
def Mem.read (m : Mem) (a n : ℕ) : List UInt8 := List.ofFn fun i : Fin n => m (a + i)

namespace Mem

variable (m : Mem)

@[simp] theorem write_nil (a : ℕ) : m.write a [] = m := rfl

@[simp] theorem read_length (a n : ℕ) : (m.read a n).length = n := by simp [read]

/-- A write leaves every address below its start alone. -/
theorem write_apply_of_lt {a x : ℕ} (bs : List UInt8) (h : x < a) : m.write a bs x = m x := by
  induction bs generalizing m a with
  | nil => rfl
  | cons b bs ih =>
    rw [write, ih _ (by omega), Function.update_of_ne (by omega)]

/-- A write leaves every address past its end alone. -/
theorem write_apply_of_le {a x : ℕ} (bs : List UInt8) (h : a + bs.length ≤ x) :
    m.write a bs x = m x := by
  induction bs generalizing m a with
  | nil => rfl
  | cons b bs ih =>
    simp only [List.length_cons] at h
    rw [write, ih _ (by omega), Function.update_of_ne (by omega)]

/-- Inside its range a write shows the written byte. -/
theorem write_apply_of_mem {a : ℕ} (bs : List UInt8) (i : ℕ) (hi : i < bs.length) :
    m.write a bs (a + i) = bs[i] := by
  induction bs generalizing m a i with
  | nil => simp at hi
  | cons b bs ih =>
    rw [write]
    cases i with
    | zero =>
      rw [write_apply_of_lt _ _ (by omega)]
      simp
    | succ i =>
      have := ih (Function.update m a b) (a := a + 1) i (by simpa using hi)
      rw [show a + (i + 1) = a + 1 + i by omega, this]
      simp

/-- Reading back a write gives the written bytes. -/
@[simp] theorem read_write_self (a : ℕ) (bs : List UInt8) : (m.write a bs).read a bs.length = bs := by
  apply List.ext_getElem (by simp)
  intro i h₁ h₂
  simp only [read, List.getElem_ofFn]
  exact write_apply_of_mem m bs i h₂

/-- `m'` differs from `m` at most inside `[lo, hi)`. -/
def Unchanged (m m' : Mem) (lo hi : ℕ) : Prop := ∀ x, (x < lo ∨ hi ≤ x) → m' x = m x

/-- `m` and `m'` hold the same bytes on `[lo, hi)`. -/
def AgreeOn (m m' : Mem) (lo hi : ℕ) : Prop := ∀ x, lo ≤ x → x < hi → m x = m' x

theorem Unchanged.refl (lo hi : ℕ) : Unchanged m m lo hi := fun _ _ => rfl

theorem Unchanged.mono {m m' : Mem} {lo hi lo' hi' : ℕ} (h : Unchanged m m' lo hi)
    (hlo : lo' ≤ lo) (hhi : hi ≤ hi') : Unchanged m m' lo' hi' := fun x hx =>
  h x (by omega)

theorem Unchanged.trans {m₁ m₂ m₃ : Mem} {lo hi : ℕ} (h₁ : Unchanged m₁ m₂ lo hi)
    (h₂ : Unchanged m₂ m₃ lo hi) : Unchanged m₁ m₃ lo hi := fun x hx =>
  (h₂ x hx).trans (h₁ x hx)

/-- A write of `bs` at `a` changes only `[a, a + |bs|)`. -/
theorem unchanged_write (a : ℕ) (bs : List UInt8) : Unchanged m (m.write a bs) a (a + bs.length) := by
  intro x hx
  rcases hx with hx | hx
  · exact write_apply_of_lt m bs hx
  · exact write_apply_of_le m bs hx

/-- A one-byte update changes only its byte. -/
theorem unchanged_update (a : ℕ) (x : UInt8) : Unchanged m (Function.update m a x) a (a + 1) :=
  fun _ hy => Function.update_of_ne (by omega) _ _

theorem AgreeOn.symm {m m' : Mem} {lo hi : ℕ} (h : AgreeOn m m' lo hi) : AgreeOn m' m lo hi :=
  fun x h₁ h₂ => (h x h₁ h₂).symm

theorem AgreeOn.trans {m₁ m₂ m₃ : Mem} {lo hi : ℕ} (h₁ : AgreeOn m₁ m₂ lo hi)
    (h₂ : AgreeOn m₂ m₃ lo hi) : AgreeOn m₁ m₃ lo hi := fun x h h' =>
  (h₁ x h h').trans (h₂ x h h')

theorem AgreeOn.mono {m m' : Mem} {lo hi lo' hi' : ℕ} (h : AgreeOn m m' lo hi)
    (hlo : lo ≤ lo') (hhi : hi' ≤ hi) : AgreeOn m m' lo' hi' := fun x h₁ h₂ =>
  h x (by omega) (by omega)

/-- A memory left unchanged outside `[lo, hi)` agrees with the old one on any range
disjoint from it. -/
theorem Unchanged.agreeOn {m m' : Mem} {lo hi lo' hi' : ℕ} (h : Unchanged m m' lo hi)
    (hd : hi' ≤ lo ∨ hi ≤ lo') : AgreeOn m m' lo' hi' := fun x h₁ h₂ =>
  (h x (by omega)).symm

/-- Two memories that agree on `[a, a + n)` read the same `n` bytes there. -/
theorem AgreeOn.read_eq {m m' : Mem} {a n : ℕ} (h : AgreeOn m m' a (a + n)) :
    m.read a n = m'.read a n := by
  simp only [read]
  congr 1
  funext i
  exact h _ (by omega) (by omega)

/-- Reading inside a written range. -/
theorem read_write_of_agree {m' : Mem} {a : ℕ} {bs : List UInt8}
    (h : AgreeOn (m.write a bs) m' a (a + bs.length)) : m'.read a bs.length = bs := by
  rw [← h.read_eq, read_write_self]

/-- Writing two lists one after the other. -/
theorem write_append (a : ℕ) (xs ys : List UInt8) :
    m.write a (xs ++ ys) = (m.write a xs).write (a + xs.length) ys := by
  induction xs generalizing m a with
  | nil => rfl
  | cons x xs ih =>
    rw [List.cons_append, write, write, ih, List.length_cons]
    congr 1
    omega

/-- A read of the first part of a write of two lists. -/
theorem read_write_append_left (a : ℕ) (xs ys : List UInt8) :
    (m.write a (xs ++ ys)).read a xs.length = xs := by
  rw [write_append]
  exact read_write_of_agree m ((unchanged_write _ _ ys).agreeOn (Or.inl le_rfl))

/-- A range of zero bytes reads as zeroes. -/
theorem read_eq_replicate_zero {a n : ℕ} (h : ∀ x, a ≤ x → x < a + n → m x = 0) :
    m.read a n = List.replicate n 0 := by
  rw [read, ← List.ofFn_const]
  congr 1
  funext i
  exact h _ (by omega) (by omega)

/-- A read of `k + l` bytes is a read of `k` bytes, then of `l`. -/
theorem read_add (a k l : ℕ) : m.read a (k + l) = m.read a k ++ m.read (a + k) l := by
  simp only [read, List.ofFn_add]
  congr 2
  funext j
  simp [Nat.add_assoc]

/-- The first `k` bytes of a read are a shorter read. -/
theorem take_read (a n k : ℕ) : (m.read a n).take k = m.read a (min k n) := by
  rcases Nat.le_total k n with hk | hk
  · have hn : n = k + (n - k) := by omega
    rw [hn, read_add, List.take_left' (read_length m a k), Nat.min_eq_left (by omega)]
  · rw [List.take_of_length_le (by simpa using hk), Nat.min_eq_right hk]

/-- A read with its first `k` bytes dropped is the read from `k` bytes on. -/
theorem drop_read (a n k : ℕ) : (m.read a n).drop k = m.read (a + k) (n - k) := by
  rcases Nat.le_total k n with hk | hk
  · have hn : n = k + (n - k) := by omega
    rw [hn, read_add, List.drop_left' (read_length m a k), Nat.add_sub_cancel_left]
  · rw [List.drop_of_length_le (by simpa using hk), Nat.sub_eq_zero_of_le hk]
    rfl

/-- A write at the start of a shorter one hides it. -/
theorem write_write_of_length_le (a : ℕ) {xs ys : List UInt8} (h : xs.length ≤ ys.length) :
    (m.write a xs).write a ys = m.write a ys := by
  funext x
  by_cases hlo : x < a
  · rw [write_apply_of_lt _ _ hlo, write_apply_of_lt _ _ hlo, write_apply_of_lt _ _ hlo]
  by_cases hhi : a + ys.length ≤ x
  · rw [write_apply_of_le _ _ hhi, write_apply_of_le _ _ hhi,
      write_apply_of_le _ _ (le_trans (by omega) hhi)]
  · obtain ⟨i, rfl⟩ : ∃ i, x = a + i := ⟨x - a, by omega⟩
    rw [write_apply_of_mem _ _ i (by omega), write_apply_of_mem _ _ i (by omega)]

/-- A read from the start of a write sees the written bytes, then the old memory. -/
theorem read_write_prefix (a : ℕ) (bs : List UInt8) {n : ℕ} (h : bs.length ≤ n) :
    (m.write a bs).read a n = bs ++ m.read (a + bs.length) (n - bs.length) := by
  have hn : n = bs.length + (n - bs.length) := by omega
  rw [hn, read_add, read_write_self, Nat.add_sub_cancel_left]
  congr 1
  simp only [read]
  congr 1
  funext j
  exact write_apply_of_le m bs (by omega)

/-- A read over a one-byte update shows the new byte in its place. -/
theorem read_update (a n i : ℕ) (x : UInt8) :
    Mem.read (Function.update m (a + i) x) a n = (m.read a n).set i x := by
  apply List.ext_getElem (by simp)
  intro j h₁ h₂
  simp only [read, List.getElem_ofFn, List.getElem_set]
  by_cases hj : i = j
  · subst hj
    simp
  · rw [Function.update_of_ne (by omega), if_neg hj]

/-- A copy of `n` bytes of `m'` from `b`, written at `a`, shows byte `b + k` at `a + k`. -/
theorem write_read_apply (m' : Mem) {a b n k : ℕ} (hk : k < n) :
    m.write a (m'.read b n) (a + k) = m' (b + k) := by
  rw [write_apply_of_mem _ _ _ (by rw [read_length]; exact hk)]
  simp only [read, List.getElem_ofFn]

/-- Every range inside a copy reads as the same range of the original. -/
theorem read_write_read (m' : Mem) {a b n k l : ℕ} (hk : k + l ≤ n) :
    (m.write a (m'.read b n)).read (a + k) l = m'.read (b + k) l := by
  show List.ofFn (fun i : Fin l => m.write a (m'.read b n) (a + k + i)) =
    List.ofFn fun i : Fin l => m' (b + k + i)
  congr 1
  funext i
  rw [Nat.add_assoc, write_read_apply m m' (show k + i < n by omega), Nat.add_assoc]

/-- A memory that differs from `m` only on `[a, a + n)` is `m` with those `n` bytes written. -/
theorem eq_write_read_of_unchanged {m' : Mem} {a n : ℕ} (h : Unchanged m m' a (a + n)) :
    m' = m.write a (m'.read a n) := by
  funext x
  by_cases hx : a ≤ x ∧ x < a + n
  · have hk := write_read_apply m m' (a := a) (b := a) (k := x - a) (show x - a < n by omega)
    rw [show a + (x - a) = x by omega] at hk
    exact hk.symm
  · rw [h x (by omega)]
    rcases Nat.lt_or_ge x a with hlt | hge
    · exact (write_apply_of_lt m _ hlt).symm
    · exact (write_apply_of_le m _ (by rw [read_length]; omega)).symm

end Mem

/-! ## Counted sequences -/

/-- Run a cursor decoder `n` times, collecting the items in order; fail as soon as one read
fails. -/
def repeatDecode {α : Type*} (d : ℕ → Option (α × ℕ)) : ℕ → ℕ → Option (List α × ℕ)
  | 0, c => some ([], c)
  | n + 1, c => do
    let (a, c) ← d c
    let (as, c) ← repeatDecode d n c
    some (a :: as, c)

@[simp] theorem repeatDecode_zero {α : Type*} (d : ℕ → Option (α × ℕ)) (c : ℕ) :
    repeatDecode d 0 c = some ([], c) := rfl

/-- One more item: read it, then the rest from where it ends. -/
theorem repeatDecode_succ_of_eq {α : Type*} {d : ℕ → Option (α × ℕ)} {n c c₁ c₂ : ℕ} {a : α}
    {as : List α} (h₁ : d c = some (a, c₁)) (h₂ : repeatDecode d n c₁ = some (as, c₂)) :
    repeatDecode d (n + 1) c = some (a :: as, c₂) := by
  simp only [repeatDecode, h₁, h₂, Option.bind_eq_bind, Option.bind_some]

end QemuAppleSilicon.Lib
