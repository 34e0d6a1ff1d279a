import Mathlib.Data.List.OfFn
import Mathlib.Data.Nat.ModEq

/-!
# Ring buffers read from the head

A circular buffer of capacity `c` stores its `n` elements in the cells `h, h + 1, …` taken
modulo `c`, from the head `h`. `ringView buf c h n` is that sequence read out as a list; it is the
abstraction a queue implemented as a ring buffer is proved against.

* `ringView_cons`, `ringView_succ`, `ringView_add` — peeling the first cell, the last cell, or a
  prefix of any length.
* `take_ringView`, `drop_ringView`, `ringView_mod` — the view is closed under `take`, `drop` and
  reducing the head modulo `c`.
* `ringView_of_le` — a view that does not wrap is a contiguous read.
* `ringView_update_snoc` — writing the cell just past the view extends it by one, as long as the
  view has room (`n < c`); it rests on `mod_add_inj`, that distinct offsets below `c` land on
  distinct cells.
-/

namespace QemuAppleSilicon.Lib

variable {α : Type*}

/-- The `n` cells of `buf` from `h` on, modulo `c`. -/
def ringView (buf : ℕ → α) (c h n : ℕ) : List α := List.ofFn fun i : Fin n => buf ((h + i) % c)

variable {buf : ℕ → α} {c h n : ℕ}

@[simp] theorem ringView_length : (ringView buf c h n).length = n := by
  simp [ringView]

@[simp] theorem ringView_zero : ringView buf c h 0 = [] := rfl

/-- The last cell of a view. -/
theorem ringView_succ : ringView buf c h (n + 1) = ringView buf c h n ++ [buf ((h + n) % c)] := by
  rw [ringView, List.ofFn_succ_last]
  rfl

/-- The first cell of a view. -/
theorem ringView_cons : ringView buf c h (n + 1) = buf (h % c) :: ringView buf c (h + 1) n := by
  simp only [ringView, List.ofFn_succ, Fin.val_zero, Nat.add_zero, Fin.val_succ]
  congr 2
  funext i
  rw [Nat.add_comm (i : ℕ) 1, Nat.add_assoc]

theorem ringView_mod : ringView buf c (h % c) n = ringView buf c h n := by
  simp [ringView, Nat.mod_add_mod]

/-- A view of `a + b` cells is the view of the first `a` followed by the view of the next `b`. -/
theorem ringView_add (a b : ℕ) :
    ringView buf c h (a + b) = ringView buf c h a ++ ringView buf c (h + a) b := by
  simp only [ringView, List.ofFn_add, Fin.val_castLE, Fin.val_natAdd, Nat.add_assoc]

theorem take_ringView (k : ℕ) : (ringView buf c h n).take k = ringView buf c h (min k n) := by
  apply List.ext_getElem (by simp)
  intro i h₁ h₂
  simp [ringView]

theorem drop_ringView (k : ℕ) : (ringView buf c h n).drop k = ringView buf c (h + k) (n - k) := by
  apply List.ext_getElem (by simp)
  intro i h₁ h₂
  simp [ringView, Nat.add_assoc]

/-- A view only reads its own cells. -/
theorem ringView_congr {buf' : ℕ → α} (hagree : ∀ i < n, buf' ((h + i) % c) = buf ((h + i) % c)) :
    ringView buf' c h n = ringView buf c h n := by
  simp only [ringView]
  congr 1
  funext i
  exact hagree i i.isLt

/-- Offsets below `c` from one head land on distinct cells. -/
theorem mod_add_inj {i j : ℕ} (hi : i < c) (hj : j < c) (h' : (h + i) % c = (h + j) % c) : i = j := by
  have hm : i ≡ j [MOD c] := Nat.ModEq.add_left_cancel' h h'
  rwa [Nat.ModEq, Nat.mod_eq_of_lt hi, Nat.mod_eq_of_lt hj] at hm

/-- Writing the cell past a view with room appends to it. -/
theorem ringView_update_snoc (hn : n < c) (x : α) :
    ringView (Function.update buf ((h + n) % c) x) c h (n + 1) = ringView buf c h n ++ [x] := by
  rw [ringView_succ, Function.update_self]
  congr 1
  apply ringView_congr
  intro i hi
  rw [Function.update_of_ne]
  intro heq
  have := mod_add_inj (by omega) hn heq
  omega

/-- A view that stops before the end of the buffer is a contiguous read. -/
theorem ringView_of_le (hle : h + n ≤ c) : ringView buf c h n = List.ofFn fun i : Fin n => buf (h + i) := by
  simp only [ringView]
  congr 1
  funext i
  rw [Nat.mod_eq_of_lt (by omega)]

end QemuAppleSilicon.Lib
