import Mathlib

/-!
# `for` loops whose counter is narrower than their bound

In C, `for (i = c; i < bound; i++)` with a `w`-bit unsigned counter compares the counter, promoted
to `int`, with the bound, and `i++` wraps the counter to zero after `2^w - 1`. When the bound is
below `2^w` the loop runs `bound - c` times; when it is `2^w` or more, the counter never reaches
it and the loop never ends, visiting `2^w - 1` and wrapping to `0` on the way.

`narrowLoop w bound body fuel c s` runs such a loop from counter `c` and state `s` for at most
`fuel` iterations, `none` while it still runs. `narrowLoop_eq_some` is its result when the bound
fits, with enough fuel; `narrowLoop_eq_none` says that no fuel is enough when it does not;
`narrowLoop_wrap` is the pass through the top counter value back to zero.
-/

namespace QemuAppleSilicon.Lib

variable {σ : Type*}

/-- `for (i = c; i < bound; i++) s = body i s` over a `w`-bit counter, for at most `fuel`
iterations: the final counter and state, or `none` while the loop still runs. -/
def narrowLoop (w bound : ℕ) (body : ℕ → σ → σ) : ℕ → ℕ → σ → Option (ℕ × σ)
  | 0, c, s => if c < bound then none else some (c, s)
  | fuel + 1, c, s =>
    if c < bound then narrowLoop w bound body fuel ((c + 1) % 2 ^ w) (body c s) else some (c, s)

/-- The states of `body` applied at the counters `c, c + 1, …, c + n - 1`. -/
def narrowIterate (body : ℕ → σ → σ) (c n : ℕ) (s : σ) : σ :=
  (List.range n).foldl (fun s i => body (c + i) s) s

@[simp] theorem narrowIterate_zero (body : ℕ → σ → σ) (c : ℕ) (s : σ) :
    narrowIterate body c 0 s = s := rfl

/-- Iterating `n + 1` times from `c` is one step at `c`, then `n` from `c + 1`. -/
theorem narrowIterate_succ (body : ℕ → σ → σ) (c n : ℕ) (s : σ) :
    narrowIterate body c (n + 1) s = narrowIterate body (c + 1) n (body c s) := by
  unfold narrowIterate
  rw [List.range_succ_eq_map, List.foldl_cons, List.foldl_map, Nat.add_zero]
  congr 1
  funext s i
  congr 1
  omega

/-- `body` with a trace: each iteration also appends `tr c` for its counter `c`, so that a proof
can speak of what every iteration touched (the registers and buffer slots of a transfer). -/
def traced {τ : Type*} (body : ℕ → σ → σ) (tr : ℕ → τ) (c : ℕ) (x : σ × List τ) :
    σ × List τ :=
  (body c x.1, x.2 ++ [tr c])

/-- Iterating a traced body iterates the body and appends the trace of every counter visited. -/
theorem narrowIterate_traced {τ : Type*} (body : ℕ → σ → σ) (tr : ℕ → τ) (c n : ℕ) (s : σ)
    (t : List τ) :
    narrowIterate (traced body tr) c n (s, t) =
      (narrowIterate body c n s, t ++ (List.range n).map fun i => tr (c + i)) := by
  induction n generalizing c s t with
  | zero => simp
  | succ n ih =>
    rw [narrowIterate_succ, narrowIterate_succ, traced, ih, List.range_succ_eq_map]
    simp [Nat.add_right_comm, Nat.add_assoc]

section

variable {w bound : ℕ} {body : ℕ → σ → σ}

/-- A loop whose bound is below `2^w` runs from `c ≤ bound` to the bound, given as many
iterations as that takes. The induction is on the fuel, the counter going up by one. -/
theorem narrowLoop_eq_some (hb : bound < 2 ^ w) (fuel : ℕ) :
    ∀ c s, c ≤ bound → bound - c ≤ fuel →
      narrowLoop w bound body fuel c s = some (bound, narrowIterate body c (bound - c) s) := by
  induction fuel with
  | zero =>
    intro c s hc hfuel
    have hcb : c = bound := by omega
    subst hcb
    rw [narrowLoop, if_neg (Nat.lt_irrefl c), Nat.sub_self, narrowIterate_zero]
  | succ fuel ih =>
    intro c s hc hfuel
    by_cases hlt : c < bound
    · have hnext : (c + 1) % 2 ^ w = c + 1 := Nat.mod_eq_of_lt (by omega)
      have hsteps : bound - c = (bound - (c + 1)) + 1 := by omega
      rw [narrowLoop, if_pos hlt, hnext, ih (c + 1) (body c s) (by omega) (by omega), hsteps,
        narrowIterate_succ]
    · have hcb : c = bound := by omega
      subst hcb
      rw [narrowLoop, if_neg hlt, Nat.sub_self, narrowIterate_zero]

/-- A loop whose bound is `2^w` or more never ends: the counter, always below `2^w`, stays below
the bound, so every amount of fuel runs out. -/
theorem narrowLoop_eq_none (hb : 2 ^ w ≤ bound) (fuel : ℕ) :
    ∀ c s, c < 2 ^ w → narrowLoop w bound body fuel c s = none := by
  induction fuel with
  | zero =>
    intro c s hc
    rw [narrowLoop, if_pos (by omega)]
  | succ fuel ih =>
    intro c s hc
    rw [narrowLoop, if_pos (by omega)]
    exact ih _ _ (Nat.mod_lt _ (Nat.two_pow_pos w))

/-- A loop whose bound is `2^w` or more runs its body at every counter from `c` up to `2^w - 1`
and then wraps to `0`. -/
theorem narrowLoop_wrap (hb : 2 ^ w ≤ bound) (fuel : ℕ) :
    ∀ c s, c < 2 ^ w →
      narrowLoop w bound body (fuel + (2 ^ w - c)) c s =
        narrowLoop w bound body fuel 0 (narrowIterate body c (2 ^ w - c) s) := by
  intro c s hc
  obtain ⟨k, hk⟩ : ∃ k, 2 ^ w - c = k + 1 := ⟨2 ^ w - c - 1, by omega⟩
  rw [hk]
  induction k generalizing c s with
  | zero =>
    have hlast : (c + 1) % 2 ^ w = 0 := by
      rw [show c + 1 = 2 ^ w by omega, Nat.mod_self]
    rw [narrowLoop, if_pos (by omega), hlast, narrowIterate_succ, narrowIterate_zero]
  | succ k ih =>
    have hnext : (c + 1) % 2 ^ w = c + 1 := Nat.mod_eq_of_lt (by omega)
    rw [show fuel + (k + 1 + 1) = (fuel + (k + 1)) + 1 by omega, narrowLoop, if_pos (by omega),
      hnext, ih (c + 1) (body c s) (by omega) (by omega), narrowIterate_succ body c (k + 1)]

end

end QemuAppleSilicon.Lib
