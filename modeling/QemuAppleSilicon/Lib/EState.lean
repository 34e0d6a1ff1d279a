import Mathlib.Order.Defs.Unbundled

/-!
# Fallible steps whose state survives the failure

A C function that returns an error code early (`TXOK_GUARD(f(...))`) leaves behind what it did
before the failing call: what it wrote, what it allocated, what it handed to a callback. Such a
function is an `EStateM ε σ α`: from a state it returns a value or an error, and in both cases
the state reached, so the effects before a failure stay visible.

* `resultState r` — the state a run ended in, whether it returned or failed.
* `attempt x` — run `x` and return its error as a value: the caller's
  `if (f(...) != MEMTX_OK) { break; }`.
* `bind_of_ok`, `bind_of_error`, `attempt_of_ok`, `attempt_of_error` — how a run of a sequence
  reduces once the run of its first part is known: the rules a symbolic run rewrites with
  (`except_ok_bind`, `except_error_bind` for a step without state).
* `Keeps R x` — every run of `x` relates its start and end states by `R`. For a reflexive,
  transitive `R` (such as "the log only grows") it is closed under `pure`, `bind`, `if`,
  `throw`, `get` and `attempt`, so it is checked once per primitive and then follows for every
  program built from them.
-/

namespace QemuAppleSilicon.Lib

variable {ε σ α β : Type}

/-- The state a run ended in, whether it returned or failed. -/
def resultState : EStateM.Result ε σ α → σ
  | .ok _ s => s
  | .error _ s => s

/-- Run `x` and return its error as a value, keeping the state it reached. -/
def attempt (x : EStateM ε σ α) : EStateM ε σ (Except ε α) := fun s =>
  match x s with
  | .ok a s' => .ok (.ok a) s'
  | .error e s' => .ok (.error e) s'

/-! ## Reducing a run -/

/-- A step without state, `Except ε`, reduces the same way. -/
@[simp] theorem except_ok_bind {ε α β : Type} (a : α) (f : α → Except ε β) :
    (Except.ok a >>= f) = f a := rfl

@[simp] theorem except_error_bind {ε α β : Type} (e : ε) (f : α → Except ε β) :
    (Except.error e >>= f) = Except.error e := rfl

section run

variable {x : EStateM ε σ α} {f : α → EStateM ε σ β} {s s' : σ}

theorem bind_apply (x : EStateM ε σ α) (f : α → EStateM ε σ β) (s : σ) :
    (x >>= f) s = match x s with
      | .ok a s' => f a s'
      | .error e s' => .error e s' := rfl

theorem bind_of_ok {a : α} (h : x s = .ok a s') : (x >>= f) s = f a s' := by
  rw [bind_apply, h]

theorem bind_of_error {e : ε} (h : x s = .error e s') : (x >>= f) s = .error e s' := by
  rw [bind_apply, h]

@[simp] theorem pure_apply (a : α) (s : σ) : (pure a : EStateM ε σ α) s = .ok a s := rfl

@[simp] theorem throw_apply (e : ε) (s : σ) : (throw e : EStateM ε σ α) s = .error e s := rfl

@[simp] theorem get_apply (s : σ) : (get : EStateM ε σ σ) s = .ok s s := rfl

@[simp] theorem modify_apply (g : σ → σ) (s : σ) :
    (modify g : EStateM ε σ PUnit) s = .ok ⟨⟩ (g s) := rfl

theorem attempt_of_ok {a : α} (h : x s = .ok a s') : attempt x s = .ok (.ok a) s' := by
  simp only [attempt, h]

theorem attempt_of_error {e : ε} (h : x s = .error e s') : attempt x s = .ok (.error e) s' := by
  simp only [attempt, h]

/-- `attempt` never fails. -/
theorem attempt_ok (x : EStateM ε σ α) (s : σ) :
    ∃ r, attempt x s = .ok r (resultState (x s)) := by
  unfold attempt
  cases x s with
  | ok a s' => exact ⟨.ok a, rfl⟩
  | error e s' => exact ⟨.error e, rfl⟩

@[simp] theorem resultState_ok (a : α) (s : σ) : resultState (.ok a s : EStateM.Result ε σ α) = s :=
  rfl

@[simp] theorem resultState_error (e : ε) (s : σ) :
    resultState (.error e s : EStateM.Result ε σ α) = s := rfl

end run

/-! ## Relations every run keeps -/

/-- Every run of `x` relates the state it starts in to the state it ends in by `R`. -/
def Keeps (R : σ → σ → Prop) (x : EStateM ε σ α) : Prop := ∀ s, R s (resultState (x s))

section keeps

variable {R : σ → σ → Prop}

theorem Keeps.pure [Std.Refl R] (a : α) : Keeps R (pure a : EStateM ε σ α) :=
  fun s => Std.Refl.refl s

theorem Keeps.throw [Std.Refl R] (e : ε) : Keeps R (throw e : EStateM ε σ α) :=
  fun s => Std.Refl.refl s

theorem Keeps.get [Std.Refl R] : Keeps R (get : EStateM ε σ σ) :=
  fun s => Std.Refl.refl s

theorem Keeps.modify {g : σ → σ} (h : ∀ s, R s (g s)) : Keeps R (modify g : EStateM ε σ PUnit) :=
  h

/-- The rule for a sequence: the first part keeps `R`, and so does the rest from whatever the
first part returned. -/
theorem Keeps.bind [IsTrans σ R] {x : EStateM ε σ α} {f : α → EStateM ε σ β}
    (hx : Keeps R x) (hf : ∀ a, Keeps R (f a)) : Keeps R (x >>= f) := by
  intro s
  have hs := hx s
  rw [bind_apply]
  cases h : x s with
  | ok a s' =>
    rw [h] at hs
    exact IsTrans.trans _ _ _ hs (hf a s')
  | error e s' =>
    rw [h] at hs
    exact hs

/-- What the rest of a sequence does after `x` keeps `R`: from where `x` ended to where the
sequence ends. -/
theorem Keeps.bind_right [Std.Refl R] {f : α → EStateM ε σ β} (hf : ∀ a, Keeps R (f a))
    (x : EStateM ε σ α) (s : σ) : R (resultState (x s)) (resultState ((x >>= f) s)) := by
  rw [bind_apply]
  cases x s with
  | ok a s' => exact hf a s'
  | error e s' => exact Std.Refl.refl s'

theorem Keeps.ite {c : Prop} [Decidable c] {x y : EStateM ε σ α} (hx : Keeps R x) (hy : Keeps R y) :
    Keeps R (if c then x else y) := by
  split
  · exact hx
  · exact hy

theorem Keeps.attempt {x : EStateM ε σ α} (hx : Keeps R x) : Keeps R (attempt x) := by
  intro s
  obtain ⟨r, hr⟩ := attempt_ok x s
  rw [hr, resultState_ok]
  exact hx s

end keeps

end QemuAppleSilicon.Lib
