import Mathlib.Data.List.Basic

/-!
# Partial runs that record what they touch

A device handler that may fail (a null dereference, an assertion) and that touches memory cells
is modelled as `step : α → σ → Option (σ × List β)`: from state `σ`, on input `α`, it fails or
gives the next state and the list of cells it accessed. `tracedRun step xs s` runs the inputs
`xs` in order, stops at the first failure, and concatenates the traces.

`tracedRun_invariant` is the invariant rule: a state predicate kept by every step, and a
predicate every step's accesses satisfy from such a state, hold of the whole run.
`tracedRun_isSome` is its counterpart for failure: a run from a state of the invariant does not
fail when no step does; `tracedRun_exists` gives both at once. `tracedRun_sublist` is the rule
for order: what a run outputs of what it holds comes in the order it was taken in.
`tracedRun_congr` is the unwinding rule: machines that agree on the states of an invariant agree
on every run.

`tracedRun_simulation` is the refinement rule between two such machines over the same inputs: a
relation between their states that every step carries, failing together and recording the same
trace, is carried by every run. `tracedRun_map_of_abs` is its form for an abstraction function:
when every step of the concrete machine on the inputs allowed, seen through `abs`, is the
abstract step, so is every run of such inputs. `tracedRun_stepRun` is its form for a specification given as a step relation, whose runs
are `StepRun`.
-/

namespace QemuAppleSilicon.Lib

variable {α σ β : Type*}

/-- Run `step` over `xs` from `s`, stopping at the first `none`, with the accesses of every step
in order. -/
def tracedRun (step : α → σ → Option (σ × List β)) : List α → σ → Option (σ × List β)
  | [], s => some (s, [])
  | x :: xs, s => (step x s).bind fun r => (tracedRun step xs r.1).map fun r' => (r'.1, r.2 ++ r'.2)

variable {step : α → σ → Option (σ × List β)}

@[simp] theorem tracedRun_nil (s : σ) : tracedRun step [] s = some (s, []) := rfl

theorem tracedRun_cons (x : α) (xs : List α) (s : σ) :
    tracedRun step (x :: xs) s =
      (step x s).bind fun r => (tracedRun step xs r.1).map fun r' => (r'.1, r.2 ++ r'.2) := rfl

/-- A run over `xs ++ ys` is the run over `xs`, then the run over `ys` from where it stopped,
with the two traces in order. -/
theorem tracedRun_append (xs ys : List α) (s : σ) :
    tracedRun step (xs ++ ys) s =
      (tracedRun step xs s).bind fun r =>
        (tracedRun step ys r.1).map fun r' => (r'.1, r.2 ++ r'.2) := by
  induction xs generalizing s with
  | nil =>
    simp only [List.nil_append, tracedRun_nil, Option.bind_some, List.nil_append]
    cases tracedRun step ys s <;> rfl
  | cons x xs ih =>
    rw [List.cons_append, tracedRun_cons, tracedRun_cons]
    cases step x s with
    | none => rfl
    | some r =>
      simp only [Option.bind_some, ih]
      cases tracedRun step xs r.1 with
      | none => rfl
      | some r₁ =>
        simp only [Option.bind_some, Option.map_some]
        cases tracedRun step ys r₁.1 <;> simp

/-- The invariant rule. Induction on the inputs; the state predicate carries from one step to the
next and the trace predicate holds of each step's part of the concatenation. -/
theorem tracedRun_invariant (P : σ → Prop) (Q : β → Prop) {xs : List α}
    (hstep : ∀ x ∈ xs, ∀ s r, P s → step x s = some r → P r.1 ∧ ∀ b ∈ r.2, Q b) :
    ∀ s r, P s → tracedRun step xs s = some r → P r.1 ∧ ∀ b ∈ r.2, Q b := by
  induction xs with
  | nil =>
    intro s r hs hr
    cases hr
    exact ⟨hs, fun b hb => absurd hb List.not_mem_nil⟩
  | cons x xs ih =>
    intro s r hs hr
    obtain ⟨r₁, h₁, hr⟩ := Option.bind_eq_some_iff.mp hr
    obtain ⟨r₂, h₂, rfl⟩ := Option.map_eq_some_iff.mp hr
    obtain ⟨hP₁, hQ₁⟩ := hstep x List.mem_cons_self s r₁ hs h₁
    obtain ⟨hP₂, hQ₂⟩ := ih (fun y hy => hstep y (List.mem_cons_of_mem x hy)) r₁.1 r₂ hP₁ h₂
    refine ⟨hP₂, fun b hb => ?_⟩
    rcases List.mem_append.mp hb with hb | hb
    · exact hQ₁ b hb
    · exact hQ₂ b hb

/-- A run from a state of the invariant does not fail when no step from such a state fails and
every step keeps the invariant. -/
theorem tracedRun_isSome (P : σ → Prop) {xs : List α}
    (hstep : ∀ x ∈ xs, ∀ s, P s → ∃ r, step x s = some r ∧ P r.1) :
    ∀ s, P s → (tracedRun step xs s).isSome := by
  induction xs with
  | nil => intro s _; rfl
  | cons x xs ih =>
    intro s hs
    obtain ⟨r, hr, hP⟩ := hstep x List.mem_cons_self s hs
    obtain ⟨r', hr'⟩ := Option.isSome_iff_exists.mp
      (ih (fun y hy => hstep y (List.mem_cons_of_mem x hy)) r.1 hP)
    rw [tracedRun_cons, hr, Option.bind_some, hr']
    rfl

/-- The two rules together: a step from a state of the invariant that succeeds into the invariant
gives a run that does. -/
theorem tracedRun_exists (P : σ → Prop) {xs : List α}
    (hstep : ∀ x ∈ xs, ∀ s, P s → ∃ r, step x s = some r ∧ P r.1) :
    ∀ s, P s → ∃ r, tracedRun step xs s = some r ∧ P r.1 := by
  induction xs with
  | nil => intro s hs; exact ⟨_, rfl, hs⟩
  | cons x xs ih =>
    intro s hs
    obtain ⟨r, hr, hP⟩ := hstep x List.mem_cons_self s hs
    obtain ⟨r', hr', hP'⟩ := ih (fun y hy => hstep y (List.mem_cons_of_mem x hy)) r.1 hP
    refine ⟨(r'.1, r.2 ++ r'.2), ?_, hP'⟩
    rw [tracedRun_cons, hr, Option.bind_some, hr', Option.map_some]

/-- The ordering rule. Let `view` list what a state holds and `out`, `inp` what an output and an
input contribute. If each step from a state of the invariant outputs, followed by what it then
holds, a sublist of what it held followed by what its input brought, then so does the whole run:
what a run outputs comes from the start state and then the inputs, in their order, none twice.
The induction is on the inputs; each step's sublist is appended to the rest's. -/
theorem tracedRun_sublist {γ : Type*} (P : σ → Prop) (view : σ → List γ) (out : β → List γ)
    (inp : α → List γ) {xs : List α}
    (hstep : ∀ x ∈ xs, ∀ s r, P s → step x s = some r →
      P r.1 ∧ (r.2.flatMap out ++ view r.1).Sublist (view s ++ inp x)) :
    ∀ s r, P s → tracedRun step xs s = some r →
      P r.1 ∧ (r.2.flatMap out ++ view r.1).Sublist (view s ++ xs.flatMap inp) := by
  induction xs with
  | nil =>
    intro s r hs hr
    cases hr
    simpa using hs
  | cons x xs ih =>
    intro s r hs hr
    obtain ⟨r₁, h₁, hr⟩ := Option.bind_eq_some_iff.mp hr
    obtain ⟨r₂, h₂, rfl⟩ := Option.map_eq_some_iff.mp hr
    obtain ⟨hP₁, hsub₁⟩ := hstep x List.mem_cons_self s r₁ hs h₁
    obtain ⟨hP₂, hsub₂⟩ := ih (fun y hy => hstep y (List.mem_cons_of_mem x hy)) r₁.1 r₂ hP₁ h₂
    refine ⟨hP₂, ?_⟩
    -- the rest of the run's outputs after the first step's, then the first step's inputs
    have hrest : ((r₁.2 ++ r₂.2).flatMap out ++ view r₂.1).Sublist
        (r₁.2.flatMap out ++ (view r₁.1 ++ xs.flatMap inp)) := by
      rw [List.flatMap_append, List.append_assoc]
      exact hsub₂.append_left _
    have hfirst : (r₁.2.flatMap out ++ (view r₁.1 ++ xs.flatMap inp)).Sublist
        (view s ++ (x :: xs).flatMap inp) := by
      rw [← List.append_assoc, List.flatMap_cons, ← List.append_assoc]
      exact hsub₁.append_right _
    exact hrest.trans hfirst

/-- The unwinding rule. Two machines that agree on every state of an invariant of the first agree
on every run from such a state: induction on the inputs, the invariant carried by the first
machine's steps. -/
theorem tracedRun_congr {step' : α → σ → Option (σ × List β)} (P : σ → Prop)
    (hP : ∀ x s r, P s → step x s = some r → P r.1) (hstep : ∀ x s, P s → step' x s = step x s)
    (xs : List α) : ∀ s, P s → tracedRun step' xs s = tracedRun step xs s := by
  induction xs with
  | nil => intro s _; rfl
  | cons x xs ih =>
    intro s hs
    rw [tracedRun_cons, tracedRun_cons, hstep x s hs]
    cases hr : step x s with
    | none => rfl
    | some r =>
      simp only [Option.bind_some]
      rw [ih r.1 (hP x s r hs hr)]

/-! ## Refinement -/

section Simulation

variable {γ δ ε ζ : Type*} {R : γ → δ → Prop} {S : ε → ζ → Prop}

theorem optionRel_bind {x : Option γ} {y : Option δ} {f : γ → Option ε} {g : δ → Option ζ}
    (h : Option.Rel R x y) (hfg : ∀ a b, R a b → Option.Rel S (f a) (g b)) :
    Option.Rel S (x.bind f) (y.bind g) := by
  cases h with
  | some hab => exact hfg _ _ hab
  | none => exact Option.Rel.none

theorem optionRel_map {x : Option γ} {y : Option δ} {f : γ → ε} {g : δ → ζ}
    (h : Option.Rel R x y) (hfg : ∀ a b, R a b → S (f a) (g b)) :
    Option.Rel S (x.map f) (y.map g) := by
  cases h with
  | some hab => exact Option.Rel.some (hfg _ _ hab)
  | none => exact Option.Rel.none

variable {σ' : Type*} {step' : α → σ' → Option (σ' × List β)}

/-- **The simulation rule.** Induction on the inputs: the first steps are related by `hstep`,
and the rest of the runs from the related states by induction; the traces agree piece by piece. -/
theorem tracedRun_simulation (R : σ → σ' → Prop)
    (hstep : ∀ x s t, R s t →
      Option.Rel (fun r r' => R r.1 r'.1 ∧ r.2 = r'.2) (step x s) (step' x t)) (xs : List α) :
    ∀ s t, R s t →
      Option.Rel (fun r r' => R r.1 r'.1 ∧ r.2 = r'.2) (tracedRun step xs s) (tracedRun step' xs t) := by
  induction xs with
  | nil =>
    intro s t hR
    exact Option.Rel.some ⟨hR, rfl⟩
  | cons x xs ih =>
    intro s t hR
    rw [tracedRun_cons, tracedRun_cons]
    refine optionRel_bind (hstep x s t hR) ?_
    rintro r r' ⟨hR₁, htr⟩
    refine optionRel_map (ih r.1 r'.1 hR₁) ?_
    rintro q q' ⟨hR₂, htr₂⟩
    exact ⟨hR₂, by rw [htr, htr₂]⟩

/-- The simulation rule for an abstraction function `abs`, on the states where `P` holds, a
predicate every step keeps, and the inputs where `Q` holds. Induction on the inputs. -/
theorem tracedRun_map_of_abs (abs : σ → σ') (P : σ → Prop) (Q : α → Prop)
    (hP : ∀ x s r, P s → step x s = some r → P r.1)
    (hstep : ∀ x s, Q x → P s → (step x s).map (fun r => (abs r.1, r.2)) = step' x (abs s))
    (xs : List α) (hxs : ∀ x ∈ xs, Q x) (s : σ) (hs : P s) :
    (tracedRun step xs s).map (fun r => (abs r.1, r.2)) = tracedRun step' xs (abs s) := by
  induction xs generalizing s with
  | nil => rfl
  | cons x xs ih =>
    rw [tracedRun_cons, tracedRun_cons, ← hstep x s (hxs x List.mem_cons_self) hs]
    cases hr : step x s with
    | none => rfl
    | some r =>
      rw [Option.bind_some, Option.map_some, Option.bind_some,
        ← ih (fun y hy => hxs y (List.mem_cons_of_mem x hy)) r.1 (hP x s r hs hr)]
      cases tracedRun step xs r.1 <;> rfl

end Simulation

/-! ## Refinement of a relational specification -/

section StepRun

variable {τ : Type*}

/-- The runs of a specification given by its step relation: `R x s out t` when, on input `x`, the
specification may go from `s` to `t` and output `out`. The inputs are taken in order and the
outputs concatenated. -/
inductive StepRun (R : α → τ → List β → τ → Prop) : List α → τ → List β → τ → Prop
  | nil (s : τ) : StepRun R [] s [] s
  | cons {x : α} {xs : List α} {s t u : τ} {out out' : List β} :
      R x s out t → StepRun R xs t out' u → StepRun R (x :: xs) s (out ++ out') u

/-- **The refinement rule for a relational specification.** When every step of the machine
succeeds and, seen through `abs`, is a step of `R`, every run succeeds and is a run of `R`.
Induction on the inputs, with the state generalised. -/
theorem tracedRun_stepRun (abs : σ → τ) (R : α → τ → List β → τ → Prop)
    (hstep : ∀ x s, ∃ r, step x s = some r ∧ R x (abs s) r.2 (abs r.1)) (xs : List α) (s : σ) :
    ∃ r, tracedRun step xs s = some r ∧ StepRun R xs (abs s) r.2 (abs r.1) := by
  induction xs generalizing s with
  | nil => exact ⟨_, rfl, StepRun.nil _⟩
  | cons x xs ih =>
    obtain ⟨r, hr, hR⟩ := hstep x s
    obtain ⟨r', hr', hrun⟩ := ih r.1
    refine ⟨(r'.1, r.2 ++ r'.2), ?_, StepRun.cons hR hrun⟩
    rw [tracedRun_cons, hr, Option.bind_some, hr', Option.map_some]

end StepRun

end QemuAppleSilicon.Lib
