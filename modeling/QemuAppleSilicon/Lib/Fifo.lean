import Mathlib.Data.List.Forall2

/-!
# FIFO channels

A channel is a queue: a push appends at the tail, a pop hands out the head, marked by a function
`stamp` of the head and the queue's length at that moment (a channel that hands out what it was
given has `stamp a n = a`). A trace of pushes and pops is a behaviour of the channel from a
queue when replaying it never pops an empty queue and every popped value is the marked head
(`fifoReplay`); the replay ends at the queue left over.

* `fifoReplay_append`, `fifoReplay_push`, `fifoReplay_pop` — replaying a trace in parts, and
  one event after a trace.
* `fifoReplay_sound` — what a behaviour says: the values given to the channel are the values it
  handed out, in order and each once, followed by what it still holds.
-/

namespace QemuAppleSilicon.Lib

/-- An event of a channel: a value pushed, or a value popped. -/
inductive FifoEvent (α : Type*) where
  | push (a : α)
  | pop (b : α)
  deriving DecidableEq

namespace FifoEvent

variable {α : Type*}

/-- The values pushed in a trace, in order. -/
def pushed : List (FifoEvent α) → List α
  | [] => []
  | push a :: evs => a :: pushed evs
  | pop _ :: evs => pushed evs

/-- The values popped in a trace, in order. -/
def popped : List (FifoEvent α) → List α
  | [] => []
  | push _ :: evs => popped evs
  | pop b :: evs => b :: popped evs

end FifoEvent

open FifoEvent

variable {α : Type*} [DecidableEq α] (stamp : α → ℕ → α)

/-- Replaying a trace on a queue: `none` when a pop finds the queue empty or hands out something
other than the marked head, else the queue left over. -/
def fifoReplay : List (FifoEvent α) → List α → Option (List α)
  | [], q => some q
  | push a :: evs, q => fifoReplay evs (q ++ [a])
  | pop b :: evs, q =>
    match q with
    | [] => none
    | a :: rest => if b = stamp a (rest.length + 1) then fifoReplay evs rest else none

/-- Replaying a trace in two parts. -/
theorem fifoReplay_append (evs₁ evs₂ : List (FifoEvent α)) :
    ∀ q, fifoReplay stamp (evs₁ ++ evs₂) q = (fifoReplay stamp evs₁ q).bind (fifoReplay stamp evs₂) := by
  induction evs₁ with
  | nil => intro q; rfl
  | cons ev evs₁ ih =>
    intro q
    cases ev with
    | push a => exact ih (q ++ [a])
    | pop b =>
      cases q with
      | nil => rfl
      | cons a rest =>
        simp only [List.cons_append, fifoReplay]
        split_ifs
        · exact ih rest
        · rfl

/-- A push after a trace appends to the queue it left. -/
theorem fifoReplay_push {evs : List (FifoEvent α)} {q₀ q : List α}
    (h : fifoReplay stamp evs q₀ = some q) (a : α) :
    fifoReplay stamp (evs ++ [push a]) q₀ = some (q ++ [a]) := by
  rw [fifoReplay_append, h]
  rfl

/-- A pop after a trace hands out the marked head of the queue it left. -/
theorem fifoReplay_pop {evs : List (FifoEvent α)} {q₀ rest : List α} {a : α}
    (h : fifoReplay stamp evs q₀ = some (a :: rest)) :
    fifoReplay stamp (evs ++ [pop (stamp a (rest.length + 1))]) q₀ = some rest := by
  rw [fifoReplay_append, h]
  simp [fifoReplay]

/-- **What a behaviour of the channel says**: what the queue held and every value pushed are,
in order, the values popped (each the marked form of one of them) followed by the queue left
over; so nothing is lost, duplicated or reordered. By induction on the trace. -/
theorem fifoReplay_sound (evs : List (FifoEvent α)) :
    ∀ {q₀ q : List α}, fifoReplay stamp evs q₀ = some q →
      ∃ sent, q₀ ++ pushed evs = sent ++ q ∧
        List.Forall₂ (fun b a => ∃ n, b = stamp a n) (popped evs) sent := by
  induction evs with
  | nil =>
    intro q₀ q h
    cases h
    exact ⟨[], by simp [pushed], List.Forall₂.nil⟩
  | cons ev evs ih =>
    intro q₀ q h
    cases ev with
    | push a =>
      obtain ⟨sent, hsent, hpop⟩ := ih h
      refine ⟨sent, ?_, hpop⟩
      rw [pushed, ← hsent, List.append_assoc, List.singleton_append]
    | pop b =>
      cases q₀ with
      | nil => cases h
      | cons a rest =>
        simp only [fifoReplay] at h
        split_ifs at h with hb
        obtain ⟨sent, hsent, hpop⟩ := ih h
        refine ⟨a :: sent, ?_, List.Forall₂.cons ⟨_, hb⟩ hpop⟩
        rw [pushed, List.cons_append, hsent, List.cons_append]

end QemuAppleSilicon.Lib
