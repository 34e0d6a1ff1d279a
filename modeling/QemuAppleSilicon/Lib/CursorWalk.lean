import Mathlib.Data.List.Basic

/-!
# Walks over records laid out one after another

A C loop over `n` variable-length records reads the record at a cursor, handles it and moves the
cursor past it by the record's own size:

    for (i = 0; i < n; i++) {
        x = at(cursor);
        if (stall(x)) continue;
        s = body(x, s);
        cursor += size(x);
    }

The `continue` skips the advance as well as the body, so once the cursor reaches a record that
`stall` selects it stays there for every remaining iteration. `cursorWalk` is that loop;
`LaidOut get size off xs` says that the records `xs` lie one after another from `off`;
`cursorWalk_laidOut` says that over such records the loop folds `body` over the records before
the first stalled one, and `cursorWalk_filter` when it folds over every unstalled record.
-/

namespace QemuAppleSilicon.Lib

variable {α σ : Type*}

/-- The loop above, for `n` iterations from cursor `off`. -/
def cursorWalk (get : ℕ → α) (size : α → ℕ) (stall : α → Bool) (body : α → σ → σ) :
    ℕ → ℕ → σ → σ
  | 0, _, s => s
  | n + 1, off, s =>
    if stall (get off) then cursorWalk get size stall body n off s
    else cursorWalk get size stall body n (off + size (get off)) (body (get off) s)

/-- The records `xs` lie one after another from `off`: each starts where the one before ends. -/
inductive LaidOut (get : ℕ → α) (size : α → ℕ) : ℕ → List α → Prop
  | nil (off : ℕ) : LaidOut get size off []
  | cons {off : ℕ} {x : α} {xs : List α} :
      get off = x → LaidOut get size (off + size x) xs → LaidOut get size off (x :: xs)

section

variable {get : ℕ → α} {size : α → ℕ} {stall : α → Bool} {body : α → σ → σ}

/-- The records of a prefix of a laid-out list are laid out too. -/
theorem LaidOut.of_append {off : ℕ} {xs ys : List α} (h : LaidOut get size off (xs ++ ys)) :
    LaidOut get size off xs := by
  induction xs generalizing off with
  | nil => exact LaidOut.nil off
  | cons x xs ih =>
    cases h with
    | cons hget hrest => exact LaidOut.cons hget (ih hrest)

/-- At a stalled record the loop stays put and its state never changes again. -/
theorem cursorWalk_of_stall {off : ℕ} (h : stall (get off) = true) (n : ℕ) (s : σ) :
    cursorWalk get size stall body n off s = s := by
  induction n with
  | zero => rfl
  | succ n ih => rw [cursorWalk, if_pos h, ih]

/-- A property of the state that every step of the body keeps holds after the loop, whatever the
records and however the cursor moves. -/
theorem cursorWalk_invariant (P : σ → Prop) (hbody : ∀ x s, P s → P (body x s)) :
    ∀ (n off : ℕ) (s : σ), P s → P (cursorWalk get size stall body n off s) := by
  intro n
  induction n with
  | zero => exact fun _ _ hs => hs
  | succ n ih =>
    intro off s hs
    unfold cursorWalk
    split
    · exact ih off s hs
    · exact ih _ _ (hbody _ s hs)

/-- Over laid-out records the loop folds its body over the records before the first stalled one.
The induction is on the records, the cursor moving to the next one at each step. -/
theorem cursorWalk_laidOut {off : ℕ} {xs : List α} (h : LaidOut get size off xs) (s : σ) :
    cursorWalk get size stall body xs.length off s =
      (xs.takeWhile fun x => !stall x).foldl (fun s x => body x s) s := by
  induction h generalizing s with
  | nil => rfl
  | @cons off x xs hget _ ih =>
    subst hget
    by_cases hx : stall (get off) = true
    · rw [List.length_cons, cursorWalk_of_stall hx, List.takeWhile_cons_of_neg (by simp [hx]),
        List.foldl_nil]
    · rw [List.length_cons, cursorWalk, if_neg hx, ih,
        List.takeWhile_cons_of_pos (by simpa using hx), List.foldl_cons]

/-- `takeWhile` and `filter` agree on a list whose elements but the last all pass. -/
theorem takeWhile_eq_filter_of_dropLast {p : α → Bool} :
    ∀ {xs : List α}, (∀ x ∈ xs.dropLast, p x = true) → xs.takeWhile p = xs.filter p
  | [], _ => rfl
  | [x], _ => by cases hx : p x <;> simp [hx]
  | x :: y :: ys, h => by
    have hx : p x = true := h x (by simp)
    have hrest : ∀ z ∈ (y :: ys).dropLast, p z = true := fun z hz =>
      h z (by rw [List.dropLast_cons_cons]; exact List.mem_cons_of_mem x hz)
    rw [List.takeWhile_cons_of_pos hx, List.filter_cons_of_pos hx,
      takeWhile_eq_filter_of_dropLast hrest]

/-- When no record but possibly the last is stalled, the loop folds its body over every
unstalled record, as a loop whose `continue` advanced the cursor would. -/
theorem cursorWalk_filter {off : ℕ} {xs : List α} (h : LaidOut get size off xs)
    (hxs : ∀ x ∈ xs.dropLast, stall x = false) (s : σ) :
    cursorWalk get size stall body xs.length off s =
      (xs.filter fun x => !stall x).foldl (fun s x => body x s) s := by
  rw [cursorWalk_laidOut h, takeWhile_eq_filter_of_dropLast (by simpa using hxs)]

/-- A stalled record hides everything after it: the loop over `pre ++ x :: post` ends as the
loop over `pre` alone does. -/
theorem cursorWalk_append_stall {off : ℕ} {pre post : List α} {x : α}
    (h : LaidOut get size off (pre ++ x :: post)) (hx : stall x = true) (s : σ) :
    cursorWalk get size stall body (pre.length + 1 + post.length) off s =
      cursorWalk get size stall body pre.length off s := by
  have hlen : pre.length + 1 + post.length = (pre ++ x :: post).length := by
    simp only [List.length_append, List.length_cons]
    omega
  rw [hlen, cursorWalk_laidOut h, cursorWalk_laidOut h.of_append, List.takeWhile_append]
  split_ifs with hfull
  · -- every record of `pre` passes, so the walk reaches `x` and stops there
    have hpre : pre.takeWhile (fun x => !stall x) = pre :=
      (List.takeWhile_prefix _).eq_of_length hfull
    rw [List.takeWhile_cons_of_neg (by simp [hx]), List.append_nil, hpre]
  · rfl

end

end QemuAppleSilicon.Lib
