import Mathlib.Data.PNat.Basic
import QemuAppleSilicon.Lib.Bytes

/-!
# The kernel patcher's pattern search (`hw/arm/apple-silicon/patcher.c`)

`ck_patcher_find_callback_ctx` looks for a pattern of `len` bytes, optionally masked, at the
offsets `0, align, 2 * align, …` below a range's `length`, offers each match to a callback and
stops at the first one the callback accepts; `ck_patcher_find_replace` is the search with a
callback that writes a replacement into the match.

Memory is a total byte map (`Mem`); a search returns the memory after it, the addresses it read,
the offsets it offered and whether a callback accepted. A callback that rejects a match leaves
memory as it is (every rejecting callback of the kernel patches returns before writing).

* `findLoop_offers`, `findLoop_offers_sorted`, `findLoop_first_accept` — what the search does
  keep: each offer is an aligned offset below `length` whose masked bytes equal the pattern, the
  offers increase, and the search stops at the first accepted one.
* `findLoop_reads` — every byte read lies below `ptr + (length - 1) + len`: the loop runs its
  start up to `length` while the inner loop reads `len` bytes ahead.
* `patcher_match_straddles_range_end` — so it reads past the range: a match that starts in the
  range's last byte is read, offered and, by `ck_patcher_find_replace`, patched beyond it.
-/

namespace QemuAppleSilicon.Arm

open QemuAppleSilicon.Lib

/-! ## Ranges and patterns -/

/-- The part of `CKPatcherRange` the search reads: the host address of the range and its length.
Source: `include/hw/arm/apple-silicon/patcher.h` `CKPatcherRange`
Kind: D -/
structure CKPatcherRange where
  ptr : ℕ
  length : ℕ

/-- A pattern of `len` bytes and its optional mask of the same length.
Source: `hw/arm/apple-silicon/patcher.c` `ck_patcher_find_callback_ctx`
Kind: D -/
structure CKPattern where
  pattern : List UInt8
  mask : Option (List UInt8)
  mask_length : ∀ m ∈ mask, m.length = pattern.length

/-- The (pattern, mask) byte pairs the search compares. The unmasked loop compares
`match[i] != pattern[i]`, the masked one `(match[i] & mask[i]) != pattern[i]`: the unmasked loop is
the masked one with every mask byte `0xFF`.
Source: `hw/arm/apple-silicon/patcher.c` `ck_patcher_find_callback_ctx`
Kind: D -/
def CKPattern.pairs (p : CKPattern) : List (UInt8 × UInt8) :=
  match p.mask with
  | none => p.pattern.map fun b => (b, 0xFF)
  | some m => p.pattern.zip m

@[simp] theorem CKPattern.length_pairs (p : CKPattern) : p.pairs.length = p.pattern.length := by
  unfold CKPattern.pairs
  cases hm : p.mask with
  | none => exact List.length_map _
  | some m =>
    rw [List.length_zip, p.mask_length m (by rw [hm]; rfl), Nat.min_self]

/-! ## The search -/

/-- The inner loop at `match`: compare the bytes from address `a` on with the pairs, stopping at
the first mismatch; whether all matched, and the addresses read.
Source: `hw/arm/apple-silicon/patcher.c` `ck_patcher_find_callback_ctx`
Kind: D -/
def matchLoop (mem : Mem) : ℕ → List (UInt8 × UInt8) → Bool × List ℕ
  | _, [] => (true, [])
  | a, (p, m) :: rest =>
    if mem a &&& m ≠ p then (false, [a])
    else
      let r := matchLoop mem (a + 1) rest
      (r.1, a :: r.2)

/-- What a search leaves: the memory, the addresses read, the offsets offered to the callback and
whether the callback accepted one. -/
structure FindResult where
  mem : Mem
  reads : List ℕ
  offers : List ℕ
  applied : Bool

/-- The outer loop `for (i = ...; i < range->length; i += align)` from offset `i`: a match is
offered to the callback, which either rejects it (`none`) or accepts it with the memory it
leaves, and the loop returns at the first accepted match.
Source: `hw/arm/apple-silicon/patcher.c` `ck_patcher_find_callback_ctx`
Kind: D -/
def findLoop (callback : Mem → ℕ → Option Mem) (ptr length : ℕ) (align : ℕ+)
    (pairs : List (UInt8 × UInt8)) (mem : Mem) (i : ℕ) : FindResult :=
  if i < length then
    let m := matchLoop mem (ptr + i) pairs
    let rest := findLoop callback ptr length align pairs mem (i + align)
    if m.1 then
      match callback mem (ptr + i) with
      | some mem' => ⟨mem', m.2, [i], true⟩
      | none => ⟨rest.mem, m.2 ++ rest.reads, i :: rest.offers, rest.applied⟩
    else ⟨rest.mem, m.2 ++ rest.reads, rest.offers, rest.applied⟩
  else ⟨mem, [], [], false⟩
termination_by length - i
decreasing_by
  have := align.pos
  omega

/-- `ck_patcher_find_callback_ctx(range, name, pattern, mask, len, align, ctx, callback)`: an
`align` of zero searches byte by byte, any other must divide `len` (asserted); a pattern longer
than the range is reported and nothing searched; with a mask, every pattern byte must be masked
(asserted). A failed assertion is `none`.
Source: `hw/arm/apple-silicon/patcher.c` `ck_patcher_find_callback_ctx`
Kind: D -/
def ckPatcherFindCallbackCtx (range : CKPatcherRange) (p : CKPattern) (align : ℕ)
    (callback : Mem → ℕ → Option Mem) (mem : Mem) : Option FindResult :=
  if align ≠ 0 ∧ p.pattern.length % align ≠ 0 then none
  else
    let step : ℕ+ := if h : align = 0 then 1 else ⟨align, Nat.pos_of_ne_zero h⟩
    if range.length < p.pattern.length then some ⟨mem, [], [], false⟩
    else if p.mask.isSome ∧ p.pairs.any (fun q => q.1 &&& q.2 != q.1) then none
    else some (findLoop callback range.ptr range.length step p.pairs mem 0)

/-- `ck_patcher_find_replace_callback`: the replacement copied to `offset` bytes into the match,
or merged into the bytes there under its mask; it always accepts.
Source: `hw/arm/apple-silicon/patcher.c` `ck_patcher_find_replace_callback`
Kind: D -/
def ckPatcherFindReplaceCallback (replacement : List UInt8) (replacementMask : Option (List UInt8))
    (offset : ℕ) (mem : Mem) (buffer : ℕ) : Option Mem :=
  some <| match replacementMask with
    | none => mem.write (buffer + offset) replacement
    | some m =>
      mem.write (buffer + offset) ((List.range replacement.length).map fun i =>
        (mem (buffer + offset + i) &&& m.getD i 0) ||| replacement.getD i 0)

/-- `ck_patcher_find_replace(range, name, pattern, mask, len, align, replacement,
replacement_mask, replace_off, replace_len)`: the replacement must lie inside the pattern
(asserted).
Source: `hw/arm/apple-silicon/patcher.c` `ck_patcher_find_replace`
Kind: D -/
def ckPatcherFindReplace (range : CKPatcherRange) (p : CKPattern) (align : ℕ)
    (replacement : List UInt8) (replacementMask : Option (List UInt8)) (replaceOff : ℕ)
    (mem : Mem) : Option FindResult :=
  if replaceOff + replacement.length ≤ p.pattern.length then
    ckPatcherFindCallbackCtx range p align
      (ckPatcherFindReplaceCallback replacement replacementMask replaceOff) mem
  else none

/-! ## The inner loop -/

section Match

variable (mem : Mem)

/-- **The inner loop finds a match exactly when every masked byte equals the pattern's.**
By induction on the pairs.
Source: `hw/arm/apple-silicon/patcher.c` `ck_patcher_find_callback_ctx`
Kind: L -/
theorem matchLoop_fst_eq_true_iff (ps : List (UInt8 × UInt8)) : ∀ a,
    (matchLoop mem a ps).1 = true ↔
      ∀ k (hk : k < ps.length), mem (a + k) &&& ps[k].2 = ps[k].1 := by
  induction ps with
  | nil =>
    intro a
    simp [matchLoop]
  | cons q ps ih =>
    intro a
    obtain ⟨p, m⟩ := q
    unfold matchLoop
    by_cases hq : mem a &&& m ≠ p
    · rw [if_pos hq]
      simp only [Bool.false_eq_true, false_iff, not_forall]
      exact ⟨0, by simp, hq⟩
    · rw [if_neg hq, ih (a + 1)]
      rw [not_not] at hq
      constructor
      · intro h k hk
        cases k with
        | zero => exact hq
        | succ k =>
          have := h k (by simpa using hk)
          rwa [Nat.add_right_comm, Nat.add_assoc] at this
      · intro h k hk
        have := h (k + 1) (by simpa using hk)
        rwa [← Nat.add_assoc, Nat.add_right_comm] at this

/-- The inner loop reads only the `len` bytes from where it starts.
Source: `hw/arm/apple-silicon/patcher.c` `ck_patcher_find_callback_ctx`
Kind: L -/
theorem matchLoop_reads (ps : List (UInt8 × UInt8)) : ∀ a,
    ∀ x ∈ (matchLoop mem a ps).2, a ≤ x ∧ x < a + ps.length := by
  induction ps with
  | nil =>
    intro a x hx
    cases hx
  | cons q ps ih =>
    intro a x hx
    obtain ⟨p, m⟩ := q
    unfold matchLoop at hx
    split_ifs at hx
    · rw [List.mem_singleton.mp hx]
      simp
    · rcases List.mem_cons.mp hx with rfl | hx
      · simp
      · have := ih (a + 1) x hx
        simp only [List.length_cons]
        omega

/-- A match reads every byte of it.
Source: `hw/arm/apple-silicon/patcher.c` `ck_patcher_find_callback_ctx`
Kind: L -/
theorem mem_matchLoop_reads (ps : List (UInt8 × UInt8)) : ∀ a, (matchLoop mem a ps).1 = true →
    ∀ k < ps.length, a + k ∈ (matchLoop mem a ps).2 := by
  induction ps with
  | nil =>
    intro a _ k hk
    cases hk
  | cons q ps ih =>
    intro a hm k hk
    obtain ⟨p, m⟩ := q
    unfold matchLoop at hm ⊢
    by_cases hq : mem a &&& m ≠ p
    · rw [if_pos hq] at hm
      cases hm
    · rw [if_neg hq] at hm ⊢
      cases k with
        | zero => exact List.mem_cons_self
        | succ k =>
          have := ih (a + 1) hm k (by simpa using hk)
          rw [Nat.add_right_comm, Nat.add_assoc] at this
          exact List.mem_cons_of_mem _ this

end Match

/-! ## The outer loop -/

section Search

variable (callback : Mem → ℕ → Option Mem) (ptr length : ℕ) (align : ℕ+)
  (pairs : List (UInt8 × UInt8)) (mem : Mem)

theorem findLoop_of_le {i : ℕ} (h : length ≤ i) :
    findLoop callback ptr length align pairs mem i = ⟨mem, [], [], false⟩ := by
  rw [findLoop, if_neg (by omega)]

/-- A rejected match is offered, and the search goes on.
Source: `hw/arm/apple-silicon/patcher.c` `ck_patcher_find_callback_ctx`
Kind: L -/
theorem findLoop_reject {i : ℕ} (hlt : i < length) (hm : (matchLoop mem (ptr + i) pairs).1 = true)
    (hcb : callback mem (ptr + i) = none) :
    findLoop callback ptr length align pairs mem i =
      let rest := findLoop callback ptr length align pairs mem (i + align)
      ⟨rest.mem, (matchLoop mem (ptr + i) pairs).2 ++ rest.reads, i :: rest.offers, rest.applied⟩ := by
  rw [findLoop, if_pos hlt]
  simp only [hm, if_true, hcb]

/-- An accepted match ends the search.
Source: `hw/arm/apple-silicon/patcher.c` `ck_patcher_find_callback_ctx`
Kind: L -/
theorem findLoop_accept {i : ℕ} {mem' : Mem} (hlt : i < length)
    (hm : (matchLoop mem (ptr + i) pairs).1 = true) (hcb : callback mem (ptr + i) = some mem') :
    findLoop callback ptr length align pairs mem i =
      ⟨mem', (matchLoop mem (ptr + i) pairs).2, [i], true⟩ := by
  rw [findLoop, if_pos hlt]
  simp only [hm, if_true, hcb]

/-- An offset aligned from the next start is aligned from this one. -/
theorem aligned_of_next {i o : ℕ} (hle : i + align ≤ o) (h : (o - (i + align)) % align = 0) :
    (o - i) % align = 0 := by
  have hsplit : o - i = (o - (i + align)) + align := by omega
  rw [hsplit, Nat.add_mod_right]
  exact h

/-- **Every offer is an aligned offset below `length` whose masked bytes equal the pattern.**
By induction along the loop.
Source: `hw/arm/apple-silicon/patcher.c` `ck_patcher_find_callback_ctx`
Kind: L -/
theorem findLoop_offers (i : ℕ) : ∀ o ∈ (findLoop callback ptr length align pairs mem i).offers,
    i ≤ o ∧ o < length ∧ (o - i) % align = 0 ∧ (matchLoop mem (ptr + o) pairs).1 = true := by
  fun_induction findLoop callback ptr length align pairs mem i with
  | case1 i hlt m hm mem' hcb ih =>
    intro o ho
    rw [List.mem_singleton.mp ho]
    exact ⟨le_refl i, hlt, by simp, hm⟩
  | case2 i hlt m rest hm hcb ih =>
    intro o ho
    rcases List.mem_cons.mp ho with rfl | ho
    · exact ⟨le_refl o, hlt, by simp, hm⟩
    · obtain ⟨hle, hlt', hmod, hmatch⟩ := ih o ho
      exact ⟨by omega, hlt', aligned_of_next align hle hmod, hmatch⟩
  | case3 i hlt m rest hm ih =>
    intro o ho
    obtain ⟨hle, hlt', hmod, hmatch⟩ := ih o ho
    exact ⟨by omega, hlt', aligned_of_next align hle hmod, hmatch⟩
  | case4 i hge =>
    intro o ho
    cases ho

/-- The offers come in increasing order.
Source: `hw/arm/apple-silicon/patcher.c` `ck_patcher_find_callback_ctx`
Kind: L -/
theorem findLoop_offers_sorted (i : ℕ) :
    (findLoop callback ptr length align pairs mem i).offers.Pairwise (· < ·) := by
  fun_induction findLoop callback ptr length align pairs mem i with
  | case1 i hlt m hm mem' hcb ih => exact List.pairwise_singleton _ _
  | case2 i hlt m rest hm hcb ih =>
    refine List.pairwise_cons.mpr ⟨fun o ho => ?_, ih⟩
    have := (findLoop_offers callback ptr length align pairs mem (i + align) o ho).1
    have := align.pos
    omega
  | case3 i hlt m rest hm ih => exact ih
  | case4 i hge => exact List.Pairwise.nil

/-- **Every byte the search reads lies between the offset it starts from and
`ptr + (length - 1) + len`**: a candidate below `length` is read `len` bytes ahead.
Source: `hw/arm/apple-silicon/patcher.c` `ck_patcher_find_callback_ctx`
Kind: L -/
theorem findLoop_reads (i : ℕ) : ∀ x ∈ (findLoop callback ptr length align pairs mem i).reads,
    ptr + i ≤ x ∧ x + 1 < ptr + length + pairs.length := by
  fun_induction findLoop callback ptr length align pairs mem i with
  | case1 i hlt m hm mem' hcb ih =>
    intro x hx
    have := matchLoop_reads mem pairs (ptr + i) x hx
    omega
  | case2 i hlt m rest hm hcb ih =>
    intro x hx
    rcases List.mem_append.mp hx with hx | hx
    · have := matchLoop_reads mem pairs (ptr + i) x hx
      omega
    · have := ih x hx
      omega
  | case3 i hlt m rest hm ih =>
    intro x hx
    rcases List.mem_append.mp hx with hx | hx
    · have := matchLoop_reads mem pairs (ptr + i) x hx
      omega
    · have := ih x hx
      omega
  | case4 i hge =>
    intro x hx
    cases hx

/-- Every offer but the last was rejected.
Source: `hw/arm/apple-silicon/patcher.c` `ck_patcher_find_callback_ctx`
Kind: L -/
theorem findLoop_rejected (i : ℕ) :
    ∀ o ∈ (findLoop callback ptr length align pairs mem i).offers.dropLast,
      callback mem (ptr + o) = none := by
  fun_induction findLoop callback ptr length align pairs mem i with
  | case1 i hlt m hm mem' hcb ih =>
    intro o ho
    cases ho
  | case2 i hlt m rest hm hcb ih =>
    intro o ho
    dsimp only at ho
    by_cases hnil : rest.offers = []
    · rw [hnil] at ho
      cases ho
    · rw [List.dropLast_cons_of_ne_nil hnil] at ho
      rcases List.mem_cons.mp ho with rfl | ho
      · exact hcb
      · exact ih o ho
  | case3 i hlt m rest hm ih => exact ih
  | case4 i hge =>
    intro o ho
    cases ho

/-- **The search stops at the first accepted offer**: when a callback accepted, it is the last
offer's, and the memory is what it left; otherwise every offer was rejected and memory is kept.
Source: `hw/arm/apple-silicon/patcher.c` `ck_patcher_find_callback_ctx`
Kind: L -/
theorem findLoop_first_accept (i : ℕ) :
    let r := findLoop callback ptr length align pairs mem i
    (r.applied = true → ∃ o, r.offers.getLast? = some o ∧ callback mem (ptr + o) = some r.mem) ∧
      (r.applied = false → r.mem = mem ∧ ∀ o ∈ r.offers, callback mem (ptr + o) = none) := by
  fun_induction findLoop callback ptr length align pairs mem i with
  | case1 i hlt m hm mem' hcb ih =>
    refine ⟨fun _ => ⟨i, rfl, hcb⟩, fun h => ?_⟩
    cases h
  | case2 i hlt m rest hm hcb ih =>
    obtain ⟨hyes, hno⟩ := ih
    refine ⟨fun h => ?_, fun h => ?_⟩
    · obtain ⟨o, ho, hcbo⟩ := hyes h
      refine ⟨o, ?_, hcbo⟩
      dsimp only
      rw [List.getLast?_cons]
      change rest.offers.getLast? = some o at ho
      rw [ho]
      rfl
    · obtain ⟨hmem, hall⟩ := hno h
      refine ⟨hmem, fun o ho => ?_⟩
      rcases List.mem_cons.mp ho with rfl | ho
      · exact hcb
      · exact hall o ho
  | case3 i hlt m rest hm ih => exact ih
  | case4 i hge =>
    refine ⟨fun h => ?_, fun _ => ⟨rfl, fun o ho => ?_⟩⟩
    · cases h
    · cases ho

/-- Candidates that do not match are passed over: the search from `i` ends as the search from
`n` steps later does, having read more on the way. By induction on `n`.
Source: `hw/arm/apple-silicon/patcher.c` `ck_patcher_find_callback_ctx`
Kind: L -/
theorem findLoop_skip (n : ℕ) : ∀ i, (∀ j < n, (matchLoop mem (ptr + (i + j * align)) pairs).1 = false) →
    let r := findLoop callback ptr length align pairs mem i
    let r' := findLoop callback ptr length align pairs mem (i + n * align)
    r.mem = r'.mem ∧ r.offers = r'.offers ∧ r.applied = r'.applied ∧ ∀ x ∈ r'.reads, x ∈ r.reads := by
  induction n with
  | zero =>
    intro i _
    simp
  | succ n ih =>
    intro i hmiss
    have hmiss' : ∀ j < n, (matchLoop mem (ptr + (i + align + j * align)) pairs).1 = false := by
      intro j hj
      have hidx : i + (j + 1) * align = i + align + j * align := by
        rw [Nat.succ_mul]
        omega
      have := hmiss (j + 1) (by omega)
      rwa [hidx] at this
    have hend : i + align + n * align = i + (n + 1) * align := by
      rw [Nat.succ_mul]
      omega
    obtain ⟨hmem, hoff, happ, hreads⟩ := ih (i + align) hmiss'
    rw [hend] at hmem hoff happ hreads
    by_cases hlt : i < length
    · have hm : (matchLoop mem (ptr + i) pairs).1 = false := by simpa using hmiss 0 (by omega)
      rw [findLoop, if_pos hlt]
      simp only [hm, Bool.false_eq_true, if_false]
      exact ⟨hmem, hoff, happ, fun x hx => List.mem_append_right _ (hreads x hx)⟩
    · have hpast : ¬ i + (n + 1) * align < length := by
        have := align.pos
        rw [Nat.succ_mul]
        omega
      rw [findLoop, if_neg hlt, findLoop, if_neg hpast]
      exact ⟨rfl, rfl, rfl, fun x hx => hx⟩

end Search

/-! ## Reading and patching past the range -/

/-- With no mask and `align` zero, a pattern that fits is searched byte by byte from offset 0.
Source: `hw/arm/apple-silicon/patcher.c` `ck_patcher_find_callback_ctx`
Kind: L -/
theorem ckPatcherFindCallbackCtx_unmasked (range : CKPatcherRange) (p : CKPattern)
    (hmask : p.mask = none) (hlen : p.pattern.length ≤ range.length)
    (callback : Mem → ℕ → Option Mem) (mem : Mem) :
    ckPatcherFindCallbackCtx range p 0 callback mem =
      some (findLoop callback range.ptr range.length 1 p.pairs mem 0) := by
  unfold ckPatcherFindCallbackCtx
  rw [if_neg (by simp), if_neg (by omega), if_neg (by simp [hmask])]
  rfl

/-- The pattern `AA BB`, unmasked. -/
def straddlePattern : CKPattern := ⟨[0xAA, 0xBB], none, by simp⟩

/-- **A match may straddle the end of the range.** With `AA` as the range's last byte and `BB`
just past it, the search reads `ptr + length` and offers offset `length - 1`, where the pattern
does not fit; `ck_patcher_find_replace` then writes outside the range.
Source: `hw/arm/apple-silicon/patcher.c` `ck_patcher_find_callback_ctx`,
`ck_patcher_find_replace`
Kind: P -/
theorem patcher_match_straddles_range_end (ptr length : ℕ) (hlen : 2 ≤ length) (mem : Mem)
    (hzero : ∀ j < length - 1, mem (ptr + j) = 0) (hlast : mem (ptr + (length - 1)) = 0xAA)
    (hnext : mem (ptr + length) = 0xBB) :
    (∃ r, ckPatcherFindCallbackCtx ⟨ptr, length⟩ straddlePattern 0 (fun _ _ => none) mem = some r ∧
        ptr + length ∈ r.reads ∧ length - 1 ∈ r.offers ∧
        length < length - 1 + straddlePattern.pattern.length) ∧
      ∃ r, ckPatcherFindReplace ⟨ptr, length⟩ straddlePattern 0 [0xCC] none 1 mem = some r ∧
        r.applied = true ∧ ¬ Mem.Unchanged mem r.mem ptr (ptr + length) := by
  have hone : ((1 : ℕ+) : ℕ) = 1 := rfl
  -- every start before the range's last byte fails on its first byte
  have hmiss : ∀ j < length - 1,
      (matchLoop mem (ptr + (0 + j * (1 : ℕ+))) straddlePattern.pairs).1 = false := by
    intro j hj
    rw [hone, Nat.mul_one, Nat.zero_add]
    simp [straddlePattern, CKPattern.pairs, matchLoop, hzero j hj]
  -- the range's last byte starts a match, read one byte past the range
  have hpast : ptr + (length - 1) + 1 = ptr + length := by omega
  have hmatch : matchLoop mem (ptr + (length - 1)) straddlePattern.pairs =
      (true, [ptr + (length - 1), ptr + length]) := by
    have haa : (0xAA : UInt8) &&& 0xFF = 0xAA := by decide
    have hbb : (0xBB : UInt8) &&& 0xFF = 0xBB := by decide
    simp [straddlePattern, CKPattern.pairs, matchLoop, hlast, hpast, hnext, haa, hbb]
  have hlt : length - 1 < length := by omega
  have hstop : length ≤ length - 1 + ((1 : ℕ+) : ℕ) := by omega
  have hstart : 0 + (length - 1) * ((1 : ℕ+) : ℕ) = length - 1 := by
    rw [hone, Nat.mul_one, Nat.zero_add]
  have hfits : straddlePattern.pattern.length ≤ length := hlen
  constructor
  · -- a callback that rejects everything is offered the straddling match
    obtain ⟨_, hoff, _, hreads⟩ := findLoop_skip (fun _ _ => none) ptr length 1 straddlePattern.pairs
      mem (length - 1) 0 hmiss
    rw [hstart] at hoff hreads
    have hrun := findLoop_reject (fun _ _ => none) ptr length 1 straddlePattern.pairs mem hlt
      (by rw [hmatch]) rfl
    rw [findLoop_of_le _ _ _ _ _ _ hstop, hmatch] at hrun
    refine ⟨_, ckPatcherFindCallbackCtx_unmasked _ _ rfl hfits _ mem, ?_, ?_, by simp [straddlePattern]; omega⟩
    · apply hreads
      rw [hrun]
      simp
    · rw [hoff, hrun]
      exact List.mem_singleton_self _
  · -- the replacement lands on the byte past the range
    obtain ⟨hmem, _, happ, _⟩ := findLoop_skip (ckPatcherFindReplaceCallback [0xCC] none 1) ptr length
      1 straddlePattern.pairs mem (length - 1) 0 hmiss
    rw [hstart] at hmem happ
    have hrun := findLoop_accept (ckPatcherFindReplaceCallback [0xCC] none 1) ptr length 1
      straddlePattern.pairs mem hlt (by rw [hmatch]) rfl
    refine ⟨findLoop (ckPatcherFindReplaceCallback [0xCC] none 1) ptr length 1 straddlePattern.pairs
      mem 0, ?_, ?_, ?_⟩
    · unfold ckPatcherFindReplace
      rw [if_pos (by decide)]
      exact ckPatcherFindCallbackCtx_unmasked _ _ rfl hfits _ mem
    · rw [happ, hrun]
    · intro hunch
      have hbyte := hunch (ptr + length) (Or.inr le_rfl)
      rw [hmem, hrun, hnext] at hbyte
      have hwrite : mem.write (ptr + (length - 1) + 1) [0xCC] (ptr + length) = 0xCC := by
        rw [hpast]
        exact Mem.write_apply_of_mem mem [0xCC] 0 (by decide)
      dsimp only at hbyte
      rw [hwrite] at hbyte
      exact absurd hbyte (by decide)

/-- A memory whose four-byte range at 0 ends in `AA`, followed by `BB`. -/
def straddleMem : Mem := fun a => if a = 3 then 0xAA else if a = 4 then 0xBB else 0

/-- The four-byte range at address 0. -/
theorem patcher_match_straddles_range_end_four :
    2 ≤ 4 ∧ (∀ j < 4 - 1, straddleMem (0 + j) = 0) ∧ straddleMem (0 + (4 - 1)) = 0xAA ∧
      straddleMem (0 + 4) = 0xBB ∧
      ((∃ r, ckPatcherFindCallbackCtx ⟨0, 4⟩ straddlePattern 0 (fun _ _ => none) straddleMem =
            some r ∧ 0 + 4 ∈ r.reads ∧ 4 - 1 ∈ r.offers ∧ 4 < 4 - 1 + straddlePattern.pattern.length) ∧
        ∃ r, ckPatcherFindReplace ⟨0, 4⟩ straddlePattern 0 [0xCC] none 1 straddleMem = some r ∧
          r.applied = true ∧ ¬ Mem.Unchanged straddleMem r.mem 0 (0 + 4)) :=
  ⟨by decide, by decide, by decide, by decide,
    patcher_match_straddles_range_end 0 4 (by decide) straddleMem (by decide) (by decide) (by decide)⟩

end QemuAppleSilicon.Arm
