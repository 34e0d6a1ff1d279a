import Mathlib.Data.Nat.ModEq
import QemuAppleSilicon.Lib.RingBuffer
import QemuAppleSilicon.Lib.TracedRun
import QemuAppleSilicon.Qemu.Base
import QemuAppleSilicon.I2c.AppleI2c

/-!
# The byte FIFO of `util/fifo8.c`

`Fifo8` is QEMU's ring buffer: `num` bytes from `head` on, modulo `capacity`. Its bytes as a
queue, oldest first, are `Fifo8.contents`, the `ringView` of the buffer. Every function of the
file is modelled with its assertions as failures (`none`). Each is proved against the queue:

* `fifo8Push_contents`, `fifo8PushAll_contents` — a push appends; `fifo8_push_all`'s two
  `memcpy`s put the `j`-th byte `j` cells past the tail (`fifo8PushAll_data_tail`) and leave the
  bytes held alone (`fifo8PushAll_data_frame`).
* `fifo8Pop_map`, `fifo8Peek_eq` — a pop or a peek takes the head.
* `fifo8PopBufptr_spec`, `fifo8PeekBufptr_spec` — the pointer calls return the contiguous run
  from the head, which stops at the end of the buffer.
* `fifo8PopBuf_spec`, `fifo8PeekBuf_spec`, `fifo8PeekpopBuf_eq_none` — `fifo8_peekpop_buf`
  joins the run at the head and the run from the start of the buffer into the first `destlen`
  bytes; a request for more than the FIFO holds fails the first call's assertion.

`fifo8Step` runs one call of the interface and `queueStep` is the same call on a bounded list.
`fifo8Step_map` proves the two agree, and `fifo8_refines_queue` lifts that to every sequence of
calls with the library's `tracedRun_map_of_abs`, for `push_all`s of fewer than `2 ^ 31` bytes:
`fifo8_push_all` adds its caller's count to `num` in `uint32_t`, and a push that takes the sum
to `2 ^ 32` passes its assertion where the queue's fails (`fifo8PushAll_wraps`). The list FIFOs the device models use
(`I2c.fifo8Push`, `I2c.fifo8Pop`) are the queue's push and pop.
-/

namespace QemuAppleSilicon.Qemu

open QemuAppleSilicon.Lib

/-! ## The state and the interface -/

/-- A FIFO of bytes: `num` bytes from `head` on, around a buffer of `capacity` bytes. The
invariant fields are what `fifo8.c` keeps: the head is a cell of the buffer and the FIFO holds at
most `capacity` bytes; `capacity ≤ 2 ^ 31` keeps the `uint32_t` sums of the file's own fields
(`head + num`, `head + skip`) below `2 ^ 32`. The sums `fifo8_push_all` forms with its caller's
count wrap (`fifo8PushAll`).
Source: `include/qemu/fifo8.h` `Fifo8`
Kind: D -/
structure Fifo8 where
  data : Mem
  capacity : ℕ
  head : ℕ
  num : ℕ
  head_lt : head < capacity
  num_le : num ≤ capacity
  capacity_le : capacity ≤ 2 ^ 31

/-- The buffer `g_new` allocates is left as it is: its bytes are `data`.
Source: `util/fifo8.c` `fifo8_create`
Kind: D -/
def fifo8Create (data : Mem) (capacity : ℕ) (hpos : 0 < capacity) (hle : capacity ≤ 2 ^ 31) : Fifo8 :=
  ⟨data, capacity, 0, 0, hpos, Nat.zero_le _, hle⟩

/-- Source: `util/fifo8.c` `fifo8_reset`. Kind: D -/
def fifo8Reset (f : Fifo8) : Fifo8 :=
  { f with num := 0, head := 0, head_lt := Nat.zero_lt_of_lt f.head_lt, num_le := Nat.zero_le _ }

/-- `none` where the assertion `num < capacity` fails.
Source: `util/fifo8.c` `fifo8_push`
Kind: D -/
def fifo8Push (f : Fifo8) (data : UInt8) : Option Fifo8 :=
  if h : f.num < f.capacity then
    some { f with data := Function.update f.data ((f.head + f.num) % f.capacity) data,
                  num := f.num + 1, num_le := h }
  else none

/-- One `memcpy` at the tail, or two when the bytes wrap past the end of the buffer; `none`
where the assertion `num + n <= capacity` fails. `num + n`, `start + n` and the new `num` are
`uint32_t` sums, taken modulo `2 ^ 32`.
Source: `util/fifo8.c` `fifo8_push_all`
Kind: D -/
def fifo8PushAll (f : Fifo8) (data : List UInt8) : Option Fifo8 :=
  if h : (f.num + data.length) % 2 ^ 32 ≤ f.capacity then
    let start := (f.head + f.num) % f.capacity
    let buf :=
      if (start + data.length) % 2 ^ 32 ≤ f.capacity then f.data.write start data
      else
        let avail := f.capacity - start
        (f.data.write start (data.take avail)).write 0 (data.drop avail)
    some { f with data := buf, num := (f.num + data.length) % 2 ^ 32, num_le := h }
  else none

/-- `none` where the assertion `num > 0` fails.
Source: `util/fifo8.c` `fifo8_pop`
Kind: D -/
def fifo8Pop (f : Fifo8) : Option (UInt8 × Fifo8) :=
  if h : 0 < f.num then
    some (f.data f.head, { f with
      head := (f.head + 1) % f.capacity
      num := f.num - 1
      head_lt := Nat.mod_lt _ (Nat.zero_lt_of_lt f.head_lt)
      num_le := by have := f.num_le; omega })
  else none

/-- Source: `util/fifo8.c` `fifo8_peek`. Kind: D -/
def fifo8Peek (f : Fifo8) : Option UInt8 :=
  if 0 < f.num then some (f.data f.head) else none

/-- The bytes at the returned pointer, `*numptr` of them: the contiguous run from `skip` bytes past
the head up to the end of the buffer, at most `max`. `none` where an assertion fails.
Source: `util/fifo8.c` `fifo8_peekpop_bufptr`
Kind: D -/
def fifo8PeekpopBufptr (f : Fifo8) (max skip : ℕ) (doPop : Bool) : Option (List UInt8 × Fifo8) :=
  if 0 < max ∧ max ≤ f.num ∧ skip ≤ f.num then
    let head := (f.head + skip) % f.capacity
    let num := min (f.capacity - head) max
    let ret := f.data.read head num
    if doPop then
      some (ret, { f with
        head := (head + num) % f.capacity
        num := f.num - num
        head_lt := Nat.mod_lt _ (Nat.zero_lt_of_lt f.head_lt)
        num_le := by have := f.num_le; omega })
    else some (ret, f)
  else none

/-- Source: `util/fifo8.c` `fifo8_peek_bufptr`. Kind: D -/
def fifo8PeekBufptr (f : Fifo8) (max : ℕ) : Option (List UInt8 × Fifo8) :=
  fifo8PeekpopBufptr f max 0 false

/-- Source: `util/fifo8.c` `fifo8_pop_bufptr`. Kind: D -/
def fifo8PopBufptr (f : Fifo8) (max : ℕ) : Option (List UInt8 × Fifo8) :=
  fifo8PeekpopBufptr f max 0 true

/-- The bytes copied to `dest` (their count is the return value): the run at the head, then, if the
FIFO wraps, the run from the start of the buffer. The first call passes `destlen` itself as `max`,
so a request for more bytes than the FIFO holds fails its assertion.
Source: `util/fifo8.c` `fifo8_peekpop_buf`
Kind: D -/
def fifo8PeekpopBuf (f : Fifo8) (destlen : ℕ) (doPop : Bool) : Option (List UInt8 × Fifo8) :=
  if destlen = 0 then some ([], f)
  else do
    let (b₁, f₁) ← fifo8PeekpopBufptr f destlen 0 doPop
    let len := min (destlen - b₁.length) f₁.num
    if len ≠ 0 then
      let (b₂, f₂) ← fifo8PeekpopBufptr f₁ len (if doPop then 0 else b₁.length) doPop
      pure (b₁ ++ b₂, f₂)
    else pure (b₁, f₁)

/-- Source: `util/fifo8.c` `fifo8_pop_buf`. Kind: D -/
def fifo8PopBuf (f : Fifo8) (destlen : ℕ) : Option (List UInt8 × Fifo8) :=
  fifo8PeekpopBuf f destlen true

/-- Source: `util/fifo8.c` `fifo8_peek_buf`. Kind: D -/
def fifo8PeekBuf (f : Fifo8) (destlen : ℕ) : Option (List UInt8 × Fifo8) :=
  fifo8PeekpopBuf f destlen false

/-- Source: `util/fifo8.c` `fifo8_drop`. Kind: D -/
def fifo8Drop (f : Fifo8) (len : ℕ) : Option Fifo8 := do
  let (b, f) ← fifo8PopBuf f len
  if len - b.length = 0 then some f else none

/-- Source: `util/fifo8.c` `fifo8_is_empty`. Kind: D -/
def fifo8IsEmpty (f : Fifo8) : Bool := f.num = 0

/-- Source: `util/fifo8.c` `fifo8_is_full`. Kind: D -/
def fifo8IsFull (f : Fifo8) : Bool := f.num = f.capacity

/-- Source: `util/fifo8.c` `fifo8_num_free`. Kind: D -/
def fifo8NumFree (f : Fifo8) : ℕ := f.capacity - f.num

/-- Source: `util/fifo8.c` `fifo8_num_used`. Kind: D -/
def fifo8NumUsed (f : Fifo8) : ℕ := f.num

/-! ## The queue a FIFO holds -/

/-- The bytes the FIFO holds, oldest first.
Source: none: the abstraction of `Fifo8`
Kind: D -/
def Fifo8.contents (f : Fifo8) : List UInt8 := ringView f.data f.capacity f.head f.num

theorem Fifo8.length_contents (f : Fifo8) : f.contents.length = f.num := ringView_length

/-- A push appends the byte.
Source: `util/fifo8.c` `fifo8_push`
Kind: L -/
theorem fifo8Push_contents {f f' : Fifo8} {x : UInt8} (h : fifo8Push f x = some f') :
    f'.contents = f.contents ++ [x] ∧ f'.capacity = f.capacity := by
  unfold fifo8Push at h
  split_ifs at h with hlt
  cases h
  exact ⟨ringView_update_snoc hlt x, rfl⟩

/-- Source: `util/fifo8.c` `fifo8_push`. Kind: L -/
theorem fifo8Push_eq_none {f : Fifo8} {x : UInt8} : fifo8Push f x = none ↔ f.capacity ≤ f.num := by
  unfold fifo8Push
  split_ifs with hlt <;> simp <;> omega

theorem Fifo8.contents_cons (f : Fifo8) (hpos : 0 < f.num) :
    f.contents = f.data f.head :: ringView f.data f.capacity (f.head + 1) (f.num - 1) := by
  obtain ⟨n, hn⟩ : ∃ n, f.num = n + 1 := ⟨f.num - 1, by omega⟩
  rw [Fifo8.contents, hn, ringView_cons, Nat.mod_eq_of_lt f.head_lt, Nat.add_sub_cancel]

/-- A pop is the pop of the queue, and fails on the empty one.
Source: `util/fifo8.c` `fifo8_pop`
Kind: L -/
theorem fifo8Pop_map (f : Fifo8) :
    (fifo8Pop f).map (fun r => (r.1, r.2.contents)) = I2c.fifo8Pop f.contents := by
  unfold fifo8Pop
  split_ifs with hpos
  · rw [f.contents_cons hpos]
    simp [I2c.fifo8Pop, Fifo8.contents, ringView_mod]
  · have hnil : f.contents = [] := List.eq_nil_of_length_eq_zero (by rw [f.length_contents]; omega)
    rw [hnil]
    rfl

/-- A pop of a FIFO whose bytes are `b :: rest` returns `b` and leaves `rest`.
Source: `util/fifo8.c` `fifo8_pop`
Kind: L -/
theorem fifo8Pop_cons {f : Fifo8} {b : UInt8} {rest : List UInt8} (h : f.contents = b :: rest) :
    ∃ f', fifo8Pop f = some (b, f') ∧ f'.contents = rest ∧ f'.capacity = f.capacity := by
  have hmap := fifo8Pop_map f
  rw [h] at hmap
  cases hp : fifo8Pop f with
  | none => rw [hp] at hmap; cases hmap
  | some r =>
    rw [hp, Option.map_some] at hmap
    obtain ⟨rfl, hc⟩ := Prod.mk.inj (Option.some.inj hmap)
    refine ⟨r.2, rfl, hc, ?_⟩
    unfold fifo8Pop at hp
    split_ifs at hp
    cases hp
    rfl

/-- A pop of the contiguous run at the head: the first `n` bytes, `n` up to the end of the buffer.
Source: `util/fifo8.c` `fifo8_peekpop_bufptr`
Kind: L -/
theorem fifo8PopBufptr_spec (f : Fifo8) {max : ℕ} (h0 : 0 < max) (hmax : max ≤ f.num) :
    ∃ f', fifo8PeekpopBufptr f max 0 true =
        some (f.contents.take (min (f.capacity - f.head) max), f') ∧
      f'.contents = f.contents.drop (min (f.capacity - f.head) max) ∧
      f'.num = f.num - min (f.capacity - f.head) max ∧
      f'.head = (f.head + min (f.capacity - f.head) max) % f.capacity ∧ f'.capacity = f.capacity := by
  have hhead : (f.head + 0) % f.capacity = f.head := by rw [Nat.add_zero, Nat.mod_eq_of_lt f.head_lt]
  simp only [fifo8PeekpopBufptr, hhead, if_pos (And.intro h0 (And.intro hmax (Nat.zero_le _))),
    if_true]
  have hle : min (f.capacity - f.head) max ≤ f.num := (Nat.min_le_right _ _).trans hmax
  have hend : f.head + min (f.capacity - f.head) max ≤ f.capacity := by
    have := f.head_lt
    omega
  refine ⟨_, congrArg some (Prod.ext ?_ rfl), ?_, rfl, rfl, rfl⟩
  · dsimp only
    rw [Fifo8.contents, take_ringView, Nat.min_eq_left hle, ringView_of_le hend]
    rfl
  · simp only [Fifo8.contents, drop_ringView]
    rw [ringView_mod]

/-- A peek at the contiguous run `skip` bytes past the head.
Source: `util/fifo8.c` `fifo8_peekpop_bufptr`
Kind: L -/
theorem fifo8PeekBufptr_spec (f : Fifo8) {max skip : ℕ} (h0 : 0 < max) (hmax : max ≤ f.num)
    (hskip : skip ≤ f.num) :
    fifo8PeekpopBufptr f max skip false =
      some (ringView f.data f.capacity (f.head + skip)
        (min (f.capacity - (f.head + skip) % f.capacity) max), f) := by
  have hlt := Nat.mod_lt (f.head + skip) (Nat.zero_lt_of_lt f.head_lt)
  simp only [fifo8PeekpopBufptr, if_pos (And.intro h0 (And.intro hmax hskip)), Bool.false_eq_true,
    if_false]
  rw [← ringView_mod, ringView_of_le (by omega)]
  rfl

/-- A pop of `destlen` bytes the FIFO holds takes the first `destlen` of them, in one run or, where
they wrap, in two.
Source: `util/fifo8.c` `fifo8_peekpop_buf`
Kind: L -/
theorem fifo8PopBuf_spec (f : Fifo8) {destlen : ℕ} (hlen : destlen ≤ f.num) :
    ∃ f', fifo8PeekpopBuf f destlen true = some (f.contents.take destlen, f') ∧
      f'.contents = f.contents.drop destlen ∧ f'.capacity = f.capacity := by
  by_cases h0 : destlen = 0
  · subst h0
    exact ⟨f, by simp [fifo8PeekpopBuf], by simp, rfl⟩
  obtain ⟨f₁, h₁, hc₁, hn₁, hh₁, hcap₁⟩ := fifo8PopBufptr_spec f (Nat.pos_of_ne_zero h0) hlen
  have hlen₁ : (f.contents.take (min (f.capacity - f.head) destlen)).length =
      min (f.capacity - f.head) destlen := by
    rw [List.length_take, f.length_contents]
    omega
  simp only [fifo8PeekpopBuf, if_neg h0, h₁, Option.bind_eq_bind, Option.bind_some, hlen₁, hn₁,
    if_true, Option.pure_def]
  by_cases hz : min (destlen - min (f.capacity - f.head) destlen) (f.num - min (f.capacity - f.head) destlen) = 0
  · -- the run at the head covers the request
    have hn : min (f.capacity - f.head) destlen = destlen := by omega
    rw [if_neg (not_not.mpr hz)]
    exact ⟨f₁, by rw [hn], by rw [hc₁, hn], hcap₁⟩
  · -- the request wraps: the run at the head ends the buffer, and the rest starts at byte 0
    rw [if_pos hz]
    have hwrap : min (f.capacity - f.head) destlen = f.capacity - f.head := by omega
    have hhead₁ : f₁.head = 0 := by
      rw [hh₁, hwrap, Nat.add_sub_cancel' f.head_lt.le, Nat.mod_self]
    obtain ⟨f₂, h₂, hc₂, -, -, hcap₂⟩ :=
      fifo8PopBufptr_spec f₁ (Nat.pos_of_ne_zero hz) (by rw [hn₁]; omega)
    have hmin : min (f₁.capacity - f₁.head) (min (destlen - min (f.capacity - f.head) destlen)
        (f.num - min (f.capacity - f.head) destlen)) = destlen - (f.capacity - f.head) := by
      rw [hhead₁, hcap₁, hwrap]
      have := f.num_le
      omega
    rw [h₂, hmin, hc₁, hwrap]
    refine ⟨f₂, ?_, ?_, hcap₂.trans hcap₁⟩
    · rw [Option.bind_some, ← List.take_add]
      congr 3
      omega
    · rw [hc₂, hmin, hc₁, hwrap, List.drop_drop]
      congr 1
      omega

/-- A peek copies the same bytes and leaves the FIFO as it is; its second run starts `n₁` bytes
past the head, at the start of the buffer.
Source: `util/fifo8.c` `fifo8_peekpop_buf`
Kind: L -/
theorem fifo8PeekBuf_spec (f : Fifo8) {destlen : ℕ} (hlen : destlen ≤ f.num) :
    fifo8PeekpopBuf f destlen false = some (f.contents.take destlen, f) := by
  by_cases h0 : destlen = 0
  · subst h0
    simp [fifo8PeekpopBuf]
  have h₁ := fifo8PeekBufptr_spec f (Nat.pos_of_ne_zero h0) hlen (Nat.zero_le _)
  simp only [Nat.add_zero, Nat.mod_eq_of_lt f.head_lt] at h₁
  have hle : min (f.capacity - f.head) destlen ≤ f.num := (Nat.min_le_right _ _).trans hlen
  simp only [fifo8PeekpopBuf, if_neg h0, h₁, Option.bind_eq_bind, Option.bind_some, ringView_length,
    Bool.false_eq_true, if_false, Option.pure_def]
  have htake : ∀ k ≤ f.num, ringView f.data f.capacity f.head k = f.contents.take k := by
    intro k hk
    rw [Fifo8.contents, take_ringView, Nat.min_eq_left hk]
  by_cases hz : min (destlen - min (f.capacity - f.head) destlen) f.num = 0
  · -- the run at the head covers the request
    have hn : min (f.capacity - f.head) destlen = destlen := by omega
    rw [if_neg (not_not.mpr hz), hn, htake destlen hlen]
  · -- the request wraps: the second run starts `n₁` bytes in, at byte 0 of the buffer
    rw [if_pos hz]
    have hwrap : min (f.capacity - f.head) destlen = f.capacity - f.head := by omega
    have h₂ := fifo8PeekBufptr_spec f (Nat.pos_of_ne_zero hz) (Nat.min_le_right _ _) hle
    have hzero : (f.head + min (f.capacity - f.head) destlen) % f.capacity = 0 := by
      rw [hwrap, Nat.add_sub_cancel' f.head_lt.le, Nat.mod_self]
    have hmin : min (f.capacity - (f.head + min (f.capacity - f.head) destlen) % f.capacity)
        (min (destlen - min (f.capacity - f.head) destlen) f.num) =
          destlen - min (f.capacity - f.head) destlen := by
      rw [hzero]
      have := f.num_le
      omega
    rw [h₂, hmin, Option.bind_some, ← ringView_add, Nat.add_sub_cancel' (Nat.min_le_right _ _),
      htake destlen hlen]

/-- A request for more bytes than the FIFO holds fails the assertion `max <= num` of its first
call.
Source: `util/fifo8.c` `fifo8_peekpop_buf`
Kind: L -/
theorem fifo8PeekpopBuf_eq_none (f : Fifo8) {destlen : ℕ} (h0 : destlen ≠ 0) (hlen : f.num < destlen)
    (doPop : Bool) : fifo8PeekpopBuf f destlen doPop = none := by
  have hbad : ¬(0 < destlen ∧ destlen ≤ f.num ∧ 0 ≤ f.num) := fun h => absurd h.2.1 (by omega)
  simp only [fifo8PeekpopBuf, if_neg h0, fifo8PeekpopBufptr, if_neg hbad, Option.bind_eq_bind,
    Option.bind_none]

/-- Source: `util/fifo8.c` `fifo8_push_all`. Kind: L -/
theorem fifo8PushAll_eq_some {f f' : Fifo8} {xs : List UInt8} (h : fifo8PushAll f xs = some f') :
    (f.num + xs.length) % 2 ^ 32 ≤ f.capacity ∧ f'.num = (f.num + xs.length) % 2 ^ 32 ∧
      f'.head = f.head ∧ f'.capacity = f.capacity := by
  unfold fifo8PushAll at h
  split_ifs at h with hfit
  cases h
  exact ⟨hfit, rfl, rfl, rfl⟩

/-- Below `2 ^ 31` pushed bytes, a `uint32_t` sum with a count of the buffer does not wrap. -/
theorem Fifo8.add_mod_of_lt (f : Fifo8) {a n : ℕ} (ha : a ≤ f.capacity) (hn : n < 2 ^ 31) :
    (a + n) % 2 ^ 32 = a + n := by
  have := f.capacity_le
  exact Nat.mod_eq_of_lt (by omega)

/-- The `j`-th pushed byte lands `j` places past the tail, around the ring.
Source: `util/fifo8.c` `fifo8_push_all`
Kind: L -/
theorem fifo8PushAll_data_tail {f f' : Fifo8} {xs : List UInt8} (h : fifo8PushAll f xs = some f')
    (hlen : xs.length < 2 ^ 31) {j : ℕ} (hj : j < xs.length) :
    f'.data ((f.head + f.num + j) % f.capacity) = xs[j] := by
  unfold fifo8PushAll at h
  split_ifs at h with hfit
  cases h
  rw [f.add_mod_of_lt f.num_le hlen] at hfit
  have hs := Nat.mod_lt (f.head + f.num) (Nat.zero_lt_of_lt f.head_lt)
  dsimp only
  rw [← Nat.mod_add_mod (f.head + f.num)]
  generalize (f.head + f.num) % f.capacity = s at hs ⊢
  rw [f.add_mod_of_lt hs.le hlen]
  split_ifs with hin
  · rw [Nat.mod_eq_of_lt (by omega), Mem.write_apply_of_mem _ _ _ hj]
  · by_cases hjs : j < f.capacity - s
    · -- before the wrap: the first memcpy
      rw [Nat.mod_eq_of_lt (by omega), Mem.write_apply_of_le _ _ (by simp; omega),
        Mem.write_apply_of_mem _ _ _ (by simp; omega), List.getElem_take]
    · -- past the wrap: the second memcpy, from byte 0
      have hidx : (s + j) % f.capacity = 0 + (j - (f.capacity - s)) := by
        rw [Nat.mod_eq_sub_mod (by omega), Nat.mod_eq_of_lt (by omega)]
        omega
      rw [hidx, Mem.write_apply_of_mem _ _ _ (by simp; omega), List.getElem_drop]
      congr 1
      omega

/-- A byte of the buffer no pushed byte lands on keeps its value.
Source: `util/fifo8.c` `fifo8_push_all`
Kind: L -/
theorem fifo8PushAll_data_frame {f f' : Fifo8} {xs : List UInt8} (h : fifo8PushAll f xs = some f')
    (hlen : xs.length < 2 ^ 31) {x : ℕ} (hx : x < f.capacity)
    (hne : ∀ j < xs.length, x ≠ (f.head + f.num + j) % f.capacity) : f'.data x = f.data x := by
  unfold fifo8PushAll at h
  split_ifs at h with hfit
  cases h
  rw [f.add_mod_of_lt f.num_le hlen] at hfit
  have hs := Nat.mod_lt (f.head + f.num) (Nat.zero_lt_of_lt f.head_lt)
  have hne' : ∀ j < xs.length, x ≠ ((f.head + f.num) % f.capacity + j) % f.capacity := by
    intro j hj
    rw [Nat.mod_add_mod]
    exact hne j hj
  dsimp only
  generalize (f.head + f.num) % f.capacity = s at hs hne' ⊢
  rw [f.add_mod_of_lt hs.le hlen]
  split_ifs with hin
  · by_cases hlo : x < s
    · exact Mem.write_apply_of_lt _ _ hlo
    by_cases hhi : s + xs.length ≤ x
    · exact Mem.write_apply_of_le _ _ hhi
    exfalso
    apply hne' (x - s) (by omega)
    rw [Nat.add_sub_cancel' (by omega), Nat.mod_eq_of_lt hx]
  · by_cases hlow : x < xs.length - (f.capacity - s)
    · -- the wrapped part covers `x`
      exfalso
      apply hne' (f.capacity - s + x) (by omega)
      rw [show s + (f.capacity - s + x) = x + f.capacity by omega, Nat.add_mod_right,
        Nat.mod_eq_of_lt hx]
    rw [Mem.write_apply_of_le _ _ (by simp; omega)]
    by_cases hlo : x < s
    · exact Mem.write_apply_of_lt _ _ hlo
    exfalso
    apply hne' (x - s) (by omega)
    rw [Nat.add_sub_cancel' (by omega), Nat.mod_eq_of_lt hx]

/-- A push of several bytes appends them.
Source: `util/fifo8.c` `fifo8_push_all`
Kind: L -/
theorem fifo8PushAll_contents {f f' : Fifo8} {xs : List UInt8} (h : fifo8PushAll f xs = some f')
    (hlen : xs.length < 2 ^ 31) : f'.contents = f.contents ++ xs ∧ f'.capacity = f.capacity := by
  obtain ⟨hfit, hnum, hhead, hcap⟩ := fifo8PushAll_eq_some h
  rw [f.add_mod_of_lt f.num_le hlen] at hfit hnum
  refine ⟨?_, hcap⟩
  rw [Fifo8.contents, hnum, hhead, hcap, ringView_add]
  congr 1
  · -- the bytes already held are not overwritten
    apply ringView_congr
    intro i hi
    apply fifo8PushAll_data_frame h hlen (Nat.mod_lt _ (Nat.zero_lt_of_lt f.head_lt))
    intro j hj heq
    rw [Nat.add_assoc] at heq
    have := mod_add_inj (c := f.capacity) (by omega) (by omega) heq
    omega
  · -- the pushed bytes follow them
    apply List.ext_getElem (by simp)
    intro j h₁ h₂
    simp only [ringView, List.getElem_ofFn]
    exact fifo8PushAll_data_tail h hlen h₂

/-- Source: `util/fifo8.c` `fifo8_push_all`. Kind: L -/
theorem fifo8PushAll_eq_none {f : Fifo8} {xs : List UInt8} (hlen : xs.length < 2 ^ 31) :
    fifo8PushAll f xs = none ↔ f.capacity < f.num + xs.length := by
  unfold fifo8PushAll
  rw [f.add_mod_of_lt f.num_le hlen]
  split_ifs with hfit <;> simp <;> omega

/-- Source: `util/fifo8.c` `fifo8_peek`. Kind: L -/
theorem fifo8Peek_eq (f : Fifo8) : fifo8Peek f = f.contents.head? := by
  unfold fifo8Peek
  split_ifs with hpos
  · rw [f.contents_cons hpos, List.head?_cons]
  · have hnil : f.contents = [] := List.eq_nil_of_length_eq_zero (by rw [f.length_contents]; omega)
    rw [hnil, List.head?_nil]

/-! ## Runs of calls -/

/-- A call of the `util/fifo8.c` interface, with its arguments.
Source: none: the interface of `util/fifo8.c`
Kind: D -/
inductive Fifo8Op
  | push (data : UInt8)
  | pushAll (data : List UInt8)
  | pop
  | peek
  | popBuf (destlen : ℕ)
  | peekBuf (destlen : ℕ)
  | drop (len : ℕ)
  | reset
  | isEmpty
  | isFull
  | numFree
  | numUsed
  deriving DecidableEq

/-- What a call hands back to its caller.
Source: none: the interface of `util/fifo8.c`
Kind: D -/
inductive Fifo8Ret
  | byte (b : UInt8)
  | bytes (bs : List UInt8)
  | flag (b : Bool)
  | count (n : ℕ)
  deriving DecidableEq

/-- One call: its new FIFO and what it returns (nothing for the calls that return `void`).
Source: none: the interface of `util/fifo8.c`
Kind: D -/
def fifo8Step : Fifo8Op → Fifo8 → Option (Fifo8 × List Fifo8Ret)
  | .push x, f => (fifo8Push f x).map fun f' => (f', [])
  | .pushAll xs, f => (fifo8PushAll f xs).map fun f' => (f', [])
  | .pop, f => (fifo8Pop f).map fun r => (r.2, [.byte r.1])
  | .peek, f => (fifo8Peek f).map fun b => (f, [.byte b])
  | .popBuf n, f => (fifo8PopBuf f n).map fun r => (r.2, [.bytes r.1])
  | .peekBuf n, f => (fifo8PeekBuf f n).map fun r => (r.2, [.bytes r.1])
  | .drop n, f => (fifo8Drop f n).map fun f' => (f', [])
  | .reset, f => some (fifo8Reset f, [])
  | .isEmpty, f => some (f, [.flag (fifo8IsEmpty f)])
  | .isFull, f => some (f, [.flag (fifo8IsFull f)])
  | .numFree, f => some (f, [.count (fifo8NumFree f)])
  | .numUsed, f => some (f, [.count (fifo8NumUsed f)])

/-- The bounded queue of bytes the interface stands for: each call on the list of bytes held,
failing where a call of `fifo8.c` fails its assertion.
Source: none: the specification of `util/fifo8.c`
Kind: D -/
def queueStep (capacity : ℕ) : Fifo8Op → List UInt8 → Option (List UInt8 × List Fifo8Ret)
  | .push x, q => (I2c.fifo8Push capacity q x).map fun q' => (q', [])
  | .pushAll xs, q => if q.length + xs.length ≤ capacity then some (q ++ xs, []) else none
  | .pop, q => (I2c.fifo8Pop q).map fun r => (r.2, [.byte r.1])
  | .peek, q => q.head?.map fun b => (q, [.byte b])
  | .popBuf n, q => if n ≤ q.length then some (q.drop n, [.bytes (q.take n)]) else none
  | .peekBuf n, q => if n ≤ q.length then some (q, [.bytes (q.take n)]) else none
  | .drop n, q => if n ≤ q.length then some (q.drop n, []) else none
  | .reset, _ => some ([], [])
  | .isEmpty, q => some (q, [.flag q.isEmpty])
  | .isFull, q => some (q, [.flag (decide (q.length = capacity))])
  | .numFree, q => some (q, [.count (capacity - q.length)])
  | .numUsed, q => some (q, [.count q.length])

/-- A call none of whose `uint32_t` sums wraps: a `push_all` of fewer than `2 ^ 31` bytes, or any
other call.
Source: `util/fifo8.c` `fifo8_push_all`
Kind: D -/
def Fifo8Op.NoWrap : Fifo8Op → Prop
  | .pushAll xs => xs.length < 2 ^ 31
  | _ => True

instance : DecidablePred Fifo8Op.NoWrap := fun op => by
  cases op <;> unfold Fifo8Op.NoWrap <;> infer_instance

/-- **A push that wraps passes the assertion.** When the FIFO's bytes and the pushed ones come to
`2 ^ 32`, `num + n` is `0` in `uint32_t`: the assertion holds, the FIFO is left holding no byte,
and the same push on the queue fails.
Source: `util/fifo8.c` `fifo8_push_all`
Kind: L -/
theorem fifo8PushAll_wraps {f : Fifo8} {xs : List UInt8} (h : f.num + xs.length = 2 ^ 32) :
    (∃ f', fifo8PushAll f xs = some f' ∧ f'.num = 0) ∧
      queueStep f.capacity (.pushAll xs) f.contents = none := by
  have hcap := f.capacity_le
  constructor
  · unfold fifo8PushAll
    rw [dif_pos (by rw [h]; omega)]
    exact ⟨_, rfl, show (f.num + xs.length) % 2 ^ 32 = 0 by rw [h, Nat.mod_self]⟩
  · rw [queueStep, if_neg (by rw [f.length_contents]; omega)]

/-- Source: `util/fifo8.c` `fifo8_peekpop_buf`. Kind: L -/
theorem fifo8PeekpopBuf_spec (f : Fifo8) {n : ℕ} (hn : n ≤ f.num) (doPop : Bool) :
    ∃ f', fifo8PeekpopBuf f n doPop = some (f.contents.take n, f') ∧
      f'.contents = (if doPop then f.contents.drop n else f.contents) ∧ f'.capacity = f.capacity := by
  cases doPop with
  | true => simpa only [if_true] using fifo8PopBuf_spec f hn
  | false => exact ⟨f, fifo8PeekBuf_spec f hn, rfl, rfl⟩

/-- Source: `util/fifo8.c` `fifo8_peekpop_buf`. Kind: L -/
theorem fifo8PeekpopBuf_capacity {f : Fifo8} {n : ℕ} {doPop : Bool} {r : List UInt8 × Fifo8}
    (h : fifo8PeekpopBuf f n doPop = some r) : r.2.capacity = f.capacity := by
  by_cases hn : n ≤ f.num
  · obtain ⟨f', h', -, hcap⟩ := fifo8PeekpopBuf_spec f hn doPop
    rw [h'] at h
    cases h
    exact hcap
  · rw [fifo8PeekpopBuf_eq_none f (by omega) (by omega)] at h
    cases h

/-- **One call is one call of the queue.** By cases on the call, from the lemma of each function.
Source: `util/fifo8.c`
Kind: L -/
theorem fifo8Step_map (op : Fifo8Op) (hop : op.NoWrap) (f : Fifo8) :
    (fifo8Step op f).map (fun r => (r.1.contents, r.2)) = queueStep f.capacity op f.contents := by
  cases op with
  | push x =>
    cases h : fifo8Push f x with
    | none =>
      have hfull := fifo8Push_eq_none.mp h
      simp [fifo8Step, queueStep, h, I2c.fifo8Push, f.length_contents, Nat.not_lt.mpr hfull]
    | some f' =>
      have hroom : f.num < f.capacity := Nat.lt_of_not_le fun hle => by
        rw [fifo8Push_eq_none.mpr hle] at h; cases h
      simp [fifo8Step, queueStep, h, I2c.fifo8Push, f.length_contents, hroom,
        (fifo8Push_contents h).1]
  | pushAll xs =>
    cases h : fifo8PushAll f xs with
    | none =>
      have hover := (fifo8PushAll_eq_none hop).mp h
      simp [fifo8Step, queueStep, h, f.length_contents, Nat.not_le.mpr hover]
    | some f' =>
      obtain ⟨hfit, -, -, -⟩ := fifo8PushAll_eq_some h
      rw [f.add_mod_of_lt f.num_le hop] at hfit
      simp [fifo8Step, queueStep, h, f.length_contents, hfit, (fifo8PushAll_contents h hop).1]
  | pop =>
    rw [fifo8Step, queueStep, ← fifo8Pop_map, Option.map_map, Option.map_map]
    rfl
  | peek =>
    rw [fifo8Step, queueStep, fifo8Peek_eq, Option.map_map]
    rfl
  | popBuf n =>
    by_cases hn : n ≤ f.num
    · obtain ⟨f', h, hc, -⟩ := fifo8PeekpopBuf_spec f hn true
      simp only [fifo8Step, fifo8PopBuf, h, queueStep, f.length_contents, if_pos hn, hc,
        Option.map_some, if_true]
    · simp only [fifo8Step, fifo8PopBuf,
        fifo8PeekpopBuf_eq_none f (show n ≠ 0 by omega) (show f.num < n by omega), queueStep,
        f.length_contents, if_neg hn, Option.map_none]
  | peekBuf n =>
    by_cases hn : n ≤ f.num
    · simp only [fifo8Step, fifo8PeekBuf, fifo8PeekBuf_spec f hn, queueStep, f.length_contents,
        if_pos hn, Option.map_some]
    · simp only [fifo8Step, fifo8PeekBuf,
        fifo8PeekpopBuf_eq_none f (show n ≠ 0 by omega) (show f.num < n by omega), queueStep,
        f.length_contents, if_neg hn, Option.map_none]
  | drop n =>
    by_cases hn : n ≤ f.num
    · obtain ⟨f', h, hc, -⟩ := fifo8PeekpopBuf_spec f hn true
      have hlen : (f.contents.take n).length = n := by
        rw [List.length_take, f.length_contents, Nat.min_eq_left hn]
      simp only [fifo8Step, fifo8Drop, fifo8PopBuf, h, Option.bind_eq_bind, Option.bind_some, hlen,
        Nat.sub_self, if_true, queueStep, f.length_contents, if_pos hn, hc, Option.map_some]
    · simp only [fifo8Step, fifo8Drop, fifo8PopBuf,
        fifo8PeekpopBuf_eq_none f (show n ≠ 0 by omega) (show f.num < n by omega),
        Option.bind_eq_bind, Option.bind_none, queueStep, f.length_contents, if_neg hn,
        Option.map_none]
  | reset => rfl
  | isEmpty =>
    simp only [fifo8Step, queueStep, fifo8IsEmpty, Option.map_some]
    rw [← f.length_contents]
    generalize f.contents = q
    cases q <;> rfl
  | isFull => simp [fifo8Step, queueStep, fifo8IsFull, f.length_contents]
  | numFree => simp [fifo8Step, queueStep, fifo8NumFree, f.length_contents]
  | numUsed => simp [fifo8Step, queueStep, fifo8NumUsed, f.length_contents]

/-- No call changes the capacity.
Source: `util/fifo8.c`
Kind: L -/
theorem fifo8Step_capacity {op : Fifo8Op} {f : Fifo8} {r : Fifo8 × List Fifo8Ret}
    (h : fifo8Step op f = some r) : r.1.capacity = f.capacity := by
  cases op with
  | push x =>
    obtain ⟨f', h', rfl⟩ := Option.map_eq_some_iff.mp h
    exact (fifo8Push_contents h').2
  | pushAll xs =>
    obtain ⟨f', h', rfl⟩ := Option.map_eq_some_iff.mp h
    exact (fifo8PushAll_eq_some h').2.2.2
  | pop =>
    obtain ⟨p, h', rfl⟩ := Option.map_eq_some_iff.mp h
    unfold fifo8Pop at h'
    split_ifs at h'
    cases h'
    rfl
  | peek =>
    obtain ⟨b, -, rfl⟩ := Option.map_eq_some_iff.mp h
    rfl
  | popBuf n | peekBuf n =>
    obtain ⟨p, h', rfl⟩ := Option.map_eq_some_iff.mp h
    exact fifo8PeekpopBuf_capacity h'
  | drop n =>
    obtain ⟨f', h', rfl⟩ := Option.map_eq_some_iff.mp h
    obtain ⟨⟨b, f₁⟩, hp, h''⟩ := Option.bind_eq_some_iff.mp h'
    dsimp only at h''
    split_ifs at h''
    cases h''
    exact fifo8PeekpopBuf_capacity hp
  | reset | isEmpty | isFull | numFree | numUsed =>
    cases h
    rfl

/-- **The ring buffer refines the bounded queue.** Any sequence of calls whose `push_all`s each
push fewer than `2 ^ 31` bytes fails exactly when the queue's fails, returns the same values,
and leaves the FIFO holding the queue's bytes (`fifo8PushAll_wraps` is what a longer push does).
Source: `util/fifo8.c`
Kind: P -/
theorem fifo8_refines_queue (ops : List Fifo8Op) (hops : ∀ op ∈ ops, op.NoWrap) (f : Fifo8) :
    (tracedRun fifo8Step ops f).map (fun r => (r.1.contents, r.2)) =
      tracedRun (queueStep f.capacity) ops f.contents := by
  refine tracedRun_map_of_abs Fifo8.contents (fun g => g.capacity = f.capacity) Fifo8Op.NoWrap
    ?_ ?_ ops hops f rfl
  · intro op g r hg h
    exact (fifo8Step_capacity h).trans hg
  · intro op g hop hg
    rw [← hg]
    exact fifo8Step_map op hop g

/-- Three bytes pushed on a FIFO of four, one popped, two more pushed around the end of the
buffer, and four taken in two runs. -/
theorem fifo8_refines_queue_wrap_around :
    (tracedRun fifo8Step [.pushAll [1, 2, 3], .pop, .pushAll [4, 5], .popBuf 4]
        (fifo8Create (fun _ => 0) 4 (by decide) (by decide))).map (fun r => (r.1.contents, r.2)) =
      tracedRun (queueStep 4) [.pushAll [1, 2, 3], .pop, .pushAll [4, 5], .popBuf 4] [] :=
  fifo8_refines_queue _ (by decide) _

end QemuAppleSilicon.Qemu
