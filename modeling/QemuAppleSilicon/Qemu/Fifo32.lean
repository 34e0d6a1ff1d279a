import QemuAppleSilicon.Qemu.Fifo8
import QemuAppleSilicon.Lib.Bits32
import QemuAppleSilicon.Ssi.AppleSpi

/-!
# The word FIFO of `include/qemu/fifo32.h`

A `Fifo32` of capacity `c` is a `Fifo8` of `c * 4` bytes. A word goes in as its four bytes, low
byte first: `fifo32_push` pushes `data & 0xff` and shifts `data` right by eight, four times
(`fifo32PushLoop_spec`). It comes out by four pops ored into lanes 0 to 3
(`fifo32Pop_word`, from the library's `or_shiftLeft_bytes`). So the bytes of a FIFO that held the
words `q` are `wordsToBytes q`, and the calls of the header are the calls of a queue of at most
`c` words (`wordQueueStep`): `fifo32Step_rel` proves one call against the queue, and
`fifo32_refines_word_queue` every sequence of calls, with the library's `tracedRun_simulation`.
The list FIFOs of the SPMI and SPI models (`Spmi.fifo32Push`, `Ssi.fifo32Pop`) are that queue's
push and pop.

The counts round up (`DIV_ROUND_UP`) and `fifo32_is_full` asks for fewer than four free bytes;
on a FIFO holding whole words these are the word counts and "no room for a word".
-/

namespace QemuAppleSilicon.Qemu

open QemuAppleSilicon.Lib

/-! ## The state and the interface -/

/-- Source: `include/qemu/fifo32.h` `Fifo32`. Kind: D -/
structure Fifo32 where
  fifo : Fifo8

/-- A FIFO of `capacity` words is one of `capacity * sizeof(uint32_t)` bytes.
Source: `include/qemu/fifo32.h` `fifo32_create`
Kind: D -/
def fifo32Create (data : Mem) (capacity : ℕ) (hpos : 0 < capacity) (hle : capacity * 4 ≤ 2 ^ 31) :
    Fifo32 :=
  ⟨fifo8Create data (capacity * 4) (by omega) hle⟩

/-- `DIV_ROUND_UP(fifo8_num_free(&fifo->fifo), sizeof(uint32_t))`.
Source: `include/qemu/fifo32.h` `fifo32_num_free`
Kind: D -/
def fifo32NumFree (f : Fifo32) : ℕ := (fifo8NumFree f.fifo + 4 - 1) / 4

/-- `DIV_ROUND_UP(fifo8_num_used(&fifo->fifo), sizeof(uint32_t))`.
Source: `include/qemu/fifo32.h` `fifo32_num_used`
Kind: D -/
def fifo32NumUsed (f : Fifo32) : ℕ := (fifo8NumUsed f.fifo + 4 - 1) / 4

/-- The loop of `fifo32_push` with `n` iterations left: push the low byte, shift right by 8.
Source: `include/qemu/fifo32.h` `fifo32_push`
Kind: D -/
def fifo32PushLoop : ℕ → Fifo8 → UInt32 → Option Fifo8
  | 0, f, _ => some f
  | n + 1, f, data => (fifo8Push f (data &&& 0xff).toUInt8).bind fun f => fifo32PushLoop n f (data >>> 8)

/-- `none` where one of the four `fifo8_push` fails its assertion.
Source: `include/qemu/fifo32.h` `fifo32_push`
Kind: D -/
def fifo32Push (f : Fifo32) (data : UInt32) : Option Fifo32 :=
  (fifo32PushLoop 4 f.fifo data).map Fifo32.mk

/-- Source: `include/qemu/fifo32.h` `fifo32_push_all`. Kind: D -/
def fifo32PushAll : Fifo32 → List UInt32 → Option Fifo32
  | f, [] => some f
  | f, v :: vs => (fifo32Push f v).bind fun f => fifo32PushAll f vs

/-- The loop of `fifo32_pop` at index `i` with `n` iterations left:
`ret |= fifo8_pop(&fifo->fifo) << (i * 8)`. The byte is promoted to `int`, so the shift by 24
of a byte from `0x80` on overflows `int`; the model takes the bits the compiler produces.
Source: `include/qemu/fifo32.h` `fifo32_pop`
Kind: D -/
def fifo32PopLoop : ℕ → ℕ → Fifo8 → UInt32 → Option (UInt32 × Fifo8)
  | _, 0, f, ret => some (ret, f)
  | i, n + 1, f, ret =>
    (fifo8Pop f).bind fun r => fifo32PopLoop (i + 1) n r.2 (ret ||| r.1.toUInt32 <<< (i * 8).toUInt32)

/-- `none` where one of the four `fifo8_pop` fails its assertion.
Source: `include/qemu/fifo32.h` `fifo32_pop`
Kind: D -/
def fifo32Pop (f : Fifo32) : Option (UInt32 × Fifo32) :=
  (fifo32PopLoop 0 4 f.fifo 0).map fun r => (r.1, ⟨r.2⟩)

/-- Source: `include/qemu/fifo32.h` `fifo32_reset`. Kind: D -/
def fifo32Reset (f : Fifo32) : Fifo32 := ⟨fifo8Reset f.fifo⟩

/-- Source: `include/qemu/fifo32.h` `fifo32_is_empty`. Kind: D -/
def fifo32IsEmpty (f : Fifo32) : Bool := fifo8IsEmpty f.fifo

/-- Source: `include/qemu/fifo32.h` `fifo32_is_full`. Kind: D -/
def fifo32IsFull (f : Fifo32) : Bool := fifo8NumFree f.fifo < 4

/-! ## A word in, a word out -/

theorem toUInt8_and_byteMask (data : UInt32) : (data &&& 0xff).toUInt8 = UInt8.ofNat data.toNat := by
  apply UInt8.toNat_inj.mp
  have hmask : data.toNat % 256 &&& 2 ^ 8 - 1 = data.toNat % 256 := by
    rw [Nat.and_two_pow_sub_one_eq_mod, Nat.mod_mod]
  simpa [UInt32.toNat_toUInt8] using hmask

theorem toNat_shiftRight_eight (data : UInt32) : (data >>> 8).toNat = data.toNat / 256 := by
  rw [UInt32.toNat_shiftRight, show (8 : UInt32).toNat % 32 = 8 from rfl, Nat.shiftRight_eq_div_pow]

/-- `n` iterations of the push loop with room for them push the `n` low bytes of the word, low
byte first. By induction on `n`, from the spec of `fifo8_push`.
Source: `include/qemu/fifo32.h` `fifo32_push`
Kind: L -/
theorem fifo32PushLoop_spec (n : ℕ) :
    ∀ (f : Fifo8) (data : UInt32), f.num + n ≤ f.capacity →
      ∃ f', fifo32PushLoop n f data = some f' ∧ f'.contents = f.contents ++ leBytes data.toNat n ∧
        f'.capacity = f.capacity := by
  induction n with
  | zero =>
    intro f data _
    exact ⟨f, rfl, by simp [leBytes], rfl⟩
  | succ n ih =>
    intro f data hroom
    obtain ⟨f₁, h₁⟩ : ∃ f₁, fifo8Push f (data &&& 0xff).toUInt8 = some f₁ :=
      Option.ne_none_iff_exists'.mp fun hnone => by
        have := fifo8Push_eq_none.mp hnone
        omega
    obtain ⟨hc₁, hcap₁⟩ := fifo8Push_contents h₁
    have hnum₁ : f₁.num = f.num + 1 := by
      rw [← f₁.length_contents, hc₁, List.length_append, f.length_contents, List.length_singleton]
    obtain ⟨f₂, h₂, hc₂, hcap₂⟩ := ih f₁ (data >>> 8) (by omega)
    refine ⟨f₂, by rw [fifo32PushLoop, h₁, Option.bind_some, h₂], ?_, hcap₂.trans hcap₁⟩
    rw [hc₂, hc₁, toNat_shiftRight_eight, toUInt8_and_byteMask, leBytes, List.append_assoc]
    rfl

/-- The push loop fails when the bytes do not fit.
Source: `include/qemu/fifo32.h` `fifo32_push`
Kind: L -/
theorem fifo32PushLoop_eq_none (n : ℕ) :
    ∀ (f : Fifo8) (data : UInt32), f.capacity < f.num + n → fifo32PushLoop n f data = none := by
  induction n with
  | zero =>
    intro f data hover
    have := f.num_le
    omega
  | succ n ih =>
    intro f data hover
    cases h₁ : fifo8Push f (data &&& 0xff).toUInt8 with
    | none => rw [fifo32PushLoop, h₁, Option.bind_none]
    | some f₁ =>
      obtain ⟨hc₁, hcap₁⟩ := fifo8Push_contents h₁
      have hnum₁ : f₁.num = f.num + 1 := by
        rw [← f₁.length_contents, hc₁, List.length_append, f.length_contents, List.length_singleton]
      rw [fifo32PushLoop, h₁, Option.bind_some, ih f₁ (data >>> 8) (by omega)]

/-- The pop loop fails when the FIFO holds fewer bytes than it has iterations left.
Source: `include/qemu/fifo32.h` `fifo32_pop`
Kind: L -/
theorem fifo32PopLoop_eq_none (n : ℕ) :
    ∀ (i : ℕ) (f : Fifo8) (ret : UInt32), f.num < n → fifo32PopLoop i n f ret = none := by
  induction n with
  | zero =>
    intro i f ret h
    omega
  | succ n ih =>
    intro i f ret h
    cases hnil : f.contents with
    | nil =>
      have hpop := fifo8Pop_map f
      rw [hnil] at hpop
      rw [fifo32PopLoop, Option.map_eq_none_iff.mp hpop, Option.bind_none]
    | cons b rest =>
      obtain ⟨f₁, h₁, hc₁, -⟩ := fifo8Pop_cons hnil
      have hnum₁ : f₁.num + 1 = f.num := by
        rw [← f₁.length_contents, ← f.length_contents, hc₁, hnil, List.length_cons]
      rw [fifo32PopLoop, h₁, Option.bind_some, ih _ f₁ _ (by omega)]

/-- **A pop returns the word at the head.** The four pops take its four bytes, and ored into
their lanes they make the word again.
Source: `include/qemu/fifo32.h` `fifo32_pop`
Kind: L -/
theorem fifo32Pop_word {f : Fifo32} {w : UInt32} {q : List UInt32}
    (h : f.fifo.contents = wordsToBytes (w :: q)) :
    ∃ f', fifo32Pop f = some (w, f') ∧ f'.fifo.contents = wordsToBytes q ∧
      f'.fifo.capacity = f.fifo.capacity := by
  have hbytes : f.fifo.contents = UInt8.ofNat w.toNat :: UInt8.ofNat (w.toNat / 256) ::
      UInt8.ofNat (w.toNat / 256 / 256) :: UInt8.ofNat (w.toNat / 256 / 256 / 256) :: wordsToBytes q := by
    rw [h]
    rfl
  obtain ⟨f₁, h₁, hc₁, hk₁⟩ := fifo8Pop_cons hbytes
  obtain ⟨f₂, h₂, hc₂, hk₂⟩ := fifo8Pop_cons hc₁
  obtain ⟨f₃, h₃, hc₃, hk₃⟩ := fifo8Pop_cons hc₂
  obtain ⟨f₄, h₄, hc₄, hk₄⟩ := fifo8Pop_cons hc₃
  -- the four bytes ored into their lanes are the little-endian value of `leBytes w.toNat 4`
  have hword := or_shiftLeft_bytes (UInt8.ofNat w.toNat) (UInt8.ofNat (w.toNat / 256))
    (UInt8.ofNat (w.toNat / 256 / 256)) (UInt8.ofNat (w.toNat / 256 / 256 / 256))
  rw [show [UInt8.ofNat w.toNat, UInt8.ofNat (w.toNat / 256), UInt8.ofNat (w.toNat / 256 / 256),
      UInt8.ofNat (w.toNat / 256 / 256 / 256)] = leBytes w.toNat 4 from rfl,
    leValue_leBytes_of_lt (by simpa using w.toNat_lt), UInt32.ofNat_toNat] at hword
  refine ⟨⟨f₄⟩, ?_, hc₄, by rw [hk₄, hk₃, hk₂, hk₁]⟩
  simp only [fifo32Pop, fifo32PopLoop, h₁, h₂, h₃, h₄, Option.bind_some, Option.map_some]
  exact congrArg (fun v => some (v, _)) hword

/-! ## Runs of calls -/

/-- A call of the `include/qemu/fifo32.h` interface, with its arguments.
Source: none: the interface of `include/qemu/fifo32.h`
Kind: D -/
inductive Fifo32Op
  | push (data : UInt32)
  | pushAll (data : List UInt32)
  | pop
  | reset
  | isEmpty
  | isFull
  | numFree
  | numUsed
  deriving DecidableEq

/-- What a call hands back to its caller.
Source: none: the interface of `include/qemu/fifo32.h`
Kind: D -/
inductive Fifo32Ret
  | word (w : UInt32)
  | flag (b : Bool)
  | count (n : ℕ)
  deriving DecidableEq

/-- One call: its new FIFO and what it returns.
Source: none: the interface of `include/qemu/fifo32.h`
Kind: D -/
def fifo32Step : Fifo32Op → Fifo32 → Option (Fifo32 × List Fifo32Ret)
  | .push v, f => (fifo32Push f v).map fun f' => (f', [])
  | .pushAll vs, f => (fifo32PushAll f vs).map fun f' => (f', [])
  | .pop, f => (fifo32Pop f).map fun r => (r.2, [.word r.1])
  | .reset, f => some (fifo32Reset f, [])
  | .isEmpty, f => some (f, [.flag (fifo32IsEmpty f)])
  | .isFull, f => some (f, [.flag (fifo32IsFull f)])
  | .numFree, f => some (f, [.count (fifo32NumFree f)])
  | .numUsed, f => some (f, [.count (fifo32NumUsed f)])

/-- The queue of at most `capacity` words the interface stands for.
Source: none: the specification of `include/qemu/fifo32.h`
Kind: D -/
def wordQueueStep (capacity : ℕ) : Fifo32Op → List UInt32 → Option (List UInt32 × List Fifo32Ret)
  | .push v, q => (Spmi.fifo32Push capacity q v).map fun q' => (q', [])
  | .pushAll vs, q => if q.length + vs.length ≤ capacity then some (q ++ vs, []) else none
  | .pop, q => (Ssi.fifo32Pop q).map fun r => (r.2, [.word r.1])
  | .reset, _ => some ([], [])
  | .isEmpty, q => some (q, [.flag q.isEmpty])
  | .isFull, q => some (q, [.flag (decide (q.length = capacity))])
  | .numFree, q => some (q, [.count (capacity - q.length)])
  | .numUsed, q => some (q, [.count q.length])

/-- A `Fifo32` of capacity `capacity` holding the words `q`.
Source: none: the abstraction of `Fifo32`
Kind: D -/
def Fifo32.Holds (capacity : ℕ) (f : Fifo32) (q : List UInt32) : Prop :=
  f.fifo.contents = wordsToBytes q ∧ f.fifo.capacity = capacity * 4

section Holds

variable {c : ℕ} {f : Fifo32} {q : List UInt32}

theorem Fifo32.Holds.num_eq (h : f.Holds c q) : f.fifo.num = 4 * q.length := by
  rw [← f.fifo.length_contents, h.1, wordsToBytes_length]

theorem Fifo32.Holds.length_le (h : f.Holds c q) : q.length ≤ c := by
  have hle := f.fifo.num_le
  rw [h.num_eq, h.2] at hle
  omega

/-- A push is the queue's push.
Source: `include/qemu/fifo32.h` `fifo32_push`
Kind: L -/
theorem fifo32Push_rel (h : f.Holds c q) (v : UInt32) :
    Option.Rel (Fifo32.Holds c) (fifo32Push f v) (Spmi.fifo32Push c q v) := by
  have hnum := h.num_eq
  by_cases hroom : q.length < c
  · obtain ⟨f', h', hc', hcap'⟩ := fifo32PushLoop_spec 4 f.fifo v (by rw [hnum, h.2]; omega)
    rw [fifo32Push, h', Option.map_some, Spmi.fifo32Push, if_pos hroom]
    refine Option.Rel.some ⟨?_, hcap'.trans h.2⟩
    rw [hc', h.1, wordsToBytes, wordsToBytes, List.flatMap_append, List.flatMap_singleton]
  · rw [fifo32Push, fifo32PushLoop_eq_none 4 f.fifo v (by rw [hnum, h.2]; omega), Option.map_none,
      Spmi.fifo32Push, if_neg hroom]
    exact Option.Rel.none

/-- A push of several words is the queue's, one word after another. By induction on the words,
from `fifo32Push_rel`.
Source: `include/qemu/fifo32.h` `fifo32_push_all`
Kind: L -/
theorem fifo32PushAll_rel (vs : List UInt32) :
    ∀ (f : Fifo32) (q : List UInt32), f.Holds c q →
      Option.Rel (Fifo32.Holds c) (fifo32PushAll f vs)
        (if q.length + vs.length ≤ c then some (q ++ vs) else none) := by
  induction vs with
  | nil =>
    intro f q h
    rw [fifo32PushAll, if_pos (by simpa using h.length_le), List.append_nil]
    exact Option.Rel.some h
  | cons v vs ih =>
    intro f q h
    have hpush := fifo32Push_rel h v
    rw [fifo32PushAll]
    cases hp : fifo32Push f v with
    | none =>
      -- the first push fails: the queue had no room for `v`
      rw [hp] at hpush
      have hfull : ¬ q.length < c := by
        intro hroom
        rw [Spmi.fifo32Push, if_pos hroom] at hpush
        cases hpush
      rw [Option.bind_none, if_neg (by simp only [List.length_cons]; omega)]
      exact Option.Rel.none
    | some f₁ =>
      rw [hp] at hpush
      have hroom : q.length < c := by
        by_contra hfull
        rw [Spmi.fifo32Push, if_neg hfull] at hpush
        cases hpush
      rw [Spmi.fifo32Push, if_pos hroom] at hpush
      have h₁ := Option.rel_some_some.mp hpush
      rw [Option.bind_some]
      convert ih f₁ (q ++ [v]) h₁ using 2
      · simp only [List.length_append, List.length_cons, List.length_nil]
        omega
      · rw [List.append_assoc, List.singleton_append]

/-- A pop is the queue's pop.
Source: `include/qemu/fifo32.h` `fifo32_pop`
Kind: L -/
theorem fifo32Pop_rel (h : f.Holds c q) :
    Option.Rel (fun r r' => r.2.Holds c r'.2 ∧ r.1 = r'.1) (fifo32Pop f) (Ssi.fifo32Pop q) := by
  cases q with
  | nil =>
    have hnum := h.num_eq
    rw [fifo32Pop, fifo32PopLoop_eq_none 4 0 f.fifo 0 (by simp only [List.length_nil] at hnum; omega)]
    exact Option.Rel.none
  | cons w q =>
    obtain ⟨f', h', hc', hcap'⟩ := fifo32Pop_word h.1
    rw [h']
    exact Option.Rel.some ⟨⟨hc', hcap'.trans h.2⟩, rfl⟩

/-- **One call is one call of the word queue.** By cases on the call.
Source: `include/qemu/fifo32.h`
Kind: L -/
theorem fifo32Step_rel (op : Fifo32Op) (h : f.Holds c q) :
    Option.Rel (fun r r' => r.1.Holds c r'.1 ∧ r.2 = r'.2) (fifo32Step op f) (wordQueueStep c op q) := by
  have hnum := h.num_eq
  have hlen := h.length_le
  cases op with
  | push v =>
    exact optionRel_map (fifo32Push_rel h v) fun a b hab => ⟨hab, rfl⟩
  | pushAll vs =>
    have hspec : wordQueueStep c (.pushAll vs) q =
        (if q.length + vs.length ≤ c then some (q ++ vs) else none).map fun q' => (q', []) := by
      simp only [wordQueueStep]
      split_ifs <;> rfl
    rw [hspec]
    exact optionRel_map (fifo32PushAll_rel vs f q h) fun a b hab => ⟨hab, rfl⟩
  | pop =>
    exact optionRel_map (fifo32Pop_rel h) fun a b hab => ⟨hab.1, by rw [hab.2]⟩
  | reset =>
    exact Option.Rel.some ⟨⟨rfl, h.2⟩, rfl⟩
  | isEmpty =>
    refine Option.Rel.some ⟨h, ?_⟩
    simp only [fifo32IsEmpty, fifo8IsEmpty, hnum]
    cases q <;> simp
  | isFull =>
    refine Option.Rel.some ⟨h, ?_⟩
    simp only [fifo32IsFull, fifo8NumFree, hnum, h.2, List.cons.injEq, Fifo32Ret.flag.injEq,
      and_true]
    exact decide_eq_decide.mpr (by omega)
  | numFree =>
    refine Option.Rel.some ⟨h, ?_⟩
    simp only [fifo32NumFree, fifo8NumFree, hnum, h.2, List.cons.injEq, Fifo32Ret.count.injEq,
      and_true]
    omega
  | numUsed =>
    refine Option.Rel.some ⟨h, ?_⟩
    simp only [fifo32NumUsed, fifo8NumUsed, hnum, List.cons.injEq, Fifo32Ret.count.injEq, and_true]
    omega

end Holds

/-- **The word FIFO refines the word queue.** From a FIFO holding the words `q`, any sequence of
calls fails exactly when the queue's fails, returns the same values, and leaves the FIFO holding
the queue's words.
Source: `include/qemu/fifo32.h`
Kind: P -/
theorem fifo32_refines_word_queue (c : ℕ) (ops : List Fifo32Op) (f : Fifo32) (q : List UInt32)
    (h : f.Holds c q) :
    Option.Rel (fun r r' => r.1.Holds c r'.1 ∧ r.2 = r'.2)
      (tracedRun fifo32Step ops f) (tracedRun (wordQueueStep c) ops q) :=
  tracedRun_simulation (Fifo32.Holds c) (fun op _ _ hR => fifo32Step_rel op hR) ops f q h

/-- A FIFO of sixteen words just created holds no word; a push and a pop on it are the queue's.
Source: `include/qemu/fifo32.h`
Kind: L -/
theorem fifo32_refines_word_queue_created :
    Option.Rel (fun r r' => r.1.Holds 16 r'.1 ∧ r.2 = r'.2)
      (tracedRun fifo32Step [.push 0x12345678, .pop] (fifo32Create (fun _ => 0) 16 (by decide) (by decide)))
      (tracedRun (wordQueueStep 16) [.push 0x12345678, .pop] []) :=
  fifo32_refines_word_queue 16 _ _ [] ⟨rfl, rfl⟩

end QemuAppleSilicon.Qemu
