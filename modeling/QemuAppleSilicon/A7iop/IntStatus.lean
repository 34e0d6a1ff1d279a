import QemuAppleSilicon.Lib.Bits32
import QemuAppleSilicon.Lib.TracedRun

/-!
# The interrupt-status queue of a v4 A7IOP (`hw/misc/apple-silicon/a7iop`)

The SEP models push interrupt statuses onto the IOP mailbox's `interrupt_status` queue; the
guest reads them one at a time through `REG_INTERRUPT_STATUS`, and enables or disables the AKF
interrupts (`0x1xxxx` statuses) through the four words of `interrupts_enabled`. Each read pops
the least enabled status, in the order of the queue among equals.

Only this part of the mailbox is modelled here (`AkfInterrupts`); the inboxes and the masks
live in `Mailbox`, and the read takes the flags `apple_a7iop_mailbox_update_irq_status` computes
from them as an input (`MailboxIrqFlags`).

* `LowestInv` is the invariant of the `QTAILQ_FOREACH` of `apple_a7iop_interrupt_status_pop`:
  after a prefix of the queue, the entry kept is the first of least status among the enabled
  ones, or there is none and no entry of the prefix is enabled.
* `appleA7iopInterruptStatusPop_spec` — one pop meets `PopSpec`, stated over the multiset of the
  queue: the least enabled status and one occurrence of it removed, or `0` and nothing removed.
* `akfStep_spec` — a push, an enable or disable write and a status read are each a step of
  `AkfSpecStep`, the queue as a multiset with the value each read returns.
* `interrupt_status_pop_lowest` — by the library's refinement rule, every run is a run of
  `AkfSpecStep`: each read returns what `REG_INTERRUPT_STATUS` makes of the least enabled status
  the pushes before it have queued and the reads before it have not taken.
-/

namespace QemuAppleSilicon.A7iop

open QemuAppleSilicon.Lib

/-! ## Enabled statuses -/

/-- The word of `interrupts_enabled` that holds interrupt `status & 0x7f`: `interrupt / 32`.
Source: `hw/misc/apple-silicon/a7iop/mailbox/core.c` `is_interrupt_enabled`
Kind: D -/
def interruptWord (status : UInt32) : Fin 4 :=
  ⟨(status &&& 0x7f).toNat / 32, by
    have h : (status &&& 0x7f).toNat ≤ 0x7f := by
      rw [UInt32.toNat_and]
      exact Nat.and_le_right
    omega⟩

/-- `is_interrupt_enabled(s, status)`.
Source: `hw/misc/apple-silicon/a7iop/mailbox/core.c` `is_interrupt_enabled`
Kind: D -/
def isInterruptEnabled (interruptsEnabled : Fin 4 → UInt32) (status : UInt32) : Bool :=
  if status &&& 0xf0000 = 0x10000 then
    let interrupt := status &&& 0x7f
    interruptsEnabled (interruptWord status) &&& ((1 : UInt32) <<< (interrupt % 32)) != 0
  else true

/-- A status is enabled when it is not an AKF interrupt (`(status & 0xf0000) != 0x10000`), or
when bit `status & 0x7f` of the 128 bits of `interrupts_enabled` is set.
Source: `hw/misc/apple-silicon/a7iop/mailbox/core.c` `is_interrupt_enabled`
Kind: D -/
def Enabled (interruptsEnabled : Fin 4 → UInt32) (status : UInt32) : Prop :=
  status &&& 0xf0000 = 0x10000 →
    Bit (interruptsEnabled (interruptWord status)) ((status &&& 0x7f).toNat % 32)

/-- **`is_interrupt_enabled` decides `Enabled`.**
Source: `hw/misc/apple-silicon/a7iop/mailbox/core.c` `is_interrupt_enabled`
Kind: L -/
theorem isInterruptEnabled_iff (interruptsEnabled : Fin 4 → UInt32) (status : UInt32) :
    isInterruptEnabled interruptsEnabled status = true ↔ Enabled interruptsEnabled status := by
  -- the C shift `1 << (interrupt % 32)` is the one at position `interrupt % 32`
  have hshift : (status &&& 0x7f) % 32 = UInt32.ofNat ((status &&& 0x7f).toNat % 32) := by
    apply UInt32.toNat_inj.mp
    rw [UInt32.toNat_mod, UInt32.toNat_ofNat']
    simp only [UInt32.reduceToNat]
    omega
  unfold isInterruptEnabled Enabled
  split_ifs with hakf
  · dsimp only
    rw [hshift, bne_iff_ne, Ne, and_one_shiftLeft_eq_zero (Nat.mod_lt _ (by decide)), not_not]
    exact ⟨fun h _ => h, fun h => h hakf⟩
  · exact ⟨fun _ h => absurd h hakf, fun _ => rfl⟩

/-! ## The queue -/

/-- The interrupt-status part of an IOP mailbox.
Source: `include/hw/misc/apple-silicon/a7iop/mailbox/core.h` `AppleA7IOPMailbox`
Kind: D -/
structure AkfInterrupts where
  /-- `interrupt_status`, oldest first. -/
  interruptStatus : List UInt32
  interruptsEnabled : Fin 4 → UInt32

/-- `apple_a7iop_interrupt_status_push(s, status)`: `QTAILQ_INSERT_TAIL`.
Source: `hw/misc/apple-silicon/a7iop/mailbox/core.c` `apple_a7iop_interrupt_status_push`
Kind: D -/
def appleA7iopInterruptStatusPush (m : AkfInterrupts) (status : UInt32) : AkfInterrupts :=
  { m with interruptStatus := m.interruptStatus ++ [status] }

/-- One turn of the `QTAILQ_FOREACH` of `apple_a7iop_interrupt_status_pop` at entry `i`: an
enabled entry is kept when there is none yet or when its status is strictly less.
Source: `hw/misc/apple-silicon/a7iop/mailbox/core.c` `apple_a7iop_interrupt_status_pop`
Kind: D -/
def lowestStep (interruptsEnabled : Fin 4 → UInt32) (lowest : Option (ℕ × UInt32)) (i : ℕ)
    (status : UInt32) : Option (ℕ × UInt32) :=
  if isInterruptEnabled interruptsEnabled status then
    match lowest with
    | none => some (i, status)
    | some (j, l) => if status < l then some (i, status) else some (j, l)
  else lowest

/-- The `QTAILQ_FOREACH` of `apple_a7iop_interrupt_status_pop` from entry `i` on: the position
and status of `lowest_msg`.
Source: `hw/misc/apple-silicon/a7iop/mailbox/core.c` `apple_a7iop_interrupt_status_pop`
Kind: D -/
def lowestMsg (interruptsEnabled : Fin 4 → UInt32) :
    List UInt32 → ℕ → Option (ℕ × UInt32) → Option (ℕ × UInt32)
  | [], _, lowest => lowest
  | status :: q, i, lowest => lowestMsg interruptsEnabled q (i + 1) (lowestStep interruptsEnabled lowest i status)

/-- `apple_a7iop_interrupt_status_pop(s)`: `lowest_msg` removed and returned, or `0`.
Source: `hw/misc/apple-silicon/a7iop/mailbox/core.c` `apple_a7iop_interrupt_status_pop`
Kind: D -/
def appleA7iopInterruptStatusPop (m : AkfInterrupts) : UInt32 × AkfInterrupts :=
  match lowestMsg m.interruptsEnabled m.interruptStatus 0 none with
  | none => (0, m)
  | some (i, status) => (status, { m with interruptStatus := m.interruptStatus.eraseIdx i })

/-- `apple_mbox_interrupt_status_empty(s)`: no pending status is enabled.
Source: `hw/misc/apple-silicon/a7iop/mailbox/core.c` `apple_mbox_interrupt_status_empty`
Kind: D -/
def appleMboxInterruptStatusEmpty (m : AkfInterrupts) : Bool :=
  m.interruptStatus.all fun status => !isInterruptEnabled m.interruptsEnabled status

/-! ## The loop of the pop -/

/-- The invariant of the pop's loop after the prefix `pre` of the queue: with no entry kept, no
entry of `pre` is enabled; with entry `j` of status `l` kept, it is enabled, no enabled entry of
`pre` is less, and no entry before `j` has status `l`. -/
def LowestInv (interruptsEnabled : Fin 4 → UInt32) (pre : List UInt32) :
    Option (ℕ × UInt32) → Prop
  | none => ∀ x ∈ pre, isInterruptEnabled interruptsEnabled x = false
  | some (j, l) => pre[j]? = some l ∧ isInterruptEnabled interruptsEnabled l = true ∧
      (∀ y ∈ pre, isInterruptEnabled interruptsEnabled y = true → l ≤ y) ∧
      ∀ k < j, pre[k]? ≠ some l

section Loop

variable {interruptsEnabled : Fin 4 → UInt32}

/-- **The step lemma of the pop's loop.**
Source: `hw/misc/apple-silicon/a7iop/mailbox/core.c` `apple_a7iop_interrupt_status_pop`
Kind: L -/
theorem lowestInv_lowestStep {pre : List UInt32} {lowest : Option (ℕ × UInt32)}
    (h : LowestInv interruptsEnabled pre lowest) (status : UInt32) :
    LowestInv interruptsEnabled (pre ++ [status])
      (lowestStep interruptsEnabled lowest pre.length status) := by
  have hlast : (pre ++ [status])[pre.length]? = some status := by simp
  have hold : ∀ k < pre.length, (pre ++ [status])[k]? = pre[k]? :=
    fun k hk => List.getElem?_append_left hk
  have hmem : ∀ {y}, y ∈ pre ++ [status] → y ∈ pre ∨ y = status := by
    intro y hy
    simpa only [List.mem_append, List.mem_singleton] using hy
  unfold lowestStep
  by_cases hen : isInterruptEnabled interruptsEnabled status = true
  · rw [if_pos hen]
    cases lowest with
    | none =>
      -- the first enabled entry is kept
      refine ⟨hlast, hen, ?_, ?_⟩
      · intro y hy hyen
        rcases hmem hy with hy | rfl
        · rw [h y hy] at hyen
          cases hyen
        · exact UInt32.le_refl y
      · intro k hk hkeq
        rw [hold k hk] at hkeq
        rw [h status (List.mem_of_getElem? hkeq)] at hen
        cases hen
    | some jl =>
      obtain ⟨j, l⟩ := jl
      obtain ⟨hj, hl, hmin, hfirst⟩ := h
      have hjlt : j < pre.length := (List.getElem?_eq_some_iff.mp hj).1
      dsimp only
      split_ifs with hlt
      · -- a strictly less entry takes over
        refine ⟨hlast, hen, ?_, ?_⟩
        · intro y hy hyen
          rcases hmem hy with hy | rfl
          · exact UInt32.le_of_lt (UInt32.lt_of_lt_of_le hlt (hmin y hy hyen))
          · exact UInt32.le_refl y
        · intro k hk hkeq
          rw [hold k hk] at hkeq
          exact absurd hlt (UInt32.not_lt.mpr (hmin status (List.mem_of_getElem? hkeq) hen))
      · refine ⟨by rw [hold j hjlt]; exact hj, hl, ?_, ?_⟩
        · intro y hy hyen
          rcases hmem hy with hy | rfl
          · exact hmin y hy hyen
          · exact UInt32.not_lt.mp hlt
        · intro k hk
          rw [hold k (by omega)]
          exact hfirst k hk
  · rw [if_neg hen]
    rw [Bool.not_eq_true] at hen
    cases lowest with
    | none =>
      intro x hx
      rcases hmem hx with hx | rfl
      · exact h x hx
      · exact hen
    | some jl =>
      obtain ⟨j, l⟩ := jl
      obtain ⟨hj, hl, hmin, hfirst⟩ := h
      have hjlt : j < pre.length := (List.getElem?_eq_some_iff.mp hj).1
      refine ⟨by rw [hold j hjlt]; exact hj, hl, ?_, ?_⟩
      · intro y hy hyen
        rcases hmem hy with hy | rfl
        · exact hmin y hy hyen
        · rw [hen] at hyen
          cases hyen
      · intro k hk
        rw [hold k (by omega)]
        exact hfirst k hk

/-- **The run lemma of the pop's loop**: from entry `pre.length` on, the loop ends with the
invariant over the whole queue. By induction on the rest of the queue.
Source: `hw/misc/apple-silicon/a7iop/mailbox/core.c` `apple_a7iop_interrupt_status_pop`
Kind: L -/
theorem lowestInv_lowestMsg (q : List UInt32) :
    ∀ (pre : List UInt32) (lowest : Option (ℕ × UInt32)), LowestInv interruptsEnabled pre lowest →
      LowestInv interruptsEnabled (pre ++ q) (lowestMsg interruptsEnabled q pre.length lowest) := by
  induction q with
  | nil =>
    intro pre lowest h
    simpa only [List.append_nil, lowestMsg] using h
  | cons status q ih =>
    intro pre lowest h
    have hstep := ih (pre ++ [status]) _ (lowestInv_lowestStep h status)
    rw [List.length_append, List.length_singleton, List.append_assoc, List.singleton_append] at hstep
    exact hstep

/-- The loop over the whole queue, from no entry kept.
Source: `hw/misc/apple-silicon/a7iop/mailbox/core.c` `apple_a7iop_interrupt_status_pop`
Kind: L -/
theorem lowestInv_lowestMsg_zero (q : List UInt32) :
    LowestInv interruptsEnabled q (lowestMsg interruptsEnabled q 0 none) :=
  lowestInv_lowestMsg q [] none fun _ h => absurd h List.not_mem_nil

/-- The entry kept is the first occurrence of its status, so removing it is `List.erase`. -/
theorem eraseIdx_eq_erase {q : List UInt32} {j : ℕ} {l : UInt32} (hj : q[j]? = some l)
    (hfirst : ∀ k < j, q[k]? ≠ some l) : q.eraseIdx j = q.erase l := by
  have hidx : q.idxOf? l = some j := by
    obtain ⟨hlt, hget⟩ := List.getElem?_eq_some_iff.mp hj
    refine List.idxOf?_eq_some_iff.mpr ⟨hlt, hget, fun k hk hkeq => hfirst k hk ?_⟩
    rw [List.getElem?_eq_getElem (by omega), hkeq]
  rw [List.erase_eq_eraseIdx, hidx]

end Loop

/-! ## One pop -/

/-- What a pop should do to the pending statuses `p`, a multiset (their order in the queue only
breaks ties): return the least enabled one and leave `q`, `p` with one occurrence of it removed;
and return `0` and leave `p` as it is when no pending status is enabled.
Source: `hw/misc/apple-silicon/a7iop/mailbox/core.c` `apple_a7iop_interrupt_status_pop`
Kind: D -/
structure PopSpec (interruptsEnabled : Fin 4 → UInt32) (p : Multiset UInt32) (ret : UInt32)
    (q : Multiset UInt32) : Prop where
  found : (∃ x ∈ p, Enabled interruptsEnabled x) →
    ret ∈ p ∧ Enabled interruptsEnabled ret ∧
      (∀ y ∈ p, Enabled interruptsEnabled y → ret ≤ y) ∧ q = p.erase ret
  none : (∀ x ∈ p, ¬ Enabled interruptsEnabled x) → ret = 0 ∧ q = p

/-- **`apple_a7iop_interrupt_status_pop` meets its spec.**
Source: `hw/misc/apple-silicon/a7iop/mailbox/core.c` `apple_a7iop_interrupt_status_pop`
Kind: L -/
theorem appleA7iopInterruptStatusPop_spec (m : AkfInterrupts) :
    PopSpec m.interruptsEnabled m.interruptStatus (appleA7iopInterruptStatusPop m).1
      (appleA7iopInterruptStatusPop m).2.interruptStatus := by
  have hinv : LowestInv m.interruptsEnabled m.interruptStatus
      (lowestMsg m.interruptsEnabled m.interruptStatus 0 none) :=
    lowestInv_lowestMsg_zero m.interruptStatus
  unfold appleA7iopInterruptStatusPop
  cases hres : lowestMsg m.interruptsEnabled m.interruptStatus 0 none with
  | none =>
    rw [hres] at hinv
    refine ⟨?_, fun _ => ⟨rfl, rfl⟩⟩
    rintro ⟨x, hx, hen⟩
    rw [← isInterruptEnabled_iff, hinv x (Multiset.mem_coe.mp hx)] at hen
    cases hen
  | some jl =>
    obtain ⟨j, l⟩ := jl
    rw [hres] at hinv
    obtain ⟨hj, hl, hmin, hfirst⟩ := hinv
    have hmem : l ∈ m.interruptStatus := List.mem_of_getElem? hj
    refine ⟨fun _ => ⟨Multiset.mem_coe.mpr hmem, (isInterruptEnabled_iff _ _).mp hl, ?_, ?_⟩, ?_⟩
    · intro y hy hyen
      exact hmin y (Multiset.mem_coe.mp hy) ((isInterruptEnabled_iff _ _).mpr hyen)
    · -- the entry removed is the first occurrence of `l`
      rw [Multiset.coe_erase]
      exact congrArg _ (eraseIdx_eq_erase hj hfirst)
    · intro hnone
      exact absurd ((isInterruptEnabled_iff _ _).mp hl) (hnone l (Multiset.mem_coe.mpr hmem))

-- the AKF status `0x10005` is disabled (bit 5 clear), so `3` is the least enabled one
example : (appleA7iopInterruptStatusPop ⟨[0x10005, 0x10001, 3, 3], fun _ => 2⟩).1 = 3 ∧
    (appleA7iopInterruptStatusPop ⟨[0x10005, 0x10001, 3, 3], fun _ => 2⟩).2.interruptStatus =
      [0x10005, 0x10001, 3] := by
  decide

/-- **`apple_mbox_interrupt_status_empty` holds exactly when a pop would find nothing**, so the
status term of the IOP line is high exactly when a status is there to pop.
Source: `hw/misc/apple-silicon/a7iop/mailbox/core.c` `apple_mbox_interrupt_status_empty`,
`apple_a7iop_mailbox_update_irq`
Kind: L -/
theorem appleMboxInterruptStatusEmpty_iff (m : AkfInterrupts) :
    appleMboxInterruptStatusEmpty m = true ↔
      ∀ x ∈ m.interruptStatus, ¬ Enabled m.interruptsEnabled x := by
  unfold appleMboxInterruptStatusEmpty
  rw [List.all_eq_true]
  simp only [Bool.not_eq_true', ← isInterruptEnabled_iff, Bool.not_eq_true]

/-! ## The registers -/

/-- Source: `hw/misc/apple-silicon/a7iop/regs-v4.c` `REG_INTERRUPT_STATUS`. Kind: D -/
def REG_INTERRUPT_STATUS : ℕ := 0x81C

/-- Source: `hw/misc/apple-silicon/a7iop/regs-v4.c` `REG_SEP_AKF_DISABLE_INTERRUPT_BASE`. Kind: D -/
def REG_SEP_AKF_DISABLE_INTERRUPT_BASE : ℕ := 0xA00

/-- Source: `hw/misc/apple-silicon/a7iop/regs-v4.c` `REG_SEP_AKF_ENABLE_INTERRUPT_BASE`. Kind: D -/
def REG_SEP_AKF_ENABLE_INTERRUPT_BASE : ℕ := 0xA80

/-- The four `case BASE + 0x00 .. BASE + 0x0C` labels of a block, and the word
`(addr - BASE) >> 2` they name.
Source: `hw/misc/apple-silicon/a7iop/regs-v4.c` `apple_a7iop_v4_reg_write`
Kind: D -/
def akfGroup (base addr : ℕ) : Option (Fin 4) :=
  if h : base ≤ addr ∧ addr ≤ base + 0x0C ∧ (addr - base) % 4 = 0 then
    some ⟨(addr - base) >>> 2, by rw [Nat.shiftRight_eq_div_pow]; omega⟩
  else none

/-- The AKF part of `apple_a7iop_v4_reg_write`: a disable write clears the bits written from its
word of `interrupts_enabled`, an enable write sets them, other addresses leave them alone.
Source: `hw/misc/apple-silicon/a7iop/regs-v4.c` `apple_a7iop_v4_reg_write`
Kind: D -/
def interruptsEnabledWrite (interruptsEnabled : Fin 4 → UInt32) (addr : ℕ) (data : UInt64) :
    Fin 4 → UInt32 :=
  match akfGroup REG_SEP_AKF_DISABLE_INTERRUPT_BASE addr with
  | some g => Function.update interruptsEnabled g (interruptsEnabled g &&& ~~~data.toUInt32)
  | none =>
    match akfGroup REG_SEP_AKF_ENABLE_INTERRUPT_BASE addr with
    | some g => Function.update interruptsEnabled g (interruptsEnabled g ||| data.toUInt32)
    | none => interruptsEnabled

/-- `apple_a7iop_v4_reg_write` on this part of the mailbox: only the enables change.
Source: `hw/misc/apple-silicon/a7iop/regs-v4.c` `apple_a7iop_v4_reg_write`
Kind: D -/
def appleA7iopV4RegWrite (m : AkfInterrupts) (addr : ℕ) (data : UInt64) : AkfInterrupts :=
  { m with interruptsEnabled := interruptsEnabledWrite m.interruptsEnabled addr data }

/-- The flags `apple_a7iop_mailbox_update_irq_status` leaves in the mailbox, which the status read
falls back on.
Source: `include/hw/misc/apple-silicon/a7iop/mailbox/core.h` `AppleA7IOPMailbox`
Kind: D -/
structure MailboxIrqFlags where
  iopNonempty : Bool
  iopEmpty : Bool
  apNonempty : Bool
  apEmpty : Bool

/-- What the `REG_INTERRUPT_STATUS` read returns for the popped `interrupt_status`: the status, or
when it is `0` a code for the mailbox's state.
Source: `hw/misc/apple-silicon/a7iop/regs-v4.c` `apple_a7iop_v4_reg_read`
Kind: D -/
def interruptStatusRet (flags : MailboxIrqFlags) (interruptStatus : UInt32) : UInt64 :=
  if interruptStatus ≠ 0 then interruptStatus.toUInt64
  else if flags.iopNonempty then 0x40000
  else if flags.iopEmpty then 0x40001
  else if flags.apNonempty then 0x40002
  else if flags.apEmpty then 0x40003
  else 0x70001

/-- The `REG_INTERRUPT_STATUS` read of `apple_a7iop_v4_reg_read`: a pop, and what it makes of
the status popped.
Source: `hw/misc/apple-silicon/a7iop/regs-v4.c` `apple_a7iop_v4_reg_read`
Kind: D -/
def appleA7iopV4ReadInterruptStatus (m : AkfInterrupts) (flags : MailboxIrqFlags) :
    UInt64 × AkfInterrupts :=
  let r := appleA7iopInterruptStatusPop m
  (interruptStatusRet flags r.1, r.2)

/-- What can happen to the queue: a push from a SEP model, a register write, a status read.
Source: `hw/misc/apple-silicon/a7iop/mailbox/core.c`, `hw/misc/apple-silicon/a7iop/regs-v4.c`
Kind: D -/
inductive AkfOp where
  | push (status : UInt32)
  | write (addr : ℕ) (data : UInt64)
  | readStatus (flags : MailboxIrqFlags)

/-- One operation, with the value a status read returns. -/
def akfStep (op : AkfOp) (m : AkfInterrupts) : Option (AkfInterrupts × List UInt64) :=
  some <| match op with
    | .push status => (appleA7iopInterruptStatusPush m status, [])
    | .write addr data => (appleA7iopV4RegWrite m addr data, [])
    | .readStatus flags =>
      let r := appleA7iopV4ReadInterruptStatus m flags
      (r.2, [r.1])

/-- A run of operations, with the values of its status reads in order. -/
def akfRun (ops : List AkfOp) (m : AkfInterrupts) : Option (AkfInterrupts × List UInt64) :=
  tracedRun akfStep ops m

/-! ## The queue as a multiset

What the queue is for, with the order of its entries forgotten: a multiset of pending statuses
that pushes add to and status reads take the least enabled one from. -/

/-- The pending statuses and the enables. -/
structure AkfPending where
  pending : Multiset UInt32
  interruptsEnabled : Fin 4 → UInt32

/-- The multiset of the queue. -/
def AkfInterrupts.toPending (m : AkfInterrupts) : AkfPending :=
  ⟨m.interruptStatus, m.interruptsEnabled⟩

/-- What each operation should do, with the value a status read should return: a push adds its
status, a write changes the enables as `apple_a7iop_v4_reg_write` does, and a status read
returns what the register makes of a pop that meets `PopSpec`, and leaves what that pop leaves.
Source: `hw/misc/apple-silicon/a7iop/mailbox/core.c`, `hw/misc/apple-silicon/a7iop/regs-v4.c`
Kind: D -/
inductive AkfSpecStep : AkfOp → AkfPending → List UInt64 → AkfPending → Prop
  | push (status : UInt32) (s : AkfPending) :
      AkfSpecStep (.push status) s [] { s with pending := status ::ₘ s.pending }
  | write (addr : ℕ) (data : UInt64) (s : AkfPending) :
      AkfSpecStep (.write addr data) s []
        { s with interruptsEnabled := interruptsEnabledWrite s.interruptsEnabled addr data }
  | readStatus (flags : MailboxIrqFlags) {s : AkfPending} {ret : UInt32} {q : Multiset UInt32} :
      PopSpec s.interruptsEnabled s.pending ret q →
      AkfSpecStep (.readStatus flags) s [interruptStatusRet flags ret] { s with pending := q }

/-- A push adds its status to the multiset.
Source: `hw/misc/apple-silicon/a7iop/mailbox/core.c` `apple_a7iop_interrupt_status_push`
Kind: L -/
theorem toPending_push (m : AkfInterrupts) (status : UInt32) :
    (appleA7iopInterruptStatusPush m status).toPending =
      { m.toPending with pending := status ::ₘ m.toPending.pending } := by
  have hperm : (m.interruptStatus ++ [status]).Perm (status :: m.interruptStatus) :=
    List.perm_append_singleton status m.interruptStatus
  simp only [appleA7iopInterruptStatusPush, AkfInterrupts.toPending, Multiset.cons_coe,
    Multiset.coe_eq_coe.mpr hperm]

/-- A pop leaves the enables alone.
Source: `hw/misc/apple-silicon/a7iop/mailbox/core.c` `apple_a7iop_interrupt_status_pop`
Kind: L -/
theorem toPending_pop (m : AkfInterrupts) :
    (appleA7iopInterruptStatusPop m).2.toPending =
      { m.toPending with pending := (appleA7iopInterruptStatusPop m).2.interruptStatus } := by
  unfold appleA7iopInterruptStatusPop
  split <;> rfl

/-- **The step lemma**: every operation succeeds and is a step of the specification.
Source: `hw/misc/apple-silicon/a7iop/mailbox/core.c`, `hw/misc/apple-silicon/a7iop/regs-v4.c`
Kind: L -/
theorem akfStep_spec (op : AkfOp) (m : AkfInterrupts) :
    ∃ r, akfStep op m = some r ∧ AkfSpecStep op m.toPending r.2 r.1.toPending := by
  refine ⟨_, rfl, ?_⟩
  cases op with
  | push status =>
    rw [toPending_push]
    exact .push status _
  | write addr data => exact .write addr data _
  | readStatus flags =>
    show AkfSpecStep _ _ _ (appleA7iopInterruptStatusPop m).2.toPending
    rw [toPending_pop]
    exact .readStatus flags (appleA7iopInterruptStatusPop_spec m)

/-- **Every run of pushes, enable and disable writes and status reads is a run of the
specification**: each read returns what the register makes of the least enabled status among
those the pushes have queued and the earlier reads have not taken, and takes one occurrence of
it; it returns the code for `0` and takes nothing when none of them is enabled.
Source: `hw/misc/apple-silicon/a7iop/mailbox/core.c` `apple_a7iop_interrupt_status_push`,
`apple_a7iop_interrupt_status_pop`; `hw/misc/apple-silicon/a7iop/regs-v4.c`
`apple_a7iop_v4_reg_write`, `apple_a7iop_v4_reg_read`
Kind: P -/
theorem interrupt_status_pop_lowest (ops : List AkfOp) (m : AkfInterrupts) :
    ∃ r, akfRun ops m = some r ∧ StepRun AkfSpecStep ops m.toPending r.2 r.1.toPending :=
  tracedRun_stepRun AkfInterrupts.toPending AkfSpecStep akfStep_spec ops m

end QemuAppleSilicon.A7iop
