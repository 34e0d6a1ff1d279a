import QemuAppleSilicon.Misc.PmuRtc

/-!
# The Apple watchdog (`hw/watchdog/apple_wdt.c`)

The device has two watchdogs, the chip one and the system one, each a timer register, a reset
counter and a control register; the chip one also has an interrupt counter. The timers count
ticks of `cnt_period_ns` nanoseconds of `QEMU_CLOCK_VIRTUAL`, `wdt_get_clock`, taken modulo
`2^32`. A timer register does not hold the timer's value: a write stores `clock - value`, and a
read returns `clock - register`, so the value goes up by one each tick.

`wdt_update` runs on the device's `QEMUTimer`. It compares each enabled timer with its counter:
a reset counter reached runs `watchdog_perform_action` and `apple_wdt_reset`, which zeroes every
register and leaves the timer unarmed; an interrupt counter reached raises the interrupt and
sets `ACK_IRQ` in the control register as the mark that it did. Otherwise the timer is armed for
the fewest ticks any enabled counter still needs, times `cnt_period_ns`. Every register write
arms the timer for the time of the write.

The model takes the virtual clock as the time `now` of each event, in nanoseconds.
`wdtStep` runs one event (a register write, a register read, or the timer firing) and `wdtRun`
a list of them; `WdtTimely` says when such a list is a run QEMU can make: in time order, with
nothing after a pending deadline, and the timer firing at its deadline.
-/

namespace QemuAppleSilicon.Watchdog

open QemuAppleSilicon.Lib QemuAppleSilicon.Misc

/-! ## Registers and constants -/

/-- Source: `hw/watchdog/apple_wdt.c` `REG_CHIP_WDOG_TMR`. Kind: D -/
def REG_CHIP_WDOG_TMR : ℕ := 0x0

/-- Source: `hw/watchdog/apple_wdt.c` `REG_CHIP_WDOG_RST_CNT`. Kind: D -/
def REG_CHIP_WDOG_RST_CNT : ℕ := 0x4

/-- Source: `hw/watchdog/apple_wdt.c` `REG_CHIP_WDOG_INTR_CNT`. Kind: D -/
def REG_CHIP_WDOG_INTR_CNT : ℕ := 0x8

/-- Source: `hw/watchdog/apple_wdt.c` `REG_CHIP_WDOG_CTL`. Kind: D -/
def REG_CHIP_WDOG_CTL : ℕ := 0xc

/-- Source: `hw/watchdog/apple_wdt.c` `REG_SYS_WDOG_TMR`. Kind: D -/
def REG_SYS_WDOG_TMR : ℕ := 0x10

/-- Source: `hw/watchdog/apple_wdt.c` `REG_SYS_WDOG_RST_CNT`. Kind: D -/
def REG_SYS_WDOG_RST_CNT : ℕ := 0x14

/-- Source: `hw/watchdog/apple_wdt.c` `REG_SYS_WDOG_CTL`. Kind: D -/
def REG_SYS_WDOG_CTL : ℕ := 0x1c

/-- The size of the register file `reg.raw`, eight words.
Source: `hw/watchdog/apple_wdt.c` `REG_SIZE`
Kind: D -/
def REG_SIZE : ℕ := 0x20

/-- Source: `hw/watchdog/apple_wdt.c` `WDOG_CTL_EN_IRQ`. Kind: D -/
def WDOG_CTL_EN_IRQ : UInt32 := (1 : UInt32) <<< 0

/-- Source: `hw/watchdog/apple_wdt.c` `WDOG_CTL_ACK_IRQ`. Kind: D -/
def WDOG_CTL_ACK_IRQ : UInt32 := (1 : UInt32) <<< 1

/-- Source: `hw/watchdog/apple_wdt.c` `WDOG_CTL_EN_RESET`. Kind: D -/
def WDOG_CTL_EN_RESET : UInt32 := (1 : UInt32) <<< 2

/-- Source: `hw/watchdog/apple_wdt.c` `WDOG_CNTFRQ_HZ`. Kind: D -/
def WDOG_CNTFRQ_HZ : UInt64 := 24000000

/-- `wdog_cntfrq_period_ns`: the tick in whole nanoseconds, the division truncated.
Source: `hw/watchdog/apple_wdt.c` `wdog_cntfrq_period_ns`
Kind: D -/
def wdogCntfrqPeriodNs (cntfrqHz : UInt64) : UInt32 :=
  if NANOSECONDS_PER_SECOND > cntfrqHz then (NANOSECONDS_PER_SECOND / cntfrqHz).toUInt32 else 1

/-- At 24 MHz the tick is 41 ns, not 41.67.
Source: `hw/watchdog/apple_wdt.c` `apple_wdt_realize`
Kind: L -/
theorem wdogCntfrqPeriodNs_cntfrq : wdogCntfrqPeriodNs WDOG_CNTFRQ_HZ = 41 := by
  decide

/-! ## The state -/

/-- The `AppleWDTState` fields the handlers use.
Source: `hw/watchdog/apple_wdt.c` `struct AppleWDTState`
Kind: D -/
structure AppleWDTState where
  /-- `cnt_period_ns`, the tick in nanoseconds. -/
  cntPeriodNs : ℕ
  /-- `wdog_cntfrq_period_ns` never answers zero. -/
  cntPeriodNs_pos : 0 < cntPeriodNs
  /-- `reg.raw`, the eight register words. -/
  reg : Fin 8 → UInt32
  /-- The level of `irqs[0]`. -/
  irq : Bool
  /-- When `timer` fires, on `QEMU_CLOCK_VIRTUAL`; `none` while it is not armed. -/
  timer : Option ℕ

namespace AppleWDTState

/-- Source: `hw/watchdog/apple_wdt.c` `reg.chip_timer`. Kind: D -/
def chipTimer (s : AppleWDTState) : UInt32 := s.reg 0

/-- Source: `hw/watchdog/apple_wdt.c` `reg.chip_reset_counter`. Kind: D -/
def chipResetCounter (s : AppleWDTState) : UInt32 := s.reg 1

/-- Source: `hw/watchdog/apple_wdt.c` `reg.chip_interrupt_counter`. Kind: D -/
def chipInterruptCounter (s : AppleWDTState) : UInt32 := s.reg 2

/-- Source: `hw/watchdog/apple_wdt.c` `reg.chip_control`. Kind: D -/
def chipControl (s : AppleWDTState) : UInt32 := s.reg 3

/-- Source: `hw/watchdog/apple_wdt.c` `reg.sys_timer`. Kind: D -/
def sysTimer (s : AppleWDTState) : UInt32 := s.reg 4

/-- Source: `hw/watchdog/apple_wdt.c` `reg.sys_reset_counter`. Kind: D -/
def sysResetCounter (s : AppleWDTState) : UInt32 := s.reg 5

/-- Source: `hw/watchdog/apple_wdt.c` `reg.sys_control`. Kind: D -/
def sysControl (s : AppleWDTState) : UInt32 := s.reg 7

end AppleWDTState

open AppleWDTState

/-- `apple_wdt_reset`: every register word zero; the timer and the interrupt line are left.
Source: `hw/watchdog/apple_wdt.c` `apple_wdt_reset`
Kind: D -/
def appleWdtReset (s : AppleWDTState) : AppleWDTState := { s with reg := fun _ => 0 }

/-- `apple_wdt_realize` followed by `apple_wdt_reset`: the 24 MHz tick, the registers zero, the
timer made but not armed.
Source: `hw/watchdog/apple_wdt.c` `apple_wdt_realize`
Kind: D -/
def appleWdtRealize : AppleWDTState where
  cntPeriodNs := (wdogCntfrqPeriodNs WDOG_CNTFRQ_HZ).toNat
  cntPeriodNs_pos := by rw [wdogCntfrqPeriodNs_cntfrq]; decide
  reg := fun _ => 0
  irq := false
  timer := none

/-! ## The clock and `wdt_update` -/

/-- `wdt_get_clock`: the ticks of the virtual clock, truncated to 32 bits.
Source: `hw/watchdog/apple_wdt.c` `wdt_get_clock`
Kind: D -/
def wdtGetClock (s : AppleWDTState) (now : ℕ) : UInt32 := UInt32.ofNat (now / s.cntPeriodNs)

/-- Source: `hw/watchdog/apple_wdt.c` `wdt_get_chip_timer`. Kind: D -/
def wdtGetChipTimer (s : AppleWDTState) (now : ℕ) : UInt32 := wdtGetClock s now - s.chipTimer

/-- Source: `hw/watchdog/apple_wdt.c` `wdt_get_sys_timer`. Kind: D -/
def wdtGetSysTimer (s : AppleWDTState) (now : ℕ) : UInt32 := wdtGetClock s now - s.sysTimer

/-- One `EN_RESET` block of `wdt_update`, for the chip and for the system watchdog: `none` when
the timer has reached the reset counter (the watchdog fires), otherwise the expiry, lowered to
the ticks left when the block is enabled.
Source: `hw/watchdog/apple_wdt.c` `wdt_update`
Kind: D -/
def wdtResetBlock (control counter tmr : UInt32) (expiry : ℕ) : Option ℕ :=
  if control &&& WDOG_CTL_EN_RESET ≠ 0 then
    if tmr ≥ counter then none
    else some (min expiry (counter - tmr).toNat)
  else some expiry

/-- The `EN_IRQ` block of `wdt_update`: a reached interrupt counter raises the line once, with
`ACK_IRQ` set in the control register as the mark; otherwise the expiry is lowered to the ticks
left.
Source: `hw/watchdog/apple_wdt.c` `wdt_update`
Kind: D -/
def wdtIrqBlock (s : AppleWDTState) (chipTmr : UInt32) (expiry : ℕ) : AppleWDTState × ℕ :=
  if s.chipControl &&& WDOG_CTL_EN_IRQ ≠ 0 then
    if chipTmr ≥ s.chipInterruptCounter then
      if s.chipControl &&& WDOG_CTL_ACK_IRQ = 0 then
        ({ s with
            reg := Function.update s.reg 3 (s.chipControl ||| WDOG_CTL_ACK_IRQ)
            irq := true }, expiry)
      else (s, expiry)
    else (s, min expiry (s.chipInterruptCounter - chipTmr).toNat)
  else (s, expiry)

/-- `wdt_update` at `now`, and whether it ran `watchdog_perform_action`. After the action it
returns without arming the timer.
Source: `hw/watchdog/apple_wdt.c` `wdt_update`
Kind: D -/
def wdtUpdate (s : AppleWDTState) (now : ℕ) : AppleWDTState × Bool :=
  let chipTmr := wdtGetChipTimer s now
  let sysTmr := wdtGetSysTimer s now
  match wdtResetBlock s.chipControl s.chipResetCounter chipTmr 0xffffffff with
  | none => (appleWdtReset s, true)
  | some expiry =>
    match wdtResetBlock s.sysControl s.sysResetCounter sysTmr expiry with
    | none => (appleWdtReset s, true)
    | some expiry =>
      let r := wdtIrqBlock s chipTmr expiry
      -- `expiry *= s->cnt_period_ns; timer_mod_ns(s->timer, now + expiry)`
      ({ r.1 with timer := some (now + r.2 * r.1.cntPeriodNs) }, false)

/-! ## The registers -/

/-- `wdt_reg_write(addr, data)` at `now`: the word `addr >> 2` is written, a timer register with
`clock - val` and the chip control register without `ACK_IRQ`, which lowers the interrupt when
the write carries it; the timer is armed for `now`. An offset past the registers is ignored.
Source: `hw/watchdog/apple_wdt.c` `wdt_reg_write`
Kind: D -/
def wdtRegWrite (s : AppleWDTState) (now addr : ℕ) (data : UInt64) : AppleWDTState :=
  if h : REG_SIZE ≤ addr then s
  else
    let index : Fin 8 := ⟨addr / 4, by rw [REG_SIZE] at h; omega⟩
    let val := data.toUInt32
    let (irq, val) :=
      if addr = REG_CHIP_WDOG_TMR then (s.irq, wdtGetClock s now - val)
      else if addr = REG_CHIP_WDOG_CTL then
        (if val &&& WDOG_CTL_ACK_IRQ ≠ 0 then false else s.irq, val &&& ~~~WDOG_CTL_ACK_IRQ)
      else if addr = REG_SYS_WDOG_TMR then (s.irq, wdtGetClock s now - val)
      else (s.irq, val)
    { s with reg := Function.update s.reg index val, irq := irq, timer := some now }

/-- `wdt_reg_read(addr)` at `now`: the word `addr >> 2`, and for a timer register its value
`clock - register`; zero past the registers.
Source: `hw/watchdog/apple_wdt.c` `wdt_reg_read`
Kind: D -/
def wdtRegRead (s : AppleWDTState) (now addr : ℕ) : UInt32 :=
  if h : REG_SIZE ≤ addr then 0
  else
    let val := s.reg ⟨addr / 4, by rw [REG_SIZE] at h; omega⟩
    if addr = REG_CHIP_WDOG_TMR then wdtGetChipTimer s now
    else if addr = REG_SYS_WDOG_TMR then wdtGetSysTimer s now
    else val

/-! ## What each handler does -/

theorem bit_WDOG_CTL_ACK_IRQ {k : ℕ} : Bit WDOG_CTL_ACK_IRQ k ↔ k = 1 :=
  bit_one_shiftLeft (by decide)

theorem bit_WDOG_CTL_EN_RESET {k : ℕ} : Bit WDOG_CTL_EN_RESET k ↔ k = 2 :=
  bit_one_shiftLeft (by decide)

/-- Setting `ACK_IRQ` leaves `EN_RESET` as it was. -/
theorem or_ACK_IRQ_and_EN_RESET (x : UInt32) :
    (x ||| WDOG_CTL_ACK_IRQ) &&& WDOG_CTL_EN_RESET = x &&& WDOG_CTL_EN_RESET := by
  apply ext_bit
  intro k
  rw [bit_and, bit_and, bit_or, bit_WDOG_CTL_ACK_IRQ, bit_WDOG_CTL_EN_RESET]
  constructor
  · rintro ⟨hx | hk, hk'⟩
    · exact ⟨hx, hk'⟩
    · exact absurd (hk.symm.trans hk') (by decide)
  · rintro ⟨hx, hk⟩
    exact ⟨.inl hx, hk⟩

/-- With `ACK_IRQ` set, the mark reads set. -/
theorem or_ACK_IRQ_and_ACK_IRQ_ne_zero (x : UInt32) :
    (x ||| WDOG_CTL_ACK_IRQ) &&& WDOG_CTL_ACK_IRQ ≠ 0 := by
  have hack : Bit WDOG_CTL_ACK_IRQ 1 := bit_WDOG_CTL_ACK_IRQ.mpr rfl
  intro h
  rw [and_eq_zero_iff] at h
  exact h 1 (bit_or.mpr (.inr hack)) hack

/-- A reset block fires exactly when it is enabled and the timer has reached the counter.
Source: `hw/watchdog/apple_wdt.c` `wdt_update`
Kind: L -/
theorem wdtResetBlock_eq_none_iff {control counter tmr : UInt32} {expiry : ℕ} :
    wdtResetBlock control counter tmr expiry = none ↔
      control &&& WDOG_CTL_EN_RESET ≠ 0 ∧ counter ≤ tmr := by
  unfold wdtResetBlock
  by_cases hen : control &&& WDOG_CTL_EN_RESET ≠ 0
  · by_cases hge : tmr ≥ counter
    · simp [hen, hge]
    · simp [hen, hge]
  · simp [hen]

/-- A reset block that does not fire lowers the expiry, to the ticks left when it is enabled.
Source: `hw/watchdog/apple_wdt.c` `wdt_update`
Kind: L -/
theorem wdtResetBlock_eq_some {control counter tmr : UInt32} {expiry e : ℕ}
    (h : wdtResetBlock control counter tmr expiry = some e) :
    e ≤ expiry ∧ (control &&& WDOG_CTL_EN_RESET ≠ 0 → e ≤ (counter - tmr).toNat) := by
  unfold wdtResetBlock at h
  by_cases hen : control &&& WDOG_CTL_EN_RESET ≠ 0
  · by_cases hge : tmr ≥ counter
    · simp [hen, hge] at h
    · simp only [hen, hge, if_true, if_false, ne_eq, not_false_eq_true, Option.some.injEq] at h
      subst h
      exact ⟨Nat.min_le_left _ _, fun _ => Nat.min_le_right _ _⟩
  · simp only [hen, if_false, Option.some.injEq] at h
    exact ⟨h ▸ le_rfl, fun h' => absurd h' hen⟩

/-- What the `EN_IRQ` block can do: raise the line and mark it, lower the expiry to the ticks left,
or nothing (disabled, or already marked).
Source: `hw/watchdog/apple_wdt.c` `wdt_update`
Kind: L -/
theorem wdtIrqBlock_cases (s : AppleWDTState) (tmr : UInt32) (expiry : ℕ) :
    (s.chipControl &&& WDOG_CTL_EN_IRQ ≠ 0 ∧ s.chipInterruptCounter ≤ tmr ∧
        s.chipControl &&& WDOG_CTL_ACK_IRQ = 0 ∧
        wdtIrqBlock s tmr expiry =
          ({ s with
              reg := Function.update s.reg 3 (s.chipControl ||| WDOG_CTL_ACK_IRQ)
              irq := true }, expiry)) ∨
      (s.chipControl &&& WDOG_CTL_EN_IRQ ≠ 0 ∧ tmr < s.chipInterruptCounter ∧
        wdtIrqBlock s tmr expiry = (s, min expiry (s.chipInterruptCounter - tmr).toNat)) ∨
      ((s.chipControl &&& WDOG_CTL_EN_IRQ = 0 ∨
          (s.chipInterruptCounter ≤ tmr ∧ s.chipControl &&& WDOG_CTL_ACK_IRQ ≠ 0)) ∧
        wdtIrqBlock s tmr expiry = (s, expiry)) := by
  unfold wdtIrqBlock
  by_cases hen : s.chipControl &&& WDOG_CTL_EN_IRQ ≠ 0
  · by_cases hge : tmr ≥ s.chipInterruptCounter
    · by_cases hack : s.chipControl &&& WDOG_CTL_ACK_IRQ = 0
      · exact .inl ⟨hen, hge, hack, by simp only [hen, hge, hack, if_true, ne_eq, not_false_eq_true]⟩
      · exact .inr (.inr ⟨.inr ⟨hge, hack⟩, by simp only [hen, hge, hack, if_true, if_false,
          ne_eq, not_false_eq_true]⟩)
    · exact .inr (.inl ⟨hen, UInt32.not_le.mp hge, by simp only [hen, hge, if_true, if_false,
        ne_eq, not_false_eq_true]⟩)
  · exact .inr (.inr ⟨.inl (not_not.mp hen), by simp only [hen, if_false]⟩)

/-- The `EN_IRQ` block keeps the tick, the timer and every word but the chip control register.
Source: `hw/watchdog/apple_wdt.c` `wdt_update`
Kind: L -/
theorem wdtIrqBlock_frame (s : AppleWDTState) (tmr : UInt32) (expiry : ℕ) :
    (wdtIrqBlock s tmr expiry).1.cntPeriodNs = s.cntPeriodNs ∧
      (wdtIrqBlock s tmr expiry).1.timer = s.timer ∧
      ∀ i : Fin 8, i ≠ 3 → (wdtIrqBlock s tmr expiry).1.reg i = s.reg i := by
  rcases wdtIrqBlock_cases s tmr expiry with ⟨-, -, -, h⟩ | ⟨-, -, h⟩ | ⟨-, h⟩
  · rw [h]
    exact ⟨rfl, rfl, fun i hi => Function.update_of_ne hi _ _⟩
  · rw [h]
    exact ⟨rfl, rfl, fun _ _ => rfl⟩
  · rw [h]
    exact ⟨rfl, rfl, fun _ _ => rfl⟩

/-- `wdt_update` when a reset block fires: the action, and every register zero.
Source: `hw/watchdog/apple_wdt.c` `wdt_update`
Kind: L -/
theorem wdtUpdate_of_fires {s : AppleWDTState} {now : ℕ}
    (h : wdtResetBlock s.chipControl s.chipResetCounter (wdtGetChipTimer s now) 0xffffffff = none ∨
      ∃ e, wdtResetBlock s.chipControl s.chipResetCounter (wdtGetChipTimer s now) 0xffffffff =
          some e ∧ wdtResetBlock s.sysControl s.sysResetCounter (wdtGetSysTimer s now) e = none) :
    wdtUpdate s now = (appleWdtReset s, true) := by
  rcases h with h | ⟨e, h₁, h₂⟩
  · simp only [wdtUpdate, h]
  · simp only [wdtUpdate, h₁, h₂]

/-- `wdt_update` when no reset block fires: the `EN_IRQ` block, and the timer armed for the
expiry it leaves.
Source: `hw/watchdog/apple_wdt.c` `wdt_update`
Kind: L -/
theorem wdtUpdate_of_some {s : AppleWDTState} {now e₁ e₂ : ℕ}
    (h₁ : wdtResetBlock s.chipControl s.chipResetCounter (wdtGetChipTimer s now) 0xffffffff =
      some e₁)
    (h₂ : wdtResetBlock s.sysControl s.sysResetCounter (wdtGetSysTimer s now) e₁ = some e₂) :
    wdtUpdate s now =
      ({ (wdtIrqBlock s (wdtGetChipTimer s now) e₂).1 with
          timer := some (now + (wdtIrqBlock s (wdtGetChipTimer s now) e₂).2 * s.cntPeriodNs) },
        false) := by
  simp only [wdtUpdate, h₁, h₂, (wdtIrqBlock_frame _ _ _).1]

/-- A write past the registers does nothing.
Source: `hw/watchdog/apple_wdt.c` `wdt_reg_write`
Kind: L -/
theorem wdtRegWrite_of_le {s : AppleWDTState} {now addr : ℕ} {data : UInt64}
    (h : REG_SIZE ≤ addr) : wdtRegWrite s now addr data = s := by
  rw [wdtRegWrite, dif_pos h]

/-- A write to a register keeps the tick and the other words, and arms the timer for `now`.
Source: `hw/watchdog/apple_wdt.c` `wdt_reg_write`
Kind: L -/
theorem wdtRegWrite_of_lt (s : AppleWDTState) (now : ℕ) {addr : ℕ} (data : UInt64)
    (h : addr < REG_SIZE) :
    (wdtRegWrite s now addr data).cntPeriodNs = s.cntPeriodNs ∧
      (∀ i : Fin 8, i.val ≠ addr / 4 → (wdtRegWrite s now addr data).reg i = s.reg i) ∧
      (wdtRegWrite s now addr data).timer = some now := by
  rw [wdtRegWrite, dif_neg (Nat.not_le.mpr h)]
  dsimp only
  split
  all_goals
    refine ⟨rfl, fun i hi => Function.update_of_ne (fun he => hi (congrArg Fin.val he)) _ _, rfl⟩


/-! ## Runs -/

/-- What the guest and the timer do to the device. -/
inductive WdtEvent where
  /-- A register write. -/
  | write (addr : ℕ) (data : UInt64)
  /-- A register read. -/
  | read (addr : ℕ)
  /-- The timer fires and runs `wdt_update`. -/
  | expire
  deriving DecidableEq, Repr

/-- What an event shows: nothing, the value a read returns, or `watchdog_perform_action`. -/
inductive WdtObs where
  | quiet
  | value (v : UInt32)
  | action
  deriving DecidableEq, Repr

/-- One event at `now`. The timer is disarmed before its callback runs, as QEMU's timer list
does.
Source: `hw/watchdog/apple_wdt.c` `wdt_reg_write`, `wdt_reg_read`, `wdt_update`;
`util/qemu-timer.c` `timerlist_run_timers`
Kind: D -/
def wdtStep (s : AppleWDTState) (now : ℕ) : WdtEvent → AppleWDTState × WdtObs
  | .write addr data => (wdtRegWrite s now addr data, .quiet)
  | .read addr => (s, .value (wdtRegRead s now addr))
  | .expire =>
    let r := wdtUpdate { s with timer := none } now
    (r.1, if r.2 then .action else .quiet)

/-- A list of timed events, run in order. -/
def wdtRun (s : AppleWDTState) : List (ℕ × WdtEvent) → AppleWDTState × List WdtObs
  | [] => (s, [])
  | (now, e) :: evs =>
    let r := wdtStep s now e
    let rest := wdtRun r.1 evs
    (rest.1, r.2 :: rest.2)

/-- The events can come in this order from time `t` on: their times do not go down, none
comes after a pending deadline, and the timer fires exactly at its deadline.
Source: `util/qemu-timer.c` `timerlist_run_timers`
Kind: D -/
def WdtTimely : AppleWDTState → ℕ → List (ℕ × WdtEvent) → Prop
  | _, _, [] => True
  | s, t, (now, e) :: evs =>
    t ≤ now ∧ (∀ D ∈ s.timer, now ≤ D) ∧ (e = .expire → s.timer = some now) ∧
      WdtTimely (wdtStep s now e).1 now evs

/-- Whether a list of events is timely can be computed. -/
instance WdtTimely.decidable : ∀ s t evs, Decidable (WdtTimely s t evs)
  | _, _, [] => isTrue trivial
  | s, _, (now, e) :: evs =>
    have := WdtTimely.decidable (wdtStep s now e).1 now evs
    inferInstanceAs (Decidable (_ ∧ _ ∧ _ ∧ _))

end QemuAppleSilicon.Watchdog
