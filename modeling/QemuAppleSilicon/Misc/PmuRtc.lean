import QemuAppleSilicon.Lib.Bits32
import QemuAppleSilicon.Qemu.Base

/-!
# The RTC and its alarm in the two Apple PMU models

`hw/misc/apple-silicon/pmu-d2255.c` and `hw/misc/apple-silicon/spmi-pmu.c` each carry their own
copy of the RTC: the same `frq_to_period_ns`, `rtc_get_tick`, `update_irq`, `alarm` and
`set_alarm`, over their own register offsets. They are stated once here, the offsets as
`PmuAlarmRegs`; each PMU's module instantiates them under its own names.

**The tick.** `rtc_get_tick` subtracts `rtc_offset` from the `rtc_clock` reading and packs the
elapsed whole seconds above bit 15 and, below, the elapsed time in ticks of `tick_period`
nanoseconds, modulo `2^15`. Since `tick_period = frq_to_period_ns(32768)` is the truncated
`10^9 / 32768 = 30517`, the low field counts ticks of the whole elapsed time, not of the current
second: it wraps every `32768 · 30517 = 999 981 056` ns, and for the first 52 787 wraps the
seconds field has not moved when it does, so the tick goes down (`pmuRtcTick_wrap`). `rtcTickSpec`
is the tick of an RTC that counts 32768 ticks in each second; it never goes down
(`rtcTickSpec_mono`), and the code's tick leaves it at each of those wraps.

**The alarm.** `set_alarm` takes the difference of the alarm seconds and the RTC seconds in 32
bits: equal, it raises the event at once; otherwise it arms a timer on `QEMU_CLOCK_VIRTUAL` for
that many seconds after the `rtc_clock` reading, so an alarm already past waits for the
difference to wrap (`pmuSetAlarm_of_ne`). The interrupt line is computed from the mask and the
event only when the alarm is raised (`pmuAlarm_irq`).
-/

namespace QemuAppleSilicon.Misc

open QemuAppleSilicon.Lib QemuAppleSilicon.Qemu

/-! ## The tick -/

/-- Source: `include/qemu/timer.h` `NANOSECONDS_PER_SECOND`. Kind: D -/
def NANOSECONDS_PER_SECOND : UInt64 := 1000000000

/-- Source: `hw/misc/apple-silicon/pmu-d2255.c` `RTC_TICK_FREQ`. Kind: D -/
def RTC_TICK_FREQ : UInt32 := 32768

/-- `frq_to_period_ns`: the tick period in whole nanoseconds, the division truncated.
Source: `hw/misc/apple-silicon/pmu-d2255.c` `frq_to_period_ns`;
`hw/misc/apple-silicon/spmi-pmu.c` `frq_to_period_ns`
Kind: D -/
def frqToPeriodNs (freqHz : UInt32) : UInt32 :=
  if NANOSECONDS_PER_SECOND > freqHz.toUInt64 then (NANOSECONDS_PER_SECOND / freqHz.toUInt64).toUInt32
  else 1

/-- The body of `rtc_get_tick` in both files, for the `rtc_clock` reading `now`.
Source: `hw/misc/apple-silicon/pmu-d2255.c` `rtc_get_tick`;
`hw/misc/apple-silicon/spmi-pmu.c` `rtc_get_tick`
Kind: D -/
def pmuRtcTick (tickPeriod : UInt32) (rtcOffset now : UInt64) : UInt64 :=
  let now := now - rtcOffset
  ((now / NANOSECONDS_PER_SECOND) <<< 15) ||| ((now / tickPeriod.toUInt64) &&& 0x7FFF)

/-- The period both PMUs set at creation.
Source: `hw/misc/apple-silicon/pmu-d2255.c` `pmu_d2255_instance_init`
Kind: L -/
theorem frqToPeriodNs_tickFreq : frqToPeriodNs RTC_TICK_FREQ = 30517 := by
  decide

/-- The tick as a number, `e` nanoseconds after the offset: the whole seconds times `2^15`, plus
the ticks of the whole elapsed time modulo `2^15`.
Source: `hw/misc/apple-silicon/pmu-d2255.c` `rtc_get_tick`
Kind: L -/
theorem pmuRtcTick_toNat (tickPeriod : UInt32) (rtcOffset e : UInt64) :
    (pmuRtcTick tickPeriod rtcOffset (rtcOffset + e)).toNat =
      e.toNat / 10 ^ 9 * 2 ^ 15 + e.toNat / tickPeriod.toNat % 2 ^ 15 := by
  have he := e.toNat_lt
  have hmask : (0x7FFF : UInt64).toNat = 2 ^ 15 - 1 := rfl
  -- the seconds shifted up stay below `2^64`: they are below `2^35`
  have hsec : e.toNat / 10 ^ 9 * 2 ^ 15 < 2 ^ 64 := by omega
  have hlow : e.toNat / tickPeriod.toNat % 2 ^ 15 < 2 ^ 15 := Nat.mod_lt _ (by decide)
  have hsub : rtcOffset + e - rtcOffset = e := by simp
  simp only [pmuRtcTick, hsub, UInt64.toNat_or, UInt64.toNat_shiftLeft,
    UInt64.toNat_div, UInt64.toNat_and, hmask, Nat.and_two_pow_sub_one_eq_mod,
    UInt32.toNat_toUInt64]
  rw [show (15 : UInt64).toNat % 64 = 15 from rfl, show NANOSECONDS_PER_SECOND.toNat = 10 ^ 9 from rfl,
    Nat.shiftLeft_eq, Nat.mod_eq_of_lt hsec, ← Nat.shiftLeft_eq,
    ← Nat.shiftLeft_add_eq_or_of_lt hlow, Nat.shiftLeft_eq]

/-- The tick of an RTC that counts `RTC_TICK_FREQ` ticks in each second, `e` nanoseconds after
its offset: the whole seconds above bit 15, and below them `⌊(e mod 10^9) · 32768 / 10^9⌋`, the
ticks of the current second.
Source: none: specification
Kind: D -/
def rtcTickSpec (e : ℕ) : ℕ := e / 10 ^ 9 * 2 ^ 15 + e % 10 ^ 9 * 32768 / 10 ^ 9

/-- Such an RTC never goes back.
Source: none: specification
Kind: L -/
theorem rtcTickSpec_mono : Monotone rtcTickSpec := by
  intro a b hab
  unfold rtcTickSpec
  omega

/-- The `k`-th wrap of the tick count, for `k` up to 52 787, comes before the `k`-th second: one
nanosecond before it the tick is `(k - 1) · 2^15 + 32767`, at it `(k - 1) · 2^15`.
Source: `hw/misc/apple-silicon/pmu-d2255.c` `rtc_get_tick`
Kind: L -/
theorem pmuRtcTick_wrap (rtcOffset : UInt64) {k : ℕ} (hk1 : 1 ≤ k) (hk : k ≤ 52787) :
    let t := rtcOffset + UInt64.ofNat (k * 999981056 - 1)
    (pmuRtcTick (frqToPeriodNs RTC_TICK_FREQ) rtcOffset t).toNat = (k - 1) * 2 ^ 15 + 32767 ∧
      (pmuRtcTick (frqToPeriodNs RTC_TICK_FREQ) rtcOffset (t + 1)).toNat = (k - 1) * 2 ^ 15 := by
  intro t
  have hlt : k * 999981056 - 1 < 2 ^ 64 := by omega
  have he : (UInt64.ofNat (k * 999981056 - 1)).toNat = k * 999981056 - 1 :=
    UInt64.toNat_ofNat_of_lt' hlt
  have he1 : (UInt64.ofNat (k * 999981056 - 1) + 1).toNat = k * 999981056 := by
    rw [UInt64.toNat_add, he, UInt64.toNat_one]
    omega
  have hperiod : (frqToPeriodNs RTC_TICK_FREQ).toNat = 30517 := by
    rw [frqToPeriodNs_tickFreq]
    rfl
  constructor
  · rw [pmuRtcTick_toNat, he, hperiod]
    omega
  · rw [show t + 1 = rtcOffset + (UInt64.ofNat (k * 999981056 - 1) + 1) from UInt64.add_assoc _ _ _,
      pmuRtcTick_toNat, he1, hperiod]
    omega

/-- At such a wrap the specified tick has gone on counting the current second.
Source: none: specification
Kind: L -/
theorem rtcTickSpec_wrap {k : ℕ} (hk1 : 1 ≤ k) (hk : k ≤ 52785) :
    (k - 1) * 2 ^ 15 < rtcTickSpec (k * 999981056) := by
  unfold rtcTickSpec
  omega

/-- One nanosecond into each of the first 52 785 wraps the tick has gone down, and it is below
the specified tick there.
Source: `hw/misc/apple-silicon/pmu-d2255.c` `rtc_get_tick`
Kind: L -/
theorem pmuRtcTick_goes_back (rtcOffset : UInt64) {k : ℕ} (hk1 : 1 ≤ k) (hk : k ≤ 52785) :
    let t := rtcOffset + UInt64.ofNat (k * 999981056 - 1)
    pmuRtcTick (frqToPeriodNs RTC_TICK_FREQ) rtcOffset (t + 1) <
        pmuRtcTick (frqToPeriodNs RTC_TICK_FREQ) rtcOffset t ∧
      (pmuRtcTick (frqToPeriodNs RTC_TICK_FREQ) rtcOffset (t + 1)).toNat <
        rtcTickSpec (k * 999981056) := by
  intro t
  obtain ⟨hbefore, hat⟩ := pmuRtcTick_wrap rtcOffset hk1 (by omega : k ≤ 52787)
  constructor
  · rw [UInt64.lt_iff_toNat_lt, hbefore, hat]
    omega
  · rw [hat]
    exact rtcTickSpec_wrap hk1 hk

/-! ## The alarm -/

/-- Source: `hw/misc/apple-silicon/pmu-d2255.c` `RTC_CONTROL_ALARM_EN`. Kind: D -/
def RTC_CONTROL_ALARM_EN : UInt32 := (1 : UInt32) <<< 6

/-- Source: `hw/misc/apple-silicon/pmu-d2255.c` `RTC_EVENT_ALARM`. Kind: D -/
def RTC_EVENT_ALARM : UInt32 := (1 : UInt32) <<< 0

/-- Where a PMU keeps its alarm: the offsets of the alarm seconds, the control word with
`ALARM_EN`, the event word the alarm sets, and the interrupt mask.
Source: `hw/misc/apple-silicon/spmi-pmu.c` `AppleSPMIPMUState`
Kind: D -/
structure PmuAlarmRegs where
  alarm : ℕ
  alarmCtrl : ℕ
  alarmEvent : ℕ
  irqMask : ℕ

/-- What the alarm logic reads and writes of a PMU: the register file, the level of the
interrupt line, and the deadline of the alarm timer on `QEMU_CLOCK_VIRTUAL` (`none` when it is
not armed).
Source: `hw/misc/apple-silicon/pmu-d2255.c` `PMUD2255State`
Kind: D -/
structure PmuAlarmState where
  reg : Mem
  irq : Bool
  timer : Option ℤ

/-- A bit of the low byte of a little-endian word is that bit of the byte at its address.
Source: `include/qemu/bswap.h` `ldl_le_p`
Kind: L -/
theorem bit_ldlLeP_of_lt (m : Mem) (p : ℕ) {k : ℕ} (hk : k < 8) :
    Bit (ldlLeP m p) k ↔ Bit (m p).toUInt32 k := by
  have hlow : (ldlLeP m p).toNat % 2 ^ 8 = (m p).toNat := by
    simp [ldlLeP, Mem.read, leValue_cons, List.ofFn_succ]
  have hbit := Nat.testBit_mod_two_pow (ldlLeP m p).toNat 8 k
  rw [hlow, decide_eq_true hk, Bool.true_and] at hbit
  rw [Bit, Bit, UInt8.toNat_toUInt32, hbit]

/-- `ALARM_EN` is bit 6.
Source: `hw/misc/apple-silicon/pmu-d2255.c` `RTC_CONTROL_ALARM_EN`
Kind: L -/
theorem and_alarmEn_ne_zero_iff (x : UInt32) : x &&& RTC_CONTROL_ALARM_EN ≠ 0 ↔ Bit x 6 :=
  (and_one_shiftLeft_eq_zero (x := x) (n := 6) (by decide)).not.trans not_not

/-- The alarm event is bit 0.
Source: `hw/misc/apple-silicon/pmu-d2255.c` `RTC_EVENT_ALARM`
Kind: L -/
theorem and_eventAlarm_eq_zero_iff (x : UInt32) : x &&& RTC_EVENT_ALARM = 0 ↔ ¬ Bit x 0 :=
  and_one_shiftLeft_eq_zero (x := x) (n := 0) (by decide)

section alarm

variable (r : PmuAlarmRegs)

/-- `update_irq`: the line is raised exactly when the mask and the event share a bit.
Source: `hw/misc/apple-silicon/pmu-d2255.c` `pmu_d2255_update_irq`;
`hw/misc/apple-silicon/spmi-pmu.c` `apple_spmi_pmu_update_irq`
Kind: D -/
def pmuUpdateIrq (a : PmuAlarmState) : PmuAlarmState :=
  { a with irq := ldlLeP a.reg r.irqMask &&& ldlLeP a.reg r.alarmEvent ≠ 0 }

/-- `alarm`, the timer's callback: set the alarm event and update the line. The wakeup request
it also makes is left out.
Source: `hw/misc/apple-silicon/pmu-d2255.c` `pmu_d2255_alarm`;
`hw/misc/apple-silicon/spmi-pmu.c` `apple_spmi_pmu_alarm`
Kind: D -/
def pmuAlarm (a : PmuAlarmState) : PmuAlarmState :=
  pmuUpdateIrq r
    { a with reg := stlLeP a.reg r.alarmEvent (ldlLeP a.reg r.alarmEvent ||| RTC_EVENT_ALARM) }

/-- `set_alarm`, the `rtc_clock` reading `now` for both of its reads of the clock: the seconds to
go are the alarm seconds less the RTC seconds, in 32 bits.
Source: `hw/misc/apple-silicon/pmu-d2255.c` `pmu_d2255_set_alarm`;
`hw/misc/apple-silicon/spmi-pmu.c` `apple_spmi_pmu_set_alarm`
Kind: D -/
def pmuSetAlarm (tickPeriod : UInt32) (rtcOffset now : UInt64) (a : PmuAlarmState) :
    PmuAlarmState :=
  let seconds : UInt32 :=
    ldlLeP a.reg r.alarm - (pmuRtcTick tickPeriod rtcOffset now >>> 15).toUInt32
  if ldlLeP a.reg r.alarmCtrl &&& RTC_CONTROL_ALARM_EN ≠ 0 then
    if seconds = 0 then pmuAlarm r { a with timer := none }
    else { a with timer := some ((now.toNat : ℤ) + seconds.toNat * 1000000000) }
  else { a with timer := none }

/-- The alarm leaves the line at what the mask and the new event say.
Source: `hw/misc/apple-silicon/pmu-d2255.c` `pmu_d2255_alarm`
Kind: L -/
theorem pmuAlarm_irq (a : PmuAlarmState) :
    (pmuAlarm r a).irq = decide (ldlLeP (pmuAlarm r a).reg r.irqMask &&&
      ldlLeP (pmuAlarm r a).reg r.alarmEvent ≠ 0) := rfl

@[simp] theorem pmuAlarm_timer (a : PmuAlarmState) : (pmuAlarm r a).timer = a.timer := rfl

/-- An alarm due now raises the event at once and deletes the timer.
Source: `hw/misc/apple-silicon/pmu-d2255.c` `pmu_d2255_set_alarm`
Kind: L -/
theorem pmuSetAlarm_of_eq {tickPeriod : UInt32} {rtcOffset now : UInt64} {a : PmuAlarmState}
    (hen : ldlLeP a.reg r.alarmCtrl &&& RTC_CONTROL_ALARM_EN ≠ 0)
    (heq : ldlLeP a.reg r.alarm = (pmuRtcTick tickPeriod rtcOffset now >>> 15).toUInt32) :
    pmuSetAlarm r tickPeriod rtcOffset now a = pmuAlarm r { a with timer := none } := by
  simp [pmuSetAlarm, hen, heq]

/-- Any other enabled alarm leaves the registers and the line alone and arms the timer for the
32-bit difference of the seconds, counted from the `rtc_clock` reading.
Source: `hw/misc/apple-silicon/pmu-d2255.c` `pmu_d2255_set_alarm`
Kind: L -/
theorem pmuSetAlarm_of_ne {tickPeriod : UInt32} {rtcOffset now : UInt64} {a : PmuAlarmState}
    (hen : ldlLeP a.reg r.alarmCtrl &&& RTC_CONTROL_ALARM_EN ≠ 0)
    (hne : ldlLeP a.reg r.alarm ≠ (pmuRtcTick tickPeriod rtcOffset now >>> 15).toUInt32) :
    pmuSetAlarm r tickPeriod rtcOffset now a =
      { a with timer := some ((now.toNat : ℤ) + (ldlLeP a.reg r.alarm -
        (pmuRtcTick tickPeriod rtcOffset now >>> 15).toUInt32).toNat * 1000000000) } := by
  have hsec : ldlLeP a.reg r.alarm - (pmuRtcTick tickPeriod rtcOffset now >>> 15).toUInt32 ≠ 0 :=
    fun h => hne (sub_eq_zero.mp h)
  simp [pmuSetAlarm, hen, hsec]

/-- A 32-bit difference that would be negative wraps to `2^32` less its size. -/
theorem uint32_toNat_sub_of_lt {a b : UInt32} (h : a < b) :
    (a - b).toNat = 2 ^ 32 - (b.toNat - a.toNat) := by
  have hlt := UInt32.lt_iff_toNat_lt.mp h
  have hb := b.toNat_lt
  rw [UInt32.toNat_sub]
  omega

/-- An alarm already past waits for the 32-bit difference to wrap: `2^32` seconds less how far
past it is.
Source: `hw/misc/apple-silicon/pmu-d2255.c` `pmu_d2255_set_alarm`
Kind: L -/
theorem pmuSetAlarm_of_lt {tickPeriod : UInt32} {rtcOffset now : UInt64} {a : PmuAlarmState}
    (hen : ldlLeP a.reg r.alarmCtrl &&& RTC_CONTROL_ALARM_EN ≠ 0)
    (hlt : ldlLeP a.reg r.alarm < (pmuRtcTick tickPeriod rtcOffset now >>> 15).toUInt32) :
    pmuSetAlarm r tickPeriod rtcOffset now a =
      { a with timer := some ((now.toNat : ℤ) + (2 ^ 32 -
        ((pmuRtcTick tickPeriod rtcOffset now >>> 15).toUInt32.toNat -
          (ldlLeP a.reg r.alarm).toNat) : ℕ) * 1000000000) } := by
  have hne : ldlLeP a.reg r.alarm ≠ (pmuRtcTick tickPeriod rtcOffset now >>> 15).toUInt32 :=
    fun h => Nat.lt_irrefl _ (h ▸ UInt32.lt_iff_toNat_lt.mp hlt)
  rw [pmuSetAlarm_of_ne r hen hne, uint32_toNat_sub_of_lt hlt]

end alarm

end QemuAppleSilicon.Misc
