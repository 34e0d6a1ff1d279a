import QemuAppleSilicon.Misc.PmuRtc
import QemuAppleSilicon.Misc.SpmiPmu

/-!
# The D2255 PMU on I2C (`hw/misc/apple-silicon/pmu-d2255.c`)

The PMU is an I2C slave with a byte register file `reg[0x8800]`. A send transaction takes the
register address in two bytes, high byte first, and then writes one register per byte, the
address counting up; a write to the RTC control or alarm registers runs `set_alarm`. A receive
transaction reads one register per byte from the address last set. A read anywhere in
`REG_RTC_SUB_SECOND_A .. REG_RTC_SUB_SECOND_A + 6` first takes a fresh snapshot of the RTC into
its six bytes, so every byte of the RTC is read from its own reading of `rtc_clock`.

The RTC and the alarm are the shared ones of `Misc.PmuRtc`, at the D2255's register offsets.
Each access that reads `rtc_clock` takes the reading as its parameter `now`.

* `pmuD2255Rx_rtc` — a read inside the RTC snapshot is byte `i` of the tick at its own reading.
* `pmuD2255Run_rtc_read` — so the six RTC bytes of one sequential read are each from their own
  reading.
* `pmuD2255Tx_alarm_of_ne` — writing the alarm control with `ALARM_EN` while the alarm seconds
  differ from the RTC seconds arms the timer for their 32-bit difference.
* `pmuD2255Tx_clear_event` — writing the event register does not touch the interrupt line.
-/

namespace QemuAppleSilicon.Misc

open QemuAppleSilicon.Lib QemuAppleSilicon.Qemu

/-! ## Registers and state -/

/-- Source: `hw/misc/apple-silicon/pmu-d2255.c` `REG_SIZE`. Kind: D -/
def REG_SIZE : ℕ := 0x8800
/-- Source: `hw/misc/apple-silicon/pmu-d2255.c` `REG_EVENT_C`. Kind: D -/
def REG_EVENT_C : ℕ := 0x142
/-- Source: `hw/misc/apple-silicon/pmu-d2255.c` `REG_IRQ_MASK_A`. Kind: D -/
def REG_IRQ_MASK_A : ℕ := 0x1C0
/-- Source: `hw/misc/apple-silicon/pmu-d2255.c` `REG_MASK_REV_CODE`. Kind: D -/
def REG_MASK_REV_CODE : ℕ := 0x200
/-- Source: `hw/misc/apple-silicon/pmu-d2255.c` `REG_DEVICE_ID7`. Kind: D -/
def REG_DEVICE_ID7 : ℕ := 0x20A
/-- Source: `hw/misc/apple-silicon/pmu-d2255.c` `REG_RTC_CONTROL`. Kind: D -/
def REG_RTC_CONTROL : ℕ := 0x500
/-- Source: `hw/misc/apple-silicon/pmu-d2255.c` `REG_RTC_SUB_SECOND_A`. Kind: D -/
def REG_RTC_SUB_SECOND_A : ℕ := 0x502
/-- Source: `hw/misc/apple-silicon/pmu-d2255.c` `REG_RTC_ALARM_A`. Kind: D -/
def REG_RTC_ALARM_A : ℕ := 0x508
/-- Source: `hw/misc/apple-silicon/pmu-d2255.c` `REG_RTC_ALARM_D`. Kind: D -/
def REG_RTC_ALARM_D : ℕ := 0x50B
/-- Source: `hw/misc/apple-silicon/pmu-d2255.c` `REG_SCRATCH`. Kind: D -/
def REG_SCRATCH : ℕ := 0x5000
/-- Source: `hw/misc/apple-silicon/pmu-d2255.c` `OFF_SCRATCH_SECS_OFFSET`. Kind: D -/
def OFF_SCRATCH_SECS_OFFSET : ℕ := 4
/-- Source: `hw/misc/apple-silicon/pmu-d2255.c` `OFF_SCRATCH_TICKS_OFFSET`. Kind: D -/
def OFF_SCRATCH_TICKS_OFFSET : ℕ := 21

/-- Source: `hw/misc/apple-silicon/pmu-d2255.c` `PMUOpState`. Kind: D -/
inductive PMUOpState
  | none
  | recv
  | send
  deriving DecidableEq, Repr

/-- Source: `hw/misc/apple-silicon/pmu-d2255.c` `PMUAddrState`. Kind: D -/
inductive PMUAddrState
  | upper
  | lower
  | received
  deriving DecidableEq, Repr

/-- `enum i2c_event`, what the bus tells a slave.
Source: `include/hw/i2c/i2c.h` `i2c_event`
Kind: D -/
inductive I2CEvent
  | startRecv
  | startSend
  | startSendAsync
  | finish
  | nack
  deriving DecidableEq, Repr

/-- The PMU: the register file, the interrupt line and the alarm timer (the part its alarm logic
shares with the SPMI PMU), the tick period and the clock offset of its RTC, and the transaction.
Source: `hw/misc/apple-silicon/pmu-d2255.c` `PMUD2255State`
Kind: D -/
structure PMUD2255State extends PmuAlarmState where
  tickPeriod : UInt32
  rtcOffset : UInt64
  opState : PMUOpState
  addressState : PMUAddrState
  address : UInt16

/-! ## The RTC and the alarm at the D2255's registers -/

/-- The alarm registers: seconds in `RTC_ALARM_A..D`, control in `RTC_CONTROL`, the event in
`EVENT_C` and the mask in `IRQ_MASK_A`.
Source: `hw/misc/apple-silicon/pmu-d2255.c` `pmu_d2255_set_alarm`, `pmu_d2255_update_irq`
Kind: D -/
def pmuD2255AlarmRegs : PmuAlarmRegs := ⟨REG_RTC_ALARM_A, REG_RTC_CONTROL, REG_EVENT_C, REG_IRQ_MASK_A⟩

/-- Source: `hw/misc/apple-silicon/pmu-d2255.c` `rtc_get_tick`. Kind: D -/
def PMUD2255State.rtcGetTick (s : PMUD2255State) (now : UInt64) : UInt64 :=
  pmuRtcTick s.tickPeriod s.rtcOffset now

/-- Source: `hw/misc/apple-silicon/pmu-d2255.c` `pmu_d2255_update_irq`. Kind: D -/
def pmuD2255UpdateIrq (s : PMUD2255State) : PMUD2255State :=
  { s with toPmuAlarmState := pmuUpdateIrq pmuD2255AlarmRegs s.toPmuAlarmState }

/-- Source: `hw/misc/apple-silicon/pmu-d2255.c` `pmu_d2255_alarm`. Kind: D -/
def pmuD2255Alarm (s : PMUD2255State) : PMUD2255State :=
  { s with toPmuAlarmState := pmuAlarm pmuD2255AlarmRegs s.toPmuAlarmState }

/-- Source: `hw/misc/apple-silicon/pmu-d2255.c` `pmu_d2255_set_alarm`. Kind: D -/
def pmuD2255SetAlarm (s : PMUD2255State) (now : UInt64) : PMUD2255State :=
  { s with toPmuAlarmState :=
      pmuSetAlarm pmuD2255AlarmRegs s.tickPeriod s.rtcOffset now s.toPmuAlarmState }

@[simp] theorem pmuD2255SetAlarm_address (s : PMUD2255State) (now : UInt64) :
    (pmuD2255SetAlarm s now).address = s.address := rfl

/-- The six bytes `rx` stores at `REG_RTC_SUB_SECOND_A..REG_RTC_SECOND_D`, each truncated to
`uint8_t`: the tick shifted up by one, then its bits from 7, 15, 23, 31 and 39 on.
Source: `hw/misc/apple-silicon/pmu-d2255.c` `pmu_d2255_rx`
Kind: D -/
def pmuD2255RtcBytes (tick : UInt64) : List UInt8 :=
  [(tick <<< 1).toUInt8, (tick >>> 7).toUInt8, (tick >>> 15).toUInt8, (tick >>> 23).toUInt8,
    (tick >>> 31).toUInt8, (tick >>> 39).toUInt8]

/-- `pmu_d2255_set_tick_offset`: three overlapping 32-bit stores into the scratch registers.
Source: `hw/misc/apple-silicon/pmu-d2255.c` `pmu_d2255_set_tick_offset`
Kind: D -/
def pmuD2255SetTickOffset (s : PMUD2255State) (tickOffset : UInt64) : PMUD2255State :=
  let reg := stlLeP s.reg (REG_SCRATCH + OFF_SCRATCH_SECS_OFFSET) (tickOffset >>> 15).toUInt32
  let reg := stlLeP reg (REG_SCRATCH + OFF_SCRATCH_TICKS_OFFSET + 0) (tickOffset &&& 0xFF).toUInt32
  let reg := stlLeP reg (REG_SCRATCH + OFF_SCRATCH_TICKS_OFFSET + 1)
    ((tickOffset >>> 8) &&& 0x7F).toUInt32
  { s with reg := reg }

/-! ## The I2C slave -/

/-- `pmu_d2255_event`: a transaction starts only from none; a send starts at address `0`, its
high byte expected first. The result is the return code.
Source: `hw/misc/apple-silicon/pmu-d2255.c` `pmu_d2255_event`
Kind: D -/
def pmuD2255Event (s : PMUD2255State) : I2CEvent → PMUD2255State × ℤ
  | .startRecv => if s.opState ≠ .none then (s, -1) else ({ s with opState := .recv }, 0)
  | .startSend =>
    if s.opState ≠ .none then (s, -1)
    else ({ s with opState := .send, address := 0, addressState := .upper }, 0)
  | .startSendAsync => (s, -1)
  | .finish => ({ s with opState := .none }, 0)
  | .nack => (s, -1)

/-- `pmu_d2255_rx`: outside a receive with its address set, or past the register file, `0`;
otherwise the register at the address, which then counts up. A read inside
`REG_RTC_SUB_SECOND_A .. REG_RTC_SUB_SECOND_A + 6` first stores the snapshot of the tick at the
`rtc_clock` reading `now`.
Source: `hw/misc/apple-silicon/pmu-d2255.c` `pmu_d2255_rx`
Kind: D -/
def pmuD2255Rx (s : PMUD2255State) (now : UInt64) : UInt8 × PMUD2255State :=
  if s.opState ≠ .recv then (0, s)
  else if s.addressState ≠ .received then (0, s)
  else if REG_SIZE ≤ s.address.toNat then (0, s)
  else
    let s :=
      if REG_RTC_SUB_SECOND_A ≤ s.address.toNat ∧ s.address.toNat ≤ REG_RTC_SUB_SECOND_A + 6 then
        { s with reg := s.reg.write REG_RTC_SUB_SECOND_A (pmuD2255RtcBytes (s.rtcGetTick now)) }
      else s
    (s.reg s.address.toNat, { s with address := s.address + 1 })

/-- `pmu_d2255_tx`: in a send, the first byte is the address's high byte and the second its low
byte (`le16_to_cpu` is the identity on the little-endian hosts this runs on); every later byte is
stored at the address, which then counts up, and a store to the RTC control or an alarm byte
runs `set_alarm` at the `rtc_clock` reading `now`. The result is the return code.
Source: `hw/misc/apple-silicon/pmu-d2255.c` `pmu_d2255_tx`
Kind: D -/
def pmuD2255Tx (s : PMUD2255State) (data : UInt8) (now : UInt64) : PMUD2255State × ℤ :=
  if s.opState ≠ .send then (s, 0)
  else
    match s.addressState with
    | .upper => ({ s with address := s.address ||| (data.toUInt16 <<< 8), addressState := .lower }, 0)
    | .lower => ({ s with address := s.address ||| data.toUInt16, addressState := .received }, 0)
    | .received =>
      if s.opState = .recv then (s, -1)
      else if REG_SIZE ≤ s.address.toNat then (s, -1)
      else
        let s := { s with reg := Function.update s.reg s.address.toNat data }
        let s :=
          if s.address.toNat = REG_RTC_CONTROL ∨
              (REG_RTC_ALARM_A ≤ s.address.toNat ∧ s.address.toNat ≤ REG_RTC_ALARM_D) then
            pmuD2255SetAlarm s now
          else s
        ({ s with address := s.address + 1 }, 0)

/-- `pmu_d2255_reset`: no transaction, address `0`, the registers cleared but for the revision and
device identification bytes, which read `0xFF`. The timer and the line are left as they are.
Source: `hw/misc/apple-silicon/pmu-d2255.c` `pmu_d2255_reset`
Kind: D -/
def pmuD2255Reset (s : PMUD2255State) : PMUD2255State :=
  { s with
    opState := .none
    address := 0
    addressState := .upper
    reg := fun i => if REG_MASK_REV_CODE ≤ i ∧ i < REG_DEVICE_ID7 then 0xFF else 0 }

/-- `pmu_d2255_instance_init` at the `rtc_clock` reading `now`: the tick period of 32768 Hz, the
clock offset taken at `now`, and the scratch registers holding the tick computed while the
offset was still `0`.
Source: `hw/misc/apple-silicon/pmu-d2255.c` `pmu_d2255_instance_init`
Kind: D -/
def pmuD2255InstanceInit (now : UInt64) : PMUD2255State :=
  let s : PMUD2255State :=
    { reg := fun _ => 0, irq := false, timer := none, tickPeriod := frqToPeriodNs RTC_TICK_FREQ,
      rtcOffset := 0, opState := .none, addressState := .upper, address := 0 }
  pmuD2255SetTickOffset { s with rtcOffset := now } (s.rtcGetTick now)

/-- What the PMU sees: a bus event, a byte read or written (at an `rtc_clock` reading), the
alarm timer at a `QEMU_CLOCK_VIRTUAL` reading, or a reset.
Source: `hw/misc/apple-silicon/pmu-d2255.c` `pmu_d2255_class_init`
Kind: D -/
inductive PmuD2255Event
  | event (e : I2CEvent)
  | rx (now : UInt64)
  | tx (data : UInt8) (now : UInt64)
  | timer (vnow : ℤ)
  | reset

/-- One event: the new state and the byte read, if any. The timer fires once the virtual clock
has reached its deadline, and is then no longer armed.
Source: `hw/misc/apple-silicon/pmu-d2255.c` `pmu_d2255_class_init`
Kind: D -/
def pmuD2255Step (s : PMUD2255State) : PmuD2255Event → PMUD2255State × Option UInt8
  | .event e => ((pmuD2255Event s e).1, none)
  | .rx now => ((pmuD2255Rx s now).2, some (pmuD2255Rx s now).1)
  | .tx data now => ((pmuD2255Tx s data now).1, none)
  | .timer vnow =>
    match s.timer with
    | some d => if d ≤ vnow then (pmuD2255Alarm { s with timer := none }, none) else (s, none)
    | none => (s, none)
  | .reset => (pmuD2255Reset s, none)

/-- A sequence of events: the final state and the bytes read, in order. -/
def pmuD2255Run (s : PMUD2255State) : List PmuD2255Event → PMUD2255State × List UInt8
  | [] => (s, [])
  | e :: es =>
    let r := pmuD2255Run (pmuD2255Step s e).1 es
    (r.1, (pmuD2255Step s e).2.toList ++ r.2)

/-! ## Reading the RTC -/

/-- The D2255 stores the same six bytes as the SPMI PMU: truncating to `uint8_t` is masking with
`0xFF`.
Source: `hw/misc/apple-silicon/pmu-d2255.c` `pmu_d2255_rx`
Kind: L -/
theorem pmuD2255RtcBytes_eq_rtcBytes (tick : UInt64) : pmuD2255RtcBytes tick = rtcBytes tick := by
  have hmask : (255 : UInt8) = -1 := rfl
  simp [pmuD2255RtcBytes, rtcBytes, UInt64.toUInt8_and, hmask]

@[simp] theorem rtcBytes_length (tick : UInt64) : (rtcBytes tick).length = 6 := rfl

/-- A read at byte `i` of the snapshot returns byte `i` of the tick at its own clock reading, and
moves on to the next register.
Source: `hw/misc/apple-silicon/pmu-d2255.c` `pmu_d2255_rx`
Kind: L -/
theorem pmuD2255Rx_rtc {s : PMUD2255State} {i : ℕ} (hrecv : s.opState = .recv)
    (hrcv : s.addressState = .received) (hi : i < 6)
    (haddr : s.address.toNat = REG_RTC_SUB_SECOND_A + i) (now : UInt64) :
    pmuD2255Rx s now = ((rtcBytes (s.rtcGetTick now)).getD i 0,
      { s with
        reg := s.reg.write REG_RTC_SUB_SECOND_A (rtcBytes (s.rtcGetTick now))
        address := s.address + 1 }) := by
  have hin : REG_RTC_SUB_SECOND_A ≤ s.address.toNat ∧
      s.address.toNat ≤ REG_RTC_SUB_SECOND_A + 6 := by
    rw [haddr]
    omega
  have hsize : ¬ REG_SIZE ≤ s.address.toNat := by
    rw [haddr]
    unfold REG_SIZE REG_RTC_SUB_SECOND_A
    omega
  have hbyte : s.reg.write REG_RTC_SUB_SECOND_A (rtcBytes (s.rtcGetTick now)) s.address.toNat =
      (rtcBytes (s.rtcGetTick now)).getD i 0 := by
    rw [haddr, Mem.write_apply_of_mem _ _ _ (by simpa using hi), List.getD_eq_getElem]
  simp only [pmuD2255Rx, hrecv, hrcv, ne_eq, not_true_eq_false, if_false, hsize, if_pos hin,
    pmuD2255RtcBytes_eq_rtcBytes]
  rw [hbyte]

/-- A read of consecutive RTC bytes from byte `i` on, the clock read at `cs`: byte `i + j` comes
from the tick at reading `j`.
Source: `hw/misc/apple-silicon/pmu-d2255.c` `pmu_d2255_rx`
Kind: L -/
theorem pmuD2255Run_rtc_read (s : PMUD2255State) (hrecv : s.opState = .recv)
    (hrcv : s.addressState = .received) {i : ℕ}
    (haddr : s.address.toNat = REG_RTC_SUB_SECOND_A + i) (cs : List UInt64)
    (hlen : i + cs.length ≤ 6) :
    (pmuD2255Run s (cs.map .rx)).2 =
      cs.mapIdx fun j c => (rtcBytes (s.rtcGetTick c)).getD (i + j) 0 := by
  induction cs generalizing s i with
  | nil => rfl
  | cons c cs ih =>
    have hi : i < 6 := by
      simp only [List.length_cons] at hlen
      omega
    -- the next read is one register on, with the same RTC
    have haddr' : (s.address + 1).toNat = REG_RTC_SUB_SECOND_A + (i + 1) := by
      rw [UInt16.toNat_add, haddr, UInt16.toNat_one]
      unfold REG_RTC_SUB_SECOND_A
      omega
    have hrest := ih { s with
        reg := s.reg.write REG_RTC_SUB_SECOND_A (rtcBytes (s.rtcGetTick c))
        address := s.address + 1 } hrecv hrcv haddr' (by simp at hlen; omega)
    simp only [List.map_cons, pmuD2255Run, pmuD2255Step, pmuD2255Rx_rtc hrecv hrcv hi haddr c,
      Option.toList_some, List.singleton_append, List.mapIdx_cons, Nat.add_zero, hrest]
    congr 2
    funext j c'
    rw [Nat.add_assoc, Nat.add_comm 1 j]
    rfl

/-! ## Writing the RTC registers -/

section tx

variable {s : PMUD2255State} (data : UInt8) (now : UInt64)

/-- A register write in a send stores the byte at the address and moves on; a write to the RTC
control or an alarm byte runs `set_alarm` on the stored registers first.
Source: `hw/misc/apple-silicon/pmu-d2255.c` `pmu_d2255_tx`
Kind: L -/
theorem pmuD2255Tx_received (hsend : s.opState = .send) (hrcv : s.addressState = .received)
    (hsize : s.address.toNat < REG_SIZE) :
    pmuD2255Tx s data now =
      ({ (if s.address.toNat = REG_RTC_CONTROL ∨
            (REG_RTC_ALARM_A ≤ s.address.toNat ∧ s.address.toNat ≤ REG_RTC_ALARM_D) then
          pmuD2255SetAlarm { s with reg := Function.update s.reg s.address.toNat data } now
        else { s with reg := Function.update s.reg s.address.toNat data }) with
        address := s.address + 1 }, 0) := by
  simp only [pmuD2255Tx, hsend, hrcv, ne_eq, not_true_eq_false, if_false, reduceCtorEq,
    Nat.not_le.mpr hsize]
  split_ifs <;> simp only [pmuD2255SetAlarm_address]

/-- Writing the RTC control with `ALARM_EN` while the alarm seconds differ from the RTC seconds
stores the byte and arms the timer for their 32-bit difference after the clock reading; the
event, the line and every other register are left alone.
Source: `hw/misc/apple-silicon/pmu-d2255.c` `pmu_d2255_tx`, `pmu_d2255_set_alarm`
Kind: L -/
theorem pmuD2255Tx_alarm_of_ne (hsend : s.opState = .send) (hrcv : s.addressState = .received)
    (haddr : s.address.toNat = REG_RTC_CONTROL)
    (hen : data.toUInt32 &&& RTC_CONTROL_ALARM_EN ≠ 0)
    (hne : ldlLeP s.reg REG_RTC_ALARM_A ≠ (s.rtcGetTick now >>> 15).toUInt32) :
    (pmuD2255Tx s data now).1 =
      { s with
        reg := Function.update s.reg REG_RTC_CONTROL data
        timer := some ((now.toNat : ℤ) +
          (ldlLeP s.reg REG_RTC_ALARM_A - (s.rtcGetTick now >>> 15).toUInt32).toNat * 1000000000)
        address := s.address + 1 } := by
  have hsize : s.address.toNat < REG_SIZE := by
    rw [haddr]
    decide
  -- the stored control byte enables the alarm, and the alarm seconds are untouched
  have hctrl : ldlLeP (Function.update s.reg REG_RTC_CONTROL data) REG_RTC_CONTROL &&&
      RTC_CONTROL_ALARM_EN ≠ 0 := by
    rw [and_alarmEn_ne_zero_iff, bit_ldlLeP_of_lt _ _ (by decide), Function.update_self]
    exact (and_alarmEn_ne_zero_iff _).mp hen
  have halarm : ldlLeP (Function.update s.reg REG_RTC_CONTROL data) REG_RTC_ALARM_A =
      ldlLeP s.reg REG_RTC_ALARM_A :=
    ldlLeP_eq_of_unchanged (Mem.unchanged_update _ _ _) (Or.inr (by decide))
  have hne' : ldlLeP (Function.update s.reg REG_RTC_CONTROL data) REG_RTC_ALARM_A ≠
      (pmuRtcTick s.tickPeriod s.rtcOffset now >>> 15).toUInt32 := by
    rw [halarm]
    exact hne
  rw [pmuD2255Tx_received data now hsend hrcv hsize, haddr, if_pos (Or.inl rfl)]
  simp only [pmuD2255SetAlarm]
  rw [@pmuSetAlarm_of_ne pmuD2255AlarmRegs s.tickPeriod s.rtcOffset now
    ⟨Function.update s.reg REG_RTC_CONTROL data, s.irq, s.timer⟩ hctrl hne']
  simp only [pmuD2255AlarmRegs, halarm]
  rfl

/-- Writing the event register stores the byte and leaves the line alone: `update_irq` is not
run, so clearing the alarm event does not lower a raised line.
Source: `hw/misc/apple-silicon/pmu-d2255.c` `pmu_d2255_tx`
Kind: L -/
theorem pmuD2255Tx_event (hsend : s.opState = .send) (hrcv : s.addressState = .received)
    (haddr : s.address.toNat = REG_EVENT_C) :
    (pmuD2255Tx s data now).1.irq = s.irq ∧
      (ldlLeP (pmuD2255Tx s data now).1.reg REG_EVENT_C &&& RTC_EVENT_ALARM = 0 ↔
        data.toUInt32 &&& RTC_EVENT_ALARM = 0) := by
  have hsize : s.address.toNat < REG_SIZE := by
    rw [haddr]
    decide
  have hnot : ¬ (REG_EVENT_C = REG_RTC_CONTROL ∨
      (REG_RTC_ALARM_A ≤ REG_EVENT_C ∧ REG_EVENT_C ≤ REG_RTC_ALARM_D)) := by
    decide
  rw [pmuD2255Tx_received data now hsend hrcv hsize, haddr, if_neg hnot]
  refine ⟨rfl, ?_⟩
  simp only [and_eventAlarm_eq_zero_iff]
  rw [bit_ldlLeP_of_lt _ _ (by decide), Function.update_self]

end tx

/-! ## The tick of both PMUs goes back -/

/-- With the tick period both set at creation, the tick of each PMU goes down by 32767 one
nanosecond into each of the first 52 785 wraps of its tick count, where an RTC counting 32768
ticks in each second shows more; and each of the six RTC bytes of one sequential read from the
D2255 comes from its own reading of the clock.
Source: `hw/misc/apple-silicon/pmu-d2255.c` `rtc_get_tick`, `pmu_d2255_rx`;
`hw/misc/apple-silicon/spmi-pmu.c` `rtc_get_tick`
Kind: P -/
theorem pmu_rtc_tick_goes_back (s : PMUD2255State) (p : AppleSPMIPMURtc)
    (hs : s.tickPeriod = frqToPeriodNs RTC_TICK_FREQ)
    (hp : p.tickPeriod = frqToPeriodNs RTC_TICK_FREQ) (hrecv : s.opState = .recv)
    (hrcv : s.addressState = .received) (haddr : s.address.toNat = REG_RTC_SUB_SECOND_A)
    {k : ℕ} (hk1 : 1 ≤ k) (hk : k ≤ 52785) :
    (let t := s.rtcOffset + UInt64.ofNat (k * 999981056 - 1);
      s.rtcGetTick (t + 1) < s.rtcGetTick t ∧
        (s.rtcGetTick (t + 1)).toNat < rtcTickSpec (k * 999981056)) ∧
    (let t := p.rtcOffset + UInt64.ofNat (k * 999981056 - 1);
      p.rtcGetTick (t + 1) < p.rtcGetTick t ∧
        (p.rtcGetTick (t + 1)).toNat < rtcTickSpec (k * 999981056)) ∧
    ∀ cs : List UInt64, cs.length = 6 →
      (pmuD2255Run s (cs.map .rx)).2 = cs.mapIdx fun j c => (rtcBytes (s.rtcGetTick c)).getD j 0 := by
  refine ⟨?_, ?_, ?_⟩
  · unfold PMUD2255State.rtcGetTick
    rw [hs]
    exact pmuRtcTick_goes_back s.rtcOffset hk1 hk
  · unfold AppleSPMIPMURtc.rtcGetTick
    rw [hp]
    exact pmuRtcTick_goes_back p.rtcOffset hk1 hk
  · intro cs hlen
    have hread := pmuD2255Run_rtc_read s hrecv hrcv (i := 0) haddr cs (by omega)
    simpa only [Nat.zero_add] using hread

/-- A D2255 created at clock reading `0`, in a receive from `REG_RTC_SUB_SECOND_A`. -/
def pmuD2255ReadingRtc : PMUD2255State :=
  { pmuD2255InstanceInit 0 with
    opState := .recv
    addressState := .received
    address := 0x502 }

/-- An SPMI PMU with the tick period of its creation, its offsets all `0`. -/
def spmiPmuCreated : AppleSPMIPMURtc :=
  { tickOffset := 0, regLegScrpad := 0, regRtc := 0, regAlarm := 0, regAlarmCtrl := 0,
    reg := fun _ => 0, addr := 0, irq := false, timer := none, rtcOffset := 0,
    tickPeriod := frqToPeriodNs RTC_TICK_FREQ, regRtcIrqMask := 0, regAlarmEvent := 0 }

theorem pmu_rtc_tick_goes_back_created :
    pmuD2255ReadingRtc.rtcGetTick 999981056 < pmuD2255ReadingRtc.rtcGetTick 999981055 ∧
      (pmuD2255Run pmuD2255ReadingRtc
        ([999981055, 999981055, 1000000000, 1000000000, 1000000000, 1000000000].map .rx)).2 =
        [0xFE, 0xFF, 0x01, 0, 0, 0] := by
  obtain ⟨⟨hdrop, -⟩, -, hread⟩ := pmu_rtc_tick_goes_back pmuD2255ReadingRtc spmiPmuCreated rfl rfl
    rfl rfl rfl (k := 1) le_rfl (by decide)
  exact ⟨hdrop, by rw [hread _ rfl]; decide⟩

/-! ## The alarm of both PMUs -/

/-- Writing `ALARM_EN` while the alarm seconds are behind the RTC's does not raise the alarm:
both PMUs arm the timer for the 32-bit difference of the seconds, `2^32` less how far behind
they are, and leave the event and the line alone. And the guest clearing the D2255's alarm event
leaves its line as it was, raised or not: a register write never recomputes it.
Source: `hw/misc/apple-silicon/pmu-d2255.c` `pmu_d2255_tx`, `pmu_d2255_set_alarm`;
`hw/misc/apple-silicon/spmi-pmu.c` `apple_spmi_pmu_set_alarm`
Kind: P -/
theorem pmu_alarm_past_waits_and_clear_keeps_irq (s : PMUD2255State) (p : AppleSPMIPMURtc)
    (now : UInt64) (data : UInt8) (hsend : s.opState = .send)
    (hrcv : s.addressState = .received) :
    (s.address.toNat = REG_RTC_CONTROL → data.toUInt32 &&& RTC_CONTROL_ALARM_EN ≠ 0 →
      ldlLeP s.reg REG_RTC_ALARM_A < (s.rtcGetTick now >>> 15).toUInt32 →
      (pmuD2255Tx s data now).1 =
        { s with
          reg := Function.update s.reg REG_RTC_CONTROL data
          timer := some ((now.toNat : ℤ) + (2 ^ 32 - ((s.rtcGetTick now >>> 15).toUInt32.toNat -
            (ldlLeP s.reg REG_RTC_ALARM_A).toNat) : ℕ) * 1000000000)
          address := s.address + 1 }) ∧
    (ldlLeP p.reg p.regAlarmCtrl.toNat &&& RTC_CONTROL_ALARM_EN ≠ 0 →
      ldlLeP p.reg p.regAlarm.toNat < (p.rtcGetTick now >>> 15).toUInt32 →
      appleSpmiPmuSetAlarm p now =
        { p with
          timer := some ((now.toNat : ℤ) + (2 ^ 32 - ((p.rtcGetTick now >>> 15).toUInt32.toNat -
            (ldlLeP p.reg p.regAlarm.toNat).toNat) : ℕ) * 1000000000) }) ∧
    (s.address.toNat = REG_EVENT_C → data = 0 →
      (pmuD2255Tx s data now).1.irq = s.irq ∧
        ldlLeP (pmuD2255Tx s data now).1.reg REG_EVENT_C &&& RTC_EVENT_ALARM = 0) := by
  refine ⟨?_, ?_, ?_⟩
  · intro haddr hen hlt
    have hne : ldlLeP s.reg REG_RTC_ALARM_A ≠ (s.rtcGetTick now >>> 15).toUInt32 :=
      fun h => Nat.lt_irrefl _ (h ▸ UInt32.lt_iff_toNat_lt.mp hlt)
    rw [pmuD2255Tx_alarm_of_ne data now hsend hrcv haddr hen hne, uint32_toNat_sub_of_lt hlt]
  · intro hen hlt
    unfold appleSpmiPmuSetAlarm
    rw [@pmuSetAlarm_of_lt p.alarmRegs p.tickPeriod p.rtcOffset now p.toPmuAlarmState hen hlt]
    rfl
  · intro haddr hdata
    obtain ⟨hirq, hevent⟩ := pmuD2255Tx_event data now hsend hrcv haddr
    refine ⟨hirq, hevent.mpr ?_⟩
    rw [hdata]
    rfl

/-- A D2255 created at clock reading `0`, in a send at `REG_RTC_CONTROL`; its alarm seconds are
`0`. -/
def pmuD2255WritingControl : PMUD2255State :=
  { pmuD2255InstanceInit 0 with
    opState := .send
    addressState := .received
    address := 0x500 }

/-- An SPMI PMU whose alarm control at `0` has `ALARM_EN` set, its alarm seconds at `8` being `0`.
-/
def spmiPmuAlarmEnabled : AppleSPMIPMURtc :=
  { spmiPmuCreated with
    regAlarm := 8
    reg := fun i => if i = 0 then 0x40 else 0 }

theorem pmu_alarm_past_waits_and_clear_keeps_irq_five_seconds :
    (pmuD2255Tx pmuD2255WritingControl 0x40 5000000000).1.timer =
        some (5000000000 + (2 ^ 32 - 5 : ℕ) * 1000000000) ∧
      (appleSpmiPmuSetAlarm spmiPmuAlarmEnabled 5000000000).timer =
        some (5000000000 + (2 ^ 32 - 5 : ℕ) * 1000000000) ∧
      (pmuD2255Tx { pmuD2255WritingControl with address := 0x142, irq := true } 0 0).1.irq = true := by
  obtain ⟨hd, -, -⟩ := pmu_alarm_past_waits_and_clear_keeps_irq pmuD2255WritingControl
    spmiPmuAlarmEnabled 5000000000 0x40 rfl rfl
  obtain ⟨-, hp, -⟩ := pmu_alarm_past_waits_and_clear_keeps_irq pmuD2255WritingControl
    spmiPmuAlarmEnabled 5000000000 0x40 rfl rfl
  obtain ⟨-, -, hc⟩ := pmu_alarm_past_waits_and_clear_keeps_irq
    { pmuD2255WritingControl with address := 0x142, irq := true } spmiPmuAlarmEnabled 0 0 rfl rfl
  refine ⟨?_, ?_, (hc rfl rfl).1⟩
  · rw [hd rfl (by decide) (by decide)]
    decide
  · rw [hp (by decide) (by decide)]
    decide

end QemuAppleSilicon.Misc
