import QemuAppleSilicon.Lib.NarrowLoop
import QemuAppleSilicon.Misc.PmuRtc

/-!
# The SPMI PMU's register file (`hw/misc/apple-silicon/spmi-pmu.c`)

The PMU is an SPMI slave with a byte register file `reg[0xFFFF]`. An extended-register command
sets the transfer address `p->addr`; `apple_spmi_pmu_send` and `apple_spmi_pmu_recv` then copy
`len` bytes between the bus buffer and the registers in the loop

    for (addr = p->addr; addr < p->addr + len; addr++)

over a `uint16_t addr`, compared with the `int` bound `p->addr + len`. That loop is
`Lib.narrowLoop 16`, traced with the register and buffer index of each iteration.

When `p->addr + len ≤ 0xFFFF` a transfer makes `len` accesses inside the register file and the
buffer and leaves `p->addr` just past them (`appleSpmiPmuSend_of_lt`, `appleSpmiPmuRecv_of_lt`).
When the bound reaches `0x10000` the counter never reaches it: the loop touches `reg[0xFFFF]`,
one past the array, wraps to `0` with a negative buffer index, and never returns.

The RTC clock read by `rtc_get_tick` is the parameter `now`; the alarm timer that a send re-arms
is left out, and the send reports whether it would re-arm it. `AppleSPMIPMURtc` adds what the RTC
and the alarm of `Misc.PmuRtc` read and write, and `appleSpmiPmuSendRtc` is the send followed by
the `set_alarm` it calls.
-/

namespace QemuAppleSilicon.Misc

open QemuAppleSilicon.Lib QemuAppleSilicon.Qemu

/-! ## State -/

/-- Source: `hw/misc/apple-silicon/spmi-pmu.c` `LEG_SCRPAD_OFFSET_SECS_OFFSET`. Kind: D -/
def LEG_SCRPAD_OFFSET_SECS_OFFSET : UInt32 := 4

/-- Source: `hw/misc/apple-silicon/spmi-pmu.c` `LEG_SCRPAD_OFFSET_TICKS_OFFSET`. Kind: D -/
def LEG_SCRPAD_OFFSET_TICKS_OFFSET : UInt32 := 21

/-- The number of bytes of `reg`: indices from this one on are past the array.
Source: `hw/misc/apple-silicon/spmi-pmu.c` `AppleSPMIPMUState` (`uint8_t reg[0xFFFF]`)
Kind: D -/
def APPLE_SPMI_PMU_REG_SIZE : ℕ := 0xFFFF

/-- The fields of the PMU that a transfer reads or writes; the register offsets come from the
device tree. `reg` is the register file and the memory after it, indexed from its start.
Source: `hw/misc/apple-silicon/spmi-pmu.c` `AppleSPMIPMUState`
Kind: D -/
structure AppleSPMIPMUState where
  tickOffset : UInt64
  regLegScrpad : UInt32
  regRtc : UInt32
  regAlarm : UInt32
  regAlarmCtrl : UInt32
  reg : Mem
  addr : UInt16

/-- What one iteration of a transfer touches: `reg[regIndex]` and `data[dataIndex]`.
Source: `hw/misc/apple-silicon/spmi-pmu.c` `apple_spmi_pmu_send`, `apple_spmi_pmu_recv`
Kind: D -/
structure SpmiAccess where
  regIndex : ℕ
  dataIndex : ℤ
deriving DecidableEq, Repr

/-- The access at register address `addr` of a transfer that started at `a`: the buffer index is
`addr - p->addr`, computed in `int`.
Source: `hw/misc/apple-silicon/spmi-pmu.c` `apple_spmi_pmu_send`
Kind: D -/
def spmiAccess (a : UInt16) (addr : ℕ) : SpmiAccess := ⟨addr, (addr : ℤ) - a.toNat⟩

@[simp] theorem spmiAccess_add (a : UInt16) (i : ℕ) : spmiAccess a (a.toNat + i) = ⟨a.toNat + i, i⟩ := by
  simp [spmiAccess]

/-! ## The transfer loop -/

/-- `for (addr = p->addr; addr < p->addr + len; addr++) s = step addr s`, traced.
Source: `hw/misc/apple-silicon/spmi-pmu.c` `apple_spmi_pmu_send`, `apple_spmi_pmu_recv`
Kind: D -/
def appleSpmiPmuLoop {σ : Type*} (step : ℕ → σ → σ) (a : UInt16) (len : UInt8) :
    ℕ → ℕ → σ × List SpmiAccess → Option (ℕ × σ × List SpmiAccess) :=
  narrowLoop 16 (a.toNat + len.toNat) (traced step (spmiAccess a))

/-- `apple_spmi_pmu_get_tick_offset`: seconds and ticks from the legacy scratch pad.
Source: `hw/misc/apple-silicon/spmi-pmu.c` `apple_spmi_pmu_get_tick_offset`
Kind: D -/
def appleSpmiPmuGetTickOffset (s : AppleSPMIPMUState) : UInt64 :=
  ((ldlLeP s.reg (s.regLegScrpad + LEG_SCRPAD_OFFSET_SECS_OFFSET).toNat).toUInt64 <<< 15) +
    ((ldlLeP s.reg (s.regLegScrpad + LEG_SCRPAD_OFFSET_TICKS_OFFSET).toNat) &&& 0x7FFF).toUInt64

/-- The send loop touches the scratch pad's seconds word or its two tick bytes.
Source: `hw/misc/apple-silicon/spmi-pmu.c` `apple_spmi_pmu_send`
Kind: D -/
def inLegScrpad (p : AppleSPMIPMUState) (addr : ℕ) : Bool :=
  ((p.regLegScrpad + LEG_SCRPAD_OFFSET_SECS_OFFSET).toNat ≤ addr &&
      addr < (p.regLegScrpad + LEG_SCRPAD_OFFSET_SECS_OFFSET + 4).toNat) ||
    ((p.regLegScrpad + LEG_SCRPAD_OFFSET_TICKS_OFFSET).toNat ≤ addr &&
      addr < (p.regLegScrpad + LEG_SCRPAD_OFFSET_TICKS_OFFSET + 2).toNat)

/-- One iteration of the send loop: store the buffer byte, note an alarm register, and reload the
tick offset after a scratch-pad write. The flag is `aflg`.
Source: `hw/misc/apple-silicon/spmi-pmu.c` `apple_spmi_pmu_send`
Kind: D -/
def appleSpmiPmuSendStep (a : UInt16) (data : ℤ → UInt8) (addr : ℕ)
    (x : AppleSPMIPMUState × Bool) : AppleSPMIPMUState × Bool :=
  let p := { x.1 with reg := Function.update x.1.reg addr (data ((addr : ℤ) - a.toNat)) }
  let aflg := x.2 || addr == p.regAlarmCtrl.toNat ||
    (p.regAlarm.toNat ≤ addr && addr < (p.regAlarm + 4).toNat)
  if inLegScrpad p addr then ({ p with tickOffset := appleSpmiPmuGetTickOffset p }, aflg)
  else (p, aflg)

/-- `apple_spmi_pmu_send` with at most `fuel` iterations: the state with `p->addr` past the last
byte, whether the alarm is re-armed, the accesses, and the returned `len`.
Source: `hw/misc/apple-silicon/spmi-pmu.c` `apple_spmi_pmu_send`
Kind: D -/
def appleSpmiPmuSend (p : AppleSPMIPMUState) (data : ℤ → UInt8) (len : UInt8) (fuel : ℕ) :
    Option (AppleSPMIPMUState × Bool × List SpmiAccess × ℕ) :=
  (appleSpmiPmuLoop (appleSpmiPmuSendStep p.addr data) p.addr len fuel p.addr.toNat
      ((p, false), [])).map
    fun r => ({ r.2.1.1 with addr := UInt16.ofNat r.1 }, r.2.1.2, r.2.2, len.toNat)

/-- The six bytes of the RTC snapshot, `reg_rtc + 0` to `reg_rtc + 5`.
Source: `hw/misc/apple-silicon/spmi-pmu.c` `apple_spmi_pmu_recv`
Kind: D -/
def rtcBytes (now : UInt64) : List UInt8 :=
  [((now <<< 1) &&& 0xFF).toUInt8, ((now >>> 7) &&& 0xFF).toUInt8,
    ((now >>> 15) &&& 0xFF).toUInt8, ((now >>> 23) &&& 0xFF).toUInt8,
    ((now >>> 31) &&& 0xFF).toUInt8, ((now >>> 39) &&& 0xFF).toUInt8]

/-- Store the RTC snapshot at `reg_rtc + k`, the offset computed in `uint32_t`.
Source: `hw/misc/apple-silicon/spmi-pmu.c` `apple_spmi_pmu_recv`
Kind: D -/
def rtcSnapshot (reg : Mem) (regRtc : UInt32) (now : UInt64) : Mem :=
  (rtcBytes now).zipIdx.foldl (fun m b => Function.update m (regRtc + UInt32.ofNat b.2).toNat b.1)
    reg

/-- One iteration of the receive loop: refresh the RTC snapshot when the address falls in it,
then copy the register into the buffer.
Source: `hw/misc/apple-silicon/spmi-pmu.c` `apple_spmi_pmu_recv`
Kind: D -/
def appleSpmiPmuRecvStep (a : UInt16) (now : UInt64) (addr : ℕ)
    (x : AppleSPMIPMUState × (ℤ → UInt8)) : AppleSPMIPMUState × (ℤ → UInt8) :=
  let p := if x.1.regRtc.toNat ≤ addr && addr < (x.1.regRtc + 6).toNat then
      { x.1 with reg := rtcSnapshot x.1.reg x.1.regRtc now }
    else x.1
  (p, Function.update x.2 ((addr : ℤ) - a.toNat) (p.reg addr))

/-- `apple_spmi_pmu_recv` with at most `fuel` iterations, the clock reading `now`: the state with
`p->addr` past the last byte, the buffer, the accesses, and the returned `len`.
Source: `hw/misc/apple-silicon/spmi-pmu.c` `apple_spmi_pmu_recv`
Kind: D -/
def appleSpmiPmuRecv (p : AppleSPMIPMUState) (now : UInt64) (data : ℤ → UInt8) (len : UInt8)
    (fuel : ℕ) : Option (AppleSPMIPMUState × (ℤ → UInt8) × List SpmiAccess × ℕ) :=
  (appleSpmiPmuLoop (appleSpmiPmuRecvStep p.addr now) p.addr len fuel p.addr.toNat
      ((p, data), [])).map
    fun r => ({ r.2.1.1 with addr := UInt16.ofNat r.1 }, r.2.1.2, r.2.2, len.toNat)

/-- Source: `include/hw/spmi/spmi.h` `SPMI_CMD_EXT_WRITE`. Kind: D -/
def SPMI_CMD_EXT_WRITE : UInt8 := 0x00

/-- Source: `include/hw/spmi/spmi.h` `SPMI_CMD_EXT_READ`. Kind: D -/
def SPMI_CMD_EXT_READ : UInt8 := 0x20

/-- Source: `include/hw/spmi/spmi.h` `SPMI_CMD_EXT_WRITEL`. Kind: D -/
def SPMI_CMD_EXT_WRITEL : UInt8 := 0x30

/-- Source: `include/hw/spmi/spmi.h` `SPMI_CMD_EXT_READL`. Kind: D -/
def SPMI_CMD_EXT_READL : UInt8 := 0x38

/-- `apple_spmi_pmu_command`: take the transfer address; accept the extended-register opcodes.
Source: `hw/misc/apple-silicon/spmi-pmu.c` `apple_spmi_pmu_command`
Kind: D -/
def appleSpmiPmuCommand (p : AppleSPMIPMUState) (opcode : UInt8) (addr : UInt16) :
    AppleSPMIPMUState × ℕ :=
  ({ p with addr := addr },
    if opcode = SPMI_CMD_EXT_READ ∨ opcode = SPMI_CMD_EXT_READL ∨ opcode = SPMI_CMD_EXT_WRITE ∨
        opcode = SPMI_CMD_EXT_WRITEL then 0
    else 1)

/-! ## Transfers inside the register file -/

section

variable {σ : Type*} (step : ℕ → σ → σ) (a : UInt16) (len : UInt8)

/-- A transfer whose last address is at most `0xFFFE` runs `len` iterations, at the addresses
`a, …, a + len - 1` and buffer indices `0, …, len - 1`, and stops at `a + len`.
Source: `hw/misc/apple-silicon/spmi-pmu.c` `apple_spmi_pmu_send`
Kind: L -/
theorem appleSpmiPmuLoop_of_lt (h : a.toNat + len.toNat < 2 ^ 16) (fuel : ℕ)
    (hfuel : len.toNat ≤ fuel) (s : σ) :
    appleSpmiPmuLoop step a len fuel a.toNat (s, []) =
      some (a.toNat + len.toNat, narrowIterate step a.toNat len.toNat s,
        (List.range len.toNat).map fun i => ⟨a.toNat + i, i⟩) := by
  unfold appleSpmiPmuLoop
  rw [narrowLoop_eq_some h fuel _ _ (Nat.le_add_right _ _) (by omega), Nat.add_sub_cancel_left,
    narrowIterate_traced]
  simp

/-- The accesses of such a transfer stay inside the register file and the buffer.
Source: `hw/misc/apple-silicon/spmi-pmu.c` `apple_spmi_pmu_send`
Kind: L -/
theorem mem_range_map_access {a len : ℕ} (h : a + len ≤ APPLE_SPMI_PMU_REG_SIZE) {x : SpmiAccess}
    (hx : x ∈ (List.range len).map fun i => (⟨a + i, i⟩ : SpmiAccess)) :
    x.regIndex < APPLE_SPMI_PMU_REG_SIZE ∧ 0 ≤ x.dataIndex ∧ x.dataIndex < len := by
  obtain ⟨i, hi, rfl⟩ := List.mem_map.mp hx
  have hi' : i < len := List.mem_range.mp hi
  refine ⟨?_, ?_, ?_⟩
  · show a + i < APPLE_SPMI_PMU_REG_SIZE
    omega
  · show (0 : ℤ) ≤ i
    omega
  · show (i : ℤ) < len
    omega

end

/-! ## Transfers that reach the end of the register file -/

section

variable {σ : Type*} (step : ℕ → σ → σ) (a : UInt16) (len : UInt8)

/-- A transfer whose bound is `0x10000` or more never stops: the 16-bit counter stays below it.
Source: `hw/misc/apple-silicon/spmi-pmu.c` `apple_spmi_pmu_send`
Kind: L -/
theorem appleSpmiPmuLoop_eq_none (h : 2 ^ 16 ≤ a.toNat + len.toNat) (fuel : ℕ)
    (x : σ × List SpmiAccess) : appleSpmiPmuLoop step a len fuel a.toNat x = none :=
  narrowLoop_eq_none h fuel _ _ a.toNat_lt

/-- On the way, such a transfer accesses `reg[0xFFFF]`, one past the register file, and goes on
from counter `0`: after `0x10000 - a` iterations the loop is back at the start of the file.
Source: `hw/misc/apple-silicon/spmi-pmu.c` `apple_spmi_pmu_send`
Kind: L -/
theorem appleSpmiPmuLoop_wrap (h : 2 ^ 16 ≤ a.toNat + len.toNat) (s : σ) :
    ∃ x : σ × List SpmiAccess, ⟨APPLE_SPMI_PMU_REG_SIZE, APPLE_SPMI_PMU_REG_SIZE - a.toNat⟩ ∈ x.2 ∧
      ∀ fuel, appleSpmiPmuLoop step a len (fuel + (2 ^ 16 - a.toNat)) a.toNat (s, []) =
        appleSpmiPmuLoop step a len fuel 0 x := by
  have ha := a.toNat_lt
  refine ⟨(narrowIterate step a.toNat (2 ^ 16 - a.toNat) s,
    (List.range (2 ^ 16 - a.toNat)).map fun i => spmiAccess a (a.toNat + i)), ?_, ?_⟩
  · -- the last iteration before the wrap is at counter `0xFFFF`
    refine List.mem_map.mpr ⟨2 ^ 16 - 1 - a.toNat, List.mem_range.mpr (by omega), ?_⟩
    rw [spmiAccess_add]
    simp only [APPLE_SPMI_PMU_REG_SIZE, SpmiAccess.mk.injEq]
    omega
  · intro fuel
    unfold appleSpmiPmuLoop
    rw [narrowLoop_wrap h fuel _ _ ha, narrowIterate_traced, List.nil_append]

end

/-! ## Send and receive -/

section

variable (p : AppleSPMIPMUState) (len : UInt8)

/-- A send that ends by `0xFFFE` makes `len` accesses inside the register file and `data[0..len)`
and leaves `p->addr` just past them.
Source: `hw/misc/apple-silicon/spmi-pmu.c` `apple_spmi_pmu_send`
Kind: L -/
theorem appleSpmiPmuSend_of_lt (data : ℤ → UInt8)
    (h : p.addr.toNat + len.toNat ≤ APPLE_SPMI_PMU_REG_SIZE) (fuel : ℕ)
    (hfuel : len.toNat ≤ fuel) :
    ∃ p' aflg, appleSpmiPmuSend p data len fuel =
        some (p', aflg, (List.range len.toNat).map fun i => ⟨p.addr.toNat + i, i⟩, len.toNat) ∧
      p'.addr.toNat = p.addr.toNat + len.toNat := by
  have hlt : p.addr.toNat + len.toNat < 2 ^ 16 := by
    unfold APPLE_SPMI_PMU_REG_SIZE at h
    omega
  unfold appleSpmiPmuSend
  rw [appleSpmiPmuLoop_of_lt _ _ _ hlt fuel hfuel, Option.map_some]
  refine ⟨_, _, rfl, ?_⟩
  show (UInt16.ofNat (p.addr.toNat + len.toNat)).toNat = p.addr.toNat + len.toNat
  rw [UInt16.toNat_ofNat_of_lt' hlt]

/-- A receive that ends by `0xFFFE` makes `len` accesses inside the register file and
`data[0..len)` and leaves `p->addr` just past them.
Source: `hw/misc/apple-silicon/spmi-pmu.c` `apple_spmi_pmu_recv`
Kind: L -/
theorem appleSpmiPmuRecv_of_lt (now : UInt64) (data : ℤ → UInt8)
    (h : p.addr.toNat + len.toNat ≤ APPLE_SPMI_PMU_REG_SIZE) (fuel : ℕ)
    (hfuel : len.toNat ≤ fuel) :
    ∃ p' data', appleSpmiPmuRecv p now data len fuel =
        some (p', data', (List.range len.toNat).map fun i => ⟨p.addr.toNat + i, i⟩, len.toNat) ∧
      p'.addr.toNat = p.addr.toNat + len.toNat := by
  have hlt : p.addr.toNat + len.toNat < 2 ^ 16 := by
    unfold APPLE_SPMI_PMU_REG_SIZE at h
    omega
  unfold appleSpmiPmuRecv
  rw [appleSpmiPmuLoop_of_lt _ _ _ hlt fuel hfuel, Option.map_some]
  refine ⟨_, _, rfl, ?_⟩
  show (UInt16.ofNat (p.addr.toNat + len.toNat)).toNat = p.addr.toNat + len.toNat
  rw [UInt16.toNat_ofNat_of_lt' hlt]

/-- A send or a receive whose last address would be past `0xFFFE` never returns.
Source: `hw/misc/apple-silicon/spmi-pmu.c` `apple_spmi_pmu_send`, `apple_spmi_pmu_recv`
Kind: P -/
theorem apple_spmi_pmu_transfer_never_returns (now : UInt64) (data : ℤ → UInt8)
    (h : APPLE_SPMI_PMU_REG_SIZE < p.addr.toNat + len.toNat) (fuel : ℕ) :
    appleSpmiPmuSend p data len fuel = none ∧ appleSpmiPmuRecv p now data len fuel = none := by
  have hge : 2 ^ 16 ≤ p.addr.toNat + len.toNat := by
    unfold APPLE_SPMI_PMU_REG_SIZE at h
    omega
  constructor
  · unfold appleSpmiPmuSend
    rw [appleSpmiPmuLoop_eq_none _ _ _ hge, Option.map_none]
  · unfold appleSpmiPmuRecv
    rw [appleSpmiPmuLoop_eq_none _ _ _ hge, Option.map_none]

end

/-- A PMU with its transfer address at the last register, `0xFFFF`. -/
def topAddressPmu : AppleSPMIPMUState :=
  ⟨0, 0, 0, 0, 0, fun _ => 0, 0xFFFF⟩

/-- A one-byte transfer at `0xFFFF`, which the controller issues for an extended command at that
address, never returns.
Source: `hw/misc/apple-silicon/spmi-pmu.c` `apple_spmi_pmu_send`
Kind: P -/
theorem apple_spmi_pmu_transfer_never_returns_at_top :
    APPLE_SPMI_PMU_REG_SIZE < topAddressPmu.addr.toNat + (1 : UInt8).toNat ∧
      ∀ fuel, appleSpmiPmuSend topAddressPmu (fun _ => 0) 1 fuel = none ∧
        appleSpmiPmuRecv topAddressPmu 0 (fun _ => 0) 1 fuel = none :=
  ⟨by decide, apple_spmi_pmu_transfer_never_returns topAddressPmu 1 0 (fun _ => 0) (by decide)⟩

/-! ## The RTC and the alarm -/

/-- The PMU with the fields its RTC and alarm use beyond a transfer's: the clock offset and the
tick period, the offsets of the interrupt mask and of the alarm event, and, as in the D2255, the
interrupt line and the alarm timer.
Source: `hw/misc/apple-silicon/spmi-pmu.c` `AppleSPMIPMUState`
Kind: D -/
structure AppleSPMIPMURtc extends AppleSPMIPMUState, PmuAlarmState where
  rtcOffset : UInt64
  tickPeriod : UInt32
  regRtcIrqMask : UInt32
  regAlarmEvent : UInt32

namespace AppleSPMIPMURtc

/-- The alarm registers at the offsets the device tree gave.
Source: `hw/misc/apple-silicon/spmi-pmu.c` `apple_spmi_pmu_create`
Kind: D -/
def alarmRegs (p : AppleSPMIPMURtc) : PmuAlarmRegs :=
  ⟨p.regAlarm.toNat, p.regAlarmCtrl.toNat, p.regAlarmEvent.toNat, p.regRtcIrqMask.toNat⟩

/-- The PMU with the registers, the line and the timer of `a`. -/
def withAlarm (p : AppleSPMIPMURtc) (a : PmuAlarmState) : AppleSPMIPMURtc :=
  { p with reg := a.reg, irq := a.irq, timer := a.timer }

/-- Source: `hw/misc/apple-silicon/spmi-pmu.c` `rtc_get_tick`. Kind: D -/
def rtcGetTick (p : AppleSPMIPMURtc) (now : UInt64) : UInt64 :=
  pmuRtcTick p.tickPeriod p.rtcOffset now

end AppleSPMIPMURtc

/-- Source: `hw/misc/apple-silicon/spmi-pmu.c` `apple_spmi_pmu_update_irq`. Kind: D -/
def appleSpmiPmuUpdateIrq (p : AppleSPMIPMURtc) : AppleSPMIPMURtc :=
  p.withAlarm (pmuUpdateIrq p.alarmRegs p.toPmuAlarmState)

/-- Source: `hw/misc/apple-silicon/spmi-pmu.c` `apple_spmi_pmu_alarm`. Kind: D -/
def appleSpmiPmuAlarm (p : AppleSPMIPMURtc) : AppleSPMIPMURtc :=
  p.withAlarm (pmuAlarm p.alarmRegs p.toPmuAlarmState)

/-- Source: `hw/misc/apple-silicon/spmi-pmu.c` `apple_spmi_pmu_set_alarm`. Kind: D -/
def appleSpmiPmuSetAlarm (p : AppleSPMIPMURtc) (now : UInt64) : AppleSPMIPMURtc :=
  p.withAlarm (pmuSetAlarm p.alarmRegs p.tickPeriod p.rtcOffset now p.toPmuAlarmState)

/-- `apple_spmi_pmu_send` with the `set_alarm` it calls when it wrote an alarm register, at the
`rtc_clock` reading `now`: the state, the accesses and the returned `len`.
Source: `hw/misc/apple-silicon/spmi-pmu.c` `apple_spmi_pmu_send`
Kind: D -/
def appleSpmiPmuSendRtc (p : AppleSPMIPMURtc) (now : UInt64) (data : ℤ → UInt8) (len : UInt8)
    (fuel : ℕ) : Option (AppleSPMIPMURtc × List SpmiAccess × ℕ) :=
  (appleSpmiPmuSend p.toAppleSPMIPMUState data len fuel).map fun r =>
    let p' := { p with toAppleSPMIPMUState := r.1 }
    (if r.2.1 then appleSpmiPmuSetAlarm p' now else p', r.2.2.1, r.2.2.2)

end QemuAppleSilicon.Misc
