import QemuAppleSilicon.I2c.Transcript

/-!
# The I2C core under the controller (`hw/i2c/core.c`)

`i2cCore` is QEMU's bus as the controller sees it, an `I2CBus` over `I2CCoreState`: the states of
the devices, the devices the transfer in progress addresses (`current_devs`) and whether it is a
broadcast. A start scans the bus only when no transfer is in progress, so a repeated start keeps
the devices it had and ignores its address (`i2cDoStartTransfer_of_busy`), except that address
`0x00` turns the transfer into a broadcast; a broadcast ignores every refusal, and `i2c_recv`
then answers `0xff` without asking a device (`i2cRecv_of_broadcast`). Only `i2c_end_transfer`
clears it.

Put under the controller, this is what the restart address of
`apple_i2c_turnaround_restarts_at_command_byte` does. A `READ` of `len` bytes after a write phase
restarts at `len >>> 1`: from two bytes up the restart reaches the device the `START` chose and
the transfer stays addressed to it (`apple_i2c_read_after_write_keeps_devices`); a `READ` of one
byte restarts at the broadcast address, and pushes `0xff` with no device read
(`apple_i2c_short_read_after_write_broadcasts`).

Devices match by their own address (`i2c_slave_match`); a device class with its own
`match_and_add`, the PCA954x mux, is not modelled.
-/

namespace QemuAppleSilicon.I2c

/-- Source: `include/hw/i2c/i2c.h` `enum i2c_event`. Kind: D -/
inductive I2CEvent
  | startRecv
  | startSend
  | startSendAsync
  | finish
  | nack
  deriving DecidableEq, Repr

/-- A device on the bus: its address and its class's handlers on the device state `τ`: `event`
(`true` for a nonzero result), `recv` and `send` (`true` for a nonzero result). A class that
leaves a handler unset is the device whose `event` keeps its state and answers `0`, whose `recv`
keeps it and answers `0xff`, whose `send` answers `-1`.
Source: `include/hw/i2c/i2c.h` `I2CSlave`, `I2CSlaveClass`
Kind: D -/
structure I2CSlave (τ : Type) where
  address : UInt8
  event : τ → I2CEvent → τ × Bool
  recv : τ → τ × UInt8
  send : τ → UInt8 → τ × Bool

/-- Source: `include/hw/i2c/i2c.h` `I2C_BROADCAST`. Kind: D -/
def I2C_BROADCAST : UInt8 := 0x00

/-- The bus: the state of each device, by its place among the bus's children; the devices the
transfer in progress addresses, in list order; and whether it is a broadcast.
Source: `include/hw/i2c/i2c.h` `I2CBus`
Kind: D -/
structure I2CCoreState (τ : Type) where
  slaves : ℕ → τ
  currentDevs : List ℕ
  broadcast : Bool

section core

variable {τ : Type} (slave : ℕ → I2CSlave τ) (kids : List ℕ)

/-- `i2c_scan_bus` into an empty `current_devs`, over the children in the order the bus keeps
them: a child that matches (`i2c_slave_match`: its address, or any child on a broadcast) is
inserted at the head of the list, and without broadcast the scan stops at the first match. The
caller disregards the result, so it is not modelled.
Source: `hw/i2c/core.c` `i2c_scan_bus`, `i2c_slave_match`
Kind: D -/
def i2cScanBus (address : UInt8) (broadcast : Bool) : List ℕ → List ℕ → List ℕ
  | [], current => current
  | i :: rest, current =>
    if (slave i).address = address ∨ broadcast = true then
      if broadcast then i2cScanBus address broadcast rest (i :: current) else i :: current
    else i2cScanBus address broadcast rest current

/-- The loop of `i2c_do_start_transfer`: each current device gets the start event in turn, and
the first to refuse ends the loop unless the transfer is a broadcast.
Source: `hw/i2c/core.c` `i2c_do_start_transfer`
Kind: D -/
def i2cStartEvents (event : I2CEvent) (broadcast : Bool) : List ℕ → (ℕ → τ) → (ℕ → τ) × Bool
  | [], st => (st, false)
  | i :: rest, st =>
    let (t, rv) := (slave i).event (st i) event
    let st := Function.update st i t
    if rv && !broadcast then (st, true) else i2cStartEvents event broadcast rest st

/-- The `I2C_FINISH` events of `i2c_end_transfer`.
Source: `hw/i2c/core.c` `i2c_end_transfer`
Kind: D -/
def i2cFinishEvents : List ℕ → (ℕ → τ) → (ℕ → τ)
  | [], st => st
  | i :: rest, st => i2cFinishEvents rest (Function.update st i ((slave i).event (st i) .finish).1)

/-- Every current device is told the transfer is over, the list is emptied and the broadcast
flag cleared.
Source: `hw/i2c/core.c` `i2c_end_transfer`
Kind: D -/
def i2cEndTransfer (s : I2CCoreState τ) : I2CCoreState τ :=
  { slaves := i2cFinishEvents slave s.currentDevs s.slaves, currentDevs := [], broadcast := false }

/-- Start or continue a transfer. Address `0x00` makes it a broadcast; the bus is scanned only
when no transfer is in progress; with no device the result is `1`; a device that refuses the
start ends the transfer when the bus was scanned for it, and fails the call unless it is a
broadcast.
Source: `hw/i2c/core.c` `i2c_do_start_transfer`
Kind: D -/
def i2cDoStartTransfer (s : I2CCoreState τ) (address : UInt8) (event : I2CEvent) :
    I2CCoreState τ × Bool :=
  let broadcast := s.broadcast || address == I2C_BROADCAST
  let scanned := s.currentDevs.isEmpty
  let current := if scanned then i2cScanBus slave address broadcast kids [] else s.currentDevs
  let s := { s with currentDevs := current, broadcast := broadcast }
  if current.isEmpty then (s, true)
  else
    let (slaves, failed) := i2cStartEvents slave event broadcast current s.slaves
    let s := { s with slaves := slaves }
    if failed then (if scanned then i2cEndTransfer slave s else s, true) else (s, false)

/-- Source: `hw/i2c/core.c` `i2c_start_transfer`. Kind: D -/
def i2cStartTransfer (s : I2CCoreState τ) (address : UInt8) (isRecv : Bool) :
    I2CCoreState τ × Bool :=
  i2cDoStartTransfer slave kids s address (if isRecv then .startRecv else .startSend)

/-- The first current device sends a byte, unless the transfer is a broadcast or addresses no
device: the answer is then `0xff`.
Source: `hw/i2c/core.c` `i2c_recv`
Kind: D -/
def i2cRecv (s : I2CCoreState τ) : I2CCoreState τ × UInt8 :=
  match s.currentDevs, s.broadcast with
  | i :: _, false =>
    let (t, data) := (slave i).recv (s.slaves i)
    ({ s with slaves := Function.update s.slaves i t }, data)
  | _, _ => (s, 0xff)

/-- `ret = ret || sc->send(s, data)` over the current devices: once one has refused, the rest are
not called.
Source: `hw/i2c/core.c` `i2c_send`
Kind: D -/
def i2cSendLoop (data : UInt8) : List ℕ → (ℕ → τ) → Bool → (ℕ → τ) × Bool
  | [], st, ret => (st, ret)
  | i :: rest, st, ret =>
    if ret then i2cSendLoop data rest st ret
    else
      let (t, nak) := (slave i).send (st i) data
      i2cSendLoop data rest (Function.update st i t) nak

/-- Source: `hw/i2c/core.c` `i2c_send`. Kind: D -/
def i2cSend (s : I2CCoreState τ) (data : UInt8) : I2CCoreState τ × Bool :=
  let (slaves, ret) := i2cSendLoop slave data s.currentDevs s.slaves false
  ({ s with slaves := slaves }, ret)

/-- The core as the bus of the controller.
Source: `hw/i2c/core.c`
Kind: D -/
def i2cCore : I2CBus (I2CCoreState τ) :=
  ⟨i2cStartTransfer slave kids, i2cRecv slave, i2cSend slave, i2cEndTransfer slave⟩

/-! ## What the core does with a start and a receive -/

/-- A broadcast ignores every refusal of a start.
Source: `hw/i2c/core.c` `i2c_do_start_transfer`
Kind: L -/
theorem i2cStartEvents_broadcast (event : I2CEvent) (devs : List ℕ) (st : ℕ → τ) :
    (i2cStartEvents slave event true devs st).2 = false := by
  induction devs generalizing st with
  | nil => rfl
  | cons i rest ih =>
    simp only [i2cStartEvents, Bool.not_true, Bool.and_false, Bool.false_eq_true, if_false]
    exact ih _

/-- A start while a transfer is in progress does not scan the bus: it keeps the devices the
transfer addresses, whatever its address, and sends them the start event; address `0x00` makes
the transfer a broadcast.
Source: `hw/i2c/core.c` `i2c_do_start_transfer`
Kind: L -/
theorem i2cDoStartTransfer_of_busy (s : I2CCoreState τ) (address : UInt8) (event : I2CEvent)
    (hbusy : s.currentDevs ≠ []) :
    let broadcast := s.broadcast || address == I2C_BROADCAST
    let r := i2cDoStartTransfer slave kids s address event
    r.1.currentDevs = s.currentDevs ∧ r.1.broadcast = broadcast ∧
      r.1.slaves = (i2cStartEvents slave event broadcast s.currentDevs s.slaves).1 ∧
      r.2 = (i2cStartEvents slave event broadcast s.currentDevs s.slaves).2 := by
  intro broadcast r
  have hne : s.currentDevs.isEmpty = false := List.isEmpty_eq_false_iff.mpr hbusy
  simp only [r, i2cDoStartTransfer, hne, Bool.false_eq_true, if_false]
  cases (i2cStartEvents slave event (s.broadcast || address == I2C_BROADCAST) s.currentDevs
    s.slaves).2 <;> simp [broadcast]

/-- A broadcast transfer answers every receive with `0xff` and asks no device.
Source: `hw/i2c/core.c` `i2c_recv`
Kind: L -/
theorem i2cRecv_of_broadcast {s : I2CCoreState τ} (h : s.broadcast = true) :
    i2cRecv slave s = (s, 0xff) := by
  unfold i2cRecv
  split <;> simp_all

/-- A receive leaves the transfer addressed as it was.
Source: `hw/i2c/core.c` `i2c_recv`
Kind: L -/
theorem i2cRecv_frame (s : I2CCoreState τ) :
    (i2cRecv slave s).1.currentDevs = s.currentDevs ∧ (i2cRecv slave s).1.broadcast = s.broadcast := by
  unfold i2cRecv
  split <;> simp


end core

/-! ## A `READ` after a write phase -/

/-- A command without `STOP` leaves the transfer open.
Source: `hw/i2c/apple_i2c.c` `apple_i2c_reg_write`
Kind: L -/
theorem appleI2cMtxfifoStop_of_and_stop {σ : Type} (bus : I2CBus σ) (s : AppleI2CState σ) {value : UInt32}
    (h : value &&& kMTXFIFOStop = 0) : appleI2cMtxfifoStop bus s value = s := by
  simp [appleI2cMtxfifoStop, h]

/-- In a transaction running the send way, a `READ` command restarts the bus at its length byte
shifted right by one; unless the restart is refused, it then receives its bytes from the
restarted bus.
Source: `hw/i2c/apple_i2c.c` `apple_i2c_reg_write`
Kind: L -/
theorem appleI2cMtxfifo_read_of_send {σ : Type} (bus : I2CBus σ) {s s' : AppleI2CState σ} {len : UInt8}
    (hxip : s.xip = true) (hsend : s.isRecv = false)
    (h : appleI2cMtxfifo bus s (kMTXFIFORead ||| len.toUInt32) = some s') :
    let r := bus.startTransfer s.bus (len >>> 1) true
    (r.2 = true ∧ s'.bus = r.1 ∧ s'.rxFifo = s.rxFifo) ∨
      (r.2 = false ∧ appleI2cRecvLoop bus len.toNat r.1 s.rxFifo = some (s'.bus, s'.rxFifo)) := by
  dsimp only
  simp only [appleI2cMtxfifo, readCmd_and_start, readCmd_and_read, kMTXFIFOData_readCmd,
    UInt8.toUInt8_toUInt32, UInt8.toNat_toUInt32, hxip, ne_eq, not_true_eq_false,
    not_false_eq_true, if_true, if_false,
    appleI2cTurnaround_of_ne bus s _ (show s.isRecv ≠ true by simp [hsend]),
    appleI2cMtxfifoStop_of_and_stop bus _ (readCmd_and_stop len)] at h
  generalize bus.startTransfer s.bus (len >>> 1) true = r at h ⊢
  obtain ⟨st, err⟩ := r
  cases err
  · -- the restart was answered: the bytes come from the receive loop
    right
    obtain ⟨⟨st', fifo⟩, hloop, rfl⟩ := Option.map_eq_some_iff.mp h
    refine ⟨rfl, ?_⟩
    split_ifs <;> exact hloop
  · -- refused: the command stops there
    left
    cases h
    exact ⟨rfl, rfl, rfl⟩

theorem shiftRight_one_eq_zero_iff (len : UInt8) : len >>> 1 = 0 ↔ len < 2 := by
  rw [← UInt8.toNat_inj, UInt8.lt_iff_toNat_lt, UInt8.toNat_shiftRight]
  simp
  omega

/-! ## The controller over the core -/

section system

variable {τ : Type} (slave : ℕ → I2CSlave τ) (kids : List ℕ)

/-- A restart the controller asks for in a transaction goes where `i2cDoStartTransfer_of_busy`
says.
Source: `hw/i2c/core.c` `i2c_start_transfer`
Kind: L -/
theorem i2cCore_startTransfer_of_busy (s : I2CCoreState τ) (address : UInt8)
    (hbusy : s.currentDevs ≠ []) :
    let broadcast := s.broadcast || address == I2C_BROADCAST
    let r := (i2cCore slave kids).startTransfer s address true
    r.1.currentDevs = s.currentDevs ∧ r.1.broadcast = broadcast ∧
      r.1.slaves = (i2cStartEvents slave .startRecv broadcast s.currentDevs s.slaves).1 ∧
      r.2 = (i2cStartEvents slave .startRecv broadcast s.currentDevs s.slaves).2 :=
  i2cDoStartTransfer_of_busy slave kids s address .startRecv hbusy

/-- Over QEMU's core, a `READ` of fewer than two bytes after a write phase restarts the bus at
the broadcast address: the transfer becomes a broadcast, still addressed to the devices the
`START` chose, which get the start event and nothing else, and every byte the `READ` pushes is
`0xff`.
Source: `hw/i2c/apple_i2c.c` `apple_i2c_reg_write`; `hw/i2c/core.c` `i2c_do_start_transfer`,
`i2c_recv`
Kind: P -/
theorem apple_i2c_short_read_after_write_broadcasts {s s' : AppleI2CState (I2CCoreState τ)}
    (hxip : s.xip = true) (hsend : s.isRecv = false) (hbusy : s.bus.currentDevs ≠ [])
    {len : UInt8} (hlen : len < 2)
    (h : appleI2cMtxfifo (i2cCore slave kids) s (kMTXFIFORead ||| len.toUInt32) = some s') :
    s'.bus.broadcast = true ∧ s'.bus.currentDevs = s.bus.currentDevs ∧
      s'.bus.slaves = (i2cStartEvents slave .startRecv true s.bus.currentDevs s.bus.slaves).1 ∧
      s'.rxFifo = s.rxFifo ++ List.replicate len.toNat 0xff := by
  -- the restart goes to the broadcast address
  have haddr : (len >>> 1 == I2C_BROADCAST) = true := by
    simpa [I2C_BROADCAST] using (shiftRight_one_eq_zero_iff len).mpr hlen
  obtain ⟨hcur, hbc, hslaves, herr⟩ := i2cCore_startTransfer_of_busy slave kids s.bus (len >>> 1) hbusy
  simp only [haddr, Bool.or_true] at hbc hslaves herr
  rw [i2cStartEvents_broadcast] at herr
  rcases appleI2cMtxfifo_read_of_send (i2cCore slave kids) hxip hsend h with
    ⟨hrefused, -, -⟩ | ⟨-, hloop⟩
  · -- a broadcast is never refused
    rw [herr] at hrefused
    cases hrefused
  · -- every receive of the broadcast answers 0xff and leaves the bus as it is
    set st₁ := ((i2cCore slave kids).startTransfer s.bus (len >>> 1) true).1
    have hrecv : (i2cCore slave kids).recv st₁ = (st₁, 0xff) := i2cRecv_of_broadcast slave hbc
    obtain ⟨hbus, hfifo⟩ := appleI2cRecvLoop_induction (i2cCore slave kids)
      (fun k st fifo => st = st₁ ∧ fifo = s.rxFifo ++ List.replicate k 0xff) (by
        rintro k st fifo - ⟨rfl, rfl⟩
        rw [hrecv, List.replicate_succ', List.append_assoc]
        exact ⟨rfl, rfl⟩) hloop ⟨rfl, by simp⟩ (k := 0)
    rw [hbus, hfifo, Nat.zero_add]
    exact ⟨hbc, hcur, hslaves, rfl⟩

/-- A longer `READ` restarts at an address the core ignores: the transfer stays addressed to the
devices the `START` chose and is no broadcast, so its bytes come from the first of them.
Source: `hw/i2c/apple_i2c.c` `apple_i2c_reg_write`; `hw/i2c/core.c` `i2c_do_start_transfer`,
`i2c_recv`
Kind: P -/
theorem apple_i2c_read_after_write_keeps_devices {s s' : AppleI2CState (I2CCoreState τ)}
    (hxip : s.xip = true) (hsend : s.isRecv = false) (hbusy : s.bus.currentDevs ≠ [])
    (hbroadcast : s.bus.broadcast = false) {len : UInt8} (hlen : 2 ≤ len)
    (h : appleI2cMtxfifo (i2cCore slave kids) s (kMTXFIFORead ||| len.toUInt32) = some s') :
    s'.bus.currentDevs = s.bus.currentDevs ∧ s'.bus.broadcast = false := by
  -- the restart address is not the broadcast one
  have haddr : (len >>> 1 == I2C_BROADCAST) = false := by
    simpa [I2C_BROADCAST, shiftRight_one_eq_zero_iff] using hlen
  obtain ⟨hcur, hbc, -, -⟩ := i2cCore_startTransfer_of_busy slave kids s.bus (len >>> 1) hbusy
  simp only [haddr, hbroadcast, Bool.or_false] at hbc
  rcases appleI2cMtxfifo_read_of_send (i2cCore slave kids) hxip hsend h with
    ⟨-, hbus, -⟩ | ⟨-, hloop⟩
  · rw [hbus]
    exact ⟨hcur, hbc⟩
  · -- a receive keeps the transfer addressed as it was
    obtain ⟨hcur', hbc'⟩ := appleI2cRecvLoop_induction (i2cCore slave kids)
      (fun _ st _ => st.currentDevs = s.bus.currentDevs ∧ st.broadcast = false) (by
        rintro k st fifo - ⟨hc, hb⟩
        obtain ⟨hc', hb'⟩ := i2cRecv_frame slave st
        exact ⟨hc'.trans hc, hb'.trans hb⟩) hloop ⟨hcur, hbc⟩ (k := 0)
    exact ⟨hcur', hbc'⟩

/-- A device at `0x50` that answers `0x42` and counts the bytes it sends. -/
def countingSlave : I2CSlave ℕ :=
  ⟨0x50, fun n _ => (n, false), fun n => (n + 1, 0x42), fun n _ => (n, false)⟩

-- One device on the bus, its register 0x10 written: a `READ` of one byte yields 0xff and the
-- device is never asked; a `READ` of two gets both bytes from it.
example :
    let run (len : UInt8) :=
      (appleI2cRun (i2cCore (fun _ => countingSlave) [0])
        { reg := fun _ => 0, rxFifo := [], lastIrq := false, nak := false, xip := false,
          isRecv := false, bus := ⟨fun _ => 0, [], false⟩ }
        [.write REG_MTXFIFO (kMTXFIFOStart ||| 0xA0).toUInt64, .write REG_MTXFIFO 0x10,
          .write REG_MTXFIFO (kMTXFIFORead ||| len.toUInt32).toUInt64]).map
        fun s => (s.rxFifo, s.bus.slaves 0)
    run 1 = some ([0xff], 0) ∧ run 2 = some ([0x42, 0x42], 2) := by
  decide

end system

end QemuAppleSilicon.I2c
