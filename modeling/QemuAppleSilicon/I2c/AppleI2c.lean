import Mathlib.Data.UInt
import QemuAppleSilicon.Lib.Bits32

/-!
# The Apple I2C controller (`hw/i2c/apple_i2c.c`)

The guest drives the bus through `MTXFIFO`: a command with `START` addresses a device (bit 0 of
the address byte selects a read), and within the transaction a `READ` command clocks in the
number of bytes in its data field and pushes each onto the 256-byte RX FIFO, while any other
command sends its data byte; `STOP` ends the transaction. `MRXFIFO` pops the FIFO, `MCNT`
reports how many bytes it holds, `SMSTA` is write-one-to-clear, and `CTL.MRR` empties the FIFO.

The devices on the bus are left abstract (`I2CBus`). A register write returns `none` where
`fifo8_push` asserts.

* `appleI2cRecvLoop_of_le` / `appleI2cRecvLoop_of_lt` — the loop of a `READ` command fills the
  FIFO when the bytes fit, and fails otherwise: it never checks the free space.
* `appleI2cRun_rxFifoOk` — every run that does not fail keeps the FIFO within its 256 bytes.
* `appleI2cRegRead_mrxfifo_of_cons`, `appleI2cRegRead_mcnt_rxCnt` — `MRXFIFO` pops the oldest
  byte; `MCNT` reports the count modulo 256.
* `apple_i2c_read_overflows_rx_fifo` — so a `READ` whose length exceeds the free space aborts
  the device, and a FIFO filled to its 256 bytes reads as empty in `MCNT`.
-/

namespace QemuAppleSilicon.I2c

open QemuAppleSilicon.Lib

/-! ## `util/fifo8.c` on a list, head first -/

/-- `fifo8_push`: `none` where its assertion that the FIFO has room fails.
Source: `util/fifo8.c` `fifo8_push`
Kind: D -/
def fifo8Push (capacity : ℕ) (fifo : List UInt8) (data : UInt8) : Option (List UInt8) :=
  if fifo.length < capacity then some (fifo ++ [data]) else none

/-- `fifo8_pop`: `none` where its assertion that the FIFO is not empty fails.
Source: `util/fifo8.c` `fifo8_pop`
Kind: D -/
def fifo8Pop : List UInt8 → Option (UInt8 × List UInt8)
  | [] => none
  | a :: rest => some (a, rest)

/-- Source: `util/fifo8.c` `fifo8_num_used`. Kind: D -/
def fifo8NumUsed (fifo : List UInt8) : ℕ := fifo.length

/-! ## Registers -/

/-- Source: `hw/i2c/apple_i2c.c` `REG_MTXFIFO`. Kind: D -/
def REG_MTXFIFO : ℕ := 0x00
/-- Source: `hw/i2c/apple_i2c.c` `REG_MRXFIFO`. Kind: D -/
def REG_MRXFIFO : ℕ := 0x04
/-- Source: `hw/i2c/apple_i2c.c` `REG_MCNT`. Kind: D -/
def REG_MCNT : ℕ := 0x08
/-- Source: `hw/i2c/apple_i2c.c` `REG_SMSTA`. Kind: D -/
def REG_SMSTA : ℕ := 0x14
/-- Source: `hw/i2c/apple_i2c.c` `REG_IMASK`. Kind: D -/
def REG_IMASK : ℕ := 0x18
/-- Source: `hw/i2c/apple_i2c.c` `REG_CTL`. Kind: D -/
def REG_CTL : ℕ := 0x1C
/-- Source: `hw/i2c/apple_i2c.c` `REG_VERSION`. Kind: D -/
def REG_VERSION : ℕ := 0x28
/-- Source: `hw/i2c/apple_i2c.c` `REG_RDCOUNT`. Kind: D -/
def REG_RDCOUNT : ℕ := 0x2C

/-- Source: `hw/i2c/apple_i2c.c` `kMTXFIFORead`. Kind: D -/
def kMTXFIFORead : UInt32 := (1 : UInt32) <<< 10
/-- Source: `hw/i2c/apple_i2c.c` `kMTXFIFOStop`. Kind: D -/
def kMTXFIFOStop : UInt32 := (1 : UInt32) <<< 9
/-- Source: `hw/i2c/apple_i2c.c` `kMTXFIFOStart`. Kind: D -/
def kMTXFIFOStart : UInt32 := (1 : UInt32) <<< 8
/-- Source: `hw/i2c/apple_i2c.c` `kMTXFIFOData`. Kind: D -/
def kMTXFIFOData (v : UInt32) : UInt32 := (v >>> 0) &&& 0xff

/-- Source: `hw/i2c/apple_i2c.c` `kMRXFIFOEmpty`. Kind: D -/
def kMRXFIFOEmpty : UInt32 := (1 : UInt32) <<< 8
/-- Source: `hw/i2c/apple_i2c.c` `kMRXFIFOData`. Kind: D -/
def kMRXFIFOData (d : UInt32) : UInt32 := (d &&& 0xff) <<< 0

/-- Source: `hw/i2c/apple_i2c.c` `kMCNTRxCnt`. Kind: D -/
def kMCNTRxCnt (v : UInt32) : UInt32 := (v &&& 0xff) <<< 8
/-- Source: `hw/i2c/apple_i2c.c` `kMCNTTxCnt`. Kind: D -/
def kMCNTTxCnt (v : UInt32) : UInt32 := (v &&& 0xff) <<< 0

/-- Source: `hw/i2c/apple_i2c.c` `kSMSTAxip`. Kind: D -/
def kSMSTAxip : UInt32 := (1 : UInt32) <<< 28
/-- Source: `hw/i2c/apple_i2c.c` `kSMSTAxen`. Kind: D -/
def kSMSTAxen : UInt32 := (1 : UInt32) <<< 27
/-- Source: `hw/i2c/apple_i2c.c` `kSMSTAmtn`. Kind: D -/
def kSMSTAmtn : UInt32 := (1 : UInt32) <<< 21
/-- Source: `hw/i2c/apple_i2c.c` `kSMSTAmrf`. Kind: D -/
def kSMSTAmrf : UInt32 := (1 : UInt32) <<< 20
/-- Source: `hw/i2c/apple_i2c.c` `kSMSTAmrne`. Kind: D -/
def kSMSTAmrne : UInt32 := (1 : UInt32) <<< 19

/-- Source: `hw/i2c/apple_i2c.c` `kCTLMRR`. Kind: D -/
def kCTLMRR : UInt32 := (1 : UInt32) <<< 10

/-- Source: `hw/i2c/apple_i2c.c` `kRDCOUNT`. Kind: D -/
def kRDCOUNT (v : UInt32) : UInt32 := (v >>> 8) &&& 0xff

/-- The capacity `apple_i2c_create` gives the RX FIFO.
Source: `hw/i2c/apple_i2c.c` `apple_i2c_create`
Kind: D -/
def RX_FIFO_CAPACITY : ℕ := 0x100

/-! ## State -/

/-- The devices on the bus: `i2c_start_transfer` (`true` for a nonzero result, no device
answering), `i2c_recv`, `i2c_send` (`true` for a NAK) and `i2c_end_transfer`, on their state `σ`.
Source: `hw/i2c/core.c`
Kind: D -/
structure I2CBus (σ : Type) where
  startTransfer : σ → UInt8 → Bool → σ × Bool
  recv : σ → σ × UInt8
  send : σ → UInt8 → σ × Bool
  endTransfer : σ → σ

/-- The controller: its registers (`REG(s, addr)` for the word-aligned `addr` the MMIO ops allow),
the RX FIFO (head first), the interrupt level last driven, the transaction flags and the bus
devices' state.
Source: `include/hw/i2c/apple_i2c.h` `AppleI2CState`
Kind: D -/
structure AppleI2CState (σ : Type) where
  reg : ℕ → UInt32
  rxFifo : List UInt8
  lastIrq : Bool
  nak : Bool
  xip : Bool
  isRecv : Bool
  bus : σ

variable {σ : Type}

/-- `REG(s, addr) = v`. -/
def AppleI2CState.setReg (s : AppleI2CState σ) (addr : ℕ) (v : UInt32) : AppleI2CState σ :=
  { s with reg := Function.update s.reg addr v }

/-- `REG(s, addr) |= bits`. -/
def AppleI2CState.orReg (s : AppleI2CState σ) (addr : ℕ) (bits : UInt32) : AppleI2CState σ :=
  s.setReg addr (s.reg addr ||| bits)

/-- The interrupt follows `SMSTA & IMASK`; the level is driven only when it changes.
Source: `hw/i2c/apple_i2c.c` `apple_i2c_update_irq`
Kind: D -/
def appleI2cUpdateIrq (s : AppleI2CState σ) : AppleI2CState σ :=
  let level : Bool := s.reg REG_SMSTA &&& s.reg REG_IMASK ≠ 0
  if level ≠ s.lastIrq then { s with lastIrq := level } else s

/-! ## `apple_i2c_reg_write` -/

section write

variable (bus : I2CBus σ)

/-- `while (len--) fifo8_push(&s->rx_fifo, i2c_recv(s->bus));`: each byte is received, then
pushed with no check of the free space.
Source: `hw/i2c/apple_i2c.c` `apple_i2c_reg_write`
Kind: D -/
def appleI2cRecvLoop : ℕ → σ → List UInt8 → Option (σ × List UInt8)
  | 0, st, fifo => some (st, fifo)
  | n + 1, st, fifo =>
    let (st, b) := bus.recv st
    (fifo8Push RX_FIFO_CAPACITY fifo b).bind fun fifo => appleI2cRecvLoop n st fifo

/-- The end of an `MTXFIFO` command that did not `break`: `STOP` ends a transaction in progress.
Source: `hw/i2c/apple_i2c.c` `apple_i2c_reg_write`
Kind: D -/
def appleI2cMtxfifoStop (s : AppleI2CState σ) (value : UInt32) : AppleI2CState σ :=
  if value &&& kMTXFIFOStop ≠ 0 ∧ s.xip then
    { s.orReg REG_SMSTA kSMSTAxen with bus := bus.endTransfer s.bus, xip := false }
  else s

/-- The transaction turned around to the direction `isRecv`, restarting it when it ran the other
way: the state and whether the restart found no device.
Source: `hw/i2c/apple_i2c.c` `apple_i2c_reg_write`
Kind: D -/
def appleI2cTurnaround (s : AppleI2CState σ) (i2cAddr : UInt8) (isRecv : Bool) :
    AppleI2CState σ × Bool :=
  if s.isRecv ≠ isRecv then
    let (st, err) := bus.startTransfer s.bus i2cAddr isRecv
    ({ s with isRecv := isRecv, bus := st }, err)
  else (s, false)

/-- A write to `MTXFIFO`: `START` addresses a device; within a transaction `READ` clocks in
`kMTXFIFOData(value)` bytes onto the RX FIFO and sets `RX not empty`, and `RX full` when the
length reaches `RDCOUNT`; any other command sends its data byte. A device that does not answer
sets the NAK bit and skips the `STOP` handling.
Source: `hw/i2c/apple_i2c.c` `apple_i2c_reg_write`
Kind: D -/
def appleI2cMtxfifo (s : AppleI2CState σ) (value : UInt32) : Option (AppleI2CState σ) :=
  let i2cAddr : UInt8 := (kMTXFIFOData value).toUInt8 >>> 1
  if value &&& kMTXFIFOStart ≠ 0 then
    let isRecv := kMTXFIFOData value &&& 1 ≠ 0
    let (st, err) := bus.startTransfer s.bus i2cAddr isRecv
    let s := { s with isRecv := isRecv, bus := st }
    if err then some (s.orReg REG_SMSTA kSMSTAmtn)
    else some (appleI2cMtxfifoStop bus ({ s with xip := true }.orReg REG_SMSTA kSMSTAxip) value)
  else if s.xip then
    if value &&& kMTXFIFORead ≠ 0 then
      let (s, err) := appleI2cTurnaround bus s i2cAddr true
      if err then some (s.orReg REG_SMSTA kSMSTAmtn)
      else
        (appleI2cRecvLoop bus (kMTXFIFOData value).toNat s.bus s.rxFifo).map fun (st, fifo) =>
          let s := { s with bus := st, rxFifo := fifo }
          let s :=
            if kMTXFIFOData value > 0 then
              let s := s.orReg REG_SMSTA kSMSTAmrne
              if kMTXFIFOData value ≥ kRDCOUNT (s.reg REG_RDCOUNT) then s.orReg REG_SMSTA kSMSTAmrf
              else s
            else s
          appleI2cMtxfifoStop bus s value
    else
      let (s, err) := appleI2cTurnaround bus s i2cAddr false
      if err then some (s.orReg REG_SMSTA kSMSTAmtn)
      else
        let (st, nak) := bus.send s.bus (kMTXFIFOData value).toUInt8
        let s := { s with bus := st }
        let s := if nak then s.orReg REG_SMSTA kSMSTAmtn else s
        some (appleI2cMtxfifoStop bus s value)
  else some (appleI2cMtxfifoStop bus s value)

/-- A register write: the command registers act, `SMSTA` clears the bits written, `CTL.MRR`
empties the RX FIFO and `CTL` reads back as `0`; the value is stored, and the interrupt is
updated after `MTXFIFO`, `SMSTA` and `IMASK`.
Source: `hw/i2c/apple_i2c.c` `apple_i2c_reg_write`
Kind: D -/
def appleI2cRegWrite (s : AppleI2CState σ) (addr : ℕ) (data : UInt64) : Option (AppleI2CState σ) :=
  let value := data.toUInt32
  let orig := s.reg addr
  if addr = REG_MTXFIFO then
    (appleI2cMtxfifo bus s value).map fun s => appleI2cUpdateIrq (s.setReg addr value)
  else if addr = REG_SMSTA then some (appleI2cUpdateIrq (s.setReg addr (orig &&& ~~~value)))
  else if addr = REG_IMASK then some (appleI2cUpdateIrq (s.setReg addr value))
  else if addr = REG_CTL then
    some ((if value &&& kCTLMRR ≠ 0 then { s with rxFifo := [] } else s).setReg addr 0)
  else some (s.setReg addr value)

end write

/-! ## `apple_i2c_reg_read` -/

/-- A register read: `MRXFIFO` pops the RX FIFO (or reads `kMRXFIFOEmpty`), `MCNT` reports the
FIFO's count in its RX field, `VERSION` reads `2`.
Source: `hw/i2c/apple_i2c.c` `apple_i2c_reg_read`
Kind: D -/
def appleI2cRegRead (s : AppleI2CState σ) (addr : ℕ) : UInt64 × AppleI2CState σ :=
  let value := s.reg addr
  if addr = REG_MRXFIFO then
    match fifo8Pop s.rxFifo with
    | none => (kMRXFIFOEmpty.toUInt64, s)
    | some (b, rest) => ((kMRXFIFOData b.toUInt32).toUInt64, { s with rxFifo := rest })
  else if addr = REG_MCNT then
    let value := value &&& ~~~(kMCNTRxCnt 0xff ||| kMCNTTxCnt 0xff)
    ((value ||| kMCNTRxCnt (UInt32.ofNat (fifo8NumUsed s.rxFifo))).toUInt64, s)
  else if addr = REG_VERSION then (2, s)
  else (value.toUInt64, s)

/-- The reset phases: registers cleared, the transaction flags dropped, the RX FIFO emptied and
the interrupt lowered.
Source: `hw/i2c/apple_i2c.c` `apple_i2c_reset_enter`, `apple_i2c_reset_hold`
Kind: D -/
def appleI2cReset (s : AppleI2CState σ) : AppleI2CState σ :=
  { s with
    reg := fun _ => 0
    rxFifo := []
    lastIrq := false
    nak := false
    xip := false
    isRecv := false }

/-! ## Accesses and runs -/

/-- A guest access to the controller's registers, or a device reset.
Source: `hw/i2c/apple_i2c.c` `apple_i2c_reg_ops`, `apple_i2c_reset_hold`
Kind: D -/
inductive AppleI2CAccess
  | write (addr : ℕ) (data : UInt64)
  | read (addr : ℕ)
  | reset

/-- One access; `none` where an assertion fails.
Source: `hw/i2c/apple_i2c.c` `apple_i2c_reg_ops`
Kind: D -/
def appleI2cStep (bus : I2CBus σ) (s : AppleI2CState σ) : AppleI2CAccess → Option (AppleI2CState σ)
  | .write addr data => appleI2cRegWrite bus s addr data
  | .read addr => some (appleI2cRegRead s addr).2
  | .reset => some (appleI2cReset s)

/-- A sequence of accesses, stopping at the first failed assertion. -/
def appleI2cRun (bus : I2CBus σ) : AppleI2CState σ → List AppleI2CAccess → Option (AppleI2CState σ)
  | s, [] => some s
  | s, a :: as => (appleI2cStep bus s a).bind fun s => appleI2cRun bus s as

/-! ## The RX FIFO under the register operations -/

section frame

variable (bus : I2CBus σ)

@[simp] theorem AppleI2CState.setReg_rxFifo (s : AppleI2CState σ) (addr : ℕ) (v : UInt32) :
    (s.setReg addr v).rxFifo = s.rxFifo := rfl

@[simp] theorem AppleI2CState.orReg_rxFifo (s : AppleI2CState σ) (addr : ℕ) (v : UInt32) :
    (s.orReg addr v).rxFifo = s.rxFifo := rfl

/-- Source: `hw/i2c/apple_i2c.c` `apple_i2c_update_irq`. Kind: L -/
@[simp] theorem appleI2cUpdateIrq_rxFifo (s : AppleI2CState σ) :
    (appleI2cUpdateIrq s).rxFifo = s.rxFifo := by
  simp only [appleI2cUpdateIrq]
  split <;> rfl

/-- Source: `hw/i2c/apple_i2c.c` `apple_i2c_reg_write`. Kind: L -/
@[simp] theorem appleI2cMtxfifoStop_rxFifo (s : AppleI2CState σ) (value : UInt32) :
    (appleI2cMtxfifoStop bus s value).rxFifo = s.rxFifo := by
  unfold appleI2cMtxfifoStop
  split <;> rfl

/-- Source: `hw/i2c/apple_i2c.c` `apple_i2c_reg_write`. Kind: L -/
@[simp] theorem appleI2cTurnaround_rxFifo (s : AppleI2CState σ) (i2cAddr : UInt8) (isRecv : Bool) :
    (appleI2cTurnaround bus s i2cAddr isRecv).1.rxFifo = s.rxFifo := by
  unfold appleI2cTurnaround
  split <;> rfl

/-- A transaction already running the way asked for is left as it is.
Source: `hw/i2c/apple_i2c.c` `apple_i2c_reg_write`
Kind: L -/
theorem appleI2cTurnaround_of_eq (s : AppleI2CState σ) (i2cAddr : UInt8) {isRecv : Bool}
    (h : s.isRecv = isRecv) : appleI2cTurnaround bus s i2cAddr isRecv = (s, false) := by
  simp [appleI2cTurnaround, h]

/-- A transaction running the other way is restarted at `i2cAddr` in the new direction.
Source: `hw/i2c/apple_i2c.c` `apple_i2c_reg_write`
Kind: L -/
theorem appleI2cTurnaround_of_ne (s : AppleI2CState σ) (i2cAddr : UInt8) {isRecv : Bool}
    (h : s.isRecv ≠ isRecv) :
    appleI2cTurnaround bus s i2cAddr isRecv =
      ({ s with isRecv := isRecv, bus := (bus.startTransfer s.bus i2cAddr isRecv).1 },
        (bus.startTransfer s.bus i2cAddr isRecv).2) := by
  simp [appleI2cTurnaround, h]

end frame

/-- Source: `util/fifo8.c` `fifo8_push`. Kind: L -/
theorem fifo8Push_eq_some {capacity : ℕ} {fifo fifo' : List UInt8} {data : UInt8} :
    fifo8Push capacity fifo data = some fifo' ↔ fifo.length < capacity ∧ fifo' = fifo ++ [data] := by
  unfold fifo8Push
  split <;> simp_all [eq_comm]

/-- Source: `util/fifo8.c` `fifo8_push`. Kind: L -/
theorem fifo8Push_eq_none {capacity : ℕ} {fifo : List UInt8} {data : UInt8} :
    fifo8Push capacity fifo data = none ↔ capacity ≤ fifo.length := by
  unfold fifo8Push
  split <;> simp_all

section recv

variable (bus : I2CBus σ)

/-- The invariant rule of the loop of a `READ` command: what holds of the bus state and the FIFO
before the loop, and is carried by one receive whose byte the FIFO had room for, holds after it,
with the count of bytes received.
Source: `hw/i2c/apple_i2c.c` `apple_i2c_reg_write`
Kind: L -/
theorem appleI2cRecvLoop_induction (Inv : ℕ → σ → List UInt8 → Prop)
    (hstep : ∀ k st fifo, fifo.length < RX_FIFO_CAPACITY → Inv k st fifo →
      Inv (k + 1) (bus.recv st).1 (fifo ++ [(bus.recv st).2]))
    {n k : ℕ} {st st' : σ} {fifo fifo' : List UInt8}
    (h : appleI2cRecvLoop bus n st fifo = some (st', fifo')) (hinv : Inv k st fifo) :
    Inv (k + n) st' fifo' := by
  induction n generalizing k st fifo with
  | zero =>
    simp only [appleI2cRecvLoop, Option.some.injEq, Prod.mk.injEq] at h
    obtain ⟨rfl, rfl⟩ := h
    exact hinv
  | succ n ih =>
    simp only [appleI2cRecvLoop] at h
    cases hpush : fifo8Push RX_FIFO_CAPACITY fifo (bus.recv st).2 with
    | none => simp [hpush] at h
    | some fifo₁ =>
      rw [hpush, Option.bind_some] at h
      obtain ⟨hlt, rfl⟩ := fifo8Push_eq_some.mp hpush
      rw [show k + (n + 1) = k + 1 + n by omega]
      exact ih h (hstep k st fifo hlt hinv)

/-- The loop of a `READ` command leaves at most the capacity in the FIFO.
Source: `hw/i2c/apple_i2c.c` `apple_i2c_reg_write`
Kind: L -/
theorem appleI2cRecvLoop_length_le {n : ℕ} {st st' : σ} {fifo fifo' : List UInt8}
    (h : appleI2cRecvLoop bus n st fifo = some (st', fifo'))
    (hfifo : fifo.length ≤ RX_FIFO_CAPACITY) : fifo'.length ≤ RX_FIFO_CAPACITY := by
  refine appleI2cRecvLoop_induction bus (fun _ _ fifo => fifo.length ≤ RX_FIFO_CAPACITY) ?_ h hfifo
    (k := 0)
  intro k st fifo hlt _
  simp only [List.length_append, List.length_singleton]
  omega

/-- When the bytes fit, the loop appends `n` received bytes to the FIFO.
Source: `hw/i2c/apple_i2c.c` `apple_i2c_reg_write`
Kind: L -/
theorem appleI2cRecvLoop_of_le (n : ℕ) (st : σ) (fifo : List UInt8)
    (h : fifo.length + n ≤ RX_FIFO_CAPACITY) :
    ∃ st' bs, bs.length = n ∧ appleI2cRecvLoop bus n st fifo = some (st', fifo ++ bs) := by
  induction n generalizing st fifo with
  | zero => exact ⟨st, [], rfl, by simp [appleI2cRecvLoop]⟩
  | succ n ih =>
    let b := (bus.recv st).2
    have hpush : fifo8Push RX_FIFO_CAPACITY fifo b = some (fifo ++ [b]) :=
      fifo8Push_eq_some.mpr ⟨by omega, rfl⟩
    obtain ⟨st', bs, hlen, hloop⟩ := ih (bus.recv st).1 (fifo ++ [b]) (by simp; omega)
    refine ⟨st', b :: bs, by simp [hlen], ?_⟩
    simp only [appleI2cRecvLoop, hpush, Option.bind_some, hloop, List.append_assoc,
      List.singleton_append, b]

/-- When they do not, a push finds the FIFO full and its assertion fails: the loop never checks
the free space.
Source: `hw/i2c/apple_i2c.c` `apple_i2c_reg_write`
Kind: L -/
theorem appleI2cRecvLoop_of_lt (n : ℕ) (st : σ) (fifo : List UInt8)
    (hfifo : fifo.length ≤ RX_FIFO_CAPACITY) (h : RX_FIFO_CAPACITY < fifo.length + n) :
    appleI2cRecvLoop bus n st fifo = none := by
  induction n generalizing st fifo with
  | zero => omega
  | succ n ih =>
    simp only [appleI2cRecvLoop]
    by_cases hfull : RX_FIFO_CAPACITY ≤ fifo.length
    · rw [fifo8Push_eq_none.mpr hfull, Option.bind_none]
    · rw [fifo8Push_eq_some.mpr ⟨by omega, rfl⟩, Option.bind_some]
      exact ih _ _ (by simp; omega) (by simp; omega)

end recv

/-! ## A `READ` command -/

section read

/-- `READ` is bit 10 alone.
Source: `hw/i2c/apple_i2c.c` `kMTXFIFORead`
Kind: L -/
theorem bit_kMTXFIFORead {k : ℕ} : Bit kMTXFIFORead k ↔ k = 10 := by
  rw [kMTXFIFORead, bit_shiftLeft (n := 10) (by decide), bit_one]
  simp only [UInt32.reduceToNat]
  omega

/-- `START` is bit 8 alone.
Source: `hw/i2c/apple_i2c.c` `kMTXFIFOStart`
Kind: L -/
theorem bit_kMTXFIFOStart {k : ℕ} : Bit kMTXFIFOStart k ↔ k = 8 := by
  rw [kMTXFIFOStart, bit_shiftLeft (n := 8) (by decide), bit_one]
  simp only [UInt32.reduceToNat]
  omega

/-- `STOP` is bit 9 alone.
Source: `hw/i2c/apple_i2c.c` `kMTXFIFOStop`
Kind: L -/
theorem bit_kMTXFIFOStop {k : ℕ} : Bit kMTXFIFOStop k ↔ k = 9 := by
  rw [kMTXFIFOStop, bit_shiftLeft (n := 9) (by decide), bit_one]
  simp only [UInt32.reduceToNat]
  omega

variable (len : UInt8)

/-- A `READ` command with a length byte carries no flag above its data field but `READ`.
Source: `hw/i2c/apple_i2c.c` `apple_i2c_reg_write`
Kind: L -/
theorem readCmd_and_flag {flag : UInt32} {n : ℕ} (hflag : ∀ k, Bit flag k ↔ k = n) (h8 : 8 ≤ n)
    (h10 : n ≠ 10) : (kMTXFIFORead ||| len.toUInt32) &&& flag = 0 := by
  rw [and_eq_zero_iff]
  intro k hk hk'
  rw [hflag] at hk'
  rcases bit_or.mp hk with hread | hlen
  · rw [bit_kMTXFIFORead] at hread
    omega
  · have := lt_of_bit_toUInt32 hlen
    omega

/-- A `READ` command with a length byte does not also start a transaction.
Source: `hw/i2c/apple_i2c.c` `apple_i2c_reg_write`
Kind: L -/
theorem readCmd_and_start : (kMTXFIFORead ||| len.toUInt32) &&& kMTXFIFOStart = 0 :=
  readCmd_and_flag len (fun _ => bit_kMTXFIFOStart) le_rfl (by decide)

/-- Nor does it stop one.
Source: `hw/i2c/apple_i2c.c` `apple_i2c_reg_write`
Kind: L -/
theorem readCmd_and_stop : (kMTXFIFORead ||| len.toUInt32) &&& kMTXFIFOStop = 0 :=
  readCmd_and_flag len (fun _ => bit_kMTXFIFOStop) (by decide) (by decide)

/-- Source: `hw/i2c/apple_i2c.c` `apple_i2c_reg_write`. Kind: L -/
theorem readCmd_and_read : (kMTXFIFORead ||| len.toUInt32) &&& kMTXFIFORead ≠ 0 := by
  rw [Ne, eq_zero_iff, not_forall]
  exact ⟨10, by simp [bit_kMTXFIFORead]⟩

/-- The data field of a `READ` command is its length byte.
Source: `hw/i2c/apple_i2c.c` `kMTXFIFOData`
Kind: L -/
theorem kMTXFIFOData_readCmd : kMTXFIFOData (kMTXFIFORead ||| len.toUInt32) = len.toUInt32 := by
  apply ext_bit
  intro k
  simp only [kMTXFIFOData, UInt32.shiftRight_zero, bit_and, bit_or, bit_byteMask,
    bit_kMTXFIFORead]
  constructor
  · rintro ⟨hread | hlen, hk⟩
    · omega
    · exact hlen
  · intro hlen
    exact ⟨Or.inr hlen, lt_of_bit_toUInt32 hlen⟩

variable (bus : I2CBus σ)

/-- Within a receive transaction, a `READ` command leaves in the RX FIFO exactly what the
receive loop leaves there, and fails where it fails.
Source: `hw/i2c/apple_i2c.c` `apple_i2c_reg_write`
Kind: L -/
theorem appleI2cMtxfifo_read_rxFifo (s : AppleI2CState σ) (hxip : s.xip = true)
    (hrecv : s.isRecv = true) :
    (appleI2cMtxfifo bus s (kMTXFIFORead ||| len.toUInt32)).map AppleI2CState.rxFifo =
      (appleI2cRecvLoop bus len.toNat s.bus s.rxFifo).map Prod.snd := by
  simp only [appleI2cMtxfifo, readCmd_and_start, readCmd_and_read, kMTXFIFOData_readCmd,
    UInt8.toNat_toUInt32, appleI2cTurnaround_of_eq bus s _ hrecv, hxip, ne_eq, not_true_eq_false,
    not_false_eq_true, if_true, if_false, Bool.false_eq_true, Option.map_map]
  -- the status bits and the STOP handling leave the FIFO alone
  congr 1
  funext x
  simp only [Function.comp_apply, appleI2cMtxfifoStop_rxFifo]
  split_ifs <;> rfl

end read

/-! ## What each access does to the RX FIFO -/

section step

variable (bus : I2CBus σ)

/-- An `MTXFIFO` command leaves the RX FIFO as it was, or as a receive loop leaves it.
Source: `hw/i2c/apple_i2c.c` `apple_i2c_reg_write`
Kind: L -/
theorem appleI2cMtxfifo_rxFifo {s s' : AppleI2CState σ} {value : UInt32}
    (h : appleI2cMtxfifo bus s value = some s') :
    s'.rxFifo = s.rxFifo ∨ ∃ n st st', appleI2cRecvLoop bus n st s.rxFifo = some (st', s'.rxFifo) := by
  unfold appleI2cMtxfifo at h
  dsimp only at h
  by_cases hstart : value &&& kMTXFIFOStart ≠ 0
  · -- START addresses a device
    rw [if_pos hstart] at h
    left
    split at h <;> (cases h; simp)
  rw [if_neg hstart] at h
  by_cases hxip : s.xip = true
  swap
  · -- no transaction: only STOP is looked at
    rw [if_neg hxip] at h
    left
    cases h
    simp
  rw [if_pos hxip] at h
  by_cases hread : value &&& kMTXFIFORead ≠ 0
  · -- READ runs the receive loop on the turned-around transaction
    rw [if_pos hread] at h
    split at h
    · left
      cases h
      simp
    · right
      obtain ⟨⟨st', fifo⟩, hloop, rfl⟩ := Option.map_eq_some_iff.mp h
      rw [appleI2cTurnaround_rxFifo] at hloop
      rw [appleI2cMtxfifoStop_rxFifo]
      split_ifs <;> exact ⟨_, _, st', hloop⟩
  · -- a data byte is sent
    rw [if_neg hread] at h
    left
    split at h <;> cases h
    · simp
    · split_ifs <;> simp

/-- A write to `MTXFIFO` changes the RX FIFO only through the command it carries.
Source: `hw/i2c/apple_i2c.c` `apple_i2c_reg_write`
Kind: L -/
theorem appleI2cRegWrite_mtxfifo_rxFifo (s : AppleI2CState σ) (data : UInt64) :
    (appleI2cRegWrite bus s REG_MTXFIFO data).map AppleI2CState.rxFifo =
      (appleI2cMtxfifo bus s data.toUInt32).map AppleI2CState.rxFifo := by
  simp only [appleI2cRegWrite, ↓reduceIte, Option.map_map]
  congr 1
  funext s'
  simp

/-- A register write leaves the RX FIFO as it was, empties it (`CTL.MRR`), or leaves it as a
receive loop does (`READ`).
Source: `hw/i2c/apple_i2c.c` `apple_i2c_reg_write`
Kind: L -/
theorem appleI2cRegWrite_rxFifo {s s' : AppleI2CState σ} {addr : ℕ} {data : UInt64}
    (h : appleI2cRegWrite bus s addr data = some s') :
    s'.rxFifo = s.rxFifo ∨ s'.rxFifo = [] ∨
      ∃ n st st', appleI2cRecvLoop bus n st s.rxFifo = some (st', s'.rxFifo) := by
  unfold appleI2cRegWrite at h
  dsimp only at h
  split_ifs at h with hmtx hsmsta himask hctl
  · obtain ⟨s₁, h₁, rfl⟩ := Option.map_eq_some_iff.mp h
    rcases appleI2cMtxfifo_rxFifo bus h₁ with h₂ | h₂
    · exact Or.inl (by simpa using h₂)
    · exact Or.inr (Or.inr (by simpa using h₂))
  all_goals
    cases h
    simp

/-- `MRXFIFO` returns the byte at the head of the FIFO, the oldest one, and drops it.
Source: `hw/i2c/apple_i2c.c` `apple_i2c_reg_read`
Kind: L -/
theorem appleI2cRegRead_mrxfifo_of_cons {s : AppleI2CState σ} {b : UInt8} {rest : List UInt8}
    (h : s.rxFifo = b :: rest) :
    appleI2cRegRead s REG_MRXFIFO = (b.toUInt64, { s with rxFifo := rest }) := by
  have hdata : (kMRXFIFOData b.toUInt32).toUInt64 = b.toUInt64 := by
    apply UInt64.toNat_inj.mp
    simp only [kMRXFIFOData, UInt32.shiftLeft_zero, UInt32.toNat_toUInt64, UInt32.toNat_and,
      UInt8.toNat_toUInt32, UInt8.toNat_toUInt64]
    exact Nat.and_two_pow_sub_one_of_lt_two_pow (n := 8) b.toNat_lt
  simp [appleI2cRegRead, h, fifo8Pop, hdata]

/-- Only an `MRXFIFO` read takes a byte off the FIFO.
Source: `hw/i2c/apple_i2c.c` `apple_i2c_reg_read`
Kind: L -/
theorem appleI2cRegRead_rxFifo (s : AppleI2CState σ) (addr : ℕ) :
    (appleI2cRegRead s addr).2.rxFifo = if addr = REG_MRXFIFO then s.rxFifo.tail else s.rxFifo := by
  unfold appleI2cRegRead
  split_ifs
  · cases hfifo : s.rxFifo <;> simp [fifo8Pop, hfifo]
  all_goals rfl

/-- The RX count field of `MCNT` reads what `kMCNTRxCnt` put there, whatever the rest of the
word held.
Source: `hw/i2c/apple_i2c.c` `apple_i2c_reg_read`
Kind: L -/
theorem mcnt_rxCnt_field (v n : UInt32) :
    (((v &&& ~~~(kMCNTRxCnt 0xff ||| kMCNTTxCnt 0xff)) ||| kMCNTRxCnt n) >>> 8) &&& 0xff =
      n &&& 0xff := by
  apply ext_bit
  intro k
  simp only [kMCNTRxCnt, kMCNTTxCnt, bit_and, bit_or, bit_not, bit_byteMask,
    bit_shiftRight (n := 8) (by decide), bit_shiftLeft (n := 8) (by decide),
    bit_shiftLeft (n := 0) (by decide), UInt32.reduceToNat, Nat.add_sub_cancel, Nat.sub_zero]
  constructor
  · rintro ⟨⟨-, -, hclear⟩ | ⟨-, -, hn, -⟩, hk⟩
    · -- the old count was cleared
      exact absurd (Or.inl ⟨by omega, by omega, hk, hk⟩) hclear
    · exact ⟨hn, hk⟩
  · rintro ⟨hn, hk⟩
    exact ⟨Or.inr ⟨by omega, by omega, hn, hk⟩, hk⟩

/-- `MCNT` reports the number of bytes in the FIFO modulo 256: its RX field is eight bits wide.
Source: `hw/i2c/apple_i2c.c` `apple_i2c_reg_read`
Kind: L -/
theorem appleI2cRegRead_mcnt_rxCnt (s : AppleI2CState σ) :
    (((appleI2cRegRead s REG_MCNT).1.toUInt32 >>> 8) &&& 0xff).toNat = s.rxFifo.length % 256 := by
  rw [appleI2cRegRead, if_neg (by decide), if_pos rfl]
  simp only [UInt32.toUInt32_toUInt64, mcnt_rxCnt_field, UInt32.toNat_and, UInt32.toNat_ofNat',
    fifo8NumUsed]
  have hmask : (0xff : UInt32).toNat = 2 ^ 8 - 1 := rfl
  rw [hmask, Nat.and_two_pow_sub_one_eq_mod, Nat.mod_mod_of_dvd _ (by decide)]

/-- The FIFO holds at most its capacity, as `fifo8_push`'s assertion demands.
Source: `util/fifo8.c` `fifo8_push`
Kind: D -/
def AppleI2CState.RxFifoOk (s : AppleI2CState σ) : Prop := s.rxFifo.length ≤ RX_FIFO_CAPACITY

/-- Every access that does not fail keeps the FIFO within its capacity.
Source: `hw/i2c/apple_i2c.c` `apple_i2c_reg_write`, `apple_i2c_reg_read`
Kind: L -/
theorem appleI2cStep_rxFifoOk {s s' : AppleI2CState σ} {a : AppleI2CAccess}
    (h : appleI2cStep bus s a = some s') (hs : s.RxFifoOk) : s'.RxFifoOk := by
  unfold AppleI2CState.RxFifoOk at hs ⊢
  cases a with
  | write addr data =>
    rcases appleI2cRegWrite_rxFifo bus h with h₁ | h₁ | ⟨n, st, st', hloop⟩
    · rwa [h₁]
    · simp [h₁]
    · exact appleI2cRecvLoop_length_le bus hloop hs
  | read addr =>
    cases h
    rw [appleI2cRegRead_rxFifo]
    split_ifs
    · exact le_trans (by simp) hs
    · exact hs
  | reset =>
    cases h
    simp [appleI2cReset]

/-- So does every run. -/
theorem appleI2cRun_rxFifoOk {s s' : AppleI2CState σ} {as : List AppleI2CAccess}
    (h : appleI2cRun bus s as = some s') (hs : s.RxFifoOk) : s'.RxFifoOk := by
  induction as generalizing s with
  | nil =>
    cases h
    exact hs
  | cons a as ih =>
    simp only [appleI2cRun] at h
    obtain ⟨s₁, h₁, hrest⟩ := Option.bind_eq_some_iff.mp h
    exact ih hrest (appleI2cStep_rxFifoOk bus h₁ hs)

end step

/-! ## A `READ` longer than the free space -/

/-- Within a receive transaction, a `READ` command of `len` bytes aborts the device when the RX
FIFO has fewer than `len` bytes free, since each byte is pushed unchecked; when they fit, the
bytes are appended, and `MCNT` then reports their number modulo 256, so a FIFO filled to its
256 bytes reads as empty.
Source: `hw/i2c/apple_i2c.c` `apple_i2c_reg_write`, `apple_i2c_reg_read`
Kind: P -/
theorem apple_i2c_read_overflows_rx_fifo (bus : I2CBus σ) (s : AppleI2CState σ)
    (hfifo : s.RxFifoOk) (hxip : s.xip = true) (hrecv : s.isRecv = true) (len : UInt8) :
    let read : UInt64 := (kMTXFIFORead ||| len.toUInt32).toUInt64
    (RX_FIFO_CAPACITY < s.rxFifo.length + len.toNat →
      appleI2cRegWrite bus s REG_MTXFIFO read = none) ∧
    (s.rxFifo.length + len.toNat ≤ RX_FIFO_CAPACITY →
      ∃ s' bs, appleI2cRegWrite bus s REG_MTXFIFO read = some s' ∧ bs.length = len.toNat ∧
        s'.rxFifo = s.rxFifo ++ bs ∧
        (((appleI2cRegRead s' REG_MCNT).1.toUInt32 >>> 8) &&& 0xff).toNat =
          s'.rxFifo.length % 256) := by
  intro read
  have hwrite := appleI2cRegWrite_mtxfifo_rxFifo bus s read
  rw [UInt32.toUInt32_toUInt64, appleI2cMtxfifo_read_rxFifo len bus s hxip hrecv] at hwrite
  constructor
  · intro hover
    rw [appleI2cRecvLoop_of_lt bus _ _ _ hfifo hover, Option.map_none] at hwrite
    exact Option.map_eq_none_iff.mp hwrite
  · intro hfit
    obtain ⟨st', bs, hlen, hloop⟩ := appleI2cRecvLoop_of_le bus _ s.bus s.rxFifo hfit
    rw [hloop, Option.map_some] at hwrite
    obtain ⟨s', hs', hfifo'⟩ := Option.map_eq_some_iff.mp hwrite
    exact ⟨s', bs, hs', hlen, hfifo', appleI2cRegRead_mcnt_rxCnt s'⟩

/-- A bus whose device always answers, and sends `0xAA`. -/
def answeringBus : I2CBus Unit :=
  ⟨fun _ _ _ => ((), false), fun _ => ((), 0xAA), fun _ _ => ((), false), fun _ => ()⟩

/-- A receive transaction in progress with `n` bytes waiting in the RX FIFO. -/
def appleI2cReceiving (n : ℕ) : AppleI2CState Unit :=
  { reg := fun _ => 0, rxFifo := List.replicate n 0xAA, lastIrq := false, nak := false,
    xip := true, isRecv := true, bus := () }

theorem apple_i2c_read_overflows_rx_fifo_255 :
    appleI2cRegWrite answeringBus (appleI2cReceiving 255) REG_MTXFIFO
        (kMTXFIFORead ||| (2 : UInt8).toUInt32).toUInt64 = none ∧
      ∃ s', appleI2cRegWrite answeringBus (appleI2cReceiving 255) REG_MTXFIFO
          (kMTXFIFORead ||| (1 : UInt8).toUInt32).toUInt64 = some s' ∧
        s'.rxFifo.length = 256 ∧
        (((appleI2cRegRead s' REG_MCNT).1.toUInt32 >>> 8) &&& 0xff).toNat = 0 := by
  have h255 : (appleI2cReceiving 255).rxFifo.length = 255 := List.length_replicate
  have hok : (appleI2cReceiving 255).RxFifoOk := by
    rw [AppleI2CState.RxFifoOk, h255, RX_FIFO_CAPACITY]
    decide
  have h₂ := apple_i2c_read_overflows_rx_fifo answeringBus (appleI2cReceiving 255) hok rfl rfl 2
  have h₁ := apple_i2c_read_overflows_rx_fifo answeringBus (appleI2cReceiving 255) hok rfl rfl 1
  obtain ⟨s', bs, hw, hlen, hfifo, hcnt⟩ := h₁.2 (by rw [h255, RX_FIFO_CAPACITY]; decide)
  have hlen' : s'.rxFifo.length = 256 := by
    rw [hfifo, List.length_append, h255, hlen]
    decide
  refine ⟨h₂.1 (by rw [h255, RX_FIFO_CAPACITY]; decide), s', hw, hlen', ?_⟩
  rw [hcnt, hlen']

end QemuAppleSilicon.I2c
