import QemuAppleSilicon.Dma.SioStream
import QemuAppleSilicon.Spmi.AppleSpmi
import QemuAppleSilicon.Qemu.Base

/-!
# The Apple SPI controller (`hw/ssi/apple_spi.c`)

A transfer is programmed by `TXCNT` and `RXCNT` (in words of 1, 2 or 4 bytes, from
`CFG.WORD_SIZE`) and started by `CTRL.RUN`. `apple_spi_run` shifts each word of the TX FIFO out
on the SSI bus, byte by byte, and pushes the word shifted in onto the RX FIFO; with `CFG.AGD` it
then clocks in the words still owed to `RXCNT`. In DMA mode the TX FIFO is refilled from the TX
SIO channel, and the RX FIFO is drained into the RX SIO channel by `apple_spi_flush_rx`.

The devices on the bus are left abstract (`SsiBus`): their state `σ`, what `ssi_transfer`
returns, and what they do on a chip-select change. A handler returns `none` where the code
aborts (`g_assert_not_reached` on word size 3, `fifo32_push` on a full FIFO, `fifo32_pop` on an
empty one) or where an SIO transfer does not end.

* `appleSpiAgdLoop_fills` — the `AGD` loop clocks in every word `RXCNT` owes when the RX FIFO
  has room, and changes only the RX side (`AppleSPIState.RxSide`).
* `appleSpiFlushRx_within_head` — the drain takes `d = MIN(remaining room, words in the FIFO)`,
  a count of bytes capped by a count of words; it pops the words the loop `i += word_size` below
  `d` visits, and hands `d` bytes of them to the SIO channel.
* `spi_flush_rx_truncates` — so in DMA mode with 4-byte words, a transfer that clocks in two
  words with room for both ends with `STATUS.COMPLETE` set, one word still in the RX FIFO, and
  only the first two bytes of the first word in the channel.

Not modelled: the interrupt and chip-select lines as wires (their levels are kept:
`lastIrq`, and the devices' `setCs`).
-/

namespace QemuAppleSilicon.Ssi

open QemuAppleSilicon.Lib QemuAppleSilicon.Qemu QemuAppleSilicon.Dma QemuAppleSilicon.Spmi

/-! ## Registers -/

/-- Source: `hw/ssi/apple_spi.c` `REG_CTRL`. Kind: D -/
def REG_CTRL : ℕ := 0x000
/-- Source: `hw/ssi/apple_spi.c` `REG_CTRL_RUN`. Kind: D -/
def REG_CTRL_RUN : UInt32 := 1
/-- Source: `hw/ssi/apple_spi.c` `REG_CTRL_TX_RESET`. Kind: D -/
def REG_CTRL_TX_RESET : UInt32 := 4
/-- Source: `hw/ssi/apple_spi.c` `REG_CTRL_RX_RESET`. Kind: D -/
def REG_CTRL_RX_RESET : UInt32 := 8

/-- Source: `hw/ssi/apple_spi.c` `REG_CFG`. Kind: D -/
def REG_CFG : ℕ := 0x004
/-- Source: `hw/ssi/apple_spi.c` `REG_CFG_AGD`. Kind: D -/
def REG_CFG_AGD : UInt32 := 1
/-- Source: `hw/ssi/apple_spi.c` `REG_CFG_MODE`. Kind: D -/
def REG_CFG_MODE (x : UInt32) : UInt32 := (x >>> 5) &&& 0x3
/-- Source: `hw/ssi/apple_spi.c` `REG_CFG_MODE_INVALID`. Kind: D -/
def REG_CFG_MODE_INVALID : UInt32 := 0
/-- Source: `hw/ssi/apple_spi.c` `REG_CFG_MODE_DMA`. Kind: D -/
def REG_CFG_MODE_DMA : UInt32 := 2
/-- Source: `hw/ssi/apple_spi.c` `REG_CFG_IE_RXREADY`. Kind: D -/
def REG_CFG_IE_RXREADY : UInt32 := (1 : UInt32) <<< 7
/-- Source: `hw/ssi/apple_spi.c` `REG_CFG_IE_TXEMPTY`. Kind: D -/
def REG_CFG_IE_TXEMPTY : UInt32 := (1 : UInt32) <<< 8
/-- Source: `hw/ssi/apple_spi.c` `REG_CFG_WORD_SIZE`. Kind: D -/
def REG_CFG_WORD_SIZE (x : UInt32) : UInt32 := (x >>> 15) &&& 0x3
/-- Source: `hw/ssi/apple_spi.c` `REG_CFG_IE_COMPLETE`. Kind: D -/
def REG_CFG_IE_COMPLETE : UInt32 := (1 : UInt32) <<< 21

/-- Source: `hw/ssi/apple_spi.c` `REG_STATUS`. Kind: D -/
def REG_STATUS : ℕ := 0x008
/-- Source: `hw/ssi/apple_spi.c` `REG_STATUS_RXREADY`. Kind: D -/
def REG_STATUS_RXREADY : UInt32 := 1
/-- Source: `hw/ssi/apple_spi.c` `REG_STATUS_TXEMPTY`. Kind: D -/
def REG_STATUS_TXEMPTY : UInt32 := 2
/-- Source: `hw/ssi/apple_spi.c` `REG_STATUS_RXOVERFLOW`. Kind: D -/
def REG_STATUS_RXOVERFLOW : UInt32 := 8
/-- Source: `hw/ssi/apple_spi.c` `REG_STATUS_COMPLETE`. Kind: D -/
def REG_STATUS_COMPLETE : UInt32 := (1 : UInt32) <<< 22
/-- Source: `hw/ssi/apple_spi.c` `REG_STATUS_TXFIFO_SHIFT`. Kind: D -/
def REG_STATUS_TXFIFO_SHIFT : UInt32 := 6
/-- Source: `hw/ssi/apple_spi.c` `REG_STATUS_TXFIFO_MASK`. Kind: D -/
def REG_STATUS_TXFIFO_MASK : UInt32 := 31 <<< REG_STATUS_TXFIFO_SHIFT
/-- Source: `hw/ssi/apple_spi.c` `REG_STATUS_RXFIFO_SHIFT`. Kind: D -/
def REG_STATUS_RXFIFO_SHIFT : UInt32 := 11
/-- Source: `hw/ssi/apple_spi.c` `REG_STATUS_RXFIFO_MASK`. Kind: D -/
def REG_STATUS_RXFIFO_MASK : UInt32 := 31 <<< REG_STATUS_RXFIFO_SHIFT

/-- Source: `hw/ssi/apple_spi.c` `REG_PIN`. Kind: D -/
def REG_PIN : ℕ := 0x00c
/-- Source: `hw/ssi/apple_spi.c` `REG_PIN_CS`. Kind: D -/
def REG_PIN_CS : UInt32 := 2

/-- Source: `hw/ssi/apple_spi.c` `REG_TXDATA`. Kind: D -/
def REG_TXDATA : ℕ := 0x010
/-- Source: `hw/ssi/apple_spi.c` `REG_RXDATA`. Kind: D -/
def REG_RXDATA : ℕ := 0x020
/-- Source: `hw/ssi/apple_spi.c` `REG_RXCNT`. Kind: D -/
def REG_RXCNT : ℕ := 0x034
/-- Source: `hw/ssi/apple_spi.c` `REG_TXCNT`. Kind: D -/
def REG_TXCNT : ℕ := 0x04c
/-- Source: `hw/ssi/apple_spi.c` `REG_MAX`. Kind: D -/
def REG_MAX : ℕ := 0x50

/-- The FIFOs are created with this many words.
Source: `hw/ssi/apple_spi.c` `REG_FIFO_DEPTH`
Kind: D -/
def REG_FIFO_DEPTH : ℕ := 16

/-! ## State -/

/-- The devices on the SSI bus: `ssi_transfer` of a value, and what they do when the controller
drives chip select.
Source: `hw/ssi/ssi.c` `ssi_transfer`; `hw/ssi/apple_spi.c` `apple_spi_update_cs`
Kind: D -/
structure SsiBus (σ : Type) where
  transfer : σ → UInt32 → σ × UInt32
  setCs : σ → Bool → σ

/-- The controller: its registers (`regs[addr >> 2]`), the two FIFOs (head first), the interrupt
level last driven, the SIO channels and whether it has them, the guest memory they move bytes
through with the completions the SIO sent, and the bus devices' state.
Source: `hw/ssi/apple_spi.c` `AppleSPIState`
Kind: D -/
structure AppleSPIState (σ : Type) where
  regs : ℕ → UInt32
  rxFifo : List UInt32
  txFifo : List UInt32
  lastIrq : UInt32
  txChan : AppleSIODMAEndpoint
  rxChan : AppleSIODMAEndpoint
  dmaCapable : Bool
  mem : DmaMemory
  sioSent : List SIOMessage
  periph : σ

variable {σ : Type}

/-- `REG(s, addr)`.
Source: `hw/ssi/apple_spi.c` `REG`
Kind: D -/
def AppleSPIState.reg (s : AppleSPIState σ) (addr : ℕ) : UInt32 := s.regs (addr >>> 2)

/-- `REG(s, addr) = v`.
Source: `hw/ssi/apple_spi.c` `REG`
Kind: D -/
def AppleSPIState.setReg (s : AppleSPIState σ) (addr : ℕ) (v : UInt32) : AppleSPIState σ :=
  { s with regs := Function.update s.regs (addr >>> 2) v }

/-- `fifo32_pop`: `fifo8_pop` asserts the FIFO is not empty.
Source: `include/qemu/fifo32.h` `fifo32_pop`; `util/fifo8.c` `fifo8_pop`
Kind: D -/
def fifo32Pop : List UInt32 → Option (UInt32 × List UInt32)
  | [] => none
  | v :: q => some (v, q)

/-! ## Word size, status and interrupt -/

/-- The word size in bytes; `CFG.WORD_SIZE = 3` reaches `g_assert_not_reached`.
Source: `hw/ssi/apple_spi.c` `apple_spi_word_size`
Kind: D -/
def appleSpiWordSize (s : AppleSPIState σ) : Option ℕ :=
  let ws := REG_CFG_WORD_SIZE (s.reg REG_CFG)
  if ws = 0 then some 1 else if ws = 1 then some 2 else if ws = 2 then some 4 else none

/-- `STATUS |= bits`.
Source: `hw/ssi/apple_spi.c`
Kind: D -/
def AppleSPIState.setStatus (s : AppleSPIState σ) (bits : UInt32) : AppleSPIState σ :=
  s.setReg REG_STATUS (s.reg REG_STATUS ||| bits)

/-- Source: `hw/ssi/apple_spi.c` `apple_spi_update_xfer_rx`. Kind: D -/
def appleSpiUpdateXferRx (s : AppleSPIState σ) : AppleSPIState σ :=
  if s.rxFifo ≠ [] then s.setStatus REG_STATUS_RXREADY else s

/-- The interrupt level: a status bit among those `CFG` enables.
Source: `hw/ssi/apple_spi.c` `apple_spi_update_irq`
Kind: D -/
def appleSpiIrqLevel (s : AppleSPIState σ) : UInt32 :=
  let cfg := s.reg REG_CFG
  let mask := (if cfg &&& REG_CFG_IE_RXREADY ≠ 0 then REG_STATUS_RXREADY else 0) |||
    (if cfg &&& REG_CFG_IE_TXEMPTY ≠ 0 then REG_STATUS_TXEMPTY else 0) |||
    (if cfg &&& REG_CFG_IE_COMPLETE ≠ 0 then REG_STATUS_COMPLETE else 0)
  if s.reg REG_STATUS &&& mask ≠ 0 then 1 else 0

/-- The line is driven when its level changes.
Source: `hw/ssi/apple_spi.c` `apple_spi_update_irq`
Kind: D -/
def appleSpiUpdateIrq (s : AppleSPIState σ) : AppleSPIState σ :=
  if appleSpiIrqLevel s ≠ s.lastIrq then { s with lastIrq := appleSpiIrqLevel s } else s

/-- Chip select driven from `PIN.CS`.
Source: `hw/ssi/apple_spi.c` `apple_spi_update_cs`
Kind: D -/
def appleSpiUpdateCs (bus : SsiBus σ) (s : AppleSPIState σ) : AppleSPIState σ :=
  { s with periph := bus.setCs s.periph (s.reg REG_PIN &&& REG_PIN_CS ≠ 0) }

/-! ## The SIO side -/

/-- A C `int` holding a 64-bit count: its low 32 bits, signed.
Source: C conversion to `int`
Kind: D -/
def cInt (n : ℕ) : Int32 := (UInt64.ofNat n).toUInt32.toInt32

/-- The TX refill: with the TX FIFO empty, in DMA mode, `MIN(remaining, TXCNT * word_size,
free words * word_size)` bytes (as `int`s) are read from the TX channel and pushed a word per
`word_size` bytes, each word the four bytes at its offset masked to the word size; nothing read,
or another mode, sets `STATUS.TXEMPTY`.
Source: `hw/ssi/apple_spi.c` `apple_spi_update_xfer_tx`
Kind: D -/
def appleSpiUpdateXferTx (s : AppleSPIState σ) : Option (AppleSPIState σ) := do
  if s.txFifo ≠ [] then return s
  if REG_CFG_MODE (s.reg REG_CFG) ≠ REG_CFG_MODE_DMA then return s.setStatus REG_STATUS_TXEMPTY
  let w ← appleSpiWordSize s
  let dmaLen := cInt (appleSioDmaRemaining s.txChan)
  let xferLen := (s.reg REG_TXCNT * UInt32.ofNat w).toInt32
  let fifoLen := (UInt32.ofNat ((REG_FIFO_DEPTH - s.txFifo.length) * w)).toInt32
  let dmaLen := if dmaLen > xferLen then xferLen else dmaLen
  let dmaLen := if dmaLen > fifoLen then fifoLen else dmaLen
  let (ep, r) ← appleSioDmaRead s.mem s.txChan (fun _ => 0) dmaLen.toInt64.toUInt64.toNat
  let s := { s with txChan := ep, mem := r.mem, sioSent := s.sioSent ++ r.sent }
  if r.actualLen = 0 then return s.setStatus REG_STATUS_TXEMPTY
  -- `for (i = 0; i < dma_len; i += word_size)` with `dma_len` the count read
  let words := ((List.range ((r.actualLen + w - 1) / w)).map fun j =>
    ldlLeP r.buffer (j * w) &&& (((1 : UInt32) <<< UInt32.ofNat (w * 8)) - 1))
  let q ← words.foldlM (fifo32Push REG_FIFO_DEPTH) s.txFifo
  return { s with txFifo := q }

/-- The bytes `memcpy(buffer + i, &v, word_size)` leaves for the popped words `vs`, into a
zeroed buffer.
Source: `hw/ssi/apple_spi.c` `apple_spi_flush_rx`
Kind: D -/
def rxBuffer (vs : List UInt32) (w : ℕ) : Mem :=
  Mem.write (fun _ => 0) 0 (vs.flatMap fun v => leBytes v.toNat w)

/-- The number of words the loop `for (i = 0; i < dma_len; i += word_size)` pops.
Source: `hw/ssi/apple_spi.c` `apple_spi_flush_rx`
Kind: D -/
def flushWords (dmaLen w : ℕ) : ℕ := (dmaLen + w - 1) / w

/-- The RX drain in DMA mode: `dma_len` is the channel's remaining room (an `int`) capped by the
number of words in the FIFO (compared as unsigned), the loop pops a word per `word_size` bytes
below it, and `dma_len` bytes of the buffer go to the RX channel.
Source: `hw/ssi/apple_spi.c` `apple_spi_flush_rx`
Kind: D -/
def appleSpiFlushRx (s : AppleSPIState σ) : Option (AppleSPIState σ) := do
  let w ← appleSpiWordSize s
  if REG_CFG_MODE (s.reg REG_CFG) ≠ REG_CFG_MODE_DMA then return s
  let used := UInt32.ofNat s.rxFifo.length
  let dmaLen := (cInt (appleSioDmaRemaining s.rxChan)).toUInt32
  let dmaLen := if dmaLen > used then used else dmaLen
  if dmaLen = 0 then return s
  let k := flushWords dmaLen.toNat w
  if s.rxFifo.length < k then none
  let (ep, r) ← appleSioDmaWrite s.mem s.rxChan (rxBuffer (s.rxFifo.take k) w) dmaLen.toNat
  return { s with rxFifo := s.rxFifo.drop k, rxChan := ep, mem := r.mem,
                  sioSent := s.sioSent ++ r.sent }

/-! ## The transfer -/

/-- One word on the bus: `word_size` bytes of `tx` shifted out low byte first, the bytes shifted
in accumulated high byte first.
Source: `hw/ssi/apple_spi.c` `apple_spi_run`
Kind: D -/
def appleSpiShiftWord (bus : SsiBus σ) (w : ℕ) (periph : σ) (tx : UInt32) : σ × UInt32 :=
  match (List.range w).foldl (fun (acc : σ × UInt32 × UInt32) _ =>
      let (p, rx, tx) := acc
      let (p, b) := bus.transfer p (tx &&& 0xff)
      (p, (rx <<< 8) ||| b, tx >>> 8)) (periph, 0, tx) with
  | (p, rx, _) => (p, rx)

/-- One word clocked in by the `AGD` loop: `word_size` bytes of `0xff` shifted out, the bytes
shifted in accumulated high byte first.
Source: `hw/ssi/apple_spi.c` `apple_spi_run`
Kind: D -/
def appleSpiClockWord (bus : SsiBus σ) (w : ℕ) (periph : σ) : σ × UInt32 :=
  (List.range w).foldl (fun (acc : σ × UInt32) _ =>
    let (p, b) := bus.transfer acc.1 0xff
    (p, (acc.2 <<< 8) ||| b)) (periph, 0)

/-- A word shifted in while `RXCNT` is not zero: the FIFO drained when full, then pushed (and
`RXCNT` counted down), or `STATUS.RXOVERFLOW` and the loop stops (`false`).
Source: `hw/ssi/apple_spi.c` `apple_spi_run`
Kind: D -/
def appleSpiTakeRx (s : AppleSPIState σ) (rx : UInt32) : Option (AppleSPIState σ × Bool) := do
  let s ← if s.rxFifo.length = REG_FIFO_DEPTH then appleSpiFlushRx s else pure s
  if s.rxFifo.length = REG_FIFO_DEPTH then return (s.setStatus REG_STATUS_RXOVERFLOW, false)
  let q ← fifo32Push REG_FIFO_DEPTH s.rxFifo rx
  let s := { s with rxFifo := q }
  return (appleSpiUpdateXferRx (s.setReg REG_RXCNT (s.reg REG_RXCNT - 1)), true)

/-- `while (TXCNT && !fifo32_is_empty(&s->tx_fifo))`: a word out, `TXCNT` counted down, the TX
FIFO refilled, the word in taken while `RXCNT` is not zero. Each iteration counts `TXCNT` down,
so `TXCNT` iterations are all it can make.
Source: `hw/ssi/apple_spi.c` `apple_spi_run`
Kind: D -/
def appleSpiTxLoop (bus : SsiBus σ) (w : ℕ) : ℕ → AppleSPIState σ → Option (AppleSPIState σ)
  | 0, s => some s
  | fuel + 1, s => do
    if s.reg REG_TXCNT = 0 then return s
    let some (tx, q) := fifo32Pop s.txFifo | return s
    let (p, rx) := appleSpiShiftWord bus w s.periph tx
    let s := { s with txFifo := q, periph := p }
    let s := s.setReg REG_TXCNT (s.reg REG_TXCNT - 1)
    let s ← appleSpiUpdateXferTx s
    if s.reg REG_RXCNT = 0 then return ← appleSpiTxLoop bus w fuel s
    let (s, go) ← appleSpiTakeRx s rx
    if go then appleSpiTxLoop bus w fuel s else return s

/-- `while (!fifo32_is_full(&s->rx_fifo) && RXCNT > 0 && (CFG & REG_CFG_AGD))`: a word clocked in
with `0xff` shifted out, and taken. Each iteration counts `RXCNT` down or stops.
Source: `hw/ssi/apple_spi.c` `apple_spi_run`
Kind: D -/
def appleSpiAgdLoop (bus : SsiBus σ) (w : ℕ) : ℕ → AppleSPIState σ → Option (AppleSPIState σ)
  | 0, s => some s
  | fuel + 1, s => do
    if s.rxFifo.length = REG_FIFO_DEPTH ∨ s.reg REG_RXCNT = 0 ∨ s.reg REG_CFG &&& REG_CFG_AGD = 0 then
      return s
    let (p, rx) := appleSpiClockWord bus w s.periph
    let (s, go) ← appleSpiTakeRx { s with periph := p } rx
    if go then appleSpiAgdLoop bus w fuel s else return s

/-- A transfer: nothing in an invalid mode, without `CTRL.RUN`, with nothing to do, or in DMA
mode on a controller without channels; otherwise the TX refill, the TX loop, the RX drain when
full, the `AGD` loop, a last drain, and `STATUS.COMPLETE` once both counts are zero.
Source: `hw/ssi/apple_spi.c` `apple_spi_run`
Kind: D -/
def appleSpiRun (bus : SsiBus σ) (s : AppleSPIState σ) : Option (AppleSPIState σ) := do
  let w ← appleSpiWordSize s
  let mode := REG_CFG_MODE (s.reg REG_CFG)
  if mode = REG_CFG_MODE_INVALID then return s
  if s.reg REG_CTRL &&& REG_CTRL_RUN = 0 then return s
  if s.reg REG_RXCNT = 0 ∧ s.reg REG_TXCNT = 0 then return s
  if mode = REG_CFG_MODE_DMA ∧ !s.dmaCapable then return s
  let s ← appleSpiUpdateXferTx s
  let s ← appleSpiTxLoop bus w (s.reg REG_TXCNT).toNat s
  let s ← if s.rxFifo.length = REG_FIFO_DEPTH then appleSpiFlushRx s else pure s
  let s ← appleSpiAgdLoop bus w (s.reg REG_RXCNT).toNat s
  let s ← appleSpiFlushRx s
  if s.reg REG_RXCNT = 0 ∧ s.reg REG_TXCNT = 0 then return s.setStatus REG_STATUS_COMPLETE
  return s

/-! ## The register file -/

/-- A guest write: the register is stored (after the side effects of `CTRL`, `STATUS` and
`TXDATA`), chip select follows `PIN`, and a write to `CTRL.RUN`, `TXDATA`, `TXCNT`, `RXCNT` or
`CFG` runs the transfer; an offset past `REG_MAX` is ignored.
Source: `hw/ssi/apple_spi.c` `apple_spi_reg_write`
Kind: D -/
def appleSpiRegWrite (bus : SsiBus σ) (s : AppleSPIState σ) (addr : ℕ) (data : UInt64) :
    Option (AppleSPIState σ) := do
  if addr ≥ REG_MAX then return s
  let r := data.toUInt32
  let old := s.reg addr
  let (s, r, run) ← show Option (AppleSPIState σ × UInt32 × Bool) from
    if addr = REG_CTRL then
      let s := if r &&& REG_CTRL_TX_RESET ≠ 0 then { s with txFifo := [] } else s
      let r := if r &&& REG_CTRL_TX_RESET ≠ 0 then r &&& ~~~REG_CTRL_TX_RESET else r
      let s := if r &&& REG_CTRL_RX_RESET ≠ 0 then { s with rxFifo := [] } else s
      let r := if r &&& REG_CTRL_RX_RESET ≠ 0 then r &&& ~~~REG_CTRL_RX_RESET else r
      pure (s, r, r &&& REG_CTRL_RUN ≠ 0)
    else if addr = REG_STATUS then pure (s, old &&& ~~~r, false)
    else if addr = REG_TXDATA then do
      let w ← appleSpiWordSize s
      if s.txFifo.length = REG_FIFO_DEPTH then pure (s, 0, false)
      else
        let r := r &&& (((1 : UInt32) <<< UInt32.ofNat (w * 8)) - 1)
        let q ← fifo32Push REG_FIFO_DEPTH s.txFifo r
        pure ({ s with txFifo := q }, r, true)
    else if addr = REG_TXCNT ∨ addr = REG_RXCNT ∨ addr = REG_CFG then pure (s, r, true)
    else pure (s, r, false)
  let s := s.setReg addr r
  let s := if addr = REG_PIN then appleSpiUpdateCs bus s else s
  let s ← if run then appleSpiRun bus s else pure s
  return appleSpiUpdateIrq s

/-- A guest read: `RXDATA` pops the RX FIFO (and runs the transfer once it is empty), `STATUS`
shows both FIFO levels; an offset past `REG_MAX` reads `0`.
Source: `hw/ssi/apple_spi.c` `apple_spi_reg_read`
Kind: D -/
def appleSpiRegRead (bus : SsiBus σ) (s : AppleSPIState σ) (addr : ℕ) :
    Option (UInt32 × AppleSPIState σ) := do
  if addr ≥ REG_MAX then return (0, s)
  let r := s.reg addr
  let (s, r, run) :=
    if addr = REG_RXDATA then
      match s.rxFifo with
      | [] => (s, 0, false)
      | v :: q => ({ s with rxFifo := q }, v, q = [])
    else if addr = REG_STATUS then
      let v := ((UInt32.ofNat s.txFifo.length <<< REG_STATUS_TXFIFO_SHIFT) |||
          (UInt32.ofNat s.rxFifo.length <<< REG_STATUS_RXFIFO_SHIFT)) &&&
        (REG_STATUS_TXFIFO_MASK ||| REG_STATUS_RXFIFO_MASK)
      (s, (r &&& ~~~(REG_STATUS_TXFIFO_MASK ||| REG_STATUS_RXFIFO_MASK)) ||| v, false)
    else (s, r, false)
  let s ← if run then appleSpiRun bus s else pure s
  return (r, appleSpiUpdateIrq s)

/-- The chip-select input: `PIN.CS` set or cleared, then driven onto the bus.
Source: `hw/ssi/apple_spi.c` `apple_spi_cs_set`
Kind: D -/
def appleSpiCsSet (bus : SsiBus σ) (s : AppleSPIState σ) (level : Bool) : AppleSPIState σ :=
  let v := if level then s.reg REG_PIN ||| REG_PIN_CS else s.reg REG_PIN &&& ~~~REG_PIN_CS
  appleSpiUpdateCs bus (s.setReg REG_PIN v)

/-- Reset: every register zero and both FIFOs empty.
Source: `hw/ssi/apple_spi.c` `apple_spi_reset`
Kind: D -/
def appleSpiReset (s : AppleSPIState σ) : AppleSPIState σ :=
  { s with regs := fun _ => 0, rxFifo := [], txFifo := [] }

/-! ## The register file and the frame of the shift loops -/

@[simp] theorem AppleSPIState.reg_setReg (s : AppleSPIState σ) (a b : ℕ) (v : UInt32) :
    (s.setReg a v).reg b = if b >>> 2 = a >>> 2 then v else s.reg b := by
  unfold AppleSPIState.setReg AppleSPIState.reg
  exact Function.update_apply s.regs (a >>> 2) v (b >>> 2)

@[simp] theorem AppleSPIState.setReg_rxFifo (s : AppleSPIState σ) (a : ℕ) (v : UInt32) :
    (s.setReg a v).rxFifo = s.rxFifo := rfl

@[simp] theorem AppleSPIState.setReg_rxChan (s : AppleSPIState σ) (a : ℕ) (v : UInt32) :
    (s.setReg a v).rxChan = s.rxChan := rfl

@[simp] theorem AppleSPIState.setReg_mem (s : AppleSPIState σ) (a : ℕ) (v : UInt32) :
    (s.setReg a v).mem = s.mem := rfl

/-- After a push the RX FIFO holds a word, so `STATUS.RXREADY` is set.
Source: `hw/ssi/apple_spi.c` `apple_spi_update_xfer_rx`
Kind: L -/
theorem appleSpiUpdateXferRx_push (s : AppleSPIState σ) (rx : UInt32) (p : σ) (v : UInt32) :
    appleSpiUpdateXferRx (({ s with rxFifo := s.rxFifo ++ [rx], periph := p }).setReg REG_RXCNT v) =
      (({ s with rxFifo := s.rxFifo ++ [rx], periph := p }).setReg REG_RXCNT v).setStatus
        REG_STATUS_RXREADY := by
  simp [appleSpiUpdateXferRx]

/-- What the shift-register loops change: the RX FIFO, the devices, and the registers `STATUS`
and `RXCNT`. Every other register, the TX side, both channels and guest memory stay. -/
def AppleSPIState.RxSide (s s' : AppleSPIState σ) : Prop :=
  ∃ regs q p, (∀ i, i ≠ REG_STATUS >>> 2 → i ≠ REG_RXCNT >>> 2 → regs i = s.regs i) ∧
    s' = { s with regs := regs, rxFifo := q, periph := p }

namespace AppleSPIState.RxSide

theorem refl (s : AppleSPIState σ) : s.RxSide s :=
  ⟨s.regs, s.rxFifo, s.periph, fun _ _ _ => rfl, rfl⟩

theorem trans {s₁ s₂ s₃ : AppleSPIState σ} (h₁ : s₁.RxSide s₂) (h₂ : s₂.RxSide s₃) :
    s₁.RxSide s₃ := by
  obtain ⟨regs₁, q₁, p₁, hr₁, rfl⟩ := h₁
  obtain ⟨regs₂, q₂, p₂, hr₂, rfl⟩ := h₂
  exact ⟨regs₂, q₂, p₂, fun i h h' => (hr₂ i h h').trans (hr₁ i h h'), rfl⟩

theorem reg {s s' : AppleSPIState σ} (h : s.RxSide s') {a : ℕ} (h₁ : a >>> 2 ≠ REG_STATUS >>> 2)
    (h₂ : a >>> 2 ≠ REG_RXCNT >>> 2) : s'.reg a = s.reg a := by
  obtain ⟨regs, q, p, hr, rfl⟩ := h
  exact hr _ h₁ h₂

theorem rxChan {s s' : AppleSPIState σ} (h : s.RxSide s') : s'.rxChan = s.rxChan := by
  obtain ⟨regs, q, p, hr, rfl⟩ := h
  rfl

theorem mem {s s' : AppleSPIState σ} (h : s.RxSide s') : s'.mem = s.mem := by
  obtain ⟨regs, q, p, hr, rfl⟩ := h
  rfl

end AppleSPIState.RxSide

/-- A word taken into the RX FIFO: pushed, `RXCNT` counted down, `STATUS.RXREADY` set, all on
the RX side. -/
theorem AppleSPIState.rxSide_push (s : AppleSPIState σ) (q : List UInt32) (p : σ) (v : UInt32) :
    s.RxSide (appleSpiUpdateXferRx (({ s with rxFifo := q, periph := p }).setReg REG_RXCNT v)) := by
  unfold appleSpiUpdateXferRx
  split
  · refine ⟨_, q, p, fun i h₁ h₂ => ?_, rfl⟩
    simp only [AppleSPIState.setReg, AppleSPIState.reg, Function.update_of_ne h₁,
      Function.update_of_ne h₂]
  · refine ⟨_, q, p, fun i _ h₂ => ?_, rfl⟩
    simp only [Function.update_of_ne h₂]

/-! ## The `AGD` loop -/

/-- A word taken while the RX FIFO has room: no drain, and the push branch.
Source: `hw/ssi/apple_spi.c` `apple_spi_run`
Kind: L -/
theorem appleSpiTakeRx_of_lt {s : AppleSPIState σ} (hlen : s.rxFifo.length < REG_FIFO_DEPTH)
    (rx : UInt32) :
    appleSpiTakeRx s rx = some (appleSpiUpdateXferRx
      (({ s with rxFifo := s.rxFifo ++ [rx] }).setReg REG_RXCNT (s.reg REG_RXCNT - 1)), true) := by
  have hne : s.rxFifo.length ≠ REG_FIFO_DEPTH := by omega
  simp [appleSpiTakeRx, hne, fifo32Push, hlen]
  rfl

/-- An iteration of the `AGD` loop with room in the RX FIFO and words owed: a word clocked in
and pushed.
Source: `hw/ssi/apple_spi.c` `apple_spi_run`
Kind: L -/
theorem appleSpiAgdLoop_succ (bus : SsiBus σ) (w fuel : ℕ) {s : AppleSPIState σ}
    (hlen : s.rxFifo.length < REG_FIFO_DEPTH) (hcnt : s.reg REG_RXCNT ≠ 0)
    (hagd : s.reg REG_CFG &&& REG_CFG_AGD ≠ 0) :
    appleSpiAgdLoop bus w (fuel + 1) s = appleSpiAgdLoop bus w fuel (appleSpiUpdateXferRx
      (({ s with rxFifo := s.rxFifo ++ [(appleSpiClockWord bus w s.periph).2],
                 periph := (appleSpiClockWord bus w s.periph).1 }).setReg REG_RXCNT
        (s.reg REG_RXCNT - 1))) := by
  have hne : s.rxFifo.length ≠ REG_FIFO_DEPTH := by omega
  rw [appleSpiAgdLoop, if_neg (by simp [hne, hcnt, hagd])]
  simp only [appleSpiTakeRx_of_lt (s := { s with periph := (appleSpiClockWord bus w s.periph).1 })
    hlen]
  rfl

/-- The `AGD` loop clocks in every word `RXCNT` owes when the RX FIFO has room for them all, and
changes only the RX side. The induction is on the words owed.
Source: `hw/ssi/apple_spi.c` `apple_spi_run`
Kind: L -/
theorem appleSpiAgdLoop_fills (bus : SsiBus σ) (w n : ℕ) :
    ∀ (fuel : ℕ) (s : AppleSPIState σ), (s.reg REG_RXCNT).toNat = n → n ≤ fuel →
      s.rxFifo.length + n ≤ REG_FIFO_DEPTH → s.reg REG_CFG &&& REG_CFG_AGD ≠ 0 →
      ∃ s', appleSpiAgdLoop bus w fuel s = some s' ∧ s.RxSide s' ∧
        s'.rxFifo.length = s.rxFifo.length + n ∧ s'.reg REG_RXCNT = 0 := by
  induction n with
  | zero =>
    intro fuel s hcnt _ _ _
    have h0 : s.reg REG_RXCNT = 0 := UInt32.toNat_inj.mp hcnt
    refine ⟨s, ?_, .refl s, rfl, h0⟩
    cases fuel with
    | zero => rfl
    | succ f => rw [appleSpiAgdLoop, if_pos (Or.inr (Or.inl h0))]; rfl
  | succ n ih =>
    intro fuel s hcnt hfuel hlen hagd
    obtain ⟨f, rfl⟩ : ∃ f, fuel = f + 1 := ⟨fuel - 1, by omega⟩
    have hne : s.reg REG_RXCNT ≠ 0 := fun h => by simp [h] at hcnt
    rw [appleSpiAgdLoop_succ bus w f (by omega) hne hagd]
    -- the state after one word: still on the RX side, one word more, one word less owed
    have hside := AppleSPIState.rxSide_push s (s.rxFifo ++ [(appleSpiClockWord bus w s.periph).2])
      (appleSpiClockWord bus w s.periph).1 (s.reg REG_RXCNT - 1)
    rw [appleSpiUpdateXferRx_push] at hside ⊢
    have hcfg := hside.reg (a := REG_CFG) (by decide) (by decide)
    have hcnt₁ : (s.reg REG_RXCNT - 1).toNat = n := by
      rw [UInt32.toNat_sub_of_le _ _ (UInt32.le_iff_toNat_le.mpr (by simp; omega))]
      simp [hcnt]
    refine (ih f _ ?_ (by omega) ?_ (by rwa [hcfg])).imp fun s' ⟨hrun, hside', hlen', hcnt'⟩ =>
      ⟨hrun, hside.trans hside', ?_, hcnt'⟩
    · simpa [AppleSPIState.setStatus, REG_RXCNT, REG_STATUS] using hcnt₁
    · simp [AppleSPIState.setStatus]
      omega
    · simp [hlen', AppleSPIState.setStatus]
      omega

/-! ## The RX drain -/

theorem appleSpiWordSize_cases {s : AppleSPIState σ} {w : ℕ} (h : appleSpiWordSize s = some w) :
    w = 1 ∨ w = 2 ∨ w = 4 := by
  unfold appleSpiWordSize at h
  dsimp only at h
  split_ifs at h <;> simp_all

/-- The word size is read from `CFG` alone. -/
theorem appleSpiWordSize_congr {s s' : AppleSPIState σ} (h : s'.reg REG_CFG = s.reg REG_CFG) :
    appleSpiWordSize s' = appleSpiWordSize s := by
  simp only [appleSpiWordSize, h]

/-- The `int` the code holds a channel's room in, read back as a `uint32_t`. -/
@[simp] theorem cInt_toUInt32 (n : ℕ) : (cInt n).toUInt32 = UInt32.ofNat n := by
  rw [cInt, UInt32.toUInt32_toInt32, UInt64.toUInt32_ofNat']

/-- The loop pops no more words than the count of bytes it runs to. -/
theorem flushWords_le (d : ℕ) {w : ℕ} (hw : 0 < w) : flushWords d w ≤ d := by
  unfold flushWords
  have h : d ≤ d * w := Nat.le_mul_of_pos_right d hw
  have hlt : (d + w - 1) / w < d + 1 :=
    (Nat.div_lt_iff_lt_mul hw).mpr (by rw [Nat.succ_mul]; omega)
  omega

/-- The RX drain in DMA mode, when the channel's head request can take what it moves. Its count
`d` is the channel's room (held in an `int`, compared unsigned) capped by the number of words in
the RX FIFO; the loop pops `flushWords d w` words, and `d` bytes of them go to the channel. The
registers stay.
Source: `hw/ssi/apple_spi.c` `apple_spi_flush_rx`
Kind: L -/
theorem appleSpiFlushRx_within_head {s : AppleSPIState σ} {w d : ℕ}
    (hw : appleSpiWordSize s = some w) (hmode : REG_CFG_MODE (s.reg REG_CFG) = REG_CFG_MODE_DMA)
    (hcap : s.rxFifo.length ≤ REG_FIFO_DEPTH)
    (hd : min (appleSioDmaRemaining s.rxChan % 2 ^ 32) s.rxFifo.length = d) (hpos : 0 < d)
    {req req' : SIODMAMapRequest} {reqs : List SIODMAMapRequest}
    (hdir : s.rxChan.direction = .DMA_DIRECTION_FROM_DEVICE) (hq : s.rxChan.requests = req :: reqs)
    (hmap : appleSioMapDma s.mem req = some req') (hfit : req'.bytesAccessed + d ≤ req'.iovSize) :
    ∃ s', appleSpiFlushRx s = some s' ∧ s'.regs = s.regs ∧
      s'.rxFifo = s.rxFifo.drop (flushWords d w) ∧
      s'.rxChan.requests = if req'.bytesAccessed + d = req'.iovSize then reqs
        else { req' with bytesAccessed := req'.bytesAccessed + d } :: reqs := by
  -- the count compared and handed on is `d`, as a `uint32_t`
  have hcount : (if UInt32.ofNat (appleSioDmaRemaining s.rxChan) > UInt32.ofNat s.rxFifo.length
      then UInt32.ofNat s.rxFifo.length else UInt32.ofNat (appleSioDmaRemaining s.rxChan)) =
        UInt32.ofNat d := by
    have hcap' : s.rxFifo.length ≤ 16 := hcap
    apply UInt32.toNat_inj.mp
    split_ifs with h <;> simp [UInt32.lt_iff_toNat_lt] at h ⊢ <;> omega
  have hk : flushWords d w ≤ s.rxFifo.length := by
    have := flushWords_le d (w := w) (by rcases appleSpiWordSize_cases hw with h | h | h <;> omega)
    omega
  obtain ⟨ep', r, hwrite, -, hreqs⟩ := appleSioDmaTransfer_within_head copyCounts_sioWriteCopy
    (rxBuffer (s.rxFifo.take (flushWords d w)) w) d hdir hq hmap hpos hfit
  refine ⟨{ s with rxFifo := s.rxFifo.drop (flushWords d w), rxChan := ep', mem := r.mem,
                   sioSent := s.sioSent ++ r.sent }, ?_, rfl, rfl, hreqs⟩
  have hd' : (UInt32.ofNat d).toNat = d := by
    have : d ≤ 16 := by simp [REG_FIFO_DEPTH] at hcap; omega
    simp; omega
  have hd0 : UInt32.ofNat d ≠ 0 := fun h => by simp [h] at hd'; omega
  simp [appleSpiFlushRx, hw, hmode, hcount, hd', hd0, Nat.not_lt.mpr hk, appleSioDmaWrite, hwrite]

/-! ## A receive-only transfer -/

/-- A write of `TXCNT`, `RXCNT` or `CFG` stores the register, runs the transfer and updates the
interrupt.
Source: `hw/ssi/apple_spi.c` `apple_spi_reg_write`
Kind: L -/
theorem appleSpiRegWrite_run (bus : SsiBus σ) (s : AppleSPIState σ) {addr : ℕ}
    (h : addr = REG_TXCNT ∨ addr = REG_RXCNT ∨ addr = REG_CFG) (v : UInt64) :
    appleSpiRegWrite bus s addr v =
      (appleSpiRun bus (s.setReg addr v.toUInt32)).map appleSpiUpdateIrq := by
  rcases h with rfl | rfl | rfl <;>
    simp [appleSpiRegWrite, REG_TXCNT, REG_RXCNT, REG_CFG, REG_MAX, REG_CTRL, REG_STATUS,
      REG_TXDATA, REG_PIN, Option.map_eq_bind]

/-- The interrupt update drives the line and records its level, nothing else.
Source: `hw/ssi/apple_spi.c` `apple_spi_update_irq`
Kind: L -/
theorem appleSpiUpdateIrq_eq (s : AppleSPIState σ) :
    ∃ l, appleSpiUpdateIrq s = { s with lastIrq := l } := by
  unfold appleSpiUpdateIrq
  split
  · exact ⟨_, rfl⟩
  · exact ⟨s.lastIrq, rfl⟩

/-- Setting a `STATUS` bit is on the RX side. -/
theorem AppleSPIState.rxSide_setStatus (s : AppleSPIState σ) (bits : UInt32) :
    s.RxSide (s.setStatus bits) :=
  ⟨_, s.rxFifo, s.periph, fun i h₁ _ => by simp only [Function.update_of_ne h₁], rfl⟩

/-- The TX refill with an empty TX FIFO and nothing queued on the TX channel: the channel is
read for nothing, and `STATUS.TXEMPTY` is set.
Source: `hw/ssi/apple_spi.c` `apple_spi_update_xfer_tx`
Kind: L -/
theorem appleSpiUpdateXferTx_idle {s : AppleSPIState σ} {w : ℕ} (hw : appleSpiWordSize s = some w)
    (hmode : REG_CFG_MODE (s.reg REG_CFG) = REG_CFG_MODE_DMA) (hempty : s.txFifo = [])
    (hdir : s.txChan.direction = .DMA_DIRECTION_TO_DEVICE) (hq : s.txChan.requests = []) :
    appleSpiUpdateXferTx s = some (s.setStatus REG_STATUS_TXEMPTY) := by
  simp [appleSpiUpdateXferTx, hempty, hmode, hw, appleSioDmaRead, appleSioDmaTransfer_of_nil hdir hq]
  rw [← hempty]

/-- A transfer that only receives: `TXCNT` zero, the TX FIFO empty and nothing queued on the TX
channel, and room in the RX FIFO for every word `RXCNT` owes. The `AGD` loop clocks them all
in, and the transfer ends with the last drain, then sets `STATUS.COMPLETE` if `RXCNT` and
`TXCNT` are zero.
Source: `hw/ssi/apple_spi.c` `apple_spi_run`
Kind: L -/
theorem appleSpiRun_receive (bus : SsiBus σ) {s : AppleSPIState σ} {w : ℕ}
    (hw : appleSpiWordSize s = some w) (hmode : REG_CFG_MODE (s.reg REG_CFG) = REG_CFG_MODE_DMA)
    (hagd : s.reg REG_CFG &&& REG_CFG_AGD ≠ 0) (hrun : s.reg REG_CTRL &&& REG_CTRL_RUN ≠ 0)
    (htxcnt : s.reg REG_TXCNT = 0) (hrxcnt : s.reg REG_RXCNT ≠ 0) (hdma : s.dmaCapable = true)
    (hfit : s.rxFifo.length + (s.reg REG_RXCNT).toNat ≤ REG_FIFO_DEPTH)
    (hempty : s.txFifo = []) (hdir : s.txChan.direction = .DMA_DIRECTION_TO_DEVICE)
    (hq : s.txChan.requests = []) :
    ∃ s₃, s.RxSide s₃ ∧ s₃.rxFifo.length = s.rxFifo.length + (s.reg REG_RXCNT).toNat ∧
      s₃.reg REG_RXCNT = 0 ∧
      appleSpiRun bus s = (appleSpiFlushRx s₃).map fun s₄ =>
        if s₄.reg REG_RXCNT = 0 ∧ s₄.reg REG_TXCNT = 0 then s₄.setStatus REG_STATUS_COMPLETE
        else s₄ := by
  -- the TX refill finds nothing and only sets `STATUS.TXEMPTY`
  have htx₂ := appleSpiUpdateXferTx_idle hw hmode hempty hdir hq
  have hreg₂ : ∀ a, a >>> 2 ≠ REG_STATUS >>> 2 →
      (s.setStatus REG_STATUS_TXEMPTY).reg a = s.reg a := fun a h => by
    simp [AppleSPIState.setStatus, h]
  have hcnt₂ := hreg₂ REG_RXCNT (by decide)
  obtain ⟨s₃, hagdrun, hside₃, hlen₃, hcnt₃⟩ := appleSpiAgdLoop_fills bus w
    (s.reg REG_RXCNT).toNat ((s.setStatus REG_STATUS_TXEMPTY).reg REG_RXCNT).toNat
    (s.setStatus REG_STATUS_TXEMPTY) (by rw [hcnt₂]) (by rw [hcnt₂]) hfit
    (by rwa [hreg₂ REG_CFG (by decide)])
  refine ⟨s₃, (s.rxSide_setStatus _).trans hside₃, by rw [hlen₃]; rfl, hcnt₃, ?_⟩
  -- `TXCNT` is zero, so the TX loop makes no iteration, and the RX FIFO is not full
  have hloop : appleSpiTxLoop bus w ((s.setStatus REG_STATUS_TXEMPTY).reg REG_TXCNT).toNat
      (s.setStatus REG_STATUS_TXEMPTY) = some (s.setStatus REG_STATUS_TXEMPTY) := by
    rw [hreg₂ _ (by decide), htxcnt]
    rfl
  have hfull : (s.setStatus REG_STATUS_TXEMPTY).rxFifo.length ≠ REG_FIFO_DEPTH := by
    have : (s.reg REG_RXCNT).toNat ≠ 0 := fun h => hrxcnt (UInt32.toNat_inj.mp h)
    simp [AppleSPIState.setStatus]
    omega
  simp [appleSpiRun, hw, hmode, hrun, htxcnt, hrxcnt, hdma, htx₂, hloop, hfull, hagdrun,
    REG_CFG_MODE_DMA, REG_CFG_MODE_INVALID]
  cases appleSpiFlushRx s₃ with
  | none => rfl
  | some s₄ => by_cases h : s₄.reg REG_RXCNT = 0 ∧ s₄.reg REG_TXCNT = 0 <;> simp [h]

theorem uint32_or_and_self (x c : UInt32) : (x ||| c) &&& c = c := by
  apply UInt32.toBitVec_inj.mp
  simp only [UInt32.toBitVec_and, UInt32.toBitVec_or]
  ext i
  simp only [BitVec.getElem_and, BitVec.getElem_or]
  cases x.toBitVec[i] <;> cases c.toBitVec[i] <;> rfl

theorem appleSpiUpdateIrq_reg (s : AppleSPIState σ) (a : ℕ) : (appleSpiUpdateIrq s).reg a = s.reg a := by
  obtain ⟨l, hl⟩ := appleSpiUpdateIrq_eq s
  rw [hl]
  rfl

/-- A receive-only transfer in DMA mode with 4-byte words and `AGD`, started by writing `RXCNT = 2`
with the head request of the RX channel having room for both words: the two words are clocked in,
the last drain computes `d = MIN(room, 2 words) = 2` bytes, pops one word and hands the channel
the first two bytes of it, and the transfer sets `STATUS.COMPLETE` with the second word still in
the RX FIFO.
Source: `hw/ssi/apple_spi.c` `apple_spi_flush_rx`, `apple_spi_run`
Kind: P -/
theorem spi_flush_rx_truncates (bus : SsiBus σ) (s : AppleSPIState σ)
    (hmode : REG_CFG_MODE (s.reg REG_CFG) = REG_CFG_MODE_DMA)
    (hword : REG_CFG_WORD_SIZE (s.reg REG_CFG) = 2) (hagd : s.reg REG_CFG &&& REG_CFG_AGD ≠ 0)
    (hrun : s.reg REG_CTRL &&& REG_CTRL_RUN ≠ 0) (htxcnt : s.reg REG_TXCNT = 0)
    (hrx : s.rxFifo = []) (htx : s.txFifo = []) (hdma : s.dmaCapable = true)
    (htxdir : s.txChan.direction = .DMA_DIRECTION_TO_DEVICE) (htxq : s.txChan.requests = [])
    (hrxdir : s.rxChan.direction = .DMA_DIRECTION_FROM_DEVICE)
    {req req' : SIODMAMapRequest} {reqs : List SIODMAMapRequest}
    (hq : s.rxChan.requests = req :: reqs) (hmap : appleSioMapDma s.mem req = some req')
    (hroom : req'.bytesAccessed + 8 ≤ req'.iovSize)
    (hrem : 8 ≤ appleSioDmaRemaining s.rxChan % 2 ^ 32) :
    ∃ s', appleSpiRegWrite bus s REG_RXCNT 2 = some s' ∧
      s'.reg REG_STATUS &&& REG_STATUS_COMPLETE ≠ 0 ∧ s'.rxFifo.length = 1 ∧
      s'.rxChan.requests = { req' with bytesAccessed := req'.bytesAccessed + 2 } :: reqs := by
  -- the write stores `RXCNT = 2` and runs the transfer
  have hreg₁ : ∀ a, a >>> 2 ≠ REG_RXCNT >>> 2 → (s.setReg REG_RXCNT 2).reg a = s.reg a :=
    fun a h => by simp [h]
  have hcfg₁ := hreg₁ REG_CFG (by decide)
  have hw₁ : appleSpiWordSize (s.setReg REG_RXCNT 2) = some 4 := by
    rw [appleSpiWordSize_congr hcfg₁]
    simp [appleSpiWordSize, hword]
  obtain ⟨s₃, hside, hlen, hcnt, hrun₃⟩ := appleSpiRun_receive bus hw₁ (by rwa [hcfg₁])
    (by rwa [hcfg₁]) (by rwa [hreg₁ REG_CTRL (by decide)])
    (by rwa [hreg₁ REG_TXCNT (by decide)]) (by simp) hdma (by simp [hrx, REG_FIFO_DEPTH]) htx
    htxdir htxq
  have hcfg₃ : s₃.reg REG_CFG = s.reg REG_CFG := (hside.reg (by decide) (by decide)).trans hcfg₁
  have htx₃ : s₃.reg REG_TXCNT = 0 :=
    (hside.reg (by decide) (by decide)).trans ((hreg₁ REG_TXCNT (by decide)).trans htxcnt)
  have hlen₃ : s₃.rxFifo.length = 2 := by simp [hlen, hrx]
  -- the last drain: two words in the FIFO and room for eight bytes, so `d = 2`
  obtain ⟨s₄, hflush, hregs, hfifo, hreqs⟩ := appleSpiFlushRx_within_head (s := s₃) (d := 2)
    (by rw [appleSpiWordSize_congr hcfg₃, ← appleSpiWordSize_congr hcfg₁, hw₁])
    (by rwa [hcfg₃]) (by rw [hlen₃]; decide) (by rw [hlen₃, hside.rxChan, AppleSPIState.setReg_rxChan]; omega) (by decide)
    (by rwa [hside.rxChan]) (by rwa [hside.rxChan]) (by rwa [hside.mem]) (by omega)
  have hdone : s₄.reg REG_RXCNT = 0 ∧ s₄.reg REG_TXCNT = 0 := by
    simp only [AppleSPIState.reg, hregs]
    exact ⟨hcnt, htx₃⟩
  refine ⟨appleSpiUpdateIrq (s₄.setStatus REG_STATUS_COMPLETE), ?_, ?_, ?_, ?_⟩
  · rw [appleSpiRegWrite_run bus s (Or.inr (Or.inl rfl)), show (2 : UInt64).toUInt32 = 2 from rfl,
      hrun₃, hflush]
    simp [hdone]
  · rw [appleSpiUpdateIrq_reg]
    simp [AppleSPIState.setStatus, uint32_or_and_self]
    decide
  · obtain ⟨l, hl⟩ := appleSpiUpdateIrq_eq (s₄.setStatus REG_STATUS_COMPLETE)
    rw [hl]
    simp [AppleSPIState.setStatus, hfifo, hlen₃, flushWords]
  · obtain ⟨l, hl⟩ := appleSpiUpdateIrq_eq (s₄.setStatus REG_STATUS_COMPLETE)
    rw [hl]
    simp only [AppleSPIState.setStatus, AppleSPIState.setReg_rxChan]
    rw [hreqs, if_neg (by omega)]

/-- A bus device that shifts back what it is sent. -/
def ssiLoopback : SsiBus Unit := ⟨fun p v => (p, v), fun p _ => p⟩

/-- A DMA-capable controller in DMA mode with 4-byte words and `AGD` (`CFG = 0x10041`), running,
with nothing queued for TX and one fresh 8-byte request at `0x1000` queued for RX. -/
def spiReceiveState : AppleSPIState Unit :=
  { regs := fun i => if i = REG_CFG >>> 2 then 0x10041 else if i = REG_CTRL >>> 2 then 1 else 0,
    rxFifo := [], txFifo := [], lastIrq := 0,
    txChan := ⟨⟨0, 0, 0, 0, 0, 0, 0⟩, .DMA_DIRECTION_TO_DEVICE, 1, []⟩,
    rxChan := ⟨⟨0, 0, 0, 0, 0, 0, 0⟩, .DMA_DIRECTION_FROM_DEVICE, 2, [oneSegmentRequest 0x1000 8 1]⟩,
    dmaCapable := true, mem := ⟨fun _ => 0, fun _ => true⟩, sioSent := [], periph := () }

/-- Writing `RXCNT = 2` to `spiReceiveState`: `STATUS.COMPLETE` is set, one word stays in the RX
FIFO, and the RX request has taken two of the eight bytes received.
Source: none: infrastructure
Kind: P -/
theorem spi_flush_rx_truncates_loopback :
    ∃ s', appleSpiRegWrite ssiLoopback spiReceiveState REG_RXCNT 2 = some s' ∧
      s'.reg REG_STATUS &&& REG_STATUS_COMPLETE ≠ 0 ∧ s'.rxFifo.length = 1 ∧
      s'.rxChan.requests =
        [{ oneSegmentRequest 0x1000 8 1 with
            iov := [(0x1000, 8)], mapped := true, bytesAccessed := 2 }] :=
  @spi_flush_rx_truncates Unit ssiLoopback spiReceiveState (by decide) (by decide) (by decide)
    (by decide) (by decide) rfl rfl rfl rfl rfl rfl (oneSegmentRequest 0x1000 8 1)
    { oneSegmentRequest 0x1000 8 1 with iov := [(0x1000, 8)], mapped := true } [] rfl
    (by decide) (by decide) (by decide)

end QemuAppleSilicon.Ssi
