import QemuAppleSilicon.Lib.EState
import QemuAppleSilicon.Lib.BigEndian
import QemuAppleSilicon.Qemu.Base
import QemuAppleSilicon.Qemu.Dma

/-!
# The AOP endpoints' ring buffers (`hw/misc/apple-silicon/aop.c`)

An endpoint of the Always-On Processor talks to the AP through two rings in guest memory, found
by DMA: the AP writes requests into the RX ring, the endpoint writes replies and reports into the
TX ring. Each ring starts with three words `align` bytes apart (the size of its data area, the
read pointer `rptr`, the write pointer `wptr`), then the data area at `align * 3`. An entry is a
ring-entry header (`'AOP '` magic, length), a packet header (version 2) and a sub-packet header
(payload length, category, type, sequence number, reply length), then the payload.

The model runs in `AopM`, an `EStateM` whose state holds the endpoint's fields, guest memory and
the log `AopEvent` of what the handler did: its DMA reads, the buffers it allocated and freed,
the calls into the endpoint's callbacks with the lengths it passed, the messages it sent. A
failing DMA access ends a function with the state it reached, as `TXOK_GUARD` does.

* `appleAopEpRecvPacketLocked` — reads one entry at `rptr` and advances `rptr`;
  `appleAopEpSendPacketFull` — writes one entry at `wptr` and advances `wptr`.
* `appleAopEpHandleMessage` — the endpoint's state machine: the hello and region handshake, then
  in `EP_STATE_IDLE` the loop that answers every entry of the RX ring. The loop is run with a
  fuel bound; its result says whether it left by itself.
* `appleAopEpRecvPacketLocked_run` — on backed memory, an entry whose headers check out is
  received with its header fields as the packet's.
* `handleCommand_len_wraps` — an entry whose payload length is below 4 makes the handler pass
  `len - sizeof(uint32_t)`, wrapped to at least `2^32 - 4`, as the payload length to
  `handle_command`.
* `appleAopEpSendPacketFull_of_backed` — on backed memory a send is one store of the entry at
  the slot `aopTxSlot` picks and one of the new `wptr`, after a read of `wptr` alone;
  `aop_tx_send_overwrites_unconsumed` — so when the entry does not fit after `wptr` it is written
  at the data area's start whatever the AP's `rptr` says is still unread there.
-/

namespace QemuAppleSilicon.Misc

open QemuAppleSilicon.Lib QemuAppleSilicon.Qemu

/-! ## Constants -/

/-- `'IOP '` as a multi-character constant.
Source: `hw/misc/apple-silicon/aop.c` `RB_V7_IOP_MAGIC`
Kind: D -/
def RB_V7_IOP_MAGIC : UInt32 := 0x494F5020
/-- `'AOP '` as a multi-character constant.
Source: `hw/misc/apple-silicon/aop.c` `RB_V7_AOP_MAGIC`
Kind: D -/
def RB_V7_AOP_MAGIC : UInt32 := 0x414F5020

/-- Source: `hw/misc/apple-silicon/aop.c` `SUB_PACKET_FLAG_CAT_REPORT`. Kind: D -/
def SUB_PACKET_FLAG_CAT_REPORT : UInt8 := 0
/-- Source: `hw/misc/apple-silicon/aop.c` `SUB_PACKET_FLAG_CAT_RESPONSE`. Kind: D -/
def SUB_PACKET_FLAG_CAT_RESPONSE : UInt8 := 2

/-- `SUB_PACKET_FLAG_CAT_GET(flags)`: `((flags) >> 4) & 0xFF` of a `uint8_t`.
Source: `hw/misc/apple-silicon/aop.c` `SUB_PACKET_FLAG_CAT_GET`
Kind: D -/
def SUB_PACKET_FLAG_CAT_GET (flags : UInt8) : UInt8 := flags >>> 4

/-- `SUB_PACKET_FLAG_CAT(cat)`: `((cat) & 0xFF) << 4`, of which `dma_memory_set` stores the low
byte.
Source: `hw/misc/apple-silicon/aop.c` `SUB_PACKET_FLAG_CAT`
Kind: D -/
def SUB_PACKET_FLAG_CAT (cat : UInt8) : UInt8 := cat <<< 4

/-- Source: `hw/misc/apple-silicon/aop.c` `PACKET_TYPE_GET_PROPERTY`. Kind: D -/
def PACKET_TYPE_GET_PROPERTY : UInt16 := 0xA
/-- Source: `hw/misc/apple-silicon/aop.c` `PACKET_TYPE_READY_REPORT`. Kind: D -/
def PACKET_TYPE_READY_REPORT : UInt16 := 0xC0

/-- Source: `hw/misc/apple-silicon/aop.c` `READY_REPORT_FLAG_MUX` (`BIT(3)`). Kind: D -/
def READY_REPORT_FLAG_MUX : UInt32 := 8
/-- Source: `hw/misc/apple-silicon/aop.c` `READY_REPORT_FLAG_SPU_APP` (`BIT(31)`). Kind: D -/
def READY_REPORT_FLAG_SPU_APP : UInt32 := 0x80000000

/-- Source: `hw/misc/apple-silicon/aop.c` `RB_ENTRY_LEN`. Kind: D -/
def RB_ENTRY_LEN : UInt32 := 16
/-- Source: `hw/misc/apple-silicon/aop.c` `PACKET_LEN`. Kind: D -/
def PACKET_LEN : UInt32 := 16
/-- Source: `hw/misc/apple-silicon/aop.c` `SUB_PACKET_LEN`. Kind: D -/
def SUB_PACKET_LEN : UInt32 := 24
/-- Source: `hw/misc/apple-silicon/aop.c` `READY_REPORT_LEN`. Kind: D -/
def READY_REPORT_LEN : ℕ := 44

/-- Source: `hw/misc/apple-silicon/aop.c` `OP_REQUEST_REGION_BYTES`. Kind: D -/
def OP_REQUEST_REGION_BYTES : UInt8 := 0x81
/-- Source: `hw/misc/apple-silicon/aop.c` `OP_SET_RX_QUEUE_BY_ADDR`. Kind: D -/
def OP_SET_RX_QUEUE_BY_ADDR : UInt8 := 0x82
/-- Source: `hw/misc/apple-silicon/aop.c` `OP_SET_TX_QUEUE_BY_ADDR`. Kind: D -/
def OP_SET_TX_QUEUE_BY_ADDR : UInt8 := 0x83
/-- Source: `hw/misc/apple-silicon/aop.c` `OP_TX_SIGNAL`. Kind: D -/
def OP_TX_SIGNAL : UInt8 := 0x85
/-- Source: `hw/misc/apple-silicon/aop.c` `OP_ACK_HELLO`. Kind: D -/
def OP_ACK_HELLO : UInt8 := 0xA0
/-- Source: `hw/misc/apple-silicon/aop.c` `OP_ACK_REQUEST_REGION`. Kind: D -/
def OP_ACK_REQUEST_REGION : UInt8 := 0xA1
/-- Source: `hw/misc/apple-silicon/aop.c` `OP_RX_SIGNAL`. Kind: D -/
def OP_RX_SIGNAL : UInt8 := 0xA2

/-- `MSG_OP(op)`: the operation in bits 48 and up.
Source: `hw/misc/apple-silicon/aop.c` `MSG_OP`
Kind: D -/
def MSG_OP (op : UInt8) : UInt64 := op.toUInt64 <<< 48

/-- Source: `hw/misc/apple-silicon/aop.c` `MSG_OP_GET`. Kind: D -/
def MSG_OP_GET (v : UInt64) : UInt8 := ((v >>> 48) &&& 0xFF).toUInt8

/-- Source: `hw/misc/apple-silicon/aop.c` `MSG_REQUEST_REGION_BYTES`. Kind: D -/
def MSG_REQUEST_REGION_BYTES (len : UInt32) : UInt64 :=
  MSG_OP OP_REQUEST_REGION_BYTES ||| (len.toUInt64 &&& 0xFFFFFFFFFFFF)
/-- Source: `hw/misc/apple-silicon/aop.c` `MSG_SET_RX_QUEUE_BY_ADDR`. Kind: D -/
def MSG_SET_RX_QUEUE_BY_ADDR (addr : UInt32) : UInt64 := MSG_OP OP_SET_RX_QUEUE_BY_ADDR ||| addr.toUInt64
/-- Source: `hw/misc/apple-silicon/aop.c` `MSG_SET_TX_QUEUE_BY_ADDR`. Kind: D -/
def MSG_SET_TX_QUEUE_BY_ADDR (addr : UInt32) : UInt64 := MSG_OP OP_SET_TX_QUEUE_BY_ADDR ||| addr.toUInt64
/-- Source: `hw/misc/apple-silicon/aop.c` `MSG_TX_SIGNAL`. Kind: D -/
def MSG_TX_SIGNAL : UInt64 := MSG_OP OP_TX_SIGNAL

/-- `MSG_ACK_REQUEST_REGION(msg)`, stored into a `uint32_t` offset.
Source: `hw/misc/apple-silicon/aop.c` `MSG_ACK_REQUEST_REGION`
Kind: D -/
def MSG_ACK_REQUEST_REGION (v : UInt64) : UInt32 := (v &&& 0xFFFFFFFFFFFF).toUInt32

/-! ## Endpoints, their descriptions and the handler's state -/

/-- Source: `include/hw/misc/apple-silicon/aop.h` `AppleAOPEndpointType`. Kind: D -/
inductive AppleAOPEndpointType where
  | hid
  | mux
  | app
  deriving DecidableEq, Repr

/-- Source: `include/hw/misc/apple-silicon/aop.h` `AppleAOPResult`. Kind: D -/
inductive AppleAOPResult where
  | ok
  | timeout
  | aborted
  | error
  deriving DecidableEq, Repr

/-- The value of an `AppleAOPResult`, as `stl_le_p` stores it.
Source: `include/hw/misc/apple-silicon/aop.h` `AppleAOPResult`
Kind: D -/
def AppleAOPResult.toUInt32 : AppleAOPResult → UInt32
  | .ok => 0
  | .timeout => 1
  | .aborted => 2
  | .error => 3

/-- An endpoint's description. A callback is given by what it returns and the bytes it writes at
its `data` / `payload_out`: `get_property` from the property, `handle_command` from the type,
category, sequence number, the bytes at `payload` and the two lengths it is passed.
Source: `include/hw/misc/apple-silicon/aop.h` `AppleAOPEndpointDescription`
Kind: D -/
structure AppleAOPEndpointDescription where
  type : AppleAOPEndpointType
  serviceName : List UInt8
  serviceId : UInt32
  interfaceNum : UInt32
  rxLen : UInt32
  txLen : UInt32
  getProperty : Option (UInt32 → AppleAOPResult × List UInt8)
  handleCommand :
    Option (UInt32 → UInt8 → UInt16 → List UInt8 → UInt32 → UInt32 → AppleAOPResult × List UInt8)

/-- The AOP's field the endpoints read: the ring alignment, from `aop-memory-alignment`.
Source: `hw/misc/apple-silicon/aop.c` `AppleAOPState`
Kind: D -/
structure AppleAOPState where
  align : UInt32

/-- Source: `hw/misc/apple-silicon/aop.c` `AppleAOPEndpointState`. Kind: D -/
inductive AppleAOPEndpointState where
  | poweredOff
  | awaitingHello
  | awaitingRxAck
  | awaitingTxAck
  | idle
  deriving DecidableEq, Repr

/-- A `MemTxResult` other than `MEMTX_OK`.
Source: `include/exec/memattrs.h` `MemTxResult`
Kind: D -/
inductive MemTxError where
  | error
  | decodeError
  deriving DecidableEq, Repr

/-- The two buffers the IDLE loop allocates per entry.
Source: `hw/misc/apple-silicon/aop.c` `apple_aop_ep_handle_message` (`payload`, `payload_out`)
Kind: D -/
inductive AopBuffer where
  | payload
  | payloadOut
  deriving DecidableEq, Repr

/-- The handler's effects on memory and on its callbacks: a DMA read of `n` bytes at `pa`, a
`g_malloc0` of `size` bytes and a `g_free`, a call of `get_property` (the size of `payload`, from
whose offset 4 it reads the property, and of `payload_out`, at whose offset 4 it writes) or of
`handle_command` (the same two sizes and the two lengths it is passed), and a message to the AP.
Source: `hw/misc/apple-silicon/aop.c`
Kind: D -/
inductive AopEvent where
  | read (pa n : ℕ)
  | alloc (buf : AopBuffer) (size : ℕ)
  | free (buf : AopBuffer)
  | getProperty (payloadSize outSize : ℕ)
  | handleCommand (payloadSize : ℕ) (len : UInt32) (outSize : ℕ) (outLen : UInt32)
  | userMsg (msg : UInt64)
  deriving DecidableEq, Repr

/-- The endpoint's fields the handler reads and writes, guest memory, and the log.
Source: `hw/misc/apple-silicon/aop.c` `AppleAOPEndpoint`
Kind: D -/
structure AopState where
  state : AppleAOPEndpointState
  rxOff : UInt32
  txOff : UInt32
  seq : UInt16
  mem : DmaMemory
  events : List AopEvent

/-- A handler step: a value or a `MemTxResult` error, with the state reached either way. -/
abbrev AopM := EStateM MemTxError AopState

/-! ## DMA accesses -/

/-- Append an event to the log. -/
def aopLog (e : AopEvent) : AopM Unit := modify fun s => { s with events := s.events ++ [e] }

/-- `dma_memory_read(&s->aop->dma_as, pa, buf, n, ...)` at a 32-bit address.
Source: `include/system/dma.h` `dma_memory_read`
Kind: D -/
def dmaRead (pa : UInt32) (n : ℕ) : AopM (List UInt8) := fun s =>
  let s' := { s with events := s.events ++ [.read pa.toNat n] }
  match dmaMemoryRead s.mem pa.toNat n with
  | some bs => .ok bs s'
  | none => .error .decodeError s'

/-- `dma_memory_write(&s->aop->dma_as, pa, buf, len, ...)` at a 32-bit address.
Source: `include/system/dma.h` `dma_memory_write`
Kind: D -/
def dmaWrite (pa : UInt32) (bs : List UInt8) : AopM Unit := fun s =>
  match dmaMemoryWrite s.mem pa.toNat bs with
  | some m => .ok () { s with mem := m }
  | none => .error .decodeError s

/-- A one-byte `dma_memory_read`.
Source: `include/system/dma.h` `dma_memory_read`
Kind: D -/
def ldubDma (pa : UInt32) : AopM UInt8 := do
  let bs ← dmaRead pa 1
  pure (bs.headD 0)

/-- Source: `include/system/dma.h` `lduw_le_dma`. Kind: D -/
def lduwLeDma (pa : UInt32) : AopM UInt16 := do
  let bs ← dmaRead pa 2
  pure (UInt16.ofNat (leValue bs))

/-- Source: `include/system/dma.h` `ldl_le_dma`. Kind: D -/
def ldlLeDma (pa : UInt32) : AopM UInt32 := do
  let bs ← dmaRead pa 4
  pure (UInt32.ofNat (leValue bs))

/-- Source: `include/system/dma.h` `ldl_be_dma`. Kind: D -/
def ldlBeDma (pa : UInt32) : AopM UInt32 := do
  let bs ← dmaRead pa 4
  pure (UInt32.ofNat (beValue bs))

/-- Source: `include/system/dma.h` `stw_le_dma`. Kind: D -/
def stwLeDma (pa : UInt32) (v : UInt16) : AopM Unit := dmaWrite pa (leBytes v.toNat 2)
/-- Source: `include/system/dma.h` `stl_le_dma`. Kind: D -/
def stlLeDma (pa : UInt32) (v : UInt32) : AopM Unit := dmaWrite pa (leBytes v.toNat 4)
/-- Source: `include/system/dma.h` `stl_be_dma`. Kind: D -/
def stlBeDma (pa : UInt32) (v : UInt32) : AopM Unit := dmaWrite pa (beBytes v.toNat 4)
/-- Source: `include/system/dma.h` `stq_le_dma`. Kind: D -/
def stqLeDma (pa : UInt32) (v : UInt64) : AopM Unit := dmaWrite pa (leBytes v.toNat 8)
/-- Source: `include/system/dma.h` `dma_memory_set`. Kind: D -/
def dmaMemorySet (pa : UInt32) (c : UInt8) (n : ℕ) : AopM Unit := dmaWrite pa (List.replicate n c)

/-! ## Ring headers -/

section ring

variable (aop : AppleAOPState)

/-- Source: `hw/misc/apple-silicon/aop.c` `apple_aop_ep_init_rb`. Kind: D -/
def appleAopEpInitRb (addr len : UInt32) : AopM Unit := do
  stlLeDma addr (len - aop.align * 3)
  stwLeDma (addr + 4) 6
  stwLeDma (addr + 6) 7

/-- Source: `hw/misc/apple-silicon/aop.c` `apple_aop_ep_set_rptr`. Kind: D -/
def appleAopEpSetRptr (addr val : UInt32) : AopM Unit := stlLeDma (addr + aop.align) val
/-- Source: `hw/misc/apple-silicon/aop.c` `apple_aop_ep_get_rptr`. Kind: D -/
def appleAopEpGetRptr (addr : UInt32) : AopM UInt32 := ldlLeDma (addr + aop.align)
/-- Source: `hw/misc/apple-silicon/aop.c` `apple_aop_ep_set_wptr`. Kind: D -/
def appleAopEpSetWptr (addr val : UInt32) : AopM Unit := stlLeDma (addr + aop.align * 2) val
/-- Source: `hw/misc/apple-silicon/aop.c` `apple_aop_ep_get_wptr`. Kind: D -/
def appleAopEpGetWptr (addr : UInt32) : AopM UInt32 := ldlLeDma (addr + aop.align * 2)

end ring

/-- The ring-entry header: the `'AOP '` magic, then the entry length.
Source: `hw/misc/apple-silicon/aop.c` `apple_aop_ep_read_rb_entry`
Kind: D -/
def appleAopEpReadRbEntry (addr : UInt32) : AopM UInt32 := do
  let magic ← ldlBeDma addr
  if magic != RB_V7_AOP_MAGIC then throw .decodeError
  ldlLeDma (addr + 4)

/-- Source: `hw/misc/apple-silicon/aop.c` `apple_aop_ep_write_rb_entry`. Kind: D -/
def appleAopEpWriteRbEntry (addr length : UInt32) : AopM Unit := do
  stlBeDma addr RB_V7_IOP_MAGIC
  stlLeDma (addr + 4) length
  dmaMemorySet (addr + 8) 0 8

/-- The packet header's version check; the receive path passes `NULL` for the sequence number
and the timestamp, so nothing else is read.
Source: `hw/misc/apple-silicon/aop.c` `apple_aop_ep_read_packet`
Kind: D -/
def appleAopEpReadPacket (addr : UInt32) : AopM Unit := do
  let version ← ldubDma addr
  if version != 2 then throw .decodeError

/-- Source: `hw/misc/apple-silicon/aop.c` `apple_aop_ep_write_packet`. Kind: D -/
def appleAopEpWritePacket (addr : UInt32) (seq : UInt16) (timestamp : UInt64) : AopM Unit := do
  dmaMemorySet addr 2 1
  stwLeDma (addr + 1) seq
  dmaMemorySet (addr + 3) 0 5
  stqLeDma (addr + 8) timestamp

/-- The fields of a sub-packet header the receive path keeps.
Source: `hw/misc/apple-silicon/aop.c` `apple_aop_ep_read_sub_packet`
Kind: D -/
structure AopSubPacket where
  payloadLen : UInt32
  category : UInt8
  type : UInt16
  seq : UInt16
  outLen : UInt32
  deriving DecidableEq, Repr

/-- The sub-packet header, with the version checked first; the receive path passes `NULL` for
the timestamp.
Source: `hw/misc/apple-silicon/aop.c` `apple_aop_ep_read_sub_packet`
Kind: D -/
def appleAopEpReadSubPacket (addr : UInt32) : AopM AopSubPacket := do
  let version ← ldubDma (addr + 4)
  if version != 2 then throw .decodeError
  let payloadLen ← ldlLeDma addr
  let flags ← ldubDma (addr + 5)
  let type ← lduwLeDma (addr + 6)
  let seq ← lduwLeDma (addr + 8)
  let outLen ← ldlLeDma (addr + 20)
  pure ⟨payloadLen, SUB_PACKET_FLAG_CAT_GET flags, type, seq, outLen⟩

/-- Source: `hw/misc/apple-silicon/aop.c` `apple_aop_ep_write_sub_packet`. Kind: D -/
def appleAopEpWriteSubPacket (addr payloadLen : UInt32) (category : UInt8) (type seq : UInt16)
    (timestamp : UInt64) (outLen : UInt32) : AopM Unit := do
  stlLeDma addr payloadLen
  dmaMemorySet (addr + 4) 2 1
  dmaMemorySet (addr + 5) (SUB_PACKET_FLAG_CAT category) 1
  stwLeDma (addr + 6) type
  stwLeDma (addr + 8) seq
  stqLeDma (addr + 10) timestamp
  dmaMemorySet (addr + 18) 0 2
  stlLeDma (addr + 20) outLen

/-! ## Sending and receiving -/

section endpoint

variable (aop : AppleAOPState) (descr : AppleAOPEndpointDescription)

/-- One entry into the TX ring at `wptr` (at `0` when it would not fit before `tx_len`), then
`wptr` past it, `MSG_TX_SIGNAL` to the AP and the next sequence number. `now` is
`qemu_clock_get_ns(QEMU_CLOCK_VIRTUAL)`.
Source: `hw/misc/apple-silicon/aop.c` `apple_aop_ep_send_packet_full`
Kind: D -/
def appleAopEpSendPacketFull (now : UInt64) (type : UInt16) (category : UInt8) (seq : UInt16)
    (payload : List UInt8) (len outLen : UInt32) : AopM Unit := do
  let s ← get
  if s.state != .idle then throw .error
  let timestamp := now
  let wptr ← appleAopEpGetWptr aop s.txOff
  let dataOff := aop.align * 3
  let wptr :=
    if roundUp32 (dataOff + wptr + RB_ENTRY_LEN + PACKET_LEN + SUB_PACKET_LEN + len) aop.align >
        descr.txLen then 0 else wptr
  appleAopEpWriteRbEntry (s.txOff + dataOff + wptr) (PACKET_LEN + SUB_PACKET_LEN + len)
  let wptr := wptr + RB_ENTRY_LEN
  appleAopEpWritePacket (s.txOff + dataOff + wptr) s.seq timestamp
  let wptr := wptr + PACKET_LEN
  appleAopEpWriteSubPacket (s.txOff + dataOff + wptr) len category type seq timestamp outLen
  let wptr := wptr + SUB_PACKET_LEN
  dmaWrite (s.txOff + dataOff + wptr) (payload.take len.toNat)
  let wptr := wptr + len
  appleAopEpSetWptr aop s.txOff (roundUp32 wptr aop.align)
  aopLog (.userMsg MSG_TX_SIGNAL)
  modify fun s => { s with seq := if s.seq < 0xFFFF then s.seq + 1 else 0 }

/-- Source: `hw/misc/apple-silicon/aop.c` `apple_aop_ep_send_report_locked`. Kind: D -/
def appleAopEpSendReportLocked (now : UInt64) (packetType : UInt16) (payload : List UInt8)
    (payloadLen outLen : UInt32) : AopM Unit := do
  let s ← get
  appleAopEpSendPacketFull aop descr now packetType SUB_PACKET_FLAG_CAT_REPORT s.seq payload
    payloadLen outLen

/-- Source: `hw/misc/apple-silicon/aop.c` `apple_aop_ep_send_reply_locked`. Kind: D -/
def appleAopEpSendReplyLocked (now : UInt64) (packetType seq : UInt16) (payload : List UInt8)
    (payloadLen outLen : UInt32) : AopM Unit :=
  appleAopEpSendPacketFull aop descr now packetType SUB_PACKET_FLAG_CAT_RESPONSE seq payload
    payloadLen outLen

/-- The 44-byte ready report: the service name (`strncpy` into 32 bytes), the service id, the
flags of the endpoint's type and the interface number.
Source: `hw/misc/apple-silicon/aop.c` `apple_aop_ep_write_ready_report`
Kind: D -/
def appleAopEpWriteReadyReport : List UInt8 :=
  let flags : UInt32 :=
    match descr.type with
    | .hid => 0
    | .mux => READY_REPORT_FLAG_MUX
    | .app => READY_REPORT_FLAG_SPU_APP
  strncpyBytes descr.serviceName 32 ++ leBytes descr.serviceId.toNat 4 ++ leBytes flags.toNat 4 ++
    leBytes descr.interfaceNum.toNat 4

/-- Whether the RX ring is empty; a failed read of either pointer counts as empty, since
`TXOK_GUARD` returns the nonzero `MemTxResult` from a function returning `bool`.
Source: `hw/misc/apple-silicon/aop.c` `apple_aop_ep_rx_empty`
Kind: D -/
def appleAopEpRxEmpty : AopM Bool := do
  let s ← get
  let r ← attempt do
    let wptr ← appleAopEpGetWptr aop s.rxOff
    let rptr ← appleAopEpGetRptr aop s.rxOff
    pure (wptr == rptr)
  match r with
  | .ok b => pure b
  | .error _ => pure true

/-- A received entry: its header fields, and the `payload` buffer of `len` bytes read from the
ring.
Source: `hw/misc/apple-silicon/aop.c` `apple_aop_ep_recv_packet_locked`
Kind: D -/
structure AopPacket where
  type : UInt16
  category : UInt8
  seq : UInt16
  payload : List UInt8
  len : UInt32
  outLen : UInt32
  deriving DecidableEq, Repr

/-- The entry at `rptr`, read header by header; the payload buffer is allocated with the
sub-packet's length before it is read, and `rptr` is moved past the entry, rounded up to
`align`, and back to `0` once it reaches `rx_len`. `none` when the ring is empty.
Source: `hw/misc/apple-silicon/aop.c` `apple_aop_ep_recv_packet_locked`
Kind: D -/
def appleAopEpRecvPacketLocked : AopM (Option AopPacket) := do
  if ← appleAopEpRxEmpty aop then return none
  let s ← get
  let rptr ← appleAopEpGetRptr aop s.rxOff
  let dataOff := aop.align * 3
  let _entryLen ← appleAopEpReadRbEntry (s.rxOff + dataOff + rptr)
  let rptr := rptr + RB_ENTRY_LEN
  appleAopEpReadPacket (s.rxOff + dataOff + rptr)
  let rptr := rptr + PACKET_LEN
  let sp ← appleAopEpReadSubPacket (s.rxOff + dataOff + rptr)
  let rptr := rptr + SUB_PACKET_LEN
  aopLog (.alloc .payload sp.payloadLen.toNat)
  let payload ← dmaRead (s.rxOff + dataOff + rptr) sp.payloadLen.toNat
  let rptr := roundUp32 (rptr + sp.payloadLen) aop.align
  let rptr := if rptr ≥ descr.rxLen then 0 else rptr
  appleAopEpSetRptr aop s.rxOff rptr
  pure (some ⟨sp.type, sp.category, sp.seq, payload, sp.payloadLen, sp.outLen⟩)

/-- `payload_out` after a callback: zeroed by `g_malloc0`, the callback's bytes from offset 4,
then its result stored by `stl_le_p` at offset 0.
Source: `hw/misc/apple-silicon/aop.c` `apple_aop_ep_handle_message`
Kind: D -/
def aopReplyBuffer (size : ℕ) (r : AppleAOPResult) (data : List UInt8) : List UInt8 :=
  ((Mem.write (fun _ => 0) 4 data).write 0 (leBytes r.toUInt32.toNat 4)).read 0 size

/-- The body of the IDLE loop between receiving an entry and replying: `payload_out` of
`out_len + sizeof(uint32_t)` bytes (a 64-bit sum), then `get_property` for
`PACKET_TYPE_GET_PROPERTY` and `handle_command` for every other type, when the endpoint has it.
`get_property` gets `ldl_le_p(payload + 4)`, which past a short buffer is the bytes that are
there; `handle_command` gets `len - sizeof(uint32_t)` and `out_len - sizeof(uint32_t)` as
`uint32_t`.
Source: `hw/misc/apple-silicon/aop.c` `apple_aop_ep_handle_message`
Kind: D -/
def appleAopEpDispatch (p : AopPacket) : AopM (List UInt8) := do
  let outSize := p.outLen.toNat + 4
  aopLog (.alloc .payloadOut outSize)
  if p.type = PACKET_TYPE_GET_PROPERTY then
    match descr.getProperty with
    | none => pure (List.replicate outSize 0)
    | some getProperty =>
      aopLog (.getProperty p.payload.length outSize)
      let (r, data) := getProperty (UInt32.ofNat (leValue ((p.payload.drop 4).take 4)))
      pure (aopReplyBuffer outSize r data)
  else
    match descr.handleCommand with
    | none => pure (List.replicate outSize 0)
    | some handleCommand =>
      aopLog (.handleCommand p.payload.length (p.len - 4) outSize (p.outLen - 4))
      let (r, data) :=
        handleCommand p.type.toUInt32 p.category p.seq (p.payload.drop 4) (p.len - 4) (p.outLen - 4)
      pure (aopReplyBuffer outSize r data)

/-- The end of an iteration of the IDLE loop: `payload` freed, the reply sent with length
`out_len + sizeof(uint32_t)` passed as a `uint32_t`, and `payload_out` freed once the reply went
out; `false` when the reply failed, where the loop breaks without freeing `payload_out`.
Source: `hw/misc/apple-silicon/aop.c` `apple_aop_ep_handle_message`
Kind: D -/
def appleAopEpRxReply (now : UInt64) (p : AopPacket) (payloadOut : List UInt8) : AopM Bool := do
  aopLog (.free .payload)
  match ← attempt (appleAopEpSendReplyLocked aop descr now p.type p.seq payloadOut
      (p.outLen + 4) 0) with
  | .error _ => pure false
  | .ok () =>
    aopLog (.free .payloadOut)
    pure true

/-- `while (!apple_aop_ep_rx_empty(s))` of the IDLE state, for at most `fuel` entries: `true`
when the loop left by itself (an empty ring, or a `break` on a failed receive or reply), `false`
when the fuel ran out. A receive that finds the ring empty after the loop found it not empty
cannot happen here (nothing writes memory in between); the model leaves the loop there.
Source: `hw/misc/apple-silicon/aop.c` `apple_aop_ep_handle_message`
Kind: D -/
def appleAopEpRxLoop (now : UInt64) : ℕ → AopM Bool
  | 0 => pure false
  | fuel + 1 => do
    if ← appleAopEpRxEmpty aop then return true
    match ← attempt (appleAopEpRecvPacketLocked aop descr) with
    | .error _ => return true
    | .ok none => return true
    | .ok (some p) =>
      let payloadOut ← appleAopEpDispatch descr p
      if ← appleAopEpRxReply aop descr now p payloadOut then appleAopEpRxLoop now fuel
      else return true

/-- The endpoint's state machine on a message from the AP: the hello acknowledged, the RX and
then the TX region acknowledged (each ring initialised, its address sent back), the ready
report, and in `EP_STATE_IDLE` the RX loop on `OP_RX_SIGNAL`. A message of another operation is
logged and ignored.
Source: `hw/misc/apple-silicon/aop.c` `apple_aop_ep_handle_message`
Kind: D -/
def appleAopEpHandleMessage (now : UInt64) (fuel : ℕ) (msg : UInt64) : AopM Unit := do
  let s ← get
  match s.state with
  | .poweredOff => pure ()
  | .awaitingHello =>
    if MSG_OP_GET msg != OP_ACK_HELLO then return
    aopLog (.userMsg (MSG_REQUEST_REGION_BYTES descr.rxLen))
    modify fun s => { s with state := .awaitingRxAck }
  | .awaitingRxAck =>
    if MSG_OP_GET msg != OP_ACK_REQUEST_REGION then return
    let rxOff := MSG_ACK_REQUEST_REGION msg
    modify fun s => { s with rxOff := rxOff }
    if let .error _ ← attempt (appleAopEpInitRb aop rxOff descr.rxLen) then return
    aopLog (.userMsg (MSG_SET_RX_QUEUE_BY_ADDR rxOff))
    aopLog (.userMsg (MSG_REQUEST_REGION_BYTES descr.txLen))
    modify fun s => { s with state := .awaitingTxAck }
  | .awaitingTxAck =>
    if MSG_OP_GET msg != OP_ACK_REQUEST_REGION then return
    let txOff := MSG_ACK_REQUEST_REGION msg
    modify fun s => { s with txOff := txOff }
    if let .error _ ← attempt (appleAopEpInitRb aop txOff descr.txLen) then return
    aopLog (.userMsg (MSG_SET_TX_QUEUE_BY_ADDR txOff))
    modify fun s => { s with state := .idle }
    let _ ← attempt (appleAopEpSendReportLocked aop descr now PACKET_TYPE_READY_REPORT
      (appleAopEpWriteReadyReport descr) (UInt32.ofNat READY_REPORT_LEN) 0)
  | .idle =>
    if MSG_OP_GET msg != OP_RX_SIGNAL then return
    let _ ← appleAopEpRxLoop aop descr now fuel

end endpoint

/-! ## The log only grows -/

/-- `t`'s log extends `s`'s. -/
def AopState.LogExtends (s t : AopState) : Prop := s.events <+: t.events

instance : Std.Refl AopState.LogExtends := ⟨fun s => List.prefix_refl s.events⟩

instance : IsTrans AopState AopState.LogExtends := ⟨fun _ _ _ h₁ h₂ => List.IsPrefix.trans h₁ h₂⟩

/-- An event logged before is still in a log that extends it. -/
theorem AopState.LogExtends.mem {s t : AopState} (h : s.LogExtends t) {e : AopEvent}
    (he : e ∈ s.events) : e ∈ t.events :=
  List.IsPrefix.subset h he

theorem keeps_aopLog (e : AopEvent) : Keeps AopState.LogExtends (aopLog e) :=
  Keeps.modify fun s => List.prefix_append s.events [e]

theorem keeps_dmaRead (pa : UInt32) (n : ℕ) : Keeps AopState.LogExtends (dmaRead pa n) := by
  intro s
  unfold dmaRead
  split
  · exact List.prefix_append s.events _
  · exact List.prefix_append s.events _

theorem keeps_dmaWrite (pa : UInt32) (bs : List UInt8) : Keeps AopState.LogExtends (dmaWrite pa bs) := by
  intro s
  unfold dmaWrite
  split
  · exact List.prefix_refl s.events
  · exact List.prefix_refl s.events

/-! ## DMA accesses on backed memory -/

/-- The state with `es` appended to its log. -/
def AopState.log (s : AopState) (es : List AopEvent) : AopState :=
  { s with events := s.events ++ es }

section log

variable (s : AopState) (es : List AopEvent)

@[simp] theorem AopState.log_mem : (s.log es).mem = s.mem := rfl
@[simp] theorem AopState.log_rxOff : (s.log es).rxOff = s.rxOff := rfl
@[simp] theorem AopState.log_state : (s.log es).state = s.state := rfl
@[simp] theorem AopState.log_events : (s.log es).events = s.events ++ es := rfl
@[simp] theorem AopState.log_log (es' : List AopEvent) : (s.log es).log es' = s.log (es ++ es') := by
  simp only [AopState.log, List.append_assoc]

end log

section backed

variable {s : AopState}

theorem dmaRead_of_backed (hb : ∀ a, s.mem.backed a = true) (pa : UInt32) (n : ℕ) :
    dmaRead pa n s = .ok (s.mem.bytes.read pa.toNat n) (s.log [.read pa.toNat n]) := by
  have hread : dmaMemoryRead s.mem pa.toNat n = some (s.mem.bytes.read pa.toNat n) := by
    simp [dmaMemoryRead, DmaMemory.Backed, hb]
  simp only [dmaRead, hread]
  rfl

theorem ldubDma_of_backed (hb : ∀ a, s.mem.backed a = true) (pa : UInt32) :
    ldubDma pa s = .ok (s.mem.bytes pa.toNat) (s.log [.read pa.toNat 1]) := by
  rw [ldubDma, bind_of_ok (dmaRead_of_backed hb pa 1)]
  simp [Mem.read]

theorem lduwLeDma_of_backed (hb : ∀ a, s.mem.backed a = true) (pa : UInt32) :
    lduwLeDma pa s = .ok (lduwLeP s.mem.bytes pa.toNat) (s.log [.read pa.toNat 2]) := by
  rw [lduwLeDma, bind_of_ok (dmaRead_of_backed hb pa 2)]
  rfl

theorem ldlLeDma_of_backed (hb : ∀ a, s.mem.backed a = true) (pa : UInt32) :
    ldlLeDma pa s = .ok (ldlLeP s.mem.bytes pa.toNat) (s.log [.read pa.toNat 4]) := by
  rw [ldlLeDma, bind_of_ok (dmaRead_of_backed hb pa 4)]
  rfl

theorem ldlBeDma_of_backed (hb : ∀ a, s.mem.backed a = true) (pa : UInt32) :
    ldlBeDma pa s = .ok (UInt32.ofNat (beValue (s.mem.bytes.read pa.toNat 4))) (s.log [.read pa.toNat 4]) := by
  rw [ldlBeDma, bind_of_ok (dmaRead_of_backed hb pa 4)]
  rfl

theorem dmaWrite_of_backed (hb : ∀ a, s.mem.backed a = true) (pa : UInt32) (bs : List UInt8) :
    dmaWrite pa bs s = .ok () { s with mem := s.mem.write pa.toNat bs } := by
  have hwrite : dmaMemoryWrite s.mem pa.toNat bs = some (s.mem.write pa.toNat bs) := by
    simp [dmaMemoryWrite, DmaMemory.Backed, DmaMemory.write, hb]
  simp only [dmaWrite, hwrite]

theorem aopLog_apply (e : AopEvent) (s : AopState) : aopLog e s = .ok () (s.log [e]) := rfl

theorem uint32_add_add (a b c : UInt32) : a + (b + c) = a + b + c := (UInt32.add_assoc a b c).symm

end backed

/-! ## The receive path on backed memory -/

/-- The entry whose sub-packet header is at `addr`, as `apple_aop_ep_recv_packet_locked` returns
it from memory `m`: the header's fields and the `len` bytes after the header.
Source: `hw/misc/apple-silicon/aop.c` `apple_aop_ep_recv_packet_locked`
Kind: D -/
def aopPacketAt (m : Mem) (addr : UInt32) : AopPacket where
  type := lduwLeP m (addr + 6).toNat
  category := SUB_PACKET_FLAG_CAT_GET (m (addr + 5).toNat)
  seq := lduwLeP m (addr + 8).toNat
  payload := m.read (addr + 24).toNat (ldlLeP m addr.toNat).toNat
  len := ldlLeP m addr.toNat
  outLen := ldlLeP m (addr + 20).toNat

section recv

variable (aop : AppleAOPState) (descr : AppleAOPEndpointDescription) {s : AopState}

theorem appleAopEpGetRptr_of_backed (hb : ∀ a, s.mem.backed a = true) (addr : UInt32) :
    appleAopEpGetRptr aop addr s =
      .ok (ldlLeP s.mem.bytes (addr + aop.align).toNat) (s.log [.read (addr + aop.align).toNat 4]) :=
  ldlLeDma_of_backed hb _

theorem appleAopEpGetWptr_of_backed (hb : ∀ a, s.mem.backed a = true) (addr : UInt32) :
    appleAopEpGetWptr aop addr s =
      .ok (ldlLeP s.mem.bytes (addr + aop.align * 2).toNat)
        (s.log [.read (addr + aop.align * 2).toNat 4]) :=
  ldlLeDma_of_backed hb _

theorem appleAopEpSetRptr_of_backed (hb : ∀ a, s.mem.backed a = true) (addr val : UInt32) :
    appleAopEpSetRptr aop addr val s =
      .ok () { s with mem := s.mem.write (addr + aop.align).toNat (leBytes val.toNat 4) } :=
  dmaWrite_of_backed hb _ _

/-- The ring is empty exactly when the two pointers read back equal. -/
theorem appleAopEpRxEmpty_of_backed (hb : ∀ a, s.mem.backed a = true) :
    appleAopEpRxEmpty aop s = .ok (ldlLeP s.mem.bytes (s.rxOff + aop.align * 2).toNat ==
        ldlLeP s.mem.bytes (s.rxOff + aop.align).toNat)
      (s.log [.read (s.rxOff + aop.align * 2).toNat 4, .read (s.rxOff + aop.align).toNat 4]) := by
  have hrun : (do
      let wptr ← appleAopEpGetWptr aop s.rxOff
      let rptr ← appleAopEpGetRptr aop s.rxOff
      pure (wptr == rptr) : AopM Bool) s =
      .ok (ldlLeP s.mem.bytes (s.rxOff + aop.align * 2).toNat ==
        ldlLeP s.mem.bytes (s.rxOff + aop.align).toNat)
      (s.log [.read (s.rxOff + aop.align * 2).toNat 4, .read (s.rxOff + aop.align).toNat 4]) := by
    rw [bind_of_ok (appleAopEpGetWptr_of_backed aop hb _),
      bind_of_ok (appleAopEpGetRptr_of_backed (s := s.log _) aop hb _)]
    simp
  rw [appleAopEpRxEmpty, bind_of_ok (get_apply s), bind_of_ok (attempt_of_ok hrun)]
  rfl

theorem appleAopEpReadRbEntry_of_backed (hb : ∀ a, s.mem.backed a = true) {addr : UInt32}
    (hmagic : UInt32.ofNat (beValue (s.mem.bytes.read addr.toNat 4)) = RB_V7_AOP_MAGIC) :
    appleAopEpReadRbEntry addr s =
      .ok (ldlLeP s.mem.bytes (addr + 4).toNat)
        (s.log [.read addr.toNat 4, .read (addr + 4).toNat 4]) := by
  rw [appleAopEpReadRbEntry, bind_of_ok (ldlBeDma_of_backed hb addr)]
  simp only [hmagic, bne_self_eq_false, Bool.false_eq_true, if_false]
  rw [ldlLeDma_of_backed (s := s.log _) hb]
  simp

theorem appleAopEpReadPacket_of_backed (hb : ∀ a, s.mem.backed a = true) {addr : UInt32}
    (hversion : s.mem.bytes addr.toNat = 2) :
    appleAopEpReadPacket addr s = .ok () (s.log [.read addr.toNat 1]) := by
  rw [appleAopEpReadPacket, bind_of_ok (ldubDma_of_backed hb addr)]
  simp [hversion]

theorem appleAopEpReadSubPacket_of_backed (hb : ∀ a, s.mem.backed a = true) {addr : UInt32}
    (hversion : s.mem.bytes (addr + 4).toNat = 2) :
    appleAopEpReadSubPacket addr s =
      .ok ⟨ldlLeP s.mem.bytes addr.toNat, SUB_PACKET_FLAG_CAT_GET (s.mem.bytes (addr + 5).toNat),
          lduwLeP s.mem.bytes (addr + 6).toNat, lduwLeP s.mem.bytes (addr + 8).toNat,
          ldlLeP s.mem.bytes (addr + 20).toNat⟩
        (s.log [.read (addr + 4).toNat 1, .read addr.toNat 4, .read (addr + 5).toNat 1,
          .read (addr + 6).toNat 2, .read (addr + 8).toNat 2, .read (addr + 20).toNat 4]) := by
  rw [appleAopEpReadSubPacket, bind_of_ok (ldubDma_of_backed hb _)]
  simp only [hversion, bne_self_eq_false, Bool.false_eq_true, if_false]
  rw [bind_of_ok (ldlLeDma_of_backed (s := s.log _) hb _), AopState.log_log,
    bind_of_ok (ldubDma_of_backed (s := s.log _) hb _), AopState.log_log,
    bind_of_ok (lduwLeDma_of_backed (s := s.log _) hb _), AopState.log_log,
    bind_of_ok (lduwLeDma_of_backed (s := s.log _) hb _), AopState.log_log,
    bind_of_ok (ldlLeDma_of_backed (s := s.log _) hb _), AopState.log_log]
  simp

/-- On backed memory, a non-empty ring whose entry at `rptr` has the `'AOP '` magic and version-2
packet and sub-packet headers is received: the packet is the one the sub-packet header at
`rx_off + align * 3 + rptr + 32` describes, with its `len` payload bytes.
Source: `hw/misc/apple-silicon/aop.c` `apple_aop_ep_recv_packet_locked`
Kind: L -/
theorem appleAopEpRecvPacketLocked_of_backed (hb : ∀ a, s.mem.backed a = true) {rptr : UInt32}
    (hrptr : ldlLeP s.mem.bytes (s.rxOff + aop.align).toNat = rptr)
    (hne : ldlLeP s.mem.bytes (s.rxOff + aop.align * 2).toNat ≠ rptr)
    (hmagic : UInt32.ofNat (beValue (s.mem.bytes.read (s.rxOff + aop.align * 3 + rptr).toNat 4)) =
      RB_V7_AOP_MAGIC)
    (hpacket : s.mem.bytes (s.rxOff + aop.align * 3 + rptr + 16).toNat = 2)
    (hsub : s.mem.bytes (s.rxOff + aop.align * 3 + rptr + 32 + 4).toNat = 2) :
    ∃ s', appleAopEpRecvPacketLocked aop descr s =
      .ok (some (aopPacketAt s.mem.bytes (s.rxOff + aop.align * 3 + rptr + 32))) s' := by
  have hempty := appleAopEpRxEmpty_of_backed aop hb
  rw [hrptr, beq_false_of_ne hne] at hempty
  -- the code adds each header's length to `rptr` before adding the ring's base
  have h16 : s.rxOff + aop.align * 3 + (rptr + RB_ENTRY_LEN) = s.rxOff + aop.align * 3 + rptr + 16 :=
    uint32_add_add _ _ _
  have h32 : s.rxOff + aop.align * 3 + (rptr + RB_ENTRY_LEN + PACKET_LEN) =
      s.rxOff + aop.align * 3 + rptr + 32 := by
    rw [uint32_add_add, uint32_add_add, UInt32.add_assoc]
    rfl
  have h56 : s.rxOff + aop.align * 3 + (rptr + RB_ENTRY_LEN + PACKET_LEN + SUB_PACKET_LEN) =
      s.rxOff + aop.align * 3 + rptr + 32 + 24 := by
    rw [← h32, uint32_add_add]
    rfl
  rw [appleAopEpRecvPacketLocked, bind_of_ok hempty]
  simp only [Bool.false_eq_true, if_false]
  rw [bind_of_ok (get_apply _), bind_of_ok (appleAopEpGetRptr_of_backed (s := s.log _) aop hb _),
    AopState.log_log]
  simp only [AopState.log_rxOff, AopState.log_mem, hrptr]
  rw [bind_of_ok (appleAopEpReadRbEntry_of_backed (s := s.log _) hb hmagic), AopState.log_log,
    h16, bind_of_ok (appleAopEpReadPacket_of_backed (s := s.log _) hb hpacket), AopState.log_log,
    h32, bind_of_ok (appleAopEpReadSubPacket_of_backed (s := s.log _) hb hsub), AopState.log_log,
    bind_of_ok (aopLog_apply _ _), AopState.log_log, h56,
    bind_of_ok (dmaRead_of_backed (s := s.log _) hb _ _), AopState.log_log,
    bind_of_ok (appleAopEpSetRptr_of_backed (s := s.log _) aop hb _ _)]
  exact ⟨_, rfl⟩

end recv

/-! ## The send path on backed memory

Each header writer stores its fields one by one at increasing offsets; below the 32-bit wrap
these stores add up to one store of the header's bytes, which `aopRbEntryBytes`,
`aopPacketBytes` and `aopSubPacketBytes` spell out. -/

/-- The 16 bytes `apple_aop_ep_write_rb_entry` stores: the `'IOP '` magic big-endian, the entry
length, eight zero bytes.
Source: `hw/misc/apple-silicon/aop.c` `apple_aop_ep_write_rb_entry`
Kind: D -/
def aopRbEntryBytes (length : UInt32) : List UInt8 :=
  beBytes RB_V7_IOP_MAGIC.toNat 4 ++ leBytes length.toNat 4 ++ List.replicate 8 0

/-- The 16 bytes `apple_aop_ep_write_packet` stores: version 2, the sequence number, five zero
bytes, the timestamp.
Source: `hw/misc/apple-silicon/aop.c` `apple_aop_ep_write_packet`
Kind: D -/
def aopPacketBytes (seq : UInt16) (timestamp : UInt64) : List UInt8 :=
  List.replicate 1 2 ++ leBytes seq.toNat 2 ++ List.replicate 5 0 ++ leBytes timestamp.toNat 8

/-- The 24 bytes `apple_aop_ep_write_sub_packet` stores.
Source: `hw/misc/apple-silicon/aop.c` `apple_aop_ep_write_sub_packet`
Kind: D -/
def aopSubPacketBytes (payloadLen : UInt32) (category : UInt8) (type seq : UInt16)
    (timestamp : UInt64) (outLen : UInt32) : List UInt8 :=
  leBytes payloadLen.toNat 4 ++ List.replicate 1 2 ++ List.replicate 1 (SUB_PACKET_FLAG_CAT category) ++
    leBytes type.toNat 2 ++ leBytes seq.toNat 2 ++ leBytes timestamp.toNat 8 ++ List.replicate 2 0 ++
    leBytes outLen.toNat 4

@[simp] theorem aopRbEntryBytes_length (length : UInt32) : (aopRbEntryBytes length).length = 16 := by
  simp [aopRbEntryBytes]

@[simp] theorem aopPacketBytes_length (seq : UInt16) (timestamp : UInt64) :
    (aopPacketBytes seq timestamp).length = 16 := by
  simp [aopPacketBytes]

@[simp] theorem aopSubPacketBytes_length (payloadLen : UInt32) (category : UInt8) (type seq : UInt16)
    (timestamp : UInt64) (outLen : UInt32) :
    (aopSubPacketBytes payloadLen category type seq timestamp outLen).length = 24 := by
  simp [aopSubPacketBytes]

/-- Where the send puts its entry, given the `wptr` it read: at `wptr`, or at `0` when the entry,
counted from the ring's start and rounded up to `align`, would end past `tx_len`.
Source: `hw/misc/apple-silicon/aop.c` `apple_aop_ep_send_packet_full`
Kind: D -/
def aopTxSlot (aop : AppleAOPState) (descr : AppleAOPEndpointDescription) (wptr len : UInt32) :
    UInt32 :=
  if roundUp32 (aop.align * 3 + wptr + RB_ENTRY_LEN + PACKET_LEN + SUB_PACKET_LEN + len) aop.align >
      descr.txLen then 0 else wptr

section send

variable (aop : AppleAOPState) (descr : AppleAOPEndpointDescription) {s : AopState}

theorem uint32_toNat_add_of_lt {a b : UInt32} (h : a.toNat + b.toNat < 2 ^ 32) :
    (a + b).toNat = a.toNat + b.toNat := by
  rw [UInt32.toNat_add, Nat.mod_eq_of_lt h]

theorem uint32_toNat_mul_of_lt {a b : UInt32} (h : a.toNat * b.toNat < 2 ^ 32) :
    (a * b).toNat = a.toNat * b.toNat := by
  rw [UInt32.toNat_mul, Nat.mod_eq_of_lt h]

theorem appleAopEpWriteRbEntry_of_backed (hb : ∀ a, s.mem.backed a = true) {addr : UInt32}
    (haddr : addr.toNat + 16 < 2 ^ 32) (length : UInt32) :
    appleAopEpWriteRbEntry addr length s =
      .ok () { s with mem := s.mem.write addr.toNat (aopRbEntryBytes length) } := by
  have h4 : (addr + 4).toNat = addr.toNat + 4 := uint32_toNat_add_of_lt (by simp; omega)
  have h8 : (addr + 8).toNat = addr.toNat + 8 := uint32_toNat_add_of_lt (by simp; omega)
  -- each store after the first runs on the state the one before left, still backed everywhere
  rw [appleAopEpWriteRbEntry, stlBeDma, bind_of_ok (dmaWrite_of_backed hb _ _), stlLeDma,
    bind_of_ok (dmaWrite_of_backed ?_ _ _), dmaMemorySet, dmaWrite_of_backed ?_]
  · simp only [aopRbEntryBytes, DmaMemory.write_append, List.length_append, length_beBytes,
      leBytes_length, h4, h8]
  all_goals exact hb

theorem appleAopEpWritePacket_of_backed (hb : ∀ a, s.mem.backed a = true) {addr : UInt32}
    (haddr : addr.toNat + 16 < 2 ^ 32) (seq : UInt16) (timestamp : UInt64) :
    appleAopEpWritePacket addr seq timestamp s =
      .ok () { s with mem := s.mem.write addr.toNat (aopPacketBytes seq timestamp) } := by
  have h1 : (addr + 1).toNat = addr.toNat + 1 := uint32_toNat_add_of_lt (by simp; omega)
  have h3 : (addr + 3).toNat = addr.toNat + 3 := uint32_toNat_add_of_lt (by simp; omega)
  have h8 : (addr + 8).toNat = addr.toNat + 8 := uint32_toNat_add_of_lt (by simp; omega)
  rw [appleAopEpWritePacket, dmaMemorySet, bind_of_ok (dmaWrite_of_backed hb _ _), stwLeDma,
    bind_of_ok (dmaWrite_of_backed ?_ _ _), dmaMemorySet, bind_of_ok (dmaWrite_of_backed ?_ _ _),
    stqLeDma, dmaWrite_of_backed ?_]
  · simp only [aopPacketBytes, DmaMemory.write_append, List.length_append, List.length_replicate,
      leBytes_length, h1, h3, h8]
  all_goals exact hb

theorem appleAopEpWriteSubPacket_of_backed (hb : ∀ a, s.mem.backed a = true) {addr : UInt32}
    (haddr : addr.toNat + 24 < 2 ^ 32) (payloadLen : UInt32) (category : UInt8) (type seq : UInt16)
    (timestamp : UInt64) (outLen : UInt32) :
    appleAopEpWriteSubPacket addr payloadLen category type seq timestamp outLen s =
      .ok () { s with
        mem := s.mem.write addr.toNat
          (aopSubPacketBytes payloadLen category type seq timestamp outLen) } := by
  have h4 : (addr + 4).toNat = addr.toNat + 4 := uint32_toNat_add_of_lt (by simp; omega)
  have h5 : (addr + 5).toNat = addr.toNat + 5 := uint32_toNat_add_of_lt (by simp; omega)
  have h6 : (addr + 6).toNat = addr.toNat + 6 := uint32_toNat_add_of_lt (by simp; omega)
  have h8 : (addr + 8).toNat = addr.toNat + 8 := uint32_toNat_add_of_lt (by simp; omega)
  have h10 : (addr + 10).toNat = addr.toNat + 10 := uint32_toNat_add_of_lt (by simp; omega)
  have h18 : (addr + 18).toNat = addr.toNat + 18 := uint32_toNat_add_of_lt (by simp; omega)
  have h20 : (addr + 20).toNat = addr.toNat + 20 := uint32_toNat_add_of_lt (by simp; omega)
  rw [appleAopEpWriteSubPacket, stlLeDma, bind_of_ok (dmaWrite_of_backed hb _ _), dmaMemorySet,
    bind_of_ok (dmaWrite_of_backed ?_ _ _), dmaMemorySet, bind_of_ok (dmaWrite_of_backed ?_ _ _),
    stwLeDma, bind_of_ok (dmaWrite_of_backed ?_ _ _), stwLeDma,
    bind_of_ok (dmaWrite_of_backed ?_ _ _), stqLeDma, bind_of_ok (dmaWrite_of_backed ?_ _ _),
    dmaMemorySet, bind_of_ok (dmaWrite_of_backed ?_ _ _), stlLeDma, dmaWrite_of_backed ?_]
  · simp only [aopSubPacketBytes, DmaMemory.write_append, List.length_append,
      List.length_replicate, leBytes_length, h4, h5, h6, h8, h10, h18, h20]
  all_goals exact hb

/-- On backed memory an idle endpoint's send reads `wptr`, stores the whole entry at the slot
`aopTxSlot` picks (below the 32-bit wrap), stores the new `wptr` and signals the AP. Nothing else
is read: in particular not the TX ring's `rptr`.
Source: `hw/misc/apple-silicon/aop.c` `apple_aop_ep_send_packet_full`
Kind: L -/
theorem appleAopEpSendPacketFull_of_backed (hb : ∀ a, s.mem.backed a = true)
    (hidle : s.state = .idle) {w : UInt32} (hw : ldlLeP s.mem.bytes (s.txOff + aop.align * 2).toNat = w)
    (now : UInt64) (type : UInt16) (category : UInt8) (seq : UInt16) (payload : List UInt8)
    (len outLen : UInt32)
    (hroom : (s.txOff + aop.align * 3 + aopTxSlot aop descr w len).toNat + 56 < 2 ^ 32) :
    appleAopEpSendPacketFull aop descr now type category seq payload len outLen s =
      .ok () { s with
        mem := (s.mem.write (s.txOff + aop.align * 3 + aopTxSlot aop descr w len).toNat
            (aopRbEntryBytes (PACKET_LEN + SUB_PACKET_LEN + len) ++ aopPacketBytes s.seq now ++
              aopSubPacketBytes len category type seq now outLen ++ payload.take len.toNat)).write
          (s.txOff + aop.align * 2).toNat
          (leBytes (roundUp32 (aopTxSlot aop descr w len + RB_ENTRY_LEN + PACKET_LEN +
            SUB_PACKET_LEN + len) aop.align).toNat 4)
        events := s.events ++ [.read (s.txOff + aop.align * 2).toNat 4, .userMsg MSG_TX_SIGNAL]
        seq := if s.seq < 0xFFFF then s.seq + 1 else 0 } := by
  rw [appleAopEpSendPacketFull, bind_of_ok (get_apply s)]
  simp only [hidle, bne_self_eq_false, Bool.false_eq_true, if_false]
  rw [bind_of_ok (appleAopEpGetWptr_of_backed aop hb _), hw]
  rw [← aopTxSlot.eq_1]
  generalize aopTxSlot aop descr w len = slot at hroom ⊢
  -- the code adds each header's length to the slot before adding the ring's base
  have h16 : s.txOff + aop.align * 3 + (slot + RB_ENTRY_LEN) = s.txOff + aop.align * 3 + slot + 16 :=
    uint32_add_add _ _ _
  have h32 : s.txOff + aop.align * 3 + (slot + RB_ENTRY_LEN + PACKET_LEN) =
      s.txOff + aop.align * 3 + slot + 16 + 16 := by
    rw [uint32_add_add, uint32_add_add]
    rfl
  have h56 : s.txOff + aop.align * 3 + (slot + RB_ENTRY_LEN + PACKET_LEN + SUB_PACKET_LEN) =
      s.txOff + aop.align * 3 + slot + 16 + 16 + 24 := by
    rw [uint32_add_add, uint32_add_add, uint32_add_add]
    rfl
  generalize s.txOff + aop.align * 3 + slot = e at hroom h16 h32 h56 ⊢
  have he16 : (e + 16).toNat = e.toNat + 16 := uint32_toNat_add_of_lt (by simp; omega)
  have he32 : (e + 16 + 16).toNat = e.toNat + 16 + 16 := by
    rw [uint32_toNat_add_of_lt (by simp; omega), he16]
    rfl
  have he56 : (e + 16 + 16 + 24).toNat = e.toNat + 16 + 16 + 24 := by
    rw [uint32_toNat_add_of_lt (by simp; omega), he32]
    rfl
  have hpacket : (e + 16).toNat + 16 < 2 ^ 32 := by omega
  have hsub : (e + 16 + 16).toNat + 24 < 2 ^ 32 := by omega
  rw [bind_of_ok (appleAopEpWriteRbEntry_of_backed ?_ (by omega) _), h16,
    bind_of_ok (appleAopEpWritePacket_of_backed ?_ hpacket _ _), h32,
    bind_of_ok (appleAopEpWriteSubPacket_of_backed ?_ hsub _ _ _ _ _ _), h56,
    bind_of_ok (dmaWrite_of_backed ?_ _ _), appleAopEpSetWptr, stlLeDma,
    bind_of_ok (dmaWrite_of_backed ?_ _ _), bind_of_ok (aopLog_apply _ _), modify_apply]
  · simp only [AopState.log, hidle, he16, he32, he56, DmaMemory.write_append, aopRbEntryBytes_length, aopPacketBytes_length, aopSubPacketBytes_length, List.append_assoc,
      List.cons_append, List.nil_append]
  all_goals exact hb

end send

/-- For every idle endpoint on backed memory whose TX ring header sits below the 32-bit wrap with
`align ≥ 4`: when the entry would not fit after `wptr`, the send succeeds, reading no word but
`wptr` (so whatever the ring's `rptr` says the AP has still to read), writes the new entry's header
over the first 16 bytes of the data area, leaves `rptr` where it was and sets `wptr` past the new
entry. An entry at offset `0` that the AP has not consumed is overwritten, and those after it up
to the old `wptr` are dropped from the ring.
Source: `hw/misc/apple-silicon/aop.c` `apple_aop_ep_send_packet_full`
Kind: P -/
theorem aop_tx_send_overwrites_unconsumed (aop : AppleAOPState) (descr : AppleAOPEndpointDescription)
    (s : AopState) (hb : ∀ a, s.mem.backed a = true) (hidle : s.state = .idle)
    (halign : 4 ≤ aop.align.toNat) (hbase : s.txOff.toNat + aop.align.toNat * 3 + 56 < 2 ^ 32)
    (now : UInt64) (type : UInt16) (category : UInt8) (seq : UInt16) (payload : List UInt8)
    (len outLen : UInt32)
    (hwrap : descr.txLen < roundUp32 (aop.align * 3 + ldlLeP s.mem.bytes (s.txOff + aop.align * 2).toNat +
      RB_ENTRY_LEN + PACKET_LEN + SUB_PACKET_LEN + len) aop.align) :
    ∃ s', appleAopEpSendPacketFull aop descr now type category seq payload len outLen s = .ok () s' ∧
      s'.events = s.events ++ [.read (s.txOff + aop.align * 2).toNat 4, .userMsg MSG_TX_SIGNAL] ∧
      s'.mem.bytes.read (s.txOff + aop.align * 3).toNat 16 =
        aopRbEntryBytes (PACKET_LEN + SUB_PACKET_LEN + len) ∧
      ldlLeP s'.mem.bytes (s.txOff + aop.align).toNat = ldlLeP s.mem.bytes (s.txOff + aop.align).toNat ∧
      ldlLeP s'.mem.bytes (s.txOff + aop.align * 2).toNat =
        roundUp32 (RB_ENTRY_LEN + PACKET_LEN + SUB_PACKET_LEN + len) aop.align := by
  obtain ⟨w, hw⟩ : ∃ w, ldlLeP s.mem.bytes (s.txOff + aop.align * 2).toNat = w := ⟨_, rfl⟩
  rw [hw] at hwrap
  have hslot : aopTxSlot aop descr w len = 0 := if_pos hwrap
  -- the three header words and the data area, as offsets from `tx_off`
  have h1 : (s.txOff + aop.align).toNat = s.txOff.toNat + aop.align.toNat :=
    uint32_toNat_add_of_lt (by omega)
  have hm2 : (aop.align * 2).toNat = aop.align.toNat * 2 := uint32_toNat_mul_of_lt (by simp; omega)
  have hm3 : (aop.align * 3).toNat = aop.align.toNat * 3 := uint32_toNat_mul_of_lt (by simp; omega)
  have h2 : (s.txOff + aop.align * 2).toNat = s.txOff.toNat + aop.align.toNat * 2 := by
    rw [uint32_toNat_add_of_lt (by rw [hm2]; omega), hm2]
  have h3 : (s.txOff + aop.align * 3).toNat = s.txOff.toNat + aop.align.toNat * 3 := by
    rw [uint32_toNat_add_of_lt (by rw [hm3]; omega), hm3]
  have hroom : (s.txOff + aop.align * 3 + aopTxSlot aop descr w len).toNat + 56 < 2 ^ 32 := by
    rw [hslot, add_zero, h3]
    omega
  refine ⟨_, appleAopEpSendPacketFull_of_backed aop descr hb hidle hw now type category seq payload
    len outLen hroom, rfl, ?_, ?_, ?_⟩
  · -- the `wptr` store lies below the data area
    simp only [hslot, add_zero, DmaMemory.write_bytes]
    rw [← (Mem.unchanged_write _ _ _).agreeOn (by rw [h2, h3, leBytes_length]; omega) |>.read_eq,
      List.append_assoc, List.append_assoc, ← aopRbEntryBytes_length (PACKET_LEN + SUB_PACKET_LEN + len),
      Mem.read_write_append_left]
  · -- `rptr` lies below both stores
    simp only [hslot, add_zero, DmaMemory.write_bytes]
    rw [ldlLeP_eq_of_unchanged (Mem.unchanged_write _ _ _) (by rw [h1, h2]; omega),
      ldlLeP_eq_of_unchanged (Mem.unchanged_write _ _ _) (by rw [h1, h3]; omega)]
  · simp only [hslot, zero_add, DmaMemory.write_bytes]
    exact ldlLeP_stlLeP _ _ _

/-- A TX ring at `tx_off = 0x1000` with `align = 0x40`: `rptr = 0`, `wptr = 0x100`, and at the
data area's start (`0x10C0`) an entry of length `0x48` the AP has not read yet.
Source: none: a test input
Kind: D -/
def aopTxRingMem : Mem := fun a =>
  match a with
  | 0x1081 => 0x01
  | 0x10C0 => 0x49
  | 0x10C1 => 0x4F
  | 0x10C2 => 0x50
  | 0x10C3 => 0x20
  | 0x10C4 => 0x48
  | _ => 0

/-- An idle endpoint over `aopTxRingMem`, all of it backed.
Source: none: a test input
Kind: D -/
def aopTxRingState : AopState where
  state := .idle
  rxOff := 0
  txOff := 0x1000
  seq := 0
  mem := ⟨aopTxRingMem, fun _ => true⟩
  events := []

/-- An endpoint whose rings are `0x200` bytes long.
Source: none: a test input
Kind: D -/
def aopTxRingDescr : AppleAOPEndpointDescription where
  type := .hid
  serviceName := []
  serviceId := 0
  interfaceNum := 0
  rxLen := 0x200
  txLen := 0x200
  getProperty := none
  handleCommand := none

/-- With the entry at offset `0` still unread, a 64-byte report does not fit after `wptr = 0x100`
and is written over that entry: its length field becomes `0x68`, `rptr` stays `0`. -/
theorem aop_tx_send_overwrites_unconsumed_ring :
    ldlLeP aopTxRingMem 0x1040 = 0 ∧ ldlLeP aopTxRingMem 0x1080 = 0x100 ∧
      aopTxRingMem.read 0x10C0 16 = aopRbEntryBytes 0x48 ∧
      ∃ s', appleAopEpSendPacketFull ⟨0x40⟩ aopTxRingDescr 0 PACKET_TYPE_READY_REPORT
          SUB_PACKET_FLAG_CAT_REPORT 0 (List.replicate 0x40 0) 0x40 0 aopTxRingState = .ok () s' ∧
        s'.events = [.read 0x1080 4, .userMsg MSG_TX_SIGNAL] ∧
        s'.mem.bytes.read 0x10C0 16 = aopRbEntryBytes 0x68 ∧
        ldlLeP s'.mem.bytes 0x1040 = 0 ∧ ldlLeP s'.mem.bytes 0x1080 = 0x80 :=
  ⟨by decide, by decide, by decide,
    aop_tx_send_overwrites_unconsumed ⟨0x40⟩ aopTxRingDescr aopTxRingState (fun _ => rfl) rfl
      (by decide) (by decide) 0 PACKET_TYPE_READY_REPORT SUB_PACKET_FLAG_CAT_REPORT 0
      (List.replicate 0x40 0) 0x40 0 (by decide)⟩

/-! ## Every handler step only adds to the log -/

section keeps

variable (aop : AppleAOPState) (descr : AppleAOPEndpointDescription)

theorem keeps_ldubDma (pa : UInt32) : Keeps AopState.LogExtends (ldubDma pa) :=
  Keeps.bind (keeps_dmaRead pa 1) fun _ => Keeps.pure _
theorem keeps_lduwLeDma (pa : UInt32) : Keeps AopState.LogExtends (lduwLeDma pa) :=
  Keeps.bind (keeps_dmaRead pa 2) fun _ => Keeps.pure _
theorem keeps_ldlLeDma (pa : UInt32) : Keeps AopState.LogExtends (ldlLeDma pa) :=
  Keeps.bind (keeps_dmaRead pa 4) fun _ => Keeps.pure _
theorem keeps_ldlBeDma (pa : UInt32) : Keeps AopState.LogExtends (ldlBeDma pa) :=
  Keeps.bind (keeps_dmaRead pa 4) fun _ => Keeps.pure _

theorem keeps_appleAopEpWriteRbEntry (addr length : UInt32) :
    Keeps AopState.LogExtends (appleAopEpWriteRbEntry addr length) :=
  Keeps.bind (keeps_dmaWrite _ _) fun _ => Keeps.bind (keeps_dmaWrite _ _) fun _ => keeps_dmaWrite _ _

theorem keeps_appleAopEpWritePacket (addr : UInt32) (seq : UInt16) (timestamp : UInt64) :
    Keeps AopState.LogExtends (appleAopEpWritePacket addr seq timestamp) :=
  Keeps.bind (keeps_dmaWrite _ _) fun _ => Keeps.bind (keeps_dmaWrite _ _) fun _ =>
    Keeps.bind (keeps_dmaWrite _ _) fun _ => keeps_dmaWrite _ _

theorem keeps_appleAopEpWriteSubPacket (addr payloadLen : UInt32) (category : UInt8)
    (type seq : UInt16) (timestamp : UInt64) (outLen : UInt32) :
    Keeps AopState.LogExtends
      (appleAopEpWriteSubPacket addr payloadLen category type seq timestamp outLen) := by
  unfold appleAopEpWriteSubPacket
  refine Keeps.bind (keeps_dmaWrite _ _) fun _ => Keeps.bind (keeps_dmaWrite _ _) fun _ => ?_
  refine Keeps.bind (keeps_dmaWrite _ _) fun _ => Keeps.bind (keeps_dmaWrite _ _) fun _ => ?_
  refine Keeps.bind (keeps_dmaWrite _ _) fun _ => Keeps.bind (keeps_dmaWrite _ _) fun _ => ?_
  exact Keeps.bind (keeps_dmaWrite _ _) fun _ => keeps_dmaWrite _ _

theorem keeps_appleAopEpSendPacketFull (now : UInt64) (type : UInt16) (category : UInt8)
    (seq : UInt16) (payload : List UInt8) (len outLen : UInt32) :
    Keeps AopState.LogExtends
      (appleAopEpSendPacketFull aop descr now type category seq payload len outLen) := by
  unfold appleAopEpSendPacketFull
  refine Keeps.bind Keeps.get fun _ => Keeps.ite (Keeps.throw _) ?_
  refine Keeps.bind (keeps_ldlLeDma _) fun _ => ?_
  refine Keeps.bind (keeps_appleAopEpWriteRbEntry _ _) fun _ => ?_
  refine Keeps.bind (keeps_appleAopEpWritePacket _ _ _) fun _ => ?_
  refine Keeps.bind (keeps_appleAopEpWriteSubPacket _ _ _ _ _ _ _) fun _ => ?_
  refine Keeps.bind (keeps_dmaWrite _ _) fun _ => Keeps.bind (keeps_dmaWrite _ _) fun _ => ?_
  exact Keeps.bind (keeps_aopLog _) fun _ => Keeps.modify fun s => List.prefix_refl s.events

theorem keeps_appleAopEpRxEmpty : Keeps AopState.LogExtends (appleAopEpRxEmpty aop) := by
  unfold appleAopEpRxEmpty appleAopEpGetWptr appleAopEpGetRptr
  refine Keeps.bind Keeps.get fun s => Keeps.bind ?_ fun r => ?_
  · exact Keeps.attempt (Keeps.bind (keeps_ldlLeDma _) fun _ => Keeps.bind (keeps_ldlLeDma _) fun _ => Keeps.pure _)
  · cases r
    · exact Keeps.pure _
    · exact Keeps.pure _

theorem keeps_appleAopEpReadRbEntry (addr : UInt32) :
    Keeps AopState.LogExtends (appleAopEpReadRbEntry addr) :=
  Keeps.bind (keeps_ldlBeDma _) fun _ => Keeps.ite (Keeps.throw _) (keeps_ldlLeDma _)

theorem keeps_appleAopEpReadPacket (addr : UInt32) :
    Keeps AopState.LogExtends (appleAopEpReadPacket addr) :=
  Keeps.bind (keeps_ldubDma _) fun _ => Keeps.ite (Keeps.throw _) (Keeps.pure _)

theorem keeps_appleAopEpReadSubPacket (addr : UInt32) :
    Keeps AopState.LogExtends (appleAopEpReadSubPacket addr) := by
  unfold appleAopEpReadSubPacket
  refine Keeps.bind (keeps_ldubDma _) fun _ => Keeps.ite (Keeps.throw _) ?_
  refine Keeps.bind (keeps_ldlLeDma _) fun _ => Keeps.bind (keeps_ldubDma _) fun _ => ?_
  refine Keeps.bind (keeps_lduwLeDma _) fun _ => Keeps.bind (keeps_lduwLeDma _) fun _ => ?_
  exact Keeps.bind (keeps_ldlLeDma _) fun _ => Keeps.pure _

theorem keeps_appleAopEpRecvPacketLocked :
    Keeps AopState.LogExtends (appleAopEpRecvPacketLocked aop descr) := by
  unfold appleAopEpRecvPacketLocked
  refine Keeps.bind (keeps_appleAopEpRxEmpty aop) fun _ => Keeps.ite (Keeps.pure _) ?_
  refine Keeps.bind Keeps.get fun _ => Keeps.bind (keeps_ldlLeDma _) fun _ => ?_
  refine Keeps.bind (keeps_appleAopEpReadRbEntry _) fun _ => ?_
  refine Keeps.bind (keeps_appleAopEpReadPacket _) fun _ => ?_
  refine Keeps.bind (keeps_appleAopEpReadSubPacket _) fun _ => ?_
  refine Keeps.bind (keeps_aopLog _) fun _ => Keeps.bind (keeps_dmaRead _ _) fun _ => ?_
  exact Keeps.bind (keeps_dmaWrite _ _) fun _ => Keeps.pure _

theorem keeps_appleAopEpDispatch (p : AopPacket) : Keeps AopState.LogExtends (appleAopEpDispatch descr p) := by
  unfold appleAopEpDispatch
  refine Keeps.bind (keeps_aopLog _) fun _ => Keeps.ite ?_ ?_
  · cases descr.getProperty
    · exact Keeps.pure _
    · exact Keeps.bind (keeps_aopLog _) fun _ => Keeps.pure _
  · cases descr.handleCommand
    · exact Keeps.pure _
    · exact Keeps.bind (keeps_aopLog _) fun _ => Keeps.pure _

theorem keeps_appleAopEpRxReply (now : UInt64) (p : AopPacket) (payloadOut : List UInt8) :
    Keeps AopState.LogExtends (appleAopEpRxReply aop descr now p payloadOut) := by
  unfold appleAopEpRxReply
  refine Keeps.bind (keeps_aopLog _) fun _ => ?_
  refine Keeps.bind (Keeps.attempt (keeps_appleAopEpSendPacketFull aop descr _ _ _ _ _ _ _)) fun r => ?_
  rcases r with _ | _
  · exact Keeps.pure _
  · exact Keeps.bind (keeps_aopLog _) fun _ => Keeps.pure _

/-- Every run of the IDLE loop only adds to the log, by induction on the fuel. -/
theorem keeps_appleAopEpRxLoop (now : UInt64) :
    ∀ fuel, Keeps AopState.LogExtends (appleAopEpRxLoop aop descr now fuel)
  | 0 => Keeps.pure _
  | fuel + 1 => by
    rw [appleAopEpRxLoop]
    refine Keeps.bind (keeps_appleAopEpRxEmpty aop) fun _ => Keeps.ite (Keeps.pure _) ?_
    refine Keeps.bind (Keeps.attempt (keeps_appleAopEpRecvPacketLocked aop descr)) fun r => ?_
    rcases r with _ | _ | p
    · exact Keeps.pure _
    · exact Keeps.pure _
    exact Keeps.bind (keeps_appleAopEpDispatch descr p) fun out =>
      Keeps.bind (keeps_appleAopEpRxReply aop descr now p out) fun _ =>
        Keeps.ite (keeps_appleAopEpRxLoop now fuel) (Keeps.pure _)

end keeps

/-! ## The IDLE loop on a short entry -/

section idle

variable (aop : AppleAOPState) (descr : AppleAOPEndpointDescription)

/-- For a type other than `PACKET_TYPE_GET_PROPERTY`, the dispatch allocates `payload_out` and
calls `handle_command` with `len - 4` and `out_len - 4` in 32-bit arithmetic.
Source: `hw/misc/apple-silicon/aop.c` `apple_aop_ep_handle_message`
Kind: L -/
theorem appleAopEpDispatch_handleCommand {p : AopPacket} (htype : p.type ≠ PACKET_TYPE_GET_PROPERTY)
    {handleCommand : UInt32 → UInt8 → UInt16 → List UInt8 → UInt32 → UInt32 → AppleAOPResult × List UInt8}
    (hcmd : descr.handleCommand = some handleCommand) (s : AopState) :
    ∃ out, appleAopEpDispatch descr p s = .ok out (s.log [.alloc .payloadOut (p.outLen.toNat + 4),
      .handleCommand p.payload.length (p.len - 4) (p.outLen.toNat + 4) (p.outLen - 4)]) := by
  rw [appleAopEpDispatch, bind_of_ok (aopLog_apply _ _)]
  simp only [htype, if_false, hcmd]
  rw [bind_of_ok (aopLog_apply _ _), AopState.log_log]
  exact ⟨_, rfl⟩

/-- The first iteration of the IDLE loop over a well-formed entry of another type than
`PACKET_TYPE_GET_PROPERTY` logs the call of `handle_command` with the entry's lengths, whatever
the reply and the later iterations do.
Source: `hw/misc/apple-silicon/aop.c` `apple_aop_ep_handle_message`
Kind: L -/
theorem appleAopEpRxLoop_handleCommand (now : UInt64) (fuel : ℕ) {s : AopState}
    (hb : ∀ a, s.mem.backed a = true) {rptr : UInt32}
    (hrptr : ldlLeP s.mem.bytes (s.rxOff + aop.align).toNat = rptr)
    (hne : ldlLeP s.mem.bytes (s.rxOff + aop.align * 2).toNat ≠ rptr)
    (hmagic : UInt32.ofNat (beValue (s.mem.bytes.read (s.rxOff + aop.align * 3 + rptr).toNat 4)) =
      RB_V7_AOP_MAGIC)
    (hpacket : s.mem.bytes (s.rxOff + aop.align * 3 + rptr + 16).toNat = 2)
    (hsub : s.mem.bytes (s.rxOff + aop.align * 3 + rptr + 32 + 4).toNat = 2)
    (htype : (aopPacketAt s.mem.bytes (s.rxOff + aop.align * 3 + rptr + 32)).type ≠ PACKET_TYPE_GET_PROPERTY)
    {handleCommand : UInt32 → UInt8 → UInt16 → List UInt8 → UInt32 → UInt32 → AppleAOPResult × List UInt8}
    (hcmd : descr.handleCommand = some handleCommand) :
    let p := aopPacketAt s.mem.bytes (s.rxOff + aop.align * 3 + rptr + 32)
    AopEvent.handleCommand p.payload.length (p.len - 4) (p.outLen.toNat + 4) (p.outLen - 4) ∈
      (resultState (appleAopEpRxLoop aop descr now (fuel + 1) s)).events := by
  intro p
  have hempty := appleAopEpRxEmpty_of_backed aop hb
  rw [hrptr, beq_false_of_ne hne] at hempty
  obtain ⟨s₂, hrecv⟩ := appleAopEpRecvPacketLocked_of_backed
    (s := s.log [.read (s.rxOff + aop.align * 2).toNat 4, .read (s.rxOff + aop.align).toNat 4])
    aop descr hb hrptr hne hmagic hpacket hsub
  obtain ⟨out, hdispatch⟩ := appleAopEpDispatch_handleCommand descr htype hcmd s₂
  simp only [AopState.log_mem, AopState.log_rxOff] at hrecv
  rw [appleAopEpRxLoop, bind_of_ok hempty]
  simp only [Bool.false_eq_true, if_false]
  rw [bind_of_ok (attempt_of_ok hrecv)]
  refine (Keeps.bind_right (fun out => Keeps.bind (keeps_appleAopEpRxReply aop descr now p out) fun _ =>
    Keeps.ite (keeps_appleAopEpRxLoop aop descr now fuel) (Keeps.pure _)) _ s₂).mem ?_
  rw [hdispatch]
  simp [p]

/-- Answering `OP_RX_SIGNAL` in `EP_STATE_IDLE` over an RX entry whose sub-packet gives a payload
length `len` below 4 and a type other than `PACKET_TYPE_GET_PROPERTY` hands `handle_command` a
payload buffer of `len < 4` bytes together with the length `len - sizeof(uint32_t)`, which wraps
to at least `2^32 - 4`.
Source: `hw/misc/apple-silicon/aop.c` `apple_aop_ep_handle_message`
Kind: L -/
theorem handleCommand_len_wraps (now : UInt64) (fuel : ℕ) {msg : UInt64}
    (hmsg : MSG_OP_GET msg = OP_RX_SIGNAL)
    {handleCommand : UInt32 → UInt8 → UInt16 → List UInt8 → UInt32 → UInt32 → AppleAOPResult × List UInt8}
    (hcmd : descr.handleCommand = some handleCommand) {s : AopState} (hidle : s.state = .idle)
    (hb : ∀ a, s.mem.backed a = true) {rptr : UInt32}
    (hrptr : ldlLeP s.mem.bytes (s.rxOff + aop.align).toNat = rptr)
    (hne : ldlLeP s.mem.bytes (s.rxOff + aop.align * 2).toNat ≠ rptr)
    (hmagic : UInt32.ofNat (beValue (s.mem.bytes.read (s.rxOff + aop.align * 3 + rptr).toNat 4)) =
      RB_V7_AOP_MAGIC)
    (hpacket : s.mem.bytes (s.rxOff + aop.align * 3 + rptr + 16).toNat = 2)
    (hsub : s.mem.bytes (s.rxOff + aop.align * 3 + rptr + 32 + 4).toNat = 2)
    (hlen : (ldlLeP s.mem.bytes (s.rxOff + aop.align * 3 + rptr + 32).toNat).toNat < 4)
    (htype : lduwLeP s.mem.bytes (s.rxOff + aop.align * 3 + rptr + 32 + 6).toNat ≠
      PACKET_TYPE_GET_PROPERTY) :
    ∃ payloadSize len outSize outLen,
      AopEvent.handleCommand payloadSize len outSize outLen ∈
        (resultState (appleAopEpHandleMessage aop descr now (fuel + 1) msg s)).events ∧
      payloadSize < 4 ∧ 2 ^ 32 - 4 ≤ len.toNat := by
  let p := aopPacketAt s.mem.bytes (s.rxOff + aop.align * 3 + rptr + 32)
  have hstep : AopEvent.handleCommand p.payload.length (p.len - 4) (p.outLen.toNat + 4)
      (p.outLen - 4) ∈ (resultState (appleAopEpRxLoop aop descr now (fuel + 1) s)).events :=
    appleAopEpRxLoop_handleCommand aop descr now fuel hb hrptr hne hmagic hpacket hsub htype hcmd
  have hplen : p.len.toNat < 4 := hlen
  refine ⟨p.payload.length, p.len - 4, p.outLen.toNat + 4, p.outLen - 4, ?_, ?_, ?_⟩
  · rw [appleAopEpHandleMessage, bind_of_ok (get_apply s)]
    simp only [hidle, hmsg, bne_self_eq_false, Bool.false_eq_true, if_false]
    exact (Keeps.bind_right (R := AopState.LogExtends) (fun _ => Keeps.pure ())
      (appleAopEpRxLoop aop descr now (fuel + 1)) s).mem hstep
  · simpa [p, aopPacketAt] using hlen
  · -- `len - 4` in 32 bits is `2^32 - 4 + len` for `len < 4`
    rw [UInt32.toNat_sub]
    simp only [UInt32.reduceToNat]
    omega

end idle

/-- An RX ring at `rx_off = 0` with `align = 0x40`: `rptr = 0`, `wptr = 0x100`, and at `0xC0`
the `'AOP '` entry whose sub-packet header (at `0xE0`) gives payload length 0 and type `0x20`.
Source: none: a test input
Kind: D -/
def aopShortEntryMem : Mem := fun a =>
  match a with
  | 0x81 => 0x01
  | 0xC0 => 0x41
  | 0xC1 => 0x4F
  | 0xC2 => 0x50
  | 0xC3 => 0x20
  | 0xD0 => 2
  | 0xE4 => 2
  | 0xE6 => 0x20
  | _ => 0

/-- An idle endpoint over `aopShortEntryMem`, all of it backed.
Source: none: a test input
Kind: D -/
def aopShortEntryState : AopState where
  state := .idle
  rxOff := 0
  txOff := 0x1000
  seq := 0
  mem := ⟨aopShortEntryMem, fun _ => true⟩
  events := []

/-- An endpoint whose `handle_command` answers `AOP_RESULT_OK` and writes nothing.
Source: none: a test input
Kind: D -/
def aopQuietDescr : AppleAOPEndpointDescription where
  type := .hid
  serviceName := []
  serviceId := 0
  interfaceNum := 0
  rxLen := 0x4000
  txLen := 0x4000
  getProperty := none
  handleCommand := some fun _ _ _ _ _ _ => (.ok, [])

/-- The empty payload of `aopShortEntryMem` reaches `handle_command` with a length of
`2^32 - 4`. -/
theorem handleCommand_len_wraps_empty_payload :
    ∃ payloadSize len outSize outLen,
      AopEvent.handleCommand payloadSize len outSize outLen ∈
        (resultState (appleAopEpHandleMessage ⟨0x40⟩ aopQuietDescr 0 1 (MSG_OP OP_RX_SIGNAL)
          aopShortEntryState)).events ∧
      payloadSize < 4 ∧ 2 ^ 32 - 4 ≤ len.toNat :=
  handleCommand_len_wraps ⟨0x40⟩ aopQuietDescr 0 0 (by decide) rfl rfl (fun _ => rfl) rfl
    (by decide) (by decide) (by decide) (by decide) (by decide) (by decide)

end QemuAppleSilicon.Misc
