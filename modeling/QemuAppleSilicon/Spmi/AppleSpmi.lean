import QemuAppleSilicon.Misc.SpmiPmu
import QemuAppleSilicon.Lib.Bits32
import QemuAppleSilicon.Lib.TracedRun

/-!
# The SPMI controller's request and response queues (`hw/spmi/apple_spmi.c`)

The guest pushes request words to `SPMI_REQ_QUEUE_PUSH` and pops response words from
`SPMI_RSP_QUEUE_POP`; the controller runs each request on the bus at once and pushes its
responses onto `resp_fifo`, a `Fifo32` of `SPMI_QUEUE_DEPTH` words. A read request of `len`
bytes pushes a header word and `(len + 3) / 4` data words, a write request one word when its
data is complete. `fifo32_push` asserts that the FIFO has room, so a push onto a full FIFO
aborts; here a handler that aborts returns `none`.

The bus is left abstract (`SpmiBus`): the devices behind it have their own state `β`, and the
controller sees only what `spmi_start_transfer`, `spmi_recv`, `spmi_send` and
`spmi_end_transfer` return.

* `spmiRun_respFifo_length_le` — along every run that does not abort the FIFO holds at most
  `SPMI_QUEUE_DEPTH` words.
* `appleSpmiQueueRegRead_status_rsp_empty` — `QUEUE_STATUS.RSP_EMPTY` reads `1` exactly when the
  FIFO is empty.
* `appleSpmiReqPush_read` — a read request accepted by the bus pushes its header and data words,
  or aborts when they do not fit.
* `spmi_resp_fifo_overflows` — so `n` eight-byte read requests with no pop in between abort once
  their `3 * n` words exceed the room left, on every bus that accepts them.

Not modelled: the interrupt level `apple_spmi_update_irq` computes from the `INT_STATUS` and
`INT_ENAB` banks (their registers are stored), and the fault registers.
-/

namespace QemuAppleSilicon.Spmi

open QemuAppleSilicon.Lib QemuAppleSilicon.Misc

/-! ## Registers and request fields -/

/-- Source: `hw/spmi/apple_spmi.c` `SPMI_QUEUE_DEPTH`. Kind: D -/
def SPMI_QUEUE_DEPTH : ℕ := 0x100

/-- Source: `hw/spmi/apple_spmi.c` `SPMI_CONTROL_QUEUE_RESET`. Kind: D -/
def SPMI_CONTROL_QUEUE_RESET : ℕ := 0x14

/-- Source: `hw/spmi/apple_spmi.c` `SPMI_CONTROL_QUEUE_RESET_REQ`. Kind: D -/
def SPMI_CONTROL_QUEUE_RESET_REQ : UInt32 := (1 : UInt32) <<< 0

/-- Source: `hw/spmi/apple_spmi.c` `SPMI_CONTROL_QUEUE_RESET_RSP`. Kind: D -/
def SPMI_CONTROL_QUEUE_RESET_RSP : UInt32 := (1 : UInt32) <<< 1

/-- Source: `hw/spmi/apple_spmi.c` `SPMI_QUEUE_STATUS`. Kind: D -/
def SPMI_QUEUE_STATUS : ℕ := 0x0

/-- Source: `hw/spmi/apple_spmi.c` `SPMI_QUEUE_STATUS_REQ_EMPTY`. Kind: D -/
def SPMI_QUEUE_STATUS_REQ_EMPTY : UInt32 := (1 : UInt32) <<< 8

/-- Source: `hw/spmi/apple_spmi.c` `SPMI_QUEUE_STATUS_RSP_EMPTY`. Kind: D -/
def SPMI_QUEUE_STATUS_RSP_EMPTY : UInt32 := (1 : UInt32) <<< 24

/-- Source: `hw/spmi/apple_spmi.c` `SPMI_REQ_QUEUE_PUSH`. Kind: D -/
def SPMI_REQ_QUEUE_PUSH : ℕ := 0x4

/-- Source: `hw/spmi/apple_spmi.c` `SPMI_REQ_FINAL`. Kind: D -/
def SPMI_REQ_FINAL : UInt32 := (1 : UInt32) <<< 15

/-- Source: `hw/spmi/apple_spmi.c` `SPMI_RSP_QUEUE_POP`. Kind: D -/
def SPMI_RSP_QUEUE_POP : ℕ := 0x8

/-- Source: `hw/spmi/apple_spmi.c` `SPMI_RSP_ACK_SHIFT`. Kind: D -/
def SPMI_RSP_ACK_SHIFT : UInt32 := 16

/-- Source: `hw/spmi/apple_spmi.c` `SPMI_NUM_IRQ_BANK`. Kind: D -/
def SPMI_NUM_IRQ_BANK : ℕ := 9

/-- Source: `hw/spmi/apple_spmi.c` `SPMI_INT_ENAB`. Kind: D -/
def SPMI_INT_ENAB (b : ℕ) : ℕ := 0x20 + b * 4

/-- Source: `hw/spmi/apple_spmi.c` `SPMI_INT_STATUS_V1`. Kind: D -/
def SPMI_INT_STATUS_V1 (b : ℕ) : ℕ := 0x60 + b * 4

/-- Source: `hw/spmi/apple_spmi.c` `SPMI_REQ_SID`. Kind: D -/
def SPMI_REQ_SID (x : UInt32) : UInt8 := ((x >>> 8) &&& 0xf).toUInt8

/-- The opcode of a request: all eight low bits for the `0x1_` group, else the top five.
Source: `hw/spmi/apple_spmi.c` `spmi_opcode`
Kind: D -/
def spmiOpcode (req : UInt32) : UInt8 :=
  if (req >>> 4) &&& 0xf = 1 then (req &&& 0xff).toUInt8 else (req &&& 0xf8).toUInt8

/-- The byte count of a request: none for the `0x1_` group, else the low three bits plus one.
Source: `hw/spmi/apple_spmi.c` `spmi_data_length`
Kind: D -/
def spmiDataLength (req : UInt32) : ℕ :=
  if (req >>> 4) &&& 0xf = 1 then 0 else (req &&& 0x7).toNat + 1

/-- The register address of a request: sixteen bits for the extended commands, else eight.
Source: `hw/spmi/apple_spmi.c` `spmi_address`
Kind: D -/
def spmiAddress (req : UInt32) : ℕ :=
  let opc := spmiOpcode req
  if opc = SPMI_CMD_EXT_WRITE ∨ opc = SPMI_CMD_EXT_READ ∨ opc = SPMI_CMD_EXT_WRITEL ∨
      opc = SPMI_CMD_EXT_READL then ((req >>> 16) &&& 0xffff).toNat
  else ((req >>> 16) &&& 0xff).toNat

/-! ## The bus and the controller's state -/

/-- The SPMI bus as the controller drives it, over the state `β` of the devices behind it:
starting a transfer (a non-zero result refuses it), receiving `len` bytes (the bytes written and
the count returned), sending bytes (the count), and ending the transfer.
Source: `hw/spmi/core.c` `spmi_start_transfer`, `spmi_recv`, `spmi_send`, `spmi_end_transfer`
Kind: D -/
structure SpmiBus (β : Type) where
  startTransfer : β → UInt8 → UInt8 → ℕ → β × ℤ
  recv : β → ℕ → β × List UInt8 × ℤ
  send : β → List UInt8 → ℕ → β × ℤ
  endTransfer : β → β

/-- The controller: its control and queue registers, the response FIFO (head first), the write
request being filled (`data`: `NULL`, or the words written so far, `data_filled` of them), its
`data_length` and `command`, the level of `resp_irq`, and the bus.
Source: `include/hw/spmi/apple_spmi.h` `AppleSPMIState`
Kind: D -/
structure AppleSPMIState (β : Type) where
  controlReg : ℕ → UInt32
  queueReg : ℕ → UInt32
  respFifo : List UInt32
  data : Option (List UInt32)
  dataLength : ℕ
  command : UInt32
  respIrq : Bool
  bus : β

variable {β : Type}

/-- `fifo32_push`: `fifo8_push` asserts `num < capacity` for each byte, so a push onto a full
FIFO aborts.
Source: `include/qemu/fifo32.h` `fifo32_push`; `util/fifo8.c` `fifo8_push`
Kind: D -/
def fifo32Push (capacity : ℕ) (q : List UInt32) (v : UInt32) : Option (List UInt32) :=
  if q.length < capacity then some (q ++ [v]) else none

/-- `resp_irq` follows whether the FIFO holds a response.
Source: `hw/spmi/apple_spmi.c` `apple_spmi_update_queues_status`
Kind: D -/
def appleSpmiUpdateQueuesStatus (s : AppleSPMIState β) : AppleSPMIState β :=
  { s with respIrq := !s.respFifo.isEmpty }

/-- The end of `apple_spmi_queue_reg_write`: `*mmio = value`, then the queue status if `qflg`.
Source: `hw/spmi/apple_spmi.c` `apple_spmi_queue_reg_write`
Kind: D -/
def AppleSPMIState.storeQueueReg (s : AppleSPMIState β) (addr : ℕ) (value : UInt32)
    (qflg : Bool) : AppleSPMIState β :=
  let s := { s with queueReg := Function.update s.queueReg (addr / 4) value }
  if qflg then appleSpmiUpdateQueuesStatus s else s

/-- The words `data2[0 .. (len + 3) / 4)` of the zeroed `len + 3`-byte buffer that `spmi_recv`
filled with at most `len` bytes.
Source: `hw/spmi/apple_spmi.c` `apple_spmi_queue_reg_write`
Kind: D -/
def recvWords (bytes : List UInt8) (len : ℕ) : List UInt32 :=
  let buf := bytes.take len ++ List.replicate (len + 3) 0
  (List.range ((len + 3) / 4)).map fun i => UInt32.ofNat (leValue ((buf.drop (4 * i)).take 4))

/-- `ack = ~(-1 << count)` as a `uint8_t`: the low `count` bits.
Source: `hw/spmi/apple_spmi.c` `apple_spmi_queue_reg_write`
Kind: D -/
def recvAck (count : ℤ) : UInt8 := if 0 < count then UInt8.ofNat (2 ^ count.toNat - 1) else 0

/-- A read's responses: `len` bytes received from the bus, the request word with the ack bits as
the header, then the `(len + 3) / 4` data words; the assertion that the opcode is a read.
Source: `hw/spmi/apple_spmi.c` `apple_spmi_queue_reg_write` (`SPMI_REQ_QUEUE_PUSH`, `data == NULL`)
Kind: D -/
def appleSpmiReadResponse (bus : SpmiBus β) (s : AppleSPMIState β) (value : UInt32) (opc : UInt8)
    (len : ℕ) : Option (AppleSPMIState β × UInt32) := do
  -- g_assert_true(opc == SPMI_CMD_EXT_READ || opc == SPMI_CMD_EXT_READL)
  if ¬ (opc = SPMI_CMD_EXT_READ ∨ opc = SPMI_CMD_EXT_READL) then none
  let (b, bytes, count) := bus.recv s.bus len
  let value := (value &&& 0xFFF) ||| ((recvAck count).toUInt32 <<< SPMI_RSP_ACK_SHIFT)
  let q ← fifo32Push SPMI_QUEUE_DEPTH s.respFifo value
  let q ← (recvWords bytes len).foldlM (fifo32Push SPMI_QUEUE_DEPTH) q
  pure ({ s with bus := b, respFifo := q }, value)

/-- A request word pushed while no write is being filled: the command is started on the bus, a
read pushes its responses, and a final request ends the transfer. A refused start returns before
the register store.
Source: `hw/spmi/apple_spmi.c` `apple_spmi_queue_reg_write` (`SPMI_REQ_QUEUE_PUSH`, `data == NULL`)
Kind: D -/
def appleSpmiReqPush (bus : SpmiBus β) (s : AppleSPMIState β) (value : UInt32) :
    Option (AppleSPMIState β) := do
  let opc := spmiOpcode value
  let parity := value &&& SPMI_REQ_FINAL = 0
  let len := spmiDataLength value
  let s := { s with command := value }
  let s := if opc = SPMI_CMD_EXT_WRITE ∨ opc = SPMI_CMD_EXT_WRITEL then
      { s with dataLength := (len + 3) / 4, data := some [] } else s
  let (b, rv) := bus.startTransfer s.bus (SPMI_REQ_SID value) opc (spmiAddress value)
  let s := { s with bus := b }
  if rv ≠ 0 then return s
  let (s, value) ← if s.data = none ∧ len ≠ 0 then appleSpmiReadResponse bus s value opc len
    else pure (s, value)
  if s.data = none ∧ ¬ parity then
    return { s with bus := bus.endTransfer s.bus }.storeQueueReg SPMI_REQ_QUEUE_PUSH value true
  return s.storeQueueReg SPMI_REQ_QUEUE_PUSH value false

/-- A data word pushed while a write is being filled: once `data_length` words are in, the
command's bytes are sent and one status word is pushed, with bit 15 set when the bus took them all.
Source: `hw/spmi/apple_spmi.c` `apple_spmi_queue_reg_write` (`SPMI_REQ_QUEUE_PUSH`, `data != NULL`)
Kind: D -/
def appleSpmiDataPush (bus : SpmiBus β) (s : AppleSPMIState β) (words : List UInt32)
    (value : UInt32) : Option (AppleSPMIState β) := do
  let words := words ++ [value]
  if words.length < s.dataLength then
    return { s with data := some words }.storeQueueReg SPMI_REQ_QUEUE_PUSH value false
  let requestedLen := spmiDataLength s.command
  let (b, count) :=
    bus.send s.bus ((words.flatMap fun w => leBytes w.toNat 4).take requestedLen) requestedLen
  let q ← fifo32Push SPMI_QUEUE_DEPTH s.respFifo
    ((s.command &&& (0xFFF : UInt32)) ||| (if count = requestedLen then (1 : UInt32) <<< 15 else 0))
  let s := { s with bus := b, respFifo := q, data := none, dataLength := 0 }
  if s.command &&& SPMI_REQ_FINAL ≠ 0 then
    return { s with bus := bus.endTransfer s.bus }.storeQueueReg SPMI_REQ_QUEUE_PUSH value true
  return s.storeQueueReg SPMI_REQ_QUEUE_PUSH value false

/-- A guest write to the queue registers.
Source: `hw/spmi/apple_spmi.c` `apple_spmi_queue_reg_write`
Kind: D -/
def appleSpmiQueueRegWrite (bus : SpmiBus β) (s : AppleSPMIState β) (addr : ℕ) (value : UInt32) :
    Option (AppleSPMIState β) :=
  if addr = SPMI_REQ_QUEUE_PUSH then
    match s.data with
    | none => appleSpmiReqPush bus s value
    | some words => appleSpmiDataPush bus s words value
  else if SPMI_INT_STATUS_V1 0 ≤ addr ∧ addr ≤ SPMI_INT_STATUS_V1 (SPMI_NUM_IRQ_BANK - 1) then
    -- write one to clear
    some (s.storeQueueReg addr (s.queueReg (addr / 4) &&& ~~~value) false)
  else some (s.storeQueueReg addr value false)

/-- A guest read of the queue registers: a pop hands out the FIFO's head (`0` when it is empty);
`QUEUE_STATUS` reports the request queue empty and the response FIFO as it is.
Source: `hw/spmi/apple_spmi.c` `apple_spmi_queue_reg_read`
Kind: D -/
def appleSpmiQueueRegRead (s : AppleSPMIState β) (addr : ℕ) : AppleSPMIState β × UInt32 :=
  let value := s.queueReg (addr / 4)
  if addr = SPMI_RSP_QUEUE_POP then
    match s.respFifo with
    | [] => (appleSpmiUpdateQueuesStatus s, 0)
    | v :: q => (appleSpmiUpdateQueuesStatus { s with respFifo := q }, v)
  else if addr = SPMI_QUEUE_STATUS then
    let value := (value &&& ~~~(SPMI_QUEUE_STATUS_REQ_EMPTY ||| SPMI_QUEUE_STATUS_RSP_EMPTY)) |||
      SPMI_QUEUE_STATUS_REQ_EMPTY
    (s, if s.respFifo.isEmpty then value ||| SPMI_QUEUE_STATUS_RSP_EMPTY else value)
  else (s, value)

/-- A guest write to the control registers: `QUEUE_RESET` empties the response FIFO when its
`RSP` bit is set; both reset bits read back clear.
Source: `hw/spmi/apple_spmi.c` `apple_spmi_control_write`
Kind: D -/
def appleSpmiControlWrite (s : AppleSPMIState β) (addr : ℕ) (value : UInt32) : AppleSPMIState β :=
  if addr = SPMI_CONTROL_QUEUE_RESET then
    let (s, value) := if value &&& SPMI_CONTROL_QUEUE_RESET_RSP ≠ 0 then
        ({ s with respFifo := [] }, value &&& ~~~SPMI_CONTROL_QUEUE_RESET_RSP) else (s, value)
    let value := value &&& ~~~SPMI_CONTROL_QUEUE_RESET_REQ
    appleSpmiUpdateQueuesStatus { s with controlReg := Function.update s.controlReg (addr / 4) value }
  else { s with controlReg := Function.update s.controlReg (addr / 4) value }

/-- The reset: registers cleared, the FIFO emptied, the write being filled dropped.
Source: `hw/spmi/apple_spmi.c` `apple_spmi_reset_enter`, `apple_spmi_reset_exit`
Kind: D -/
def appleSpmiReset (s : AppleSPMIState β) : AppleSPMIState β :=
  appleSpmiUpdateQueuesStatus
    { s with controlReg := fun _ => 0, queueReg := fun _ => 0, respFifo := [], data := none,
             dataLength := 0 }

/-- A guest access to the controller, or a device reset.
Source: `hw/spmi/apple_spmi.c` `apple_spmi_queue_reg_ops`, `apple_spmi_control_ops`
Kind: D -/
inductive SpmiOp where
  | queueWrite (addr : ℕ) (value : UInt32)
  | queueRead (addr : ℕ)
  | controlWrite (addr : ℕ) (value : UInt32)
  | controlRead (addr : ℕ)
  | reset

/-- One access: the state after it and the value a read returns; `none` when it aborts.
Source: `hw/spmi/apple_spmi.c`
Kind: D -/
def spmiStep (bus : SpmiBus β) : SpmiOp → AppleSPMIState β → Option (AppleSPMIState β × List UInt32)
  | .queueWrite addr value, s => (appleSpmiQueueRegWrite bus s addr value).map fun s => (s, [])
  | .queueRead addr, s => some ((appleSpmiQueueRegRead s addr).1, [(appleSpmiQueueRegRead s addr).2])
  | .controlWrite addr value, s => some (appleSpmiControlWrite s addr value, [])
  | .controlRead addr, s => some (s, [s.controlReg (addr / 4)])
  | .reset, s => some (appleSpmiReset s, [])

/-- A run of accesses, with the values read. -/
def spmiRun (bus : SpmiBus β) (ops : List SpmiOp) (s : AppleSPMIState β) :
    Option (AppleSPMIState β × List UInt32) :=
  tracedRun (spmiStep bus) ops s

/-! ## The response FIFO -/

/-- Source: `include/qemu/fifo32.h` `fifo32_push`. Kind: L -/
theorem fifo32Push_eq_some {cap : ℕ} {q q' : List UInt32} {v : UInt32} :
    fifo32Push cap q v = some q' ↔ q.length < cap ∧ q' = q ++ [v] := by
  unfold fifo32Push
  split_ifs with h
  · simp [h, eq_comm]
  · simp [h]

/-- Pushing words one at a time pushes all of them when they fit, and aborts otherwise.
Source: `include/qemu/fifo32.h` `fifo32_push`. Kind: L -/
theorem foldlM_fifo32Push (cap : ℕ) (ws : List UInt32) {q : List UInt32} (hq : q.length ≤ cap) :
    ws.foldlM (fifo32Push cap) q = if q.length + ws.length ≤ cap then some (q ++ ws) else none := by
  induction ws generalizing q with
  | nil => simp [hq]
  | cons w ws ih =>
    rw [List.foldlM_cons]
    by_cases hlt : q.length < cap
    · have hpush : fifo32Push cap q w = some (q ++ [w]) := if_pos hlt
      rw [hpush, Option.bind_eq_bind, Option.bind_some, ih (by simp; omega)]
      simp [Nat.add_assoc, Nat.add_comm 1]
    · have hpush : fifo32Push cap q w = none := if_neg hlt
      have hfit : ¬ q.length + (w :: ws).length ≤ cap := by simp; omega
      rw [hpush, if_neg hfit]
      rfl

@[simp] theorem respFifo_appleSpmiUpdateQueuesStatus (s : AppleSPMIState β) :
    (appleSpmiUpdateQueuesStatus s).respFifo = s.respFifo := rfl

@[simp] theorem data_appleSpmiUpdateQueuesStatus (s : AppleSPMIState β) :
    (appleSpmiUpdateQueuesStatus s).data = s.data := rfl

@[simp] theorem respFifo_storeQueueReg (s : AppleSPMIState β) (addr : ℕ) (value : UInt32)
    (qflg : Bool) : (s.storeQueueReg addr value qflg).respFifo = s.respFifo := by
  unfold AppleSPMIState.storeQueueReg
  split_ifs <;> rfl

@[simp] theorem data_storeQueueReg (s : AppleSPMIState β) (addr : ℕ) (value : UInt32)
    (qflg : Bool) : (s.storeQueueReg addr value qflg).data = s.data := by
  unfold AppleSPMIState.storeQueueReg
  split_ifs <;> rfl

/-- Source: `hw/spmi/apple_spmi.c` `apple_spmi_queue_reg_write`. Kind: L -/
@[simp] theorem length_recvWords (bytes : List UInt8) (len : ℕ) :
    (recvWords bytes len).length = (len + 3) / 4 := by
  simp [recvWords]

/-- A read's responses: its header and its `(len + 3) / 4` data words, pushed when they all fit,
an abort when they do not.
Source: `hw/spmi/apple_spmi.c` `apple_spmi_queue_reg_write`. Kind: L -/
theorem appleSpmiReadResponse_eq (bus : SpmiBus β) (s : AppleSPMIState β) (value : UInt32)
    {opc : UInt8} (len : ℕ) (hopc : opc = SPMI_CMD_EXT_READ ∨ opc = SPMI_CMD_EXT_READL) :
    appleSpmiReadResponse bus s value opc len =
      if s.respFifo.length + (1 + (len + 3) / 4) ≤ SPMI_QUEUE_DEPTH then
        some ({ s with bus := (bus.recv s.bus len).1,
                       respFifo := s.respFifo ++ ((value &&& 0xFFF) |||
                         ((recvAck (bus.recv s.bus len).2.2).toUInt32 <<< SPMI_RSP_ACK_SHIFT)) ::
                         recvWords (bus.recv s.bus len).2.1 len },
          (value &&& 0xFFF) ||| ((recvAck (bus.recv s.bus len).2.2).toUInt32 <<< SPMI_RSP_ACK_SHIFT))
      else none := by
  unfold appleSpmiReadResponse
  rw [if_neg (not_not.mpr hopc)]
  rcases bus.recv s.bus len with ⟨b, bytes, count⟩
  simp only
  generalize (value &&& 0xFFF ||| (recvAck count).toUInt32 <<< SPMI_RSP_ACK_SHIFT) = hdr
  by_cases hlt : s.respFifo.length < SPMI_QUEUE_DEPTH
  · -- the header fits; the data words follow when they all do
    have hpush : fifo32Push SPMI_QUEUE_DEPTH s.respFifo hdr = some (s.respFifo ++ [hdr]) := if_pos hlt
    rw [hpush, Option.bind_eq_bind, Option.bind_some,
      foldlM_fifo32Push _ _ (by simp; omega), length_recvWords]
    by_cases hfit : s.respFifo.length + (1 + (len + 3) / 4) ≤ SPMI_QUEUE_DEPTH
    · rw [if_pos (by simp; omega), if_pos hfit]
      simp
    · rw [if_neg (by simp; omega), if_neg hfit]
      rfl
  · have hpush : fifo32Push SPMI_QUEUE_DEPTH s.respFifo hdr = none := if_neg hlt
    rw [hpush, if_neg (by omega)]
    rfl

/-- A read response that goes through leaves a FIFO within its depth, and no write pending.
Source: `hw/spmi/apple_spmi.c` `apple_spmi_queue_reg_write`. Kind: L -/
theorem appleSpmiReadResponse_respFifo_le {bus : SpmiBus β} {s s' : AppleSPMIState β}
    {value v : UInt32} {opc : UInt8} {len : ℕ}
    (h : appleSpmiReadResponse bus s value opc len = some (s', v)) :
    s'.respFifo.length ≤ SPMI_QUEUE_DEPTH ∧ s'.data = s.data := by
  by_cases hopc : opc = SPMI_CMD_EXT_READ ∨ opc = SPMI_CMD_EXT_READL
  · rw [appleSpmiReadResponse_eq _ _ _ _ hopc] at h
    split_ifs at h with hfit
    · cases h
      refine ⟨?_, rfl⟩
      simp only [List.length_append, List.length_cons, length_recvWords]
      omega
  · unfold appleSpmiReadResponse at h
    rw [if_pos hopc] at h
    cases h

/-! ## Requests -/

/-- A read opcode lies outside the `0x1_` group, so a read request carries at least one byte.
Source: `hw/spmi/apple_spmi.c` `spmi_opcode`, `spmi_data_length`. Kind: L -/
theorem spmiDataLength_pos_of_read {req : UInt32}
    (h : spmiOpcode req = SPMI_CMD_EXT_READ ∨ spmiOpcode req = SPMI_CMD_EXT_READL) :
    0 < spmiDataLength req := by
  unfold spmiOpcode at h
  unfold spmiDataLength
  split_ifs at h ⊢ with hg
  · -- in the `0x1_` group the opcode is the low byte, whose high nibble is then `1`
    have hg' := congrArg UInt32.toNat hg
    have h' : (req &&& 0xff).toUInt8.toNat = 0x20 ∨ (req &&& 0xff).toUInt8.toNat = 0x38 := by
      rcases h with h | h <;> simp [h, SPMI_CMD_EXT_READ, SPMI_CMD_EXT_READL]
    simp only [UInt32.toNat_and, UInt32.toNat_shiftRight, UInt32.toNat_toUInt8] at hg' h'
    have h15 : ∀ x : ℕ, x &&& 15 = x % 16 := fun x => Nat.and_two_pow_sub_one_eq_mod x 4
    have h255 : ∀ x : ℕ, x &&& 255 = x % 256 := fun x => Nat.and_two_pow_sub_one_eq_mod x 8
    simp [h15, h255, Nat.shiftRight_eq_div_pow] at hg' h'
    omega
  · omega

/-- A read request the bus accepts, with no write pending: it aborts exactly when its header and
data words do not fit in the FIFO, and otherwise leaves them there with no write pending.
Source: `hw/spmi/apple_spmi.c` `apple_spmi_queue_reg_write`. Kind: L -/
theorem appleSpmiReqPush_read (bus : SpmiBus β) (s : AppleSPMIState β) {req : UInt32}
    (hread : spmiOpcode req = SPMI_CMD_EXT_READ ∨ spmiOpcode req = SPMI_CMD_EXT_READL)
    (haccept : (bus.startTransfer s.bus (SPMI_REQ_SID req) (spmiOpcode req) (spmiAddress req)).2 = 0)
    (hdata : s.data = none) :
    (appleSpmiReqPush bus s req = none ↔
      SPMI_QUEUE_DEPTH < s.respFifo.length + (1 + (spmiDataLength req + 3) / 4)) ∧
    ∀ s', appleSpmiReqPush bus s req = some s' → s'.data = none ∧
      s'.respFifo.length = s.respFifo.length + (1 + (spmiDataLength req + 3) / 4) := by
  have hnw : ¬ (spmiOpcode req = SPMI_CMD_EXT_WRITE ∨ spmiOpcode req = SPMI_CMD_EXT_WRITEL) := by
    rcases hread with h | h <;> rw [h] <;> decide
  have hlen0 : spmiDataLength req ≠ 0 := Nat.pos_iff_ne_zero.mp (spmiDataLength_pos_of_read hread)
  unfold appleSpmiReqPush
  simp only [if_neg hnw, haccept, hdata, ne_eq, not_true_eq_false, if_false, true_and, hlen0,
    not_false_eq_true, if_true]
  rw [appleSpmiReadResponse_eq _ _ _ _ hread]
  by_cases hfit : s.respFifo.length + (1 + (spmiDataLength req + 3) / 4) ≤ SPMI_QUEUE_DEPTH
  · -- the responses fit: with or without FINAL the FIFO grows by them and no write is pending
    rw [if_pos hfit]
    have hnot : ¬ SPMI_QUEUE_DEPTH < s.respFifo.length + (1 + (spmiDataLength req + 3) / 4) :=
      Nat.not_lt.mpr hfit
    simp only [Option.bind_eq_bind, Option.bind_some]
    split_ifs <;>
    · refine ⟨by simp [hnot], ?_⟩
      rintro s' ⟨⟩
      simp only [data_storeQueueReg, respFifo_storeQueueReg, List.length_append, List.length_cons,
        length_recvWords, true_and]
      omega
  · rw [if_neg hfit]
    simp [Nat.lt_of_not_le hfit]

/-! ## The FIFO's depth along a run -/

/-- A request word that goes through leaves the FIFO within its depth: every branch either leaves
the FIFO as it was or takes it from a read response that went through.
Source: `hw/spmi/apple_spmi.c` `apple_spmi_queue_reg_write`. Kind: L -/
theorem appleSpmiReqPush_respFifo_le {bus : SpmiBus β} {s s' : AppleSPMIState β} {value : UInt32}
    (h : appleSpmiReqPush bus s value = some s') (hq : s.respFifo.length ≤ SPMI_QUEUE_DEPTH) :
    s'.respFifo.length ≤ SPMI_QUEUE_DEPTH := by
  unfold appleSpmiReqPush at h
  simp only [Option.bind_eq_bind, Option.pure_def, Option.bind_some] at h
  split_ifs at h
  all_goals first
    | (cases h; simpa using hq)
    | (obtain ⟨x, hx, h⟩ := Option.bind_eq_some_iff.mp h
       have hb := (appleSpmiReadResponse_respFifo_le hx).1
       split_ifs at h <;> (cases h; simpa using hb))

/-- A data word that goes through leaves the FIFO within its depth.
Source: `hw/spmi/apple_spmi.c` `apple_spmi_queue_reg_write`. Kind: L -/
theorem appleSpmiDataPush_respFifo_le {bus : SpmiBus β} {s s' : AppleSPMIState β}
    {words : List UInt32} {value : UInt32} (h : appleSpmiDataPush bus s words value = some s')
    (hq : s.respFifo.length ≤ SPMI_QUEUE_DEPTH) : s'.respFifo.length ≤ SPMI_QUEUE_DEPTH := by
  unfold appleSpmiDataPush at h
  simp only [Option.bind_eq_bind, Option.pure_def] at h
  split_ifs at h
  · cases h
    simpa using hq
  -- the write is complete: its status word went through the push
  all_goals
    obtain ⟨q, hpush, h⟩ := Option.bind_eq_some_iff.mp h
    obtain ⟨hlt, rfl⟩ := fifo32Push_eq_some.mp hpush
    cases h
    simp only [respFifo_storeQueueReg, List.length_append, List.length_cons, List.length_nil]
    omega

/-- Every access that goes through leaves the FIFO within its depth.
Source: `hw/spmi/apple_spmi.c`. Kind: L -/
theorem spmiStep_respFifo_le {bus : SpmiBus β} {op : SpmiOp} {s : AppleSPMIState β}
    {r : AppleSPMIState β × List UInt32} (h : spmiStep bus op s = some r)
    (hq : s.respFifo.length ≤ SPMI_QUEUE_DEPTH) : r.1.respFifo.length ≤ SPMI_QUEUE_DEPTH := by
  cases op with
  | queueWrite addr value =>
    obtain ⟨s', hs', rfl⟩ := Option.map_eq_some_iff.mp h
    unfold appleSpmiQueueRegWrite at hs'
    split_ifs at hs'
    · split at hs'
      · exact appleSpmiReqPush_respFifo_le hs' hq
      · exact appleSpmiDataPush_respFifo_le hs' hq
    all_goals
      cases hs'
      simpa using hq
  | queueRead addr =>
    cases h
    unfold appleSpmiQueueRegRead
    split_ifs
    · -- a pop shortens the FIFO
      split
      · simpa using hq
      · rename_i v q hfifo
        rw [hfifo, List.length_cons] at hq
        simp only [respFifo_appleSpmiUpdateQueuesStatus]
        omega
    all_goals exact hq
  | controlWrite addr value =>
    cases h
    unfold appleSpmiControlWrite
    split_ifs <;> simp [hq]
  | controlRead addr =>
    cases h
    exact hq
  | reset =>
    cases h
    simp [appleSpmiReset]

/-- Along every run that does not abort, the FIFO never holds more than `SPMI_QUEUE_DEPTH` words.
Source: `hw/spmi/apple_spmi.c`. Kind: L -/
theorem spmiRun_respFifo_length_le (bus : SpmiBus β) (ops : List SpmiOp) (s : AppleSPMIState β)
    (hq : s.respFifo.length ≤ SPMI_QUEUE_DEPTH) {r : AppleSPMIState β × List UInt32}
    (hr : spmiRun bus ops s = some r) : r.1.respFifo.length ≤ SPMI_QUEUE_DEPTH :=
  (tracedRun_invariant (fun s : AppleSPMIState β => s.respFifo.length ≤ SPMI_QUEUE_DEPTH)
    (fun _ => True) (fun _ _ _ _ hs h => ⟨spmiStep_respFifo_le h hs, fun _ _ => trivial⟩)
    s r hq hr).1

/-! ## The status register -/

/-- `QUEUE_STATUS.RSP_EMPTY` reads `1` exactly when the response FIFO is empty.
Source: `hw/spmi/apple_spmi.c` `apple_spmi_queue_reg_read`. Kind: L -/
theorem appleSpmiQueueRegRead_status_rsp_empty (s : AppleSPMIState β) :
    (appleSpmiQueueRegRead s SPMI_QUEUE_STATUS).2 &&& SPMI_QUEUE_STATUS_RSP_EMPTY ≠ 0 ↔
      s.respFifo = [] := by
  have hrsp : ∀ k, Bit SPMI_QUEUE_STATUS_RSP_EMPTY k ↔ k = 24 :=
    fun k => bit_one_shiftLeft (n := 24) (by omega)
  have hreq : ∀ k, Bit SPMI_QUEUE_STATUS_REQ_EMPTY k ↔ k = 8 :=
    fun k => bit_one_shiftLeft (n := 8) (by omega)
  have hbit : ∀ x : UInt32, x &&& SPMI_QUEUE_STATUS_RSP_EMPTY ≠ 0 ↔ Bit x 24 := by
    intro x
    rw [ne_eq, and_eq_zero_iff]
    simp [hrsp]
  unfold appleSpmiQueueRegRead
  rw [if_neg (by decide), if_pos rfl, hbit]
  cases s.respFifo with
  | nil => simp [hrsp]
  | cons v q => simp [hrsp, hreq]

/-! ## Requests that outrun the pops -/

/-- `n` copies of a read request with no pop in between, on a bus that accepts it, from a state
with no write pending: once their header and data words exceed the room the FIFO has left, the
run aborts in `fifo32_push`. Induction on `n`: each request that fits adds its words and leaves
no write pending.
Source: `hw/spmi/apple_spmi.c` `apple_spmi_queue_reg_write`. Kind: L -/
theorem spmi_resp_fifo_overflows (bus : SpmiBus β) {req : UInt32}
    (hread : spmiOpcode req = SPMI_CMD_EXT_READ ∨ spmiOpcode req = SPMI_CMD_EXT_READL)
    (haccept : ∀ b, (bus.startTransfer b (SPMI_REQ_SID req) (spmiOpcode req) (spmiAddress req)).2 = 0)
    (n : ℕ) (s : AppleSPMIState β) (hdata : s.data = none)
    (hq : s.respFifo.length ≤ SPMI_QUEUE_DEPTH)
    (hn : SPMI_QUEUE_DEPTH < s.respFifo.length + n * (1 + (spmiDataLength req + 3) / 4)) :
    spmiRun bus (List.replicate n (.queueWrite SPMI_REQ_QUEUE_PUSH req)) s = none := by
  induction n generalizing s with
  | zero => omega
  | succ n ih =>
    obtain ⟨hnone, hsome⟩ := appleSpmiReqPush_read bus s hread (haccept s.bus) hdata
    have hstep : spmiStep bus (.queueWrite SPMI_REQ_QUEUE_PUSH req) s =
        (appleSpmiReqPush bus s req).map fun s => (s, []) := by
      simp [spmiStep, appleSpmiQueueRegWrite, hdata]
    unfold spmiRun
    rw [List.replicate_succ, tracedRun_cons, hstep]
    cases hpush : appleSpmiReqPush bus s req with
    | none => rfl
    | some s' =>
      obtain ⟨hdata', hlen'⟩ := hsome s' hpush
      -- this request fitted, so the FIFO stays within its depth; the rest still overflow
      have hfit : ¬ SPMI_QUEUE_DEPTH < s.respFifo.length + (1 + (spmiDataLength req + 3) / 4) :=
        fun h => by rw [← hnone] at h; simp [hpush] at h
      have hrest := ih s' hdata' (by omega) (by rw [hlen', Nat.succ_mul] at *; omega)
      unfold spmiRun at hrest
      simp [hrest]

/-- A bus whose device accepts every transfer and answers every read with no bytes.
Source: none: witness
Kind: D -/
def acceptingBus : SpmiBus Unit where
  startTransfer := fun b _ _ _ => (b, 0)
  recv := fun b _ => (b, [], 0)
  send := fun b _ _ => (b, 0)
  endTransfer := id

/-- The controller after a reset.
Source: none: witness
Kind: D -/
def spmiAfterReset : AppleSPMIState Unit :=
  appleSpmiReset ⟨fun _ => 0, fun _ => 0, [], none, 0, 0, false, ()⟩

/-- After reset, 86 eight-byte `EXT_READL` requests to `sid 0` (`0x803F`) abort: the first 85
leave 255 words, the 86th finds no room for its second word. -/
theorem spmi_resp_fifo_overflows_after_reset :
    (spmiOpcode 0x803F = SPMI_CMD_EXT_READ ∨ spmiOpcode 0x803F = SPMI_CMD_EXT_READL) ∧
    spmiAfterReset.data = none ∧ spmiAfterReset.respFifo.length ≤ SPMI_QUEUE_DEPTH ∧
    SPMI_QUEUE_DEPTH < spmiAfterReset.respFifo.length + 86 * (1 + (spmiDataLength 0x803F + 3) / 4) ∧
    spmiRun acceptingBus (List.replicate 86 (.queueWrite SPMI_REQ_QUEUE_PUSH 0x803F)) spmiAfterReset =
      none :=
  ⟨.inr (by decide), rfl, by decide, by decide,
    spmi_resp_fifo_overflows acceptingBus (.inr (by decide)) (fun _ => rfl) 86 spmiAfterReset rfl
      (by decide) (by decide)⟩

end QemuAppleSilicon.Spmi
