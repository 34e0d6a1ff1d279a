import QemuAppleSilicon.Qemu.Dma

/-!
# The SIO DMA endpoints (`hw/dma/apple_sio.c`)

The SIO coprocessor moves data for its clients through DMA endpoints. The guest queues a request
on an endpoint with `OP_MAP`: a scatter-gather list of guest segments read from its segment
table. A device model then moves bytes with `apple_sio_dma_read` (to-device endpoints) or
`apple_sio_dma_write` (from-device endpoints): each walks the queue from its head, maps the
request's segments into an iovec, copies between the iovec (from the request's cursor
`bytes_accessed`) and its buffer, advances the cursor, and answers and destroys a request once
its last byte has been moved (`OP_COMPLETE`, whose data is the cursor).

The iovec is a list of guest ranges `(base, len)`; a backed segment maps as one range, as
`dma_memory_map` does for RAM, and a segment that does not map makes the mapping loop retry for
ever. The caller's buffer is a byte memory. A call of `apple_sio_dma_read` or
`apple_sio_dma_write` is `none` when it does not return: the mapping loop spins, or the
direction assertion fails. The messages sent to `EP_CONTROL` are listed in order; their raw
layout, the RTKit transport and the lock are not modelled.
-/

namespace QemuAppleSilicon.Dma

open QemuAppleSilicon.Lib QemuAppleSilicon.Qemu

/-! ## Messages and requests -/

/-- Source: `hw/dma/apple_sio.c` `OP_CONFIGURE`. Kind: D -/
def OP_CONFIGURE : UInt8 := 5
/-- Source: `hw/dma/apple_sio.c` `OP_MAP`. Kind: D -/
def OP_MAP : UInt8 := 6
/-- Source: `hw/dma/apple_sio.c` `OP_QUERY`. Kind: D -/
def OP_QUERY : UInt8 := 7
/-- Source: `hw/dma/apple_sio.c` `OP_STOP`. Kind: D -/
def OP_STOP : UInt8 := 8
/-- Source: `hw/dma/apple_sio.c` `OP_ACK`. Kind: D -/
def OP_ACK : UInt8 := 101
/-- Source: `hw/dma/apple_sio.c` `OP_COMPLETE`. Kind: D -/
def OP_COMPLETE : UInt8 := 104
/-- Source: `hw/dma/apple_sio.c` `OP_QUERY_OK`. Kind: D -/
def OP_QUERY_OK : UInt8 := 105
/-- Source: `hw/dma/apple_sio.c` `OP_SYNC_ERROR`. Kind: D -/
def OP_SYNC_ERROR : UInt8 := 2
/-- Source: `hw/dma/apple_sio.c` `PARAM_DMA_SEGMENT_BASE`. Kind: D -/
def PARAM_DMA_SEGMENT_BASE : ℕ := 1

/-- `SIOMessage`, by its fields.
Source: `hw/dma/apple_sio.c` `SIOMessage`
Kind: D -/
structure SIOMessage where
  ep : UInt8
  tag : UInt8
  op : UInt8
  param : UInt8
  data : UInt32
  deriving DecidableEq, Repr

/-- `DMADirection`.
Source: `include/system/dma.h` `DMADirection`
Kind: D -/
inductive DMADirection where
  | DMA_DIRECTION_TO_DEVICE
  | DMA_DIRECTION_FROM_DEVICE
  deriving DecidableEq, Repr

/-- `SIODMASegment`: a guest range.
Source: `hw/dma/apple_sio.c` `SIODMASegment`
Kind: D -/
structure SIODMASegment where
  addr : UInt64
  len : UInt32
  deriving DecidableEq, Repr

/-- `SIODMAConfig`, the seven words `OP_CONFIGURE` reads.
Source: `hw/dma/apple_sio.c` `SIODMAConfig`
Kind: D -/
structure SIODMAConfig where
  xfer : UInt32
  timeout : UInt32
  fifo : UInt32
  trigger : UInt32
  depth : UInt32
  field14 : UInt32
  field18 : UInt32
  deriving DecidableEq, Repr

/-- `SIODMAMapRequest`: the segments, the iovec they map to (once `mapped`), the cursor
`bytes_accessed` and the tag of the `OP_MAP` message.
Source: `hw/dma/apple_sio.c` `SIODMAMapRequest`
Kind: D -/
structure SIODMAMapRequest where
  segments : List SIODMASegment
  iov : List (ℕ × ℕ)
  bytesAccessed : ℕ
  tag : UInt32
  mapped : Bool
  deriving DecidableEq, Repr

/-- `req->sgl.size`: the total length of the segments.
Source: `system/dma-helpers.c` `qemu_sglist_add`
Kind: D -/
def SIODMAMapRequest.sglSize (req : SIODMAMapRequest) : ℕ :=
  (req.segments.map fun sg => sg.len.toNat).sum

/-- `req->iov.size`: the total length of the iovec.
Source: `util/iov.c` `qemu_iovec_add`
Kind: D -/
def SIODMAMapRequest.iovSize (req : SIODMAMapRequest) : ℕ :=
  (req.iov.map Prod.snd).sum

/-- `AppleSIODMAEndpoint`.
Source: `hw/dma/apple_sio.c` `AppleSIODMAEndpoint`
Kind: D -/
structure AppleSIODMAEndpoint where
  config : SIODMAConfig
  direction : DMADirection
  id : ℕ
  requests : List SIODMAMapRequest

/-! ## Mapping and copying -/

/-- The loop of `apple_sio_map_dma` over one segment: nothing for an empty one, one range for a
backed one, and no end for one that `dma_memory_map` refuses (the loop retries it unchanged).
Source: `hw/dma/apple_sio.c` `apple_sio_map_dma`
Kind: D -/
def mapSegment (m : DmaMemory) (base len : ℕ) : Option (List (ℕ × ℕ)) :=
  if len = 0 then some []
  else if m.Backed base len then some [(base, len)]
  else none

/-- `apple_sio_map_dma(s, ep, req)`: a mapped request is kept; otherwise its segments are mapped
in order into a new iovec.
Source: `hw/dma/apple_sio.c` `apple_sio_map_dma`
Kind: D -/
def appleSioMapDma (m : DmaMemory) (req : SIODMAMapRequest) : Option SIODMAMapRequest :=
  if req.mapped then some req
  else (req.segments.mapM fun sg => mapSegment m sg.addr.toNat sg.len.toNat).map fun chunks =>
    { req with iov := chunks.flatten, mapped := true }

/-- `iov_to_buf_full(iov, iov_cnt, offset, buf, bytes)` from `done` bytes copied: the buffer
after the copy and the final `done`.
Source: `util/iov.c` `iov_to_buf_full`
Kind: D -/
def iovToBufFull (m : Mem) (buf : Mem) : List (ℕ × ℕ) → ℕ → ℕ → ℕ → Mem × ℕ
  | [], _, done, _ => (buf, done)
  | (base, len) :: iov, offset, done, bytes =>
    if offset ≠ 0 ∨ done < bytes then
      if offset < len then
        let n := min (len - offset) (bytes - done)
        iovToBufFull m (buf.write done (m.read (base + offset) n)) iov 0 (done + n) bytes
      else iovToBufFull m buf iov (offset - len) done bytes
    else (buf, done)

/-- `iov_from_buf_full(iov, iov_cnt, offset, buf, bytes)` from `done` bytes copied: the guest
memory after the copy and the final `done`.
Source: `util/iov.c` `iov_from_buf_full`
Kind: D -/
def iovFromBufFull (buf : Mem) (m : Mem) : List (ℕ × ℕ) → ℕ → ℕ → ℕ → Mem × ℕ
  | [], _, done, _ => (m, done)
  | (base, len) :: iov, offset, done, bytes =>
    if offset ≠ 0 ∨ done < bytes then
      if offset < len then
        let n := min (len - offset) (bytes - done)
        iovFromBufFull buf (m.write (base + offset) (buf.read done n)) iov 0 (done + n) bytes
      else iovFromBufFull buf m iov (offset - len) done bytes
    else (m, done)

/-! ## The transfer loop -/

/-- The state the transfer loop of `apple_sio_dma_read` and `apple_sio_dma_write` threads: guest
memory, the caller's buffer, the request queue, `actual_len` and the messages sent.
Source: `hw/dma/apple_sio.c` `apple_sio_dma_read`
Kind: D -/
structure SioDmaRun where
  mem : DmaMemory
  buffer : Mem
  requests : List SIODMAMapRequest
  actualLen : ℕ
  sent : List SIOMessage

/-- The completion `apple_sio_dma_writeback` sends for a request before destroying it.
Source: `hw/dma/apple_sio.c` `apple_sio_dma_writeback`
Kind: D -/
def appleSioDmaWriteback (epId : ℕ) (req : SIODMAMapRequest) : SIOMessage :=
  { ep := UInt8.ofNat epId, tag := UInt8.ofNat req.tag.toNat, op := OP_COMPLETE,
    param := (1 : UInt8) <<< 7, data := UInt32.ofNat req.bytesAccessed }

/-- The `while (len > actual_len)` loop shared by `apple_sio_dma_read` and `apple_sio_dma_write`,
with the copy between the request's iovec and the buffer as the parameter `copy` (memory,
buffer, iovec, offset, bytes to the new memory, buffer and count). `fuel` bounds the iterations;
`appleSioDmaRead` gives enough (`appleSioDmaLoop_isSome`).
Source: `hw/dma/apple_sio.c` `apple_sio_dma_read`, `apple_sio_dma_write`
Kind: D -/
def appleSioDmaLoop (copy : DmaMemory → Mem → List (ℕ × ℕ) → ℕ → ℕ → DmaMemory × Mem × ℕ)
    (epId len : ℕ) : ℕ → SioDmaRun → Option SioDmaRun
  | 0, _ => none
  | fuel + 1, r =>
    if r.actualLen < len then
      match r.requests with
      | [] => some r
      | req :: reqs =>
        match appleSioMapDma r.mem req with
        | none => none
        | some req =>
          match copy r.mem r.buffer req.iov req.bytesAccessed len with
          | (mem, buffer, iovecLen) =>
            let req := { req with bytesAccessed := req.bytesAccessed + iovecLen }
            let r' : SioDmaRun :=
              if req.iovSize ≤ req.bytesAccessed then
                { r with mem := mem, buffer := buffer, requests := reqs,
                         sent := r.sent ++ [appleSioDmaWriteback epId req] }
              else { r with mem := mem, buffer := buffer, requests := req :: reqs }
            appleSioDmaLoop copy epId len fuel { r' with actualLen := r.actualLen + iovecLen }
    else some r

/-- The copy of `apple_sio_dma_read`: `qemu_iovec_to_buf(&req->iov, req->bytes_accessed, buffer,
len)`, into the buffer from its start.
Source: `hw/dma/apple_sio.c` `apple_sio_dma_read`
Kind: D -/
def sioReadCopy (m : DmaMemory) (buffer : Mem) (iov : List (ℕ × ℕ)) (offset len : ℕ) :
    DmaMemory × Mem × ℕ :=
  match iovToBufFull m.bytes buffer iov offset 0 len with
  | (buffer, n) => (m, buffer, n)

/-- The copy of `apple_sio_dma_write`: `qemu_iovec_from_buf(&req->iov, req->bytes_accessed,
buffer, len)`, from the buffer's start.
Source: `hw/dma/apple_sio.c` `apple_sio_dma_write`
Kind: D -/
def sioWriteCopy (m : DmaMemory) (buffer : Mem) (iov : List (ℕ × ℕ)) (offset len : ℕ) :
    DmaMemory × Mem × ℕ :=
  match iovFromBufFull buffer m.bytes iov offset 0 len with
  | (bytes, n) => ({ m with bytes := bytes }, buffer, n)

/-- One of `apple_sio_dma_read` and `apple_sio_dma_write` on endpoint `ep`: the direction
assertion, then the loop from `actual_len = 0`; the endpoint's queue, the buffer, the count
returned, the messages sent and guest memory after the call.
Source: `hw/dma/apple_sio.c` `apple_sio_dma_read`, `apple_sio_dma_write`
Kind: D -/
def appleSioDmaTransfer (copy : DmaMemory → Mem → List (ℕ × ℕ) → ℕ → ℕ → DmaMemory × Mem × ℕ)
    (dir : DMADirection) (m : DmaMemory) (ep : AppleSIODMAEndpoint) (buffer : Mem) (len : ℕ) :
    Option (AppleSIODMAEndpoint × SioDmaRun) :=
  if ep.direction = dir then
    (appleSioDmaLoop copy ep.id len (ep.requests.length + 2) ⟨m, buffer, ep.requests, 0, []⟩).map
      fun r => ({ ep with requests := r.requests }, r)
  else none

/-- `apple_sio_dma_read(ep, buffer, len)`.
Source: `hw/dma/apple_sio.c` `apple_sio_dma_read`
Kind: D -/
def appleSioDmaRead (m : DmaMemory) (ep : AppleSIODMAEndpoint) (buffer : Mem) (len : ℕ) :
    Option (AppleSIODMAEndpoint × SioDmaRun) :=
  appleSioDmaTransfer sioReadCopy .DMA_DIRECTION_TO_DEVICE m ep buffer len

/-- `apple_sio_dma_write(ep, buffer, len)`.
Source: `hw/dma/apple_sio.c` `apple_sio_dma_write`
Kind: D -/
def appleSioDmaWrite (m : DmaMemory) (ep : AppleSIODMAEndpoint) (buffer : Mem) (len : ℕ) :
    Option (AppleSIODMAEndpoint × SioDmaRun) :=
  appleSioDmaTransfer sioWriteCopy .DMA_DIRECTION_FROM_DEVICE m ep buffer len

/-- `apple_sio_dma_remaining(ep)`.
Source: `hw/dma/apple_sio.c` `apple_sio_dma_remaining`
Kind: D -/
def appleSioDmaRemaining (ep : AppleSIODMAEndpoint) : ℕ :=
  (ep.requests.map fun req => req.sglSize - req.bytesAccessed).sum

/-! ## The endpoint messages -/

/-- The segment table entries: `addr` and `len` of each, little-endian, twelve bytes apart.
Source: `hw/dma/apple_sio.c` `SIODMASegment`
Kind: D -/
def segmentsOfBytes (bs : List UInt8) (count : ℕ) : List SIODMASegment :=
  (List.range count).map fun i =>
    { addr := UInt64.ofNat (leValue ((bs.drop (12 * i)).take 8)),
      len := UInt32.ofNat (leValue ((bs.drop (12 * i + 8)).take 4)) }

/-- The seven little-endian words of an `SIODMAConfig`.
Source: `hw/dma/apple_sio.c` `SIODMAConfig`
Kind: D -/
def configOfBytes (bs : List UInt8) : SIODMAConfig :=
  let w := fun i => UInt32.ofNat (leValue ((bs.drop (4 * i)).take 4))
  ⟨w 0, w 1, w 2, w 3, w 4, w 5, w 6⟩

/-- `apple_sio_stop(s, ep)`: every request destroyed.
Source: `hw/dma/apple_sio.c` `apple_sio_stop`
Kind: D -/
def appleSioStop (ep : AppleSIODMAEndpoint) : AppleSIODMAEndpoint :=
  { ep with requests := [] }

/-- `apple_sio_dma(s, ep, m)` on a DMA endpoint, given the parameter table: the endpoint after
the message and the reply, if one is sent. `OP_MAP` reads the segment count at `0x3C` and the
segments at `0x48` of the table entry `params[PARAM_DMA_SEGMENT_BASE] << 12 + data * 12`, and
queues the request at the tail.
Source: `hw/dma/apple_sio.c` `apple_sio_dma`
Kind: D -/
def appleSioDma (params : ℕ → UInt32) (m : DmaMemory) (ep : AppleSIODMAEndpoint)
    (msg : SIOMessage) : AppleSIODMAEndpoint × Option SIOMessage :=
  let reply : SIOMessage := { ep := msg.ep, tag := msg.tag, op := 0, param := 0, data := 0 }
  -- `params[...] << 12` is computed in 32 bits before the 64-bit sum
  let base := (params PARAM_DMA_SEGMENT_BASE <<< 12).toNat + msg.data.toNat * 12
  if msg.op = OP_CONFIGURE then
    match dmaMemoryRead m base 28 with
    | none => (ep, none)
    | some bs => ({ ep with config := configOfBytes bs }, some { reply with op := OP_ACK })
  else if msg.op = OP_MAP then
    match dmaMemoryRead m (base + 0x3C) 4 with
    | none => (ep, some { reply with op := OP_SYNC_ERROR })
    | some cnt =>
      let count := leValue cnt
      match dmaMemoryRead m (base + 0x48) (count * 12) with
      | none => (ep, some { reply with op := OP_SYNC_ERROR })
      | some bs =>
        let req : SIODMAMapRequest :=
          { segments := segmentsOfBytes bs count, iov := [], bytesAccessed := 0,
            tag := msg.tag.toUInt32, mapped := false }
        ({ ep with requests := ep.requests ++ [req] }, some { reply with op := OP_ACK })
  else if msg.op = OP_QUERY then
    if ep.requests = [] then (ep, some { reply with op := OP_SYNC_ERROR })
    else (ep, some { reply with op := OP_QUERY_OK,
                                data := UInt32.ofNat (ep.requests.map (·.bytesAccessed)).sum })
  else if msg.op = OP_STOP then (appleSioStop ep, some { reply with op := OP_ACK })
  else (ep, some { reply with op := OP_SYNC_ERROR })

end QemuAppleSilicon.Dma
