import QemuAppleSilicon.Dma.SioStream
import QemuAppleSilicon.Lib.TracedRun

/-!
# The SIO device: its messages, its transfers and the order of its completions

`apple_sio_handle_endpoint` takes the guest's messages: those for `EP_CONTROL` and `EP_PERF` read
and set the parameter table (`apple_sio_control`), those for a DMA endpoint go to
`apple_sio_dma`, and those for an endpoint past `SIO_NUM_EPS` are dropped. Device models move
data through the endpoints `apple_sio_get_endpoint` hands them, with `apple_sio_dma_read` and
`apple_sio_dma_write`, which answer each request they finish with an `OP_COMPLETE`;
`apple_sio_reset_hold` stops every endpoint. `sioStep` is one of these inputs on the device.

A queued request is `Sound` when its cursor is within its length and its iovec, once mapped, has
that length; `AppleSIOState.WellFormed` asks it of every request, and that each endpoint knows
its own number, as `apple_sio_realize` sets it.

* `appleSioDmaLoop_spec` — the transfer loop on sound requests: it answers the first `k`
  requests of the queue, each with one `OP_COMPLETE` that carries its tag and its whole length,
  keeps the others in order, and takes from the queue's remaining bytes exactly what it counts.
  It rests on `appleSioMapDma_sound`: mapping a request gives it an iovec of its length.
* `sio_dma_transfer_completes_prefix` — so `apple_sio_dma_read` and `apple_sio_dma_write` on an
  endpoint whose requests map return, and do that; they stop once they have counted `len` bytes
  or the queue is empty, and the count may pass `len`.
* `sioStep_sublist` — one input keeps the device well formed, and what an endpoint completes,
  followed by what it then holds, is a sublist of what it held followed by the `OP_MAP` the
  input brought; `sio_completions_follow_maps` carries this over every run with the library's
  `tracedRun_sublist`.
-/

namespace QemuAppleSilicon.Dma

open QemuAppleSilicon.Lib QemuAppleSilicon.Qemu

/-! ## Messages -/

/-- Source: `hw/dma/apple_sio.c` `SIO_NUM_EPS`. Kind: D -/
def SIO_NUM_EPS : ℕ := 0xDB
/-- Source: `hw/dma/apple_sio.c` `OP_GET_PARAM`. Kind: D -/
def OP_GET_PARAM : UInt8 := 2
/-- Source: `hw/dma/apple_sio.c` `OP_SET_PARAM`. Kind: D -/
def OP_SET_PARAM : UInt8 := 3
/-- Source: `hw/dma/apple_sio.c` `OP_GET_PARAM_RESP`. Kind: D -/
def OP_GET_PARAM_RESP : UInt8 := 103
/-- Source: `hw/dma/apple_sio.c` `EP_CONTROL`. Kind: D -/
def EP_CONTROL : UInt8 := 0
/-- Source: `hw/dma/apple_sio.c` `EP_PERF`. Kind: D -/
def EP_PERF : UInt8 := 3
/-- Source: `hw/dma/apple_sio.c` `PARAM_PROTOCOL`. Kind: D -/
def PARAM_PROTOCOL : ℕ := 0

/-- `m.raw = msg`: the fields of the packed union, from the low byte up.
Source: `hw/dma/apple_sio.c` `SIOMessage`
Kind: D -/
def SIOMessage.ofRaw (raw : UInt64) : SIOMessage :=
  ⟨raw.toUInt8, (raw >>> 8).toUInt8, (raw >>> 16).toUInt8, (raw >>> 24).toUInt8, (raw >>> 32).toUInt32⟩

/-- `apple_sio_control(s, ep, m)`: the parameter table after the message, and the reply, which
is always sent. The table has `0x100` entries and `m->param` is a byte, so every index is in it.
Source: `hw/dma/apple_sio.c` `apple_sio_control`
Kind: D -/
def appleSioControl (params : ℕ → UInt32) (m : SIOMessage) : (ℕ → UInt32) × SIOMessage :=
  let reply : SIOMessage := { ep := m.ep, tag := m.tag, op := 0, param := 0, data := 0 }
  if m.op = OP_GET_PARAM then (params, { reply with data := params m.param.toNat, op := OP_GET_PARAM_RESP })
  else if m.op = OP_SET_PARAM then (Function.update params m.param.toNat m.data, { reply with op := OP_ACK })
  else (params, reply)

/-! ## The device -/

/-- The state of `AppleSIOState` the messages and transfers use: the endpoints, the parameter
table and guest memory as the DMA address space sees it.
Source: `hw/dma/apple_sio.c` `AppleSIOState`
Kind: D -/
structure AppleSIOState where
  eps : ℕ → AppleSIODMAEndpoint
  params : ℕ → UInt32
  mem : DmaMemory

/-- `apple_sio_handle_endpoint(sio, ep, msg)`: the device after the message and the messages it
sends to `EP_CONTROL`. The RTKit endpoint `ep` is not read; the message's own `ep` field routes
it.
Source: `hw/dma/apple_sio.c` `apple_sio_handle_endpoint`
Kind: D -/
def appleSioHandleEndpoint (s : AppleSIOState) (msg : UInt64) : AppleSIOState × List SIOMessage :=
  let m := SIOMessage.ofRaw msg
  if m.ep = EP_CONTROL ∨ m.ep = EP_PERF then
    let r := appleSioControl s.params m
    ({ s with params := r.1 }, [r.2])
  else if SIO_NUM_EPS ≤ m.ep.toNat then (s, [])
  else
    let r := appleSioDma s.params s.mem (s.eps m.ep.toNat) m
    ({ s with eps := Function.update s.eps m.ep.toNat r.1 }, r.2.toList)

/-- `apple_sio_get_endpoint(s, ep)`: the index of the endpoint, `none` for `NULL`.
Source: `hw/dma/apple_sio.c` `apple_sio_get_endpoint`
Kind: D -/
def appleSioGetEndpoint (ep : ℕ) : Option ℕ :=
  if ep ≤ EP_PERF.toNat ∨ SIO_NUM_EPS ≤ ep then none else some ep

/-- `apple_sio_reset_hold`: the parameter table cleared but for the protocol, and every endpoint
stopped with its configuration cleared.
Source: `hw/dma/apple_sio.c` `apple_sio_reset_hold`
Kind: D -/
def appleSioResetHold (s : AppleSIOState) : AppleSIOState :=
  { s with
    params := Function.update (fun _ => 0) PARAM_PROTOCOL (s.params PARAM_PROTOCOL)
    eps := fun i =>
      if i < SIO_NUM_EPS then { appleSioStop (s.eps i) with config := ⟨0, 0, 0, 0, 0, 0, 0⟩ }
      else s.eps i }

/-- What the device does outside itself: a message to the guest on `EP_CONTROL`, or the count
and buffer a transfer returns to the device model that asked for it.
Source: `hw/dma/apple_sio.c` (`apple_rtkit_send_user_msg`, `apple_sio_dma_read`)
Kind: D -/
inductive SIOEvent
  | send (m : SIOMessage)
  | transferred (count : ℕ) (buffer : Mem)

/-- What can happen to the device: a message of the guest's driver, a transfer of a device model
through the endpoint `apple_sio_get_endpoint` gave it, a store of the guest into its memory (its
segment tables and buffers), a reset.
Source: none: the inputs of `hw/dma/apple_sio.c`
Kind: D -/
inductive SIOInput
  | msg (raw : UInt64)
  | dmaRead (ep : ℕ) (buffer : Mem) (len : ℕ)
  | dmaWrite (ep : ℕ) (buffer : Mem) (len : ℕ)
  | guestWrite (addr : ℕ) (bytes : List UInt8)
  | reset

/-- A transfer through the pointer `apple_sio_get_endpoint(s, ep)` returned: `none` when it is
`NULL` and dereferenced, or when the transfer does not return.
Source: `hw/dma/apple_sio.c` `apple_sio_dma_read`, `apple_sio_dma_write`
Kind: D -/
def sioDeviceTransfer
    (transfer : DmaMemory → AppleSIODMAEndpoint → Mem → ℕ → Option (AppleSIODMAEndpoint × SioDmaRun))
    (s : AppleSIOState) (ep : ℕ) (buffer : Mem) (len : ℕ) : Option (AppleSIOState × List SIOEvent) :=
  match appleSioGetEndpoint ep with
  | none => none
  | some i => (transfer s.mem (s.eps i) buffer len).map fun r =>
      ({ s with eps := Function.update s.eps i r.1, mem := r.2.mem },
        r.2.sent.map .send ++ [.transferred r.2.actualLen r.2.buffer])

/-- One input.
Source: none: the inputs of `hw/dma/apple_sio.c`
Kind: D -/
def sioStep : SIOInput → AppleSIOState → Option (AppleSIOState × List SIOEvent)
  | .msg raw, s => some ((appleSioHandleEndpoint s raw).1, (appleSioHandleEndpoint s raw).2.map .send)
  | .dmaRead ep buffer len, s => sioDeviceTransfer appleSioDmaRead s ep buffer len
  | .dmaWrite ep buffer len, s => sioDeviceTransfer appleSioDmaWrite s ep buffer len
  | .guestWrite a bs, s => some ({ s with mem := { s.mem with bytes := s.mem.bytes.write a bs } }, [])
  | .reset, s => some (appleSioResetHold s, [])

/-! ## Sound requests -/

/-- A request whose cursor is within its length and whose iovec, once mapped, has that length.
Source: `hw/dma/apple_sio.c` `SIODMAMapRequest`
Kind: D -/
structure SIODMAMapRequest.Sound (req : SIODMAMapRequest) : Prop where
  cursor : req.bytesAccessed ≤ req.sglSize
  iov : req.mapped = true → req.iovSize = req.sglSize

/-- Source: `hw/dma/apple_sio.c` `SIODMAMapRequest`. Kind: L -/
instance (req : SIODMAMapRequest) : Decidable req.Sound :=
  decidable_of_iff (req.bytesAccessed ≤ req.sglSize ∧ (req.mapped = true → req.iovSize = req.sglSize))
    ⟨fun ⟨h₁, h₂⟩ => ⟨h₁, h₂⟩, fun h => ⟨h.cursor, h.iov⟩⟩

/-- What the guest knows of a request: the tag of its `OP_MAP` and its length.
Source: `hw/dma/apple_sio.c` `SIODMAMapRequest`
Kind: D -/
def SIODMAMapRequest.summary (req : SIODMAMapRequest) : UInt32 × ℕ := (req.tag, req.sglSize)

/-- The `OP_COMPLETE` endpoint `epId` sends for a request of tag and length `p` moved whole.
Source: `hw/dma/apple_sio.c` `apple_sio_dma_writeback`
Kind: D -/
def sioComplete (epId : ℕ) (p : UInt32 × ℕ) : SIOMessage :=
  { ep := UInt8.ofNat epId, tag := UInt8.ofNat p.1.toNat, op := OP_COMPLETE,
    param := (1 : UInt8) <<< 7, data := UInt32.ofNat p.2 }

/-- The bytes the requests of a queue have left, what `apple_sio_dma_remaining` adds up.
Source: `hw/dma/apple_sio.c` `apple_sio_dma_remaining`
Kind: D -/
def queueRemaining (reqs : List SIODMAMapRequest) : ℕ :=
  (reqs.map fun req => req.sglSize - req.bytesAccessed).sum

@[simp] theorem sglSize_setBytesAccessed (req : SIODMAMapRequest) (k : ℕ) :
    ({ req with bytesAccessed := k } : SIODMAMapRequest).sglSize = req.sglSize := rfl

/-- Mapping one segment gives an iovec of the segment's length.
Source: `hw/dma/apple_sio.c` `apple_sio_map_dma`
Kind: L -/
theorem mapSegment_sum {m : DmaMemory} {base len : ℕ} {c : List (ℕ × ℕ)}
    (h : mapSegment m base len = some c) : (c.map Prod.snd).sum = len := by
  unfold mapSegment at h
  split_ifs at h with h₀
  · cases h
    simp [h₀]
  · cases h
    simp

/-- Mapping the segments in order gives an iovec of their total length. The induction is on the
segments.
Source: `hw/dma/apple_sio.c` `apple_sio_map_dma`
Kind: L -/
theorem mapM_mapSegment_sum (m : DmaMemory) :
    ∀ (sgs : List SIODMASegment) (chunks : List (List (ℕ × ℕ))),
      sgs.mapM (fun sg => mapSegment m sg.addr.toNat sg.len.toNat) = some chunks →
      (chunks.flatten.map Prod.snd).sum = (sgs.map fun sg => sg.len.toNat).sum
  | [], chunks, h => by
    cases h
    rfl
  | sg :: sgs, chunks, h => by
    rw [List.mapM_cons] at h
    obtain ⟨c, hc, h⟩ := Option.bind_eq_some_iff.mp h
    obtain ⟨cs, hcs, h⟩ := Option.bind_eq_some_iff.mp h
    cases h
    rw [List.flatten_cons, List.map_append, List.sum_append, mapSegment_sum hc,
      mapM_mapSegment_sum m sgs cs hcs, List.map_cons, List.sum_cons]

/-- Mapping a sound request gives it an iovec of its length, and keeps its cursor, tag and
segments.
Source: `hw/dma/apple_sio.c` `apple_sio_map_dma`
Kind: L -/
theorem appleSioMapDma_sound {m : DmaMemory} {req req' : SIODMAMapRequest} (hs : req.Sound)
    (h : appleSioMapDma m req = some req') :
    req'.iovSize = req'.sglSize ∧ req'.bytesAccessed = req.bytesAccessed ∧ req'.summary = req.summary := by
  unfold appleSioMapDma at h
  split_ifs at h with hm
  · cases h
    exact ⟨hs.iov hm, rfl, rfl⟩
  · obtain ⟨chunks, hchunks, rfl⟩ := Option.map_eq_some_iff.mp h
    exact ⟨mapM_mapSegment_sum m req.segments chunks hchunks, rfl, rfl⟩

/-! ## The transfer loop -/

section Loop

variable {copy : DmaMemory → Mem → List (ℕ × ℕ) → ℕ → ℕ → DmaMemory × Mem × ℕ} {epId len : ℕ}

/-- **The transfer loop answers a prefix of the queue.** On sound requests, a run of the loop
that returns has sent, after what it had sent, one `OP_COMPLETE` for each of the first `k`
requests, with its tag and whole length; the requests left are the others, in order and sound;
what it counted is what left the queue's remaining bytes; and it stopped at `len` or on an empty
queue. The induction is on the fuel, with one case per way an iteration ends.
Source: `hw/dma/apple_sio.c` `apple_sio_dma_read`, `apple_sio_dma_write`
Kind: L -/
theorem appleSioDmaLoop_spec (hc : CopyCounts copy) :
    ∀ (fuel : ℕ) (r r' : SioDmaRun), appleSioDmaLoop copy epId len fuel r = some r' →
      (∀ req ∈ r.requests, req.Sound) →
      ∃ k, r'.sent = r.sent ++ ((r.requests.map (·.summary)).take k).map (sioComplete epId) ∧
        r'.requests.map (·.summary) = (r.requests.map (·.summary)).drop k ∧
        (∀ req ∈ r'.requests, req.Sound) ∧
        r'.actualLen + queueRemaining r'.requests = r.actualLen + queueRemaining r.requests ∧
        (len ≤ r'.actualLen ∨ r'.requests = [])
  | 0, _, _, h, _ => by cases h
  | fuel + 1, r, r', h, hs => by
    by_cases hlt : r.actualLen < len
    · cases hq : r.requests with
      | nil =>
        rw [appleSioDmaLoop_of_nil hq] at h
        cases h
        exact ⟨0, by simp, by simp [hq], hs, by rw [hq], Or.inr hq⟩
      | cons req reqs =>
        have hreq : req.Sound := hs req (by rw [hq]; exact List.mem_cons_self)
        have hreqs : ∀ x ∈ reqs, x.Sound := fun x hx => hs x (by rw [hq]; exact List.mem_cons_of_mem _ hx)
        cases hmap : appleSioMapDma r.mem req with
        | none =>
          rw [appleSioDmaLoop, if_pos hlt, hq] at h
          simp only [hmap] at h
          cases h
        | some req' =>
          obtain ⟨hiov, hcur, hsum⟩ := appleSioMapDma_sound hreq hmap
          rcases hcopy : copy r.mem r.buffer req'.iov req'.bytesAccessed len with ⟨mem, buffer, n⟩
          -- the copy moves what is left of the request, up to `len`
          have hn : n = min len (req'.iovSize - req'.bytesAccessed) := by
            rw [SIODMAMapRequest.iovSize, ← hc.count r.mem r.buffer req'.iov req'.bytesAccessed len, hcopy]
          have hsize : req'.sglSize = req.sglSize := congrArg Prod.snd hsum
          have hleft : req'.bytesAccessed ≤ req'.sglSize := by rw [hcur, hsize]; exact hreq.cursor
          by_cases hdone : req'.iovSize ≤ req'.bytesAccessed + n
          · -- the head request is finished and answered with its whole length
            rw [appleSioDmaLoop_complete hlt hq hmap hcopy hdone] at h
            obtain ⟨k, hsent, hsum', hs', hrem, hend⟩ := appleSioDmaLoop_spec hc fuel _ r' h hreqs
            have hmoved : n = req.sglSize - req.bytesAccessed := by omega
            have hwb : appleSioDmaWriteback epId { req' with bytesAccessed := req'.bytesAccessed + n } =
                sioComplete epId req.summary := by
              have hb : req'.bytesAccessed + n = req.sglSize := by omega
              have ht : req'.tag = req.tag := congrArg Prod.fst hsum
              simp only [appleSioDmaWriteback, sioComplete, SIODMAMapRequest.summary, hb, ht]
            refine ⟨k + 1, ?_, ?_, hs', ?_, hend⟩
            · rw [hsent, hwb]
              simp
            · rw [hsum']
              simp
            · rw [hrem]
              simp only [queueRemaining, List.map_cons, List.sum_cons]
              omega
          · -- the head request keeps its place with its cursor advanced
            rw [appleSioDmaLoop_incomplete hlt hq hmap hcopy (by omega)] at h
            have hsound : ∀ x ∈ ({ req' with bytesAccessed := req'.bytesAccessed + n } :: reqs), x.Sound := by
              intro x hx
              rcases List.mem_cons.mp hx with rfl | hx
              · refine ⟨?_, fun _ => hiov⟩
                show req'.bytesAccessed + n ≤ req'.sglSize
                omega
              · exact hreqs x hx
            obtain ⟨k, hsent, hsum', hs', hrem, hend⟩ := appleSioDmaLoop_spec hc fuel _ r' h hsound
            have hhead : ({ req' with bytesAccessed := req'.bytesAccessed + n } :: reqs).map (·.summary) =
                (req :: reqs).map (·.summary) := by
              rw [List.map_cons, List.map_cons, ← hsum]
              rfl
            have hmoved : n ≤ req.sglSize - req.bytesAccessed := by omega
            refine ⟨k, ?_, ?_, hs', ?_, hend⟩
            · rw [hsent, hhead]
            · rw [hsum', hhead]
            · rw [hrem]
              simp only [queueRemaining, List.map_cons, List.sum_cons, sglSize_setBytesAccessed, hsize]
              omega
    · rw [appleSioDmaLoop_of_le (by omega)] at h
      cases h
      exact ⟨0, by simp, by simp, hs, rfl, Or.inl (by omega)⟩

end Loop

/-- A transfer that returns keeps the endpoint's number, and its loop does what
`appleSioDmaLoop_spec` says from an empty count and nothing sent.
Source: `hw/dma/apple_sio.c` `apple_sio_dma_read`, `apple_sio_dma_write`
Kind: L -/
theorem appleSioDmaTransfer_spec
    {copy : DmaMemory → Mem → List (ℕ × ℕ) → ℕ → ℕ → DmaMemory × Mem × ℕ} (hc : CopyCounts copy)
    {dir : DMADirection} {m : DmaMemory} {ep ep' : AppleSIODMAEndpoint} {buffer : Mem} {len : ℕ}
    {r : SioDmaRun} (hs : ∀ req ∈ ep.requests, req.Sound)
    (h : appleSioDmaTransfer copy dir m ep buffer len = some (ep', r)) :
    ep'.id = ep.id ∧ ∃ k, r.sent = ((ep.requests.map (·.summary)).take k).map (sioComplete ep.id) ∧
      ep'.requests.map (·.summary) = (ep.requests.map (·.summary)).drop k ∧
      (∀ req ∈ ep'.requests, req.Sound) ∧
      r.actualLen + queueRemaining ep'.requests = queueRemaining ep.requests ∧
      (len ≤ r.actualLen ∨ ep'.requests = []) := by
  unfold appleSioDmaTransfer at h
  split_ifs at h
  obtain ⟨r₀, h₀, hr⟩ := Option.map_eq_some_iff.mp h
  obtain ⟨rfl, rfl⟩ := Prod.mk.inj hr
  obtain ⟨k, hsent, hsum, hs', hrem, hend⟩ := appleSioDmaLoop_spec hc _ _ r₀ h₀ hs
  exact ⟨rfl, k, by simpa using hsent, hsum, hs', by simpa using hrem, hend⟩

/-- **A transfer answers a prefix of the queue.** `apple_sio_dma_read` or `apple_sio_dma_write`
(any copy that moves what the iovec holds past the cursor, up to `len`) on an endpoint of its
direction whose requests are sound and map returns. It answers the first `k` requests of the
queue in order, each with one `OP_COMPLETE` carrying the endpoint, its tag and its whole length,
and keeps the others in order. What it returns is exactly what left the endpoint's
`apple_sio_dma_remaining`, and it stops only once that reaches `len`, or on an empty queue; the
count may pass `len`.
Source: `hw/dma/apple_sio.c` `apple_sio_dma_read`, `apple_sio_dma_write`
Kind: P -/
theorem sio_dma_transfer_completes_prefix
    {copy : DmaMemory → Mem → List (ℕ × ℕ) → ℕ → ℕ → DmaMemory × Mem × ℕ} (hc : CopyCounts copy)
    {dir : DMADirection} (m : DmaMemory) (ep : AppleSIODMAEndpoint) (hdir : ep.direction = dir)
    (hmap : ∀ req ∈ ep.requests, (appleSioMapDma m req).isSome) (hs : ∀ req ∈ ep.requests, req.Sound)
    (buffer : Mem) (len : ℕ) :
    ∃ ep' r, appleSioDmaTransfer copy dir m ep buffer len = some (ep', r) ∧ ∃ k,
      r.sent = ((ep.requests.map (·.summary)).take k).map (sioComplete ep.id) ∧
      ep'.requests.map (·.summary) = (ep.requests.map (·.summary)).drop k ∧
      r.actualLen + appleSioDmaRemaining ep' = appleSioDmaRemaining ep ∧
      (len ≤ r.actualLen ∨ ep'.requests = []) := by
  obtain ⟨⟨ep', r⟩, h⟩ := Option.isSome_iff_exists.mp (appleSioDmaTransfer_isSome hc hdir hmap buffer len)
  obtain ⟨-, k, hsent, hsum, -, hrem, hend⟩ := appleSioDmaTransfer_spec hc hs h
  exact ⟨ep', r, h, k, hsent, hsum, hrem, hend⟩

/-- Guest memory all backed, holding zeros. -/
def sioZeroMemory : DmaMemory := ⟨fun _ => 0, fun _ => true⟩

/-- A to-device endpoint, number 4, with a request of 4 bytes at `0x1000` (tag 1) and one of 8
bytes at `0x2000` (tag 2), as `OP_MAP` queues them. -/
def sioTwoMapsEndpoint : AppleSIODMAEndpoint :=
  { config := ⟨0, 0, 0, 0, 0, 0, 0⟩, direction := .DMA_DIRECTION_TO_DEVICE, id := 4,
    requests := [⟨[⟨0x1000, 4⟩], [], 0, 1, false⟩, ⟨[⟨0x2000, 8⟩], [], 0, 2, false⟩] }

/-- A read of 6 bytes from `sioTwoMapsEndpoint`.
Source: `hw/dma/apple_sio.c` `apple_sio_dma_read`
Kind: L -/
theorem sio_dma_transfer_completes_prefix_two_maps :
    ∃ ep' r, appleSioDmaTransfer sioReadCopy .DMA_DIRECTION_TO_DEVICE sioZeroMemory sioTwoMapsEndpoint
        (fun _ => 0) 6 = some (ep', r) ∧ ∃ k,
      r.sent = ((sioTwoMapsEndpoint.requests.map (·.summary)).take k).map (sioComplete sioTwoMapsEndpoint.id) ∧
      ep'.requests.map (·.summary) = (sioTwoMapsEndpoint.requests.map (·.summary)).drop k ∧
      r.actualLen + appleSioDmaRemaining ep' = appleSioDmaRemaining sioTwoMapsEndpoint ∧
      (6 ≤ r.actualLen ∨ ep'.requests = []) :=
  sio_dma_transfer_completes_prefix copyCounts_sioReadCopy sioZeroMemory sioTwoMapsEndpoint rfl
    (by decide) (by decide) _ _

/-! ## The order of completions -/

/-- The device as `apple_sio_realize` leaves it and every input keeps it: each endpoint below
`SIO_NUM_EPS` knows its own number, and every queued request is sound.
Source: `hw/dma/apple_sio.c` `apple_sio_realize`
Kind: D -/
structure AppleSIOState.WellFormed (s : AppleSIOState) : Prop where
  id : ∀ i < SIO_NUM_EPS, (s.eps i).id = i
  sound : ∀ i, ∀ req ∈ (s.eps i).requests, req.Sound

/-- The tag a completion carries for a request of tag and length `p`: the low byte of the tag.
Source: `hw/dma/apple_sio.c` `apple_sio_dma_writeback`
Kind: D -/
def completionTag (p : UInt32 × ℕ) : UInt8 := UInt8.ofNat p.1.toNat

/-- The tags of the requests queued on endpoint `e`, as their completions will carry them.
Source: `hw/dma/apple_sio.c` `AppleSIODMAEndpoint`
Kind: D -/
def AppleSIOState.queuedTags (s : AppleSIOState) (e : ℕ) : List UInt8 :=
  ((s.eps e).requests.map (·.summary)).map completionTag

/-- The tag of an `OP_COMPLETE` that endpoint `e` sends.
Source: `hw/dma/apple_sio.c` `apple_sio_dma_writeback`
Kind: D -/
def SIOEvent.completedTags (e : ℕ) : SIOEvent → List UInt8
  | .send m => if m.op = OP_COMPLETE ∧ m.ep.toNat = e then [m.tag] else []
  | .transferred _ _ => []

/-- The tag of an `OP_MAP` message for endpoint `e`.
Source: `hw/dma/apple_sio.c` `apple_sio_dma`
Kind: D -/
def SIOInput.mapTags (e : ℕ) : SIOInput → List UInt8
  | .msg raw =>
    if (SIOMessage.ofRaw raw).op = OP_MAP ∧ (SIOMessage.ofRaw raw).ep.toNat = e then
      [(SIOMessage.ofRaw raw).tag]
    else []
  | _ => []

/-- A message that is not an `OP_COMPLETE` completes nothing. -/
theorem completedTags_send_of_ne {m : SIOMessage} (h : m.op ≠ OP_COMPLETE) (e : ℕ) :
    SIOEvent.completedTags e (.send m) = [] := by
  simp [SIOEvent.completedTags, h]

/-- The completions of endpoint `i` are seen as such by `e = i` only, with their tags. -/
theorem flatMap_completedTags_sioComplete {i : ℕ} (hi : i < 256) (e : ℕ) (ps : List (UInt32 × ℕ)) :
    ((ps.map (sioComplete i)).map SIOEvent.send).flatMap (SIOEvent.completedTags e) =
      if e = i then ps.map completionTag else [] := by
  have hep : (UInt8.ofNat i).toNat = i := UInt8.toNat_ofNat_of_lt' hi
  induction ps with
  | nil => split_ifs <;> rfl
  | cons p ps ih =>
    rw [List.map_cons, List.map_cons, List.flatMap_cons, ih]
    by_cases he : e = i
    · subst he
      simp [SIOEvent.completedTags, sioComplete, hep, completionTag]
    · have hne : ¬ (i = e) := fun h => he h.symm
      simp [SIOEvent.completedTags, sioComplete, hep, he, hne]

/-- The reply of the control endpoint is never a completion.
Source: `hw/dma/apple_sio.c` `apple_sio_control`
Kind: L -/
theorem appleSioControl_op_ne (params : ℕ → UInt32) (m : SIOMessage) :
    (appleSioControl params m).2.op ≠ OP_COMPLETE := by
  unfold appleSioControl
  split_ifs <;> dsimp only <;> decide

theorem mem_some_op_ne {m₀ : SIOMessage} (h : m₀.op ≠ OP_COMPLETE) : ∀ m ∈ some m₀, m.op ≠ OP_COMPLETE :=
  fun _ hm => Option.mem_some_iff.mp hm ▸ h

/-- `apple_sio_dma` keeps the endpoint's number and the soundness of its requests, never answers
with a completion, and queues at most the request of an `OP_MAP`, at the tail, or empties the
queue.
Source: `hw/dma/apple_sio.c` `apple_sio_dma`
Kind: L -/
theorem appleSioDma_spec {params : ℕ → UInt32} {mem : DmaMemory} {ep ep' : AppleSIODMAEndpoint}
    {msg : SIOMessage} {reply : Option SIOMessage} (hs : ∀ req ∈ ep.requests, req.Sound)
    (h : appleSioDma params mem ep msg = (ep', reply)) :
    ep'.id = ep.id ∧ (∀ req ∈ ep'.requests, req.Sound) ∧ (∀ m ∈ reply, m.op ≠ OP_COMPLETE) ∧
      ((ep'.requests.map (·.summary)).map completionTag).Sublist
        ((ep.requests.map (·.summary)).map completionTag ++ if msg.op = OP_MAP then [msg.tag] else []) := by
  -- every branch but the queued map leaves the queue or empties it
  have hkeep : ((ep.requests.map (·.summary)).map completionTag).Sublist
      ((ep.requests.map (·.summary)).map completionTag ++ if msg.op = OP_MAP then [msg.tag] else []) :=
    List.sublist_append_left _ _
  unfold appleSioDma at h
  dsimp only at h
  split_ifs at h with h₁ h₂ h₃ h₄ h₅
  · split at h
    · cases h
      exact ⟨rfl, hs, (fun _ hm => by cases hm), hkeep⟩
    · cases h
      exact ⟨rfl, hs, mem_some_op_ne (by dsimp only; decide), hkeep⟩
  · split at h
    · cases h
      exact ⟨rfl, hs, mem_some_op_ne (by dsimp only; decide), hkeep⟩
    · split at h
      · cases h
        exact ⟨rfl, hs, mem_some_op_ne (by dsimp only; decide), hkeep⟩
      · -- the map is queued at the tail, sound, with the message's tag
        cases h
        refine ⟨rfl, ?_, mem_some_op_ne (by dsimp only; decide), ?_⟩
        · intro req hreq
          rcases List.mem_append.mp hreq with hreq | hreq
          · exact hs req hreq
          · rw [List.mem_singleton.mp hreq]
            exact ⟨Nat.zero_le _, fun h => nomatch h⟩
        · rw [if_pos h₂, List.map_append, List.map_append]
          simp [SIODMAMapRequest.summary, completionTag, UInt8.toNat_toUInt32, UInt8.ofNat_toNat]
  · cases h
    exact ⟨rfl, hs, mem_some_op_ne (by dsimp only; decide), hkeep⟩
  · cases h
    exact ⟨rfl, hs, mem_some_op_ne (by dsimp only; decide), hkeep⟩
  · cases h
    exact ⟨rfl, by simp [appleSioStop], mem_some_op_ne (by dsimp only; decide), by simp [appleSioStop]⟩
  · cases h
    exact ⟨rfl, hs, mem_some_op_ne (by dsimp only; decide), hkeep⟩

/-- `apple_sio_realize`'s loop over the endpoints: each gets its number, the direction of its
parity and an empty queue; the parameter table is as `qdev_new` zeroes it.
Source: `hw/dma/apple_sio.c` `apple_sio_realize`
Kind: D -/
def appleSioRealize (mem : DmaMemory) : AppleSIOState :=
  { eps := fun i =>
      { config := ⟨0, 0, 0, 0, 0, 0, 0⟩,
        direction := if i % 2 = 1 then .DMA_DIRECTION_FROM_DEVICE else .DMA_DIRECTION_TO_DEVICE,
        id := i, requests := [] },
    params := fun _ => 0, mem := mem }

/-- Source: `hw/dma/apple_sio.c` `apple_sio_realize`. Kind: L -/
theorem appleSioRealize_wellFormed (mem : DmaMemory) : (appleSioRealize mem).WellFormed :=
  ⟨fun _ _ => rfl, fun _ _ h => absurd h List.not_mem_nil⟩

section Step

variable {s : AppleSIOState} (e : ℕ)

/-- Putting back an endpoint with its number and sound requests keeps the device well formed. -/
theorem AppleSIOState.WellFormed.update (hs : s.WellFormed) {t : AppleSIOState} {i : ℕ}
    {ep' : AppleSIODMAEndpoint} (heps : t.eps = Function.update s.eps i ep') (hid : ep'.id = (s.eps i).id)
    (hsound : ∀ req ∈ ep'.requests, req.Sound) : t.WellFormed where
  id j hj := by
    rw [heps]
    by_cases hji : j = i
    · subst hji
      rw [Function.update_self, hid, hs.id j hj]
    · rw [Function.update_of_ne hji, hs.id j hj]
  sound j := by
    rw [heps]
    by_cases hji : j = i
    · subst hji
      rw [Function.update_self]
      exact hsound
    · rw [Function.update_of_ne hji]
      exact hs.sound j

/-- An input that leaves endpoint `e` alone and completes nothing on it. -/
theorem sublist_of_quiet {t : AppleSIOState} {evs : List SIOEvent} (ins : List UInt8)
    (heps : t.eps e = s.eps e) (hquiet : evs.flatMap (SIOEvent.completedTags e) = []) :
    (evs.flatMap (SIOEvent.completedTags e) ++ t.queuedTags e).Sublist (s.queuedTags e ++ ins) := by
  rw [hquiet, List.nil_append, AppleSIOState.queuedTags, heps]
  exact List.sublist_append_left _ _

/-- A message: the control endpoint only answers, a dropped one does nothing, and a DMA endpoint
queues at most the request of its `OP_MAP`.
Source: `hw/dma/apple_sio.c` `apple_sio_handle_endpoint`
Kind: L -/
theorem appleSioHandleEndpoint_sublist (hs : s.WellFormed) (raw : UInt64) :
    (appleSioHandleEndpoint s raw).1.WellFormed ∧
      (((appleSioHandleEndpoint s raw).2.map SIOEvent.send).flatMap (SIOEvent.completedTags e) ++
        (appleSioHandleEndpoint s raw).1.queuedTags e).Sublist (s.queuedTags e ++ (SIOInput.msg raw).mapTags e) := by
  unfold appleSioHandleEndpoint
  dsimp only
  split_ifs with hctl hbig
  · refine ⟨⟨hs.id, hs.sound⟩, sublist_of_quiet e _ rfl ?_⟩
    simp [completedTags_send_of_ne (appleSioControl_op_ne _ _)]
  · exact ⟨hs, sublist_of_quiet e _ rfl rfl⟩
  · -- a DMA endpoint: `apple_sio_dma` on it, put back in place
    rcases hd : appleSioDma s.params s.mem (s.eps (SIOMessage.ofRaw raw).ep.toNat) (SIOMessage.ofRaw raw)
      with ⟨ep', reply⟩
    obtain ⟨hid, hsound, hop, hsub⟩ := appleSioDma_spec (hs.sound _) hd
    refine ⟨hs.update rfl hid hsound, ?_⟩
    have hquiet : (reply.toList.map SIOEvent.send).flatMap (SIOEvent.completedTags e) = [] := by
      cases reply with
      | none => rfl
      | some r => simp [completedTags_send_of_ne (hop r rfl)]
    rw [hquiet, List.nil_append]
    by_cases he : e = (SIOMessage.ofRaw raw).ep.toNat
    · subst he
      simpa [AppleSIOState.queuedTags, SIOInput.mapTags] using hsub
    · have hne : ¬ ((SIOMessage.ofRaw raw).ep.toNat = e) := fun h => he h.symm
      simp only [AppleSIOState.queuedTags, Function.update_of_ne he, SIOInput.mapTags, hne, and_false,
        if_false, List.append_nil]
      exact List.Sublist.refl _

/-- A transfer through endpoint `ep`: it completes, with their tags, the requests it takes off
the head of that endpoint's queue, and touches no other endpoint.
Source: `hw/dma/apple_sio.c` `apple_sio_dma_read`, `apple_sio_dma_write`
Kind: L -/
theorem sioDeviceTransfer_sublist
    {copy : DmaMemory → Mem → List (ℕ × ℕ) → ℕ → ℕ → DmaMemory × Mem × ℕ} (hc : CopyCounts copy)
    (dir : DMADirection) {ep : ℕ} {buffer : Mem} {len : ℕ} {r : AppleSIOState × List SIOEvent}
    (hs : s.WellFormed)
    (h : sioDeviceTransfer (fun m ep b l => appleSioDmaTransfer copy dir m ep b l) s ep buffer len = some r) :
    r.1.WellFormed ∧ (r.2.flatMap (SIOEvent.completedTags e) ++ r.1.queuedTags e).Sublist (s.queuedTags e) := by
  unfold sioDeviceTransfer at h
  cases hg : appleSioGetEndpoint ep with
  | none =>
    rw [hg] at h
    cases h
  | some i =>
    rw [hg] at h
    have hi : i < SIO_NUM_EPS := by
      unfold appleSioGetEndpoint at hg
      split_ifs at hg with hb
      cases hg
      omega
    obtain ⟨⟨ep', run⟩, hrun, rfl⟩ := Option.map_eq_some_iff.mp h
    obtain ⟨hid, k, hsent, hsum, hsound, -, -⟩ := appleSioDmaTransfer_spec hc (hs.sound i) hrun
    refine ⟨hs.update rfl hid hsound, ?_⟩
    -- the completions are those of the first `k` requests of endpoint `i`
    have hcompl : (run.sent.map SIOEvent.send ++ [SIOEvent.transferred run.actualLen run.buffer]).flatMap
        (SIOEvent.completedTags e) =
          if e = i then ((((s.eps i).requests.map (·.summary)).take k).map completionTag) else [] := by
      rw [List.flatMap_append, hsent, hs.id i hi,
        flatMap_completedTags_sioComplete (by unfold SIO_NUM_EPS at hi; omega)]
      simp [SIOEvent.completedTags]
    dsimp only
    by_cases he : e = i
    · subst he
      rw [hcompl, if_pos rfl]
      simp only [AppleSIOState.queuedTags, Function.update_self]
      rw [hsum, ← List.map_append, List.take_append_drop]
    · rw [hcompl, if_neg he, List.nil_append]
      simp only [AppleSIOState.queuedTags, Function.update_of_ne he]
      exact List.Sublist.refl _

/-- **One input.** Every input keeps the device well formed, and what it completes on endpoint
`e`, followed by what `e` then holds, is a sublist of what `e` held followed by the `OP_MAP`
the input brought.
Source: `hw/dma/apple_sio.c` `apple_sio_handle_endpoint`, `apple_sio_dma_read`,
`apple_sio_dma_write`, `apple_sio_reset_hold`
Kind: L -/
theorem sioStep_sublist {x : SIOInput} {r : AppleSIOState × List SIOEvent} (hs : s.WellFormed)
    (h : sioStep x s = some r) :
    r.1.WellFormed ∧ (r.2.flatMap (SIOEvent.completedTags e) ++ r.1.queuedTags e).Sublist
      (s.queuedTags e ++ x.mapTags e) := by
  cases x with
  | msg raw =>
    cases h
    exact appleSioHandleEndpoint_sublist e hs raw
  | dmaRead ep buffer len =>
    rw [show (SIOInput.dmaRead ep buffer len).mapTags e = [] from rfl, List.append_nil]
    exact sioDeviceTransfer_sublist e copyCounts_sioReadCopy .DMA_DIRECTION_TO_DEVICE hs h
  | dmaWrite ep buffer len =>
    rw [show (SIOInput.dmaWrite ep buffer len).mapTags e = [] from rfl, List.append_nil]
    exact sioDeviceTransfer_sublist e copyCounts_sioWriteCopy .DMA_DIRECTION_FROM_DEVICE hs h
  | guestWrite a bs =>
    cases h
    exact ⟨⟨hs.id, hs.sound⟩, sublist_of_quiet e _ rfl rfl⟩
  | reset =>
    cases h
    -- the endpoints of the device lose their queues, the others are left alone
    have heps : ∀ i, (appleSioResetHold s).eps i =
        if i < SIO_NUM_EPS then { appleSioStop (s.eps i) with config := ⟨0, 0, 0, 0, 0, 0, 0⟩ } else s.eps i :=
      fun _ => rfl
    refine ⟨⟨fun i hi => ?_, fun i => ?_⟩, ?_⟩
    · rw [heps, if_pos hi]
      exact hs.id i hi
    · rw [heps]
      split_ifs
      · intro req hreq
        exact absurd hreq List.not_mem_nil
      · exact hs.sound i
    · rw [List.flatMap_nil, List.nil_append, AppleSIOState.queuedTags, heps]
      split_ifs
      · exact List.nil_sublist _
      · exact List.sublist_append_left _ _

end Step

/-- **Completions follow the maps.** Over any run of the device from a well-formed state (as
`apple_sio_realize` leaves it) — guest messages on every endpoint, transfers of the device
models, guest stores, resets — the tags of the `OP_COMPLETE` messages endpoint `e` sends,
followed by the tags still queued on it, are a sublist of the tags queued on it at the start
followed by the tags of the `OP_MAP` messages sent to it: each completion answers a queued
request or an `OP_MAP`, in their order, and none is answered twice.
Source: `hw/dma/apple_sio.c` `apple_sio_dma`, `apple_sio_dma_writeback`, `apple_sio_handle_endpoint`
Kind: P -/
theorem sio_completions_follow_maps (xs : List SIOInput) (s : AppleSIOState) (hs : s.WellFormed)
    (e : ℕ) {r : AppleSIOState × List SIOEvent} (h : tracedRun sioStep xs s = some r) :
    (r.2.flatMap (SIOEvent.completedTags e) ++ r.1.queuedTags e).Sublist
      (s.queuedTags e ++ xs.flatMap (SIOInput.mapTags e)) :=
  (tracedRun_sublist AppleSIOState.WellFormed (·.queuedTags e) (SIOEvent.completedTags e)
    (SIOInput.mapTags e) (fun _ _ _ _ hs h => sioStep_sublist e hs h) s r hs h).2

/-- Guest memory, all backed, with a segment table entry at `0x1000`: one segment, of 4 bytes at
`0x2000`. -/
def sioMapMemory : DmaMemory :=
  ⟨(Mem.write (fun _ => 0) 0x103C [1, 0, 0, 0]).write 0x1048 [0x00, 0x20, 0, 0, 0, 0, 0, 0, 4, 0, 0, 0],
    fun _ => true⟩

/-- The segment base set to page 1, an `OP_MAP` of tag 7 on endpoint 4, and a device's read of 4
bytes from it. -/
def sioMapThenRead : List SIOInput :=
  [.msg 0x0000000101030100, .msg 0x0000000000060704, .dmaRead 4 (fun _ => 0) 4]

/-- Source: `hw/dma/apple_sio.c` `apple_sio_dma_writeback`. Kind: L -/
theorem sio_completions_follow_maps_realized :
    ∃ r, tracedRun sioStep sioMapThenRead (appleSioRealize sioMapMemory) = some r ∧
      (r.2.flatMap (SIOEvent.completedTags 4) ++ r.1.queuedTags 4).Sublist
        ((appleSioRealize sioMapMemory).queuedTags 4 ++ sioMapThenRead.flatMap (SIOInput.mapTags 4)) :=
  ⟨_, rfl, sio_completions_follow_maps _ _ (appleSioRealize_wellFormed _) 4 rfl⟩

end QemuAppleSilicon.Dma
