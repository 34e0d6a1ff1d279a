import QemuAppleSilicon.Dma.Sio

/-!
# SIO DMA transfers against the request stream

The requests queued on an endpoint form one byte stream: each request's segments in order, the
requests in queue order. A transfer of `len` bytes is meant to move the next `len` bytes of the
stream (or what is left of it) between the stream and the buffer offsets `[0, len)`.

The copy of one request is exact: `iovToBufFull_eq` says that `iov_to_buf_full` moves the bytes
of the iovec's stream from the cursor to the buffer from `done` on, as many as fit. So a
transfer that stays within the head request moves the next bytes of the stream
(`appleSioDmaRead_within_head`). But the loop copies every request into the buffer from offset
`0` and with the full `len`, not from `actual_len` and with what is left of `len`: a transfer
that reaches past the end of the head request puts the next request's bytes over the head's at
the start of the buffer, and returns more than `len` (`apple_sio_dma_read_crosses_request`).
-/

namespace QemuAppleSilicon.Dma

open QemuAppleSilicon.Lib QemuAppleSilicon.Qemu

/-! ## The stream of an iovec -/

/-- The bytes an iovec maps, in order: the stream a request's cursor runs over.
Source: `util/iov.c` `iov_to_buf_full`
Kind: D -/
def iovBytes (m : Mem) (iov : List (ℕ × ℕ)) : List UInt8 :=
  iov.flatMap fun c => m.read c.1 c.2

@[simp] theorem iovBytes_nil (m : Mem) : iovBytes m [] = [] := rfl

theorem iovBytes_cons (m : Mem) (base len : ℕ) (iov : List (ℕ × ℕ)) :
    iovBytes m ((base, len) :: iov) = m.read base len ++ iovBytes m iov := rfl

/-- The stream of an iovec is as long as its ranges. -/
theorem length_iovBytes (m : Mem) (iov : List (ℕ × ℕ)) :
    (iovBytes m iov).length = (iov.map Prod.snd).sum := by
  induction iov with
  | nil => rfl
  | cons c iov ih =>
    rw [iovBytes_cons, List.length_append, Mem.read_length, ih, List.map_cons, List.sum_cons]

/-- `iov_to_buf_full` from `done` bytes copied, with the cursor at `offset`: the buffer from
`done` on receives the stream from the cursor, as much of it as fits below `bytes`, and `done`
grows by that much. The induction is on the iovec; each range either holds the cursor, and is
copied from it, or lies before it, and moves the cursor back by its length.
Source: `util/iov.c` `iov_to_buf_full`
Kind: L -/
theorem iovToBufFull_eq (m : Mem) (bytes : ℕ) (iov : List (ℕ × ℕ)) :
    ∀ (buf : Mem) (offset done : ℕ), done ≤ bytes →
      iovToBufFull m buf iov offset done bytes =
        (buf.write done (((iovBytes m iov).drop offset).take (bytes - done)),
          done + min (bytes - done) ((iovBytes m iov).length - offset)) := by
  induction iov with
  | nil =>
    intro buf offset done _
    simp [iovToBufFull]
  | cons c iov ih =>
    obtain ⟨base, len⟩ := c
    intro buf offset done hdone
    have hlen := Mem.read_length m base len
    rw [iovBytes_cons]
    by_cases hgo : offset ≠ 0 ∨ done < bytes
    · by_cases hin : offset < len
      · -- the range holds the cursor: copy from it, then from the start of the next range
        have hn : min (len - offset) (bytes - done) ≤ bytes - done := Nat.min_le_right _ _
        rw [iovToBufFull, if_pos hgo, if_pos hin]
        dsimp only
        rw [ih _ 0 _ (by omega), List.drop_zero, List.drop_append_of_le_length (by omega),
          Mem.drop_read, List.take_append, Mem.take_read, Mem.write_append, Mem.read_length,
          Mem.read_length, List.length_append, Mem.read_length, Nat.min_comm (bytes - done)]
        have hrest : bytes - (done + min (len - offset) (bytes - done)) =
            bytes - done - (len - offset) := by omega
        rw [hrest]
        congr 1
        omega
      · -- the range lies before the cursor
        have hskip : (m.read base len).drop offset = [] := List.drop_of_length_le (by omega)
        rw [iovToBufFull, if_pos hgo, if_neg hin, ih _ _ _ hdone, List.drop_append, hskip,
          List.nil_append, List.length_append, hlen]
        congr 2
        omega
    · -- nothing left to copy and the cursor at a range boundary
      have hend : done = bytes := by omega
      have hoff : offset = 0 := by omega
      subst hend hoff
      rw [iovToBufFull, if_neg hgo, Nat.sub_self, List.take_zero, Mem.write_nil, Nat.zero_min,
        Nat.add_zero]

/-- `iov_from_buf_full` from `done` bytes copied counts as `iov_to_buf_full` does: as many bytes
as are left in the iovec from the cursor, up to `bytes`.
Source: `util/iov.c` `iov_from_buf_full`
Kind: L -/
theorem iovFromBufFull_count (buf : Mem) (bytes : ℕ) (iov : List (ℕ × ℕ)) :
    ∀ (m : Mem) (offset done : ℕ), done ≤ bytes →
      (iovFromBufFull buf m iov offset done bytes).2 =
        done + min (bytes - done) ((iov.map Prod.snd).sum - offset) := by
  induction iov with
  | nil =>
    intro m offset done _
    simp [iovFromBufFull]
  | cons c iov ih =>
    obtain ⟨base, len⟩ := c
    intro m offset done hdone
    rw [List.map_cons, List.sum_cons]
    by_cases hgo : offset ≠ 0 ∨ done < bytes
    · by_cases hin : offset < len
      · rw [iovFromBufFull, if_pos hgo, if_pos hin]
        dsimp only
        rw [ih _ 0 _ (by omega)]
        omega
      · rw [iovFromBufFull, if_pos hgo, if_neg hin, ih _ _ _ hdone]
        omega
    · rw [iovFromBufFull, if_neg hgo]
      dsimp only
      omega

/-! ## Mapping -/

/-- Mapping reads only which memory is backed. -/
theorem appleSioMapDma_congr {m m' : DmaMemory} (h : m'.backed = m.backed)
    (req : SIODMAMapRequest) : appleSioMapDma m' req = appleSioMapDma m req := by
  have hseg : ∀ base len, mapSegment m' base len = mapSegment m base len := by
    intro base len
    unfold mapSegment DmaMemory.Backed
    rw [h]
  simp only [appleSioMapDma, hseg]

/-! ## The transfer loop, one iteration at a time -/

@[simp] theorem iovSize_setBytesAccessed (req : SIODMAMapRequest) (k : ℕ) :
    ({ req with bytesAccessed := k } : SIODMAMapRequest).iovSize = req.iovSize := rfl

section Loop

variable {copy : DmaMemory → Mem → List (ℕ × ℕ) → ℕ → ℕ → DmaMemory × Mem × ℕ} {epId len : ℕ}

/-- The loop stops once `actual_len` has reached `len`. -/
theorem appleSioDmaLoop_of_le {r : SioDmaRun} (h : len ≤ r.actualLen) (fuel : ℕ) :
    appleSioDmaLoop copy epId len (fuel + 1) r = some r := by
  rw [appleSioDmaLoop, if_neg (by omega)]

/-- The loop stops on an empty queue. -/
theorem appleSioDmaLoop_of_nil {r : SioDmaRun} (h : r.requests = []) (fuel : ℕ) :
    appleSioDmaLoop copy epId len (fuel + 1) r = some r := by
  rw [appleSioDmaLoop]
  split_ifs
  · rw [h]
  · rfl

/-- An iteration that moves the head request's last bytes: the request is answered and leaves
the queue. -/
theorem appleSioDmaLoop_complete {r : SioDmaRun} {req req' : SIODMAMapRequest}
    {reqs : List SIODMAMapRequest} {mem : DmaMemory} {buffer : Mem} {n : ℕ}
    (hlt : r.actualLen < len) (hq : r.requests = req :: reqs)
    (hmap : appleSioMapDma r.mem req = some req')
    (hcopy : copy r.mem r.buffer req'.iov req'.bytesAccessed len = (mem, buffer, n))
    (hdone : req'.iovSize ≤ req'.bytesAccessed + n) (fuel : ℕ) :
    appleSioDmaLoop copy epId len (fuel + 1) r =
      appleSioDmaLoop copy epId len fuel
        { mem := mem, buffer := buffer, requests := reqs, actualLen := r.actualLen + n,
          sent := r.sent ++ [appleSioDmaWriteback epId { req' with bytesAccessed := req'.bytesAccessed + n }] } := by
  rw [appleSioDmaLoop, if_pos hlt, hq]
  dsimp only
  rw [hmap]
  dsimp only
  rw [hcopy]
  dsimp only
  rw [iovSize_setBytesAccessed, if_pos hdone]

/-- An iteration that leaves bytes of the head request: its cursor advances and it stays at the
head. -/
theorem appleSioDmaLoop_incomplete {r : SioDmaRun} {req req' : SIODMAMapRequest}
    {reqs : List SIODMAMapRequest} {mem : DmaMemory} {buffer : Mem} {n : ℕ}
    (hlt : r.actualLen < len) (hq : r.requests = req :: reqs)
    (hmap : appleSioMapDma r.mem req = some req')
    (hcopy : copy r.mem r.buffer req'.iov req'.bytesAccessed len = (mem, buffer, n))
    (hleft : req'.bytesAccessed + n < req'.iovSize) (fuel : ℕ) :
    appleSioDmaLoop copy epId len (fuel + 1) r =
      appleSioDmaLoop copy epId len fuel
        { mem := mem, buffer := buffer,
          requests := { req' with bytesAccessed := req'.bytesAccessed + n } :: reqs,
          actualLen := r.actualLen + n, sent := r.sent } := by
  rw [appleSioDmaLoop, if_pos hlt, hq]
  dsimp only
  rw [hmap]
  dsimp only
  rw [hcopy]
  dsimp only
  rw [iovSize_setBytesAccessed, if_neg (by omega)]

end Loop

/-! ## The copies -/

/-- What a copy of the transfer loop must do for the loop to end: move as many bytes as the
iovec holds past the cursor, up to `len`, and leave which memory is backed. -/
structure CopyCounts (copy : DmaMemory → Mem → List (ℕ × ℕ) → ℕ → ℕ → DmaMemory × Mem × ℕ) :
    Prop where
  count : ∀ m buf iov offset len,
    (copy m buf iov offset len).2.2 = min len ((iov.map Prod.snd).sum - offset)
  backed : ∀ m buf iov offset len, (copy m buf iov offset len).1.backed = m.backed

/-- The copy of `apple_sio_dma_read`: the stream from the cursor, as much as fits in `len`, into
the buffer from its start.
Source: `hw/dma/apple_sio.c` `apple_sio_dma_read`
Kind: L -/
theorem sioReadCopy_eq (m : DmaMemory) (buf : Mem) (iov : List (ℕ × ℕ)) (offset len : ℕ) :
    sioReadCopy m buf iov offset len =
      (m, buf.write 0 (((iovBytes m.bytes iov).drop offset).take len),
        min len ((iovBytes m.bytes iov).length - offset)) := by
  unfold sioReadCopy
  rw [iovToBufFull_eq _ _ _ _ _ _ (Nat.zero_le len), Nat.sub_zero, Nat.zero_add]

theorem copyCounts_sioReadCopy : CopyCounts sioReadCopy where
  count m buf iov offset len := by
    rw [sioReadCopy_eq, length_iovBytes]
  backed m buf iov offset len := by
    rw [sioReadCopy_eq]

theorem copyCounts_sioWriteCopy : CopyCounts sioWriteCopy where
  count m buf iov offset len := by
    have h := iovFromBufFull_count buf len iov m.bytes offset 0 (Nat.zero_le len)
    rw [Nat.sub_zero, Nat.zero_add] at h
    unfold sioWriteCopy
    rcases hr : iovFromBufFull buf m.bytes iov offset 0 len with ⟨bytes, n⟩
    rw [hr] at h
    exact h
  backed m buf iov offset len := by
    unfold sioWriteCopy
    rcases iovFromBufFull buf m.bytes iov offset 0 len with ⟨bytes, n⟩
    rfl

/-! ## The loop ends -/

section Ends

variable {copy : DmaMemory → Mem → List (ℕ × ℕ) → ℕ → ℕ → DmaMemory × Mem × ℕ} {epId len : ℕ}

/-- With a copy that counts, the loop ends within two iterations more than the requests it
starts with: each iteration answers the head request, or leaves `actual_len` at `len` or past
it. The induction is on the queue. -/
theorem appleSioDmaLoop_isSome (hc : CopyCounts copy) (m₀ : DmaMemory)
    (reqs : List SIODMAMapRequest) :
    ∀ (r : SioDmaRun) (fuel : ℕ), r.requests = reqs → reqs.length + 2 ≤ fuel →
      r.mem.backed = m₀.backed → (∀ req ∈ reqs, (appleSioMapDma m₀ req).isSome) →
      (appleSioDmaLoop copy epId len fuel r).isSome := by
  induction reqs with
  | nil =>
    intro r fuel hq hfuel _ _
    obtain ⟨f, rfl⟩ : ∃ f, fuel = f + 1 := ⟨fuel - 1, by simp at hfuel; omega⟩
    rw [appleSioDmaLoop_of_nil hq]
    rfl
  | cons req reqs ih =>
    intro r fuel hq hfuel hmem hmap
    obtain ⟨f, rfl⟩ : ∃ f, fuel = f + 1 := ⟨fuel - 1, by simp at hfuel; omega⟩
    by_cases hlt : r.actualLen < len
    · obtain ⟨req', hreq'⟩ := Option.isSome_iff_exists.mp (hmap req List.mem_cons_self)
      have hmap' : appleSioMapDma r.mem req = some req' := by
        rw [appleSioMapDma_congr hmem, hreq']
      rcases hcopy : copy r.mem r.buffer req'.iov req'.bytesAccessed len with ⟨mem, buffer, n⟩
      have hn : n = min len ((req'.iov.map Prod.snd).sum - req'.bytesAccessed) := by
        rw [← hc.count r.mem r.buffer req'.iov req'.bytesAccessed len, hcopy]
      have hback : mem.backed = m₀.backed := by
        rw [← hmem, ← hc.backed r.mem r.buffer req'.iov req'.bytesAccessed len, hcopy]
      by_cases hdone : req'.iovSize ≤ req'.bytesAccessed + n
      · rw [appleSioDmaLoop_complete hlt hq hmap' hcopy hdone]
        exact ih _ f rfl (by simp at hfuel; omega) hback
          (fun x hx => hmap x (List.mem_cons_of_mem req hx))
      · -- the head request still has bytes, so this iteration moved all of `len`
        have hlen : n = len := by
          unfold SIODMAMapRequest.iovSize at hdone
          omega
        obtain ⟨f', rfl⟩ : ∃ f', f = f' + 1 := ⟨f - 1, by simp at hfuel; omega⟩
        rw [appleSioDmaLoop_incomplete hlt hq hmap' hcopy (by omega),
          appleSioDmaLoop_of_le (by dsimp only; omega)]
        rfl
    · rw [appleSioDmaLoop_of_le (by omega)]
      rfl

end Ends

/-- `apple_sio_dma_read` and `apple_sio_dma_write` return, on an endpoint of their direction
whose queued requests all map: the loop ends within the iterations the model allows it.
Source: `hw/dma/apple_sio.c` `apple_sio_dma_read`, `apple_sio_dma_write`
Kind: L -/
theorem appleSioDmaTransfer_isSome
    {copy : DmaMemory → Mem → List (ℕ × ℕ) → ℕ → ℕ → DmaMemory × Mem × ℕ} (hc : CopyCounts copy)
    {dir : DMADirection} {m : DmaMemory} {ep : AppleSIODMAEndpoint} (hdir : ep.direction = dir)
    (hmap : ∀ req ∈ ep.requests, (appleSioMapDma m req).isSome) (buffer : Mem) (len : ℕ) :
    (appleSioDmaTransfer copy dir m ep buffer len).isSome := by
  unfold appleSioDmaTransfer
  rw [if_pos hdir, Option.isSome_map]
  exact appleSioDmaLoop_isSome hc m ep.requests _ _ rfl le_rfl rfl hmap

/-- A transfer on an endpoint with no request queued returns at once and moves nothing, whatever
it asks for.
Source: `hw/dma/apple_sio.c` `apple_sio_dma_read`, `apple_sio_dma_write`
Kind: L -/
theorem appleSioDmaTransfer_of_nil
    {copy : DmaMemory → Mem → List (ℕ × ℕ) → ℕ → ℕ → DmaMemory × Mem × ℕ} {dir : DMADirection}
    {ep : AppleSIODMAEndpoint} (hdir : ep.direction = dir) (hq : ep.requests = [])
    (m : DmaMemory) (buffer : Mem) (len : ℕ) :
    appleSioDmaTransfer copy dir m ep buffer len = some (ep, ⟨m, buffer, [], 0, []⟩) := by
  unfold appleSioDmaTransfer
  rw [if_pos hdir, hq, appleSioDmaLoop_of_nil rfl]
  rw [← hq]
  rfl

/-- A transfer that the head request can take whole moves `len` bytes, in one iteration: the
request's cursor advances by `len`, and the request is answered when they were its last.
Source: `hw/dma/apple_sio.c` `apple_sio_dma_read`, `apple_sio_dma_write`
Kind: L -/
theorem appleSioDmaTransfer_within_head
    {copy : DmaMemory → Mem → List (ℕ × ℕ) → ℕ → ℕ → DmaMemory × Mem × ℕ} (hc : CopyCounts copy)
    {dir : DMADirection} {m : DmaMemory} {ep : AppleSIODMAEndpoint} (buffer : Mem) (len : ℕ)
    {req req' : SIODMAMapRequest} {reqs : List SIODMAMapRequest} (hdir : ep.direction = dir)
    (hq : ep.requests = req :: reqs) (hmap : appleSioMapDma m req = some req') (hpos : 0 < len)
    (hfit : req'.bytesAccessed + len ≤ req'.iovSize) :
    ∃ ep' r, appleSioDmaTransfer copy dir m ep buffer len = some (ep', r) ∧ r.actualLen = len ∧
      ep'.requests = if req'.bytesAccessed + len = req'.iovSize then reqs
        else { req' with bytesAccessed := req'.bytesAccessed + len } :: reqs := by
  rcases hcopy : copy m buffer req'.iov req'.bytesAccessed len with ⟨mem, buffer', n⟩
  -- the copy counts every byte asked for: the head request has them all
  have hn : n = len := by
    have h := hc.count m buffer req'.iov req'.bytesAccessed len
    rw [hcopy] at h
    unfold SIODMAMapRequest.iovSize at hfit
    dsimp only at h
    omega
  subst hn
  unfold appleSioDmaTransfer
  rw [if_pos hdir, hq, List.length_cons]
  by_cases hdone : req'.iovSize ≤ req'.bytesAccessed + n
  · rw [appleSioDmaLoop_complete hpos rfl hmap hcopy hdone,
      appleSioDmaLoop_of_le (by dsimp only; omega)]
    exact ⟨_, _, rfl, Nat.zero_add n, by rw [if_pos (by omega)]⟩
  · rw [appleSioDmaLoop_incomplete hpos rfl hmap hcopy (by omega),
      appleSioDmaLoop_of_le (by dsimp only; omega)]
    exact ⟨_, _, rfl, Nat.zero_add n, by rw [if_neg (by omega)]⟩

/-! ## Reads against the stream -/

/-- The size of a mapped request is the length of its stream. -/
theorem iovSize_eq_length (m : Mem) (req : SIODMAMapRequest) :
    req.iovSize = (iovBytes m req.iov).length := by
  rw [SIODMAMapRequest.iovSize, length_iovBytes]

/-- A read that the head request can serve moves the next `len` bytes of its stream to the
buffer's start, returns `len`, and answers the request when they were its last.
Source: `hw/dma/apple_sio.c` `apple_sio_dma_read`
Kind: L -/
theorem appleSioDmaRead_within_head {m : DmaMemory} {ep : AppleSIODMAEndpoint} (buf : Mem)
    (len : ℕ) {req req' : SIODMAMapRequest} {reqs : List SIODMAMapRequest}
    (hdir : ep.direction = .DMA_DIRECTION_TO_DEVICE) (hq : ep.requests = req :: reqs)
    (hmap : appleSioMapDma m req = some req') (hpos : 0 < len)
    (hfit : req'.bytesAccessed + len ≤ req'.iovSize) :
    ∃ ep' r, appleSioDmaRead m ep buf len = some (ep', r) ∧ r.actualLen = len ∧
      r.buffer = buf.write 0 (((iovBytes m.bytes req'.iov).drop req'.bytesAccessed).take len) ∧
      ep'.requests = if req'.bytesAccessed + len = req'.iovSize then reqs
        else { req' with bytesAccessed := req'.bytesAccessed + len } :: reqs := by
  have hsize := iovSize_eq_length m.bytes req'
  have hn : min len ((iovBytes m.bytes req'.iov).length - req'.bytesAccessed) = len := by omega
  have hcopy := sioReadCopy_eq m buf req'.iov req'.bytesAccessed len
  rw [hn] at hcopy
  unfold appleSioDmaRead appleSioDmaTransfer
  rw [if_pos hdir, hq, List.length_cons]
  by_cases hdone : req'.iovSize ≤ req'.bytesAccessed + len
  · rw [appleSioDmaLoop_complete hpos rfl hmap hcopy hdone,
      appleSioDmaLoop_of_le (by dsimp only; omega)]
    exact ⟨_, _, rfl, Nat.zero_add len, rfl, by rw [if_pos (by omega)]⟩
  · rw [appleSioDmaLoop_incomplete hpos rfl hmap hcopy (by omega),
      appleSioDmaLoop_of_le (by dsimp only; omega)]
    exact ⟨_, _, rfl, Nat.zero_add len, rfl, by rw [if_neg (by omega)]⟩

/-- A read of more bytes than the head request has left, when the next request has at least
`len`: the head's bytes go to the buffer's start, then the next request's `len` bytes go to the
buffer's start as well, so that the buffer holds only the next request's bytes, and the read
returns the head's remainder plus `len`, more than `len`.
Source: `hw/dma/apple_sio.c` `apple_sio_dma_read`
Kind: P -/
theorem apple_sio_dma_read_crosses_request {m : DmaMemory} {ep : AppleSIODMAEndpoint}
    (buf : Mem) (len : ℕ) {req₁ req₂ req₁' req₂' : SIODMAMapRequest}
    {reqs : List SIODMAMapRequest} (hdir : ep.direction = .DMA_DIRECTION_TO_DEVICE)
    (hq : ep.requests = req₁ :: req₂ :: reqs) (hmap₁ : appleSioMapDma m req₁ = some req₁')
    (hmap₂ : appleSioMapDma m req₂ = some req₂') (hleft : req₁'.bytesAccessed < req₁'.iovSize)
    (hshort : req₁'.iovSize < req₁'.bytesAccessed + len) (hfresh : req₂'.bytesAccessed = 0)
    (hnext : len ≤ req₂'.iovSize) :
    ∃ ep' r, appleSioDmaRead m ep buf len = some (ep', r) ∧
      r.actualLen = req₁'.iovSize - req₁'.bytesAccessed + len ∧ len < r.actualLen ∧
      r.buffer = buf.write 0 ((iovBytes m.bytes req₂'.iov).take len) := by
  have hsize₁ := iovSize_eq_length m.bytes req₁'
  have hsize₂ := iovSize_eq_length m.bytes req₂'
  -- the head's remainder: fewer than `len` bytes, all of them copied
  have hcopy₁ := sioReadCopy_eq m buf req₁'.iov req₁'.bytesAccessed len
  rw [show min len ((iovBytes m.bytes req₁'.iov).length - req₁'.bytesAccessed) =
    req₁'.iovSize - req₁'.bytesAccessed by omega] at hcopy₁
  -- the next request: `len` bytes from its start, over the head's at the buffer's start
  have hcopy₂ : sioReadCopy m
      (buf.write 0 (((iovBytes m.bytes req₁'.iov).drop req₁'.bytesAccessed).take len))
      req₂'.iov req₂'.bytesAccessed len =
        (m, buf.write 0 ((iovBytes m.bytes req₂'.iov).take len), len) := by
    rw [sioReadCopy_eq, hfresh, List.drop_zero, Nat.sub_zero, Nat.min_eq_left (by omega),
      Mem.write_write_of_length_le _ _ (by simp; omega)]
  unfold appleSioDmaRead appleSioDmaTransfer
  rw [if_pos hdir, hq, List.length_cons, List.length_cons,
    appleSioDmaLoop_complete (by dsimp only; omega) rfl hmap₁ hcopy₁ (by omega)]
  by_cases hdone₂ : req₂'.iovSize ≤ req₂'.bytesAccessed + len
  · rw [appleSioDmaLoop_complete (by dsimp only; omega) rfl hmap₂ hcopy₂ hdone₂,
      appleSioDmaLoop_of_le (by dsimp only; omega)]
    exact ⟨_, _, rfl, by dsimp only; omega, by dsimp only; omega, rfl⟩
  · rw [appleSioDmaLoop_incomplete (by dsimp only; omega) rfl hmap₂ hcopy₂ (by omega),
      appleSioDmaLoop_of_le (by dsimp only; omega)]
    exact ⟨_, _, rfl, by dsimp only; omega, by dsimp only; omega, rfl⟩

/-- Guest memory holding `1, 2, 3, 4` at `0x1000` and `5, …, 12` at `0x2000`, all backed. -/
def twoSegmentMemory : DmaMemory :=
  ⟨(Mem.write (fun _ => 0) 0x1000 [1, 2, 3, 4]).write 0x2000 [5, 6, 7, 8, 9, 10, 11, 12],
    fun _ => true⟩

/-- A request as `OP_MAP` queues it: one segment, cursor zero, not yet mapped.
Source: `hw/dma/apple_sio.c` `apple_sio_dma`
Kind: D -/
def oneSegmentRequest (addr : UInt64) (len tag : UInt32) : SIODMAMapRequest :=
  { segments := [⟨addr, len⟩], iov := [], bytesAccessed := 0, tag := tag, mapped := false }

/-- A to-device endpoint with a request of 4 bytes at `0x1000` and one of 8 bytes at `0x2000`. -/
def twoRequestEndpoint : AppleSIODMAEndpoint :=
  { config := ⟨0, 0, 0, 0, 0, 0, 0⟩, direction := .DMA_DIRECTION_TO_DEVICE, id := 4,
    requests := [oneSegmentRequest 0x1000 4 1, oneSegmentRequest 0x2000 8 2] }

/-- A read of 8 bytes from `twoRequestEndpoint`: it returns 12, and the buffer holds `5, …, 12`,
the second request's bytes, where the stream begins `1, 2, 3, 4`. -/
theorem apple_sio_dma_read_crosses_request_four_eight :
    appleSioMapDma twoSegmentMemory (oneSegmentRequest 0x1000 4 1) =
        some { oneSegmentRequest 0x1000 4 1 with iov := [(0x1000, 4)], mapped := true } ∧
      appleSioMapDma twoSegmentMemory (oneSegmentRequest 0x2000 8 2) =
        some { oneSegmentRequest 0x2000 8 2 with iov := [(0x2000, 8)], mapped := true } ∧
      ∃ ep' r, appleSioDmaRead twoSegmentMemory twoRequestEndpoint (fun _ => 0) 8 = some (ep', r) ∧
        r.actualLen = 4 - 0 + 8 ∧ 8 < r.actualLen ∧
        r.buffer = Mem.write (fun _ => 0) 0
          ((iovBytes twoSegmentMemory.bytes [(0x2000, 8)]).take 8) := by
  have hmap₁ : appleSioMapDma twoSegmentMemory (oneSegmentRequest 0x1000 4 1) =
      some { oneSegmentRequest 0x1000 4 1 with iov := [(0x1000, 4)], mapped := true } := by
    decide
  have hmap₂ : appleSioMapDma twoSegmentMemory (oneSegmentRequest 0x2000 8 2) =
      some { oneSegmentRequest 0x2000 8 2 with iov := [(0x2000, 8)], mapped := true } := by
    decide
  exact ⟨hmap₁, hmap₂, apple_sio_dma_read_crosses_request (fun _ => 0) 8 rfl rfl hmap₁ hmap₂
    (by decide) (by decide) rfl (by decide)⟩

end QemuAppleSilicon.Dma
