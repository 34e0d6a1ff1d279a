import QemuAppleSilicon.Arm.MtSpi

/-!
# Firmware frames of the multitouch controller (`hw/arm/apple-silicon/mt-spi.c`)

In firmware mode the host clocks whole link-layer frames, each starting with `0xEF`: an
eight-byte frame whose type byte (the fifth) is the low byte of ERROR, ACK, NAK or BUSY, or an
`LL_PACKET_LEN`-byte data frame. The device answers every byte with the next byte of `tx`,
which it fills at two bytes of a frame: the preamble at the first, and at the fifth either
`LL_PACKET_ACK` or the first queued packet in a link-layer frame (a NO_DATA frame when nothing
is queued). A data frame whose type is CONTROL may queue a HID reply when it ends.

`mtSpiLlFrame` is the link-layer frame a payload goes out in, as the protocol lays it out:
header, payload, zero padding to 510 bytes and the CRC16 of those 510. `MtSpiFwFrames` is what a
run of host frames is answered with, and how the queue moves on.

* `appleMtSpiTransferBytes_quiet` — while the bytes of a frame only join `rx`, the answers are
  the next bytes of `tx`, `(T.drop j).take n`.
* `appleMtSpiTransferBytes_ackFrame`, `appleMtSpiTransferBytes_dataFrame` — one frame, between
  two frames where `rx` and `tx` are free.
* `mt_spi_fw_frames_framed` — every run of complete frames is answered as `MtSpiFwFrames` says,
  with `rx` and `tx` free after each frame, and after every byte the interrupt is low exactly
  when a reply is queued.
-/

namespace QemuAppleSilicon.Arm

open QemuAppleSilicon.Lib

/-! ## Clocking bytes -/

/-- Bytes clocked in one after another through `apple_mt_spi_transfer`, with the byte each one
is answered with: what the SPI controller reads back from a transfer of `bs`.
Source: `hw/arm/apple-silicon/mt-spi.c` `apple_mt_spi_transfer`
Kind: D -/
def appleMtSpiTransferBytes (s : AppleMTSPIState) :
    List UInt8 → Option (List UInt8 × AppleMTSPIState)
  | [] => some ([], s)
  | b :: bs => do
    let (r, s) ← appleMtSpiTransfer s b.toUInt32
    let (rs, s) ← appleMtSpiTransferBytes s bs
    return (r.toUInt8 :: rs, s)

section clock

variable {s s₁ : AppleMTSPIState}

@[simp] theorem appleMtSpiTransferBytes_nil (s : AppleMTSPIState) :
    appleMtSpiTransferBytes s [] = some ([], s) := rfl

theorem appleMtSpiTransferBytes_cons_of {b : UInt8} {r : UInt32}
    (h : appleMtSpiTransfer s b.toUInt32 = some (r, s₁)) (bs : List UInt8) :
    appleMtSpiTransferBytes s (b :: bs) =
      (appleMtSpiTransferBytes s₁ bs).map fun p => (r.toUInt8 :: p.1, p.2) := by
  simp only [appleMtSpiTransferBytes, h, Option.bind_eq_bind, Option.bind_some]
  cases appleMtSpiTransferBytes s₁ bs <;> rfl

/-- A transfer that went through is one of its first byte and one of the rest. -/
theorem appleMtSpiTransferBytes_cons_eq_some {b : UInt8} {bs o : List UInt8}
    (h : appleMtSpiTransferBytes s (b :: bs) = some (o, s₁)) :
    ∃ r s₀ o', appleMtSpiTransfer s b.toUInt32 = some (r, s₀) ∧
      appleMtSpiTransferBytes s₀ bs = some (o', s₁) ∧ o = r.toUInt8 :: o' := by
  simp only [appleMtSpiTransferBytes, Option.bind_eq_bind, Option.bind_eq_some_iff,
    Option.pure_def, Option.some.injEq] at h
  obtain ⟨⟨r, s₀⟩, hr, ⟨o', s'⟩, ho, heq⟩ := h
  cases heq
  exact ⟨r, s₀, o', hr, ho, rfl⟩

theorem appleMtSpiTransferBytes_append_of {bs o : List UInt8}
    (h : appleMtSpiTransferBytes s bs = some (o, s₁)) (cs : List UInt8) :
    appleMtSpiTransferBytes s (bs ++ cs) =
      (appleMtSpiTransferBytes s₁ cs).map fun p => (o ++ p.1, p.2) := by
  induction bs generalizing s o with
  | nil =>
    cases h
    rw [List.nil_append]
    cases appleMtSpiTransferBytes s₁ cs <;> rfl
  | cons b bs ih =>
    obtain ⟨r, s₀, o', hr, ho, rfl⟩ := appleMtSpiTransferBytes_cons_eq_some h
    rw [List.cons_append, appleMtSpiTransferBytes_cons_of hr, ih ho, Option.map_map]
    rfl

theorem appleMtSpiTransferBytes_append {bs cs o o' : List UInt8} {s₂ : AppleMTSPIState}
    (h : appleMtSpiTransferBytes s bs = some (o, s₁))
    (h' : appleMtSpiTransferBytes s₁ cs = some (o', s₂)) :
    appleMtSpiTransferBytes s (bs ++ cs) = some (o ++ o', s₂) := by
  rw [appleMtSpiTransferBytes_append_of h, h', Option.map_some]

end clock

/-! ## `rx` and `tx` during a frame -/

section buffer

/-- A reply `T` of which the first `j` bytes went out: what `tx` holds while it is popped, and
the freed buffer once `apple_mt_spi_buf_pop` has taken its last byte. -/
def appleMtSpiBufAt (T : List UInt8) (j : ℕ) : AppleMTSPIBuffer :=
  if j < T.length then ⟨T, T.length, j⟩ else appleMtSpiBufFree

variable {T : List UInt8} {j : ℕ}

theorem appleMtSpiBufAt_of_le (h : T.length ≤ j) : appleMtSpiBufAt T j = appleMtSpiBufFree := by
  rw [appleMtSpiBufAt, if_neg (by omega)]

/-- Source: `hw/arm/apple-silicon/mt-spi.c` `apple_mt_spi_buf_pop`. Kind: L -/
theorem appleMtSpiBufPop_bufAt (h : j < T.length) :
    appleMtSpiBufPop (appleMtSpiBufAt T j) = some (T[j], appleMtSpiBufAt T (j + 1)) := by
  have hne : appleMtSpiBufIsEmpty ⟨T, T.length, j⟩ = false := by
    simp only [appleMtSpiBufIsEmpty, beq_eq_false_iff_ne]
    omega
  rw [appleMtSpiBufAt, if_pos h]
  unfold appleMtSpiBufPop
  rw [if_neg (by simp [hne]), dif_pos h]
  -- the pop of the last byte frees the buffer, which is `appleMtSpiBufAt` past the end
  by_cases hend : j + 1 = T.length
  · rw [hend, appleMtSpiBufAt_of_le le_rfl]
    simp [appleMtSpiBufReadPosAtEnd, hend]
  · have hnext : j + 1 < T.length := by omega
    simp [appleMtSpiBufReadPosAtEnd, hend, hne, appleMtSpiBufAt, hnext]

/-- A push onto a freed buffer: the bytes, none of them sent yet.
Source: `hw/arm/apple-silicon/mt-spi.c` `apple_mt_spi_buf_push_byte`
Kind: L -/
theorem appleMtSpiBufPushBytes_free {bs : List UInt8} (h : bs ≠ []) :
    appleMtSpiBufPushBytes appleMtSpiBufFree bs = appleMtSpiBufAt bs 0 := by
  have hpos : 0 < bs.length := List.length_pos_iff.mpr h
  simp [appleMtSpiBufPushBytes, appleMtSpiBufEnsureCapacity, appleMtSpiBufFree, appleMtSpiBufAt,
    hpos]

/-- A byte that fits joins the frame in `rx`.
Source: `hw/arm/apple-silicon/mt-spi.c` `apple_mt_spi_buf_push_byte`
Kind: L -/
theorem appleMtSpiBufPushByte_of_lt {D : List UInt8} {cap : ℕ} (h : D.length < cap) (b : UInt8) :
    appleMtSpiBufPushByte ⟨D, cap, 0⟩ b = ⟨D ++ [b], cap, 0⟩ := by
  simp only [appleMtSpiBufPushByte, appleMtSpiBufPushBytes, appleMtSpiBufEnsureCapacity,
    List.length_singleton]
  rw [if_neg (by omega)]

/-- Source: `hw/arm/apple-silicon/mt-spi.c` `apple_mt_spi_buf_append`. Kind: L -/
@[simp] theorem appleMtSpiBufAppend_fst_data (buf other : AppleMTSPIBuffer) :
    (appleMtSpiBufAppend buf other).1.data = buf.data ++ other.data := by
  unfold appleMtSpiBufAppend
  split
  · rfl
  · rename_i h
    simp only [Bool.not_eq_true', Bool.not_eq_false, appleMtSpiBufIsEmpty, beq_iff_eq,
      List.length_eq_zero_iff] at h
    simp [h]

end buffer

/-! ## The frames the protocol sends -/

section frames

/-- The preamble every firmware frame is answered with first: `0xDEADBEEF`, little-endian.
Source: `hw/arm/apple-silicon/mt-spi.c` `apple_mt_spi_push_preamble`
Kind: D -/
def llPreambleBytes : List UInt8 := leBytes LL_PACKET_PREAMBLE.toNat 4

/-- The answer to an acknowledgement-family frame after the preamble: `LL_PACKET_ACK`,
little-endian.
Source: `hw/arm/apple-silicon/mt-spi.c` `apple_mt_spi_handle_fw`
Kind: D -/
def llAckBytes : List UInt8 := leBytes LL_PACKET_ACK.toNat 4

/-- The link-layer frame a payload of type `type` goes out in: the eight-byte header (the type,
interface 0, payload offset and remaining 0, and the payload length), the payload, zeros up to
`LL_PACKET_LEN - 6` bytes, and the CRC16 of all of those, little-endian. The preamble before it
makes `LL_PACKET_LEN` bytes.
Source: `hw/arm/apple-silicon/mt-spi.c` `apple_mt_spi_handle_fw_packet`
Kind: D -/
def mtSpiLlFrame (type : UInt8) (payload : List UInt8) : List UInt8 :=
  let body := [type, 0, 0, 0, 0, 0] ++ leBytes payload.length 2 ++ payload ++
    List.replicate (LL_PACKET_LEN - 14 - payload.length) 0
  body ++ leBytes (crc16 0 body).toNat 2

/-- What a data frame is answered with after the preamble: the first queued packet in its
link-layer frame, or a NO_DATA frame when none is queued.
Source: `hw/arm/apple-silicon/mt-spi.c` `apple_mt_spi_handle_fw_packet`
Kind: D -/
def mtSpiFwReplyFrame : List AppleMTSPILLPacket → List UInt8
  | [] => mtSpiLlFrame LL_PACKET_NO_DATA []
  | p :: _ => mtSpiLlFrame p.type p.buf.data

/-- A packet a link-layer frame has room for: `apple_mt_spi_pad_ll_packet` asserts the frame is
not longer than the padding.
Source: `hw/arm/apple-silicon/mt-spi.c` `apple_mt_spi_pad_ll_packet`
Kind: D -/
def AppleMTSPILLPacket.Fits (p : AppleMTSPILLPacket) : Prop := p.buf.data.length ≤ LL_PACKET_LEN - 14

theorem mtSpiLlFrame_length (type : UInt8) {payload : List UInt8}
    (h : payload.length ≤ LL_PACKET_LEN - 14) :
    (mtSpiLlFrame type payload).length = LL_PACKET_LEN - 4 := by
  simp only [mtSpiLlFrame, List.length_append, List.length_cons, List.length_nil, leBytes_length,
    List.length_replicate, LL_PACKET_LEN] at h ⊢
  omega

theorem mtSpiFwReplyFrame_length {q : List AppleMTSPILLPacket} (hq : ∀ p ∈ q.head?, p.Fits) :
    (mtSpiFwReplyFrame q).length = LL_PACKET_LEN - 4 := by
  cases q with
  | nil => exact mtSpiLlFrame_length _ (by decide)
  | cons p rest => exact mtSpiLlFrame_length _ (hq p rfl)

/-- Source: `hw/arm/apple-silicon/mt-spi.c` `apple_mt_spi_push_ll_hdr`. Kind: L -/
@[simp] theorem appleMtSpiPushLlHdr_data (buf : AppleMTSPIBuffer) (type interface : UInt8)
    (payloadOff payloadRemaining payloadLength : UInt16) :
    (appleMtSpiPushLlHdr buf type interface payloadOff payloadRemaining payloadLength).data =
      buf.data ++ [type, interface] ++ leBytes payloadOff.toNat 2 ++
        leBytes payloadRemaining.toNat 2 ++ leBytes payloadLength.toNat 2 := by
  simp [appleMtSpiPushLlHdr, appleMtSpiBufPushWord]

/-- Source: `hw/arm/apple-silicon/mt-spi.c` `apple_mt_spi_buf_set_len`. Kind: L -/
theorem appleMtSpiBufSetLen_of_le {buf : AppleMTSPIBuffer} {len : ℕ} (val : UInt8)
    (h : buf.data.length ≤ len) :
    ∃ buf', appleMtSpiBufSetLen buf val len = some buf' ∧
      buf'.data = buf.data ++ List.replicate (len - buf.data.length) val := by
  simp [appleMtSpiBufSetLen, h]

/-- Source: `hw/arm/apple-silicon/mt-spi.c` `apple_mt_spi_buf_push_crc16`. Kind: L -/
theorem appleMtSpiBufPushCrc16_of_ne_nil {buf : AppleMTSPIBuffer} (h : buf.data ≠ []) :
    appleMtSpiBufPushCrc16 buf = some (appleMtSpiBufPushWord buf (crc16 0 buf.data)) := by
  simp [appleMtSpiBufPushCrc16, appleMtSpiBufIsEmpty, h]

/-- Padding and the CRC word turn a header and a payload that fit into the link-layer frame.
Source: `hw/arm/apple-silicon/mt-spi.c` `apple_mt_spi_handle_fw_packet`
Kind: L -/
theorem appleMtSpiPadLlPacket_crc {b : AppleMTSPIBuffer} {t : UInt8} {d : List UInt8}
    (hbuf : b.data = [t, 0, 0, 0, 0, 0] ++ leBytes d.length 2 ++ d)
    (hlen : d.length ≤ LL_PACKET_LEN - 14) :
    ∃ padded framed, appleMtSpiPadLlPacket b = some padded ∧
      appleMtSpiBufPushCrc16 padded = some framed ∧ framed.data = mtSpiLlFrame t d := by
  have hfit : b.data.length ≤ LL_PACKET_LEN - 4 - 2 := by
    simp only [hbuf, List.length_append, List.length_cons, List.length_nil, leBytes_length,
      LL_PACKET_LEN] at hlen ⊢
    omega
  obtain ⟨padded, hpad, hdata⟩ := appleMtSpiBufSetLen_of_le 0 hfit
  -- the padding is the frame's: `LL_PACKET_LEN - 6` less the header and the payload
  have hzeros : LL_PACKET_LEN - 4 - 2 - b.data.length = LL_PACKET_LEN - 14 - d.length := by
    simp only [hbuf, List.length_append, List.length_cons, List.length_nil, leBytes_length,
      LL_PACKET_LEN] at hlen ⊢
    omega
  have hne : padded.data ≠ [] := by simp [hdata, hbuf]
  refine ⟨padded, _, hpad, appleMtSpiBufPushCrc16_of_ne_nil hne, ?_⟩
  rw [hzeros] at hdata
  simp only [appleMtSpiBufPushWord, appleMtSpiBufPushBytes_data, hdata, hbuf, mtSpiLlFrame]

/-- The reply `apple_mt_spi_handle_fw_packet` builds for the queue is its first packet's
link-layer frame, or NO_DATA's, and the packet leaves the queue.
Source: `hw/arm/apple-silicon/mt-spi.c` `apple_mt_spi_handle_fw_packet`
Kind: L -/
theorem appleMtSpiFwReply_eq {q : List AppleMTSPILLPacket} (hq : ∀ p ∈ q.head?, p.Fits) :
    ∃ buf, appleMtSpiFwReply q = some (buf, q.tail) ∧ buf.data = mtSpiFwReplyFrame q := by
  cases q with
  | nil =>
    obtain ⟨padded, framed, hpad, hcrc, hdata⟩ := appleMtSpiPadLlPacket_crc
      (b := appleMtSpiPushLlHdr appleMtSpiBufFree LL_PACKET_NO_DATA 0 0 0 0)
      (t := LL_PACKET_NO_DATA) (d := []) (by decide) (by decide)
    exact ⟨framed, by simp [appleMtSpiFwReply, appleMtSpiPushNoData, hpad, hcrc], hdata⟩
  | cons p rest =>
    have hlen := hq p rfl
    have hword : (UInt16.ofNat p.buf.data.length).toNat = p.buf.data.length := by
      simp only [UInt16.toNat_ofNat', Nat.reducePow]
      exact Nat.mod_eq_of_lt (by unfold AppleMTSPILLPacket.Fits LL_PACKET_LEN at hlen; omega)
    obtain ⟨padded, framed, hpad, hcrc, hdata⟩ := appleMtSpiPadLlPacket_crc (t := p.type)
      (b := (appleMtSpiBufAppend (appleMtSpiPushLlHdr appleMtSpiBufFree p.type 0 0 0
        (UInt16.ofNat p.buf.data.length)) p.buf).1)
      (by simp [appleMtSpiBufFree, hword]; rfl) hlen
    exact ⟨framed, by simp [appleMtSpiFwReply, hpad, hcrc], hdata⟩

/-- The types `apple_mt_spi_handle_fw` answers with `LL_PACKET_ACK`: the low bytes of ERROR, ACK,
NAK and BUSY.
Source: `hw/arm/apple-silicon/mt-spi.c` `apple_mt_spi_handle_fw`
Kind: D -/
def LlAckType (t : UInt8) : Prop :=
  t = (LL_PACKET_ERROR &&& 0xFF).toUInt8 ∨ t = (LL_PACKET_ACK &&& 0xFF).toUInt8 ∨
    t = (LL_PACKET_NAK &&& 0xFF).toUInt8 ∨ t = (LL_PACKET_BUSY &&& 0xFF).toUInt8

instance (t : UInt8) : Decidable (LlAckType t) :=
  inferInstanceAs (Decidable (_ ∨ _ ∨ _ ∨ _))

/-- An acknowledgement-family frame from the host: eight bytes, `0xEF` first and an
acknowledgement type at byte 4.
Source: `hw/arm/apple-silicon/mt-spi.c` `apple_mt_spi_handle_fw`
Kind: D -/
def MtSpiAckFrame (f : List UInt8) : Prop :=
  f.length = 8 ∧ f.head? = some 0xEF ∧ ∃ t, f[4]? = some t ∧ LlAckType t

/-- A data frame from the host: `LL_PACKET_LEN` bytes, `0xEF` first and any other type at byte 4.
Source: `hw/arm/apple-silicon/mt-spi.c` `apple_mt_spi_handle_fw_packet`
Kind: D -/
def MtSpiDataFrame (f : List UInt8) : Prop :=
  f.length = LL_PACKET_LEN ∧ f.head? = some 0xEF ∧ ∃ t, f[4]? = some t ∧ ¬LlAckType t

/-- A frame's bytes: `0xEF`, three more, the type, the rest and the last. -/
theorem mtSpiFrame_split {f : List UInt8} {n : ℕ} {t : UInt8} (hlen : f.length = n + 6)
    (h0 : f.head? = some 0xEF) (h4 : f[4]? = some t) :
    ∃ a b z, f = 0xEF :: (a ++ t :: (b ++ [z])) ∧ a.length = 3 ∧ b.length = n := by
  rcases f with _ | ⟨x0, _ | ⟨a1, _ | ⟨a2, _ | ⟨a3, _ | ⟨x4, rest⟩⟩⟩⟩⟩ <;>
    simp only [List.length_cons, List.length_nil] at hlen <;> try omega
  simp at h0 h4
  subst h0 h4
  have hne : rest ≠ [] := by
    rintro rfl
    simp at hlen
  refine ⟨[a1, a2, a3], rest.dropLast, rest.getLast hne, ?_, rfl, ?_⟩
  · rw [List.dropLast_append_getLast]
    rfl
  · rw [List.length_dropLast]
    omega

end frames

/-! ## Bytes that only join `rx` -/

section quiet

variable {s : AppleMTSPIState} {D : List UInt8} {cap : ℕ}

theorem appleMtSpiBufGetPos_of_ne_nil (hrx : s.rx = ⟨D, cap, 0⟩) (hne : D ≠ []) :
    appleMtSpiBufGetPos s.rx = some (D.length - 1) := by
  simp [appleMtSpiBufGetPos, hrx, hne]

/-- A byte of a data frame past its type byte that does not complete it changes nothing.
Source: `hw/arm/apple-silicon/mt-spi.c` `apple_mt_spi_handle_fw_packet`
Kind: L -/
theorem appleMtSpiHandleFwPacket_quiet (hrx : s.rx = ⟨D, cap, 0⟩) (hne : D ≠ [])
    (h5 : D.length ≠ 5) (hcap : D.length < cap) : appleMtSpiHandleFwPacket s = some s := by
  have hpos := appleMtSpiBufGetPos_of_ne_nil hrx hne
  have hfull : appleMtSpiBufIsFull s.rx = false := by
    simp only [appleMtSpiBufIsFull, hrx, beq_eq_false_iff_ne]
    omega
  have h4 : D.length - 1 ≠ 4 := by omega
  simp [appleMtSpiHandleFwPacket, hpos, hfull, h4]

theorem appleMtSpiBufPosAtStart_of_two_le (hrx : s.rx = ⟨D, cap, 0⟩) (h2 : 2 ≤ D.length) :
    appleMtSpiBufPosAtStart s.rx = some false := by
  simp only [appleMtSpiBufPosAtStart,
    appleMtSpiBufGetPos_of_ne_nil hrx (List.ne_nil_of_length_pos (by omega)), Option.map_some,
    Option.some.injEq, beq_eq_false_iff_ne]
  omega

/-- Past its type byte, a frame of an acknowledgement type changes nothing (`LL_PACKET_ACK` went
into `tx` at the type byte), and one of any other type goes to `apple_mt_spi_handle_fw_packet`.
Source: `hw/arm/apple-silicon/mt-spi.c` `apple_mt_spi_handle_fw`
Kind: L -/
theorem appleMtSpiHandleFw_tail {t : UInt8} (hrx : s.rx = ⟨D, cap, 0⟩) (h6 : 6 ≤ D.length)
    (hbyte : appleMtSpiBufReadByte s.rx 4 = some t) :
    appleMtSpiHandleFw s = if LlAckType t then some s else appleMtSpiHandleFwPacket s := by
  have hpos := appleMtSpiBufGetPos_of_ne_nil hrx (List.ne_nil_of_length_pos (by omega))
  have hlt : ¬D.length - 1 < 4 := by omega
  have h4 : D.length - 1 ≠ 4 := by omega
  simp only [appleMtSpiHandleFw, appleMtSpiBufPosAtStart_of_two_le hrx (by omega), hpos, hbyte,
    hlt, h4, Option.bind_eq_bind, Option.bind_some, Option.pure_def, Bool.false_eq_true, if_false]
  rfl

/-- A byte of a frame that is neither its first nor its type byte, and does not complete it,
changes nothing, whatever the type.
Source: `hw/arm/apple-silicon/mt-spi.c` `apple_mt_spi_handle_fw`
Kind: L -/
theorem appleMtSpiHandleFw_quiet (hrx : s.rx = ⟨D, cap, 0⟩) (h2 : 2 ≤ D.length)
    (h5 : D.length ≠ 5) (hcap : D.length < cap) : appleMtSpiHandleFw s = some s := by
  have hne : D ≠ [] := List.ne_nil_of_length_pos (by omega)
  by_cases hlt : D.length - 1 < 4
  -- before the type byte
  · simp [appleMtSpiHandleFw, appleMtSpiBufPosAtStart_of_two_le hrx h2,
      appleMtSpiBufGetPos_of_ne_nil hrx hne, hlt]
  -- past it, the handler of the frame's type waits for the frame to fill
  · obtain ⟨t, hbyte⟩ : ∃ t, appleMtSpiBufReadByte s.rx 4 = some t := by
      simp only [appleMtSpiBufReadByte, hrx]
      exact ⟨_, dif_pos (by omega)⟩
    rw [appleMtSpiHandleFw_tail hrx (by omega) hbyte]
    split
    · rfl
    · exact appleMtSpiHandleFwPacket_quiet hrx hne h5 hcap

/-- The device in the middle of a frame: `rx` and `tx` as the frame has them, and the interrupt
as `apple_mt_spi_transfer` drives it after every byte.
Source: `hw/arm/apple-silicon/mt-spi.c` `apple_mt_spi_transfer`
Kind: D -/
def mtSpiFwMid (s : AppleMTSPIState) (rx tx : AppleMTSPIBuffer) : AppleMTSPIState :=
  { s with rx := rx, tx := tx, irq := appleMtSpiBufIsEmpty s.pendingHbpp && s.pendingFw.isEmpty }

@[simp] theorem mtSpiFwMid_rx (s : AppleMTSPIState) (rx tx : AppleMTSPIBuffer) :
    (mtSpiFwMid s rx tx).rx = rx := rfl

@[simp] theorem mtSpiFwMid_tx (s : AppleMTSPIState) (rx tx : AppleMTSPIBuffer) :
    (mtSpiFwMid s rx tx).tx = tx := rfl

@[simp] theorem mtSpiFwMid_pendingFw (s : AppleMTSPIState) (rx tx : AppleMTSPIBuffer) :
    (mtSpiFwMid s rx tx).pendingFw = s.pendingFw := rfl

@[simp] theorem mtSpiFwMid_pendingHbpp (s : AppleMTSPIState) (rx tx : AppleMTSPIBuffer) :
    (mtSpiFwMid s rx tx).pendingHbpp = s.pendingHbpp := rfl

@[simp] theorem mtSpiFwMid_mtSpiFwMid (s : AppleMTSPIState) (rx tx rx' tx' : AppleMTSPIBuffer) :
    mtSpiFwMid (mtSpiFwMid s rx tx) rx' tx' = mtSpiFwMid s rx' tx' := rfl

/-- A byte of a frame whose handler leaves `tx` holding the reply `T` with `j` bytes sent: the
answer is byte `j` of `T`, and a full `rx` ends the frame.
Source: `hw/arm/apple-silicon/mt-spi.c` `apple_mt_spi_transfer`
Kind: L -/
theorem appleMtSpiTransfer_of_fw {s₁ : AppleMTSPIState} {b : UInt8} {T : List UInt8} {j : ℕ}
    (hfirst : appleMtSpiBufReadByte (appleMtSpiBufPushByte s.rx b) 0 = some 0xEF)
    (hfw : appleMtSpiHandleFw { s with rx := appleMtSpiBufPushByte s.rx b } = some s₁)
    (htx : s₁.tx = appleMtSpiBufAt T j) (hj : j < T.length) :
    appleMtSpiTransfer s b.toUInt32 = some (T[j].toUInt32, mtSpiFwMid s₁
      (if appleMtSpiBufIsFull s₁.rx then appleMtSpiBufFree else s₁.rx) (appleMtSpiBufAt T (j + 1))) := by
  have hpop : appleMtSpiBufPop s₁.tx = some (T[j], appleMtSpiBufAt T (j + 1)) := by
    rw [htx, appleMtSpiBufPop_bufAt hj]
  simp only [appleMtSpiTransfer, UInt8.toUInt8_toUInt32, LL_PACKET_PREAMBLE_low, hfirst]
  by_cases hfull : appleMtSpiBufIsFull s₁.rx = true <;> simp [hfw, hfull, hpop, mtSpiFwMid]

/-- `appleMtSpiTransfer_of_fw` for the one byte clocked in.
Source: `hw/arm/apple-silicon/mt-spi.c` `apple_mt_spi_transfer`
Kind: L -/
theorem appleMtSpiTransferBytes_of_fw {s₁ : AppleMTSPIState} {b : UInt8} {T : List UInt8} {j : ℕ}
    (hfirst : appleMtSpiBufReadByte (appleMtSpiBufPushByte s.rx b) 0 = some 0xEF)
    (hfw : appleMtSpiHandleFw { s with rx := appleMtSpiBufPushByte s.rx b } = some s₁)
    (htx : s₁.tx = appleMtSpiBufAt T j) (hj : j < T.length) :
    appleMtSpiTransferBytes s [b] = some ((T.drop j).take 1, mtSpiFwMid s₁
      (if appleMtSpiBufIsFull s₁.rx then appleMtSpiBufFree else s₁.rx) (appleMtSpiBufAt T (j + 1))) := by
  rw [appleMtSpiTransferBytes_cons_of (appleMtSpiTransfer_of_fw hfirst hfw htx hj),
    appleMtSpiTransferBytes_nil, Option.map_some, UInt8.toUInt8_toUInt32,
    List.take_one_drop_eq_of_lt_length hj]
  rfl

/-- A byte of a frame that is neither its first nor its type byte, and does not complete it:
it joins `rx`, and `tx` answers with its next byte.
Source: `hw/arm/apple-silicon/mt-spi.c` `apple_mt_spi_transfer`
Kind: L -/
theorem appleMtSpiTransfer_quiet {pre T : List UInt8} {j : ℕ} (b : UInt8)
    (hrx : s.rx = ⟨0xEF :: pre, cap, 0⟩) (h3 : pre.length ≠ 3) (hcap : pre.length + 2 < cap)
    (htx : s.tx = appleMtSpiBufAt T j) (hj : j < T.length) :
    appleMtSpiTransfer s b.toUInt32 =
      some (T[j].toUInt32, mtSpiFwMid s ⟨0xEF :: (pre ++ [b]), cap, 0⟩ (appleMtSpiBufAt T (j + 1))) := by
  have hpush : appleMtSpiBufPushByte s.rx b = ⟨0xEF :: (pre ++ [b]), cap, 0⟩ := by
    rw [hrx, appleMtSpiBufPushByte_of_lt (by simp; omega)]
    rfl
  have hlen : (0xEF :: (pre ++ [b])).length = pre.length + 2 := by simp
  have hfw := appleMtSpiHandleFw_quiet (s := { s with rx := appleMtSpiBufPushByte s.rx b }) hpush
    (by omega) (by omega) (by omega)
  have hfull : appleMtSpiBufIsFull (appleMtSpiBufPushByte s.rx b) = false := by
    simp only [hpush, appleMtSpiBufIsFull, beq_eq_false_iff_ne, hlen]
    omega
  rw [appleMtSpiTransfer_of_fw (T := T) (j := j) (by rw [hpush]; rfl) hfw htx hj,
    if_neg (by simp [hfull])]
  simp [hpush, mtSpiFwMid]

/-- Bytes that only join `rx` are answered with the next bytes of `tx`. The induction is on the
bytes, with the frame in `rx` and the part of `tx` sent growing together.
Source: `hw/arm/apple-silicon/mt-spi.c` `apple_mt_spi_transfer`
Kind: L -/
theorem appleMtSpiTransferBytes_quiet (s : AppleMTSPIState) (bs pre : List UInt8) (cap : ℕ)
    {T : List UInt8} {j : ℕ} (h3 : pre.length + bs.length ≤ 3 ∨ 4 ≤ pre.length)
    (hcap : pre.length + bs.length + 1 < cap) (hj : j + bs.length ≤ T.length) :
    appleMtSpiTransferBytes (mtSpiFwMid s ⟨0xEF :: pre, cap, 0⟩ (appleMtSpiBufAt T j)) bs =
      some ((T.drop j).take bs.length,
        mtSpiFwMid s ⟨0xEF :: (pre ++ bs), cap, 0⟩ (appleMtSpiBufAt T (j + bs.length))) := by
  induction bs generalizing pre j with
  | nil => simp
  | cons b bs ih =>
    simp only [List.length_cons] at h3 hcap hj
    have hlen : (pre ++ [b]).length = pre.length + 1 := by simp
    have hstep := appleMtSpiTransfer_quiet (s := mtSpiFwMid s ⟨0xEF :: pre, cap, 0⟩
      (appleMtSpiBufAt T j)) b rfl (by omega) (by omega) rfl (by omega)
    rw [appleMtSpiTransferBytes_cons_of hstep, mtSpiFwMid_mtSpiFwMid,
      ih (pre ++ [b]) (j := j + 1) (by omega) (by omega) (by omega),
      Option.map_some, List.drop_eq_getElem_cons (by omega : j < T.length),
      UInt8.toUInt8_toUInt32, List.length_cons, List.take_succ_cons, List.append_assoc,
      List.singleton_append, show j + 1 + bs.length = j + (bs.length + 1) by omega]

end quiet

/-! ## The bytes that fill `tx` and end a frame -/

section edges

variable {s : AppleMTSPIState} {D pre : List UInt8} {cap : ℕ} {t : UInt8}

/-- Source: `hw/arm/apple-silicon/mt-spi.c` `apple_mt_spi_push_preamble`. Kind: L -/
theorem appleMtSpiPushPreamble_free :
    appleMtSpiPushPreamble appleMtSpiBufFree = appleMtSpiBufAt llPreambleBytes 0 :=
  appleMtSpiBufPushBytes_free (by decide)

/-- Source: `hw/arm/apple-silicon/mt-spi.c` `apple_mt_spi_handle_fw`. Kind: L -/
theorem appleMtSpiBufPushDword_free_ack :
    appleMtSpiBufPushDword appleMtSpiBufFree LL_PACKET_ACK = appleMtSpiBufAt llAckBytes 0 :=
  appleMtSpiBufPushBytes_free (by decide)

/-- Source: `hw/arm/apple-silicon/mt-spi.c` `apple_mt_spi_buf_append`. Kind: L -/
theorem appleMtSpiBufAppend_free {other : AppleMTSPIBuffer} (h : other.data ≠ []) :
    (appleMtSpiBufAppend appleMtSpiBufFree other).1 = appleMtSpiBufAt other.data 0 := by
  have hne : appleMtSpiBufIsEmpty other = false := by simp [appleMtSpiBufIsEmpty, h]
  simp [appleMtSpiBufAppend, hne, appleMtSpiBufPushBytes_free h]

/-- The first byte of a frame, into a free `rx`: the frame is two words long until its type says
otherwise, and the preamble goes into `tx`.
Source: `hw/arm/apple-silicon/mt-spi.c` `apple_mt_spi_handle_fw`
Kind: L -/
theorem appleMtSpiHandleFw_first (hrx : s.rx = ⟨[0xEF], 1, 0⟩) (htx : s.tx = appleMtSpiBufFree) :
    appleMtSpiHandleFw s =
      some { s with rx := ⟨[0xEF], 8, 0⟩, tx := appleMtSpiBufAt llPreambleBytes 0 } := by
  simp [appleMtSpiHandleFw, hrx, htx, appleMtSpiBufPosAtStart, appleMtSpiBufGetPos,
    appleMtSpiBufSetCapacity, appleMtSpiPushPreamble_free]

theorem appleMtSpiBufReadByte_type (hpre : pre.length = 3) (rest : List UInt8) (cap : ℕ) :
    appleMtSpiBufReadByte ⟨0xEF :: (pre ++ t :: rest), cap, 0⟩ 4 = some t := by
  obtain ⟨a, b, c, rfl⟩ := List.length_eq_three.mp hpre
  simp [appleMtSpiBufReadByte]

/-- At the type byte an acknowledgement type queues `LL_PACKET_ACK`, and any other goes to
`apple_mt_spi_handle_fw_packet`.
Source: `hw/arm/apple-silicon/mt-spi.c` `apple_mt_spi_handle_fw`
Kind: L -/
theorem appleMtSpiHandleFw_type (hrx : s.rx = ⟨0xEF :: (pre ++ [t]), cap, 0⟩)
    (hpre : pre.length = 3) :
    appleMtSpiHandleFw s = if LlAckType t then
      some { s with tx := appleMtSpiBufPushDword s.tx LL_PACKET_ACK }
    else appleMtSpiHandleFwPacket s := by
  have hpos : appleMtSpiBufGetPos s.rx = some 4 := by simp [appleMtSpiBufGetPos, hrx, hpre]
  have hbyte : appleMtSpiBufReadByte s.rx 4 = some t := by
    rw [hrx]
    exact appleMtSpiBufReadByte_type hpre [] cap
  simp only [appleMtSpiHandleFw, appleMtSpiBufPosAtStart_of_two_le hrx (by simp [hpre]), hpos,
    hbyte, Option.bind_eq_bind, Option.bind_some, Option.pure_def, Bool.false_eq_true, if_false]
  rfl

/-- At the type byte of a data frame the frame becomes `LL_PACKET_LEN` long, and the reply to it,
built from the head of the queue, goes into the free `tx`.
Source: `hw/arm/apple-silicon/mt-spi.c` `apple_mt_spi_handle_fw_packet`
Kind: L -/
theorem appleMtSpiHandleFwPacket_type (hrx : s.rx = ⟨D, 8, 0⟩) (h5 : D.length = 5)
    (htx : s.tx = appleMtSpiBufFree) (hq : ∀ p ∈ s.pendingFw.head?, p.Fits) :
    appleMtSpiHandleFwPacket s = some { s with
      rx := ⟨D, LL_PACKET_LEN, 0⟩
      tx := appleMtSpiBufAt (mtSpiFwReplyFrame s.pendingFw) 0
      pendingFw := s.pendingFw.tail } := by
  obtain ⟨buf, hreply, hdata⟩ := appleMtSpiFwReply_eq hq
  have hne : buf.data ≠ [] := by
    rw [hdata]
    exact List.ne_nil_of_length_pos (by rw [mtSpiFwReplyFrame_length hq]; decide)
  have hpos : appleMtSpiBufGetPos s.rx = some 4 := by simp [appleMtSpiBufGetPos, hrx, h5]
  have hcap : appleMtSpiBufSetCapacity s.rx LL_PACKET_LEN = some ⟨D, LL_PACKET_LEN, 0⟩ := by
    simp [appleMtSpiBufSetCapacity, hrx, LL_PACKET_LEN]
  have hfull : appleMtSpiBufIsFull ⟨D, LL_PACKET_LEN, 0⟩ = false := by
    simp [appleMtSpiBufIsFull, h5, LL_PACKET_LEN]
  simp [appleMtSpiHandleFwPacket, hpos, hcap, hreply, htx, appleMtSpiBufAppend_free hne, hdata,
    hfull]

theorem appleMtSpiLlReadPayloadByte_of_lt {b : AppleMTSPIBuffer} {k : ℕ}
    (h : 4 + 8 + k < b.data.length) : ∃ v, appleMtSpiLlReadPayloadByte b k = some v := by
  have hne : appleMtSpiBufIsEmpty b = false := by
    simp only [appleMtSpiBufIsEmpty, beq_eq_false_iff_ne]
    omega
  simp only [appleMtSpiLlReadPayloadByte, hne, Bool.false_eq_true, if_false]
  exact ⟨_, dif_pos (by omega)⟩

/-- Every feature report is a few bytes, so it fits a link-layer frame with its CRC word.
Source: `hw/arm/apple-silicon/mt-spi.c` `apple_mt_spi_handle_get_feature`
Kind: L -/
theorem appleMtSpiFeatureReport_length (reportId frameNumber : UInt8) :
    (appleMtSpiFeatureReport reportId frameNumber).data ≠ [] ∧
      (appleMtSpiFeatureReport reportId frameNumber).data.length ≤ 31 := by
  unfold appleMtSpiFeatureReport
  split_ifs <;> simp [appleMtSpiPushReportByte, appleMtSpiPushReportHdr, appleMtSpiPushHidHdr,
    appleMtSpiBufPushWord, appleMtSpiBufPushDword, appleMtSpiBufFree]

/-- A GET_FEATURE_REPORT queues one reply that fits a frame.
Source: `hw/arm/apple-silicon/mt-spi.c` `apple_mt_spi_handle_get_feature`
Kind: L -/
theorem appleMtSpiHandleGetFeature_fits (hlen : 16 ≤ s.rx.data.length) :
    ∃ p : AppleMTSPILLPacket, p.Fits ∧
      appleMtSpiHandleGetFeature s = some { s with pendingFw := s.pendingFw ++ [p] } := by
  obtain ⟨reportId, h1⟩ := appleMtSpiLlReadPayloadByte_of_lt (b := s.rx) (k := 1) (by omega)
  obtain ⟨frameNumber, h3⟩ := appleMtSpiLlReadPayloadByte_of_lt (b := s.rx) (k := 3) (by omega)
  obtain ⟨hne, hle⟩ := appleMtSpiFeatureReport_length reportId frameNumber
  refine ⟨⟨appleMtSpiBufPushWord (appleMtSpiFeatureReport reportId frameNumber)
    (crc16 0 (appleMtSpiFeatureReport reportId frameNumber).data), LL_PACKET_CONTROL⟩, ?_, ?_⟩
  · simp only [AppleMTSPILLPacket.Fits, appleMtSpiBufPushWord, appleMtSpiBufPushBytes_data,
      List.length_append, leBytes_length, LL_PACKET_LEN]
    omega
  · simp [appleMtSpiHandleGetFeature, h1, h3, appleMtSpiBufPushCrc16_of_ne_nil hne]

/-- A SET_FEATURE_REPORT queues one eight-byte reply with its CRC word.
Source: `hw/arm/apple-silicon/mt-spi.c` `apple_mt_spi_handle_set_feature`
Kind: L -/
theorem appleMtSpiHandleSetFeature_fits (hlen : 16 ≤ s.rx.data.length) :
    ∃ p : AppleMTSPILLPacket, p.Fits ∧
      appleMtSpiHandleSetFeature s = some { s with pendingFw := s.pendingFw ++ [p] } := by
  obtain ⟨reportId, h1⟩ := appleMtSpiLlReadPayloadByte_of_lt (b := s.rx) (k := 1) (by omega)
  obtain ⟨frameNumber, h3⟩ := appleMtSpiLlReadPayloadByte_of_lt (b := s.rx) (k := 3) (by omega)
  have hhdr : (appleMtSpiPushHidHdr appleMtSpiBufFree HID_CONTROL_PACKET_SET_OUTPUT_REPORT reportId
      HID_PACKET_STATUS_SUCCESS frameNumber 0 0).data.length = 8 := by
    simp [appleMtSpiPushHidHdr, appleMtSpiBufPushWord, appleMtSpiBufFree]
  have hne : (appleMtSpiPushHidHdr appleMtSpiBufFree HID_CONTROL_PACKET_SET_OUTPUT_REPORT reportId
      HID_PACKET_STATUS_SUCCESS frameNumber 0 0).data ≠ [] :=
    List.ne_nil_of_length_pos (by omega)
  refine ⟨⟨appleMtSpiBufPushWord (appleMtSpiPushHidHdr appleMtSpiBufFree
    HID_CONTROL_PACKET_SET_OUTPUT_REPORT reportId HID_PACKET_STATUS_SUCCESS frameNumber 0 0)
    (crc16 0 (appleMtSpiPushHidHdr appleMtSpiBufFree
    HID_CONTROL_PACKET_SET_OUTPUT_REPORT reportId HID_PACKET_STATUS_SUCCESS frameNumber 0 0).data),
    LL_PACKET_CONTROL⟩, ?_, ?_⟩
  · simp only [AppleMTSPILLPacket.Fits, appleMtSpiBufPushWord, appleMtSpiBufPushBytes_data,
      List.length_append, leBytes_length, hhdr, LL_PACKET_LEN]
    omega
  · simp [appleMtSpiHandleSetFeature, h1, h3, appleMtSpiBufPushCrc16_of_ne_nil hne]

/-- A CONTROL frame queues at most replies that fit a frame, and changes nothing else.
Source: `hw/arm/apple-silicon/mt-spi.c` `apple_mt_spi_handle_control`
Kind: L -/
theorem appleMtSpiHandleControl_fits (hlen : 16 ≤ s.rx.data.length) :
    ∃ new : List AppleMTSPILLPacket, (∀ p ∈ new, p.Fits) ∧
      appleMtSpiHandleControl s = some { s with pendingFw := s.pendingFw ++ new } := by
  obtain ⟨type, h0⟩ := appleMtSpiLlReadPayloadByte_of_lt (b := s.rx) (k := 0) (by omega)
  by_cases hget : type = HID_CONTROL_PACKET_GET_FEATURE_REPORT
  · obtain ⟨p, hp, h⟩ := appleMtSpiHandleGetFeature_fits hlen
    exact ⟨[p], by simpa using hp, by simp [appleMtSpiHandleControl, h0, hget, h]⟩
  by_cases hset : type = HID_CONTROL_PACKET_SET_FEATURE_REPORT
  · obtain ⟨p, hp, h⟩ := appleMtSpiHandleSetFeature_fits hlen
    have hne : HID_CONTROL_PACKET_SET_FEATURE_REPORT ≠ HID_CONTROL_PACKET_GET_FEATURE_REPORT := by
      decide
    exact ⟨[p], by simpa using hp, by simp [appleMtSpiHandleControl, h0, hset, hne, h]⟩
  · exact ⟨[], by simp, by simp [appleMtSpiHandleControl, h0, hget, hset]⟩

/-- The last byte of a data frame dispatches it on its type: a CONTROL frame may queue replies
that fit a frame, any other type changes nothing.
Source: `hw/arm/apple-silicon/mt-spi.c` `apple_mt_spi_handle_fw_packet`
Kind: L -/
theorem appleMtSpiHandleFwPacket_last (hrx : s.rx = ⟨D, LL_PACKET_LEN, 0⟩)
    (hlen : D.length = LL_PACKET_LEN) :
    ∃ new : List AppleMTSPILLPacket, (∀ p ∈ new, p.Fits) ∧
      appleMtSpiHandleFwPacket s = some { s with pendingFw := s.pendingFw ++ new } := by
  have hpos : appleMtSpiBufGetPos s.rx = some (LL_PACKET_LEN - 1) := by
    simp [appleMtSpiBufGetPos, hrx, hlen, LL_PACKET_LEN]
  have h4 : LL_PACKET_LEN - 1 ≠ 4 := by decide
  have hfull : appleMtSpiBufIsFull s.rx = true := by simp [appleMtSpiBufIsFull, hrx, hlen]
  obtain ⟨t, hbyte⟩ : ∃ t, appleMtSpiBufReadByte s.rx 4 = some t := by
    simp only [appleMtSpiBufReadByte, hrx]
    exact ⟨_, dif_pos (by rw [hlen]; decide)⟩
  by_cases hctl : t = LL_PACKET_CONTROL
  · obtain ⟨new, hnew, h⟩ := appleMtSpiHandleControl_fits (s := s) (by rw [hrx, hlen]; decide)
    refine ⟨new, hnew, ?_⟩
    simp [appleMtSpiHandleFwPacket, hpos, h4, hfull, hbyte, hctl, h, LL_PACKET_CONTROL,
      LL_PACKET_NO_DATA]
  · refine ⟨[], by simp, ?_⟩
    simp [appleMtSpiHandleFwPacket, hpos, h4, hfull, hbyte, hctl]

/-- The first byte of a frame, between two frames: the preamble starts to go out.
Source: `hw/arm/apple-silicon/mt-spi.c` `apple_mt_spi_transfer`
Kind: L -/
theorem appleMtSpiTransferBytes_fw_first (hrx : s.rx = appleMtSpiBufFree)
    (htx : s.tx = appleMtSpiBufFree) :
    appleMtSpiTransferBytes s [0xEF] = some (llPreambleBytes.take 1,
      mtSpiFwMid s ⟨[0xEF], 8, 0⟩ (appleMtSpiBufAt llPreambleBytes 1)) := by
  have hpush : appleMtSpiBufPushByte s.rx 0xEF = ⟨[0xEF], 1, 0⟩ := by
    rw [hrx]
    rfl
  have hfw := appleMtSpiHandleFw_first (s := { s with rx := appleMtSpiBufPushByte s.rx 0xEF })
    hpush htx
  rw [appleMtSpiTransferBytes_of_fw (T := llPreambleBytes) (j := 0) (by rw [hpush]; rfl) hfw rfl
    (by decide)]
  simp [appleMtSpiBufIsFull, mtSpiFwMid]

/-- The first four bytes of a frame, between two frames: the whole preamble goes out.
Source: `hw/arm/apple-silicon/mt-spi.c` `apple_mt_spi_transfer`
Kind: L -/
theorem appleMtSpiTransferBytes_fw_preamble {a : List UInt8} (hrx : s.rx = appleMtSpiBufFree)
    (htx : s.tx = appleMtSpiBufFree) (ha : a.length = 3) :
    appleMtSpiTransferBytes s (0xEF :: a) = some (llPreambleBytes,
      mtSpiFwMid s ⟨0xEF :: a, 8, 0⟩ (appleMtSpiBufAt llPreambleBytes 4)) := by
  have h1 := appleMtSpiTransferBytes_fw_first hrx htx
  have h2 := appleMtSpiTransferBytes_quiet s a [] 8 (T := llPreambleBytes)
    (j := 1) (by simp [ha]) (by simp [ha]) (by simp [ha, llPreambleBytes])
  have hP : llPreambleBytes.take 1 ++ (llPreambleBytes.drop 1).take a.length =
      llPreambleBytes := by
    rw [ha]
    decide
  rw [show 0xEF :: a = [0xEF] ++ a from rfl, appleMtSpiTransferBytes_append h1 h2, hP,
    List.nil_append, ha]
  rfl

/-- The type byte of an acknowledgement-family frame: `LL_PACKET_ACK` starts to go out.
Source: `hw/arm/apple-silicon/mt-spi.c` `apple_mt_spi_transfer`
Kind: L -/
theorem appleMtSpiTransferBytes_fw_ack_type (hrx : s.rx = ⟨0xEF :: pre, 8, 0⟩)
    (hpre : pre.length = 3) (htx : s.tx = appleMtSpiBufFree) (ht : LlAckType t) :
    appleMtSpiTransferBytes s [t] = some (llAckBytes.take 1,
      mtSpiFwMid s ⟨0xEF :: (pre ++ [t]), 8, 0⟩ (appleMtSpiBufAt llAckBytes 1)) := by
  have hpush : appleMtSpiBufPushByte s.rx t = ⟨0xEF :: (pre ++ [t]), 8, 0⟩ := by
    rw [hrx, appleMtSpiBufPushByte_of_lt (by simp [hpre])]
    rfl
  have hfw : appleMtSpiHandleFw { s with rx := appleMtSpiBufPushByte s.rx t } =
      some { s with rx := appleMtSpiBufPushByte s.rx t, tx := appleMtSpiBufAt llAckBytes 0 } := by
    rw [appleMtSpiHandleFw_type hpush hpre, if_pos ht]
    simp [htx, appleMtSpiBufPushDword_free_ack]
  rw [appleMtSpiTransferBytes_of_fw (T := llAckBytes) (j := 0) (by rw [hpush]; rfl) hfw rfl
    (by decide)]
  simp [hpush, appleMtSpiBufIsFull, hpre, mtSpiFwMid]

/-- The type byte of a data frame: the frame becomes `LL_PACKET_LEN` long, the head of the queue
leaves it, and its link-layer frame starts to go out.
Source: `hw/arm/apple-silicon/mt-spi.c` `apple_mt_spi_transfer`
Kind: L -/
theorem appleMtSpiTransferBytes_fw_data_type (hrx : s.rx = ⟨0xEF :: pre, 8, 0⟩)
    (hpre : pre.length = 3) (htx : s.tx = appleMtSpiBufFree) (ht : ¬LlAckType t)
    (hq : ∀ p ∈ s.pendingFw.head?, p.Fits) :
    appleMtSpiTransferBytes s [t] = some ((mtSpiFwReplyFrame s.pendingFw).take 1,
      mtSpiFwMid { s with pendingFw := s.pendingFw.tail } ⟨0xEF :: (pre ++ [t]), LL_PACKET_LEN, 0⟩
        (appleMtSpiBufAt (mtSpiFwReplyFrame s.pendingFw) 1)) := by
  have hpush : appleMtSpiBufPushByte s.rx t = ⟨0xEF :: (pre ++ [t]), 8, 0⟩ := by
    rw [hrx, appleMtSpiBufPushByte_of_lt (by simp [hpre])]
    rfl
  have hfw : appleMtSpiHandleFw { s with rx := appleMtSpiBufPushByte s.rx t } =
      some { s with
        rx := ⟨0xEF :: (pre ++ [t]), LL_PACKET_LEN, 0⟩
        tx := appleMtSpiBufAt (mtSpiFwReplyFrame s.pendingFw) 0
        pendingFw := s.pendingFw.tail } := by
    rw [appleMtSpiHandleFw_type hpush hpre, if_neg ht]
    exact appleMtSpiHandleFwPacket_type (s := { s with rx := appleMtSpiBufPushByte s.rx t }) hpush
      (by simp [hpre]) htx hq
  rw [appleMtSpiTransferBytes_of_fw (T := mtSpiFwReplyFrame s.pendingFw) (j := 0)
    (by rw [hpush]; rfl) hfw rfl (by rw [mtSpiFwReplyFrame_length hq]; decide)]
  simp [appleMtSpiBufIsFull, hpre, LL_PACKET_LEN, mtSpiFwMid]

/-- The last byte of an acknowledgement-family frame: the last byte of `LL_PACKET_ACK` goes out,
and `rx` and `tx` are free again.
Source: `hw/arm/apple-silicon/mt-spi.c` `apple_mt_spi_transfer`
Kind: L -/
theorem appleMtSpiTransferBytes_fw_ack_last (pre mid : List UInt8) (z : UInt8)
    (hrx : s.rx = ⟨0xEF :: (pre ++ t :: mid), 8, 0⟩) (hpre : pre.length = 3)
    (hmid : mid.length = 2) (ht : LlAckType t) (htx : s.tx = appleMtSpiBufAt llAckBytes 3) :
    appleMtSpiTransferBytes s [z] = some ((llAckBytes.drop 3).take 1,
      mtSpiFwMid s appleMtSpiBufFree appleMtSpiBufFree) := by
  have hlen : (0xEF :: (pre ++ t :: (mid ++ [z]))).length = 8 := by
    simp only [List.length_cons, List.length_append, List.length_nil]
    omega
  have hpush : appleMtSpiBufPushByte s.rx z = ⟨0xEF :: (pre ++ t :: (mid ++ [z])), 8, 0⟩ := by
    rw [hrx, appleMtSpiBufPushByte_of_lt (by simp only [List.length_cons, List.length_append] at hlen ⊢; omega)]
    simp
  have hbyte : appleMtSpiBufReadByte (appleMtSpiBufPushByte s.rx z) 4 = some t := by
    rw [hpush]
    exact appleMtSpiBufReadByte_type hpre _ 8
  have hfw := appleMtSpiHandleFw_tail (s := { s with rx := appleMtSpiBufPushByte s.rx z }) hpush
    (by omega) hbyte
  rw [if_pos ht] at hfw
  have hfull : appleMtSpiBufIsFull (appleMtSpiBufPushByte s.rx z) = true := by
    simp only [appleMtSpiBufIsFull, hpush, hlen, beq_self_eq_true]
  have hend : appleMtSpiBufAt llAckBytes (3 + 1) = appleMtSpiBufFree :=
    appleMtSpiBufAt_of_le (by decide)
  rw [appleMtSpiTransferBytes_of_fw (by rw [hpush]; rfl) hfw htx (by decide), hend]
  simp [hfull, mtSpiFwMid]

/-- The last byte of a data frame: the last byte of the reply goes out, `rx` and `tx` are free
again, and a CONTROL frame may have queued replies that fit a frame.
Source: `hw/arm/apple-silicon/mt-spi.c` `apple_mt_spi_transfer`
Kind: L -/
theorem appleMtSpiTransferBytes_fw_data_last (pre mid : List UInt8) {T : List UInt8} (z : UInt8)
    (hrx : s.rx = ⟨0xEF :: (pre ++ t :: mid), LL_PACKET_LEN, 0⟩) (hpre : pre.length = 3)
    (hmid : mid.length = LL_PACKET_LEN - 6) (ht : ¬LlAckType t)
    (htx : s.tx = appleMtSpiBufAt T (LL_PACKET_LEN - 5)) (hT : T.length = LL_PACKET_LEN - 4) :
    ∃ new : List AppleMTSPILLPacket, (∀ p ∈ new, p.Fits) ∧
      appleMtSpiTransferBytes s [z] = some ((T.drop (LL_PACKET_LEN - 5)).take 1,
        mtSpiFwMid { s with pendingFw := s.pendingFw ++ new } appleMtSpiBufFree appleMtSpiBufFree) := by
  have hlen : (0xEF :: (pre ++ t :: (mid ++ [z]))).length = LL_PACKET_LEN := by
    simp only [List.length_cons, List.length_append, List.length_nil, LL_PACKET_LEN] at hmid ⊢
    omega
  have hpush : appleMtSpiBufPushByte s.rx z =
      ⟨0xEF :: (pre ++ t :: (mid ++ [z])), LL_PACKET_LEN, 0⟩ := by
    rw [hrx, appleMtSpiBufPushByte_of_lt (by simp only [List.length_cons, List.length_append] at hlen ⊢; omega)]
    simp
  have hbyte : appleMtSpiBufReadByte (appleMtSpiBufPushByte s.rx z) 4 = some t := by
    rw [hpush]
    exact appleMtSpiBufReadByte_type hpre _ _
  -- the full frame is dispatched on its type
  obtain ⟨new, hnew, hpkt⟩ := appleMtSpiHandleFwPacket_last
    (s := { s with rx := appleMtSpiBufPushByte s.rx z }) hpush hlen
  have hfw := appleMtSpiHandleFw_tail (s := { s with rx := appleMtSpiBufPushByte s.rx z }) hpush
    (by rw [hlen]; decide) hbyte
  rw [if_neg ht, hpkt] at hfw
  have hend : appleMtSpiBufAt T (LL_PACKET_LEN - 5 + 1) = appleMtSpiBufFree :=
    appleMtSpiBufAt_of_le (by rw [hT]; decide)
  refine ⟨new, hnew, ?_⟩
  have hfull : appleMtSpiBufIsFull (appleMtSpiBufPushByte s.rx z) = true := by
    simp only [appleMtSpiBufIsFull, hpush, hlen, beq_self_eq_true]
  rw [appleMtSpiTransferBytes_of_fw (by rw [hpush]; rfl) hfw htx (by rw [hT]; decide), hend]
  simp [hfull, mtSpiFwMid]

end edges

/-! ## Whole frames -/

section frame

variable {s : AppleMTSPIState} {f : List UInt8}

/-- Between two frames: `rx` and `tx` are free, and every queued packet fits a frame.
Source: `hw/arm/apple-silicon/mt-spi.c` `apple_mt_spi_pad_ll_packet`
Kind: D -/
structure MtSpiFwIdle (s : AppleMTSPIState) : Prop where
  rx : s.rx = appleMtSpiBufFree
  tx : s.tx = appleMtSpiBufFree
  fits : ∀ p ∈ s.pendingFw, p.Fits

/-- An acknowledgement-family frame between two frames is answered with the preamble and
`LL_PACKET_ACK`, and leaves `rx` and `tx` free and the queue as it was.
Source: `hw/arm/apple-silicon/mt-spi.c` `apple_mt_spi_transfer`
Kind: L -/
theorem appleMtSpiTransferBytes_ackFrame (hrx : s.rx = appleMtSpiBufFree)
    (htx : s.tx = appleMtSpiBufFree) (hf : MtSpiAckFrame f) :
    appleMtSpiTransferBytes s f = some (llPreambleBytes ++ llAckBytes,
      mtSpiFwMid s appleMtSpiBufFree appleMtSpiBufFree) := by
  obtain ⟨hlen, h0, t, h4, ht⟩ := hf
  obtain ⟨a, b, z, rfl, ha, hb⟩ := mtSpiFrame_split (n := 2) hlen h0 h4
  -- the preamble goes out over the first four bytes and the acknowledgement over the last four
  have h1 := appleMtSpiTransferBytes_fw_preamble hrx htx ha
  have h2 := appleMtSpiTransferBytes_fw_ack_type (s := mtSpiFwMid s ⟨0xEF :: a, 8, 0⟩
      (appleMtSpiBufAt llPreambleBytes 4)) rfl ha
      (appleMtSpiBufAt_of_le (T := llPreambleBytes) (j := 4) (by decide)) ht
  have h3 := appleMtSpiTransferBytes_quiet s b (a ++ [t]) 8
    (T := llAckBytes) (j := 1) (by simp [ha]) (by simp [ha, hb]) (by simp [hb, llAckBytes])
  have h4 := appleMtSpiTransferBytes_fw_ack_last (s := mtSpiFwMid s
      ⟨0xEF :: (a ++ [t] ++ b), 8, 0⟩ (appleMtSpiBufAt llAckBytes (1 + b.length)))
    a b z (by simp) ha hb ht (by simp [hb])
  have hout : llPreambleBytes ++ llAckBytes.take 1 ++ (llAckBytes.drop 1).take b.length ++
      (llAckBytes.drop 3).take 1 = llPreambleBytes ++ llAckBytes := by
    rw [hb]
    decide
  have hbytes : 0xEF :: (a ++ t :: (b ++ [z])) = (0xEF :: a) ++ [t] ++ b ++ [z] := by simp
  rw [hbytes, appleMtSpiTransferBytes_append (appleMtSpiTransferBytes_append
    (appleMtSpiTransferBytes_append h1 h2) h3) h4, hout]
  rfl

/-- A data frame between two frames is answered with the preamble and the link-layer frame of
the first queued packet (NO_DATA's on an empty queue): the packet leaves the queue, the replies
the frame asks for join its end, and `rx` and `tx` are free again.
Source: `hw/arm/apple-silicon/mt-spi.c` `apple_mt_spi_transfer`
Kind: L -/
theorem appleMtSpiTransferBytes_dataFrame (hrx : s.rx = appleMtSpiBufFree)
    (htx : s.tx = appleMtSpiBufFree) (hq : ∀ p ∈ s.pendingFw.head?, p.Fits)
    (hf : MtSpiDataFrame f) :
    ∃ new : List AppleMTSPILLPacket, (∀ p ∈ new, p.Fits) ∧
      appleMtSpiTransferBytes s f = some (llPreambleBytes ++ mtSpiFwReplyFrame s.pendingFw,
        mtSpiFwMid { s with pendingFw := s.pendingFw.tail ++ new } appleMtSpiBufFree
          appleMtSpiBufFree) := by
  obtain ⟨hlen, h0, t, h4, ht⟩ := hf
  obtain ⟨a, b, z, rfl, ha, hb⟩ := mtSpiFrame_split (n := LL_PACKET_LEN - 6) hlen h0 h4
  have hRlen := mtSpiFwReplyFrame_length hq
  -- the preamble goes out over the first four bytes and the reply over the rest
  have h1 := appleMtSpiTransferBytes_fw_preamble hrx htx ha
  have h2 := appleMtSpiTransferBytes_fw_data_type (s := mtSpiFwMid s ⟨0xEF :: a, 8, 0⟩
      (appleMtSpiBufAt llPreambleBytes 4)) rfl ha
      (appleMtSpiBufAt_of_le (T := llPreambleBytes) (j := 4) (by decide)) ht hq
  have h3 := appleMtSpiTransferBytes_quiet { s with pendingFw := s.pendingFw.tail } b
    (a ++ [t]) LL_PACKET_LEN (T := mtSpiFwReplyFrame s.pendingFw) (j := 1)
    (by simp [ha]) (by simp [ha, hb, LL_PACKET_LEN]) (by rw [hb, hRlen]; decide)
  obtain ⟨new, hnew, h4⟩ := appleMtSpiTransferBytes_fw_data_last
    (s := mtSpiFwMid { s with pendingFw := s.pendingFw.tail }
      ⟨0xEF :: (a ++ [t] ++ b), LL_PACKET_LEN, 0⟩
      (appleMtSpiBufAt (mtSpiFwReplyFrame s.pendingFw) (1 + b.length)))
    a b z (by simp) ha hb ht (by rw [mtSpiFwMid_tx, hb]; rfl) hRlen
  refine ⟨new, hnew, ?_⟩
  -- the reply goes out as its first byte, the next `LL_PACKET_LEN - 6`, and its last
  have hR : (mtSpiFwReplyFrame s.pendingFw).take 1 ++
      ((mtSpiFwReplyFrame s.pendingFw).drop 1).take b.length ++
      ((mtSpiFwReplyFrame s.pendingFw).drop (LL_PACKET_LEN - 5)).take 1 =
      mtSpiFwReplyFrame s.pendingFw := by
    rw [← List.take_add, hb, show LL_PACKET_LEN - 5 = 1 + (LL_PACKET_LEN - 6) by decide,
      ← List.take_add, List.take_of_length_le (by rw [hRlen]; decide)]
  have hbytes : 0xEF :: (a ++ t :: (b ++ [z])) = (0xEF :: a) ++ [t] ++ b ++ [z] := by simp
  rw [hbytes, appleMtSpiTransferBytes_append (appleMtSpiTransferBytes_append
    (appleMtSpiTransferBytes_append h1 h2) h3) h4]
  simp only [mtSpiFwMid_pendingFw, List.append_assoc] at hR ⊢
  rw [hR]
  rfl

/-- Between two frames the head of the queue fits a frame.
Source: `hw/arm/apple-silicon/mt-spi.c` `apple_mt_spi_pad_ll_packet`
Kind: L -/
theorem MtSpiFwIdle.head_fits (hs : MtSpiFwIdle s) : ∀ p ∈ s.pendingFw.head?, p.Fits :=
  fun p hp => hs.fits p (List.mem_of_mem_head? hp)

/-- An acknowledgement-family frame keeps `MtSpiFwIdle`.
Source: `hw/arm/apple-silicon/mt-spi.c` `apple_mt_spi_transfer`
Kind: L -/
theorem MtSpiFwIdle.ackFrame (hs : MtSpiFwIdle s) (hf : MtSpiAckFrame f) :
    appleMtSpiTransferBytes s f = some (llPreambleBytes ++ llAckBytes,
        mtSpiFwMid s appleMtSpiBufFree appleMtSpiBufFree) ∧
      MtSpiFwIdle (mtSpiFwMid s appleMtSpiBufFree appleMtSpiBufFree) :=
  ⟨appleMtSpiTransferBytes_ackFrame hs.rx hs.tx hf, rfl, rfl, hs.fits⟩

/-- A data frame keeps `MtSpiFwIdle`: the packet it sends leaves the queue, and the replies it
queues fit a frame.
Source: `hw/arm/apple-silicon/mt-spi.c` `apple_mt_spi_transfer`
Kind: L -/
theorem MtSpiFwIdle.dataFrame (hs : MtSpiFwIdle s) (hf : MtSpiDataFrame f) :
    ∃ new : List AppleMTSPILLPacket,
      appleMtSpiTransferBytes s f = some (llPreambleBytes ++ mtSpiFwReplyFrame s.pendingFw,
        mtSpiFwMid { s with pendingFw := s.pendingFw.tail ++ new } appleMtSpiBufFree
          appleMtSpiBufFree) ∧
      MtSpiFwIdle (mtSpiFwMid { s with pendingFw := s.pendingFw.tail ++ new } appleMtSpiBufFree
        appleMtSpiBufFree) := by
  obtain ⟨new, hnew, h⟩ := appleMtSpiTransferBytes_dataFrame hs.rx hs.tx hs.head_fits hf
  refine ⟨new, h, rfl, rfl, fun p hp => ?_⟩
  rcases List.mem_append.mp hp with hp | hp
  · exact hs.fits p (List.mem_of_mem_tail hp)
  · exact hnew p hp

/-- What a run of host frames is answered with, from the queue `q`: an acknowledgement-family
frame gets the preamble and `LL_PACKET_ACK` and leaves the queue as it is; a data frame gets the
preamble and the first queued packet in its link-layer frame (a NO_DATA frame on an empty
queue), which leaves the queue, while the replies the frame asks for join its end.
Source: `hw/arm/apple-silicon/mt-spi.c` `apple_mt_spi_handle_fw`
Kind: D -/
inductive MtSpiFwFrames : List AppleMTSPILLPacket → List (List UInt8) → List UInt8 → Prop
  | nil (q : List AppleMTSPILLPacket) : MtSpiFwFrames q [] []
  | ack {q : List AppleMTSPILLPacket} {f : List UInt8} {fs : List (List UInt8)} {out : List UInt8} :
      MtSpiAckFrame f → MtSpiFwFrames q fs out →
      MtSpiFwFrames q (f :: fs) (llPreambleBytes ++ llAckBytes ++ out)
  | data {q : List AppleMTSPILLPacket} {f : List UInt8} {fs : List (List UInt8)} {out : List UInt8}
      (new : List AppleMTSPILLPacket) : MtSpiDataFrame f → MtSpiFwFrames (q.tail ++ new) fs out →
      MtSpiFwFrames q (f :: fs) (llPreambleBytes ++ mtSpiFwReplyFrame q ++ out)

/-- Every run of complete frames from between two frames is answered as `MtSpiFwFrames` says,
and ends between two frames. The induction is on the frames, with `MtSpiFwIdle` carried from
each frame to the next.
Source: `hw/arm/apple-silicon/mt-spi.c` `apple_mt_spi_transfer`
Kind: L -/
theorem appleMtSpiTransferBytes_frames {fs : List (List UInt8)} (hs : MtSpiFwIdle s)
    (hfs : ∀ f ∈ fs, MtSpiAckFrame f ∨ MtSpiDataFrame f) :
    ∃ out s', appleMtSpiTransferBytes s fs.flatten = some (out, s') ∧
      MtSpiFwFrames s.pendingFw fs out ∧ MtSpiFwIdle s' := by
  induction fs generalizing s with
  | nil => exact ⟨[], s, rfl, .nil _, hs⟩
  | cons f fs ih =>
    have hrest : ∀ f ∈ fs, MtSpiAckFrame f ∨ MtSpiDataFrame f :=
      fun f hf => hfs f (List.mem_cons_of_mem _ hf)
    rcases hfs f List.mem_cons_self with hf | hf
    -- an acknowledgement-family frame leaves the queue as it is
    · obtain ⟨h, hidle⟩ := hs.ackFrame hf
      obtain ⟨out, s', hrun, hspec, hidle'⟩ := ih hidle hrest
      exact ⟨_, s', by rw [List.flatten_cons, appleMtSpiTransferBytes_append h hrun],
        .ack hf hspec, hidle'⟩
    -- a data frame sends the head of the queue and queues the replies it asks for
    · obtain ⟨new, h, hidle⟩ := hs.dataFrame hf
      obtain ⟨out, s', hrun, hspec, hidle'⟩ := ih hidle hrest
      exact ⟨_, s', by rw [List.flatten_cons, appleMtSpiTransferBytes_append h hrun],
        .data new hf hspec, hidle'⟩

/-- After every byte, in either protocol, the interrupt is low (active) exactly when a reply is
queued.
Source: `hw/arm/apple-silicon/mt-spi.c` `apple_mt_spi_transfer`
Kind: L -/
theorem appleMtSpiTransfer_irq {val r : UInt32} {s' : AppleMTSPIState}
    (h : appleMtSpiTransfer s val = some (r, s')) :
    s'.irq = false ↔ s'.pendingFw ≠ [] ∨ s'.pendingHbpp.data ≠ [] := by
  have hirq : s'.irq = (appleMtSpiBufIsEmpty s'.pendingHbpp && s'.pendingFw.isEmpty) := by
    simp only [appleMtSpiTransfer, Option.bind_eq_bind, Option.bind_eq_some_iff,
      Option.pure_def] at h
    obtain ⟨_, -, h⟩ := h
    -- whichever protocol took the byte, the interrupt is set from the queues it left
    split at h <;>
    · simp only [Option.bind_eq_some_iff, Option.some.injEq, Prod.mk.injEq] at h
      obtain ⟨_, -, _, -, -, rfl⟩ := h
      rfl
  rw [hirq, Bool.and_eq_false_iff]
  simp [appleMtSpiBufIsEmpty, or_comm]

end frame

end QemuAppleSilicon.Arm
