import QemuAppleSilicon.Qemu.Dma
import QemuAppleSilicon.Lib.EState

/-!
# The v4 display pipe (`hw/display/apple_displaypipe_v4.c`)

Two generic pixel pipes fetch a frame from guest memory into a host buffer when their
`CONFIG_CONTROL.RUN` bit is written; the blend unit's two layer configurations say which pipe
feeds each layer and how it is blended. A guest write marks the unit it touched dirty and
schedules the bottom half `adp_v4_update_disp_image_bh`, which later copies or composes the
selected pipes' buffers into the framebuffer with whatever registers hold by then.

The model keeps every register the write path stores and the pipe buffers, as a
`Vector UInt8 bufLen` or `none` for `NULL`, so a buffer and its length cannot disagree. The
bottom half returns the accesses it makes — the bytes of a pipe buffer it reads, the bytes of
the framebuffer it writes, the layers it composes — or the fault that stops it: a pipe index past
`generic_pipe[ADP_V4_GP_COUNT]`, or a failed assertion. Pixel values are not modelled.

* `adpV4RegWrite` — `adp_v4_reg_write`: the register files of both pipes and the blend unit,
  the fetch on `RUN`, and the scheduling of the bottom half.
* `adpV4UpdateDispImageBh` — the bottom half, with the left-to-right evaluation of its early
  return: a layer's pipe is dereferenced only when the condition reaches it.
* `adpV4GpRead_bufLen`, `adpV4CopyRows_reads_within_iff` — the buffer a fetch leaves, and when a
  layer shown alone reads only inside it.
* `blend_pipe_index_unchecked` — a layer configuration whose 4-bit pipe field is 2 or more, with
  a blend mode other than `BLEND_MODE_NONE`, makes the scheduled bottom half dereference
  `generic_pipe[pipe]` past the array.
-/

namespace QemuAppleSilicon.Display

open QemuAppleSilicon.Lib QemuAppleSilicon.Qemu

/-! ## Registers -/

/-- Source: `hw/display/apple_displaypipe_v4.c` `ADP_V4_GP_COUNT`. Kind: D -/
abbrev ADP_V4_GP_COUNT : ℕ := 2

/-- Source: `hw/display/apple_displaypipe_v4.c` `REG_CONTROL_INT_STATUS`. Kind: D -/
def REG_CONTROL_INT_STATUS : UInt64 := 0x45818

/-- Source: `hw/display/apple_displaypipe_v4.c` `GP_BLOCK_BASE`. Kind: D -/
def GP_BLOCK_BASE : UInt64 := 0x50000
/-- Source: `hw/display/apple_displaypipe_v4.c` `GP_BLOCK_SIZE`. Kind: D -/
def GP_BLOCK_SIZE : UInt64 := 0x8000
/-- Source: `hw/display/apple_displaypipe_v4.c` `GP_BLOCK_BASE_FOR`. Kind: D -/
def GP_BLOCK_BASE_FOR (i : UInt64) : UInt64 := GP_BLOCK_BASE + i * GP_BLOCK_SIZE
/-- Source: `hw/display/apple_displaypipe_v4.c` `GP_BLOCK_END_FOR`. Kind: D -/
def GP_BLOCK_END_FOR (i : UInt64) : UInt64 := GP_BLOCK_BASE_FOR i + (GP_BLOCK_SIZE - 1)

/-- Source: `hw/display/apple_displaypipe_v4.c` `REG_GP_CONFIG_CONTROL`. Kind: D -/
def REG_GP_CONFIG_CONTROL : UInt64 := 0x4
/-- Source: `hw/display/apple_displaypipe_v4.c` `GP_CONFIG_CONTROL_RUN` (`BIT(0)`). Kind: D -/
def GP_CONFIG_CONTROL_RUN : UInt32 := 1
/-- Source: `hw/display/apple_displaypipe_v4.c` `REG_GP_PIXEL_FORMAT`. Kind: D -/
def REG_GP_PIXEL_FORMAT : UInt64 := 0x1C
/-- `(BIT(4) << 22) | BIT(24) | (3 << 13)`.
Source: `hw/display/apple_displaypipe_v4.c` `GP_PIXEL_FORMAT_BGRA`
Kind: D -/
def GP_PIXEL_FORMAT_BGRA : UInt32 := 0x05006000
/-- `(BIT(4) << 22) | BIT(24)`.
Source: `hw/display/apple_displaypipe_v4.c` `GP_PIXEL_FORMAT_ARGB`
Kind: D -/
def GP_PIXEL_FORMAT_ARGB : UInt32 := 0x05000000
/-- Source: `hw/display/apple_displaypipe_v4.c` `GP_PIXEL_FORMAT_COMPRESSED` (`BIT(30)`). Kind: D -/
def GP_PIXEL_FORMAT_COMPRESSED : UInt32 := 0x40000000
/-- Source: `hw/display/apple_displaypipe_v4.c` `REG_GP_BASE`. Kind: D -/
def REG_GP_BASE : UInt64 := 0x30
/-- Source: `hw/display/apple_displaypipe_v4.c` `REG_GP_END`. Kind: D -/
def REG_GP_END : UInt64 := 0x40
/-- Source: `hw/display/apple_displaypipe_v4.c` `REG_GP_STRIDE`. Kind: D -/
def REG_GP_STRIDE : UInt64 := 0x60
/-- Source: `hw/display/apple_displaypipe_v4.c` `REG_GP_SIZE`. Kind: D -/
def REG_GP_SIZE : UInt64 := 0x70
/-- Source: `hw/display/apple_displaypipe_v4.c` `REG_GP_FRAME_SIZE`. Kind: D -/
def REG_GP_FRAME_SIZE : UInt64 := 0x80

/-- Source: `hw/display/apple_displaypipe_v4.c` `BLEND_BLOCK_BASE`. Kind: D -/
def BLEND_BLOCK_BASE : UInt64 := 0x60000
/-- Source: `hw/display/apple_displaypipe_v4.c` `BLEND_BLOCK_SIZE`. Kind: D -/
def BLEND_BLOCK_SIZE : UInt64 := 0x8000
/-- Source: `hw/display/apple_displaypipe_v4.c` `REG_BLEND_LAYER_0_CONFIG`. Kind: D -/
def REG_BLEND_LAYER_0_CONFIG : UInt64 := 0x14
/-- Source: `hw/display/apple_displaypipe_v4.c` `REG_BLEND_LAYER_1_CONFIG`. Kind: D -/
def REG_BLEND_LAYER_1_CONFIG : UInt64 := 0x18

/-- Source: `hw/display/apple_displaypipe_v4.c` `BLEND_LAYER_CONFIG_PIPE`. Kind: D -/
def BLEND_LAYER_CONFIG_PIPE (v : UInt32) : UInt32 := v &&& 0xF
/-- Source: `hw/display/apple_displaypipe_v4.c` `BLEND_LAYER_CONFIG_MODE`. Kind: D -/
def BLEND_LAYER_CONFIG_MODE (v : UInt32) : UInt32 := (v >>> 4) &&& 0xF

/-- Source: `hw/display/apple_displaypipe_v4.c` `BLEND_MODE_NONE`. Kind: D -/
def BLEND_MODE_NONE : UInt32 := 0
/-- Source: `hw/display/apple_displaypipe_v4.c` `BLEND_MODE_BYPASS`. Kind: D -/
def BLEND_MODE_BYPASS : UInt32 := 3

/-! ## State -/

/-- A generic pixel pipe. `buf` is `NULL` or a buffer of exactly `buf_len` bytes.
Source: `hw/display/apple_displaypipe_v4.c` `ADPV4GenPipeState`
Kind: D -/
structure ADPV4GenPipeState where
  index : UInt8
  dispWidth : UInt16
  dispHeight : UInt16
  configControl : UInt32
  pixelFormat : UInt32
  frameWidth : UInt16
  frameHeight : UInt16
  base : UInt32
  «end» : UInt32
  stride : UInt32
  width : UInt16
  height : UInt16
  bufLen : UInt32
  /-- The host buffer the last fetch filled; `none` is `NULL`. -/
  buf : Option (Vector UInt8 bufLen.toNat)
  dirty : Bool

/-- Source: `hw/display/apple_displaypipe_v4.c` `ADPV4BlendUnitState`. Kind: D -/
structure ADPV4BlendUnitState where
  layerConfig : Vector UInt32 ADP_V4_GP_COUNT
  dirty : Bool

/-- The device: the framebuffer's size, the interrupt status, the two pipes, the blend unit and
whether the bottom half is scheduled.
Source: `hw/display/apple_displaypipe_v4.c` `AppleDisplayPipeV4State`
Kind: D -/
structure AppleDisplayPipeV4State where
  width : UInt32
  height : UInt32
  intStatus : UInt32
  genericPipe : Vector ADPV4GenPipeState ADP_V4_GP_COUNT
  blendUnit : ADPV4BlendUnitState
  bhScheduled : Bool

/-! ## The generic pipes -/

/-- `g_malloc0(n)`: `NULL` for `0`, a zeroed buffer otherwise.
Source: GLib `g_malloc0`
Kind: D -/
def gMalloc0 (n : ℕ) : Option (Vector UInt8 n) :=
  if n = 0 then none else some (Vector.replicate n 0)

/-- A buffer whose first bytes are overwritten by `bs` (a `dma_memory_read` into it).
Source: `include/system/dma.h` `dma_memory_read`
Kind: D -/
def overwritePrefix {n : ℕ} (b : Vector UInt8 n) (bs : List UInt8) : Vector UInt8 n :=
  Vector.ofFn fun i => bs.getD i.val b[i]

/-- The buffer length a fetch needs: `MAX(height * width * stride, end - base)` in 32 bits.
Source: `hw/display/apple_displaypipe_v4.c` `adp_v4_gp_read`
Kind: D -/
def ADPV4GenPipeState.fetchLen (s : ADPV4GenPipeState) : UInt32 :=
  max (s.height.toUInt32 * s.width.toUInt32 * s.stride) (s.«end» - s.base)

/-- The fetch on `RUN`: a compressed frame, an empty size or stride, or a frame larger than the
screen is dropped; otherwise the buffer is reallocated (zeroed) when its length changes and
`end - base` bytes at `base` are read into it, and a failed read frees it.
Source: `hw/display/apple_displaypipe_v4.c` `adp_v4_gp_read`
Kind: D -/
def adpV4GpRead (m : DmaMemory) (s : ADPV4GenPipeState) : ADPV4GenPipeState :=
  if s.pixelFormat &&& GP_PIXEL_FORMAT_COMPRESSED ≠ 0 then s
  else if s.height = 0 ∨ s.width = 0 ∨ s.stride = 0 then s
  else if s.width > s.dispWidth ∨ s.height > s.dispHeight then s
  else
    let s := if s.bufLen ≠ s.fetchLen then
        { s with bufLen := s.fetchLen, buf := gMalloc0 s.fetchLen.toNat } else s
    match dmaMemoryRead m s.base.toNat (s.«end» - s.base).toNat with
    | some bs => { s with buf := s.buf.map fun b => overwritePrefix b bs }
    | none => { s with bufLen := 0, buf := none }

/-- A write to a pipe's register block at offset `addr`.
Source: `hw/display/apple_displaypipe_v4.c` `adp_v4_gp_reg_write`
Kind: D -/
def adpV4GpRegWrite (m : DmaMemory) (s : ADPV4GenPipeState) (addr data : UInt64) :
    ADPV4GenPipeState :=
  if addr = REG_GP_CONFIG_CONTROL then
    let s := { s with configControl := data.toUInt32 }
    if s.configControl &&& GP_CONFIG_CONTROL_RUN ≠ 0 then { adpV4GpRead m s with dirty := true }
    else s
  else if addr = REG_GP_PIXEL_FORMAT then { s with pixelFormat := data.toUInt32 }
  else if addr = REG_GP_BASE then { s with base := data.toUInt32 }
  else if addr = REG_GP_END then { s with «end» := data.toUInt32 }
  else if addr = REG_GP_STRIDE then { s with stride := data.toUInt32 }
  else if addr = REG_GP_SIZE then
    { s with height := (data &&& 0xFFFF).toUInt16, width := ((data >>> 16) &&& 0xFFFF).toUInt16 }
  else if addr = REG_GP_FRAME_SIZE then
    { s with frameHeight := (data &&& 0xFFFF).toUInt16,
             frameWidth := ((data >>> 16) &&& 0xFFFF).toUInt16 }
  else s

/-- A pipe after `adp_v4_gp_reset`: everything zero and no buffer, but its index and the
screen size.
Source: `hw/display/apple_displaypipe_v4.c` `adp_v4_gp_reset`
Kind: D -/
def adpV4GpReset (index : UInt8) (dispWidth dispHeight : UInt16) : ADPV4GenPipeState where
  index := index
  dispWidth := dispWidth
  dispHeight := dispHeight
  configControl := 0
  pixelFormat := 0
  frameWidth := 0
  frameHeight := 0
  base := 0
  «end» := 0
  stride := 0
  width := 0
  height := 0
  bufLen := 0
  buf := none
  dirty := false

/-! ## The blend unit and the register file -/

/-- A write to the blend unit's register block at offset `addr`.
Source: `hw/display/apple_displaypipe_v4.c` `adp_v4_blend_reg_write`
Kind: D -/
def adpV4BlendRegWrite (s : ADPV4BlendUnitState) (addr data : UInt64) : ADPV4BlendUnitState :=
  if addr = REG_BLEND_LAYER_0_CONFIG then
    { layerConfig := s.layerConfig.set 0 data.toUInt32 (by decide), dirty := true }
  else if addr = REG_BLEND_LAYER_1_CONFIG then
    { layerConfig := s.layerConfig.set 1 data.toUInt32 (by decide), dirty := true }
  else s

/-- Pipe `i` replaced by `f` of it. -/
def AppleDisplayPipeV4State.updatePipe (s : AppleDisplayPipeV4State) (i : Fin ADP_V4_GP_COUNT)
    (f : ADPV4GenPipeState → ADPV4GenPipeState) : AppleDisplayPipeV4State :=
  { s with genericPipe := s.genericPipe.set i (f s.genericPipe[i]) }

/-- The bottom half is scheduled when the blend unit or a pipe is dirty.
Source: `hw/display/apple_displaypipe_v4.c` `adp_v4_update_disp_image`
Kind: D -/
def adpV4UpdateDispImage (s : AppleDisplayPipeV4State) : AppleDisplayPipeV4State :=
  if !s.blendUnit.dirty && !s.genericPipe[0].dirty && !s.genericPipe[1].dirty then s
  else { s with bhScheduled := true }

/-- A guest write. The register is chosen by the address folded below `0x200000`, but the block
offset handed on is taken from the address as written, so a write through the upper alias
reaches no pipe register.
Source: `hw/display/apple_displaypipe_v4.c` `adp_v4_reg_write`
Kind: D -/
def adpV4RegWrite (m : DmaMemory) (s : AppleDisplayPipeV4State) (addr data : UInt64) :
    AppleDisplayPipeV4State :=
  let a := if addr ≥ 0x200000 then addr - 0x200000 else addr
  if a = REG_CONTROL_INT_STATUS then { s with intStatus := s.intStatus &&& ~~~data.toUInt32 }
  else if GP_BLOCK_BASE_FOR 0 ≤ a ∧ a ≤ GP_BLOCK_END_FOR 0 then
    adpV4UpdateDispImage (s.updatePipe 0 fun gp => adpV4GpRegWrite m gp (addr - GP_BLOCK_BASE_FOR 0) data)
  else if GP_BLOCK_BASE_FOR 1 ≤ a ∧ a ≤ GP_BLOCK_END_FOR 1 then
    adpV4UpdateDispImage (s.updatePipe 1 fun gp => adpV4GpRegWrite m gp (addr - GP_BLOCK_BASE_FOR 1) data)
  else if BLEND_BLOCK_BASE ≤ a ∧ a ≤ BLEND_BLOCK_BASE + BLEND_BLOCK_SIZE then
    adpV4UpdateDispImage
      { s with blendUnit := adpV4BlendRegWrite s.blendUnit (addr - BLEND_BLOCK_BASE) data }
  else s

/-- The device after `adp_v4_reset_hold`: no interrupt pending, both pipes and the blend unit
reset, nothing scheduled.
Source: `hw/display/apple_displaypipe_v4.c` `adp_v4_reset_hold`
Kind: D -/
def adpV4Reset (width height : UInt32) : AppleDisplayPipeV4State where
  width := width
  height := height
  intStatus := 0
  genericPipe := #v[adpV4GpReset 0 width.toUInt16 height.toUInt16,
    adpV4GpReset 1 width.toUInt16 height.toUInt16]
  blendUnit := { layerConfig := #v[0, 0], dirty := false }
  bhScheduled := false

/-! ## The bottom half -/

/-- What stops the bottom half: a pipe dereferenced past `generic_pipe`, or a failed
`g_assert_*`.
Source: `hw/display/apple_displaypipe_v4.c` `adp_v4_update_disp_image_bh`
Kind: D -/
inductive AdpV4Fault where
  | pipeIndex (i : ℕ)
  | samePipe
  | bufNull (pipe : ℕ)
  | pixelFormat (pipe : ℕ)
  | imageNull (pipe : ℕ)
  deriving DecidableEq, Repr

/-- The memory the bottom half touches: `len` bytes of a pipe's buffer from offset `off`, `len`
bytes of the framebuffer from offset `off`, and a pipe's image composed over the framebuffer.
Source: `hw/display/apple_displaypipe_v4.c` `adp_v4_update_disp_image_bh`
Kind: D -/
inductive AdpV4Access where
  | bufRead (pipe off len : ℕ)
  | fbWrite (off len : ℕ)
  | composite (pipe width height stride frameWidth frameHeight : ℕ)
  deriving DecidableEq, Repr

/-- `&s->generic_pipe[i]` dereferenced: the pipe, or the fault when `i` is past the array.
Source: `hw/display/apple_displaypipe_v4.c` `adp_v4_update_disp_image_bh`
Kind: D -/
def AppleDisplayPipeV4State.gp (s : AppleDisplayPipeV4State) (i : UInt32) :
    Except AdpV4Fault ADPV4GenPipeState :=
  if h : i.toNat < ADP_V4_GP_COUNT then .ok s.genericPipe[i.toNat] else .error (.pipeIndex i.toNat)

/-- Clear the `dirty` flag of pipe `i`, one the bottom half has already dereferenced.
Source: `hw/display/apple_displaypipe_v4.c` `adp_v4_update_disp_image_bh`
Kind: D -/
def AppleDisplayPipeV4State.clean (s : AppleDisplayPipeV4State) (i : UInt32) :
    AppleDisplayPipeV4State :=
  if h : i.toNat < ADP_V4_GP_COUNT then s.updatePipe ⟨i.toNat, h⟩ fun gp => { gp with dirty := false }
  else s

/-- The pixman format of a pipe: `none` for the unknown format, where the code returns `0`.
Source: `hw/display/apple_displaypipe_v4.c` `adp_v4_gp_fmt_to_pixman`
Kind: D -/
def adpV4GpFmtToPixman (s : ADPV4GenPipeState) : Option UInt32 :=
  if s.pixelFormat &&& GP_PIXEL_FORMAT_BGRA = GP_PIXEL_FORMAT_BGRA then some GP_PIXEL_FORMAT_BGRA
  else if s.pixelFormat &&& GP_PIXEL_FORMAT_ARGB = GP_PIXEL_FORMAT_ARGB then some GP_PIXEL_FORMAT_ARGB
  else none

/-- The rows of a layer shown alone: each of the pipe's `height` rows, `stride` bytes apart in
its buffer, gives `width * 4` bytes to the framebuffer row at `i * s->width * 4`.
Source: `hw/display/apple_displaypipe_v4.c` `adp_v4_update_disp_image_bh`
Kind: D -/
def adpV4CopyRows (s : AppleDisplayPipeV4State) (i : UInt32) (gp : ADPV4GenPipeState) :
    List AdpV4Access :=
  (List.range gp.height.toNat).flatMap fun r =>
    [.bufRead i.toNat (r * gp.stride.toNat) (gp.width.toNat * 4),
     .fbWrite (r * s.width.toNat * 4) (gp.width.toNat * 4)]

/-- A layer shown alone: copied when the pipe's `base` and `end` are both set, after asserting
that its buffer is there.
Source: `hw/display/apple_displaypipe_v4.c` `adp_v4_update_disp_image_bh`
Kind: D -/
def adpV4CopyLayer (s : AppleDisplayPipeV4State) (i : UInt32) (gp : ADPV4GenPipeState) :
    Except AdpV4Fault (List AdpV4Access) :=
  if gp.base ≠ 0 ∧ gp.«end» ≠ 0 then
    if gp.buf.isNone then .error (.bufNull i.toNat) else .ok (adpV4CopyRows s i gp)
  else .ok []

/-- One layer's checks before it is composed: its buffer is there, its format is known, and
`pixman_image_create_bits` returns an image. A system build links pixman, which returns `NULL`
for a buffer whose row stride is not a whole number of `uint32_t`s; the format is 32 bits a
pixel, so that is its only failure here.
Source: `hw/display/apple_displaypipe_v4.c` `adp_v4_update_disp_image_bh`
Kind: D -/
def adpV4CheckLayer (i : UInt32) (gp : ADPV4GenPipeState) : Except AdpV4Fault Unit :=
  if gp.buf.isNone then .error (.bufNull i.toNat)
  else if (adpV4GpFmtToPixman gp).isNone then .error (.pixelFormat i.toNat)
  else if gp.stride % 4 ≠ 0 then .error (.imageNull i.toNat)
  else .ok ()

theorem adpV4CheckLayer_eq_ok {i : UInt32} {gp : ADPV4GenPipeState} :
    adpV4CheckLayer i gp = .ok () ↔
      gp.buf.isSome ∧ (adpV4GpFmtToPixman gp).isSome ∧ gp.stride % 4 = 0 := by
  unfold adpV4CheckLayer
  split_ifs <;> simp_all [Option.isSome_iff_ne_none]

/-- `adp_v4_blit_rect_black(s, s->width, s->height)`: the height is passed as a `uint16_t`, and
each of its rows clears `s->width * 4` bytes.
Source: `hw/display/apple_displaypipe_v4.c` `adp_v4_blit_rect_black`
Kind: D -/
def adpV4BlitRectBlack (s : AppleDisplayPipeV4State) : List AdpV4Access :=
  (List.range s.height.toUInt16.toNat).map fun y => .fbWrite (y * s.width.toNat * 4) (s.width.toNat * 4)

/-- The bottom half: nothing when both layers are off or both selected pipes have an empty
frame (the second pipe is only looked at when the first one's frame is empty); otherwise a
layer shown alone is copied, and two layers are composed over a cleared framebuffer.
Source: `hw/display/apple_displaypipe_v4.c` `adp_v4_update_disp_image_bh`
Kind: D -/
def adpV4UpdateDispImageBh (s : AppleDisplayPipeV4State) :
    Except AdpV4Fault (AppleDisplayPipeV4State × List AdpV4Access) := do
  let i0 := BLEND_LAYER_CONFIG_PIPE s.blendUnit.layerConfig[0]
  let i1 := BLEND_LAYER_CONFIG_PIPE s.blendUnit.layerConfig[1]
  let b0 := BLEND_LAYER_CONFIG_MODE s.blendUnit.layerConfig[0]
  let b1 := BLEND_LAYER_CONFIG_MODE s.blendUnit.layerConfig[1]
  let s := { s with bhScheduled := false }
  if b0 = BLEND_MODE_NONE ∧ b1 = BLEND_MODE_NONE then return (s, [])
  let gp0 ← s.gp i0
  if gp0.frameWidth = 0 ∨ gp0.frameHeight = 0 then
    let gp1 ← s.gp i1
    if gp1.frameWidth = 0 ∨ gp1.frameHeight = 0 then return (s, [])
  let done (s : AppleDisplayPipeV4State) := { s with blendUnit := { s.blendUnit with dirty := false } }
  if b1 = BLEND_MODE_BYPASS ∨ (b1 ≠ BLEND_MODE_NONE ∧ b0 = BLEND_MODE_NONE) then
    let gp1 ← s.gp i1
    let acc ← adpV4CopyLayer s i1 gp1
    return (done (s.clean i1), acc)
  else if b0 = BLEND_MODE_BYPASS ∨ (b0 ≠ BLEND_MODE_NONE ∧ b1 = BLEND_MODE_NONE) then
    let acc ← adpV4CopyLayer s i0 gp0
    return (done (s.clean i0), acc)
  else
    if i0 = i1 then throw .samePipe
    adpV4CheckLayer i0 gp0
    let gp1 ← s.gp i1
    adpV4CheckLayer i1 gp1
    let compose (i : UInt32) (gp : ADPV4GenPipeState) : AdpV4Access :=
      .composite i.toNat gp.width.toNat gp.height.toNat gp.stride.toNat gp.frameWidth.toNat
        gp.frameHeight.toNat
    return (done ((s.clean i0).clean i1),
      adpV4BlitRectBlack s ++ [compose i0 gp0, compose i1 gp1] ++
        [.fbWrite 0 (s.height.toNat * s.width.toNat * 4)])

/-! ## The fetch -/

/-- A fetch that is not dropped and whose DMA read succeeds leaves a buffer of `fetchLen` bytes:
`MAX(height * width * stride, end - base)` in 32 bits.
Source: `hw/display/apple_displaypipe_v4.c` `adp_v4_gp_read`
Kind: L -/
theorem adpV4GpRead_bufLen (m : DmaMemory) {s : ADPV4GenPipeState}
    (hfmt : s.pixelFormat &&& GP_PIXEL_FORMAT_COMPRESSED = 0)
    (hsize : s.height ≠ 0 ∧ s.width ≠ 0 ∧ s.stride ≠ 0)
    (hscreen : s.width ≤ s.dispWidth ∧ s.height ≤ s.dispHeight)
    (hdma : (dmaMemoryRead m s.base.toNat (s.«end» - s.base).toNat).isSome) :
    (adpV4GpRead m s).bufLen = s.fetchLen := by
  obtain ⟨bs, hbs⟩ := Option.isSome_iff_exists.mp hdma
  have hz : ¬ (s.height = 0 ∨ s.width = 0 ∨ s.stride = 0) := by
    rintro (h | h | h)
    · exact hsize.1 h
    · exact hsize.2.1 h
    · exact hsize.2.2 h
  have hbig : ¬ (s.width > s.dispWidth ∨ s.height > s.dispHeight) := by
    rintro (h | h)
    · exact absurd hscreen.1 (UInt16.not_le.mpr h)
    · exact absurd hscreen.2 (UInt16.not_le.mpr h)
  unfold adpV4GpRead
  rw [if_neg (by simpa using hfmt), if_neg hz, if_neg hbig]
  split_ifs with hlen
  · simp [hbs]
  · simp only [hbs]
    exact not_not.mp hlen

/-! ## What the bottom half reads -/

theorem mem_adpV4CopyRows_bufRead {s : AppleDisplayPipeV4State} {i : UInt32} {gp : ADPV4GenPipeState}
    {p off len : ℕ} :
    AdpV4Access.bufRead p off len ∈ adpV4CopyRows s i gp ↔
      p = i.toNat ∧ len = gp.width.toNat * 4 ∧ ∃ r < gp.height.toNat, off = r * gp.stride.toNat := by
  simp only [adpV4CopyRows, List.mem_flatMap, List.mem_range, List.mem_cons, List.not_mem_nil,
    reduceCtorEq, or_false, AdpV4Access.bufRead.injEq]
  constructor
  · rintro ⟨r, hr, rfl, rfl, rfl⟩
    exact ⟨rfl, rfl, r, hr, rfl⟩
  · rintro ⟨rfl, rfl, r, hr, rfl⟩
    exact ⟨r, hr, rfl, rfl, rfl⟩

/-- A layer shown alone reads only inside its buffer exactly when its last row, at
`(height - 1) * stride`, ends within `buf_len`; the fetch sized the buffer by
`height * width * stride` instead, which is shorter whenever `stride < 4` and `end - base` is.
Source: `hw/display/apple_displaypipe_v4.c` `adp_v4_update_disp_image_bh`
Kind: L -/
theorem adpV4CopyRows_reads_within_iff (s : AppleDisplayPipeV4State) (i : UInt32)
    (gp : ADPV4GenPipeState) :
    (∀ p off len, AdpV4Access.bufRead p off len ∈ adpV4CopyRows s i gp →
      off + len ≤ gp.bufLen.toNat) ↔
    gp.height.toNat = 0 ∨
      (gp.height.toNat - 1) * gp.stride.toNat + gp.width.toNat * 4 ≤ gp.bufLen.toNat := by
  constructor
  · intro h
    rcases Nat.eq_zero_or_pos gp.height.toNat with h0 | hpos
    · exact Or.inl h0
    · -- the last row reads furthest
      refine Or.inr (h i.toNat _ _ (mem_adpV4CopyRows_bufRead.mpr ⟨rfl, rfl, _, by omega, rfl⟩))
  · rintro hcase p off len hmem
    obtain ⟨-, rfl, r, hr, rfl⟩ := mem_adpV4CopyRows_bufRead.mp hmem
    rcases hcase with h0 | hlast
    · omega
    · have hrow : r * gp.stride.toNat ≤ (gp.height.toNat - 1) * gp.stride.toNat :=
        Nat.mul_le_mul_right _ (by omega)
      omega

/-! ## The blend unit's pipe index -/

theorem AppleDisplayPipeV4State.gp_of_lt (s : AppleDisplayPipeV4State) {i : UInt32}
    (h : i.toNat < ADP_V4_GP_COUNT) : s.gp i = .ok s.genericPipe[i.toNat] := by
  simp [AppleDisplayPipeV4State.gp, h]

theorem AppleDisplayPipeV4State.gp_of_le (s : AppleDisplayPipeV4State) {i : UInt32}
    (h : ADP_V4_GP_COUNT ≤ i.toNat) : s.gp i = .error (.pipeIndex i.toNat) := by
  simp [AppleDisplayPipeV4State.gp, Nat.not_lt.mpr h]

/-- A write to `LAYER_0_CONFIG` stores the value, marks the blend unit dirty and schedules the
bottom half.
Source: `hw/display/apple_displaypipe_v4.c` `adp_v4_reg_write`
Kind: L -/
theorem adpV4RegWrite_layer0Config (m : DmaMemory) (s : AppleDisplayPipeV4State) (v : UInt64) :
    adpV4RegWrite m s (BLEND_BLOCK_BASE + REG_BLEND_LAYER_0_CONFIG) v =
      { s with blendUnit := { layerConfig := s.blendUnit.layerConfig.set 0 v.toUInt32, dirty := true },
               bhScheduled := true } := by
  have hlow : ¬ (BLEND_BLOCK_BASE + REG_BLEND_LAYER_0_CONFIG ≥ 0x200000) := by decide
  have hoff : BLEND_BLOCK_BASE + REG_BLEND_LAYER_0_CONFIG - BLEND_BLOCK_BASE = REG_BLEND_LAYER_0_CONFIG := by decide
  simp only [adpV4RegWrite, hlow, if_false]
  rw [if_neg (by decide), if_neg (by decide), if_neg (by decide), if_pos (by decide), hoff]
  simp [adpV4BlendRegWrite, adpV4UpdateDispImage]

/-- Layer 0 on, through a pipe index past the array: the bottom half's early-return test
dereferences it first.
Source: `hw/display/apple_displaypipe_v4.c` `adp_v4_update_disp_image_bh`
Kind: L -/
theorem adpV4UpdateDispImageBh_layer0_pipeIndex (s : AppleDisplayPipeV4State) {cfg : UInt32}
    (hcfg : s.blendUnit.layerConfig[0] = cfg)
    (hpipe : ADP_V4_GP_COUNT ≤ (BLEND_LAYER_CONFIG_PIPE cfg).toNat)
    (hmode : BLEND_LAYER_CONFIG_MODE cfg ≠ BLEND_MODE_NONE) :
    adpV4UpdateDispImageBh s = .error (.pipeIndex (BLEND_LAYER_CONFIG_PIPE cfg).toNat) := by
  have hgp := AppleDisplayPipeV4State.gp_of_le { s with bhScheduled := false } hpipe
  simp [adpV4UpdateDispImageBh, hcfg, hmode, hgp]

/-- Whatever state the pipes and the blend unit are in, a guest write of a `LAYER_0_CONFIG` value
with a blend mode other than `BLEND_MODE_NONE` and a pipe field of `ADP_V4_GP_COUNT` or more
schedules the bottom half, and the bottom half dereferences `generic_pipe[pipe]` past the array.
Source: `hw/display/apple_displaypipe_v4.c` `adp_v4_blend_reg_write`, `adp_v4_update_disp_image_bh`
Kind: L -/
theorem blend_pipe_index_unchecked (m : DmaMemory) (s : AppleDisplayPipeV4State) (v : UInt64)
    (hpipe : ADP_V4_GP_COUNT ≤ (BLEND_LAYER_CONFIG_PIPE v.toUInt32).toNat)
    (hmode : BLEND_LAYER_CONFIG_MODE v.toUInt32 ≠ BLEND_MODE_NONE) :
    (adpV4RegWrite m s (BLEND_BLOCK_BASE + REG_BLEND_LAYER_0_CONFIG) v).bhScheduled = true ∧
    adpV4UpdateDispImageBh (adpV4RegWrite m s (BLEND_BLOCK_BASE + REG_BLEND_LAYER_0_CONFIG) v) =
      .error (.pipeIndex (BLEND_LAYER_CONFIG_PIPE v.toUInt32).toNat) := by
  rw [adpV4RegWrite_layer0Config]
  refine ⟨rfl, ?_⟩
  have hcfg : (s.blendUnit.layerConfig.set 0 v.toUInt32)[0] = v.toUInt32 := Vector.getElem_set_self _
  exact adpV4UpdateDispImageBh_layer0_pipeIndex _ hcfg hpipe hmode

/-- From reset, writing `0x1F` (mode 1, pipe 15) to `LAYER_0_CONFIG` makes the bottom half
dereference `generic_pipe[15]`. -/
theorem blend_pipe_index_unchecked_after_reset :
    (adpV4RegWrite ⟨fun _ => 0, fun _ => true⟩ (adpV4Reset 828 1792)
      (BLEND_BLOCK_BASE + REG_BLEND_LAYER_0_CONFIG) 0x1F).bhScheduled = true ∧
    adpV4UpdateDispImageBh (adpV4RegWrite ⟨fun _ => 0, fun _ => true⟩ (adpV4Reset 828 1792)
      (BLEND_BLOCK_BASE + REG_BLEND_LAYER_0_CONFIG) 0x1F) = .error (.pipeIndex 15) :=
  blend_pipe_index_unchecked _ _ 0x1F (by decide) (by decide)

end QemuAppleSilicon.Display
