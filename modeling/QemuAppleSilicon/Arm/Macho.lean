import QemuAppleSilicon.Lib.CursorWalk
import QemuAppleSilicon.Arm.Dtb.Node

/-!
# Mach-O load commands (`hw/arm/apple-silicon/boot.c`)

A 64-bit Mach-O image is a 32-byte header followed by `n_cmds` load commands of variable length,
each starting with its `cmd` and `cmd_size`. `macho_highest_lowest`, `macho_parse` and
`arm_load_macho` all walk the commands with

    for (index = 0; index < mh->n_cmds; index++) {
        switch (cmd->cmd) {
        case LC_SEGMENT_64:
            if (!strncmp(segCmd->segname, "__PAGEZERO", 11)) continue;
            ...
        }
        cmd = (MachoLoadCommand *)((char *)cmd + cmd->cmd_size);
    }

The `continue` also skips the advance at the end of the body, so a `__PAGEZERO` segment is read
again by every remaining iteration: each walk is `Lib.cursorWalk` with `machoIsPageZero` as the
stalling records, and sees only the commands before the first `__PAGEZERO`
(`macho_loops_stop_at_pagezero`).

The image is its header's fields and `commandAt`, the command that the bytes at an offset from
the header's start decode to. `arm_load_macho` is modelled up to the bytes it writes: each
segment load is recorded with its source, destination and sizes, and the symbol and pointer
sliding applied to the copied bytes is left out.
-/

namespace QemuAppleSilicon.Arm

open QemuAppleSilicon.Lib QemuAppleSilicon.Qemu QemuAppleSilicon.Arm.Dtb

/-! ## Images -/

/-- Source: `include/hw/arm/apple-silicon/boot.h` `MACH_MAGIC_64`. Kind: D -/
def MACH_MAGIC_64 : UInt32 := 0xFEEDFACF

/-- Source: `include/hw/arm/apple-silicon/boot.h` `LC_UNIXTHREAD`. Kind: D -/
def LC_UNIXTHREAD : UInt32 := 0x5

/-- Source: `include/hw/arm/apple-silicon/boot.h` `LC_SEGMENT_64`. Kind: D -/
def LC_SEGMENT_64 : UInt32 := 0x19

/-- `sizeof(MachoHeader64)`: the load commands start right after the header.
Source: `include/hw/arm/apple-silicon/boot.h` `MachoHeader64`
Kind: D -/
def MACHO_HEADER64_SIZE : ℕ := 32

/-- The fields of `MachoSegmentCommand64` the loaders read.
Source: `include/hw/arm/apple-silicon/boot.h` `MachoSegmentCommand64`
Kind: D -/
structure MachoSegmentCommand64 where
  segname : List UInt8
  vmaddr : UInt64
  vmsize : UInt64
  fileoff : UInt64
  filesize : UInt64
deriving DecidableEq, Repr

/-- A load command as the loops read it: its `cmd` and `cmd_size`, the same bytes read as a
segment command, and the word at offset `0x110`, the `pc` of an arm64 `LC_UNIXTHREAD`.
Source: `include/hw/arm/apple-silicon/boot.h` `MachoLoadCommand`
Kind: D -/
structure MachoLoadCommand where
  cmd : UInt32
  cmdSize : UInt32
  segment : MachoSegmentCommand64
  threadPc : UInt64
deriving DecidableEq, Repr

/-- A 64-bit Mach-O image: the header fields the loaders read and the load command that starts
at each offset from the header.
Source: `include/hw/arm/apple-silicon/boot.h` `MachoHeader64`
Kind: D -/
structure MachoHeader64 where
  magic : UInt32
  fileType : UInt32
  nCmds : UInt32
  commandAt : ℕ → MachoLoadCommand

/-- How far `cmd = (char *)cmd + cmd->cmd_size` moves the cursor.
Source: `hw/arm/apple-silicon/boot.c` `macho_highest_lowest`
Kind: D -/
def machoCmdSize (c : MachoLoadCommand) : ℕ := c.cmdSize.toNat

/-- `!strncmp(segCmd->segname, "__PAGEZERO", 11)` on an `LC_SEGMENT_64` command.
Source: `hw/arm/apple-silicon/boot.c` `macho_highest_lowest`
Kind: D -/
def machoIsPageZero (c : MachoLoadCommand) : Bool :=
  c.cmd == LC_SEGMENT_64 && strncmpEq c.segment.segname (asciiBytes "__PAGEZERO") 11

/-- The load-command loop shared by `macho_highest_lowest`, `macho_parse` and `arm_load_macho`:
`body` for each command, and a `continue` without advance at `__PAGEZERO`.
Source: `hw/arm/apple-silicon/boot.c` `macho_highest_lowest`, `macho_parse`, `arm_load_macho`
Kind: D -/
def machoWalk {σ : Type*} (mh : MachoHeader64) (body : MachoLoadCommand → σ → σ) (s : σ) : σ :=
  cursorWalk mh.commandAt machoCmdSize machoIsPageZero body mh.nCmds.toNat MACHO_HEADER64_SIZE s

/-! ## `macho_highest_lowest` -/

/-- One command of `macho_highest_lowest`: a segment lowers the low address to its `vmaddr` and
raises the high one to its end, in 64-bit arithmetic.
Source: `hw/arm/apple-silicon/boot.c` `macho_highest_lowest`
Kind: D -/
def machoHighestLowestStep (c : MachoLoadCommand) (acc : UInt64 × UInt64) : UInt64 × UInt64 :=
  if c.cmd = LC_SEGMENT_64 then
    (if c.segment.vmaddr < acc.1 then c.segment.vmaddr else acc.1,
      if c.segment.vmaddr + c.segment.vmsize > acc.2 then c.segment.vmaddr + c.segment.vmsize
      else acc.2)
  else acc

/-- `macho_highest_lowest(mh, &low, &high)`: the lowest segment address rounded down to 32 MiB,
and the highest segment end.
Source: `hw/arm/apple-silicon/boot.c` `macho_highest_lowest`
Kind: D -/
def machoHighestLowest (mh : MachoHeader64) : UInt64 × UInt64 :=
  let acc := machoWalk mh machoHighestLowestStep (~~~0, 0)
  (acc.1 &&& (0 - 0x2000000), acc.2)

/-! ## `macho_parse` -/

/-- What `macho_parse` builds: a zeroed buffer of `highaddr - lowaddr` bytes holding the
segments, and the offset in it of the header it returns.
Source: `hw/arm/apple-silicon/boot.c` `macho_parse`
Kind: D -/
structure MachoParsed where
  size : UInt64
  buffer : Mem
  headerOffset : UInt64

/-- One command of `macho_parse`: a segment with a non-zero size asserts `fileoff < len`, takes
the first mapped segment at file offset `0` as the text base, and copies its file bytes to
`vmaddr - virt_base` in the buffer. The state is the buffer and the text base, `none` once an
assertion has failed.
Source: `hw/arm/apple-silicon/boot.c` `macho_parse`
Kind: D -/
def machoParseStep (data : Mem) (len : UInt32) (virtBase : UInt64) (c : MachoLoadCommand)
    (st : Option (Mem × UInt64)) : Option (Mem × UInt64) :=
  st.bind fun (buf, textBase) =>
    if c.cmd = LC_SEGMENT_64 then
      let seg := c.segment
      if seg.vmsize = 0 then some (buf, textBase)
      else if seg.fileoff.toNat < len.toNat then
        let textBase :=
          if seg.vmaddr ≠ 0 ∧ seg.fileoff = 0 ∧ textBase = 0 then seg.vmaddr else textBase
        some (buf.write (seg.vmaddr - virtBase).toNat (data.read seg.fileoff.toNat seg.filesize.toNat),
          textBase)
      else none
    else some (buf, textBase)

/-- `macho_parse(data, len)`: check the magic, size the buffer from `macho_highest_lowest`
(asserting `lowaddr < highaddr`) and copy the segments in; `none` when an assertion fails.
`data` holds the image's bytes, `mh` its header.
Source: `hw/arm/apple-silicon/boot.c` `macho_parse`
Kind: D -/
def machoParse (mh : MachoHeader64) (data : Mem) (len : UInt32) : Option MachoParsed :=
  if mh.magic ≠ MACH_MAGIC_64 then none
  else
    let bounds := machoHighestLowest mh
    if bounds.1 < bounds.2 then
      (machoWalk mh (machoParseStep data len bounds.1) (some (fun _ => 0, 0))).map fun r =>
        ⟨bounds.2 - bounds.1, r.1, r.2 - bounds.1⟩
    else none

/-! ## `arm_load_macho` -/

/-- `vtop_bases(va, phys_base, virt_base)`, which asserts that both bases are non-zero.
Source: `hw/arm/apple-silicon/mem.c` `vtop_bases`
Kind: D -/
def vtopBases (va physBase virtBase : UInt64) : Option UInt64 :=
  if physBase = 0 ∨ virtBase = 0 then none else some (va - virtBase + physBase)

/-- `ptov_bases(pa, phys_base, virt_base)`, which asserts that both bases are non-zero.
Source: `hw/arm/apple-silicon/mem.c` `ptov_bases`
Kind: D -/
def ptovBases (pa physBase virtBase : UInt64) : Option UInt64 :=
  if physBase = 0 ∨ virtBase = 0 then none else some (pa - physBase + virtBase)

/-- One segment written to guest memory: `vmsize` bytes at `loadTo`, the first `filesize` of them
from offset `loadFrom` of the image buffer and the rest zero.
Source: `hw/arm/apple-silicon/boot.c` `arm_load_macho`
Kind: D -/
structure MachoSegmentLoad where
  loadTo : UInt64
  loadFrom : UInt64
  filesize : UInt64
  vmsize : UInt64
deriving DecidableEq, Repr

/-- What `arm_load_macho` has done so far: the memory-map node (`NULL` for a secure-monitor
image), the segments written, and the entry point.
Source: `hw/arm/apple-silicon/boot.c` `arm_load_macho`
Kind: D -/
structure ArmLoadMachoState where
  memoryMap : Option DTBNode
  loads : List MachoSegmentLoad
  pc : UInt64

/-- `snprintf(region_name, 64, "Kernel-%s", segCmd->segname)`.
Source: `hw/arm/apple-silicon/boot.c` `arm_load_macho`
Kind: D -/
def kernelRegionName (segname : List UInt8) : List UInt8 :=
  asciiBytes "Kernel-" ++ segname.takeWhile (· ≠ 0)

/-- The memory-map entry of a segment, `{ load_to, vmsize }`.
Source: `hw/arm/apple-silicon/boot.c` `arm_load_macho` (`struct MemoryMapFileInfo`)
Kind: D -/
def memoryMapFileInfo (paddr length : UInt64) : List UInt8 :=
  leBytes paddr.toNat 8 ++ leBytes length.toNat 8

/-- One command of `arm_load_macho`: a segment is named in the memory map and, unless empty,
written at `phys_base + vmaddr - virt_low`; `LC_UNIXTHREAD` sets the entry point to the physical
image of its `pc`.
Source: `hw/arm/apple-silicon/boot.c` `arm_load_macho`
Kind: D -/
def armLoadMachoStep (physBase virtLow : UInt64) (c : MachoLoadCommand)
    (st : Option ArmLoadMachoState) : Option ArmLoadMachoState :=
  st.bind fun st =>
    if c.cmd = LC_SEGMENT_64 then
      let seg := c.segment
      let loadTo := physBase + seg.vmaddr - virtLow
      let memoryMap : Option (Option DTBNode) := match st.memoryMap with
        | none => some none
        | some node =>
          (dtbSetProp node (kernelRegionName seg.segname) 16
            (some (memoryMapFileInfo loadTo seg.vmsize))).map some
      memoryMap.map fun mm =>
        if seg.vmsize = 0 then { st with memoryMap := mm }
        else { st with memoryMap := mm,
                       loads := st.loads ++ [⟨loadTo, seg.vmaddr - virtLow, seg.filesize, seg.vmsize⟩] }
    else if c.cmd = LC_UNIXTHREAD then
      (vtopBases c.threadPc physBase virtLow).map fun pc => { st with pc := pc }
    else some st

/-- `arm_load_macho(mh, as, mem, memory_map, phys_base, virt_slide)`: load every segment at its
place relative to `phys_base` and return the entry point; `none` when an assertion fails.
Source: `hw/arm/apple-silicon/boot.c` `arm_load_macho`
Kind: D -/
def armLoadMacho (mh : MachoHeader64) (memoryMap : Option DTBNode) (physBase : UInt64) :
    Option ArmLoadMachoState :=
  machoWalk mh (armLoadMachoStep physBase (machoHighestLowest mh).1) (some ⟨memoryMap, [], 0⟩)

/-! ## What the walks see -/

section

variable {σ : Type*} (mh : MachoHeader64) (cmds : List MachoLoadCommand)

/-- The image's `n_cmds` commands are `cmds`, laid out one after another after the header. -/
def MachoHeader64.Holds : Prop :=
  LaidOut mh.commandAt machoCmdSize MACHO_HEADER64_SIZE cmds ∧ mh.nCmds.toNat = cmds.length

/-- The image with only its first `n` commands. -/
def MachoHeader64.truncate (n : ℕ) : MachoHeader64 := { mh with nCmds := UInt32.ofNat n }

variable {mh cmds}

/-- Over an image that holds `cmds`, the walk folds its body over the commands before the first
`__PAGEZERO`.
Source: `hw/arm/apple-silicon/boot.c` `macho_highest_lowest`
Kind: L -/
theorem machoWalk_of_holds (h : mh.Holds cmds) (body : MachoLoadCommand → σ → σ) (s : σ) :
    machoWalk mh body s =
      (cmds.takeWhile fun c => !machoIsPageZero c).foldl (fun s c => body c s) s := by
  unfold machoWalk
  rw [h.2]
  exact cursorWalk_laidOut h.1 s

/-- Over an image with no `__PAGEZERO` before its last command, the walk folds its body over every
command other than `__PAGEZERO`, as the loops intend.
Source: `hw/arm/apple-silicon/boot.c` `macho_highest_lowest`
Kind: L -/
theorem machoWalk_of_holds_filter (h : mh.Holds cmds)
    (hpz : ∀ c ∈ cmds.dropLast, machoIsPageZero c = false) (body : MachoLoadCommand → σ → σ)
    (s : σ) :
    machoWalk mh body s =
      (cmds.filter fun c => !machoIsPageZero c).foldl (fun s c => body c s) s := by
  unfold machoWalk
  rw [h.2]
  exact cursorWalk_filter h.1 hpz s

/-- The walk over an image whose commands are `pre`, a `__PAGEZERO` segment and `post` ends as the
walk over the image cut before the `__PAGEZERO`.
Source: `hw/arm/apple-silicon/boot.c` `macho_highest_lowest`
Kind: L -/
theorem machoWalk_truncate {pre post : List MachoLoadCommand} {pz : MachoLoadCommand}
    (h : mh.Holds (pre ++ pz :: post)) (hpz : machoIsPageZero pz = true)
    (body : MachoLoadCommand → σ → σ) (s : σ) :
    machoWalk mh body s = machoWalk (mh.truncate pre.length) body s := by
  have hlen : mh.nCmds.toNat = pre.length + 1 + post.length := by
    rw [h.2, List.length_append, List.length_cons]
    omega
  have hpre : (UInt32.ofNat pre.length).toNat = pre.length :=
    UInt32.toNat_ofNat_of_lt' (by
      show pre.length < 4294967296
      have := mh.nCmds.toNat_lt
      omega)
  unfold machoWalk MachoHeader64.truncate
  rw [hlen, hpre]
  exact cursorWalk_append_stall h.1 hpz s

end

/-- Every load command after a `__PAGEZERO` segment is ignored by all three loops:
`macho_highest_lowest`, `macho_parse` and `arm_load_macho` give on the image what they give on
the image cut before the `__PAGEZERO`.
Source: `hw/arm/apple-silicon/boot.c` `macho_highest_lowest`, `macho_parse`, `arm_load_macho`
Kind: P -/
theorem macho_loops_stop_at_pagezero (mh : MachoHeader64) (pre post : List MachoLoadCommand)
    (pz : MachoLoadCommand) (h : mh.Holds (pre ++ pz :: post)) (hpz : machoIsPageZero pz = true) :
    machoHighestLowest mh = machoHighestLowest (mh.truncate pre.length) ∧
      (∀ data len, machoParse mh data len = machoParse (mh.truncate pre.length) data len) ∧
      ∀ memoryMap physBase, armLoadMacho mh memoryMap physBase =
        armLoadMacho (mh.truncate pre.length) memoryMap physBase := by
  have hbounds : machoHighestLowest mh = machoHighestLowest (mh.truncate pre.length) := by
    unfold machoHighestLowest
    rw [machoWalk_truncate h hpz]
  refine ⟨hbounds, ?_, ?_⟩
  · intro data len
    unfold machoParse
    simp only [hbounds, machoWalk_truncate h hpz]
    rfl
  · intro memoryMap physBase
    unfold armLoadMacho
    rw [hbounds, machoWalk_truncate h hpz]

/-- A `__PAGEZERO` segment: 4 GiB at address `0`, no file bytes. -/
def pageZeroCommand : MachoLoadCommand :=
  ⟨LC_SEGMENT_64, 72, ⟨asciiBytes "__PAGEZERO", 0, 0x100000000, 0, 0⟩, 0⟩

/-- A `__TEXT` segment of one 16 KiB page at the usual kernel text address. -/
def textCommand : MachoLoadCommand :=
  ⟨LC_SEGMENT_64, 72, ⟨asciiBytes "__TEXT", 0xFFFFFFF007004000, 0x4000, 0, 0x4000⟩, 0⟩

/-- An image whose two commands are `__PAGEZERO` and then `__TEXT`. -/
def pageZeroFirstImage : MachoHeader64 :=
  ⟨MACH_MAGIC_64, 2, 2, fun off => if off = MACHO_HEADER64_SIZE then pageZeroCommand else textCommand⟩

/-- With `__PAGEZERO` first, the loops see no command at all.
Source: `hw/arm/apple-silicon/boot.c` `macho_highest_lowest`
Kind: P -/
theorem macho_loops_stop_at_pagezero_first :
    pageZeroFirstImage.Holds ([] ++ pageZeroCommand :: [textCommand]) ∧
      machoIsPageZero pageZeroCommand = true ∧
      machoHighestLowest pageZeroFirstImage = machoHighestLowest (pageZeroFirstImage.truncate 0) ∧
      (∀ data len, machoParse pageZeroFirstImage data len =
        machoParse (pageZeroFirstImage.truncate 0) data len) ∧
      ∀ memoryMap physBase, armLoadMacho pageZeroFirstImage memoryMap physBase =
        armLoadMacho (pageZeroFirstImage.truncate 0) memoryMap physBase :=
  have hholds : pageZeroFirstImage.Holds ([] ++ pageZeroCommand :: [textCommand]) :=
    ⟨LaidOut.cons rfl (LaidOut.cons rfl (LaidOut.nil _)), rfl⟩
  have hpz : machoIsPageZero pageZeroCommand = true := by decide
  ⟨hholds, hpz,
    macho_loops_stop_at_pagezero pageZeroFirstImage [] [textCommand] pageZeroCommand hholds hpz⟩

/- The bounds of that image: the `__TEXT` segment would give `0xFFFFFFF006000000` and
`0xFFFFFFF007008000`; the loop leaves the initial values, and `macho_parse` fails its assertion
`lowaddr < highaddr`. -/
example : machoHighestLowest pageZeroFirstImage = (0xFFFFFFFFFE000000, 0) := by decide

example (data : Mem) (len : UInt32) : machoParse pageZeroFirstImage data len = none := by
  rw [machoParse, if_neg (by decide)]
  exact if_neg (by decide)

end QemuAppleSilicon.Arm
