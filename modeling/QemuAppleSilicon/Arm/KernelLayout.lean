import QemuAppleSilicon.Arm.Macho

/-!
# Where the T8030 machine places the kernel and its data (`hw/arm/apple-silicon/t8030.c`)

`t8030_load_classic_kc` (an `MH_EXECUTE` kernelcache) picks KASLR slides, fixes the physical base
`g_phys_base = DRAM_BASE` and the virtual base `g_virt_base` that `vtop_static` and `ptov_static`
translate with, and lays out physical memory: the trustcache right below the slid `__TEXT`, the
kernel image at `DRAM_BASE + phys_slide`, then after the image's end the ramdisk, the SEPFW
mapping, the boot arguments and the device tree. `t8030_load_fileset_kc` (an `MH_FILESET`
kernelcache) puts the device tree and trustcache first, right below the image, and grows both
slides when they do not fit in what is left of the 32 MiB L2 granule.

The model computes the addresses each routine stores and passes on, in 64-bit arithmetic; the
bytes written there, the memory-map properties and the AMCC registers are left out. A routine is
`none` where an assertion fails (`vtop_bases` and `ptov_bases` on a zero base), where
`macho_get_segment` returns `NULL` for `__TEXT` (dereferenced), or where `arm_load_macho` fails.

* `classicKc_loads_mapped` — every segment `arm_load_macho` loads sits where `g_virt_base` says
  its slid address is, and the device-tree pointer is the image of its address.
* `classic_kc_trustcache_below_dram` — the trustcache goes to `DRAM_BASE + phys_slide +
  (__TEXT - virt_low) - trustcache_size` with no check, below `DRAM_BASE` whenever the slide and
  the offset of `__TEXT` are smaller than the trustcache.
-/

namespace QemuAppleSilicon.Arm

open QemuAppleSilicon.Lib QemuAppleSilicon.Qemu QemuAppleSilicon.Arm.Dtb

/-! ## Constants and slides -/

/-- Source: `hw/arm/apple-silicon/t8030.c` `DRAM_BASE`. Kind: D -/
def DRAM_BASE : UInt64 := 0x800000000

/-- Source: `hw/arm/apple-silicon/t8030.c` `L2_GRANULE`. Kind: D -/
def L2_GRANULE : UInt64 := 0x4000 * (0x4000 / 8)

/-- Source: `hw/arm/apple-silicon/t8030.c` `L2_GRANULE_MASK`. Kind: D -/
def L2_GRANULE_MASK : UInt64 := L2_GRANULE - 1

/-- Source: `include/hw/arm/apple-silicon/sep.h` `SEPFW_MAPPING_SIZE`. Kind: D -/
def SEPFW_MAPPING_SIZE : UInt64 := 16 * 1024 * 1024

/-- `ROUND_UP_16K(v)` on a `hwaddr`: `ROUND_DOWN(v + 0x3fff, 0x4000)`.
Source: `include/hw/arm/apple-silicon/mem.h` `ROUND_UP_16K`
Kind: D -/
def roundUp16K64 (v : UInt64) : UInt64 := (v + 0x4000 - 1) &&& (0 - 0x4000)

/-- `get_kaslr_slides`: the virtual slide is the random value's 2 MiB-aligned part below 512 MiB
(`0` becoming 512 MiB), and the physical slide is its part below the 32 MiB L2 granule; both are
zero with KASLR off. The result is `(phys_slide, virt_slide)`.
Source: `hw/arm/apple-silicon/t8030.c` `get_kaslr_slides`
Kind: D -/
def getKaslrSlides (kaslrOff : Bool) (randomValue : UInt64) : UInt64 × UInt64 :=
  if kaslrOff then (0, 0)
  else
    let slideGranularMask : UInt64 := ((1 : UInt64) <<< 21) - 1
    let slideVirtMax : UInt64 := 0x100 * (2 * 1024 * 1024)
    let slideVirt := (randomValue &&& ~~~slideGranularMask) % slideVirtMax
    let slideVirt := if slideVirt = 0 then slideVirtMax else slideVirt
    (slideVirt &&& L2_GRANULE_MASK, slideVirt)

/-- `macho_get_segment(header, segname)` on an `MH_EXECUTE` image: the first `LC_SEGMENT_64`
whose name matches in its 16 bytes. This loop advances after every command, `__PAGEZERO`
included.
Source: `hw/arm/apple-silicon/boot.c` `macho_get_segment`
Kind: D -/
def machoGetSegment (mh : MachoHeader64) (segname : List UInt8) : Option MachoSegmentCommand64 :=
  cursorWalk mh.commandAt machoCmdSize (fun _ => false)
    (fun c found => found.orElse fun _ =>
      if c.cmd = LC_SEGMENT_64 ∧ strncmpEq c.segment.segname segname 16 then some c.segment
      else none)
    mh.nCmds.toNat MACHO_HEADER64_SIZE none

/-! ## The classic kernelcache -/

/-- What the layout depends on besides the image: the KASLR switch and random value, the sizes
of the trustcache and the device tree, the ramdisk's size when one is given, and the memory size
`carveout_alloc_finalise` returns.
Source: `hw/arm/apple-silicon/t8030.c` `AppleBootInfo`, `T8030MachineState`
Kind: D -/
structure KernelBootInputs where
  kaslrOff : Bool
  randomValue : UInt64
  trustcacheSize : UInt64
  deviceTreeSize : UInt64
  ramdiskSize : Option UInt64
  memSize : UInt64

/-- The addresses a layout routine stores and hands to `macho_setup_bootargs`: the bases and
slides, the trustcache, the kernel's load (segments and entry point), the ramdisk, SEPFW mapping,
boot arguments and device tree, the device tree's virtual address, the top of kernel data and
the memory size.
Source: `hw/arm/apple-silicon/t8030.c` `t8030_load_classic_kc`
Kind: D -/
structure KernelLayout where
  physBase : UInt64
  virtBase : UInt64
  physSlide : UInt64
  virtSlide : UInt64
  trustcacheAddr : UInt64
  kernel : ArmLoadMachoState
  ramdiskAddr : Option UInt64
  sepFwAddr : UInt64
  bootArgsAddr : UInt64
  deviceTreeAddr : UInt64
  dtbVa : UInt64
  topOfKernelData : UInt64
  memSize : UInt64

/-- The layout after the kernel image: the ramdisk (16K-rounded) if one is given, the SEPFW
mapping, 16 KiB of boot arguments, then the device tree, from `physPtr`; the result lists the
ramdisk, SEPFW, boot-args and device-tree addresses and the end.
Source: `hw/arm/apple-silicon/t8030.c` `t8030_load_classic_kc`
Kind: D -/
def classicKcTail (ramdiskSize : Option UInt64) (deviceTreeSize physPtr : UInt64) :
    Option UInt64 × UInt64 × UInt64 × UInt64 × UInt64 :=
  let (ramdiskAddr, physPtr) := match ramdiskSize with
    | none => (none, physPtr)
    | some size => (some physPtr, physPtr + roundUp16K64 size)
  let sepFwAddr := physPtr
  let bootArgsAddr := sepFwAddr + SEPFW_MAPPING_SIZE
  let deviceTreeAddr := bootArgsAddr + 0x4000
  (ramdiskAddr, sepFwAddr, bootArgsAddr, deviceTreeAddr, deviceTreeAddr + deviceTreeSize)

/-- `t8030_load_classic_kc`: `g_phys_base = DRAM_BASE`, `g_virt_base = virt_low + virt_slide -
phys_slide`; the trustcache right below `vtop_slid(__TEXT)`; the image loaded at
`DRAM_BASE + phys_slide`; the rest from the physical image of the slid, 16K-rounded image end.
Source: `hw/arm/apple-silicon/t8030.c` `t8030_load_classic_kc`
Kind: D -/
def t8030LoadClassicKc (mh : MachoHeader64) (memoryMap : Option DTBNode) (inp : KernelBootInputs) :
    Option KernelLayout := do
  let (virtLow, virtEnd) := machoHighestLowest mh
  let (physSlide, virtSlide) := getKaslrSlides inp.kaslrOff inp.randomValue
  let text ← machoGetSegment mh (asciiBytes "__TEXT")
  let physBase := DRAM_BASE
  let virtBase := virtLow + virtSlide - physSlide
  let textPhys ← vtopBases (text.vmaddr + virtSlide) physBase virtBase
  let kernel ← armLoadMacho mh memoryMap (physBase + physSlide)
  let physPtr ← vtopBases (roundUp16K64 (virtEnd + virtSlide)) physBase virtBase
  let (ramdiskAddr, sepFwAddr, bootArgsAddr, deviceTreeAddr, physEnd) :=
    classicKcTail inp.ramdiskSize inp.deviceTreeSize physPtr
  let dtbVa ← ptovBases deviceTreeAddr physBase virtBase
  return { physBase, virtBase, physSlide, virtSlide,
           trustcacheAddr := textPhys - inp.trustcacheSize, kernel, ramdiskAddr, sepFwAddr,
           bootArgsAddr, deviceTreeAddr, dtbVa, topOfKernelData := roundUp16K64 physEnd,
           memSize := inp.memSize }

theorem vtopBases_some {va physBase virtBase r : UInt64} (h : vtopBases va physBase virtBase = some r) :
    r = va - virtBase + physBase := by
  unfold vtopBases at h
  split at h
  · cases h
  · exact (Option.some.inj h).symm

theorem ptovBases_some {pa physBase virtBase r : UInt64} (h : ptovBases pa physBase virtBase = some r) :
    r = pa - physBase + virtBase := by
  unfold ptovBases at h
  split at h
  · cases h
  · exact (Option.some.inj h).symm

/-- What a run of `t8030_load_classic_kc` that returns has computed: the bases and slides, the
trustcache below the physical image of the slid `__TEXT`, the image loaded at
`DRAM_BASE + phys_slide`, and the device tree's virtual address under `g_virt_base`.
Source: `hw/arm/apple-silicon/t8030.c` `t8030_load_classic_kc`
Kind: L -/
theorem t8030LoadClassicKc_some {mh : MachoHeader64} {memoryMap : Option DTBNode}
    {inp : KernelBootInputs} {L : KernelLayout} (h : t8030LoadClassicKc mh memoryMap inp = some L) :
    L.physBase = DRAM_BASE ∧ (L.physSlide, L.virtSlide) = getKaslrSlides inp.kaslrOff inp.randomValue ∧
      L.virtBase = (machoHighestLowest mh).1 + L.virtSlide - L.physSlide ∧
      (∃ text, machoGetSegment mh (asciiBytes "__TEXT") = some text ∧
        L.trustcacheAddr = text.vmaddr + L.virtSlide - L.virtBase + DRAM_BASE - inp.trustcacheSize) ∧
      armLoadMacho mh memoryMap (DRAM_BASE + L.physSlide) = some L.kernel ∧
      L.dtbVa = L.deviceTreeAddr - DRAM_BASE + L.virtBase := by
  simp only [t8030LoadClassicKc, bind, Option.bind_eq_some_iff, pure] at h
  obtain ⟨text, htext, textPhys, htextPhys, kernel, hkernel, physPtr, -, dtbVa, hdtbVa, hL⟩ := h
  obtain rfl := Option.some.inj hL
  exact ⟨rfl, rfl, rfl, ⟨text, htext, by rw [vtopBases_some htextPhys]⟩, hkernel,
    ptovBases_some hdtbVa⟩

/-! ## Where the segments go -/

/-- Every segment load records its destination as `phys_base` plus its offset in the image.
Source: `hw/arm/apple-silicon/boot.c` `arm_load_macho`
Kind: D -/
def LoadsAt (physBase : UInt64) (st : Option ArmLoadMachoState) : Prop :=
  ∀ s ∈ st, ∀ ld ∈ s.loads, ld.loadTo = physBase + ld.loadFrom

/-- One command keeps `LoadsAt`: a segment is loaded to `phys_base + vmaddr - virt_low`, which is
`phys_base` plus its offset `vmaddr - virt_low`.
Source: `hw/arm/apple-silicon/boot.c` `arm_load_macho`
Kind: L -/
theorem loadsAt_armLoadMachoStep {physBase virtLow : UInt64} (c : MachoLoadCommand)
    {st : Option ArmLoadMachoState} (h : LoadsAt physBase st) :
    LoadsAt physBase (armLoadMachoStep physBase virtLow c st) := by
  intro s' hs' ld hld
  simp only [armLoadMachoStep, Option.mem_def, Option.bind_eq_some_iff] at hs'
  obtain ⟨s, hs, hstep⟩ := hs'
  split_ifs at hstep with hseg hempty hthread
  · -- an empty segment: named in the memory map, not loaded
    obtain ⟨mm, -, rfl⟩ := Option.map_eq_some_iff.mp hstep
    exact h s hs ld hld
  · -- a loaded segment: the new load is at `phys_base` plus the segment's offset
    obtain ⟨mm, -, rfl⟩ := Option.map_eq_some_iff.mp hstep
    rcases List.mem_append.mp hld with hold | hnew
    · exact h s hs ld hold
    · rw [List.mem_singleton.mp hnew]
      dsimp only
      grind
  · obtain ⟨pc, -, rfl⟩ := Option.map_eq_some_iff.mp hstep
    exact h s hs ld hld
  · obtain rfl := Option.some.inj hstep
    exact h s hs ld hld

/-- `arm_load_macho` loads every segment at `phys_base` plus its offset in the image.
Source: `hw/arm/apple-silicon/boot.c` `arm_load_macho`
Kind: L -/
theorem armLoadMacho_loadsAt {mh : MachoHeader64} {memoryMap : Option DTBNode} {physBase : UInt64}
    {st : ArmLoadMachoState} (h : armLoadMacho mh memoryMap physBase = some st) :
    ∀ ld ∈ st.loads, ld.loadTo = physBase + ld.loadFrom := by
  have hinv := @cursorWalk_invariant _ _ mh.commandAt machoCmdSize machoIsPageZero
    (armLoadMachoStep physBase (machoHighestLowest mh).1) (LoadsAt physBase)
    (fun c _ hs => loadsAt_armLoadMachoStep c hs) mh.nCmds.toNat MACHO_HEADER64_SIZE
    (some ⟨memoryMap, [], 0⟩) (by simp [LoadsAt])
  exact hinv st h

/-- The mapping `t8030_load_classic_kc` hands the kernel agrees with where it put the kernel:
every segment loaded at `p` from image offset `o` is seen at `p - g_phys_base + g_virt_base =
virt_low + o + virt_slide`, its slid address, and the device-tree pointer is the image of the
device tree's address.
Source: `hw/arm/apple-silicon/t8030.c` `t8030_load_classic_kc`
Kind: L -/
theorem classicKc_loads_mapped {mh : MachoHeader64} {memoryMap : Option DTBNode}
    {inp : KernelBootInputs} {L : KernelLayout} (hrun : t8030LoadClassicKc mh memoryMap inp = some L) :
    (∀ ld ∈ L.kernel.loads,
      ld.loadTo - L.physBase + L.virtBase = (machoHighestLowest mh).1 + ld.loadFrom + L.virtSlide) ∧
      L.dtbVa = L.deviceTreeAddr - L.physBase + L.virtBase := by
  obtain ⟨hphys, -, hvirt, -, hkernel, hdtb⟩ := t8030LoadClassicKc_some hrun
  refine ⟨fun ld hld => ?_, by rw [hdtb, hphys]⟩
  rw [armLoadMacho_loadsAt hkernel ld hld, hphys, hvirt]
  grind

/-- For an `MH_EXECUTE` kernelcache whose physical slide and `__TEXT` offset (from the rounded
lowest segment address) add up to less than the trustcache's size, every run that lays the
kernel out puts the trustcache below `DRAM_BASE`: `vtop_slid(text_base) - trustcache_size` is
`DRAM_BASE + phys_slide + (text_base - virt_low) - trustcache_size`, and nothing checks it.
Source: `hw/arm/apple-silicon/t8030.c` `t8030_load_classic_kc`
Kind: P -/
theorem classic_kc_trustcache_below_dram {mh : MachoHeader64} {memoryMap : Option DTBNode}
    {inp : KernelBootInputs} {L : KernelLayout} (hrun : t8030LoadClassicKc mh memoryMap inp = some L)
    {text : MachoSegmentCommand64} (htext : machoGetSegment mh (asciiBytes "__TEXT") = some text)
    (hsmall : (getKaslrSlides inp.kaslrOff inp.randomValue).1.toNat +
      (text.vmaddr - (machoHighestLowest mh).1).toNat < inp.trustcacheSize.toNat)
    (hsize : inp.trustcacheSize ≤ DRAM_BASE) :
    L.trustcacheAddr < DRAM_BASE := by
  obtain ⟨-, hslides, hvirt, ⟨text', htext', htc⟩, -, -⟩ := t8030LoadClassicKc_some hrun
  have htext'' : text' = text := Option.some.inj (htext'.symm.trans htext)
  rw [htext''] at htc
  have hps : L.physSlide = (getKaslrSlides inp.kaslrOff inp.randomValue).1 :=
    congrArg Prod.fst hslides
  -- the address the code computes, with `g_virt_base` put in
  have haddr : L.trustcacheAddr =
      DRAM_BASE + (L.physSlide + (text.vmaddr - (machoHighestLowest mh).1)) - inp.trustcacheSize := by
    rw [htc, hvirt]
    grind
  have hdram : DRAM_BASE.toNat = 0x800000000 := rfl
  have hsize' := UInt64.le_iff_toNat_le.mp hsize
  have hx : (L.physSlide + (text.vmaddr - (machoHighestLowest mh).1)).toNat =
      L.physSlide.toNat + (text.vmaddr - (machoHighestLowest mh).1).toNat := by
    rw [UInt64.toNat_add]
    apply Nat.mod_eq_of_lt
    rw [hps]
    omega
  have hsum : (DRAM_BASE + (L.physSlide + (text.vmaddr - (machoHighestLowest mh).1))).toNat =
      DRAM_BASE.toNat + (L.physSlide + (text.vmaddr - (machoHighestLowest mh).1)).toNat := by
    rw [UInt64.toNat_add]
    apply Nat.mod_eq_of_lt
    rw [hx, hps]
    omega
  rw [UInt64.lt_iff_toNat_lt, haddr, UInt64.toNat_sub_of_le _ _ (UInt64.le_iff_toNat_le.mpr
    (by rw [hsum]; omega)), hsum, hx, hps]
  omega

/-- An `MH_EXECUTE` image with the one `__TEXT` segment of `textCommand`, at
`0xFFFFFFF007004000`: `virt_low` is `0xFFFFFFF006000000`, so `__TEXT` is `0x1004000` above it. -/
def textOnlyImage : MachoHeader64 := ⟨MACH_MAGIC_64, 2, 1, fun _ => textCommand⟩

/-- KASLR on with the random value `0x2000000` (a 32 MiB virtual slide, so no physical slide), a
32 MiB trustcache, a 256 KiB device tree, no ramdisk, 2 GiB of memory. -/
def largeTrustcacheInputs : KernelBootInputs :=
  ⟨false, 0x2000000, 0x2000000, 0x40000, none, 0x80000000⟩

/-- With a 32 MiB virtual slide and a 32 MiB trustcache, `textOnlyImage` is laid out with its
trustcache at `0x7FF004000`, below `DRAM_BASE`.
Source: none: infrastructure
Kind: P -/
theorem classic_kc_trustcache_below_dram_large_trustcache :
    ∃ L, t8030LoadClassicKc textOnlyImage none largeTrustcacheInputs = some L ∧
      L.trustcacheAddr < DRAM_BASE := by
  have hsome : (t8030LoadClassicKc textOnlyImage none largeTrustcacheInputs).isSome = true := by
    decide
  have htext : machoGetSegment textOnlyImage (asciiBytes "__TEXT") = some textCommand.segment := by
    decide
  obtain ⟨L, hL⟩ := Option.isSome_iff_exists.mp hsome
  exact ⟨L, hL, classic_kc_trustcache_below_dram hL htext (by decide) (by decide)⟩

end QemuAppleSilicon.Arm
