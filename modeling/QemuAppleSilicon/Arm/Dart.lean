import QemuAppleSilicon.Qemu.Bitops
import QemuAppleSilicon.Qemu.Dma

/-!
# The Apple DART IOMMU (`hw/arm/apple-silicon/dart.c`)

A DART instance has a 16 KiB register file, `base_reg`, which a packed union also reads as named
fields: `tlb_op` at `0x20`, `sid_mask` at `0x34`, `error_status` at `0x40`, `error_address` at
`0x50`, the byte array `remap[16]` at `0x80`, `tcr[16]` at `0x100` and `ttbr[16][4]` at `0x200`.
Here the register file is a function from word index to word, and each field is a view of it
(`AppleDARTInstance.tlbOp` and the others), so that a store through `base_reg` changes the field
it overlaps, as in the source.

A translation on stream `sid` remaps the stream, passes through to `bypass_address` for a
stream in the device-tree `bypass` mask or whose `TCR` has `TXEN` clear or `BYPASS_DART` set,
and otherwise looks up the TLB under the key `(sid << 53) | page`, built from the *unremapped*
stream; on a miss it walks the three-level table of the remapped stream (`apple_dart_ptw`),
caches a successful walk and records a fault for a failed one. A write of `TLB_OP` with
`DART_TLB_OP_INVALIDATE` drops the TLB entries of the streams in `sid_mask`, unless `tlb_op`
already has `DART_TLB_OP_BUSY` set.

The IOMMU notifier events, the interrupt line (`apple_dart_update_irq`) and the mutex are not
modelled; the TLB is a function from key to entry.
-/

namespace QemuAppleSilicon.Arm

open QemuAppleSilicon.Lib QemuAppleSilicon.Qemu

/-! ## Registers and constants -/

/-- Source: `hw/arm/apple-silicon/dart.c` `DART_MAX_STREAMS`. Kind: D -/
def DART_MAX_STREAMS : ℕ := 16
/-- Source: `hw/arm/apple-silicon/dart.c` `DART_MAX_TTBR`. Kind: D -/
def DART_MAX_TTBR : ℕ := 4

/-- Source: `hw/arm/apple-silicon/dart.c` `REG_DART_PARAMS1`. Kind: D -/
def REG_DART_PARAMS1 : ℕ := 0x0
/-- Source: `hw/arm/apple-silicon/dart.c` `DART_PARAMS1_PAGE_SHIFT`. Kind: D -/
def DART_PARAMS1_PAGE_SHIFT (x : ℕ) : UInt32 := (UInt32.ofNat x &&& 0xF) <<< 24
/-- Source: `hw/arm/apple-silicon/dart.c` `REG_DART_TLB_OP`. Kind: D -/
def REG_DART_TLB_OP : ℕ := 0x20
/-- Source: `hw/arm/apple-silicon/dart.c` `DART_TLB_OP_BUSY`. Kind: D -/
def DART_TLB_OP_BUSY : UInt32 := (1 : UInt32) <<< 2
/-- Source: `hw/arm/apple-silicon/dart.c` `DART_TLB_OP_INVALIDATE`. Kind: D -/
def DART_TLB_OP_INVALIDATE : UInt32 := (1 : UInt32) <<< 20
/-- Source: `hw/arm/apple-silicon/dart.c` `REG_DART_SID_MASK_LOW`. Kind: D -/
def REG_DART_SID_MASK_LOW : ℕ := 0x34
/-- Source: `hw/arm/apple-silicon/dart.c` `REG_DART_SID_MASK_HIGH`. Kind: D -/
def REG_DART_SID_MASK_HIGH : ℕ := 0x38
/-- Source: `hw/arm/apple-silicon/dart.c` `REG_DART_ERROR_STATUS`. Kind: D -/
def REG_DART_ERROR_STATUS : ℕ := 0x40
/-- Source: `hw/arm/apple-silicon/dart.c` `DART_ERROR_STREAM_SHIFT`. Kind: D -/
def DART_ERROR_STREAM_SHIFT : ℕ := 24
/-- Source: `hw/arm/apple-silicon/dart.c` `DART_ERROR_STREAM_LENGTH`. Kind: D -/
def DART_ERROR_STREAM_LENGTH : ℕ := 4
/-- Source: `hw/arm/apple-silicon/dart.c` `DART_ERROR_FLAG`. Kind: D -/
def DART_ERROR_FLAG : UInt32 := (1 : UInt32) <<< 31
/-- Source: `hw/arm/apple-silicon/dart.c` `DART_ERROR_READ_PROT`. Kind: D -/
def DART_ERROR_READ_PROT : UInt32 := (1 : UInt32) <<< 4
/-- Source: `hw/arm/apple-silicon/dart.c` `DART_ERROR_WRITE_PROT`. Kind: D -/
def DART_ERROR_WRITE_PROT : UInt32 := (1 : UInt32) <<< 3
/-- Source: `hw/arm/apple-silicon/dart.c` `DART_ERROR_PTE_INVLD`. Kind: D -/
def DART_ERROR_PTE_INVLD : UInt32 := (1 : UInt32) <<< 2
/-- Source: `hw/arm/apple-silicon/dart.c` `DART_ERROR_L2E_INVLD`. Kind: D -/
def DART_ERROR_L2E_INVLD : UInt32 := (1 : UInt32) <<< 1
/-- Source: `hw/arm/apple-silicon/dart.c` `DART_ERROR_TTBR_INVLD`. Kind: D -/
def DART_ERROR_TTBR_INVLD : UInt32 := (1 : UInt32) <<< 0
/-- Source: `hw/arm/apple-silicon/dart.c` `REG_DART_ERROR_ADDRESS_LO`. Kind: D -/
def REG_DART_ERROR_ADDRESS_LO : ℕ := 0x50
/-- Source: `hw/arm/apple-silicon/dart.c` `DART_SID_REMAP`. Kind: D -/
def DART_SID_REMAP (sid4 : ℕ) : ℕ := 0x80 + 4 * sid4
/-- Source: `hw/arm/apple-silicon/dart.c` `REG_DART_TCR`. Kind: D -/
def REG_DART_TCR (sid : ℕ) : ℕ := 0x100 + 4 * sid
/-- Source: `hw/arm/apple-silicon/dart.c` `DART_TCR_TXEN`. Kind: D -/
def DART_TCR_TXEN : UInt32 := (1 : UInt32) <<< 7
/-- Source: `hw/arm/apple-silicon/dart.c` `DART_TCR_BYPASS_DART`. Kind: D -/
def DART_TCR_BYPASS_DART : UInt32 := (1 : UInt32) <<< 8
/-- Source: `hw/arm/apple-silicon/dart.c` `REG_DART_TTBR`. Kind: D -/
def REG_DART_TTBR (sid idx : ℕ) : ℕ := 0x200 + 16 * sid + 4 * idx
/-- Source: `hw/arm/apple-silicon/dart.c` `DART_TTBR_VALID`. Kind: D -/
def DART_TTBR_VALID : UInt32 := (1 : UInt32) <<< 31
/-- Source: `hw/arm/apple-silicon/dart.c` `DART_TTBR_SHIFT`. Kind: D -/
def DART_TTBR_SHIFT : UInt64 := 12
/-- Source: `hw/arm/apple-silicon/dart.c` `DART_TTBR_MASK`. Kind: D -/
def DART_TTBR_MASK : UInt64 := 0xFFFFFFF
/-- Source: `hw/arm/apple-silicon/dart.c` `DART_PTE_NO_WRITE`. Kind: D -/
def DART_PTE_NO_WRITE : UInt64 := (1 : UInt64) <<< 7
/-- Source: `hw/arm/apple-silicon/dart.c` `DART_PTE_NO_READ`. Kind: D -/
def DART_PTE_NO_READ : UInt64 := (1 : UInt64) <<< 8
/-- Source: `hw/arm/apple-silicon/dart.c` `DART_PTE_VALID`. Kind: D -/
def DART_PTE_VALID : UInt64 := (1 : UInt64) <<< 0
/-- Source: `hw/arm/apple-silicon/dart.c` `DART_PTE_ADDR_MASK`. Kind: D -/
def DART_PTE_ADDR_MASK : UInt64 := 0xFFFFFFFFFF
/-- Source: `hw/arm/apple-silicon/dart.c` `DART_IOTLB_SID_SHIFT`. Kind: D -/
def DART_IOTLB_SID_SHIFT : UInt64 := 53

/-- `DART_IOTLB_SID(x)`: the stream placed above the page number in a TLB key.
Source: `hw/arm/apple-silicon/dart.c` `DART_IOTLB_SID`
Kind: D -/
def DART_IOTLB_SID (x : UInt64) : UInt64 := (x &&& 0xF) <<< DART_IOTLB_SID_SHIFT

/-- `GET_DART_IOTLB_SID(x)`: the stream of a TLB key.
Source: `hw/arm/apple-silicon/dart.c` `GET_DART_IOTLB_SID`
Kind: D -/
def GET_DART_IOTLB_SID (x : UInt64) : UInt64 := (x >>> DART_IOTLB_SID_SHIFT) &&& 0xF

/-! ## The device and its instances -/

/-- `dart_instance_t`.
Source: `hw/arm/apple-silicon/dart.c` `dart_instance_t`
Kind: D -/
inductive DartInstanceType where
  | DART_UNKNOWN
  | DART_DART
  | DART_SMMU
  | DART_DAPF
  deriving DecidableEq, Repr

/-- The fields of `AppleDARTState` that `apple_dart_create` fixes and the translation reads. The
page shift is `12` or `14`: `apple_dart_create` stops on any other.
Source: `hw/arm/apple-silicon/dart.c` `AppleDARTState`, `apple_dart_create`
Kind: D -/
structure AppleDARTState where
  pageShift : ℕ
  pageShift_cases : pageShift = 12 ∨ pageShift = 14
  bypass : UInt32
  bypassAddress : UInt64
  dartOptions : UInt32

namespace AppleDARTState

/-- `s->page_size = 1 << s->page_shift`.
Source: `hw/arm/apple-silicon/dart.c` `apple_dart_create`
Kind: D -/
def pageSize (s : AppleDARTState) : UInt32 := (1 : UInt32) <<< UInt32.ofNat s.pageShift

/-- `s->page_bits = s->page_size - 1`.
Source: `hw/arm/apple-silicon/dart.c` `apple_dart_create`
Kind: D -/
def pageBits (s : AppleDARTState) : UInt64 := (s.pageSize - 1).toUInt64

/-- `s->page_mask = ~s->page_bits`.
Source: `hw/arm/apple-silicon/dart.c` `apple_dart_create`
Kind: D -/
def pageMask (s : AppleDARTState) : UInt64 := ~~~s.pageBits

/-- `s->l_mask[level]`: the bits of the page number that index each level.
Source: `hw/arm/apple-silicon/dart.c` `apple_dart_create`
Kind: D -/
def lMask (s : AppleDARTState) (level : ℕ) : UInt32 :=
  if s.pageShift = 12 then [0xc0000, 0x3fe00, 0x1ff].getD level 0
  else [0xc00000, 0x3ff800, 0x7ff].getD level 0

/-- `s->l_shift[level]`.
Source: `hw/arm/apple-silicon/dart.c` `apple_dart_create`
Kind: D -/
def lShift (s : AppleDARTState) (level : ℕ) : UInt32 :=
  if s.pageShift = 12 then [0x12, 9, 0].getD level 0
  else [0x16, 11, 0].getD level 0

end AppleDARTState

/-- The TLB value: the block address of a page and its rights.
Source: `hw/arm/apple-silicon/dart.c` `AppleDARTTLBEntry`
Kind: D -/
structure AppleDARTTLBEntry where
  blockAddr : UInt64
  perm : IOMMUAccessFlags
  deriving DecidableEq, Repr

/-- A DART instance: its type, its register file `base_reg` (word index to word) and its TLB
(key to entry; `none` where the hash table has no entry).
Source: `hw/arm/apple-silicon/dart.c` `AppleDARTInstance`
Kind: D -/
structure AppleDARTInstance where
  type : DartInstanceType
  baseReg : ℕ → UInt32
  tlb : UInt64 → Option AppleDARTTLBEntry

namespace AppleDARTInstance

/-- The byte at offset `off` of the register file (the host is little-endian). -/
def regByte (o : AppleDARTInstance) (off : ℕ) : UInt8 :=
  (o.baseReg (off / 4) >>> UInt32.ofNat (8 * (off % 4))).toUInt8

/-- The `uint64_t` field at the word-aligned offset `off`: two words, low one first. -/
def regQuad (o : AppleDARTInstance) (off : ℕ) : UInt64 :=
  (o.baseReg (off / 4)).toUInt64 ||| ((o.baseReg (off / 4 + 1)).toUInt64 <<< 32)

/-- Source: `hw/arm/apple-silicon/dart.c` `AppleDARTInstance.tlb_op`. Kind: D -/
def tlbOp (o : AppleDARTInstance) : UInt32 := o.baseReg (REG_DART_TLB_OP / 4)
/-- Source: `hw/arm/apple-silicon/dart.c` `AppleDARTInstance.sid_mask`. Kind: D -/
def sidMask (o : AppleDARTInstance) : UInt64 := o.regQuad REG_DART_SID_MASK_LOW
/-- Source: `hw/arm/apple-silicon/dart.c` `AppleDARTInstance.error_status`. Kind: D -/
def errorStatus (o : AppleDARTInstance) : UInt32 := o.baseReg (REG_DART_ERROR_STATUS / 4)
/-- Source: `hw/arm/apple-silicon/dart.c` `AppleDARTInstance.error_address`. Kind: D -/
def errorAddress (o : AppleDARTInstance) : UInt64 := o.regQuad REG_DART_ERROR_ADDRESS_LO
/-- Source: `hw/arm/apple-silicon/dart.c` `AppleDARTInstance.remap`. Kind: D -/
def remap (o : AppleDARTInstance) (sid : ℕ) : UInt8 := o.regByte (DART_SID_REMAP 0 + sid)
/-- Source: `hw/arm/apple-silicon/dart.c` `AppleDARTInstance.tcr`. Kind: D -/
def tcr (o : AppleDARTInstance) (sid : ℕ) : UInt32 := o.baseReg (REG_DART_TCR sid / 4)
/-- Source: `hw/arm/apple-silicon/dart.c` `AppleDARTInstance.ttbr`. Kind: D -/
def ttbr (o : AppleDARTInstance) (sid idx : ℕ) : UInt32 := o.baseReg (REG_DART_TTBR sid idx / 4)

/-- The remapped stream of a translation: `o->remap[sid] & 0xf`.
Source: `hw/arm/apple-silicon/dart.c` `apple_dart_translate`
Kind: D -/
def remapped (o : AppleDARTInstance) (sid : ℕ) : ℕ := (o.remap sid &&& 0xf).toNat

/-- A store of `error_status`. -/
def setErrorStatus (o : AppleDARTInstance) (v : UInt32) : AppleDARTInstance :=
  { o with baseReg := Function.update o.baseReg (REG_DART_ERROR_STATUS / 4) v }

/-- A store of `error_address`: its two words. -/
def setErrorAddress (o : AppleDARTInstance) (v : UInt64) : AppleDARTInstance :=
  { o with
    baseReg := Function.update (Function.update o.baseReg (REG_DART_ERROR_ADDRESS_LO / 4)
      v.toUInt32) (REG_DART_ERROR_ADDRESS_LO / 4 + 1) (v >>> 32).toUInt32 }

/-- The fault record of `apple_dart_translate`: `status` or-ed into `error_status`, the
unremapped stream deposited into its bits 24 to 27, and the faulting address.
Source: `hw/arm/apple-silicon/dart.c` `apple_dart_translate`
Kind: D -/
def recordFault (o : AppleDARTInstance) (sid : ℕ) (status : UInt32) (addr : UInt64) :
    AppleDARTInstance :=
  (o.setErrorStatus (deposit32 (o.errorStatus ||| status) DART_ERROR_STREAM_SHIFT
    DART_ERROR_STREAM_LENGTH (UInt32.ofNat sid))).setErrorAddress addr

end AppleDARTInstance

/-! ## Registers -/

/-- `apple_dart_tlb_remove_by_sid_mask`: a key goes when its stream is in the mask.
Source: `hw/arm/apple-silicon/dart.c` `apple_dart_tlb_remove_by_sid_mask`
Kind: D -/
def appleDartTlbRemoveBySidMask (key sidMask : UInt64) : Bool :=
  (1 <<< GET_DART_IOTLB_SID key) &&& sidMask != 0

/-- `base_reg_write(o, addr, data)` on a four-byte access. On a DART-type instance a write of
`TLB_OP` with `DART_TLB_OP_INVALIDATE` is dropped while `tlb_op` has BUSY set, and otherwise
removes the entries of the streams in `sid_mask` and clears the two bits in `tlb_op` (the
BUSY set around the removal is cleared again); a write of `ERROR_STATUS` changes nothing.
Every other write stores `val` at `base_reg[addr >> 2]`.
Source: `hw/arm/apple-silicon/dart.c` `base_reg_write`
Kind: D -/
def baseRegWrite (o : AppleDARTInstance) (addr : ℕ) (data : UInt64) : AppleDARTInstance :=
  let val := data.toUInt32
  let store := { o with baseReg := Function.update o.baseReg (addr >>> 2) val }
  if o.type = .DART_DART then
    if addr = REG_DART_TLB_OP then
      if val &&& DART_TLB_OP_INVALIDATE ≠ 0 then
        if o.tlbOp &&& DART_TLB_OP_BUSY ≠ 0 then o
        else
          { o with
            tlb := fun key => if appleDartTlbRemoveBySidMask key o.sidMask then none else o.tlb key
            baseReg := Function.update o.baseReg (REG_DART_TLB_OP / 4)
              (o.tlbOp &&& ~~~(DART_TLB_OP_INVALIDATE ||| DART_TLB_OP_BUSY)) }
      else store
    else if addr = REG_DART_ERROR_STATUS then o
    else store
  else store

/-- `base_reg_read(o, addr)`.
Source: `hw/arm/apple-silicon/dart.c` `base_reg_read`
Kind: D -/
def baseRegRead (s : AppleDARTState) (o : AppleDARTInstance) (addr : ℕ) : UInt64 :=
  if o.type = .DART_DART then
    if addr = REG_DART_PARAMS1 then
      -- the hack against a panic: bit 31 reports `dart-options` bit 1
      (o.baseReg (addr >>> 2) ||| (if s.dartOptions &&& 0x2 ≠ 0 then (1 : UInt32) <<< 31 else 0)).toUInt64
    else if addr = REG_DART_TLB_OP then o.tlbOp.toUInt64
    else if addr = REG_DART_ERROR_STATUS then o.errorStatus.toUInt64
    else (o.baseReg (addr >>> 2)).toUInt64
  else 0

/-- The byte `b` stored at offset `off` of a register file. -/
def storeRegByte (regs : ℕ → UInt32) (off : ℕ) (b : UInt8) : ℕ → UInt32 :=
  let sh := UInt32.ofNat (8 * (off % 4))
  Function.update regs (off / 4) ((regs (off / 4) &&& ~~~((0xFF : UInt32) <<< sh)) ||| (b.toUInt32 <<< sh))

/-- The register file of a DART-type instance after reset: zero, with `params1` giving the page
shift and `remap[j] = j`.
Source: `hw/arm/apple-silicon/dart.c` `apple_dart_reset`
Kind: D -/
def dartResetRegs (s : AppleDARTState) : ℕ → UInt32 :=
  (List.range DART_MAX_STREAMS).foldl (fun regs j => storeRegByte regs (DART_SID_REMAP 0 + j) (UInt8.ofNat j))
    (Function.update (fun _ => 0) (REG_DART_PARAMS1 / 4) (DART_PARAMS1_PAGE_SHIFT s.pageShift))

/-- `apple_dart_reset` on one instance: the registers cleared, and for a DART-type instance the
reset values above and a new, empty TLB.
Source: `hw/arm/apple-silicon/dart.c` `apple_dart_reset`
Kind: D -/
def appleDartReset (s : AppleDARTState) (o : AppleDARTInstance) : AppleDARTInstance :=
  match o.type with
  | .DART_DART => { o with baseReg := dartResetRegs s, tlb := fun _ => none }
  | _ => { o with baseReg := fun _ => 0 }

/-! ## The table walk -/

/-- The loop of `apple_dart_ptw` over the levels left, from the table at `pa`: the last `pte`
(zero after a failed read or an invalid entry, which end the loop) and the error status.
Source: `hw/arm/apple-silicon/dart.c` `apple_dart_ptw`
Kind: D -/
def appleDartPtwLevels (s : AppleDARTState) (m : DmaMemory) (iova : UInt64) :
    List ℕ → UInt64 → UInt64 → UInt64 × UInt32
  | [], _, pte => (pte, 0)
  | level :: levels, pa, _ =>
    let idx := (iova &&& (s.lMask level).toUInt64) >>> (s.lShift level).toUInt64
    let pa := pa + 8 * idx
    match dmaLdq m pa.toNat with
    | none => (0, DART_ERROR_FLAG ||| DART_ERROR_L2E_INVLD)
    | some pte =>
      if pte &&& DART_PTE_VALID = 0 then (0, DART_ERROR_FLAG ||| DART_ERROR_PTE_INVLD)
      else appleDartPtwLevels s m iova levels (pte &&& s.pageMask &&& DART_PTE_ADDR_MASK) pte

/-- `apple_dart_ptw(o, sid, iova, &status)`: the TTBR chosen by the top bits of the page number,
then levels 1 and 2; the entry of a valid leaf, or `none` with the error status.
Source: `hw/arm/apple-silicon/dart.c` `apple_dart_ptw`
Kind: D -/
def appleDartPtw (s : AppleDARTState) (o : AppleDARTInstance) (m : DmaMemory) (sid : ℕ)
    (iova : UInt64) : Option AppleDARTTLBEntry × UInt32 :=
  let idx := (iova &&& (s.lMask 0).toUInt64) >>> (s.lShift 0).toUInt64
  if DART_MAX_TTBR ≤ idx.toNat ∨ o.ttbr sid idx.toNat &&& DART_TTBR_VALID = 0 then
    (none, DART_ERROR_FLAG ||| DART_ERROR_TTBR_INVLD)
  else
    let pte := (o.ttbr sid idx.toNat).toUInt64
    let pa := (pte &&& DART_TTBR_MASK) <<< DART_TTBR_SHIFT
    match appleDartPtwLevels s m iova [1, 2] pa pte with
    | (pte, err) =>
      if pte &&& DART_PTE_VALID ≠ 0 then
        (some { blockAddr := pte &&& s.pageMask &&& DART_PTE_ADDR_MASK
                perm := IOMMU_ACCESS_FLAG (pte &&& DART_PTE_NO_READ = 0)
                  (pte &&& DART_PTE_NO_WRITE = 0) }, err)
      else (none, DART_ERROR_FLAG ||| DART_ERROR_PTE_INVLD)

/-! ## Translation -/

/-- The TLB key of an access: `DART_IOTLB_SID(iommu->sid) | (addr >> page_shift)`, with the
unremapped stream.
Source: `hw/arm/apple-silicon/dart.c` `apple_dart_translate`
Kind: D -/
def tlbKey (s : AppleDARTState) (sid : ℕ) (addr : UInt64) : UInt64 :=
  DART_IOTLB_SID (UInt64.ofNat sid) ||| (addr >>> UInt64.ofNat s.pageShift)

/-- The TLB step of `apple_dart_translate` for stream `sid` remapped to `rsid`: a hit, or a walk
that is inserted when it succeeds and recorded as a fault when it fails.
Source: `hw/arm/apple-silicon/dart.c` `apple_dart_translate`
Kind: D -/
def appleDartTlbLookup (s : AppleDARTState) (m : DmaMemory) (o : AppleDARTInstance) (sid rsid : ℕ)
    (addr : UInt64) : AppleDARTInstance × Option AppleDARTTLBEntry :=
  let key := tlbKey s sid addr
  match o.tlb key with
  | some e => (o, some e)
  | none =>
    match appleDartPtw s o m rsid (addr >>> UInt64.ofNat s.pageShift) with
    | (some e, _) => ({ o with tlb := Function.update o.tlb key (some e) }, some e)
    | (none, status) => (o.recordFault sid status addr, none)

/-- The end of `apple_dart_translate`: the entry from the TLB value, then the write and read
permission faults.
Source: `hw/arm/apple-silicon/dart.c` `apple_dart_translate`
Kind: D -/
def appleDartTranslateEnd (o : AppleDARTInstance) (sid : ℕ) (addr : UInt64)
    (flag : IOMMUAccessFlags) (entry : IOMMUTLBEntry) (tlbEntry : Option AppleDARTTLBEntry) :
    AppleDARTInstance × IOMMUTLBEntry :=
  let entry := match tlbEntry with
    | some e => { entry with translatedAddr := e.blockAddr ||| (addr &&& entry.addrMask), perm := e.perm }
    | none => entry
  let o := if flag.write && !entry.perm.write then
    o.recordFault sid (DART_ERROR_FLAG ||| DART_ERROR_WRITE_PROT) addr else o
  let o := if flag.read && !entry.perm.read then
    o.recordFault sid (DART_ERROR_FLAG ||| DART_ERROR_READ_PROT) addr else o
  (o, entry)

/-- `apple_dart_translate` with its TLB step `fetch` (given the instance and the remapped stream)
as a parameter: the pass-through cases, then `fetch`, then `appleDartTranslateEnd`.
Source: `hw/arm/apple-silicon/dart.c` `apple_dart_translate`
Kind: D -/
def appleDartTranslateVia (fetch : AppleDARTInstance → ℕ → AppleDARTInstance × Option AppleDARTTLBEntry)
    (s : AppleDARTState) (o : AppleDARTInstance) (sid : Fin DART_MAX_STREAMS) (addr : UInt64)
    (flag : IOMMUAccessFlags) : AppleDARTInstance × IOMMUTLBEntry :=
  let entry : IOMMUTLBEntry :=
    { iova := addr, translatedAddr := s.bypassAddress + addr, addrMask := s.pageBits, perm := IOMMU_NONE }
  let rsid := o.remapped sid
  if s.bypass &&& ((1 : UInt32) <<< UInt32.ofNat rsid) ≠ 0 then (o, entry)
  -- disabled translation goes to the bypass address, not to an error
  else if o.tcr rsid &&& DART_TCR_TXEN = 0 then (o, { entry with perm := IOMMU_RW })
  else if o.tcr rsid &&& DART_TCR_BYPASS_DART ≠ 0 then (o, { entry with perm := IOMMU_RW })
  else
    match fetch o rsid with
    | (o, tlbEntry) => appleDartTranslateEnd o sid addr flag entry tlbEntry

/-- `apple_dart_translate(iommu, addr, flag)` on the IOMMU region of stream `sid`.
Source: `hw/arm/apple-silicon/dart.c` `apple_dart_translate`
Kind: D -/
def appleDartTranslate (s : AppleDARTState) (m : DmaMemory) (o : AppleDARTInstance)
    (sid : Fin DART_MAX_STREAMS) (addr : UInt64) (flag : IOMMUAccessFlags) :
    AppleDARTInstance × IOMMUTLBEntry :=
  appleDartTranslateVia (fun o rsid => appleDartTlbLookup s m o sid rsid addr) s o sid addr flag

/-- What a translation is meant to answer: `apple_dart_translate` with no TLB, every access
walking the current tables.
Source: none: specification
Kind: D -/
def appleDartWalk (s : AppleDARTState) (m : DmaMemory) (o : AppleDARTInstance) (sid rsid : ℕ)
    (addr : UInt64) : AppleDARTInstance × Option AppleDARTTLBEntry :=
  match appleDartPtw s o m rsid (addr >>> UInt64.ofNat s.pageShift) with
  | (some e, _) => (o, some e)
  | (none, status) => (o.recordFault sid status addr, none)

/-- The uncached translation: `appleDartTranslateVia` with `appleDartWalk` for the TLB step.
Source: none: specification
Kind: D -/
def appleDartTranslateFresh (s : AppleDARTState) (m : DmaMemory) (o : AppleDARTInstance)
    (sid : Fin DART_MAX_STREAMS) (addr : UInt64) (flag : IOMMUAccessFlags) :
    AppleDARTInstance × IOMMUTLBEntry :=
  appleDartTranslateVia (fun o rsid => appleDartWalk s m o sid rsid addr) s o sid addr flag

/-! ## Runs -/

/-- A DART-type instance and the guest memory its walks read. -/
structure DartMachine where
  inst : AppleDARTInstance
  mem : DmaMemory

/-- What can happen to the instance: a four-byte register write (the memory core delivers only
aligned ones), a store of the CPU into guest memory, or a translation on a stream.
Source: `hw/arm/apple-silicon/dart.c` `base_reg_ops`, `apple_dart_translate`
Kind: D -/
inductive DartOp where
  | regWrite (addr : ℕ) (aligned : addr % 4 = 0) (data : UInt64)
  | memWrite (pa : ℕ) (bytes : List UInt8)
  | translate (sid : Fin DART_MAX_STREAMS) (addr : UInt64) (flag : IOMMUAccessFlags)

/-- One operation. -/
def dartStep (s : AppleDARTState) (st : DartMachine) : DartOp → DartMachine
  | .regWrite addr _ data => { st with inst := baseRegWrite st.inst addr data }
  | .memWrite pa bytes => { st with mem := st.mem.write pa bytes }
  | .translate sid addr flag => { st with inst := (appleDartTranslate s st.mem st.inst sid addr flag).1 }

/-- A run of operations. -/
def dartRun (s : AppleDARTState) (st : DartMachine) (ops : List DartOp) : DartMachine :=
  ops.foldl (dartStep s) st

end QemuAppleSilicon.Arm
