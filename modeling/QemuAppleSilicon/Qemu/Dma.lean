import QemuAppleSilicon.Lib.Bytes

/-!
# Guest memory seen by DMA, and IOMMU translations (`include/system/dma.h`, `include/system/memory.h`)

A device reads and writes guest memory through `dma_memory_read` and `dma_memory_write`: the
transfer succeeds when every byte it touches is backed, and fails (`MEMTX_DECODE_ERROR`)
otherwise. `DmaMemory` holds the bytes and which addresses are backed. An IOMMU answers a
translation with an `IOMMUTLBEntry`: the translated address, the mask of the page offset and
the access rights `IOMMUAccessFlags`.
-/

namespace QemuAppleSilicon.Qemu

open QemuAppleSilicon.Lib

/-- Guest memory as `address_space_memory` presents it to DMA: its bytes, and whether an
address is backed by a region.
Source: `include/system/dma.h` `dma_memory_read`
Kind: D -/
structure DmaMemory where
  bytes : Mem
  backed : ℕ → Bool

/-- All of `[pa, pa + n)` is backed. -/
def DmaMemory.Backed (m : DmaMemory) (pa n : ℕ) : Bool :=
  (List.range n).all fun i => m.backed (pa + i)

/-- `dma_memory_read(as, pa, buf, n, attrs)`: the bytes read, or `none` for a result other than
`MEMTX_OK`.
Source: `include/system/dma.h` `dma_memory_read`
Kind: D -/
def dmaMemoryRead (m : DmaMemory) (pa n : ℕ) : Option (List UInt8) :=
  if m.Backed pa n then some (m.bytes.read pa n) else none

/-- `dma_memory_write(as, pa, buf, len, attrs)`: the memory after the write, or `none` for a
result other than `MEMTX_OK`.
Source: `include/system/dma.h` `dma_memory_write`
Kind: D -/
def dmaMemoryWrite (m : DmaMemory) (pa : ℕ) (bs : List UInt8) : Option DmaMemory :=
  if m.Backed pa bs.length then some { m with bytes := m.bytes.write pa bs } else none

/-- A `uint64_t` read by `dma_memory_read` into host memory: the eight bytes little-endian.
Source: `include/system/dma.h` `dma_memory_read`
Kind: D -/
def dmaLdq (m : DmaMemory) (pa : ℕ) : Option UInt64 :=
  (dmaMemoryRead m pa 8).map fun bs => UInt64.ofNat (leValue bs)

/-- A store of the CPU into guest memory; what it changes is what later DMA reads see. -/
def DmaMemory.write (m : DmaMemory) (pa : ℕ) (bs : List UInt8) : DmaMemory :=
  { m with bytes := m.bytes.write pa bs }

@[simp] theorem DmaMemory.write_bytes (m : DmaMemory) (pa : ℕ) (bs : List UInt8) :
    (m.write pa bs).bytes = m.bytes.write pa bs := rfl

@[simp] theorem DmaMemory.write_backed (m : DmaMemory) (pa : ℕ) (bs : List UInt8) :
    (m.write pa bs).backed = m.backed := rfl

/-- Two stores one after the other are one store of both. -/
theorem DmaMemory.write_append (m : DmaMemory) (pa : ℕ) (xs ys : List UInt8) :
    m.write pa (xs ++ ys) = (m.write pa xs).write (pa + xs.length) ys := by
  simp only [DmaMemory.write, Mem.write_append]

/-- `IOMMUAccessFlags`: `IOMMU_RO` is bit 0, `IOMMU_WO` bit 1, so a flag is its two bits.
Source: `include/system/memory.h` `IOMMUAccessFlags`
Kind: D -/
structure IOMMUAccessFlags where
  read : Bool
  write : Bool
  deriving DecidableEq, Repr

/-- Source: `include/system/memory.h` `IOMMU_NONE`. Kind: D -/
def IOMMU_NONE : IOMMUAccessFlags := ⟨false, false⟩
/-- Source: `include/system/memory.h` `IOMMU_RO`. Kind: D -/
def IOMMU_RO : IOMMUAccessFlags := ⟨true, false⟩
/-- Source: `include/system/memory.h` `IOMMU_WO`. Kind: D -/
def IOMMU_WO : IOMMUAccessFlags := ⟨false, true⟩
/-- Source: `include/system/memory.h` `IOMMU_RW`. Kind: D -/
def IOMMU_RW : IOMMUAccessFlags := ⟨true, true⟩

/-- `IOMMU_ACCESS_FLAG(r, w)`.
Source: `include/system/memory.h` `IOMMU_ACCESS_FLAG`
Kind: D -/
def IOMMU_ACCESS_FLAG (r w : Bool) : IOMMUAccessFlags := ⟨r, w⟩

/-- `IOMMUTLBEntry`, without its `target_as` (always `address_space_memory` here).
Source: `include/system/memory.h` `IOMMUTLBEntry`
Kind: D -/
structure IOMMUTLBEntry where
  iova : UInt64
  translatedAddr : UInt64
  addrMask : UInt64
  perm : IOMMUAccessFlags
  deriving DecidableEq, Repr

end QemuAppleSilicon.Qemu
