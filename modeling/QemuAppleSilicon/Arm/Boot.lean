import QemuAppleSilicon.Arm.Macho
import QemuAppleSilicon.Arm.Dtb.Edit
import QemuAppleSilicon.Arm.Dtb.Serialise

/-!
# The boot information and the memory map (`hw/arm/apple-silicon/boot.c`)

`macho_populate_dtb` gives the node `chosen/memory-map` five 16-byte entries, `RAMDisk`,
`TrustCache`, `SEPFW`, `BootArgs` and `DeviceTree`. Once the machine has placed the regions,
`macho_load_dtb` fills them from the `AppleBootInfo` through `set_memory_range`,
`set_or_remove_memory_range` and `remove_memory_range`, hashes the ticket into
`boot-manifest-hash`, and serialises the tree to `device_tree_addr`.

`remove_memory_range(root, name)` removes `DeviceTree` whatever `name` it is given, so a region
whose address is `0` keeps its placeholder entry and takes the device tree's entry away
(`macho_load_dtb_memory_map_loses_device_tree`). The proofs follow the memory-map node through
the five calls: each edit keeps the node's name and children (`DTBNode.KeepsShape`), so each
call finds the same node, and its table changes by one `replace` or `remove`.

The hash function of QEMU's crypto layer is the parameter `hash`.
-/

namespace QemuAppleSilicon.Arm

open QemuAppleSilicon.Lib QemuAppleSilicon.Qemu QemuAppleSilicon.Arm.Dtb

/-! ## Boot information -/

/-- The fields of `AppleBootInfo` that the machine's loaders and `macho_load_dtb` use;
`ticketData` is the ticket (`[]` when `ticket_data` is `NULL` or `ticket_length` is `0`).
Source: `include/hw/arm/apple-silicon/boot.h` `AppleBootInfo`
Kind: D -/
structure AppleBootInfo where
  kernEntry : UInt64
  deviceTreeAddr : UInt64
  deviceTreeSize : UInt64
  ramdiskAddr : UInt64
  ramdiskSize : UInt64
  trustcacheAddr : UInt64
  trustcacheSize : UInt64
  sepFwAddr : UInt64
  sepFwSize : UInt64
  kernBootArgsAddr : UInt64
  kernBootArgsSize : UInt64
  topOfKernelDataPa : UInt64
  ticketData : List UInt8

/-- Source: `hw/arm/apple-silicon/boot.c` `set_memory_range` (`"chosen/memory-map"`). Kind: D -/
def memoryMapPath : List UInt8 := asciiBytes "chosen/memory-map"

/-- Source: `hw/arm/apple-silicon/boot.c` `macho_load_dtb` (`"DeviceTree"`). Kind: D -/
def deviceTreeKey : List UInt8 := asciiBytes "DeviceTree"

/-- Source: `hw/arm/apple-silicon/boot.c` `macho_load_dtb` (`"RAMDisk"`). Kind: D -/
def ramDiskKey : List UInt8 := asciiBytes "RAMDisk"

/-- Source: `hw/arm/apple-silicon/boot.c` `macho_load_dtb` (`"TrustCache"`). Kind: D -/
def trustCacheKey : List UInt8 := asciiBytes "TrustCache"

/-- Source: `hw/arm/apple-silicon/boot.c` `macho_load_dtb` (`"SEPFW"`). Kind: D -/
def sepFwKey : List UInt8 := asciiBytes "SEPFW"

/-- Source: `hw/arm/apple-silicon/boot.c` `macho_load_dtb` (`"BootArgs"`). Kind: D -/
def bootArgsKey : List UInt8 := asciiBytes "BootArgs"

/-- Source: `hw/arm/apple-silicon/boot.c` `macho_load_dtb` (`"boot-manifest-hash"`). Kind: D -/
def bootManifestHashKey : List UInt8 := asciiBytes "boot-manifest-hash"

/-! ## Memory-map entries -/

/-- Store bytes at the start of a property's buffer, which keeps its length:
`((uint64_t *)prop->data)[0] = addr; ((uint64_t *)prop->data)[1] = size;`, or the `memcpy` of
a hash.
Source: `hw/arm/apple-silicon/boot.c` `set_memory_range`
Kind: D -/
def writePropData (p : DTBProp) (bytes : List UInt8) : DTBProp where
  length := p.length
  placeholder := p.placeholder
  data := (bytes ++ p.data.drop bytes.length).take p.length.toNat
  data_length := by
    simp only [List.length_take, List.length_append, List.length_drop, p.data_length]
    omega

/-- `set_memory_range` on the memory-map node: the entry must exist (`g_assert_nonnull`) and
hold the two 64-bit words stored into it.
Source: `hw/arm/apple-silicon/boot.c` `set_memory_range`
Kind: D -/
def setMemoryRangeAt (name : List UInt8) (addr size : UInt64) (node : DTBNode) :
    Option DTBNode := do
  let prop ← dtbFindProp node name
  if prop.length.toNat < 16 then none
  else some (.mk (node.props.replace name (writePropData prop (memoryMapFileInfo addr size)))
    node.children)

/-- `set_memory_range(root, name, addr, size)`: assert `addr != 0` and `size != 0`, find
`chosen/memory-map` and overwrite the entry.
Source: `hw/arm/apple-silicon/boot.c` `set_memory_range`
Kind: D -/
def setMemoryRange (root : DTBNode) (name : List UInt8) (addr size : UInt64) : Option DTBNode :=
  if addr = 0 ∨ size = 0 then none
  else do
    let path ← dtbGetNode root memoryMapPath
    root.modifyAt path (setMemoryRangeAt name addr size)

/-- `dtb_remove_prop_named(child, "DeviceTree")` on the memory-map node.
Source: `hw/arm/apple-silicon/boot.c` `remove_memory_range`
Kind: D -/
def removeMemoryRangeAt (node : DTBNode) : Option DTBNode :=
  some (dtbRemovePropNamed node deviceTreeKey).1

set_option linter.unusedVariables false in
/-- `remove_memory_range(root, name)`: find `chosen/memory-map` and remove the entry
`"DeviceTree"`; the source never reads `name`.
Source: `hw/arm/apple-silicon/boot.c` `remove_memory_range`
Kind: D -/
def removeMemoryRange (root : DTBNode) (name : List UInt8) : Option DTBNode := do
  let path ← dtbGetNode root memoryMapPath
  root.modifyAt path removeMemoryRangeAt

/-- `set_or_remove_memory_range`: set the entry of a placed region, remove it otherwise.
Source: `hw/arm/apple-silicon/boot.c` `set_or_remove_memory_range`
Kind: D -/
def setOrRemoveMemoryRange (root : DTBNode) (name : List UInt8) (addr size : UInt64) :
    Option DTBNode :=
  if addr ≠ 0 then setMemoryRange root name addr size else removeMemoryRange root name

/-- The five memory-map calls of `macho_load_dtb`, in the source's order.
Source: `hw/arm/apple-silicon/boot.c` `macho_load_dtb`
Kind: D -/
def machoLoadDtbMemoryMap (root : DTBNode) (info : AppleBootInfo) : Option DTBNode := do
  let root ← setMemoryRange root deviceTreeKey info.deviceTreeAddr info.deviceTreeSize
  let root ← setOrRemoveMemoryRange root ramDiskKey info.ramdiskAddr info.ramdiskSize
  let root ← setOrRemoveMemoryRange root trustCacheKey info.trustcacheAddr info.trustcacheSize
  let root ← setOrRemoveMemoryRange root sepFwKey info.sepFwAddr info.sepFwSize
  setMemoryRange root bootArgsKey info.kernBootArgsAddr info.kernBootArgsSize

/-! ## The ticket hash and the whole call -/

/-- Source: `include/crypto/hash.h` `QCryptoHashAlgo` (the two `macho_load_dtb` uses). Kind: D -/
inductive QCryptoHashAlgo where
  | SHA1
  | SHA384
deriving DecidableEq, Repr

/-- The hash `chosen` asks for: SHA-384 when `crypto-hash-method` is `"sha2-384"`, SHA-1
otherwise.
Source: `hw/arm/apple-silicon/boot.c` `macho_load_dtb`
Kind: D -/
def cryptoHashMethod (chosen : DTBNode) : QCryptoHashAlgo :=
  match dtbFindProp chosen (asciiBytes "crypto-hash-method") with
  | some p => if p.data.takeWhile (· ≠ 0) = asciiBytes "sha2-384" then .SHA384 else .SHA1
  | none => .SHA1

/-- The ticket step on `chosen`: `boot-manifest-hash` must exist, and a computed hash must have
its length; a failed hash is only reported.
Source: `hw/arm/apple-silicon/boot.c` `macho_load_dtb`
Kind: D -/
def machoLoadDtbTicketAt (hash : QCryptoHashAlgo → List UInt8 → Option (List UInt8))
    (ticket : List UInt8) (chosen : DTBNode) : Option DTBNode := do
  let prop ← dtbFindProp chosen bootManifestHashKey
  match hash (cryptoHashMethod chosen) ticket with
  | none => some chosen
  | some h =>
    if h.length = prop.length.toNat then
      some (.mk (chosen.props.replace bootManifestHashKey (writePropData prop h)) chosen.children)
    else none

/-- The ticket step of `macho_load_dtb`, when there is a ticket.
Source: `hw/arm/apple-silicon/boot.c` `macho_load_dtb`
Kind: D -/
def machoLoadDtbTicket (root : DTBNode) (info : AppleBootInfo)
    (hash : QCryptoHashAlgo → List UInt8 → Option (List UInt8)) : Option DTBNode :=
  if info.ticketData = [] then some root
  else do
    let path ← dtbGetNode root (asciiBytes "chosen")
    root.modifyAt path (machoLoadDtbTicketAt hash info.ticketData)

/-- `macho_load_dtb(root, as, mem, info)`: the memory map, the ticket, then the serialised tree,
asserted to fit in `device_tree_size` bytes; the result is the tree and the bytes written at
`device_tree_addr`.
Source: `hw/arm/apple-silicon/boot.c` `macho_load_dtb`
Kind: D -/
def machoLoadDtb (root : DTBNode) (info : AppleBootInfo)
    (hash : QCryptoHashAlgo → List UInt8 → Option (List UInt8)) :
    Option (DTBNode × List UInt8) := do
  let root ← machoLoadDtbMemoryMap root info
  let root ← machoLoadDtbTicket root info hash
  let size ← dtbGetSerialisedNodeSize root
  if info.deviceTreeSize.toNat < size then none
  else do
    let buf ← dtbSerialise (fun _ => 0) root
    some (root, buf.read 0 info.deviceTreeSize.toNat)

/-! ## Reading the memory map -/

/-- The entry `name` of the memory map, as `dtb_find_prop` on `chosen/memory-map` sees it. -/
def memoryRange (root : DTBNode) (name : List UInt8) : Option DTBProp := do
  let path ← dtbGetNode root memoryMapPath
  let node ← root.getAt path
  dtbFindProp node name

/-- The memory-map node of `root` is at `path`, with table `t` and children `cs`. -/
def MemoryMapAt (root : DTBNode) (path : List ℕ) (t : PropTable) (cs : List DTBNode) : Prop :=
  dtbGetNode root memoryMapPath = some path ∧ root.getAt path = some (.mk t cs)

/-- The five entries that `macho_populate_dtb` creates, each of `sizeof(memmap) = 16` bytes or
more.
Source: `hw/arm/apple-silicon/boot.c` `macho_populate_dtb`
Kind: D -/
def RangesReady (t : PropTable) : Prop :=
  ∀ k ∈ [deviceTreeKey, ramDiskKey, trustCacheKey, sepFwKey, bootArgsKey],
    ∃ p, t.find k = some p ∧ 16 ≤ p.length.toNat

/-- The entries are read off the memory-map node's table. -/
theorem memoryRange_of_memoryMapAt {root : DTBNode} {path : List ℕ} {t : PropTable}
    {cs : List DTBNode} (h : MemoryMapAt root path t cs) (name : List UInt8) :
    memoryRange root name = t.find name := by
  simp only [memoryRange, h.1, h.2, Option.bind_eq_bind, Option.bind_some, dtbFindProp,
    DTBNode.props_mk]

/-- An edit elsewhere than at the memory-map node, keeping names and children, leaves every
entry. -/
theorem memoryRange_modifyAt {f : DTBNode → Option DTBNode} (hf : DTBNode.KeepsShape f)
    {q : List ℕ} {root root' : DTBNode} (h : root.modifyAt q f = some root')
    (hq : dtbGetNode root memoryMapPath ≠ some q) (name : List UInt8) :
    memoryRange root' name = memoryRange root name := by
  have hpath := dtbGetNode_modifyAt hf h memoryMapPath
  unfold memoryRange
  rw [hpath]
  cases hP : dtbGetNode root memoryMapPath with
  | none => rfl
  | some P =>
    have hPq : P ≠ q := fun e => hq (by rw [hP, e])
    have hprops := DTBNode.props_getAt_modifyAt_of_ne hf h hPq
    simp only [Option.bind_eq_bind, Option.bind_some, dtbFindProp]
    cases h1 : root'.getAt P <;> cases h2 : root.getAt P <;>
      simp_all

/-- An edit of the memory-map node that keeps its name and children: the memory map is then that
node, at the same path. -/
theorem memoryMapAt_modifyAt {f : DTBNode → Option DTBNode} (hf : DTBNode.KeepsShape f)
    {root : DTBNode} {path : List ℕ} {t t' : PropTable} {cs : List DTBNode}
    (h : MemoryMapAt root path t cs) (hfn : f (.mk t cs) = some (.mk t' cs)) :
    ∃ root', root.modifyAt path f = some root' ∧ MemoryMapAt root' path t' cs := by
  obtain ⟨root', hmod, hget⟩ := DTBNode.modifyAt_of_getAt h.2 hfn
  exact ⟨root', hmod, (dtbGetNode_modifyAt hf hmod memoryMapPath).trans h.1, hget⟩

theorem keepsShape_setMemoryRangeAt {name : List UInt8} (hname : name ≠ nameKey)
    (addr size : UInt64) : DTBNode.KeepsShape (setMemoryRangeAt name addr size) := by
  intro n n' h
  simp only [setMemoryRangeAt, Option.bind_eq_bind, Option.bind_eq_some_iff] at h
  obtain ⟨prop, _, h⟩ := h
  split_ifs at h
  cases h
  refine ⟨?_, rfl⟩
  rw [DTBNode.props_mk, PropTable.find_replace, if_neg (Ne.symm hname)]

theorem keepsShape_removeMemoryRangeAt : DTBNode.KeepsShape removeMemoryRangeAt := by
  intro n n' h
  cases h
  refine ⟨?_, rfl⟩
  show (n.props.remove deviceTreeKey).find nameKey = n.props.find nameKey
  rw [PropTable.find_remove, if_neg (by decide)]

/-- `set_memory_range` on a memory map holding the entry: the entry is overwritten in place.
Source: `hw/arm/apple-silicon/boot.c` `set_memory_range`
Kind: L -/
theorem setMemoryRange_of_memoryMapAt {root : DTBNode} {path : List ℕ} {t : PropTable}
    {cs : List DTBNode} (h : MemoryMapAt root path t cs) {name : List UInt8}
    (hname : name ≠ nameKey) {p : DTBProp} (hp : t.find name = some p)
    (hlen : 16 ≤ p.length.toNat) {addr size : UInt64} (haddr : addr ≠ 0) (hsize : size ≠ 0) :
    ∃ root', setMemoryRange root name addr size = some root' ∧
      MemoryMapAt root' path (t.replace name (writePropData p (memoryMapFileInfo addr size))) cs := by
  have hfn : setMemoryRangeAt name addr size (.mk t cs) =
      some (.mk (t.replace name (writePropData p (memoryMapFileInfo addr size))) cs) := by
    simp only [setMemoryRangeAt, dtbFindProp, DTBNode.props_mk, hp, Option.bind_eq_bind,
      Option.bind_some, DTBNode.children_mk]
    rw [if_neg (by omega)]
  obtain ⟨root', hmod, hat⟩ := memoryMapAt_modifyAt (keepsShape_setMemoryRangeAt hname addr size) h hfn
  refine ⟨root', ?_, hat⟩
  rw [setMemoryRange, if_neg (by tauto)]
  simp only [h.1, Option.bind_eq_bind, Option.bind_some, hmod]

/-- `remove_memory_range` on a memory map: the `DeviceTree` entry goes, whatever the name.
Source: `hw/arm/apple-silicon/boot.c` `remove_memory_range`
Kind: L -/
theorem removeMemoryRange_of_memoryMapAt {root : DTBNode} {path : List ℕ} {t : PropTable}
    {cs : List DTBNode} (h : MemoryMapAt root path t cs) (name : List UInt8) :
    ∃ root', removeMemoryRange root name = some root' ∧
      MemoryMapAt root' path (t.remove deviceTreeKey) cs := by
  obtain ⟨root', hmod, hat⟩ := memoryMapAt_modifyAt keepsShape_removeMemoryRangeAt h rfl
  refine ⟨root', ?_, hat⟩
  simp only [removeMemoryRange, h.1, Option.bind_eq_bind, Option.bind_some, hmod]

/-- `set_or_remove_memory_range` on a memory map holding the entry.
Source: `hw/arm/apple-silicon/boot.c` `set_or_remove_memory_range`
Kind: L -/
theorem setOrRemoveMemoryRange_of_memoryMapAt {root : DTBNode} {path : List ℕ} {t : PropTable}
    {cs : List DTBNode} (h : MemoryMapAt root path t cs) {name : List UInt8}
    (hname : name ≠ nameKey) {p : DTBProp} (hp : t.find name = some p)
    (hlen : 16 ≤ p.length.toNat) {addr size : UInt64} (hsize : addr ≠ 0 → size ≠ 0) :
    ∃ root', setOrRemoveMemoryRange root name addr size = some root' ∧
      MemoryMapAt root' path
        (if addr ≠ 0 then t.replace name (writePropData p (memoryMapFileInfo addr size))
          else t.remove deviceTreeKey) cs := by
  unfold setOrRemoveMemoryRange
  by_cases haddr : addr ≠ 0
  · rw [if_pos haddr, if_pos haddr]
    exact setMemoryRange_of_memoryMapAt h hname hp hlen haddr (hsize haddr)
  · rw [if_neg haddr, if_neg haddr]
    exact removeMemoryRange_of_memoryMapAt h name

/-! ## The five calls on the memory-map node's table -/

/-- What `set_memory_range` does to a table that holds the entry.
Source: `hw/arm/apple-silicon/boot.c` `set_memory_range`
Kind: D -/
def setEntry (name : List UInt8) (addr size : UInt64) (t : PropTable) : PropTable :=
  match t.find name with
  | some p => t.replace name (writePropData p (memoryMapFileInfo addr size))
  | none => t

/-- What `set_or_remove_memory_range` does to a table that holds the entry.
Source: `hw/arm/apple-silicon/boot.c` `set_or_remove_memory_range`
Kind: D -/
def setOrRemoveEntry (name : List UInt8) (addr size : UInt64) (t : PropTable) : PropTable :=
  if addr ≠ 0 then setEntry name addr size t else t.remove deviceTreeKey

/-- The memory-map table after the five calls of `macho_load_dtb`.
Source: `hw/arm/apple-silicon/boot.c` `macho_load_dtb`
Kind: D -/
def memoryMapTable (info : AppleBootInfo) (t : PropTable) : PropTable :=
  setEntry bootArgsKey info.kernBootArgsAddr info.kernBootArgsSize
    (setOrRemoveEntry sepFwKey info.sepFwAddr info.sepFwSize
      (setOrRemoveEntry trustCacheKey info.trustcacheAddr info.trustcacheSize
        (setOrRemoveEntry ramDiskKey info.ramdiskAddr info.ramdiskSize
          (setEntry deviceTreeKey info.deviceTreeAddr info.deviceTreeSize t))))

/-- The six keys the memory-map code names are distinct. -/
theorem memoryMapKeys_nodup :
    [nameKey, deviceTreeKey, ramDiskKey, trustCacheKey, sepFwKey, bootArgsKey].Nodup := by
  decide

theorem find_setEntry_self (name : List UInt8) (addr size : UInt64) (t : PropTable) :
    (setEntry name addr size t).find name =
      (t.find name).map fun p => writePropData p (memoryMapFileInfo addr size) := by
  unfold setEntry
  cases hp : t.find name with
  | none => rw [hp, Option.map_none]
  | some p => rw [PropTable.find_replace, if_pos rfl, hp, Option.map_some, Option.map_some]

theorem find_setEntry_of_ne {name k : List UInt8} (hk : k ≠ name) (addr size : UInt64)
    (t : PropTable) : (setEntry name addr size t).find k = t.find k := by
  unfold setEntry
  cases t.find name with
  | none => rfl
  | some p => rw [PropTable.find_replace, if_neg hk]

/-- A call on another entry leaves an entry other than `DeviceTree`. -/
theorem find_setOrRemoveEntry_of_ne {name k : List UInt8} (hk : k ≠ name)
    (hdt : k ≠ deviceTreeKey) (addr size : UInt64) (t : PropTable) :
    (setOrRemoveEntry name addr size t).find k = t.find k := by
  unfold setOrRemoveEntry
  split_ifs
  · exact find_setEntry_of_ne hk addr size t
  · rw [PropTable.find_remove, if_neg hdt]

/-- A region left out keeps its own entry. -/
theorem find_setOrRemoveEntry_of_zero {name : List UInt8} (hdt : name ≠ deviceTreeKey)
    {addr : UInt64} (h0 : addr = 0) (size : UInt64) (t : PropTable) :
    (setOrRemoveEntry name addr size t).find name = t.find name := by
  unfold setOrRemoveEntry
  rw [if_neg (by simpa using h0), PropTable.find_remove, if_neg hdt]

/-- Every call of `set_or_remove_memory_range` may take the `DeviceTree` entry away. -/
theorem find_setOrRemoveEntry_deviceTree {name : List UInt8} (hdt : deviceTreeKey ≠ name)
    (addr size : UInt64) (t : PropTable) :
    (setOrRemoveEntry name addr size t).find deviceTreeKey =
      if addr ≠ 0 then t.find deviceTreeKey else none := by
  unfold setOrRemoveEntry
  split_ifs
  · exact find_setEntry_of_ne hdt addr size t
  · rw [PropTable.find_remove, if_pos rfl]

/-- An entry with at least the 16 bytes `set_memory_range` stores. -/
def EntryReady (t : PropTable) (k : List UInt8) : Prop :=
  ∃ p, t.find k = some p ∧ 16 ≤ p.length.toNat

theorem EntryReady.of_find_eq {t t' : PropTable} {k : List UInt8} (h : EntryReady t k)
    (heq : t'.find k = t.find k) : EntryReady t' k := by
  obtain ⟨p, hp, hlen⟩ := h
  exact ⟨p, heq.trans hp, hlen⟩

/-- `set_memory_range` in table terms.
Source: `hw/arm/apple-silicon/boot.c` `set_memory_range`
Kind: L -/
theorem setMemoryRange_setEntry {root : DTBNode} {path : List ℕ} {t : PropTable}
    {cs : List DTBNode} (h : MemoryMapAt root path t cs) {name : List UInt8}
    (hname : name ≠ nameKey) (hready : EntryReady t name) {addr size : UInt64} (haddr : addr ≠ 0)
    (hsize : size ≠ 0) :
    ∃ root', setMemoryRange root name addr size = some root' ∧
      MemoryMapAt root' path (setEntry name addr size t) cs := by
  obtain ⟨p, hp, hlen⟩ := hready
  have htable : setEntry name addr size t =
      t.replace name (writePropData p (memoryMapFileInfo addr size)) := by
    rw [setEntry, hp]
  rw [htable]
  exact setMemoryRange_of_memoryMapAt h hname hp hlen haddr hsize

/-- `set_or_remove_memory_range` in table terms.
Source: `hw/arm/apple-silicon/boot.c` `set_or_remove_memory_range`
Kind: L -/
theorem setOrRemoveMemoryRange_setOrRemoveEntry {root : DTBNode} {path : List ℕ} {t : PropTable}
    {cs : List DTBNode} (h : MemoryMapAt root path t cs) {name : List UInt8}
    (hname : name ≠ nameKey) (hready : EntryReady t name) {addr size : UInt64}
    (hsize : addr ≠ 0 → size ≠ 0) :
    ∃ root', setOrRemoveMemoryRange root name addr size = some root' ∧
      MemoryMapAt root' path (setOrRemoveEntry name addr size t) cs := by
  unfold setOrRemoveMemoryRange setOrRemoveEntry
  by_cases haddr : addr ≠ 0
  · rw [if_pos haddr, if_pos haddr]
    exact setMemoryRange_setEntry h hname hready haddr (hsize haddr)
  · rw [if_neg haddr, if_neg haddr]
    exact removeMemoryRange_of_memoryMapAt h name

/-- The boot information `macho_load_dtb` accepts: the device tree and the boot arguments are
placed, and a placed region has a size.
Source: `hw/arm/apple-silicon/boot.c` `set_memory_range` (assertions)
Kind: D -/
structure BootInfoPlaced (info : AppleBootInfo) : Prop where
  deviceTreeAddr_ne : info.deviceTreeAddr ≠ 0
  deviceTreeSize_ne : info.deviceTreeSize ≠ 0
  kernBootArgsAddr_ne : info.kernBootArgsAddr ≠ 0
  kernBootArgsSize_ne : info.kernBootArgsSize ≠ 0
  ramdiskSize_ne : info.ramdiskAddr ≠ 0 → info.ramdiskSize ≠ 0
  trustcacheSize_ne : info.trustcacheAddr ≠ 0 → info.trustcacheSize ≠ 0
  sepFwSize_ne : info.sepFwAddr ≠ 0 → info.sepFwSize ≠ 0

/-- The five calls succeed on a prepared memory map and leave the node's table
`memoryMapTable info t`. Each call is one step; the entry it needs is still the one
`macho_populate_dtb` made, since no earlier call touched it.
Source: `hw/arm/apple-silicon/boot.c` `macho_load_dtb`
Kind: L -/
theorem machoLoadDtbMemoryMap_of_memoryMapAt {root : DTBNode} {path : List ℕ} {t : PropTable}
    {cs : List DTBNode} (h : MemoryMapAt root path t cs) (hready : RangesReady t)
    {info : AppleBootInfo} (hinfo : BootInfoPlaced info) :
    ∃ root', machoLoadDtbMemoryMap root info = some root' ∧
      MemoryMapAt root' path (memoryMapTable info t) cs := by
  have hkeys := memoryMapKeys_nodup
  simp only [List.nodup_cons, List.mem_cons, List.not_mem_nil, or_false, not_or] at hkeys
  obtain ⟨⟨hn₁, hn₂, hn₃, hn₄, hn₅⟩, ⟨hd₁, hd₂, hd₃, hd₄⟩, ⟨hr₁, hr₂, hr₃⟩, ⟨ht₁, ht₂⟩, hs₁, -⟩ :=
    hkeys
  set t₁ := setEntry deviceTreeKey info.deviceTreeAddr info.deviceTreeSize t
  set t₂ := setOrRemoveEntry ramDiskKey info.ramdiskAddr info.ramdiskSize t₁
  set t₃ := setOrRemoveEntry trustCacheKey info.trustcacheAddr info.trustcacheSize t₂
  set t₄ := setOrRemoveEntry sepFwKey info.sepFwAddr info.sepFwSize t₃
  have e₁ : EntryReady t deviceTreeKey := hready deviceTreeKey (by simp)
  have e₂ : EntryReady t₁ ramDiskKey :=
    EntryReady.of_find_eq (hready ramDiskKey (by simp)) (find_setEntry_of_ne (Ne.symm hd₁) _ _ t)
  have e₃ : EntryReady t₂ trustCacheKey :=
    EntryReady.of_find_eq (hready trustCacheKey (by simp))
      ((find_setOrRemoveEntry_of_ne (Ne.symm hr₁) (Ne.symm hd₂) _ _ t₁).trans
        (find_setEntry_of_ne (Ne.symm hd₂) _ _ t))
  have e₄ : EntryReady t₃ sepFwKey :=
    EntryReady.of_find_eq (hready sepFwKey (by simp))
      ((find_setOrRemoveEntry_of_ne (Ne.symm ht₁) (Ne.symm hd₃) _ _ t₂).trans
        ((find_setOrRemoveEntry_of_ne (Ne.symm hr₂) (Ne.symm hd₃) _ _ t₁).trans
          (find_setEntry_of_ne (Ne.symm hd₃) _ _ t)))
  have e₅ : EntryReady t₄ bootArgsKey :=
    EntryReady.of_find_eq (hready bootArgsKey (by simp))
      ((find_setOrRemoveEntry_of_ne (Ne.symm hs₁) (Ne.symm hd₄) _ _ t₃).trans
        ((find_setOrRemoveEntry_of_ne (Ne.symm ht₂) (Ne.symm hd₄) _ _ t₂).trans
          ((find_setOrRemoveEntry_of_ne (Ne.symm hr₃) (Ne.symm hd₄) _ _ t₁).trans
            (find_setEntry_of_ne (Ne.symm hd₄) _ _ t))))
  obtain ⟨r₁, h₁, m₁⟩ := setMemoryRange_setEntry h (Ne.symm hn₁) e₁
    hinfo.deviceTreeAddr_ne hinfo.deviceTreeSize_ne
  obtain ⟨r₂, h₂, m₂⟩ := setOrRemoveMemoryRange_setOrRemoveEntry m₁ (Ne.symm hn₂) e₂
    hinfo.ramdiskSize_ne
  obtain ⟨r₃, h₃, m₃⟩ := setOrRemoveMemoryRange_setOrRemoveEntry m₂ (Ne.symm hn₃) e₃
    hinfo.trustcacheSize_ne
  obtain ⟨r₄, h₄, m₄⟩ := setOrRemoveMemoryRange_setOrRemoveEntry m₃ (Ne.symm hn₄) e₄
    hinfo.sepFwSize_ne
  obtain ⟨r₅, h₅, m₅⟩ := setMemoryRange_setEntry m₄ (Ne.symm hn₅) e₅
    hinfo.kernBootArgsAddr_ne hinfo.kernBootArgsSize_ne
  refine ⟨r₅, ?_, m₅⟩
  simp only [machoLoadDtbMemoryMap, h₁, h₂, h₃, h₄, h₅, Option.bind_eq_bind, Option.bind_some]

/-- The device tree's entry after the five calls: present only when all three optional regions
are placed, since each one left out removes it.
Source: `hw/arm/apple-silicon/boot.c` `macho_load_dtb`
Kind: L -/
theorem find_memoryMapTable_deviceTree (info : AppleBootInfo) (t : PropTable) :
    (memoryMapTable info t).find deviceTreeKey =
      if info.ramdiskAddr ≠ 0 ∧ info.trustcacheAddr ≠ 0 ∧ info.sepFwAddr ≠ 0 then
        (t.find deviceTreeKey).map fun p =>
          writePropData p (memoryMapFileInfo info.deviceTreeAddr info.deviceTreeSize)
      else none := by
  unfold memoryMapTable
  rw [find_setEntry_of_ne (by decide), find_setOrRemoveEntry_deviceTree (by decide),
    find_setOrRemoveEntry_deviceTree (by decide), find_setOrRemoveEntry_deviceTree (by decide),
    find_setEntry_self]
  by_cases hrd : info.ramdiskAddr = 0 <;> by_cases htc : info.trustcacheAddr = 0 <;>
    by_cases hsep : info.sepFwAddr = 0 <;> simp [hrd, htc, hsep]

/-- A region left out keeps the entry `macho_populate_dtb` gave it.
Source: `hw/arm/apple-silicon/boot.c` `macho_load_dtb`
Kind: L -/
theorem find_memoryMapTable_of_zero (info : AppleBootInfo) (t : PropTable) :
    (info.ramdiskAddr = 0 → (memoryMapTable info t).find ramDiskKey = t.find ramDiskKey) ∧
      (info.trustcacheAddr = 0 →
        (memoryMapTable info t).find trustCacheKey = t.find trustCacheKey) ∧
      (info.sepFwAddr = 0 → (memoryMapTable info t).find sepFwKey = t.find sepFwKey) := by
  unfold memoryMapTable
  refine ⟨fun h0 => ?_, fun h0 => ?_, fun h0 => ?_⟩
  · rw [find_setEntry_of_ne (by decide), find_setOrRemoveEntry_of_ne (by decide) (by decide),
      find_setOrRemoveEntry_of_ne (by decide) (by decide),
      find_setOrRemoveEntry_of_zero (by decide) h0, find_setEntry_of_ne (by decide)]
  · rw [find_setEntry_of_ne (by decide), find_setOrRemoveEntry_of_ne (by decide) (by decide),
      find_setOrRemoveEntry_of_zero (by decide) h0,
      find_setOrRemoveEntry_of_ne (by decide) (by decide), find_setEntry_of_ne (by decide)]
  · rw [find_setEntry_of_ne (by decide), find_setOrRemoveEntry_of_zero (by decide) h0,
      find_setOrRemoveEntry_of_ne (by decide) (by decide),
      find_setOrRemoveEntry_of_ne (by decide) (by decide), find_setEntry_of_ne (by decide)]

/-! ## The rest of `macho_load_dtb` -/

/-- The ticket step keeps names and children of `chosen`. -/
theorem keepsShape_machoLoadDtbTicketAt (hash : QCryptoHashAlgo → List UInt8 → Option (List UInt8))
    (ticket : List UInt8) : DTBNode.KeepsShape (machoLoadDtbTicketAt hash ticket) := by
  intro n n' h
  simp only [machoLoadDtbTicketAt, Option.bind_eq_bind, Option.bind_eq_some_iff] at h
  obtain ⟨prop, _, h⟩ := h
  split at h
  · cases h
    exact ⟨rfl, rfl⟩
  · split_ifs at h
    cases h
    refine ⟨?_, rfl⟩
    rw [DTBNode.props_mk, PropTable.find_replace, if_neg (by decide)]

/-- After the memory map, `macho_load_dtb` changes the tree only by the ticket step.
Source: `hw/arm/apple-silicon/boot.c` `macho_load_dtb`
Kind: L -/
theorem machoLoadDtb_eq_some {root root' : DTBNode} {info : AppleBootInfo}
    {hash : QCryptoHashAlgo → List UInt8 → Option (List UInt8)} {buf : List UInt8}
    (h : machoLoadDtb root info hash = some (root', buf)) :
    ∃ root₁, machoLoadDtbMemoryMap root info = some root₁ ∧
      machoLoadDtbTicket root₁ info hash = some root' := by
  unfold machoLoadDtb at h
  obtain ⟨root₁, h₁, h⟩ := Option.bind_eq_some_iff.mp h
  obtain ⟨root₂, h₂, h⟩ := Option.bind_eq_some_iff.mp h
  obtain ⟨size, _, h⟩ := Option.bind_eq_some_iff.mp h
  split_ifs at h
  obtain ⟨_, _, h⟩ := Option.bind_eq_some_iff.mp h
  cases h
  exact ⟨root₁, h₁, h₂⟩

/-- The ticket step leaves the memory map: `chosen` is one level above it.
Source: `hw/arm/apple-silicon/boot.c` `macho_load_dtb`
Kind: L -/
theorem memoryRange_machoLoadDtbTicket {root root' : DTBNode} {info : AppleBootInfo}
    {hash : QCryptoHashAlgo → List UInt8 → Option (List UInt8)} {path : List ℕ}
    {t : PropTable} {cs : List DTBNode} (hmap : MemoryMapAt root path t cs)
    (h : machoLoadDtbTicket root info hash = some root') (name : List UInt8) :
    memoryRange root' name = memoryRange root name := by
  unfold machoLoadDtbTicket at h
  split_ifs at h
  · cases h
    rfl
  · obtain ⟨q, hq, hmod⟩ := Option.bind_eq_some_iff.mp h
    have hlenq : q.length = 1 := (DTBNode.length_getNodeAt hq).trans (by decide)
    have hlenP : path.length = 2 := (DTBNode.length_getNodeAt hmap.1).trans (by decide)
    refine memoryRange_modifyAt (keepsShape_machoLoadDtbTicketAt hash info.ticketData) hmod ?_ name
    rw [hmap.1]
    intro heq
    rw [Option.some.inj heq] at hlenP
    omega

/-- `macho_load_dtb` on a prepared tree with a region left out: the memory map ends without a
`DeviceTree` entry, and each left-out region keeps its placeholder entry instead of losing it.
Source: `hw/arm/apple-silicon/boot.c` `macho_load_dtb`, `remove_memory_range`
Kind: P -/
theorem macho_load_dtb_memory_map_loses_device_tree (root : DTBNode) (info : AppleBootInfo)
    (path : List ℕ) (t : PropTable) (cs : List DTBNode) (hmap : MemoryMapAt root path t cs)
    (hready : RangesReady t) (hinfo : BootInfoPlaced info)
    (hzero : info.ramdiskAddr = 0 ∨ info.trustcacheAddr = 0 ∨ info.sepFwAddr = 0) :
    ∃ root', machoLoadDtbMemoryMap root info = some root' ∧
      memoryRange root' deviceTreeKey = none ∧
      (info.ramdiskAddr = 0 → memoryRange root' ramDiskKey = memoryRange root ramDiskKey) ∧
      (info.trustcacheAddr = 0 →
        memoryRange root' trustCacheKey = memoryRange root trustCacheKey) ∧
      (info.sepFwAddr = 0 → memoryRange root' sepFwKey = memoryRange root sepFwKey) ∧
      ∀ hash root'' buf, machoLoadDtb root info hash = some (root'', buf) →
        ∀ name, memoryRange root'' name = memoryRange root' name := by
  obtain ⟨root', hload, hmap'⟩ := machoLoadDtbMemoryMap_of_memoryMapAt hmap hready hinfo
  have hdt : memoryRange root' deviceTreeKey = none := by
    rw [memoryRange_of_memoryMapAt hmap', find_memoryMapTable_deviceTree, if_neg]
    tauto
  obtain ⟨hrd, htc, hsep⟩ := find_memoryMapTable_of_zero info t
  refine ⟨root', hload, hdt, ?_, ?_, ?_, ?_⟩
  · intro h0
    rw [memoryRange_of_memoryMapAt hmap', memoryRange_of_memoryMapAt hmap, hrd h0]
  · intro h0
    rw [memoryRange_of_memoryMapAt hmap', memoryRange_of_memoryMapAt hmap, htc h0]
  · intro h0
    rw [memoryRange_of_memoryMapAt hmap', memoryRange_of_memoryMapAt hmap, hsep h0]
  · intro hash root'' buf h name
    obtain ⟨root₁, h₁, hticket⟩ := machoLoadDtb_eq_some h
    rw [hload, Option.some.injEq] at h₁
    subst h₁
    exact memoryRange_machoLoadDtbTicket hmap' hticket name

/-- The entry `macho_populate_dtb` creates: `uint64_t memmap[2] = { 0 }`.
Source: `hw/arm/apple-silicon/boot.c` `macho_populate_dtb`
Kind: D -/
def populatedRangeProp : DTBProp := ⟨16, false, List.replicate 16 0, rfl⟩

/-- The memory-map node as `macho_populate_dtb` leaves it.
Source: `hw/arm/apple-silicon/boot.c` `macho_populate_dtb`
Kind: D -/
def populatedMemoryMapTable : PropTable :=
  ⟨[(nameKey, ⟨11, false, asciiBytes "memory-map" ++ [0], by decide⟩),
      (ramDiskKey, populatedRangeProp), (trustCacheKey, populatedRangeProp),
      (sepFwKey, populatedRangeProp), (bootArgsKey, populatedRangeProp),
      (deviceTreeKey, populatedRangeProp)], by decide, by decide⟩

/-- A root whose only child `chosen` holds the populated memory map. -/
def populatedRoot : DTBNode :=
  .mk ⟨[(nameKey, ⟨12, false, asciiBytes "device-tree" ++ [0], by decide⟩)], by decide, by decide⟩
    [.mk ⟨[(nameKey, ⟨7, false, asciiBytes "chosen" ++ [0], by decide⟩)], by decide, by decide⟩
      [.mk populatedMemoryMapTable []]]

/-- A boot without a ramdisk: every other region placed. -/
def noRamdiskBootInfo : AppleBootInfo where
  kernEntry := 0x801004000
  deviceTreeAddr := 0x801f00000
  deviceTreeSize := 0x40000
  ramdiskAddr := 0
  ramdiskSize := 0
  trustcacheAddr := 0x800ffc000
  trustcacheSize := 0x4000
  sepFwAddr := 0x801e00000
  sepFwSize := 0x400000
  kernBootArgsAddr := 0x801efc000
  kernBootArgsSize := 0x4000
  topOfKernelDataPa := 0x801f40000
  ticketData := []

/-- Without a ramdisk, `macho_load_dtb` leaves the memory map without a `DeviceTree` entry.
Source: `hw/arm/apple-silicon/boot.c` `macho_load_dtb`
Kind: P -/
theorem macho_load_dtb_memory_map_loses_device_tree_without_ramdisk :
    MemoryMapAt populatedRoot [0, 0] populatedMemoryMapTable [] ∧
      RangesReady populatedMemoryMapTable ∧ BootInfoPlaced noRamdiskBootInfo ∧
      (noRamdiskBootInfo.ramdiskAddr = 0 ∨ noRamdiskBootInfo.trustcacheAddr = 0 ∨
        noRamdiskBootInfo.sepFwAddr = 0) ∧
      ∃ root', machoLoadDtbMemoryMap populatedRoot noRamdiskBootInfo = some root' ∧
        memoryRange root' deviceTreeKey = none ∧
        (noRamdiskBootInfo.ramdiskAddr = 0 →
          memoryRange root' ramDiskKey = memoryRange populatedRoot ramDiskKey) ∧
        (noRamdiskBootInfo.trustcacheAddr = 0 →
          memoryRange root' trustCacheKey = memoryRange populatedRoot trustCacheKey) ∧
        (noRamdiskBootInfo.sepFwAddr = 0 →
          memoryRange root' sepFwKey = memoryRange populatedRoot sepFwKey) ∧
        ∀ hash root'' buf, machoLoadDtb populatedRoot noRamdiskBootInfo hash = some (root'', buf) →
          ∀ name, memoryRange root'' name = memoryRange root' name := by
  have hmap : MemoryMapAt populatedRoot [0, 0] populatedMemoryMapTable [] := ⟨by decide, rfl⟩
  have hready : RangesReady populatedMemoryMapTable := by
    intro k hk
    simp only [List.mem_cons, List.not_mem_nil, or_false] at hk
    rcases hk with rfl | rfl | rfl | rfl | rfl <;> exact ⟨populatedRangeProp, by decide, by decide⟩
  have hinfo : BootInfoPlaced noRamdiskBootInfo :=
    ⟨by decide, by decide, by decide, by decide, by decide, by decide, by decide⟩
  have hzero : noRamdiskBootInfo.ramdiskAddr = 0 ∨ noRamdiskBootInfo.trustcacheAddr = 0 ∨
      noRamdiskBootInfo.sepFwAddr = 0 := Or.inl rfl
  exact ⟨hmap, hready, hinfo, hzero, macho_load_dtb_memory_map_loses_device_tree populatedRoot
    noRamdiskBootInfo [0, 0] populatedMemoryMapTable [] hmap hready hinfo hzero⟩

end QemuAppleSilicon.Arm
