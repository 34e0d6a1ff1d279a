import QemuAppleSilicon.Qemu.FindNextBit

/-!
# The Apple interrupt controller (`hw/intc/apple_aic.c`)

The AIC holds, for each of `numIRQ = 32 * numEIR` external sources, a pending bit (`eir_state`),
a mask bit (`eir_mask`) and a 32-bit destination mask of CPUs (`eir_dest`), and for each of its
`numCPU` CPUs the pending, deferred and masked IPIs. `apple_aic_update`, run by the timer, merges
the deferred IPIs into the pending ones and decides which CPUs to interrupt:

* a CPU with an unmasked pending self IPI, or with normal IPIs unmasked and one pending;
* for each pending unmasked source with a non-zero destination, in order: when no CPU already
  chosen is in its destination, the lowest CPU of the destination (`find_first_bit32`, which
  gives `numCPU` when that lowest bit is not a CPU), and the destination joins `potential`;
  otherwise the first CPU not yet chosen that is in `potential`, if any.

A CPU that reads `IACK` takes its self IPI, then its normal IPIs, then the first pending unmasked
source whose destination holds it, masking what it takes; or reads `kAIC_INT_SPURIOUS`.

Arrays are functions from index to value; the CPUs' `qemu_irq` lines are modelled by the list
of CPUs each function raises. The model keeps `numCPU` below 32, where the source's `1 << i`
shifts are defined.
-/

namespace QemuAppleSilicon.Intc

open QemuAppleSilicon.Lib QemuAppleSilicon.Qemu

/-! ## Registers and constants -/

/-- Source: `hw/intc/apple_aic.c` `AIC_INT_COUNT`. Kind: D -/
def AIC_INT_COUNT : ℕ := 576
/-- Source: `hw/intc/apple_aic.c` `AIC_CPU_COUNT`. Kind: D -/
def AIC_CPU_COUNT : ℕ := 6
/-- Source: `hw/intc/apple_aic.c` `AIC_VERSION`. Kind: D -/
def AIC_VERSION : UInt64 := 2
/-- Source: `hw/intc/apple_aic.c` `kAIC_NUM_EIRS`. Kind: D -/
def kAIC_NUM_EIRS : ℕ := AIC_INT_COUNT >>> 5

/-- Source: `hw/intc/apple_aic.c` `REG_AIC_REV`. Kind: D -/
def REG_AIC_REV : ℕ := 0x0000
/-- Source: `hw/intc/apple_aic.c` `REG_AIC_CAP0`. Kind: D -/
def REG_AIC_CAP0 : ℕ := 0x0004
/-- Source: `hw/intc/apple_aic.c` `REG_AIC_RST`. Kind: D -/
def REG_AIC_RST : ℕ := 0x000C
/-- Source: `hw/intc/apple_aic.c` `REG_AIC_GLB_CFG`. Kind: D -/
def REG_AIC_GLB_CFG : ℕ := 0x0010
/-- Source: `hw/intc/apple_aic.c` `REG_AIC_WHOAMI`. Kind: D -/
def REG_AIC_WHOAMI : ℕ := 0x2000
/-- Source: `hw/intc/apple_aic.c` `REG_AIC_IACK`. Kind: D -/
def REG_AIC_IACK : ℕ := 0x2004
/-- Source: `hw/intc/apple_aic.c` `REG_AIC_IPI_SET`. Kind: D -/
def REG_AIC_IPI_SET : ℕ := 0x2008
/-- Source: `hw/intc/apple_aic.c` `REG_AIC_IPI_CLR`. Kind: D -/
def REG_AIC_IPI_CLR : ℕ := 0x200C
/-- Source: `hw/intc/apple_aic.c` `REG_AIC_IPI_MASK_SET`. Kind: D -/
def REG_AIC_IPI_MASK_SET : ℕ := 0x2024
/-- Source: `hw/intc/apple_aic.c` `REG_AIC_IPI_MASK_CLR`. Kind: D -/
def REG_AIC_IPI_MASK_CLR : ℕ := 0x2028
/-- Source: `hw/intc/apple_aic.c` `REG_AIC_IPI_DEFER_SET`. Kind: D -/
def REG_AIC_IPI_DEFER_SET : ℕ := 0x202C
/-- Source: `hw/intc/apple_aic.c` `REG_AIC_IPI_DEFER_CLR`. Kind: D -/
def REG_AIC_IPI_DEFER_CLR : ℕ := 0x2030
/-- Source: `hw/intc/apple_aic.c` `REG_AIC_EIR_DEST`. Kind: D -/
def REG_AIC_EIR_DEST (n : ℕ) : ℕ := 0x3000 + n * 4
/-- Source: `hw/intc/apple_aic.c` `REG_AIC_EIR_SW_SET`. Kind: D -/
def REG_AIC_EIR_SW_SET (n : ℕ) : ℕ := 0x4000 + n * 4
/-- Source: `hw/intc/apple_aic.c` `REG_AIC_EIR_SW_CLR`. Kind: D -/
def REG_AIC_EIR_SW_CLR (n : ℕ) : ℕ := 0x4080 + n * 4
/-- Source: `hw/intc/apple_aic.c` `REG_AIC_EIR_MASK_SET`. Kind: D -/
def REG_AIC_EIR_MASK_SET (n : ℕ) : ℕ := 0x4100 + n * 4
/-- Source: `hw/intc/apple_aic.c` `REG_AIC_EIR_MASK_CLR`. Kind: D -/
def REG_AIC_EIR_MASK_CLR (n : ℕ) : ℕ := 0x4180 + n * 4
/-- Source: `hw/intc/apple_aic.c` `REG_AIC_EIR_INT_RO`. Kind: D -/
def REG_AIC_EIR_INT_RO (n : ℕ) : ℕ := 0x4200 + n * 4
/-- Source: `hw/intc/apple_aic.c` `REG_AIC_WHOAMI_Pn`. Kind: D -/
def REG_AIC_WHOAMI_Pn (n : ℕ) : ℕ := 0x5000 + n * 0x80

/-- Source: `hw/intc/apple_aic.c` `AIC_IPI_NORMAL`. Kind: D -/
def AIC_IPI_NORMAL : UInt32 := (1 : UInt32) <<< 0
/-- Source: `hw/intc/apple_aic.c` `AIC_IPI_SELF`. Kind: D -/
def AIC_IPI_SELF : UInt32 := (1 : UInt32) <<< 31

/-- Source: `hw/intc/apple_aic.c` `kAIC_INT_SPURIOUS`. Kind: D -/
def kAIC_INT_SPURIOUS : UInt32 := 0x00000
/-- Source: `hw/intc/apple_aic.c` `kAIC_INT_EXT`. Kind: D -/
def kAIC_INT_EXT : UInt32 := 0x10000
/-- Source: `hw/intc/apple_aic.c` `kAIC_INT_IPI`. Kind: D -/
def kAIC_INT_IPI : UInt32 := 0x40000
/-- Source: `hw/intc/apple_aic.c` `kAIC_INT_IPI_NORM`. Kind: D -/
def kAIC_INT_IPI_NORM : UInt32 := 0x40001
/-- Source: `hw/intc/apple_aic.c` `kAIC_INT_IPI_SELF`. Kind: D -/
def kAIC_INT_IPI_SELF : UInt32 := 0x40002

/-- `AIC_INT_EXTID(v)`.
Source: `hw/intc/apple_aic.c` `AIC_INT_EXTID`
Kind: D -/
def AIC_INT_EXTID (v : UInt32) : UInt32 := v &&& 0x3FF

/-- `1 << i` for a CPU or source bit `i`.
Source: `hw/intc/apple_aic.c` (`1 << i`)
Kind: D -/
def cpuBit (i : ℕ) : UInt32 := 1 <<< UInt32.ofNat i

/-! ## The state -/

/-- A CPU's IPI registers.
Source: `include/hw/intc/apple_aic.h` `AppleAICCPU`
Kind: D -/
structure AppleAICCPU where
  /-- `pendingIPI`: bit `j < numCPU` for a normal IPI from CPU `j`, `AIC_IPI_SELF` for a self IPI. -/
  pendingIPI : UInt32
  /-- `deferredIPI`. -/
  deferredIPI : UInt32
  /-- `ipi_mask`: `AIC_IPI_NORMAL` and `AIC_IPI_SELF` masked. -/
  ipiMask : UInt32

/-- The AIC. `numCPU` is not zero (`g_assert_cmpuint(s->numCPU, !=, 0)`) and is below 32.
Source: `include/hw/intc/apple_aic.h` `AppleAICState`
Kind: D -/
structure AppleAICState where
  /-- `numEIR`: the words of source bits. -/
  numEIR : ℕ
  /-- `numCPU`. -/
  numCPU : ℕ
  numCPU_pos : 0 < numCPU
  numCPU_lt : numCPU < 32
  /-- `global_cfg`. -/
  globalCfg : UInt32
  /-- `time_base`. -/
  timeBase : ℕ
  /-- `eir_mask`, by word. -/
  eirMask : ℕ → UInt32
  /-- `eir_dest`, by source. -/
  eirDest : ℕ → UInt32
  /-- `eir_state`, by word. -/
  eirState : ℕ → UInt32
  /-- `cpus`. -/
  cpus : ℕ → AppleAICCPU

namespace AppleAICState

/-- `numIRQ = numEIR * 32`, as `apple_aic_create` sets it.
Source: `hw/intc/apple_aic.c` `apple_aic_create`
Kind: D -/
def numIRQ (s : AppleAICState) : ℕ := s.numEIR * 32

/-- The external sources pending, in increasing order: those the loops over
`find_next_bit32(s->eir_state, s->numIRQ, i + 1)` visit.
Source: `hw/intc/apple_aic.c` `apple_aic_update`, `apple_aic_read`
Kind: D -/
def pendingSources (s : AppleAICState) : List ℕ := setBits32 s.eirState s.numIRQ

/-- The loops over `find_next_bit32(s->eir_state, s->numIRQ, i + 1)` from `i = -1` visit
`pendingSources`.
Source: `hw/intc/apple_aic.c` `apple_aic_update`, `apple_aic_read`
Kind: L -/
theorem findNextBit32Walk_eirState (s : AppleAICState) :
    findNextBit32Walk s.eirState s.numIRQ 0 = s.pendingSources :=
  findNextBit32Walk_zero s.eirState s.numIRQ

/-- Change the registers of CPU `o`. -/
def mapCpu (s : AppleAICState) (o : ℕ) (f : AppleAICCPU → AppleAICCPU) : AppleAICState :=
  { s with cpus := Function.update s.cpus o (f (s.cpus o)) }

/-- Change the registers of the CPUs in a list. -/
def mapCpus (s : AppleAICState) (targets : List ℕ) (f : AppleAICCPU → AppleAICCPU) :
    AppleAICState :=
  { s with cpus := fun i => if i ∈ targets then f (s.cpus i) else s.cpus i }

end AppleAICState

open AppleAICState

/-! ## `apple_aic_update` -/

/-- An unmasked pending self IPI: `(pendingIPI & AIC_IPI_SELF) & ~ipi_mask`.
Source: `hw/intc/apple_aic.c` `apple_aic_update`, `apple_aic_read` (`REG_AIC_IACK`)
Kind: D -/
def selfIpiPending (c : AppleAICCPU) : Bool :=
  (c.pendingIPI &&& AIC_IPI_SELF) &&& ~~~c.ipiMask != 0

/-- Normal IPIs unmasked and one pending: `(~ipi_mask & AIC_IPI_NORMAL) &&
(pendingIPI & ((1 << numCPU) - 1))`.
Source: `hw/intc/apple_aic.c` `apple_aic_update`, `apple_aic_read` (`REG_AIC_IACK`)
Kind: D -/
def normalIpiPending (numCPU : ℕ) (c : AppleAICCPU) : Bool :=
  (~~~c.ipiMask &&& AIC_IPI_NORMAL != 0) && (c.pendingIPI &&& (cpuBit numCPU - 1) != 0)

/-- The first loop of `apple_aic_update`: each CPU's deferred IPIs become pending.
Source: `hw/intc/apple_aic.c` `apple_aic_update`
Kind: D -/
def mergeDeferred (s : AppleAICState) : AppleAICState :=
  s.mapCpus (List.range s.numCPU) fun c =>
    { c with pendingIPI := c.pendingIPI ||| c.deferredIPI, deferredIPI := 0 }

/-- One CPU of the second loop of `apple_aic_update`: its bit in `intr` when it has an IPI to
take.
Source: `hw/intc/apple_aic.c` `apple_aic_update`
Kind: D -/
def ipiIntrStep (s : AppleAICState) (intr : UInt32) (i : ℕ) : UInt32 :=
  let intr := if selfIpiPending (s.cpus i) then intr ||| cpuBit i else intr
  if normalIpiPending s.numCPU (s.cpus i) then intr ||| cpuBit i else intr

/-- The second loop of `apple_aic_update`: the CPUs with an IPI to take.
Source: `hw/intc/apple_aic.c` `apple_aic_update`
Kind: D -/
def ipiIntr (s : AppleAICState) : UInt32 :=
  (List.range s.numCPU).foldl (ipiIntrStep s) 0

/-- The accumulators of the routing loop: `intr`, the CPUs chosen, and `potential`, the
destinations of the sources routed so far.
Source: `hw/intc/apple_aic.c` `apple_aic_update`
Kind: D -/
structure AicRouting where
  /-- `intr`. -/
  intr : UInt32
  /-- `potential`. -/
  potential : UInt32

/-- The first CPU `k < numCPU` not chosen and in `potential`: the inner `for` loop with its
`break`.
Source: `hw/intc/apple_aic.c` `apple_aic_update`
Kind: D -/
def spareCpu (numCPU : ℕ) (r : AicRouting) : Option ℕ :=
  (List.range numCPU).find? fun k => r.intr &&& cpuBit k == 0 && r.potential &&& cpuBit k != 0

/-- One pending source in the routing loop of `apple_aic_update`.
Source: `hw/intc/apple_aic.c` `apple_aic_update`
Kind: D -/
def appleAicRouteSource (s : AppleAICState) (r : AicRouting) (i : ℕ) : AicRouting :=
  if testBit32 i s.eirMask = false ∧ s.eirDest i ≠ 0 then
    let dest := s.eirDest i
    if r.intr &&& dest = 0 then
      -- no CPU chosen can take it yet
      let cpu := findFirstBit32 (fun w => s.eirDest (i + w)) s.numCPU
      ⟨r.intr ||| cpuBit cpu, r.potential ||| dest⟩
    else
      match spareCpu s.numCPU r with
      | some k => { r with intr := r.intr ||| cpuBit k }
      | none => r
  else r

/-- The loops of `apple_aic_update` after the merge: the IPIs, then the pending sources in order.
Source: `hw/intc/apple_aic.c` `apple_aic_update`
Kind: D -/
def appleAicRouting (s : AppleAICState) : AicRouting :=
  s.pendingSources.foldl (appleAicRouteSource s) ⟨ipiIntr s, 0⟩

/-- `apple_aic_update`: the state with the deferred IPIs merged, and the CPUs whose `irq` it
raises, in order.
Source: `hw/intc/apple_aic.c` `apple_aic_update`
Kind: D -/
def appleAicUpdate (s : AppleAICState) : AppleAICState × List ℕ :=
  let s := mergeDeferred s
  let r := appleAicRouting s
  (s, (List.range s.numCPU).filter fun i => r.intr &&& cpuBit i != 0)

/-! ## `apple_aic_read` -/

/-- The `REG_AIC_IACK` read of CPU `o`: its self IPI, its normal IPIs, or the first pending
unmasked source whose destination holds it, each masked as it is taken; else spurious.
Source: `hw/intc/apple_aic.c` `apple_aic_read` (`REG_AIC_IACK`)
Kind: D -/
def appleAicIack (s : AppleAICState) (o : ℕ) : AppleAICState × UInt32 :=
  let c := s.cpus o
  if selfIpiPending c then
    (s.mapCpu o fun c => { c with ipiMask := c.ipiMask ||| AIC_IPI_SELF },
      kAIC_INT_IPI ||| kAIC_INT_IPI_SELF)
  else if normalIpiPending s.numCPU c then
    (s.mapCpu o fun c => { c with ipiMask := c.ipiMask ||| AIC_IPI_NORMAL },
      kAIC_INT_IPI ||| kAIC_INT_IPI_NORM)
  else
    match s.pendingSources.find? (fun i =>
        testBit32 i s.eirMask = false && s.eirDest i &&& cpuBit o != 0) with
    | some i => ({ s with eirMask := setBit32 i s.eirMask },
        kAIC_INT_EXT ||| AIC_INT_EXTID (UInt32.ofNat i))
    | none => (s, kAIC_INT_SPURIOUS)

/-- `apple_aic_read` on the registers of CPU `o` (`now` is the emulated timer), `-1` for a
register it does not decode.
Source: `hw/intc/apple_aic.c` `apple_aic_read`
Kind: D -/
def appleAicReadCpu (s : AppleAICState) (o addr : ℕ) (now : UInt64) : AppleAICState × UInt64 :=
  if addr = REG_AIC_REV then (s, AIC_VERSION)
  else if addr = REG_AIC_CAP0 then
    (s, (UInt64.ofNat (s.numCPU - 1) <<< 16) ||| UInt64.ofNat s.numIRQ)
  else if addr = REG_AIC_GLB_CFG then (s, s.globalCfg.toUInt64)
  else if addr = REG_AIC_WHOAMI then (s, UInt64.ofNat o)
  else if addr = REG_AIC_IACK then
    let r := appleAicIack s o
    (r.1, r.2.toUInt64)
  else if REG_AIC_EIR_DEST 0 ≤ addr ∧ addr ≤ REG_AIC_EIR_DEST AIC_INT_COUNT then
    let vector := (addr - REG_AIC_EIR_DEST 0) / 4
    if vector ≥ s.numIRQ then (s, 0 - 1) else (s, (s.eirDest vector).toUInt64)
  else if REG_AIC_EIR_MASK_SET 0 ≤ addr ∧ addr ≤ REG_AIC_EIR_MASK_SET kAIC_NUM_EIRS then
    let eir := (addr - REG_AIC_EIR_MASK_SET 0) / 4
    if eir ≥ s.numEIR then (s, 0 - 1) else (s, (s.eirMask eir).toUInt64)
  else if REG_AIC_EIR_MASK_CLR 0 ≤ addr ∧ addr ≤ REG_AIC_EIR_MASK_CLR kAIC_NUM_EIRS then
    let eir := (addr - REG_AIC_EIR_MASK_CLR 0) / 4
    if eir ≥ s.numEIR then (s, 0 - 1) else (s, (s.eirMask eir).toUInt64)
  else if REG_AIC_EIR_INT_RO 0 ≤ addr ∧ addr ≤ REG_AIC_EIR_INT_RO kAIC_NUM_EIRS then
    let eir := (addr - REG_AIC_EIR_INT_RO 0) / 4
    if eir ≥ s.numEIR then (s, 0 - 1) else (s, (s.eirState eir).toUInt64)
  else if addr = s.timeBase + 0x20 then (s, now &&& 0xFFFFFFFF)
  else if addr = s.timeBase + 0x28 then (s, (now >>> 32) &&& 0xFFFFFFFF)
  else (s, 0 - 1)

/-- `apple_aic_read`: the per-CPU windows `REG_AIC_WHOAMI_Pn(cpu)` read CPU `cpu`'s registers.
Source: `hw/intc/apple_aic.c` `apple_aic_read`
Kind: D -/
def appleAicRead (s : AppleAICState) (o addr : ℕ) (now : UInt64) : AppleAICState × UInt64 :=
  if REG_AIC_WHOAMI_Pn 0 ≤ addr ∧ addr ≤ REG_AIC_WHOAMI_Pn AIC_CPU_COUNT - 4 then
    let cpu := (addr - 0x5000) / 0x80
    if cpu ≥ s.numCPU then (s, 0 - 1)
    else appleAicReadCpu s cpu (addr - 0x5000 + 0x2000 - 0x80 * cpu) now
  else appleAicReadCpu s o addr now

/-! ## `apple_aic_write` and the inputs -/

/-- `apple_aic_reset`: every source masked, every destination zero, every IPI masked and none
pending or deferred.
Source: `hw/intc/apple_aic.c` `apple_aic_reset`
Kind: D -/
def appleAicReset (s : AppleAICState) : AppleAICState :=
  { s with eirMask := fun _ => 0xFFFFFFFF, eirDest := fun _ => 0,
           cpus := fun _ => ⟨0, 0, AIC_IPI_NORMAL ||| AIC_IPI_SELF⟩ }

/-- The CPUs below `numCPU` whose bit is set in a written value.
Source: `hw/intc/apple_aic.c` `apple_aic_write` (`for (i = 0; i < s->numCPU; i++) if (val & (1 << i))`)
Kind: D -/
def ipiTargets (s : AppleAICState) (val : UInt32) : List ℕ :=
  (List.range s.numCPU).filter fun i => val &&& cpuBit i != 0

/-- `REG_AIC_IPI_SET` by CPU `o`: a normal IPI from `o` pending at each target, each raised if its
normal IPIs are unmasked; and a self IPI pending at `o`, raised if unmasked.
Source: `hw/intc/apple_aic.c` `apple_aic_write` (`REG_AIC_IPI_SET`)
Kind: D -/
def appleAicIpiSet (s : AppleAICState) (o : ℕ) (val : UInt32) : AppleAICState × List ℕ :=
  let targets := ipiTargets s val
  let s' := s.mapCpus targets fun c => { c with pendingIPI := c.pendingIPI ||| BIT32_MASK o }
  let raised := targets.filter fun i => ~~~(s.cpus i).ipiMask &&& AIC_IPI_NORMAL != 0
  if val &&& AIC_IPI_SELF ≠ 0 then
    (s'.mapCpu o (fun c => { c with pendingIPI := c.pendingIPI ||| AIC_IPI_SELF }),
      if ~~~(s'.cpus o).ipiMask &&& AIC_IPI_SELF ≠ 0 then raised ++ [o] else raised)
  else (s', raised)

/-- The writes that set or clear `o`'s bit in the pending or deferred IPIs of each target and
the self bit of `o`'s own: `REG_AIC_IPI_CLR`, `REG_AIC_IPI_DEFER_SET` and `REG_AIC_IPI_DEFER_CLR`.
Source: `hw/intc/apple_aic.c` `apple_aic_write`
Kind: D -/
def ipiUpdate (s : AppleAICState) (o : ℕ) (val : UInt32)
    (f : UInt32 → UInt32 → UInt32) (get : AppleAICCPU → UInt32)
    (set : AppleAICCPU → UInt32 → AppleAICCPU) : AppleAICState :=
  let s' := s.mapCpus (ipiTargets s val) fun c => set c (f (get c) (BIT32_MASK o))
  if val &&& AIC_IPI_SELF ≠ 0 then s'.mapCpu o fun c => set c (f (get c) AIC_IPI_SELF) else s'

/-- `REG_AIC_IPI_CLR`.
Source: `hw/intc/apple_aic.c` `apple_aic_write` (`REG_AIC_IPI_CLR`)
Kind: D -/
def appleAicIpiClr (s : AppleAICState) (o : ℕ) (val : UInt32) : AppleAICState :=
  ipiUpdate s o val (fun w m => w &&& ~~~m) AppleAICCPU.pendingIPI
    fun c w => { c with pendingIPI := w }

/-- `REG_AIC_IPI_DEFER_SET`.
Source: `hw/intc/apple_aic.c` `apple_aic_write` (`REG_AIC_IPI_DEFER_SET`)
Kind: D -/
def appleAicIpiDeferSet (s : AppleAICState) (o : ℕ) (val : UInt32) : AppleAICState :=
  ipiUpdate s o val (· ||| ·) AppleAICCPU.deferredIPI fun c w => { c with deferredIPI := w }

/-- `REG_AIC_IPI_DEFER_CLR`.
Source: `hw/intc/apple_aic.c` `apple_aic_write` (`REG_AIC_IPI_DEFER_CLR`)
Kind: D -/
def appleAicIpiDeferClr (s : AppleAICState) (o : ℕ) (val : UInt32) : AppleAICState :=
  ipiUpdate s o val (fun w m => w &&& ~~~m) AppleAICCPU.deferredIPI
    fun c w => { c with deferredIPI := w }

/-- A write to a word array of the sources, `REG_AIC_EIR_SW_SET` and the like: word
`(addr - base) / 4` when below `numEIR`.
Source: `hw/intc/apple_aic.c` `apple_aic_write` (`REG_AIC_EIR_SW_SET` .. `REG_AIC_EIR_MASK_CLR`)
Kind: D -/
def eirWordWrite (s : AppleAICState) (arr : ℕ → UInt32) (base addr : ℕ) (f : UInt32 → UInt32) :
    Option (ℕ → UInt32) :=
  let eir := (addr - base) / 4
  if eir ≥ s.numEIR then none else some (Function.update arr eir (f (arr eir)))

/-- `apple_aic_write` on the registers of CPU `o`, and the CPUs it raises.
Source: `hw/intc/apple_aic.c` `apple_aic_write`
Kind: D -/
def appleAicWriteCpu (s : AppleAICState) (o addr : ℕ) (data : UInt64) :
    AppleAICState × List ℕ :=
  let val := data.toUInt32
  if addr = REG_AIC_RST then (appleAicReset s, [])
  else if addr = REG_AIC_GLB_CFG then ({ s with globalCfg := data.toUInt32 }, [])
  else if addr = REG_AIC_IPI_SET then appleAicIpiSet s o val
  else if addr = REG_AIC_IPI_CLR then (appleAicIpiClr s o val, [])
  else if addr = REG_AIC_IPI_MASK_SET then
    (s.mapCpu o fun c => { c with ipiMask := c.ipiMask ||| (val &&& (AIC_IPI_NORMAL ||| AIC_IPI_SELF)) }, [])
  else if addr = REG_AIC_IPI_MASK_CLR then
    (s.mapCpu o fun c => { c with ipiMask := c.ipiMask &&& ~~~(val &&& (AIC_IPI_NORMAL ||| AIC_IPI_SELF)) }, [])
  else if addr = REG_AIC_IPI_DEFER_SET then (appleAicIpiDeferSet s o val, [])
  else if addr = REG_AIC_IPI_DEFER_CLR then (appleAicIpiDeferClr s o val, [])
  else if REG_AIC_EIR_DEST 0 ≤ addr ∧ addr ≤ REG_AIC_EIR_DEST AIC_INT_COUNT then
    let vector := (addr - REG_AIC_EIR_DEST 0) / 4
    if vector ≥ s.numIRQ then (s, [])
    else ({ s with eirDest := Function.update s.eirDest vector val }, [])
  else if REG_AIC_EIR_SW_SET 0 ≤ addr ∧ addr ≤ REG_AIC_EIR_SW_SET kAIC_NUM_EIRS then
    ({ s with eirState := (eirWordWrite s s.eirState (REG_AIC_EIR_SW_SET 0) addr
        (· ||| val)).getD s.eirState }, [])
  else if REG_AIC_EIR_SW_CLR 0 ≤ addr ∧ addr ≤ REG_AIC_EIR_SW_CLR kAIC_NUM_EIRS then
    ({ s with eirState := (eirWordWrite s s.eirState (REG_AIC_EIR_SW_CLR 0) addr
        (· &&& ~~~val)).getD s.eirState }, [])
  else if REG_AIC_EIR_MASK_SET 0 ≤ addr ∧ addr ≤ REG_AIC_EIR_MASK_SET kAIC_NUM_EIRS then
    ({ s with eirMask := (eirWordWrite s s.eirMask (REG_AIC_EIR_MASK_SET 0) addr
        (· ||| val)).getD s.eirMask }, [])
  else if REG_AIC_EIR_MASK_CLR 0 ≤ addr ∧ addr ≤ REG_AIC_EIR_MASK_CLR kAIC_NUM_EIRS then
    ({ s with eirMask := (eirWordWrite s s.eirMask (REG_AIC_EIR_MASK_CLR 0) addr
        (· &&& ~~~val)).getD s.eirMask }, [])
  else (s, [])

/-- `apple_aic_write`: the per-CPU windows `REG_AIC_WHOAMI_Pn(cpu)` write CPU `cpu`'s registers.
Source: `hw/intc/apple_aic.c` `apple_aic_write`
Kind: D -/
def appleAicWrite (s : AppleAICState) (o addr : ℕ) (data : UInt64) : AppleAICState × List ℕ :=
  if REG_AIC_WHOAMI_Pn 0 ≤ addr ∧ addr ≤ REG_AIC_WHOAMI_Pn AIC_CPU_COUNT - 4 then
    let cpu := (addr - 0x5000) / 0x80
    if cpu ≥ s.numCPU then (s, [])
    else appleAicWriteCpu s cpu (addr - 0x5000 + 0x2000 - 0x80 * cpu) data
  else appleAicWriteCpu s o addr data

/-- `apple_aic_set_irq`: an input line sets or clears its source's pending bit.
Source: `hw/intc/apple_aic.c` `apple_aic_set_irq`
Kind: D -/
def appleAicSetIrq (s : AppleAICState) (irq : ℕ) (level : Bool) : AppleAICState :=
  { s with eirState := if level then setBit32 irq s.eirState else clearBit32 irq s.eirState }

/-- What happens to the AIC: a register write or read by a CPU, an input line, or a tick of its
timer. -/
inductive AicOp where
  | write (o addr : ℕ) (data : UInt64)
  | read (o addr : ℕ) (now : UInt64)
  | setIrq (irq : ℕ) (level : Bool)
  | tick

/-- One operation: the new state and the CPUs raised.
Source: `hw/intc/apple_aic.c` `apple_aic_write`, `apple_aic_read`, `apple_aic_set_irq`,
`apple_aic_tick`
Kind: D -/
def aicStep (s : AppleAICState) : AicOp → AppleAICState × List ℕ
  | .write o addr data => appleAicWrite s o addr data
  | .read o addr now => ((appleAicRead s o addr now).1, [])
  | .setIrq irq level => (appleAicSetIrq s irq level, [])
  | .tick => appleAicUpdate s

/-- Operations one after another: the last state and the CPUs raised by each. -/
def aicRun (s : AppleAICState) : List AicOp → AppleAICState × List (List ℕ)
  | [] => (s, [])
  | op :: ops =>
    let r := aicStep s op
    let r' := aicRun r.1 ops
    (r'.1, r.2 :: r'.2)

end QemuAppleSilicon.Intc
