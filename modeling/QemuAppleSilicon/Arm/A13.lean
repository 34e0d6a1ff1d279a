import Mathlib
import QemuAppleSilicon.Lib.TracedRun

/-!
# Fast IPIs between A13 cores (`hw/arm/apple-silicon/a13.c`)

A core sends a fast IPI by writing `ARM64_REG_IPI_RR_LOCAL` (a core of its own cluster) or
`ARM64_REG_IPI_RR_GLOBAL` (a core of the cluster named in bits 16..23). The sender looks the
target up by `phys_id` among the cluster's six `cpus` slots, then either delivers at once (the
target's `IPI_SR` gets `1 | src << 8 | type`) or marks `deferredIPI[src][target]` or
`noWakeIPI[src][target]`, which a periodic tick delivers later. The target acknowledges by
writing `ARM64_REG_IPI_SR`, which clears `noWakeIPI[src][self]` or `deferredIPI[src][self]` for
the `src` in bits 8..15 of the written value.

Each handler here returns the cluster list after it and the array cells it read or wrote
(`A13Access`). The two matrices are kept as the cluster's memory from `deferredIPI` on, in 32-bit
words (`IpiMatrix.word`), so that a cell outside `[6][6]` is a word of whatever follows.

The sending paths only index with slots they found by a bounded search and with the sender's own
slot, so a run of them stays inside the arrays (`a13Run_inBounds`). An acknowledgement takes
`src` from the written value as it is: an 8-bit field, up to 255, used as the row of a `[6][6]`
matrix.
-/

namespace QemuAppleSilicon.Arm

open QemuAppleSilicon.Lib

/-! ## Constants -/

/-- Source: `include/hw/arm/apple-silicon/a13.h` `A13_MAX_CPU`. Kind: D -/
def A13_MAX_CPU : ℕ := 6

/-- Source: `hw/arm/apple-silicon/a13.c` `IPI_SR_SRC_CPU_SHIFT`. Kind: D -/
def IPI_SR_SRC_CPU_SHIFT : UInt64 := 8

/-- Source: `hw/arm/apple-silicon/a13.c` `IPI_SR_SRC_CPU_WIDTH`. Kind: D -/
def IPI_SR_SRC_CPU_WIDTH : UInt64 := 8

/-- Source: `hw/arm/apple-silicon/a13.c` `IPI_SR_SRC_CPU_MASK`. Kind: D -/
def IPI_SR_SRC_CPU_MASK : UInt64 := ((1 <<< IPI_SR_SRC_CPU_WIDTH) - 1) <<< IPI_SR_SRC_CPU_SHIFT

/-- Source: `hw/arm/apple-silicon/a13.c` `IPI_SR_SRC_CPU`. Kind: D -/
def IPI_SR_SRC_CPU (v : UInt64) : UInt64 := (v &&& IPI_SR_SRC_CPU_MASK) >>> IPI_SR_SRC_CPU_SHIFT

/-- Source: `hw/arm/apple-silicon/a13.c` `IPI_RR_TARGET_CLUSTER_SHIFT`. Kind: D -/
def IPI_RR_TARGET_CLUSTER_SHIFT : UInt64 := 16

/-- Source: `hw/arm/apple-silicon/a13.c` `IPI_RR_TYPE_IMMEDIATE`. Kind: D -/
def IPI_RR_TYPE_IMMEDIATE : UInt64 := (0 : UInt64) <<< 28

/-- Source: `hw/arm/apple-silicon/a13.c` `IPI_RR_TYPE_RETRACT`. Kind: D -/
def IPI_RR_TYPE_RETRACT : UInt64 := (1 : UInt64) <<< 28

/-- Source: `hw/arm/apple-silicon/a13.c` `IPI_RR_TYPE_DEFERRED`. Kind: D -/
def IPI_RR_TYPE_DEFERRED : UInt64 := (2 : UInt64) <<< 28

/-- Source: `hw/arm/apple-silicon/a13.c` `IPI_RR_TYPE_NOWAKE`. Kind: D -/
def IPI_RR_TYPE_NOWAKE : UInt64 := (3 : UInt64) <<< 28

/-- Source: `hw/arm/apple-silicon/a13.c` `IPI_RR_TYPE_MASK`. Kind: D -/
def IPI_RR_TYPE_MASK : UInt64 := (3 : UInt64) <<< 28

/-! ## State -/

/-- The fields of a core the IPI registers use: its slot in its cluster (`cpu_id`), `phys_id`,
`cluster_id`, `ipi_sr`, the level of its `fast_ipi` line, and whether it is halted
(`apple_a13_cpu_is_sleep`) or powered off (`apple_a13_cpu_is_powered_off`).
Source: `include/hw/arm/apple-silicon/a13.h` `AppleA13State`
Kind: D -/
structure AppleA13State where
  cpuId : UInt32
  physId : UInt32
  clusterId : UInt32
  ipiSr : UInt64
  fastIpi : Bool
  halted : Bool
  poweredOff : Bool
  deriving DecidableEq, Repr

/-- The two pending-IPI matrices of a cluster, `[source][target]`.
Source: `include/hw/arm/apple-silicon/a13.h` `AppleA13Cluster`
Kind: D -/
inductive IpiMatrix where
  | deferredIPI
  | noWakeIPI
  deriving DecidableEq, Repr

/-- The word of `m[i][j]` counted from the start of `deferredIPI`: row-major, with
`noWakeIPI` right after `deferredIPI`. C computes this address for any `i` and `j`.
Source: `include/hw/arm/apple-silicon/a13.h` `AppleA13Cluster`
Kind: D -/
def IpiMatrix.word : IpiMatrix → ℕ → ℕ → ℕ
  | .deferredIPI, i, j => i * A13_MAX_CPU + j
  | .noWakeIPI, i, j => A13_MAX_CPU * A13_MAX_CPU + i * A13_MAX_CPU + j

/-- The words of `AppleA13Cluster` from `deferredIPI` to its end: the two matrices, `tick` and
`ipi_cr` (two words each), the list link `next` (two pointers) and six 64-bit `CTRR` registers.
Source: `include/hw/arm/apple-silicon/a13.h` `AppleA13Cluster`
Kind: D -/
def APPLE_A13_CLUSTER_TAIL_WORDS : ℕ := 2 * (A13_MAX_CPU * A13_MAX_CPU) + 2 + 2 + 4 + 6 * 2

/-- A cluster: its `cluster_id`, the `cpus` slots, and its memory from `deferredIPI` on, in
32-bit words, with the memory after the structure.
Source: `include/hw/arm/apple-silicon/a13.h` `AppleA13Cluster`
Kind: D -/
structure AppleA13Cluster where
  clusterId : ℕ
  cpus : ℕ → Option AppleA13State
  words : ℕ → UInt32

/-- An array cell a handler reads or writes: a `cpus` slot or a matrix cell.
Source: `include/hw/arm/apple-silicon/a13.h` `AppleA13Cluster`
Kind: D -/
inductive A13Access where
  | cpus (i : ℕ)
  | ipi (m : IpiMatrix) (i j : ℕ)
  deriving DecidableEq, Repr

/-- The access is inside its array: every index below `A13_MAX_CPU`.
Source: `include/hw/arm/apple-silicon/a13.h` `AppleA13Cluster`
Kind: D -/
def A13Access.InBounds : A13Access → Prop
  | .cpus i => i < A13_MAX_CPU
  | .ipi _ i j => i < A13_MAX_CPU ∧ j < A13_MAX_CPU

instance : DecidablePred A13Access.InBounds := fun a =>
  match a with
  | .cpus i => inferInstanceAs (Decidable (i < A13_MAX_CPU))
  | .ipi _ i j => inferInstanceAs (Decidable (i < A13_MAX_CPU ∧ j < A13_MAX_CPU))

namespace AppleA13Cluster

/-- `c->deferredIPI[i][j]` or `c->noWakeIPI[i][j]`.
Source: `hw/arm/apple-silicon/a13.c`
Kind: D -/
def ipi (c : AppleA13Cluster) (m : IpiMatrix) (i j : ℕ) : UInt32 := c.words (m.word i j)

/-- `c->deferredIPI[i][j] = v` or `c->noWakeIPI[i][j] = v`.
Source: `hw/arm/apple-silicon/a13.c`
Kind: D -/
def setIpi (c : AppleA13Cluster) (m : IpiMatrix) (i j : ℕ) (v : UInt32) : AppleA13Cluster :=
  { c with words := Function.update c.words (m.word i j) v }

/-- The core in slot `i` after a change to its fields.
Source: `hw/arm/apple-silicon/a13.c`
Kind: D -/
def setCpu (c : AppleA13Cluster) (i : ℕ) (t : AppleA13State) : AppleA13Cluster :=
  { c with cpus := Function.update c.cpus i (some t) }

end AppleA13Cluster

/-- `apple_a13_find_cluster(cluster_id)`: the first cluster of the list with that id.
Source: `hw/arm/apple-silicon/a13.c` `apple_a13_find_cluster`
Kind: D -/
def appleA13FindCluster (cs : List AppleA13Cluster) (clusterId : ℕ) : Option AppleA13Cluster :=
  cs.find? fun c => c.clusterId = clusterId

/-- The list with the first cluster of `c'`'s id replaced by `c'`: a handler's writes through the
pointer `apple_a13_find_cluster` returned.
Source: `hw/arm/apple-silicon/a13.c` `apple_a13_find_cluster`
Kind: D -/
def setCluster : List AppleA13Cluster → AppleA13Cluster → List AppleA13Cluster
  | [], _ => []
  | c :: cs, c' => if c.clusterId = c'.clusterId then c' :: cs else c :: setCluster cs c'

/-! ## Delivery and the searches -/

/-- `apple_a13_cluster_deliver_ipi(c, cpu_id, src_cpu, flag)`: a core whose `ipi_sr` is still
set keeps it; otherwise it gets `1 | src_cpu << 8 | flag` and its line is raised. `none` for an
empty slot, which the source dereferences.
Source: `hw/arm/apple-silicon/a13.c` `apple_a13_cluster_deliver_ipi`
Kind: D -/
def appleA13ClusterDeliverIpi (c : AppleA13Cluster) (cpuId : ℕ) (srcCpu flag : UInt64) :
    Option (AppleA13Cluster × List A13Access) :=
  (c.cpus cpuId).map fun t =>
    if t.ipiSr ≠ 0 then (c, [.cpus cpuId])
    else (c.setCpu cpuId { t with ipiSr := 1 ||| (srcCpu <<< IPI_SR_SRC_CPU_SHIFT) ||| flag,
                                  fastIpi := true }, [.cpus cpuId])

/-- The cells a loop `for (j = 0; j < A13_MAX_CPU; j++)` reads when it breaks at the first `j`
with `hit j`, given what one iteration reads.
Source: `hw/arm/apple-silicon/a13.c` `apple_a13_ipi_rr_local`, `apple_a13_cluster_tick`
Kind: D -/
def scanReads (hit : ℕ → Bool) (reads : ℕ → List A13Access) : List A13Access :=
  match (List.range A13_MAX_CPU).find? hit with
  | some k => (List.range (k + 1)).flatMap reads
  | none => (List.range A13_MAX_CPU).flatMap reads

/-- The search of the senders: the first slot holding the core with this `phys_id`.
Source: `hw/arm/apple-silicon/a13.c` `apple_a13_ipi_rr_local`, `apple_a13_ipi_rr_global`
Kind: D -/
def physIdHit (c : AppleA13Cluster) (physId : UInt32) (i : ℕ) : Bool :=
  (c.cpus i).any fun t => t.physId == physId

/-- What `apple_a13_ipi_rr_local` and `apple_a13_ipi_rr_global` do once they have the target
cluster `c` and `phys_id`: search the slots, then act on the request type of `value`; the sender
is slot `senderId` of its own cluster.
Source: `hw/arm/apple-silicon/a13.c` `apple_a13_ipi_rr_local`, `apple_a13_ipi_rr_global`
Kind: D -/
def appleA13IpiRr (c : AppleA13Cluster) (senderId physId : UInt32) (value : UInt64) :
    Option (AppleA13Cluster × List A13Access) :=
  let reads := scanReads (physIdHit c physId) fun i => [.cpus i]
  let me := senderId.toNat
  match (List.range A13_MAX_CPU).find? (physIdHit c physId) with
  -- "failed to send fast IPI": logged, nothing changes
  | none => some (c, reads)
  | some k =>
    -- `c->cpus[cpu_id] == NULL` is read again and is false
    let reads := reads ++ [.cpus k]
    let deliver := (appleA13ClusterDeliverIpi c k senderId.toUInt64 IPI_RR_TYPE_IMMEDIATE).map
      fun r => (r.1, reads ++ r.2)
    let ty := value &&& IPI_RR_TYPE_MASK
    if ty = IPI_RR_TYPE_NOWAKE then
      match c.cpus k with
      | some t =>
        if t.halted then some (c.setIpi .noWakeIPI me k 1, reads ++ [.ipi .noWakeIPI me k])
        else deliver
      | none => none
    else if ty = IPI_RR_TYPE_DEFERRED then
      some (c.setIpi .deferredIPI me k 1, reads ++ [.ipi .deferredIPI me k])
    else if ty = IPI_RR_TYPE_RETRACT then
      some ((c.setIpi .deferredIPI me k 0).setIpi .noWakeIPI me k 0,
        reads ++ [.ipi .deferredIPI me k, .ipi .noWakeIPI me k])
    -- the mask leaves only `IPI_RR_TYPE_IMMEDIATE`: the `default` assertion is unreachable
    else deliver

/-! ## The system registers -/

/-- `apple_a13_ipi_rr_local(env, ri, value)` by core `acpu`: the target is in the sender's
cluster, found with no null check.
Source: `hw/arm/apple-silicon/a13.c` `apple_a13_ipi_rr_local`
Kind: D -/
def appleA13IpiRrLocal (cs : List AppleA13Cluster) (acpu : AppleA13State) (value : UInt64) :
    Option (List AppleA13Cluster × List A13Access) :=
  let physId := ((value &&& (0xff : UInt64)) ||| (acpu.clusterId <<< 8).toUInt64).toUInt32
  (appleA13FindCluster cs acpu.clusterId.toNat).bind fun c =>
    (appleA13IpiRr c acpu.cpuId physId value).map fun r => (setCluster cs r.1, r.2)

/-- `apple_a13_ipi_rr_global(env, ri, value)` by core `acpu`: the target cluster is bits 16..23
of `value`, and a missing one ends the call.
Source: `hw/arm/apple-silicon/a13.c` `apple_a13_ipi_rr_global`
Kind: D -/
def appleA13IpiRrGlobal (cs : List AppleA13Cluster) (acpu : AppleA13State) (value : UInt64) :
    Option (List AppleA13Cluster × List A13Access) :=
  let clusterId : UInt32 := ((value >>> IPI_RR_TARGET_CLUSTER_SHIFT) &&& (0xff : UInt64)).toUInt32
  match appleA13FindCluster cs clusterId.toNat with
  | none => some (cs, [])
  | some c =>
    let physId := ((value &&& (0xff : UInt64)) ||| (clusterId <<< 8).toUInt64).toUInt32
    (appleA13IpiRr c acpu.cpuId physId value).map fun r => (setCluster cs r.1, r.2)

/-- `apple_a13_ipi_write_sr(env, ri, value)` by core `acpu`: its `ipi_sr` is cleared and its line
lowered, then the pending entry `[src][acpu->cpu_id]` of the type in `value` is cleared, with
`src` the bits 8..15 of `value`. The cluster pointer is used with no null check.
Source: `hw/arm/apple-silicon/a13.c` `apple_a13_ipi_write_sr`
Kind: D -/
def appleA13IpiWriteSr (cs : List AppleA13Cluster) (acpu : AppleA13State) (value : UInt64) :
    Option (List AppleA13Cluster × List A13Access) :=
  let src := (IPI_SR_SRC_CPU value).toNat
  let me := acpu.cpuId.toNat
  let ty := value &&& IPI_RR_TYPE_MASK
  let clear := fun (m : IpiMatrix) => (appleA13FindCluster cs acpu.clusterId.toNat).map fun c =>
    (setCluster cs ((c.setCpu me { acpu with ipiSr := 0, fastIpi := false }).setIpi m src me 0),
      [.ipi m src me])
  if ty = IPI_RR_TYPE_NOWAKE then clear .noWakeIPI
  else if ty = IPI_RR_TYPE_DEFERRED then clear .deferredIPI
  else some (match appleA13FindCluster cs acpu.clusterId.toNat with
    | some c => setCluster cs (c.setCpu me { acpu with ipiSr := 0, fastIpi := false })
    | none => cs, [])

/-! ## The deferred-IPI timer -/

/-- One source row `i` of a loop of `apple_a13_cluster_tick`: the first target `j` whose slot
holds a core with `m[i][j]` set that `ready` admits is sent the IPI, and the row ends.
Source: `hw/arm/apple-silicon/a13.c` `apple_a13_cluster_tick`
Kind: D -/
def tickRow (m : IpiMatrix) (ready : AppleA13State → Bool) (flag : UInt64) (i : ℕ)
    (c : AppleA13Cluster) : Option (AppleA13Cluster × List A13Access) :=
  let hit := fun j => match c.cpus j with
    | some t => c.ipi m i j != 0 && ready t
    | none => false
  -- `c->cpus[j] && c->…[i][j] && …` reads the matrix cell only behind a non-empty slot
  let reads := scanReads hit fun j => .cpus j :: if (c.cpus j).isSome then [.ipi m i j] else []
  match (List.range A13_MAX_CPU).find? hit with
  | none => some (c, reads)
  | some j => (appleA13ClusterDeliverIpi c j (UInt64.ofNat i) flag).map fun r => (r.1, reads ++ r.2)

/-- A loop of `apple_a13_cluster_tick` over the source rows, each on the cluster the rows before
it left.
Source: `hw/arm/apple-silicon/a13.c` `apple_a13_cluster_tick`
Kind: D -/
def tickLoop (m : IpiMatrix) (ready : AppleA13State → Bool) (flag : UInt64) (c : AppleA13Cluster) :
    Option (AppleA13Cluster × List A13Access) :=
  tracedRun (fun i c => tickRow m ready flag i c) (List.range A13_MAX_CPU) c

/-- `apple_a13_cluster_tick(c)`: the deferred IPIs to cores that are powered on, then the
no-wake IPIs to cores that are neither halted nor powered off.
Source: `hw/arm/apple-silicon/a13.c` `apple_a13_cluster_tick`
Kind: D -/
def appleA13ClusterTick (c : AppleA13Cluster) : Option (AppleA13Cluster × List A13Access) :=
  (tickLoop .deferredIPI (fun t => !t.poweredOff) IPI_RR_TYPE_DEFERRED c).bind fun r =>
    (tickLoop .noWakeIPI (fun t => !t.halted && !t.poweredOff) IPI_RR_TYPE_NOWAKE r.1).map
      fun r' => (r'.1, r.2 ++ r'.2)

/-- `apple_a13_cluster_ipicr_tick`: every cluster of the list ticks.
Source: `hw/arm/apple-silicon/a13.c` `apple_a13_cluster_ipicr_tick`
Kind: D -/
def appleA13ClusterIpicrTick : List AppleA13Cluster → Option (List AppleA13Cluster × List A13Access)
  | [] => some ([], [])
  | c :: cs => (appleA13ClusterTick c).bind fun r =>
    (appleA13ClusterIpicrTick cs).map fun r' => (r.1 :: r'.1, r.2 ++ r'.2)

/-! ## Runs -/

/-- What happens next: core `me` of cluster `cl` writes one of the IPI registers, or the
deferred-IPI timer fires.
Source: `hw/arm/apple-silicon/a13.c`
Kind: D -/
inductive A13Event where
  | rrLocal (cl me : ℕ) (value : UInt64)
  | rrGlobal (cl me : ℕ) (value : UInt64)
  | writeSr (cl me : ℕ) (value : UInt64)
  | tick
  deriving DecidableEq, Repr

/-- The core in slot `me` of cluster `cl`.
Source: `hw/arm/apple-silicon/a13.c` `add_cpu_to_cluster`
Kind: D -/
def appleA13Cpu (cs : List AppleA13Cluster) (cl me : ℕ) : Option AppleA13State :=
  (appleA13FindCluster cs cl).bind fun c => c.cpus me

/-- One event: `none` when no core sits in the named slot or the handler dereferences a null
pointer.
Source: `hw/arm/apple-silicon/a13.c`
Kind: D -/
def a13Step (cs : List AppleA13Cluster) : A13Event → Option (List AppleA13Cluster × List A13Access)
  | .rrLocal cl me value => (appleA13Cpu cs cl me).bind fun acpu => appleA13IpiRrLocal cs acpu value
  | .rrGlobal cl me value => (appleA13Cpu cs cl me).bind fun acpu => appleA13IpiRrGlobal cs acpu value
  | .writeSr cl me value => (appleA13Cpu cs cl me).bind fun acpu => appleA13IpiWriteSr cs acpu value
  | .tick => appleA13ClusterIpicrTick cs

/-- A run of events from `cs`: the clusters after it and every access made on the way.
Source: `hw/arm/apple-silicon/a13.c`
Kind: D -/
def a13Run (cs : List AppleA13Cluster) (es : List A13Event) :
    Option (List AppleA13Cluster × List A13Access) :=
  tracedRun (fun e cs => a13Step cs e) es cs

/-! ## The source field of `IPI_SR` -/

/-- `IPI_SR_SRC_CPU(v)` is the byte at bits 8..15 of `v`.
Source: `hw/arm/apple-silicon/a13.c` `IPI_SR_SRC_CPU`
Kind: L -/
theorem toNat_IPI_SR_SRC_CPU (v : UInt64) :
    (IPI_SR_SRC_CPU v).toNat = v.toNat / 2 ^ 8 % 2 ^ 8 := by
  have hm : IPI_SR_SRC_CPU_MASK.toNat = (2 ^ 8 - 1) <<< 8 := by decide
  rw [IPI_SR_SRC_CPU, UInt64.toNat_shiftRight, UInt64.toNat_and, hm]
  simp only [show IPI_SR_SRC_CPU_SHIFT.toNat % 64 = 8 from rfl]
  apply Nat.eq_of_testBit_eq
  intro i
  rw [Nat.testBit_shiftRight, Nat.testBit_and, Nat.testBit_shiftLeft, Nat.testBit_two_pow_sub_one,
    Nat.testBit_mod_two_pow, Nat.testBit_div_two_pow]
  by_cases hi : i < 8 <;> simp [hi, Nat.add_comm]

/-- The source field of the value `apple_a13_cluster_deliver_ipi` stores is the source it was
given, when the type flag leaves bits 8..15 clear.
Source: `hw/arm/apple-silicon/a13.c` `apple_a13_cluster_deliver_ipi`
Kind: L -/
theorem IPI_SR_SRC_CPU_deliver (s flag : UInt64) (hs : s.toNat < 2 ^ 8)
    (hf : flag &&& IPI_SR_SRC_CPU_MASK = 0) :
    IPI_SR_SRC_CPU (1 ||| (s <<< IPI_SR_SRC_CPU_SHIFT) ||| flag) = s := by
  have hm : IPI_SR_SRC_CPU_MASK.toNat = (2 ^ 8 - 1) <<< 8 := by decide
  have hflag : ∀ i < 8, flag.toNat.testBit (i + 8) = false := by
    intro i hi
    have := congrArg (fun x : UInt64 => x.toNat.testBit (i + 8)) hf
    simp only [UInt64.toNat_and, hm, Nat.testBit_and, Nat.testBit_shiftLeft,
      Nat.testBit_two_pow_sub_one, UInt64.toNat_zero, Nat.zero_testBit] at this
    simpa [hi] using this
  have hshift : (s <<< IPI_SR_SRC_CPU_SHIFT).toNat = s.toNat <<< 8 := by
    rw [UInt64.toNat_shiftLeft, show IPI_SR_SRC_CPU_SHIFT.toNat % 64 = 8 from rfl, Nat.shiftLeft_eq]
    exact Nat.mod_eq_of_lt (by omega)
  apply UInt64.toNat_inj.mp
  rw [toNat_IPI_SR_SRC_CPU]
  apply Nat.eq_of_testBit_eq
  intro i
  rw [Nat.testBit_mod_two_pow, Nat.testBit_div_two_pow]
  simp only [UInt64.toNat_or, hshift, Nat.testBit_or, Nat.testBit_shiftLeft]
  by_cases hi : i < 8
  · simp [hi, hflag i hi, Nat.testBit_one_eq_true_iff_self_eq_zero]
  · have hlt : s.toNat < 2 ^ i := Nat.lt_of_lt_of_le hs (Nat.pow_le_pow_right (by decide) (by omega))
    simp [hi, Nat.testBit_lt_two_pow hlt]

/-! ## Lookups -/

/-- Source: `hw/arm/apple-silicon/a13.c`. Kind: L -/
theorem lt_of_find?_range {p : ℕ → Bool} {k : ℕ} (h : (List.range A13_MAX_CPU).find? p = some k) :
    k < A13_MAX_CPU :=
  List.mem_range.mp (List.mem_of_find?_eq_some h)

/-- A scan reads only what its iterations below `A13_MAX_CPU` read.
Source: `hw/arm/apple-silicon/a13.c`
Kind: L -/
theorem mem_scanReads {hit : ℕ → Bool} {reads : ℕ → List A13Access} {a : A13Access}
    (h : a ∈ scanReads hit reads) : ∃ j < A13_MAX_CPU, a ∈ reads j := by
  unfold scanReads at h
  split at h
  · next k hk =>
    obtain ⟨j, hj, ha⟩ := List.mem_flatMap.mp h
    exact ⟨j, Nat.lt_of_lt_of_le (List.mem_range.mp hj) (lt_of_find?_range hk), ha⟩
  · obtain ⟨j, hj, ha⟩ := List.mem_flatMap.mp h
    exact ⟨j, List.mem_range.mp hj, ha⟩

/-- Source: `hw/arm/apple-silicon/a13.c` `apple_a13_find_cluster`. Kind: L -/
theorem appleA13FindCluster_eq_some {cs : List AppleA13Cluster} {id : ℕ} {c : AppleA13Cluster}
    (h : appleA13FindCluster cs id = some c) : c ∈ cs ∧ c.clusterId = id :=
  ⟨List.mem_of_find?_eq_some h, by simpa using List.find?_some h⟩

/-- Source: `hw/arm/apple-silicon/a13.c` `apple_a13_find_cluster`. Kind: L -/
theorem mem_setCluster {cs : List AppleA13Cluster} {c c' : AppleA13Cluster}
    (h : c ∈ setCluster cs c') : c ∈ cs ∨ c = c' := by
  induction cs with
  | nil => exact absurd h List.not_mem_nil
  | cons d cs ih =>
    unfold setCluster at h
    split at h
    · rcases List.mem_cons.mp h with rfl | h
      · exact Or.inr rfl
      · exact Or.inl (List.mem_cons_of_mem d h)
    · rcases List.mem_cons.mp h with rfl | h
      · exact Or.inl List.mem_cons_self
      · exact (ih h).imp_left (List.mem_cons_of_mem d)

/-! ## The invariant of the cores -/

/-- What holds of the core in slot `i` of the cluster `clusterId`: the slot is inside `cpus` and
is the core's own `cpu_id`, the core names its cluster, and its `ipi_sr` names a source slot.
Source: `hw/arm/apple-silicon/a13.c` `add_cpu_to_cluster`, `apple_a13_cluster_deliver_ipi`
Kind: D -/
structure CoreOk (clusterId i : ℕ) (t : AppleA13State) : Prop where
  slot_lt : i < A13_MAX_CPU
  cpuId_eq : t.cpuId.toNat = i
  clusterId_eq : t.clusterId.toNat = clusterId
  src_lt : (IPI_SR_SRC_CPU t.ipiSr).toNat < A13_MAX_CPU

/-- Every core of the cluster is `CoreOk`.
Source: `hw/arm/apple-silicon/a13.c` `add_cpu_to_cluster`
Kind: D -/
def ClusterOk (c : AppleA13Cluster) : Prop :=
  ∀ i t, c.cpus i = some t → CoreOk c.clusterId i t

/-- Every cluster of the list is `ClusterOk`.
Source: `hw/arm/apple-silicon/a13.c` `add_cpu_to_cluster`
Kind: D -/
def A13Ok (cs : List AppleA13Cluster) : Prop := ∀ c ∈ cs, ClusterOk c

/-- Source: `hw/arm/apple-silicon/a13.c`. Kind: L -/
theorem ClusterOk.setIpi {c : AppleA13Cluster} (h : ClusterOk c) (m : IpiMatrix) (i j : ℕ)
    (v : UInt32) : ClusterOk (c.setIpi m i j v) := h

/-- A core whose `ipi_sr` changes to a value with a source slot stays `CoreOk`.
Source: `hw/arm/apple-silicon/a13.c`
Kind: L -/
theorem ClusterOk.setCpu {c : AppleA13Cluster} {k : ℕ} {t : AppleA13State} (h : ClusterOk c)
    (ht : c.cpus k = some t) {v : UInt64} (hv : (IPI_SR_SRC_CPU v).toNat < A13_MAX_CPU) (b : Bool) :
    ClusterOk (c.setCpu k { t with ipiSr := v, fastIpi := b }) := by
  intro i t' h'
  by_cases hik : i = k
  · subst hik
    simp only [AppleA13Cluster.setCpu, Function.update_self, Option.some.injEq] at h'
    subst h'
    obtain ⟨h1, h2, h3, _⟩ := h i t ht
    exact ⟨h1, h2, h3, hv⟩
  · simp only [AppleA13Cluster.setCpu, Function.update_of_ne hik] at h'
    exact h i t' h'

/-- Source: `hw/arm/apple-silicon/a13.c` `apple_a13_find_cluster`. Kind: L -/
theorem A13Ok.setCluster {cs : List AppleA13Cluster} {c' : AppleA13Cluster} (h : A13Ok cs)
    (hc : ClusterOk c') : A13Ok (setCluster cs c') := by
  intro c hc'
  rcases mem_setCluster hc' with hc' | rfl
  · exact h c hc'
  · exact hc

/-- The core in a slot is `CoreOk` there: in particular its `cpu_id` is the slot.
Source: `hw/arm/apple-silicon/a13.c` `add_cpu_to_cluster`
Kind: L -/
theorem appleA13Cpu_ok {cs : List AppleA13Cluster} {cl me : ℕ} {acpu : AppleA13State}
    (h : A13Ok cs) (hcpu : appleA13Cpu cs cl me = some acpu) :
    ∃ c, appleA13FindCluster cs cl = some c ∧ c.cpus me = some acpu ∧ CoreOk cl me acpu := by
  obtain ⟨c, hc, ht⟩ := Option.bind_eq_some_iff.mp hcpu
  obtain ⟨hmem, hid⟩ := appleA13FindCluster_eq_some hc
  exact ⟨c, hc, ht, hid ▸ h c hmem me acpu ht⟩

/-! ## The handlers keep the invariant and stay inside the arrays -/

/-- Delivery changes at most the `ipi_sr` of slot `k`, to a value naming `src`, and reads only
`cpus[k]`.
Source: `hw/arm/apple-silicon/a13.c` `apple_a13_cluster_deliver_ipi`
Kind: L -/
theorem appleA13ClusterDeliverIpi_ok {c : AppleA13Cluster} {k : ℕ} {src flag : UInt64}
    {r : AppleA13Cluster × List A13Access} (h : ClusterOk c) (hsrc : src.toNat < A13_MAX_CPU)
    (hflag : flag &&& IPI_SR_SRC_CPU_MASK = 0)
    (hd : appleA13ClusterDeliverIpi c k src flag = some r) :
    ClusterOk r.1 ∧ r.1.clusterId = c.clusterId ∧ r.2 = [.cpus k] := by
  obtain ⟨t, ht, rfl⟩ := Option.map_eq_some_iff.mp hd
  split
  · exact ⟨h, rfl, rfl⟩
  · have hv := IPI_SR_SRC_CPU_deliver src flag (Nat.lt_of_lt_of_le hsrc (by decide)) hflag
    refine ⟨h.setCpu ht ?_ true, rfl, rfl⟩
    rw [hv]
    exact hsrc

/-- What the common part of the senders can do: find no target and change nothing; or, for the
target it found in slot `k`, set one cell `[senderId][k]`, clear the two cells `[senderId][k]`, or
deliver an immediate IPI to `k`. Every case reads the slots of the search, and `cpus[k]` again.
Source: `hw/arm/apple-silicon/a13.c` `apple_a13_ipi_rr_local`, `apple_a13_ipi_rr_global`
Kind: L -/
theorem appleA13IpiRr_cases {c : AppleA13Cluster} {senderId physId : UInt32} {value : UInt64}
    {r : AppleA13Cluster × List A13Access} (hr : appleA13IpiRr c senderId physId value = some r) :
    r = (c, scanReads (physIdHit c physId) fun i => [.cpus i]) ∨
      ∃ k < A13_MAX_CPU,
        (∃ m v, r = (c.setIpi m senderId.toNat k v,
          scanReads (physIdHit c physId) (fun i => [.cpus i]) ++ [.cpus k] ++
            [.ipi m senderId.toNat k])) ∨
        r = ((c.setIpi .deferredIPI senderId.toNat k 0).setIpi .noWakeIPI senderId.toNat k 0,
          scanReads (physIdHit c physId) (fun i => [.cpus i]) ++ [.cpus k] ++
            [.ipi .deferredIPI senderId.toNat k, .ipi .noWakeIPI senderId.toNat k]) ∨
        ∃ r', appleA13ClusterDeliverIpi c k senderId.toUInt64 IPI_RR_TYPE_IMMEDIATE = some r' ∧
          r = (r'.1, scanReads (physIdHit c physId) (fun i => [.cpus i]) ++ [.cpus k] ++ r'.2) := by
  unfold appleA13IpiRr at hr
  split at hr
  · cases hr
    exact .inl rfl
  · next k hk =>
    refine .inr ⟨k, lt_of_find?_range hk, ?_⟩
    dsimp only at hr
    -- the immediate delivery shared by the `NOWAKE` and `IMMEDIATE` branches
    have hdeliver : ∀ r, (appleA13ClusterDeliverIpi c k senderId.toUInt64
        IPI_RR_TYPE_IMMEDIATE).map (fun r => (r.1, scanReads (physIdHit c physId)
          (fun i => [A13Access.cpus i]) ++ [.cpus k] ++ r.2)) = some r →
        ∃ r', appleA13ClusterDeliverIpi c k senderId.toUInt64 IPI_RR_TYPE_IMMEDIATE = some r' ∧
          r = (r'.1, scanReads (physIdHit c physId) (fun i => [.cpus i]) ++ [.cpus k] ++ r'.2) := by
      intro r hr
      obtain ⟨r', hd, rfl⟩ := Option.map_eq_some_iff.mp hr
      exact ⟨r', hd, rfl⟩
    split_ifs at hr
    · split at hr
      · split_ifs at hr
        · cases hr
          exact .inl ⟨_, _, rfl⟩
        · exact .inr (.inr (hdeliver r hr))
      · cases hr
    · cases hr
      exact .inl ⟨_, _, rfl⟩
    · cases hr
      exact .inr (.inl rfl)
    · exact .inr (.inr (hdeliver r hr))

/-- The common part of the two senders keeps the invariant and reads and writes only cells
below `A13_MAX_CPU`, when the sender's slot is one.
Source: `hw/arm/apple-silicon/a13.c` `apple_a13_ipi_rr_local`, `apple_a13_ipi_rr_global`
Kind: L -/
theorem appleA13IpiRr_ok {c : AppleA13Cluster} {senderId physId : UInt32} {value : UInt64}
    {r : AppleA13Cluster × List A13Access} (h : ClusterOk c) (hme : senderId.toNat < A13_MAX_CPU)
    (hr : appleA13IpiRr c senderId physId value = some r) :
    ClusterOk r.1 ∧ r.1.clusterId = c.clusterId ∧ ∀ a ∈ r.2, a.InBounds := by
  have hreads : ∀ a ∈ scanReads (physIdHit c physId) (fun i => [A13Access.cpus i]), a.InBounds := by
    intro a ha
    obtain ⟨j, hj, ha⟩ := mem_scanReads ha
    rw [List.mem_singleton.mp ha]
    exact hj
  rcases appleA13IpiRr_cases hr with rfl | ⟨k, hk6, hcases⟩
  · exact ⟨h, rfl, hreads⟩
  have hbase : ∀ a ∈ scanReads (physIdHit c physId) (fun i => [A13Access.cpus i]) ++ [.cpus k],
      a.InBounds := List.forall_mem_append.mpr ⟨hreads, List.forall_mem_singleton.mpr hk6⟩
  have hcell : ∀ m : IpiMatrix, (A13Access.ipi m senderId.toNat k).InBounds := fun _ => ⟨hme, hk6⟩
  rcases hcases with ⟨m, v, rfl⟩ | rfl | ⟨r', hd, rfl⟩
  · exact ⟨h.setIpi _ _ _ _, rfl,
      List.forall_mem_append.mpr ⟨hbase, List.forall_mem_singleton.mpr (hcell m)⟩⟩
  · exact ⟨(h.setIpi _ _ _ _).setIpi _ _ _ _, rfl, List.forall_mem_append.mpr
      ⟨hbase, List.forall_mem_cons.mpr ⟨hcell _, List.forall_mem_singleton.mpr (hcell _)⟩⟩⟩
  · obtain ⟨hok, hid, hacc⟩ := appleA13ClusterDeliverIpi_ok h
      (by rw [UInt32.toNat_toUInt64]; exact hme) (by decide) hd
    rw [hacc]
    exact ⟨hok, hid, List.forall_mem_append.mpr ⟨hbase, List.forall_mem_singleton.mpr hk6⟩⟩

/-- What an acknowledgement by a core of the invariant does: in its own cluster it clears its own
`ipi_sr` and line, and cell `[src][self]` of the matrix its type names, if it names one.
Source: `hw/arm/apple-silicon/a13.c` `apple_a13_ipi_write_sr`
Kind: L -/
theorem appleA13IpiWriteSr_cases {cs : List AppleA13Cluster} {cl me : ℕ} {acpu : AppleA13State}
    {value : UInt64} {r : List AppleA13Cluster × List A13Access} (h : A13Ok cs)
    (hcpu : appleA13Cpu cs cl me = some acpu) (hw : appleA13IpiWriteSr cs acpu value = some r) :
    ∃ c, appleA13FindCluster cs cl = some c ∧ c.cpus me = some acpu ∧ c.clusterId = cl ∧
      ((∃ m, r = (setCluster cs ((c.setCpu me { acpu with ipiSr := 0, fastIpi := false }).setIpi m
          (IPI_SR_SRC_CPU value).toNat me 0), [.ipi m (IPI_SR_SRC_CPU value).toNat me])) ∨
        r = (setCluster cs (c.setCpu me { acpu with ipiSr := 0, fastIpi := false }), [])) := by
  obtain ⟨c, hc, ht, hcore⟩ := appleA13Cpu_ok h hcpu
  have hfind : appleA13FindCluster cs acpu.clusterId.toNat = some c := by
    rw [hcore.clusterId_eq]
    exact hc
  refine ⟨c, hc, ht, (appleA13FindCluster_eq_some hc).2, ?_⟩
  unfold appleA13IpiWriteSr at hw
  dsimp only at hw
  rw [hfind, hcore.cpuId_eq] at hw
  split_ifs at hw <;> cases hw
  · exact .inl ⟨.noWakeIPI, rfl⟩
  · exact .inl ⟨.deferredIPI, rfl⟩
  · exact .inr rfl

/-- An acknowledgement keeps the invariant and accesses at most one cell: `[src][self]` of the
matrix its type names, with `src` the bits 8..15 of `value`.
Source: `hw/arm/apple-silicon/a13.c` `apple_a13_ipi_write_sr`
Kind: L -/
theorem appleA13IpiWriteSr_ok {cs : List AppleA13Cluster} {cl me : ℕ} {acpu : AppleA13State}
    {value : UInt64} {r : List AppleA13Cluster × List A13Access} (h : A13Ok cs)
    (hcpu : appleA13Cpu cs cl me = some acpu) (hw : appleA13IpiWriteSr cs acpu value = some r) :
    A13Ok r.1 ∧ ∀ a ∈ r.2, ∃ m, a = .ipi m (IPI_SR_SRC_CPU value).toNat me := by
  obtain ⟨c, hc, ht, -, hcases⟩ := appleA13IpiWriteSr_cases h hcpu hw
  -- the acknowledging core's `ipi_sr` goes to `0`, which names slot `0`
  have hcleared : ClusterOk (c.setCpu me { acpu with ipiSr := 0, fastIpi := false }) :=
    (h c (appleA13FindCluster_eq_some hc).1).setCpu ht (by decide) false
  rcases hcases with ⟨m, rfl⟩ | rfl
  · exact ⟨h.setCluster (hcleared.setIpi _ _ _ _), List.forall_mem_singleton.mpr ⟨m, rfl⟩⟩
  · exact ⟨h.setCluster hcleared, fun a ha => absurd ha List.not_mem_nil⟩

/-- The sender's own slot and the slot it finds are cells of the arrays.
Source: `hw/arm/apple-silicon/a13.c` `apple_a13_ipi_rr_local`
Kind: L -/
theorem appleA13IpiRrLocal_ok {cs : List AppleA13Cluster} {cl me : ℕ} {acpu : AppleA13State}
    {value : UInt64} {r : List AppleA13Cluster × List A13Access} (h : A13Ok cs)
    (hcpu : appleA13Cpu cs cl me = some acpu) (hr : appleA13IpiRrLocal cs acpu value = some r) :
    A13Ok r.1 ∧ ∀ a ∈ r.2, a.InBounds := by
  obtain ⟨c, hc, -, hcore⟩ := appleA13Cpu_ok h hcpu
  obtain ⟨c₁, hc₁, hr⟩ := Option.bind_eq_some_iff.mp hr
  obtain ⟨r', hr', rfl⟩ := Option.map_eq_some_iff.mp hr
  obtain ⟨hok, -, hacc⟩ := appleA13IpiRr_ok (h c₁ (appleA13FindCluster_eq_some hc₁).1)
    (hcore.cpuId_eq ▸ hcore.slot_lt) hr'
  exact ⟨h.setCluster hok, hacc⟩

/-- Source: `hw/arm/apple-silicon/a13.c` `apple_a13_ipi_rr_global`. Kind: L -/
theorem appleA13IpiRrGlobal_ok {cs : List AppleA13Cluster} {cl me : ℕ} {acpu : AppleA13State}
    {value : UInt64} {r : List AppleA13Cluster × List A13Access} (h : A13Ok cs)
    (hcpu : appleA13Cpu cs cl me = some acpu) (hr : appleA13IpiRrGlobal cs acpu value = some r) :
    A13Ok r.1 ∧ ∀ a ∈ r.2, a.InBounds := by
  obtain ⟨c, hc, -, hcore⟩ := appleA13Cpu_ok h hcpu
  unfold appleA13IpiRrGlobal at hr
  dsimp only at hr
  split at hr
  · cases hr
    exact ⟨h, fun a ha => absurd ha List.not_mem_nil⟩
  · next c₁ hc₁ =>
    obtain ⟨r', hr', rfl⟩ := Option.map_eq_some_iff.mp hr
    obtain ⟨hok, -, hacc⟩ := appleA13IpiRr_ok (h c₁ (appleA13FindCluster_eq_some hc₁).1)
      (hcore.cpuId_eq ▸ hcore.slot_lt) hr'
    exact ⟨h.setCluster hok, hacc⟩

/-- One source row of the tick reads slots and cells of row `i` below `A13_MAX_CPU` and delivers
with source `i`.
Source: `hw/arm/apple-silicon/a13.c` `apple_a13_cluster_tick`
Kind: L -/
theorem tickRow_ok {m : IpiMatrix} {ready : AppleA13State → Bool} {flag : UInt64} {i : ℕ}
    {c : AppleA13Cluster} {r : AppleA13Cluster × List A13Access} (h : ClusterOk c)
    (hi : i < A13_MAX_CPU) (hflag : flag &&& IPI_SR_SRC_CPU_MASK = 0)
    (hr : tickRow m ready flag i c = some r) :
    ClusterOk r.1 ∧ r.1.clusterId = c.clusterId ∧ ∀ a ∈ r.2, a.InBounds := by
  have hreads : ∀ hit, ∀ a ∈ scanReads hit
      (fun j => .cpus j :: if (c.cpus j).isSome then [.ipi m i j] else []), a.InBounds := by
    intro hit a ha
    obtain ⟨j, hj, ha⟩ := mem_scanReads ha
    rcases List.mem_cons.mp ha with rfl | ha
    · exact hj
    · split at ha
      · rw [List.mem_singleton.mp ha]
        exact ⟨hi, hj⟩
      · exact absurd ha List.not_mem_nil
  unfold tickRow at hr
  dsimp only at hr
  split at hr
  · cases hr
    exact ⟨h, rfl, hreads _⟩
  · next j hj =>
    obtain ⟨r', hd, rfl⟩ := Option.map_eq_some_iff.mp hr
    have hsrc : (UInt64.ofNat i).toNat < A13_MAX_CPU := by
      rw [UInt64.toNat_ofNat_of_lt' (Nat.lt_of_lt_of_le hi (by decide))]
      exact hi
    obtain ⟨hok, hid, hacc⟩ := appleA13ClusterDeliverIpi_ok h hsrc hflag hd
    rw [hacc]
    exact ⟨hok, hid, List.forall_mem_append.mpr
      ⟨hreads _, List.forall_mem_singleton.mpr (lt_of_find?_range hj)⟩⟩

/-- A loop of the tick, row after row, by the invariant rule of `tracedRun`.
Source: `hw/arm/apple-silicon/a13.c` `apple_a13_cluster_tick`
Kind: L -/
theorem tickLoop_ok {m : IpiMatrix} {ready : AppleA13State → Bool} {flag : UInt64}
    {c : AppleA13Cluster} {r : AppleA13Cluster × List A13Access} (h : ClusterOk c)
    (hflag : flag &&& IPI_SR_SRC_CPU_MASK = 0) (hr : tickLoop m ready flag c = some r) :
    ClusterOk r.1 ∧ r.1.clusterId = c.clusterId ∧ ∀ a ∈ r.2, a.InBounds := by
  -- the invariant of a row: the cluster stays well formed under the same id
  have hstep : ∀ i ∈ List.range A13_MAX_CPU, ∀ (s : AppleA13Cluster)
      (r : AppleA13Cluster × List A13Access), (ClusterOk s ∧ s.clusterId = c.clusterId) →
      tickRow m ready flag i s = some r →
      (ClusterOk r.1 ∧ r.1.clusterId = c.clusterId) ∧ ∀ a ∈ r.2, a.InBounds := by
    intro i hi s r hs hr
    obtain ⟨hok, hid, hacc⟩ := tickRow_ok hs.1 (List.mem_range.mp hi) hflag hr
    exact ⟨⟨hok, hid.trans hs.2⟩, hacc⟩
  have hrun := tracedRun_invariant (fun c' => ClusterOk c' ∧ c'.clusterId = c.clusterId)
    A13Access.InBounds hstep c r ⟨h, rfl⟩ hr
  exact ⟨hrun.1.1, hrun.1.2, hrun.2⟩

/-- Source: `hw/arm/apple-silicon/a13.c` `apple_a13_cluster_tick`. Kind: L -/
theorem appleA13ClusterTick_ok {c : AppleA13Cluster} {r : AppleA13Cluster × List A13Access}
    (h : ClusterOk c) (hr : appleA13ClusterTick c = some r) :
    ClusterOk r.1 ∧ r.1.clusterId = c.clusterId ∧ ∀ a ∈ r.2, a.InBounds := by
  obtain ⟨r₁, h₁, hr⟩ := Option.bind_eq_some_iff.mp hr
  obtain ⟨r₂, h₂, rfl⟩ := Option.map_eq_some_iff.mp hr
  obtain ⟨hok₁, hid₁, hacc₁⟩ := tickLoop_ok h (by decide) h₁
  obtain ⟨hok₂, hid₂, hacc₂⟩ := tickLoop_ok hok₁ (by decide) h₂
  exact ⟨hok₂, hid₂.trans hid₁, List.forall_mem_append.mpr ⟨hacc₁, hacc₂⟩⟩

/-- Source: `hw/arm/apple-silicon/a13.c` `apple_a13_cluster_ipicr_tick`. Kind: L -/
theorem appleA13ClusterIpicrTick_ok {cs : List AppleA13Cluster}
    {r : List AppleA13Cluster × List A13Access} (h : A13Ok cs)
    (hr : appleA13ClusterIpicrTick cs = some r) : A13Ok r.1 ∧ ∀ a ∈ r.2, a.InBounds := by
  induction cs generalizing r with
  | nil =>
    cases hr
    exact ⟨fun c hc => absurd hc List.not_mem_nil, fun a ha => absurd ha List.not_mem_nil⟩
  | cons c cs ih =>
    obtain ⟨r₁, h₁, hr⟩ := Option.bind_eq_some_iff.mp hr
    obtain ⟨r₂, h₂, rfl⟩ := Option.map_eq_some_iff.mp hr
    obtain ⟨hok₁, -, hacc₁⟩ := appleA13ClusterTick_ok (h c List.mem_cons_self) h₁
    obtain ⟨hok₂, hacc₂⟩ := ih (fun c' hc' => h c' (List.mem_cons_of_mem c hc')) h₂
    refine ⟨fun c' hc' => ?_, List.forall_mem_append.mpr ⟨hacc₁, hacc₂⟩⟩
    rcases List.mem_cons.mp hc' with rfl | hc'
    · exact hok₁
    · exact hok₂ c' hc'

/-! ## The tick never fails -/

/-- A row of the tick delivers only to a slot its search found holding a core, so it never
dereferences an empty one.
Source: `hw/arm/apple-silicon/a13.c` `apple_a13_cluster_tick`
Kind: L -/
theorem tickRow_isSome (m : IpiMatrix) (ready : AppleA13State → Bool) (flag : UInt64) (i : ℕ)
    (c : AppleA13Cluster) : (tickRow m ready flag i c).isSome := by
  unfold tickRow
  dsimp only
  split
  · rfl
  · next j hj =>
    have hhit := List.find?_some hj
    cases ht : c.cpus j with
    | none => simp [ht] at hhit
    | some t => simp [appleA13ClusterDeliverIpi, ht]

/-- Source: `hw/arm/apple-silicon/a13.c` `apple_a13_cluster_tick`. Kind: L -/
theorem tickLoop_isSome (m : IpiMatrix) (ready : AppleA13State → Bool) (flag : UInt64)
    (c : AppleA13Cluster) : (tickLoop m ready flag c).isSome :=
  tracedRun_isSome (fun _ => True)
    (fun i _ s _ => (Option.isSome_iff_exists.mp (tickRow_isSome m ready flag i s)).imp
      fun _ h => ⟨h, trivial⟩) c trivial

/-- Source: `hw/arm/apple-silicon/a13.c` `apple_a13_cluster_ipicr_tick`. Kind: L -/
theorem appleA13ClusterIpicrTick_isSome (cs : List AppleA13Cluster) :
    (appleA13ClusterIpicrTick cs).isSome := by
  induction cs with
  | nil => rfl
  | cons c cs ih =>
    obtain ⟨r₁, h₁⟩ := Option.isSome_iff_exists.mp (tickLoop_isSome .deferredIPI
      (fun t => !t.poweredOff) IPI_RR_TYPE_DEFERRED c)
    obtain ⟨r₂, h₂⟩ := Option.isSome_iff_exists.mp (tickLoop_isSome .noWakeIPI
      (fun t => !t.halted && !t.poweredOff) IPI_RR_TYPE_NOWAKE r₁.1)
    obtain ⟨r₃, h₃⟩ := Option.isSome_iff_exists.mp ih
    simp [appleA13ClusterIpicrTick, appleA13ClusterTick, h₁, h₂, h₃]

/-! ## Runs -/

/-- An acknowledgement whose source field names a slot below `A13_MAX_CPU`; the other events
impose nothing.
Source: `hw/arm/apple-silicon/a13.c` `apple_a13_ipi_write_sr`
Kind: D -/
def AckInRange : A13Event → Prop
  | .writeSr _ _ value => (IPI_SR_SRC_CPU value).toNat < A13_MAX_CPU
  | _ => True

/-- Every event keeps the invariant, and stays inside the arrays unless it acknowledges with a
source field past them.
Source: `hw/arm/apple-silicon/a13.c`
Kind: L -/
theorem a13Step_ok {cs : List AppleA13Cluster} {e : A13Event}
    {r : List AppleA13Cluster × List A13Access} (h : A13Ok cs) (hs : a13Step cs e = some r) :
    A13Ok r.1 ∧ (AckInRange e → ∀ a ∈ r.2, a.InBounds) := by
  cases e with
  | rrLocal cl me value =>
    obtain ⟨acpu, hcpu, hr⟩ := Option.bind_eq_some_iff.mp hs
    obtain ⟨hok, hacc⟩ := appleA13IpiRrLocal_ok h hcpu hr
    exact ⟨hok, fun _ => hacc⟩
  | rrGlobal cl me value =>
    obtain ⟨acpu, hcpu, hr⟩ := Option.bind_eq_some_iff.mp hs
    obtain ⟨hok, hacc⟩ := appleA13IpiRrGlobal_ok h hcpu hr
    exact ⟨hok, fun _ => hacc⟩
  | writeSr cl me value =>
    obtain ⟨acpu, hcpu, hr⟩ := Option.bind_eq_some_iff.mp hs
    obtain ⟨hok, hacc⟩ := appleA13IpiWriteSr_ok h hcpu hr
    obtain ⟨-, -, -, hcore⟩ := appleA13Cpu_ok h hcpu
    refine ⟨hok, fun hsrc a ha => ?_⟩
    obtain ⟨m, rfl⟩ := hacc a ha
    exact ⟨hsrc, hcore.slot_lt⟩
  | tick =>
    obtain ⟨hok, hacc⟩ := appleA13ClusterIpicrTick_ok h hs
    exact ⟨hok, fun _ => hacc⟩

/-- Over any run of IPI writes and timer ticks whose acknowledgements carry a source slot, every
access to `cpus`, `deferredIPI` and `noWakeIPI` is inside the arrays, and the invariant holds
after it.
Source: `hw/arm/apple-silicon/a13.c`
Kind: P -/
theorem a13Run_inBounds {cs : List AppleA13Cluster} {es : List A13Event}
    {r : List AppleA13Cluster × List A13Access} (h : A13Ok cs) (hack : ∀ e ∈ es, AckInRange e)
    (hr : a13Run cs es = some r) : A13Ok r.1 ∧ ∀ a ∈ r.2, a.InBounds :=
  tracedRun_invariant A13Ok A13Access.InBounds
    (fun e he _ _ hs hr => ⟨(a13Step_ok hs hr).1, (a13Step_ok hs hr).2 (hack e he)⟩) cs r h hr

/-- A core that acknowledges with the value it reads from `IPI_SR` acknowledges in range:
delivery only stores a source slot there, and the invariant carries that over every run.
Source: `hw/arm/apple-silicon/a13.c` `apple_a13_ipi_read_sr`, `apple_a13_ipi_write_sr`
Kind: L -/
theorem ackInRange_of_ipiSr {cs : List AppleA13Cluster} {cl me : ℕ} {t : AppleA13State}
    (h : A13Ok cs) (hcpu : appleA13Cpu cs cl me = some t) : AckInRange (.writeSr cl me t.ipiSr) := by
  obtain ⟨-, -, -, hcore⟩ := appleA13Cpu_ok h hcpu
  exact hcore.src_lt

/-! ## An acknowledgement with a source field past the arrays -/

/-- A no-wake acknowledgement whose source field is `A13_MAX_CPU` or more is performed: it clears
the word of `noWakeIPI[src][self]`, which lies past both matrices, and nothing in the source stops
it.
Source: `hw/arm/apple-silicon/a13.c` `apple_a13_ipi_write_sr`
Kind: P -/
theorem apple_a13_ipi_sr_ack_writes_outside_matrices (cs : List AppleA13Cluster) (h : A13Ok cs)
    (cl me : ℕ) (acpu : AppleA13State) (value : UInt64) (hcpu : appleA13Cpu cs cl me = some acpu)
    (hty : value &&& IPI_RR_TYPE_MASK = IPI_RR_TYPE_NOWAKE)
    (hsrc : A13_MAX_CPU ≤ (IPI_SR_SRC_CPU value).toNat) :
    ∃ c c', appleA13FindCluster cs cl = some c ∧
      a13Step cs (.writeSr cl me value) =
        some (setCluster cs c', [.ipi .noWakeIPI (IPI_SR_SRC_CPU value).toNat me]) ∧
      ¬ (A13Access.ipi .noWakeIPI (IPI_SR_SRC_CPU value).toNat me).InBounds ∧
      c'.words = Function.update c.words
        (IpiMatrix.noWakeIPI.word (IPI_SR_SRC_CPU value).toNat me) 0 ∧
      2 * (A13_MAX_CPU * A13_MAX_CPU) ≤ IpiMatrix.noWakeIPI.word (IPI_SR_SRC_CPU value).toNat me := by
  obtain ⟨c, hc, -, hcore⟩ := appleA13Cpu_ok h hcpu
  have hfind : appleA13FindCluster cs acpu.clusterId.toNat = some c := by
    rw [hcore.clusterId_eq]
    exact hc
  refine ⟨c, (c.setCpu me { acpu with ipiSr := 0, fastIpi := false }).setIpi .noWakeIPI
    (IPI_SR_SRC_CPU value).toNat me 0, hc, ?_, fun hin => absurd hin.1 (Nat.not_lt.mpr hsrc), rfl, ?_⟩
  · simp only [a13Step, hcpu, Option.bind_some, appleA13IpiWriteSr, hfind, hcore.cpuId_eq,
      if_pos hty, Option.map_some]
  · simp only [IpiMatrix.word, A13_MAX_CPU] at hsrc ⊢
    omega

/-- Core 0 of cluster 0, with nothing pending. -/
def idleCore0 : AppleA13State := ⟨0, 0, 0, 0, false, false, false⟩

/-- A cluster `0` whose only core is `idleCore0`, in slot `0`. -/
def oneCoreCluster : AppleA13Cluster :=
  ⟨0, fun i => if i = 0 then some idleCore0 else none, fun _ => 0⟩

theorem oneCoreCluster_ok : A13Ok [oneCoreCluster] := by
  intro c hc i t ht
  rw [List.mem_singleton.mp hc] at ht ⊢
  simp only [oneCoreCluster] at ht
  split at ht
  · next hi =>
    cases ht
    subst hi
    exact ⟨by decide, rfl, rfl, by decide⟩
  · cases ht

/-- Core 0 acknowledging with `0x3000FF00` (no-wake, source field `0xFF`) clears word
`36 + 6 * 255` from `deferredIPI`, past the end of `AppleA13Cluster`.
Source: `hw/arm/apple-silicon/a13.c` `apple_a13_ipi_write_sr`
Kind: P -/
theorem apple_a13_ipi_sr_ack_writes_outside_matrices_src_ff :
    (IPI_SR_SRC_CPU 0x3000FF00).toNat = 255 ∧
      APPLE_A13_CLUSTER_TAIL_WORDS ≤ IpiMatrix.noWakeIPI.word 255 0 ∧
      ∃ c c', appleA13FindCluster [oneCoreCluster] 0 = some c ∧
        a13Step [oneCoreCluster] (.writeSr 0 0 0x3000FF00) =
          some (setCluster [oneCoreCluster] c', [.ipi .noWakeIPI (IPI_SR_SRC_CPU 0x3000FF00).toNat 0]) ∧
        ¬ (A13Access.ipi .noWakeIPI (IPI_SR_SRC_CPU 0x3000FF00).toNat 0).InBounds ∧
        c'.words = Function.update c.words
          (IpiMatrix.noWakeIPI.word (IPI_SR_SRC_CPU 0x3000FF00).toNat 0) 0 ∧
        2 * (A13_MAX_CPU * A13_MAX_CPU) ≤
          IpiMatrix.noWakeIPI.word (IPI_SR_SRC_CPU 0x3000FF00).toNat 0 :=
  ⟨by decide, by decide,
    apple_a13_ipi_sr_ack_writes_outside_matrices [oneCoreCluster] oneCoreCluster_ok 0 0 idleCore0
      0x3000FF00 rfl (by decide) (by decide)⟩

end QemuAppleSilicon.Arm
