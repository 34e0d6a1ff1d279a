import QemuAppleSilicon.Arm.A13

/-!
# Delivery of pending fast IPIs (`hw/arm/apple-silicon/a13.c`)

A core's `IPI_SR` holds one pending IPI. `apple_a13_cluster_deliver_ipi` writes it only when it
is `0` and otherwise drops the IPI it was given (`appleA13ClusterDeliverIpi_of_pending`), and only
the core's own acknowledgement clears it. So every handler and every tick keeps a pending
`IPI_SR`, field for field, until its core writes `IPI_SR` (`a13Run_pending`): an IMMEDIATE
request to a core with nothing pending stays in its `IPI_SR` until that core acknowledges, and one
to a core with something pending is absorbed by what is there.

A deferred request `deferredIPI[i][j]` stays set until `j` acknowledges a DEFERRED IPI naming
`i` or `i` retracts it. The tick scans the sources in order from `0` and delivers, for each, to
its first ready target only, and a delivery to a core with a pending `IPI_SR` is dropped. A source
below `i` that asks again for `j` before every tick takes `j`'s `IPI_SR` at every tick, and the
request of `i` is never delivered, however many ticks pass (`apple_a13_deferred_ipi_starved`).
-/

namespace QemuAppleSilicon.Arm

open QemuAppleSilicon.Lib

/-! ## Updates of a cluster -/

namespace AppleA13Cluster

@[simp] theorem setCpu_clusterId (c : AppleA13Cluster) (i : ℕ) (t : AppleA13State) :
    (c.setCpu i t).clusterId = c.clusterId := rfl

@[simp] theorem setIpi_clusterId (c : AppleA13Cluster) (m : IpiMatrix) (i j : ℕ) (v : UInt32) :
    (c.setIpi m i j v).clusterId = c.clusterId := rfl

@[simp] theorem setIpi_cpus (c : AppleA13Cluster) (m : IpiMatrix) (i j : ℕ) (v : UInt32) :
    (c.setIpi m i j v).cpus = c.cpus := rfl

theorem setCpu_cpus_of_ne (c : AppleA13Cluster) {i k : ℕ} (h : k ≠ i) (t : AppleA13State) :
    (c.setCpu i t).cpus k = c.cpus k :=
  Function.update_of_ne h _ _

theorem setCpu_setCpu (c : AppleA13Cluster) (i : ℕ) (t t' : AppleA13State) :
    (c.setCpu i t).setCpu i t' = c.setCpu i t' := by
  simp only [setCpu, Function.update_idem]

theorem setIpi_setCpu (c : AppleA13Cluster) (m : IpiMatrix) (i j : ℕ) (v : UInt32) (k : ℕ)
    (t : AppleA13State) : (c.setIpi m i j v).setCpu k t = (c.setCpu k t).setIpi m i j v := rfl

theorem setIpi_setIpi (c : AppleA13Cluster) (m : IpiMatrix) (i j : ℕ) (v v' : UInt32) :
    (c.setIpi m i j v).setIpi m i j v' = c.setIpi m i j v' := by
  simp only [setIpi, Function.update_idem]

theorem setCpu_of_eq {c : AppleA13Cluster} {i : ℕ} {t : AppleA13State} (h : c.cpus i = some t) :
    c.setCpu i t = c := by
  simp only [setCpu, ← h, Function.update_eq_self]

theorem setIpi_of_eq {c : AppleA13Cluster} {m : IpiMatrix} {i j : ℕ} {v : UInt32}
    (h : c.ipi m i j = v) : c.setIpi m i j v = c := by
  simp only [setIpi, ← h, ipi, Function.update_eq_self]

end AppleA13Cluster

/-- The core in slot `k` of the first cluster of a list, or the lookup in the rest.
Source: `hw/arm/apple-silicon/a13.c` `apple_a13_find_cluster`
Kind: L -/
theorem appleA13Cpu_cons (c : AppleA13Cluster) (cs : List AppleA13Cluster) (cl k : ℕ) :
    appleA13Cpu (c :: cs) cl k = if c.clusterId = cl then c.cpus k else appleA13Cpu cs cl k := by
  unfold appleA13Cpu appleA13FindCluster
  rw [List.find?_cons]
  by_cases h : c.clusterId = cl <;> simp [h]

/-- Source: `hw/arm/apple-silicon/a13.c` `apple_a13_find_cluster`. Kind: L -/
theorem appleA13FindCluster_setCluster_of_ne {cs : List AppleA13Cluster} {c' : AppleA13Cluster}
    {cl : ℕ} (h : c'.clusterId ≠ cl) :
    appleA13FindCluster (setCluster cs c') cl = appleA13FindCluster cs cl := by
  induction cs with
  | nil => rfl
  | cons c cs ih =>
    unfold setCluster
    split
    · next hc =>
      have hne : c.clusterId ≠ cl := hc ▸ h
      simp [appleA13FindCluster, hne, h]
    · simp only [appleA13FindCluster, List.find?_cons] at ih ⊢
      split <;> simp [ih]

/-- Source: `hw/arm/apple-silicon/a13.c` `apple_a13_find_cluster`. Kind: L -/
theorem appleA13FindCluster_setCluster_self {cs : List AppleA13Cluster} {c c' : AppleA13Cluster}
    (h : appleA13FindCluster cs c'.clusterId = some c) :
    appleA13FindCluster (setCluster cs c') c'.clusterId = some c' := by
  induction cs with
  | nil => cases h
  | cons c₀ cs ih =>
    unfold setCluster
    split
    · simp [appleA13FindCluster]
    · next hc =>
      simp only [appleA13FindCluster, List.find?_cons, hc, decide_false] at h ih ⊢
      exact ih h

/-- Writing back a cluster through the pointer `apple_a13_find_cluster` gave keeps every core the
new cluster keeps in its slot, and every core of the other clusters.
Source: `hw/arm/apple-silicon/a13.c` `apple_a13_find_cluster`
Kind: L -/
theorem appleA13Cpu_setCluster {cs : List AppleA13Cluster} {c c' : AppleA13Cluster} {cl k : ℕ}
    {t : AppleA13State} (hc : appleA13FindCluster cs c.clusterId = some c)
    (hid : c'.clusterId = c.clusterId) (hk : cl = c.clusterId → c.cpus k = some t → c'.cpus k = some t)
    (ht : appleA13Cpu cs cl k = some t) : appleA13Cpu (setCluster cs c') cl k = some t := by
  by_cases hcl : cl = c.clusterId
  · subst hcl
    rw [appleA13Cpu, hc, Option.bind_some] at ht
    rw [appleA13Cpu, ← hid, appleA13FindCluster_setCluster_self (hid ▸ hc), Option.bind_some]
    exact hk rfl ht
  · rw [appleA13Cpu, appleA13FindCluster_setCluster_of_ne (hid ▸ Ne.symm hcl)]
    exact ht

/-! ## A pending `IPI_SR` is kept -/

/-- `c'` has the id of `c`, and every core of `c` with a pending `IPI_SR` is in `c'` as it was.
Source: `hw/arm/apple-silicon/a13.c` `apple_a13_cluster_deliver_ipi`
Kind: D -/
structure KeepsPending (c c' : AppleA13Cluster) : Prop where
  clusterId_eq : c'.clusterId = c.clusterId
  cpus_eq : ∀ k t, c.cpus k = some t → t.ipiSr ≠ 0 → c'.cpus k = some t

theorem KeepsPending.refl (c : AppleA13Cluster) : KeepsPending c c := ⟨rfl, fun _ _ h _ => h⟩

theorem KeepsPending.trans {c c' c'' : AppleA13Cluster} (h₁ : KeepsPending c c')
    (h₂ : KeepsPending c' c'') : KeepsPending c c'' :=
  ⟨h₂.clusterId_eq.trans h₁.clusterId_eq, fun k t ht hp => h₂.cpus_eq k t (h₁.cpus_eq k t ht hp) hp⟩

/-- A delivery to a core with a pending `IPI_SR` is dropped: the cluster is unchanged.
Source: `hw/arm/apple-silicon/a13.c` `apple_a13_cluster_deliver_ipi`
Kind: L -/
theorem appleA13ClusterDeliverIpi_of_pending {c : AppleA13Cluster} {k : ℕ} {t : AppleA13State}
    (ht : c.cpus k = some t) (hp : t.ipiSr ≠ 0) (src flag : UInt64) :
    appleA13ClusterDeliverIpi c k src flag = some (c, [.cpus k]) := by
  simp [appleA13ClusterDeliverIpi, ht, hp]

/-- Source: `hw/arm/apple-silicon/a13.c` `apple_a13_cluster_deliver_ipi`. Kind: L -/
theorem appleA13ClusterDeliverIpi_keepsPending {c : AppleA13Cluster} {k : ℕ} {src flag : UInt64}
    {r : AppleA13Cluster × List A13Access} (hd : appleA13ClusterDeliverIpi c k src flag = some r) :
    KeepsPending c r.1 := by
  obtain ⟨t, ht, rfl⟩ := Option.map_eq_some_iff.mp hd
  split
  · exact .refl c
  · next h0 =>
    refine ⟨rfl, fun k' t' ht' hp => ?_⟩
    -- the slot written had nothing pending, so a pending core is in another slot
    have hk : k' ≠ k := by
      rintro rfl
      rw [ht] at ht'
      cases ht'
      exact h0 hp
    rw [AppleA13Cluster.setCpu_cpus_of_ne c hk]
    exact ht'

/-- Source: `hw/arm/apple-silicon/a13.c` `apple_a13_ipi_rr_local`. Kind: L -/
theorem appleA13IpiRr_keepsPending {c : AppleA13Cluster} {senderId physId : UInt32}
    {value : UInt64} {r : AppleA13Cluster × List A13Access}
    (hr : appleA13IpiRr c senderId physId value = some r) : KeepsPending c r.1 := by
  rcases appleA13IpiRr_cases hr with rfl | ⟨k, -, ⟨m, v, rfl⟩ | rfl | ⟨r', hd, rfl⟩⟩
  · exact .refl c
  · exact ⟨rfl, fun _ _ ht _ => ht⟩
  · exact ⟨rfl, fun _ _ ht _ => ht⟩
  · exact appleA13ClusterDeliverIpi_keepsPending (r := r') hd

/-- Source: `hw/arm/apple-silicon/a13.c` `apple_a13_cluster_tick`. Kind: L -/
theorem tickRow_keepsPending {m : IpiMatrix} {ready : AppleA13State → Bool} {flag : UInt64}
    {i : ℕ} {c : AppleA13Cluster} {r : AppleA13Cluster × List A13Access}
    (hr : tickRow m ready flag i c = some r) : KeepsPending c r.1 := by
  unfold tickRow at hr
  dsimp only at hr
  split at hr
  · cases hr
    exact .refl c
  · obtain ⟨r', hd, rfl⟩ := Option.map_eq_some_iff.mp hr
    exact appleA13ClusterDeliverIpi_keepsPending (r := r') hd

/-- The rows of a loop of the tick, one after the other, by the invariant rule of `tracedRun`.
Source: `hw/arm/apple-silicon/a13.c` `apple_a13_cluster_tick`
Kind: L -/
theorem tickLoop_keepsPending {m : IpiMatrix} {ready : AppleA13State → Bool} {flag : UInt64}
    {c : AppleA13Cluster} {r : AppleA13Cluster × List A13Access}
    (hr : tickLoop m ready flag c = some r) : KeepsPending c r.1 :=
  (tracedRun_invariant (KeepsPending c) (fun _ : A13Access => True)
    (fun _ _ _ _ hs hrow => ⟨hs.trans (tickRow_keepsPending hrow), fun _ _ => trivial⟩)
    c r (.refl c) hr).1

/-- Source: `hw/arm/apple-silicon/a13.c` `apple_a13_cluster_tick`. Kind: L -/
theorem appleA13ClusterTick_keepsPending {c : AppleA13Cluster} {r : AppleA13Cluster × List A13Access}
    (hr : appleA13ClusterTick c = some r) : KeepsPending c r.1 := by
  obtain ⟨r₁, h₁, hr⟩ := Option.bind_eq_some_iff.mp hr
  obtain ⟨r₂, h₂, rfl⟩ := Option.map_eq_some_iff.mp hr
  exact (tickLoop_keepsPending h₁).trans (tickLoop_keepsPending (r := r₂) h₂)

/-- A tick of every cluster keeps each pending core where it was.
Source: `hw/arm/apple-silicon/a13.c` `apple_a13_cluster_ipicr_tick`
Kind: L -/
theorem appleA13ClusterIpicrTick_pending {cs : List AppleA13Cluster}
    {r : List AppleA13Cluster × List A13Access} (hr : appleA13ClusterIpicrTick cs = some r)
    {cl k : ℕ} {t : AppleA13State} (ht : appleA13Cpu cs cl k = some t) (hp : t.ipiSr ≠ 0) :
    appleA13Cpu r.1 cl k = some t := by
  induction cs generalizing r with
  | nil => cases ht
  | cons c cs ih =>
    obtain ⟨r₁, h₁, hr⟩ := Option.bind_eq_some_iff.mp hr
    obtain ⟨r₂, h₂, rfl⟩ := Option.map_eq_some_iff.mp hr
    have hk := appleA13ClusterTick_keepsPending h₁
    -- the ticked cluster keeps its id, so the lookup takes the same branch
    rw [appleA13Cpu_cons] at ht ⊢
    rw [hk.clusterId_eq]
    split_ifs at ht ⊢
    · exact hk.cpus_eq k t ht hp
    · exact ih h₂ ht

/-- Every event but the acknowledgement of core `j` of cluster `cl` itself keeps that core, when
its `IPI_SR` is pending.
Source: `hw/arm/apple-silicon/a13.c`
Kind: L -/
theorem a13Step_pending {cs : List AppleA13Cluster} {e : A13Event}
    {r : List AppleA13Cluster × List A13Access} (h : A13Ok cs) (hs : a13Step cs e = some r)
    {cl j : ℕ} {t : AppleA13State} (ht : appleA13Cpu cs cl j = some t) (hp : t.ipiSr ≠ 0)
    (he : ∀ v, e ≠ .writeSr cl j v) : appleA13Cpu r.1 cl j = some t := by
  -- a sender writes back the cluster it looked up, with every pending core kept
  have hsend : ∀ c c' : AppleA13Cluster, ∀ id, appleA13FindCluster cs id = some c →
      KeepsPending c c' → appleA13Cpu (setCluster cs c') cl j = some t := by
    intro c c' id hc hk
    have hself : appleA13FindCluster cs c.clusterId = some c :=
      (appleA13FindCluster_eq_some hc).2 ▸ hc
    exact appleA13Cpu_setCluster hself hk.clusterId_eq (fun _ htc => hk.cpus_eq j t htc hp) ht
  cases e with
  | rrLocal cl' me value =>
    obtain ⟨acpu, -, hr⟩ := Option.bind_eq_some_iff.mp hs
    obtain ⟨c, hc, hr⟩ := Option.bind_eq_some_iff.mp hr
    obtain ⟨r', hr', rfl⟩ := Option.map_eq_some_iff.mp hr
    exact hsend c r'.1 _ hc (appleA13IpiRr_keepsPending hr')
  | rrGlobal cl' me value =>
    obtain ⟨acpu, -, hr⟩ := Option.bind_eq_some_iff.mp hs
    unfold appleA13IpiRrGlobal at hr
    dsimp only at hr
    split at hr
    · cases hr
      exact ht
    · next c hc =>
      obtain ⟨r', hr', rfl⟩ := Option.map_eq_some_iff.mp hr
      exact hsend c r'.1 _ hc (appleA13IpiRr_keepsPending hr')
  | writeSr cl' me value =>
    obtain ⟨acpu, hcpu, hr⟩ := Option.bind_eq_some_iff.mp hs
    obtain ⟨c, hc, -, hid, hcases⟩ := appleA13IpiWriteSr_cases h hcpu hr
    have hself : appleA13FindCluster cs c.clusterId = some c := hid ▸ hc
    -- in the acknowledging core's own cluster, `j` is another slot, which the clearing keeps
    have hframe : ∀ x, cl = c.clusterId → c.cpus j = some t → (c.setCpu me x).cpus j = some t := by
      intro x hcl htc
      have hj : j ≠ me := by
        rintro rfl
        exact he value (by rw [hcl, hid])
      rw [AppleA13Cluster.setCpu_cpus_of_ne c hj]
      exact htc
    rcases hcases with ⟨m, rfl⟩ | rfl
    · exact appleA13Cpu_setCluster hself rfl (hframe _) ht
    · exact appleA13Cpu_setCluster hself rfl (hframe _) ht
  | tick => exact appleA13ClusterIpicrTick_pending hs ht hp

/-- Over any run in which core `j` of cluster `cl` does not write `IPI_SR`, its pending `IPI_SR`,
its line and the rest of it stay as they were: no IPI sent to it in the meantime, immediate or
delivered by a tick, replaces what is pending.
Source: `hw/arm/apple-silicon/a13.c`
Kind: P -/
theorem a13Run_pending {cs : List AppleA13Cluster} {es : List A13Event}
    {r : List AppleA13Cluster × List A13Access} (h : A13Ok cs) (hr : a13Run cs es = some r)
    {cl j : ℕ} {t : AppleA13State} (ht : appleA13Cpu cs cl j = some t) (hp : t.ipiSr ≠ 0)
    (he : ∀ v, A13Event.writeSr cl j v ∉ es) : appleA13Cpu r.1 cl j = some t :=
  (tracedRun_invariant (fun cs => A13Ok cs ∧ appleA13Cpu cs cl j = some t)
    (fun _ : A13Access => True)
    (fun _ hmem _ _ hs hstep => ⟨⟨(a13Step_ok hs.1 hstep).1,
      a13Step_pending hs.1 hstep hs.2 hp fun v hv => he v (hv ▸ hmem)⟩, fun _ _ => trivial⟩)
    cs r ⟨h, ht⟩ hr).1.2

/-! ## A deferred request that is never delivered -/

/-- Core `i` of cluster `0`: in slot `i`, with `phys_id` `i`, awake and powered on, nothing
pending. -/
def starveCore (i : UInt32) : AppleA13State := ⟨i, i, 0, 0, false, false, false⟩

/-- Cluster `0` with cores `0`, `1` and `2`, and a deferred request of core `1` for core `2`
pending. -/
def starveCluster : AppleA13Cluster :=
  ⟨0, fun i => if i < 3 then some (starveCore (UInt32.ofNat i)) else none,
    fun w => if w = IpiMatrix.deferredIPI.word 1 2 then 1 else 0⟩

theorem starveCluster_ok : A13Ok [starveCluster] := by
  intro c hc i t ht
  rw [List.mem_singleton.mp hc] at ht ⊢
  simp only [starveCluster] at ht
  split at ht
  · next hi =>
    cases ht
    have hi' : (UInt32.ofNat i).toNat = i := UInt32.toNat_ofNat_of_lt' (Nat.lt_of_lt_of_le hi (by decide))
    exact ⟨by unfold A13_MAX_CPU; omega, hi', rfl, by show (IPI_SR_SRC_CPU 0).toNat < A13_MAX_CPU; decide⟩
  · cases ht

/-- The value core `2` reads from `IPI_SR` once core `0`'s deferred IPI has reached it, and
writes back to acknowledge it.
Source: `hw/arm/apple-silicon/a13.c` `apple_a13_cluster_deliver_ipi`
Kind: D -/
def starveAck : UInt64 := 1 ||| ((0 : UInt64) <<< IPI_SR_SRC_CPU_SHIFT) ||| IPI_RR_TYPE_DEFERRED

/-- One period: core `0` asks for a deferred IPI to core `2` (`phys_id` `2`), the timer fires,
and core `2` acknowledges what it reads. -/
def starveCycle : List A13Event :=
  [.rrLocal 0 0 (IPI_RR_TYPE_DEFERRED ||| 2), .tick, .writeSr 0 2 starveAck]

/-- The cluster after the first `m` events of a period: core `0`'s request set, then core `2`
holding core `0`'s IPI, then back at the start. -/
def starveState : ℕ → AppleA13Cluster
  | 1 => starveCluster.setIpi .deferredIPI 0 2 1
  | 2 => (starveCluster.setIpi .deferredIPI 0 2 1).setCpu 2
    { starveCore 2 with ipiSr := starveAck, fastIpi := true }
  | _ => starveCluster

/-- Every prefix of a period runs through `starveState`; the whole period comes back to
`starveCluster`: the acknowledgement clears core `2`'s `IPI_SR` and core `0`'s request, and
leaves core `1`'s.
Source: `hw/arm/apple-silicon/a13.c` `apple_a13_ipi_rr_local`, `apple_a13_cluster_tick`,
`apple_a13_ipi_write_sr`
Kind: L -/
theorem a13Run_starveCycle_take (m : Fin 4) :
    ∃ acc, a13Run [starveCluster] (starveCycle.take m) = some ([starveState m], acc) := by
  have hback : ((starveState 2).setCpu 2 (starveCore 2)).setIpi .deferredIPI 0 2 0 = starveCluster := by
    rw [starveState, AppleA13Cluster.setCpu_setCpu, AppleA13Cluster.setIpi_setCpu,
      AppleA13Cluster.setIpi_setIpi,
      AppleA13Cluster.setCpu_of_eq (c := starveCluster) (i := 2) (t := starveCore 2) rfl,
      AppleA13Cluster.setIpi_of_eq (c := starveCluster) (m := .deferredIPI) (i := 0) (j := 2)
        (v := 0) rfl]
  obtain ⟨m, hm⟩ := m
  match m, hm with
  | 0, _ => exact ⟨_, rfl⟩
  | 1, _ => exact ⟨_, rfl⟩
  | 2, _ => exact ⟨_, rfl⟩
  | 3, _ =>
    obtain ⟨acc, hacc⟩ : ∃ acc, a13Run [starveCluster] starveCycle =
        some ([((starveState 2).setCpu 2 (starveCore 2)).setIpi .deferredIPI 0 2 0], acc) :=
      ⟨_, rfl⟩
    rw [hback] at hacc
    exact ⟨acc, hacc⟩
  | k + 4, h => exact absurd h (by omega)

/-- A whole period comes back to `starveCluster`.
Source: `hw/arm/apple-silicon/a13.c`
Kind: L -/
theorem a13Run_starveCycle : ∃ acc, a13Run [starveCluster] starveCycle = some ([starveCluster], acc) :=
  a13Run_starveCycle_take 3

/-- Any number of whole periods comes back to `starveCluster`.
Source: `hw/arm/apple-silicon/a13.c`
Kind: L -/
theorem a13Run_starveCycle_replicate (n : ℕ) :
    ∃ acc, a13Run [starveCluster] (List.replicate n starveCycle).flatten = some ([starveCluster], acc) := by
  induction n with
  | zero => exact ⟨[], rfl⟩
  | succ n ih =>
    obtain ⟨acc, hacc⟩ := ih
    obtain ⟨acc', hacc'⟩ := a13Run_starveCycle
    refine ⟨acc ++ acc', ?_⟩
    rw [List.replicate_succ', List.flatten_append, List.flatten_singleton]
    unfold a13Run at hacc hacc' ⊢
    rw [tracedRun_append, hacc, Option.bind_some, hacc', Option.map_some]

/-- Core `1` asks for a deferred IPI to core `2`, which is powered on and acknowledges each IPI
with the `IPI_SR` value it reads, and core `1` never retracts. Core `0` asks for a deferred IPI to
core `2` again before every tick. After any number of periods and any part of the next, core `1`'s
request is still pending, and core `2`'s `IPI_SR` holds nothing or core `0`'s IPI: the tick
delivers core `0`'s IPI first, drops core `1`'s, and core `2`'s acknowledgement clears only core
`0`'s request.
Source: `hw/arm/apple-silicon/a13.c` `apple_a13_cluster_tick`, `apple_a13_cluster_deliver_ipi`,
`apple_a13_ipi_write_sr`
Kind: P -/
theorem apple_a13_deferred_ipi_starved (n : ℕ) (m : Fin 4) :
    A13Ok [starveCluster] ∧
      ∃ r, a13Run [starveCluster] ((List.replicate n starveCycle).flatten ++ starveCycle.take m) =
          some r ∧
        ∃ c t, appleA13FindCluster r.1 0 = some c ∧ c.cpus 2 = some t ∧
          c.ipi .deferredIPI 1 2 = 1 ∧ t.poweredOff = false ∧
          t.ipiSr = (if (m : ℕ) = 2 then starveAck else 0) ∧ IPI_SR_SRC_CPU t.ipiSr ≠ 1 := by
  obtain ⟨acc, hacc⟩ := a13Run_starveCycle_replicate n
  obtain ⟨acc', hacc'⟩ := a13Run_starveCycle_take m
  refine ⟨starveCluster_ok, ([starveState m], acc ++ acc'), ?_, ?_⟩
  · simp only [a13Run] at hacc hacc' ⊢
    rw [tracedRun_append, hacc, Option.bind_some, hacc', Option.map_some]
  · obtain ⟨m, hm⟩ := m
    match m, hm with
    | 0, _ | 1, _ | 2, _ | 3, _ => exact ⟨_, _, rfl, rfl, rfl, rfl, rfl, by decide⟩
    | k + 4, h => exact absurd h (by omega)

/-- After one period and the request and tick of the next, core `2` holds core `0`'s deferred IPI
and core `1`'s request is still pending.
Source: `hw/arm/apple-silicon/a13.c` `apple_a13_cluster_tick`
Kind: P -/
theorem apple_a13_deferred_ipi_starved_second_tick :
    A13Ok [starveCluster] ∧
      ∃ r, a13Run [starveCluster] ((List.replicate 1 starveCycle).flatten ++ starveCycle.take 2) =
          some r ∧
        ∃ c t, appleA13FindCluster r.1 0 = some c ∧ c.cpus 2 = some t ∧
          c.ipi .deferredIPI 1 2 = 1 ∧ t.poweredOff = false ∧
          t.ipiSr = (if ((2 : Fin 4) : ℕ) = 2 then starveAck else 0) ∧ IPI_SR_SRC_CPU t.ipiSr ≠ 1 :=
  apple_a13_deferred_ipi_starved 1 2

end QemuAppleSilicon.Arm
