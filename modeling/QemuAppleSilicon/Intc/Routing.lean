import QemuAppleSilicon.Intc.Aic

/-!
# Which CPUs `apple_aic_update` interrupts

* `bit_ipiIntr` — the IPI loop chooses exactly the CPUs with an unmasked pending self IPI or
  with normal IPIs unmasked and one pending; the routing loop only adds CPUs
  (`intr_appleAicRouting_mono`), so every such CPU is raised (`appleAicUpdate_raises_ipi`).
* `RouteInv` — what the routing loop keeps: every CPU chosen can take something, and every CPU
  in `potential` is in the destination of a pending unmasked source. So an `IACK` read by a CPU
  the update raised is never spurious (`appleAicUpdate_iack_ne_spurious`).
* `CoverInv` — when every pending unmasked source with a destination names a CPU that exists,
  every CPU chosen exists and every such source has a chosen CPU in its destination
  (`appleAicUpdate_covers`).
* `appleAicUpdate_starves_source` — without that condition a source can be left with no CPU: a
  first source whose destination names only CPU `numCPU` has `find_first_bit32` answer `numCPU`,
  which is no CPU; a second source that names CPU 0 and CPU `numCPU` then finds CPU `numCPU`
  chosen and nothing in `potential`, and CPU 0 is not raised.
-/

namespace QemuAppleSilicon.Intc

open QemuAppleSilicon.Lib QemuAppleSilicon.Qemu AppleAICState

/-! ## Bits of CPUs -/

/-- The bit of CPU `i < 32` is `i` alone. -/
theorem bit_cpuBit {i k : ℕ} (hi : i < 32) : Bit (cpuBit i) k ↔ k = i :=
  bit_one_shiftLeft hi

/-- A word meets the bit of CPU `k < 32` exactly when bit `k` is set. -/
theorem and_cpuBit_ne_zero {x : UInt32} {k : ℕ} (hk : k < 32) : x &&& cpuBit k ≠ 0 ↔ Bit x k := by
  rw [Ne, cpuBit, and_one_shiftLeft_eq_zero hk, not_not]

/-- The lowest bit of the bit of CPU `n < 32` is `n`. -/
theorem ctz32_cpuBit {n : ℕ} (hn : n < 32) : ctz32 (cpuBit n) = n := by
  have hne : cpuBit n ≠ 0 := by
    intro h
    have hbit := (bit_cpuBit hn (k := n)).mpr rfl
    rw [h] at hbit
    exact bit_zero n hbit
  exact (bit_cpuBit hn).mp (ctz32_spec hne).2.1

/-! ## The merge of the deferred IPIs -/

/-- The merge changes only the CPUs' IPI registers. -/
@[simp] theorem numCPU_mergeDeferred (s : AppleAICState) : (mergeDeferred s).numCPU = s.numCPU :=
  rfl

@[simp] theorem eirMask_mergeDeferred (s : AppleAICState) : (mergeDeferred s).eirMask = s.eirMask :=
  rfl

@[simp] theorem eirDest_mergeDeferred (s : AppleAICState) : (mergeDeferred s).eirDest = s.eirDest :=
  rfl

@[simp] theorem pendingSources_mergeDeferred (s : AppleAICState) :
    (mergeDeferred s).pendingSources = s.pendingSources :=
  rfl

/-! ## The IPI loop -/

/-- One CPU of the IPI loop adds its bit when it has an IPI to take. -/
theorem bit_ipiIntrStep (s : AppleAICState) (intr : UInt32) {i : ℕ} (hi : i < 32) (k : ℕ) :
    Bit (ipiIntrStep s intr i) k ↔ Bit intr k ∨ (k = i ∧
      (selfIpiPending (s.cpus i) = true ∨ normalIpiPending s.numCPU (s.cpus i) = true)) := by
  unfold ipiIntrStep
  by_cases hself : selfIpiPending (s.cpus i) = true <;>
    by_cases hnorm : normalIpiPending s.numCPU (s.cpus i) = true <;>
    simp [hself, hnorm, bit_cpuBit hi]

/-- The IPI loop over a list of CPUs below 32 adds the bits of those with an IPI to take. By
induction on the list. -/
theorem bit_foldl_ipiIntrStep (s : AppleAICState) :
    ∀ (L : List ℕ) (acc : UInt32), (∀ i ∈ L, i < 32) → ∀ k,
      (Bit (L.foldl (ipiIntrStep s) acc) k ↔ Bit acc k ∨ (k ∈ L ∧
        (selfIpiPending (s.cpus k) = true ∨ normalIpiPending s.numCPU (s.cpus k) = true)))
  | [], acc, _, k => by simp
  | i :: L, acc, hlt, k => by
    rw [List.foldl_cons, bit_foldl_ipiIntrStep s L _ (fun j hj => hlt j (List.mem_cons_of_mem i hj)),
      bit_ipiIntrStep s acc (hlt i List.mem_cons_self)]
    constructor
    · rintro ((h | ⟨rfl, hipi⟩) | ⟨hk, hipi⟩)
      · exact Or.inl h
      · exact Or.inr ⟨List.mem_cons_self, hipi⟩
      · exact Or.inr ⟨List.mem_cons_of_mem _ hk, hipi⟩
    · rintro (h | ⟨hk, hipi⟩)
      · exact Or.inl (Or.inl h)
      · rcases List.mem_cons.mp hk with rfl | hk
        · exact Or.inl (Or.inr ⟨rfl, hipi⟩)
        · exact Or.inr ⟨hk, hipi⟩

/-- **The IPI loop** chooses exactly the CPUs with an IPI to take.
Source: `hw/intc/apple_aic.c` `apple_aic_update`
Kind: L -/
theorem bit_ipiIntr (s : AppleAICState) (k : ℕ) :
    Bit (ipiIntr s) k ↔ k < s.numCPU ∧
      (selfIpiPending (s.cpus k) = true ∨ normalIpiPending s.numCPU (s.cpus k) = true) := by
  rw [ipiIntr, bit_foldl_ipiIntrStep s _ 0
    (fun i hi => lt_trans (List.mem_range.mp hi) s.numCPU_lt), List.mem_range]
  simp

/-! ## One source of the routing loop -/

/-- **Everything one source can do** to the accumulators: nothing when it is masked or has no
destination; when no CPU chosen is in its destination, choose the CPU `find_first_bit32` gives
and add the destination to `potential`; otherwise choose the spare CPU, if there is one.
Source: `hw/intc/apple_aic.c` `apple_aic_update`
Kind: L -/
theorem appleAicRouteSource_cases (s : AppleAICState) (r : AicRouting) (i : ℕ) :
    (¬ (testBit32 i s.eirMask = false ∧ s.eirDest i ≠ 0) ∧ appleAicRouteSource s r i = r) ∨
    (testBit32 i s.eirMask = false ∧ s.eirDest i ≠ 0 ∧ r.intr &&& s.eirDest i = 0 ∧
      appleAicRouteSource s r i =
        ⟨r.intr ||| cpuBit (findFirstBit32 (fun w => s.eirDest (i + w)) s.numCPU),
          r.potential ||| s.eirDest i⟩) ∨
    (testBit32 i s.eirMask = false ∧ s.eirDest i ≠ 0 ∧ r.intr &&& s.eirDest i ≠ 0 ∧
      ((spareCpu s.numCPU r = none ∧ appleAicRouteSource s r i = r) ∨
        ∃ k, spareCpu s.numCPU r = some k ∧
          appleAicRouteSource s r i = { r with intr := r.intr ||| cpuBit k })) := by
  by_cases hroute : testBit32 i s.eirMask = false ∧ s.eirDest i ≠ 0
  · by_cases hfree : r.intr &&& s.eirDest i = 0
    · refine Or.inr (Or.inl ⟨hroute.1, hroute.2, hfree, ?_⟩)
      simp only [appleAicRouteSource, if_pos hroute, if_pos hfree]
    · refine Or.inr (Or.inr ⟨hroute.1, hroute.2, hfree, ?_⟩)
      cases hk : spareCpu s.numCPU r with
      | none => exact Or.inl ⟨rfl, by simp only [appleAicRouteSource, if_pos hroute, if_neg hfree, hk]⟩
      | some k => exact Or.inr ⟨k, rfl, by simp only [appleAicRouteSource, if_pos hroute, if_neg hfree, hk]⟩
  · exact Or.inl ⟨hroute, by simp only [appleAicRouteSource, if_neg hroute]⟩

/-- The spare CPU is a CPU not chosen and in `potential`. -/
theorem spareCpu_spec {n : ℕ} {r : AicRouting} {k : ℕ} (hn : n ≤ 32) (h : spareCpu n r = some k) :
    k < n ∧ ¬ Bit r.intr k ∧ Bit r.potential k := by
  obtain ⟨hp, hmem, -⟩ := List.find?_range_eq_some.mp h
  have hk : k < n := List.mem_range.mp hmem
  have hk32 : k < 32 := lt_of_lt_of_le hk hn
  simp only [Bool.and_eq_true, beq_iff_eq, bne_iff_ne] at hp
  exact ⟨hk, fun hbit => (and_cpuBit_ne_zero hk32).mpr hbit hp.1,
    (and_cpuBit_ne_zero hk32).mp hp.2⟩

/-- The CPU `find_first_bit32` gives for a source with a destination: the lowest CPU of the
destination when that exists, else `numCPU`.
Source: `hw/intc/apple_aic.c` `apple_aic_update` (`find_first_bit32(&s->eir_dest[i], s->numCPU)`)
Kind: L -/
theorem routeCpu_eq (s : AppleAICState) {i : ℕ} (hd : s.eirDest i ≠ 0) :
    findFirstBit32 (fun w => s.eirDest (i + w)) s.numCPU =
      if ctz32 (s.eirDest i) < s.numCPU then ctz32 (s.eirDest i) else s.numCPU :=
  @findFirstBit32_of_ne_zero (fun w => s.eirDest (i + w)) s.numCPU s.numCPU_pos hd

/-- The CPU `find_first_bit32` gives is at most `numCPU`. -/
theorem routeCpu_le (s : AppleAICState) {i : ℕ} (hd : s.eirDest i ≠ 0) :
    findFirstBit32 (fun w => s.eirDest (i + w)) s.numCPU ≤ s.numCPU := by
  rw [routeCpu_eq s hd]
  split_ifs with hctz
  · exact le_of_lt hctz
  · exact le_refl _

/-- The CPU `find_first_bit32` gives, when it is a CPU, is in the destination. -/
theorem bit_routeCpu (s : AppleAICState) {i : ℕ} (hd : s.eirDest i ≠ 0)
    (hlt : findFirstBit32 (fun w => s.eirDest (i + w)) s.numCPU < s.numCPU) :
    Bit (s.eirDest i) (findFirstBit32 (fun w => s.eirDest (i + w)) s.numCPU) := by
  rw [routeCpu_eq s hd] at hlt ⊢
  split_ifs at hlt ⊢ with hctz
  · exact (ctz32_spec hd).2.1
  · exact absurd hlt (lt_irrefl _)

/-- When the destination names a CPU, `find_first_bit32` gives one. -/
theorem routeCpu_lt (s : AppleAICState) {i k : ℕ} (hk : k < s.numCPU) (hbit : Bit (s.eirDest i) k) :
    findFirstBit32 (fun w => s.eirDest (i + w)) s.numCPU < s.numCPU := by
  have hd : s.eirDest i ≠ 0 := fun h => bit_zero k (h ▸ hbit)
  have hle : ctz32 (s.eirDest i) ≤ k := by
    by_contra hgt
    exact (ctz32_spec hd).2.2 k (by omega) hbit
  rw [routeCpu_eq s hd, if_pos (by omega)]
  omega

/-- Routing a source never unchooses a CPU. -/
theorem intr_appleAicRouteSource_mono (s : AppleAICState) (r : AicRouting) (i k : ℕ)
    (h : Bit r.intr k) : Bit (appleAicRouteSource s r i).intr k := by
  rcases appleAicRouteSource_cases s r i with ⟨-, hr⟩ | ⟨-, -, -, hr⟩ | ⟨-, -, -, ⟨-, hr⟩ | ⟨k', -, hr⟩⟩ <;>
    rw [hr] <;> simp [h]

/-- Routing sources one after another never unchooses a CPU. By induction on the sources. -/
theorem intr_foldl_appleAicRouteSource_mono (s : AppleAICState) {k : ℕ} :
    ∀ (L : List ℕ) (r : AicRouting), Bit r.intr k →
      Bit (L.foldl (appleAicRouteSource s) r).intr k
  | [], _, h => h
  | i :: L, r, h =>
    intr_foldl_appleAicRouteSource_mono s L _ (intr_appleAicRouteSource_mono s r i k h)

/-- The routing loop never unchooses a CPU: every CPU the IPI loop chose stays chosen. -/
theorem intr_appleAicRouting_mono (s : AppleAICState) {k : ℕ} (h : Bit (ipiIntr s) k) :
    Bit (appleAicRouting s).intr k :=
  intr_foldl_appleAicRouteSource_mono s s.pendingSources ⟨ipiIntr s, 0⟩ h

/-- The CPUs `apple_aic_update` raises: those below `numCPU` the loops chose.
Source: `hw/intc/apple_aic.c` `apple_aic_update`
Kind: L -/
theorem mem_appleAicUpdate {s : AppleAICState} {k : ℕ} :
    k ∈ (appleAicUpdate s).2 ↔ k < s.numCPU ∧ Bit (appleAicRouting (mergeDeferred s)).intr k := by
  simp only [appleAicUpdate, List.mem_filter, List.mem_range, numCPU_mergeDeferred,
    bne_iff_ne]
  constructor
  · rintro ⟨hk, hbit⟩
    exact ⟨hk, (and_cpuBit_ne_zero (lt_trans hk s.numCPU_lt)).mp hbit⟩
  · rintro ⟨hk, hbit⟩
    exact ⟨hk, (and_cpuBit_ne_zero (lt_trans hk s.numCPU_lt)).mpr hbit⟩

/-- **Every CPU with an IPI to take is raised** by `apple_aic_update`.
Source: `hw/intc/apple_aic.c` `apple_aic_update`
Kind: L -/
theorem appleAicUpdate_raises_ipi (s : AppleAICState) {k : ℕ} (hk : k < s.numCPU)
    (hipi : selfIpiPending ((appleAicUpdate s).1.cpus k) = true ∨
      normalIpiPending s.numCPU ((appleAicUpdate s).1.cpus k) = true) :
    k ∈ (appleAicUpdate s).2 :=
  mem_appleAicUpdate.mpr ⟨hk, intr_appleAicRouting_mono _ ((bit_ipiIntr _ k).mpr ⟨hk, hipi⟩)⟩

/-! ## What a raised CPU reads from `IACK` -/

/-- CPU `k` has something to take: a self IPI, a normal IPI, or a pending unmasked source whose
destination holds it.
Source: none: the condition under which `REG_AIC_IACK` is not spurious
Kind: D -/
def Takes (s : AppleAICState) (k : ℕ) : Prop :=
  selfIpiPending (s.cpus k) = true ∨ normalIpiPending s.numCPU (s.cpus k) = true ∨
    ∃ j ∈ s.pendingSources, testBit32 j s.eirMask = false ∧ Bit (s.eirDest j) k

/-- **A CPU with something to take reads it from `IACK`**: the answer is not spurious.
Source: `hw/intc/apple_aic.c` `apple_aic_read` (`REG_AIC_IACK`)
Kind: L -/
theorem appleAicIack_ne_spurious {s : AppleAICState} {k : ℕ} (h : Takes s k) :
    (appleAicIack s k).2 ≠ kAIC_INT_SPURIOUS := by
  unfold appleAicIack
  by_cases hself : selfIpiPending (s.cpus k) = true
  · rw [if_pos hself]
    show kAIC_INT_IPI ||| kAIC_INT_IPI_SELF ≠ kAIC_INT_SPURIOUS
    decide
  by_cases hnorm : normalIpiPending s.numCPU (s.cpus k) = true
  · rw [if_neg hself, if_pos hnorm]
    show kAIC_INT_IPI ||| kAIC_INT_IPI_NORM ≠ kAIC_INT_SPURIOUS
    decide
  rw [if_neg hself, if_neg hnorm]
  -- the source loop finds a source, since one qualifies
  obtain ⟨j, hj, hmask, hbit⟩ : ∃ j ∈ s.pendingSources, testBit32 j s.eirMask = false ∧
      Bit (s.eirDest j) k := by
    rcases h with h | h | h
    · exact absurd h hself
    · exact absurd h hnorm
    · exact h
  cases hfind : s.pendingSources.find? (fun i =>
      testBit32 i s.eirMask = false && s.eirDest i &&& cpuBit k != 0) with
  | none =>
    have := List.find?_eq_none.mp hfind j hj
    simp only [hmask, decide_true, Bool.true_and, bne_iff_ne, ne_eq, not_not] at this
    exact absurd this ((and_cpuBit_ne_zero (lt_of_bit hbit)).mpr hbit)
  | some i =>
    show kAIC_INT_EXT ||| AIC_INT_EXTID (UInt32.ofNat i) ≠ kAIC_INT_SPURIOUS
    intro h0
    have hbit16 : Bit (kAIC_INT_EXT ||| AIC_INT_EXTID (UInt32.ofNat i)) 16 :=
      bit_or.mpr (Or.inl (by decide))
    rw [h0] at hbit16
    exact bit_zero 16 hbit16

/-- What the routing loop keeps: every CPU chosen can take something, and every CPU in
`potential` is in the destination of a pending unmasked source. -/
structure RouteInv (s : AppleAICState) (r : AicRouting) : Prop where
  intr_takes : ∀ k < s.numCPU, Bit r.intr k → Takes s k
  potential_dest : ∀ k, Bit r.potential k →
    ∃ j ∈ s.pendingSources, testBit32 j s.eirMask = false ∧ Bit (s.eirDest j) k

/-- The IPI loop starts the invariant. -/
theorem routeInv_ipiIntr (s : AppleAICState) : RouteInv s ⟨ipiIntr s, 0⟩ where
  intr_takes k _ hbit := by
    obtain ⟨-, hipi⟩ := (bit_ipiIntr s k).mp hbit
    rcases hipi with h | h
    · exact Or.inl h
    · exact Or.inr (Or.inl h)
  potential_dest k hbit := absurd hbit (bit_zero k)

/-- One pending source keeps the invariant: the CPU `find_first_bit32` gives is in the source's
destination, and the spare CPU is in `potential`. -/
theorem RouteInv.step {s : AppleAICState} {r : AicRouting} (h : RouteInv s r) {i : ℕ}
    (hi : i ∈ s.pendingSources) : RouteInv s (appleAicRouteSource s r i) := by
  rcases appleAicRouteSource_cases s r i with
    ⟨-, hr⟩ | ⟨hmask, hd, -, hr⟩ | ⟨-, -, -, ⟨-, hr⟩ | ⟨k', hk', hr⟩⟩
  · rwa [hr]
  · rw [hr]
    refine ⟨fun k hk hbit => ?_, fun k hbit => ?_⟩
    · rcases bit_or.mp hbit with hbit | hbit
      · exact h.intr_takes k hk hbit
      · -- the new CPU is a CPU only when it is the destination's lowest
        have hcpu := (bit_cpuBit (lt_of_le_of_lt (routeCpu_le s hd) s.numCPU_lt)).mp hbit
        rw [hcpu] at hk ⊢
        exact Or.inr (Or.inr ⟨i, hi, hmask, bit_routeCpu s hd hk⟩)
    · rcases bit_or.mp hbit with hbit | hbit
      · exact h.potential_dest k hbit
      · exact ⟨i, hi, hmask, hbit⟩
  · rwa [hr]
  · rw [hr]
    obtain ⟨hlt, -, hpot⟩ := spareCpu_spec (le_of_lt s.numCPU_lt) hk'
    refine ⟨fun k hk hbit => ?_, h.potential_dest⟩
    rcases bit_or.mp hbit with hbit | hbit
    · exact h.intr_takes k hk hbit
    · rw [(bit_cpuBit (lt_trans hlt s.numCPU_lt)).mp hbit]
      exact Or.inr (Or.inr (h.potential_dest k' hpot))

/-- Routing pending sources one after another keeps the invariant. By induction on the sources. -/
theorem routeInv_foldl (s : AppleAICState) :
    ∀ (L : List ℕ) (r : AicRouting), (∀ i ∈ L, i ∈ s.pendingSources) → RouteInv s r →
      RouteInv s (L.foldl (appleAicRouteSource s) r)
  | [], _, _, h => h
  | i :: L, _, hL, h =>
    routeInv_foldl s L _ (fun j hj => hL j (List.mem_cons_of_mem i hj))
      (h.step (hL i List.mem_cons_self))

/-- The routing loop keeps the invariant over the pending sources. -/
theorem routeInv_appleAicRouting (s : AppleAICState) : RouteInv s (appleAicRouting s) :=
  routeInv_foldl s s.pendingSources _ (fun _ hi => hi) (routeInv_ipiIntr s)

/-- **No raised CPU reads a spurious `IACK`**: right after `apple_aic_update`, `REG_AIC_IACK` read
by any CPU it raised returns an IPI or a source.
Source: `hw/intc/apple_aic.c` `apple_aic_update`, `apple_aic_read` (`REG_AIC_IACK`)
Kind: L -/
theorem appleAicUpdate_iack_ne_spurious (s : AppleAICState) {k : ℕ}
    (hk : k ∈ (appleAicUpdate s).2) :
    (appleAicIack (appleAicUpdate s).1 k).2 ≠ kAIC_INT_SPURIOUS := by
  obtain ⟨hlt, hbit⟩ := mem_appleAicUpdate.mp hk
  exact appleAicIack_ne_spurious
    ((routeInv_appleAicRouting (mergeDeferred s)).intr_takes k hlt hbit)

/-! ## Every deliverable source gets a CPU, when destinations name CPUs -/

/-- What the routing loop keeps when every pending unmasked source with a destination names a
CPU: every CPU chosen exists, and every source routed so far has a chosen CPU in its destination. -/
structure CoverInv (s : AppleAICState) (L : List ℕ) (r : AicRouting) : Prop where
  intr_lt : ∀ k, Bit r.intr k → k < s.numCPU
  covered : ∀ i ∈ L, testBit32 i s.eirMask = false → s.eirDest i ≠ 0 →
    ∃ k < s.numCPU, Bit (s.eirDest i) k ∧ Bit r.intr k

section Cover

variable {s : AppleAICState}
  (hnames : ∀ i ∈ s.pendingSources, testBit32 i s.eirMask = false → s.eirDest i ≠ 0 →
    ∃ k < s.numCPU, Bit (s.eirDest i) k)
include hnames

/-- One pending source keeps the invariant: its CPU from `find_first_bit32` is one of its
destination's, and a source that finds a chosen CPU in its destination is covered by it. -/
theorem CoverInv.step {L : List ℕ} {r : AicRouting} (h : CoverInv s L r) {i : ℕ}
    (hi : i ∈ s.pendingSources) : CoverInv s (L ++ [i]) (appleAicRouteSource s r i) := by
  have hmono := intr_appleAicRouteSource_mono s r i
  have hold : ∀ j ∈ L, testBit32 j s.eirMask = false → s.eirDest j ≠ 0 →
      ∃ k < s.numCPU, Bit (s.eirDest j) k ∧ Bit (appleAicRouteSource s r i).intr k := by
    intro j hj hmask hd
    obtain ⟨k, hk, hdest, hintr⟩ := h.covered j hj hmask hd
    exact ⟨k, hk, hdest, hmono k hintr⟩
  rcases appleAicRouteSource_cases s r i with
    ⟨hskip, hr⟩ | ⟨hmask, hd, -, hr⟩ | ⟨hmask, hd, htaken, hr⟩
  · -- a masked source, or one with no destination, has nothing to cover
    refine ⟨fun k hk => h.intr_lt k (hr ▸ hk), fun j hj hmask hd => ?_⟩
    rcases List.mem_append.mp hj with hj | hj
    · exact hold j hj hmask hd
    · rw [List.mem_singleton.mp hj] at hmask hd
      exact absurd ⟨hmask, hd⟩ hskip
  · obtain ⟨k₀, hk₀, hbit₀⟩ := hnames i hi hmask hd
    have hlt := routeCpu_lt s hk₀ hbit₀
    have hnew : Bit (appleAicRouteSource s r i).intr
        (findFirstBit32 (fun w => s.eirDest (i + w)) s.numCPU) := by
      rw [hr]
      exact bit_or.mpr (Or.inr ((bit_cpuBit (lt_trans hlt s.numCPU_lt)).mpr rfl))
    refine ⟨fun k hk => ?_, fun j hj hmask' hd' => ?_⟩
    · rw [hr] at hk
      rcases bit_or.mp hk with hk | hk
      · exact h.intr_lt k hk
      · rw [(bit_cpuBit (lt_trans hlt s.numCPU_lt)).mp hk]
        exact hlt
    · rcases List.mem_append.mp hj with hj | hj
      · exact hold j hj hmask' hd'
      · rw [List.mem_singleton.mp hj]
        exact ⟨_, hlt, bit_routeCpu s hd hlt, hnew⟩
  · -- a chosen CPU is already in the destination
    obtain ⟨k₀, hk₀⟩ : ∃ k, Bit r.intr k ∧ Bit (s.eirDest i) k := by
      by_contra hnone
      exact htaken (and_eq_zero_iff.mpr fun k hk hd' => hnone ⟨k, hk, hd'⟩)
    refine ⟨fun k hk => ?_, fun j hj hmask' hd' => ?_⟩
    · rcases hr with ⟨-, hr⟩ | ⟨k', hk', hr⟩
      · exact h.intr_lt k (hr ▸ hk)
      · rw [hr] at hk
        rcases bit_or.mp hk with hk | hk
        · exact h.intr_lt k hk
        · rw [(bit_cpuBit (lt_trans (spareCpu_spec (le_of_lt s.numCPU_lt) hk').1
            s.numCPU_lt)).mp hk]
          exact (spareCpu_spec (le_of_lt s.numCPU_lt) hk').1
    · rcases List.mem_append.mp hj with hj | hj
      · exact hold j hj hmask' hd'
      · rw [List.mem_singleton.mp hj]
        exact ⟨k₀, h.intr_lt k₀ hk₀.1, hk₀.2, hmono k₀ hk₀.1⟩

/-- Routing pending sources one after another keeps the invariant. By induction on the sources. -/
theorem coverInv_foldl : ∀ (rest L : List ℕ) (r : AicRouting), CoverInv s L r →
    (∀ i ∈ rest, i ∈ s.pendingSources) →
      CoverInv s (L ++ rest) (rest.foldl (appleAicRouteSource s) r)
  | [], L, r, h, _ => by simpa using h
  | i :: rest, L, r, h, hrest => by
    have := coverInv_foldl rest (L ++ [i]) _ (h.step hnames (hrest i List.mem_cons_self))
      (fun j hj => hrest j (List.mem_cons_of_mem i hj))
    rwa [List.append_assoc, List.singleton_append] at this

/-- The routing loop covers every pending source. -/
theorem coverInv_appleAicRouting : CoverInv s s.pendingSources (appleAicRouting s) := by
  have hstart : CoverInv s [] ⟨ipiIntr s, 0⟩ :=
    ⟨fun k hk => ((bit_ipiIntr s k).mp hk).1, fun _ hi => absurd hi List.not_mem_nil⟩
  have h := coverInv_foldl hnames s.pendingSources [] _ hstart (fun _ hi => hi)
  rwa [List.nil_append] at h

end Cover

/-- **Every deliverable source is delivered, when destinations name CPUs**: if every pending
unmasked source with a destination names a CPU that exists, `apple_aic_update` raises, for
each of them, a CPU of its destination.
Source: `hw/intc/apple_aic.c` `apple_aic_update`
Kind: L -/
theorem appleAicUpdate_covers (s : AppleAICState)
    (hnames : ∀ i ∈ s.pendingSources, testBit32 i s.eirMask = false → s.eirDest i ≠ 0 →
      ∃ k < s.numCPU, Bit (s.eirDest i) k)
    {i : ℕ} (hi : i ∈ s.pendingSources) (hmask : testBit32 i s.eirMask = false)
    (hdest : ∃ k < s.numCPU, Bit (s.eirDest i) k) :
    ∃ k < s.numCPU, Bit (s.eirDest i) k ∧ k ∈ (appleAicUpdate s).2 := by
  have hd : s.eirDest i ≠ 0 := by
    obtain ⟨k, -, hk⟩ := hdest
    exact fun h => bit_zero k (h ▸ hk)
  obtain ⟨k, hk, hbit, hintr⟩ :=
    (coverInv_appleAicRouting (s := mergeDeferred s) hnames).covered i hi hmask hd
  exact ⟨k, hk, hbit, mem_appleAicUpdate.mpr ⟨hk, hintr⟩⟩

/-! ## A source left without a CPU -/

/-- A source whose destination names only CPU `numCPU`, routed first, chooses CPU `numCPU`,
which is no CPU, and puts only that CPU in `potential`.
Source: `hw/intc/apple_aic.c` `apple_aic_update` (`find_first_bit32` returning `numCPU`)
Kind: L -/
theorem appleAicRouteSource_phantom (s : AppleAICState) {i : ℕ}
    (hmask : testBit32 i s.eirMask = false) (hdest : s.eirDest i = cpuBit s.numCPU) :
    appleAicRouteSource s ⟨0, 0⟩ i = ⟨cpuBit s.numCPU, cpuBit s.numCPU⟩ := by
  have hd : s.eirDest i ≠ 0 := by
    intro h0
    have hbit := (bit_cpuBit s.numCPU_lt (k := s.numCPU)).mpr rfl
    rw [← hdest, h0] at hbit
    exact bit_zero _ hbit
  have hcpu : findFirstBit32 (fun w => s.eirDest (i + w)) s.numCPU = s.numCPU := by
    rw [routeCpu_eq s hd, hdest, ctz32_cpuBit s.numCPU_lt, if_neg (lt_irrefl _)]
  rcases appleAicRouteSource_cases s ⟨0, 0⟩ i with
    ⟨hskip, -⟩ | ⟨-, -, -, hr⟩ | ⟨-, -, htaken, -⟩
  · exact absurd ⟨hmask, hd⟩ hskip
  · rw [hr, hcpu, hdest]
    simp only [UInt32.zero_or]
  · exact absurd UInt32.zero_and htaken

/-- With only CPU `numCPU` chosen and in `potential`, no CPU is spare. -/
theorem spareCpu_phantom {n : ℕ} (hn : n < 32) : spareCpu n ⟨cpuBit n, cpuBit n⟩ = none := by
  rw [spareCpu, List.find?_range_eq_none]
  intro k hk
  have hmiss : cpuBit n &&& cpuBit k = 0 := by
    by_contra hmeet
    have hbit := (and_cpuBit_ne_zero (lt_trans hk hn)).mp hmeet
    rw [bit_cpuBit hn] at hbit
    omega
  simp [hmiss]

/-- **A deliverable source can be left without a CPU**: when the only pending sources are 0 and
1, both unmasked, no CPU has an IPI to take, source 0's destination names only CPU `numCPU` (no
CPU) and source 1's names CPU 0 and CPU `numCPU`, then `apple_aic_update` raises no CPU, though
source 1 is pending, unmasked and has CPU 0 in its destination.
Source: `hw/intc/apple_aic.c` `apple_aic_update`
Kind: P -/
theorem aic_update_starves_source (s : AppleAICState) (hpend : s.pendingSources = [0, 1])
    (hmask0 : testBit32 0 s.eirMask = false) (hmask1 : testBit32 1 s.eirMask = false)
    (hdest0 : s.eirDest 0 = cpuBit s.numCPU) (hdest1 : s.eirDest 1 = cpuBit 0 ||| cpuBit s.numCPU)
    (hipi : ∀ k < s.numCPU, selfIpiPending ((mergeDeferred s).cpus k) = false ∧
      normalIpiPending s.numCPU ((mergeDeferred s).cpus k) = false) :
    1 ∈ s.pendingSources ∧ testBit32 1 s.eirMask = false ∧ Bit (s.eirDest 1) 0 ∧
      (appleAicUpdate s).2 = [] := by
  have hn := s.numCPU_lt
  have hzero : ipiIntr (mergeDeferred s) = 0 := by
    refine eq_zero_iff.mpr fun k hk => ?_
    obtain ⟨hlt, hipi'⟩ := (bit_ipiIntr _ k).mp hk
    rw [numCPU_mergeDeferred] at hlt hipi'
    obtain ⟨hself, hnorm⟩ := hipi k hlt
    rcases hipi' with h | h
    · rw [hself] at h
      cases h
    · rw [hnorm] at h
      cases h
  -- the first source chooses the CPU that is not there; the second finds it chosen
  have hfirst := appleAicRouteSource_phantom (mergeDeferred s) hmask0 hdest0
  rw [numCPU_mergeDeferred] at hfirst
  have hsecond : appleAicRouteSource (mergeDeferred s) ⟨cpuBit s.numCPU, cpuBit s.numCPU⟩ 1 =
      ⟨cpuBit s.numCPU, cpuBit s.numCPU⟩ := by
    have hbit : Bit (s.eirDest 1) s.numCPU := by
      rw [hdest1, bit_or, bit_cpuBit hn]
      exact Or.inr rfl
    rcases appleAicRouteSource_cases (mergeDeferred s) ⟨cpuBit s.numCPU, cpuBit s.numCPU⟩ 1 with
      ⟨hskip, -⟩ | ⟨-, -, hfree, -⟩ | ⟨-, -, -, ⟨-, hr⟩ | ⟨k, hk, -⟩⟩
    · exact absurd ⟨hmask1, fun h0 => bit_zero _ (h0 ▸ hbit)⟩ hskip
    · have hmeet : cpuBit s.numCPU &&& (mergeDeferred s).eirDest 1 ≠ 0 := by
        rw [UInt32.and_comm]
        exact (and_cpuBit_ne_zero hn).mpr hbit
      exact absurd hfree hmeet
    · exact hr
    · rw [numCPU_mergeDeferred, spareCpu_phantom hn] at hk
      cases hk
  have hrouting : appleAicRouting (mergeDeferred s) = ⟨cpuBit s.numCPU, cpuBit s.numCPU⟩ := by
    unfold appleAicRouting
    rw [pendingSources_mergeDeferred, hpend, hzero, List.foldl_cons, List.foldl_cons,
      List.foldl_nil, hfirst, hsecond]
  refine ⟨by rw [hpend]; exact List.mem_cons_of_mem 0 List.mem_cons_self, hmask1, ?_, ?_⟩
  · rw [hdest1, bit_or, bit_cpuBit (by decide)]
    exact Or.inl rfl
  · refine List.eq_nil_iff_forall_not_mem.mpr fun k hk => ?_
    obtain ⟨hlt, hbit⟩ := mem_appleAicUpdate.mp hk
    rw [hrouting, bit_cpuBit hn] at hbit
    omega

/-- The AIC `apple_aic_create` and `apple_aic_realize` build for the T8030: 18 words of sources
(576), 6 CPUs, every array zero as `g_new0` leaves it.
Source: `hw/intc/apple_aic.c` `apple_aic_create`, `apple_aic_realize`
Kind: D -/
def t8030Aic : AppleAICState where
  numEIR := 18
  numCPU := AIC_CPU_COUNT
  numCPU_pos := by decide
  numCPU_lt := by decide
  globalCfg := 0
  timeBase := 0
  eirMask := fun _ => 0
  eirDest := fun _ => 0
  eirState := fun _ => 0
  cpus := fun _ => ⟨0, 0, 0⟩

/-- The guest's writes: reset, source 0 to CPU 6 (no CPU), source 1 to CPUs 0 and 6, both
unmasked and raised by software.
Source: none: a run of `apple_aic_write`
Kind: D -/
def starveOps : List AicOp :=
  [.write 0 REG_AIC_RST 0, .write 0 (REG_AIC_EIR_DEST 0) 0x40, .write 0 (REG_AIC_EIR_DEST 1) 0x41,
    .write 0 (REG_AIC_EIR_MASK_CLR 0) 3, .write 0 (REG_AIC_EIR_SW_SET 0) 3]

/-- The T8030 AIC after those writes.
Source: none: a run of `apple_aic_write`
Kind: D -/
def starvedAic : AppleAICState := (aicRun t8030Aic starveOps).1

/-- On the T8030 AIC after the writes of `starveOps`, the next tick raises no CPU although source
1 is pending, unmasked and destined for CPU 0.
Source: `hw/intc/apple_aic.c` `apple_aic_write`, `apple_aic_update`
Kind: P -/
theorem aic_update_starves_source_t8030 :
    starvedAic.pendingSources = [0, 1] ∧ testBit32 0 starvedAic.eirMask = false ∧
      testBit32 1 starvedAic.eirMask = false ∧ starvedAic.eirDest 0 = cpuBit starvedAic.numCPU ∧
      starvedAic.eirDest 1 = cpuBit 0 ||| cpuBit starvedAic.numCPU ∧
      (∀ k < starvedAic.numCPU, selfIpiPending ((mergeDeferred starvedAic).cpus k) = false ∧
        normalIpiPending starvedAic.numCPU ((mergeDeferred starvedAic).cpus k) = false) ∧
      (1 ∈ starvedAic.pendingSources ∧ testBit32 1 starvedAic.eirMask = false ∧
        Bit (starvedAic.eirDest 1) 0 ∧ (appleAicUpdate starvedAic).2 = []) := by
  have hpend : starvedAic.pendingSources = [0, 1] := by decide +kernel
  have hmask0 : testBit32 0 starvedAic.eirMask = false := by decide
  have hmask1 : testBit32 1 starvedAic.eirMask = false := by decide
  have hdest0 : starvedAic.eirDest 0 = cpuBit starvedAic.numCPU := by decide
  have hdest1 : starvedAic.eirDest 1 = cpuBit 0 ||| cpuBit starvedAic.numCPU := by decide
  have hipi : ∀ k < starvedAic.numCPU, selfIpiPending ((mergeDeferred starvedAic).cpus k) = false ∧
      normalIpiPending starvedAic.numCPU ((mergeDeferred starvedAic).cpus k) = false := by
    decide
  exact ⟨hpend, hmask0, hmask1, hdest0, hdest1, hipi,
    aic_update_starves_source starvedAic hpend hmask0 hmask1 hdest0 hdest1 hipi⟩

end QemuAppleSilicon.Intc
