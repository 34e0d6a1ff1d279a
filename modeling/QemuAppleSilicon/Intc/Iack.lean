import QemuAppleSilicon.Intc.Routing

/-!
# What a `REG_AIC_IACK` read returns

`apple_aic_read` answers an `IACK` read of CPU `c` by priority: an unmasked pending self IPI,
then the normal IPIs when they are unmasked and one is pending, then the first pending unmasked
source whose destination holds `c`, each masked as it is taken; else spurious.

* `IackSpec` — that order over the bits of the registers, with the state each answer leaves. It
  is a function of the state (`IackSpec.unique`).
* `appleAicIack_iackSpec` — the read computes it, also through the per-CPU window
  `REG_AIC_WHOAMI_Pn(c)` (`appleAicRead_whoamiPn_iack`).
* `toNat_encode_ext`, `encode_injective` — the value read tells the answers apart while every
  source is below 1024, the ten bits `AIC_INT_EXTID` keeps.
* `AicReachable.destBelow` — in every state reached from reset no source past `AIC_INT_COUNT`
  has a destination, since `REG_AIC_EIR_DEST` reaches no further, so no answer names one
  (`IackSpec.extBelow_of_reachable`), whatever `numEIR` the device tree gives.
* `iack_read_priority` — in such a state the read gives the specified answer, and the value read
  names it among every answer of every such state.
-/

namespace QemuAppleSilicon.Intc

open QemuAppleSilicon.Lib QemuAppleSilicon.Qemu AppleAICState

/-! ## The specification -/

/-- CPU `c` has an unmasked pending self IPI.
Source: `hw/intc/apple_aic.c` `apple_aic_read` (`REG_AIC_IACK`)
Kind: D -/
def SelfIpi (s : AppleAICState) (c : ℕ) : Prop :=
  Bit (s.cpus c).pendingIPI 31 ∧ ¬ Bit (s.cpus c).ipiMask 31

/-- CPU `c` has its normal IPIs unmasked and one from a CPU below `numCPU` pending.
Source: `hw/intc/apple_aic.c` `apple_aic_read` (`REG_AIC_IACK`)
Kind: D -/
def NormalIpi (s : AppleAICState) (c : ℕ) : Prop :=
  ¬ Bit (s.cpus c).ipiMask 0 ∧ ∃ j < s.numCPU, Bit (s.cpus c).pendingIPI j

/-- Source `i` can be taken by CPU `c`: below `numIRQ`, pending, unmasked, with `c` in its
destination.
Source: `hw/intc/apple_aic.c` `apple_aic_read` (`REG_AIC_IACK`)
Kind: D -/
def Deliverable (s : AppleAICState) (c i : ℕ) : Prop :=
  i < s.numIRQ ∧ testBit32 i s.eirState = true ∧ testBit32 i s.eirMask = false ∧
    Bit (s.eirDest i) c

/-- The answers of an `IACK` read.
Source: `hw/intc/apple_aic.c` `kAIC_INT_*`
Kind: D -/
inductive IackAnswer where
  | selfIpi
  | normalIpi
  | ext (i : ℕ)
  | spurious
  deriving DecidableEq, Repr

/-- The value the read returns for an answer.
Source: `hw/intc/apple_aic.c` `apple_aic_read` (`REG_AIC_IACK`)
Kind: D -/
def IackAnswer.encode : IackAnswer → UInt32
  | .selfIpi => kAIC_INT_IPI ||| kAIC_INT_IPI_SELF
  | .normalIpi => kAIC_INT_IPI ||| kAIC_INT_IPI_NORM
  | .ext i => kAIC_INT_EXT ||| AIC_INT_EXTID (UInt32.ofNat i)
  | .spurious => kAIC_INT_SPURIOUS

/-- Every source an answer names is below `n`. -/
def IackAnswer.ExtBelow (n : ℕ) (a : IackAnswer) : Prop := ∀ i, a = .ext i → i < n

/-- The answer an `IACK` read of CPU `c` is to give by priority, and the state it leaves: the
answer's interrupt masked, nothing else changed.
Source: `hw/intc/apple_aic.c` `apple_aic_read` (`REG_AIC_IACK`)
Kind: D -/
inductive IackSpec (s : AppleAICState) (c : ℕ) : AppleAICState → IackAnswer → Prop
  | selfIpi (hself : SelfIpi s c) :
      IackSpec s c (s.mapCpu c fun x => { x with ipiMask := x.ipiMask ||| AIC_IPI_SELF }) .selfIpi
  | normalIpi (hself : ¬ SelfIpi s c) (hnorm : NormalIpi s c) :
      IackSpec s c (s.mapCpu c fun x => { x with ipiMask := x.ipiMask ||| AIC_IPI_NORMAL })
        .normalIpi
  | ext {i : ℕ} (hself : ¬ SelfIpi s c) (hnorm : ¬ NormalIpi s c) (hi : Deliverable s c i)
      (hfirst : ∀ j < i, ¬ Deliverable s c j) :
      IackSpec s c { s with eirMask := setBit32 i s.eirMask } (.ext i)
  | spurious (hself : ¬ SelfIpi s c) (hnorm : ¬ NormalIpi s c) (hnone : ∀ i, ¬ Deliverable s c i) :
      IackSpec s c s .spurious

/-- **The specification is a function of the state**: the priority conditions exclude each
other and the first deliverable source is unique. -/
theorem IackSpec.unique {s s₁ s₂ : AppleAICState} {c : ℕ} {a b : IackAnswer}
    (ha : IackSpec s c s₁ a) (hb : IackSpec s c s₂ b) : s₁ = s₂ ∧ a = b := by
  cases ha with
  | selfIpi h =>
    cases hb with
    | selfIpi => exact ⟨rfl, rfl⟩
    | normalIpi h' => exact absurd h h'
    | ext h' => exact absurd h h'
    | spurious h' => exact absurd h h'
  | normalIpi hs h =>
    cases hb with
    | selfIpi h' => exact absurd h' hs
    | normalIpi => exact ⟨rfl, rfl⟩
    | ext _ h' => exact absurd h h'
    | spurious _ h' => exact absurd h h'
  | @ext i hs hn hi hfirst =>
    cases hb with
    | selfIpi h' => exact absurd h' hs
    | normalIpi _ h' => exact absurd h' hn
    | @ext j _ _ hj hfirst' =>
      -- each is the first: neither is below the other
      have hij : i = j := by
        rcases Nat.lt_trichotomy i j with h | h | h
        · exact absurd hi (hfirst' i h)
        · exact h
        · exact absurd hj (hfirst j h)
      subst hij
      exact ⟨rfl, rfl⟩
    | spurious _ _ hnone => exact absurd hi (hnone i)
  | spurious hs hn hnone =>
    cases hb with
    | selfIpi h' => exact absurd h' hs
    | normalIpi _ h' => exact absurd h' hn
    | ext _ _ hj => exact absurd hj (hnone _)
    | spurious => exact ⟨rfl, rfl⟩

/-! ## The code's conditions -/

/-- `pendingIPI & AIC_IPI_SELF & ~ipi_mask` is the self IPI bit, set and unmasked. -/
theorem selfIpiPending_iff {x : AppleAICCPU} :
    selfIpiPending x = true ↔ Bit x.pendingIPI 31 ∧ ¬ Bit x.ipiMask 31 := by
  have hself : ∀ k, Bit AIC_IPI_SELF k ↔ k = 31 := fun k => bit_one_shiftLeft (by decide)
  rw [selfIpiPending, bne_iff_ne, Ne, eq_zero_iff]
  simp only [bit_and, bit_not, hself, not_forall, not_not]
  constructor
  · rintro ⟨k, ⟨hk, rfl⟩, _, hm⟩
    exact ⟨hk, hm⟩
  · rintro ⟨hk, hm⟩
    exact ⟨31, ⟨hk, rfl⟩, by decide, hm⟩

/-- `~ipi_mask & AIC_IPI_NORMAL` with `pendingIPI & ((1 << numCPU) - 1)` is the normal IPIs
unmasked and one from a CPU below `numCPU` pending. -/
theorem normalIpiPending_iff {n : ℕ} (hn : n < 32) {x : AppleAICCPU} :
    normalIpiPending n x = true ↔ ¬ Bit x.ipiMask 0 ∧ ∃ j < n, Bit x.pendingIPI j := by
  have hnorm : ∀ k, Bit AIC_IPI_NORMAL k ↔ k = 0 := fun k => bit_one_shiftLeft (by decide)
  have hlow : ∀ k, Bit (cpuBit n - 1) k ↔ k < n := fun k => bit_one_shiftLeft_sub_one hn
  rw [normalIpiPending, Bool.and_eq_true, bne_iff_ne, bne_iff_ne, Ne, Ne, eq_zero_iff, eq_zero_iff]
  simp only [bit_and, bit_not, hnorm, hlow, not_forall, not_not]
  constructor
  · rintro ⟨⟨k, ⟨_, hm⟩, rfl⟩, j, hj, hjn⟩
    exact ⟨hm, j, hjn, hj⟩
  · rintro ⟨hm, j, hjn, hj⟩
    exact ⟨⟨0, ⟨by decide, hm⟩, rfl⟩, j, hj, hjn⟩

/-- The condition of the source loop is the source unmasked with `c` in its destination. -/
theorem iackSource_iff (s : AppleAICState) {c : ℕ} (hc : c < 32) (i : ℕ) :
    (testBit32 i s.eirMask = false && s.eirDest i &&& cpuBit c != 0) = true ↔
      testBit32 i s.eirMask = false ∧ Bit (s.eirDest i) c := by
  rw [Bool.and_eq_true, decide_eq_true_iff, bne_iff_ne, and_cpuBit_ne_zero hc]

/-- The source loop, a search of the pending sources in increasing order, finds `i` exactly
when `i` is the first deliverable source. -/
theorem find?_iackSource_eq_some (s : AppleAICState) {c : ℕ} (hc : c < 32) (i : ℕ) :
    s.pendingSources.find? (fun i => testBit32 i s.eirMask = false && s.eirDest i &&& cpuBit c != 0)
        = some i ↔ Deliverable s c i ∧ ∀ j < i, ¬ Deliverable s c j := by
  rw [pendingSources, setBits32, List.find?_filter, List.find?_range_eq_some, List.mem_range]
  simp only [decide_eq_true_eq, iackSource_iff s hc, Bool.not_eq_true', decide_eq_false_iff_not]
  constructor
  · rintro ⟨⟨hpend, hsrc⟩, hi, hbefore⟩
    refine ⟨⟨hi, hpend, hsrc⟩, ?_⟩
    rintro j hj ⟨-, hp, hs⟩
    exact hbefore j hj ⟨hp, hs⟩
  · rintro ⟨⟨hi, hpend, hsrc⟩, hbefore⟩
    refine ⟨⟨hpend, hsrc⟩, hi, ?_⟩
    rintro j hj ⟨hp, hs⟩
    exact hbefore j hj ⟨by omega, hp, hs⟩

/-- The source loop finds nothing exactly when no source is deliverable. -/
theorem find?_iackSource_eq_none (s : AppleAICState) {c : ℕ} (hc : c < 32) :
    s.pendingSources.find? (fun i => testBit32 i s.eirMask = false && s.eirDest i &&& cpuBit c != 0)
        = none ↔ ∀ i, ¬ Deliverable s c i := by
  rw [List.find?_eq_none]
  simp only [mem_setBits32, pendingSources, iackSource_iff s hc]
  constructor
  · rintro h i ⟨hi, hpend, hsrc⟩
    exact h i ⟨hi, hpend⟩ hsrc
  · rintro h i ⟨hi, hpend⟩ hsrc
    exact h i ⟨hi, hpend, hsrc⟩

/-! ## The read computes the specification -/

/-- **`REG_AIC_IACK` of CPU `c` gives the specified answer and state.**
Source: `hw/intc/apple_aic.c` `apple_aic_read` (`REG_AIC_IACK`)
Kind: L -/
theorem appleAicIack_iackSpec (s : AppleAICState) {c : ℕ} (hc : c < s.numCPU) :
    ∃ a, IackSpec s c (appleAicIack s c).1 a ∧ (appleAicIack s c).2 = a.encode := by
  have hc32 : c < 32 := lt_trans hc s.numCPU_lt
  unfold appleAicIack
  by_cases hself : selfIpiPending (s.cpus c) = true
  · rw [if_pos hself]
    exact ⟨.selfIpi, .selfIpi (selfIpiPending_iff.mp hself), rfl⟩
  have hself' : ¬ SelfIpi s c := fun h => hself (selfIpiPending_iff.mpr h)
  rw [if_neg hself]
  by_cases hnorm : normalIpiPending s.numCPU (s.cpus c) = true
  · rw [if_pos hnorm]
    exact ⟨.normalIpi, .normalIpi hself' ((normalIpiPending_iff s.numCPU_lt).mp hnorm), rfl⟩
  have hnorm' : ¬ NormalIpi s c := fun h => hnorm ((normalIpiPending_iff s.numCPU_lt).mpr h)
  rw [if_neg hnorm]
  split
  · -- the loop returned source `i`: the first deliverable one
    rename_i i hfind
    obtain ⟨hi, hfirst⟩ := (find?_iackSource_eq_some s hc32 i).mp hfind
    exact ⟨.ext i, .ext hself' hnorm' hi hfirst, rfl⟩
  · rename_i hfind
    exact ⟨.spurious, .spurious hself' hnorm' ((find?_iackSource_eq_none s hc32).mp hfind), rfl⟩

/-- `apple_aic_read` of `REG_AIC_IACK` is the `IACK` of the reading CPU.
Source: `hw/intc/apple_aic.c` `apple_aic_read`
Kind: L -/
theorem appleAicRead_iack (s : AppleAICState) (c : ℕ) (now : UInt64) :
    appleAicRead s c REG_AIC_IACK now =
      ((appleAicIack s c).1, (appleAicIack s c).2.toUInt64) := by
  simp [appleAicRead, appleAicReadCpu, REG_AIC_WHOAMI_Pn, REG_AIC_IACK, REG_AIC_REV,
    REG_AIC_CAP0, REG_AIC_GLB_CFG, REG_AIC_WHOAMI]

/-- The `IACK` word of the window `REG_AIC_WHOAMI_Pn(c)` is the `IACK` of CPU `c`, whichever
CPU reads it: the window's address is rewritten to `REG_AIC_IACK` and the handler re-entered.
Source: `hw/intc/apple_aic.c` `apple_aic_read` (`REG_AIC_WHOAMI_Pn`)
Kind: L -/
theorem appleAicRead_whoamiPn_iack (s : AppleAICState) {c : ℕ} (hc : c < s.numCPU)
    (hcpu : c < AIC_CPU_COUNT) (o : ℕ) (now : UInt64) :
    appleAicRead s o (REG_AIC_WHOAMI_Pn c + 4) now = appleAicRead s c REG_AIC_IACK now := by
  have hwin : REG_AIC_WHOAMI_Pn 0 ≤ REG_AIC_WHOAMI_Pn c + 4 ∧
      REG_AIC_WHOAMI_Pn c + 4 ≤ REG_AIC_WHOAMI_Pn AIC_CPU_COUNT - 4 := by
    simp only [REG_AIC_WHOAMI_Pn, AIC_CPU_COUNT] at hcpu ⊢
    omega
  have hcpu' : (REG_AIC_WHOAMI_Pn c + 4 - 0x5000) / 0x80 = c := by
    simp only [REG_AIC_WHOAMI_Pn]
    omega
  have haddr : REG_AIC_WHOAMI_Pn c + 4 - 0x5000 + 0x2000 - 0x80 * c = REG_AIC_IACK := by
    simp only [REG_AIC_WHOAMI_Pn, REG_AIC_IACK]
    omega
  have hiack : ¬ (REG_AIC_WHOAMI_Pn 0 ≤ REG_AIC_IACK ∧
      REG_AIC_IACK ≤ REG_AIC_WHOAMI_Pn AIC_CPU_COUNT - 4) := by decide
  rw [appleAicRead, if_pos hwin, hcpu', if_neg (Nat.not_le.mpr hc), haddr, appleAicRead,
    if_neg hiack]

/-! ## The value read -/

/-- The value of source `i < 1024` is `0x10000 + i`. -/
theorem toNat_encode_ext {i : ℕ} (hi : i < 1024) : (IackAnswer.ext i).encode.toNat = 0x10000 + i := by
  have hid : (AIC_INT_EXTID (UInt32.ofNat i)).toNat = i := by
    rw [AIC_INT_EXTID, UInt32.toNat_and, UInt32.toNat_ofNat', Nat.mod_eq_of_lt (by omega)]
    rw [show (0x3FF : UInt32).toNat = 2 ^ 10 - 1 from rfl, Nat.and_two_pow_sub_one_eq_mod,
      Nat.mod_eq_of_lt (by omega)]
  rw [IackAnswer.encode, UInt32.toNat_or, hid, show kAIC_INT_EXT.toNat = 2 ^ 16 * 1 from rfl,
    ← Nat.two_pow_add_eq_or_of_lt (by omega)]

/-- The ten bits of `AIC_INT_EXTID` give back a source below 1024. -/
theorem toNat_extid_encode_ext {i : ℕ} (hi : i < 1024) :
    (AIC_INT_EXTID (IackAnswer.ext i).encode).toNat = i := by
  rw [AIC_INT_EXTID, UInt32.toNat_and, toNat_encode_ext hi,
    show (0x3FF : UInt32).toNat = 2 ^ 10 - 1 from rfl, Nat.and_two_pow_sub_one_eq_mod]
  omega

/-- **The value read tells the answers apart** when every source they name is below 1024.
Source: `hw/intc/apple_aic.c` `kAIC_INT_*`, `AIC_INT_EXTID`
Kind: L -/
theorem encode_injective {a b : IackAnswer} (ha : a.ExtBelow 1024) (hb : b.ExtBelow 1024)
    (h : a.encode = b.encode) : a = b := by
  have hval := congrArg UInt32.toNat h
  -- the values as numbers: the IPIs at `0x40001` and `0x40002`, spurious at zero, the sources
  -- in between
  have hsi : IackAnswer.selfIpi.encode.toNat = 0x40002 := rfl
  have hno : IackAnswer.normalIpi.encode.toNat = 0x40001 := rfl
  have hsp : IackAnswer.spurious.encode.toNat = 0 := rfl
  cases a with
  | ext i =>
    have hi := ha i rfl
    rw [toNat_encode_ext hi] at hval
    cases b with
    | ext j =>
      rw [toNat_encode_ext (hb j rfl)] at hval
      rw [Nat.add_left_cancel hval]
    | selfIpi | normalIpi | spurious => omega
  | selfIpi | normalIpi | spurious =>
    cases b with
    | ext j =>
      have hj := hb j rfl
      rw [toNat_encode_ext hj] at hval
      omega
    | selfIpi | normalIpi | spurious => first | rfl | omega

/-- A bound on the sources an answer names holds under any larger bound. -/
theorem IackAnswer.ExtBelow.mono {a : IackAnswer} {m n : ℕ} (ha : a.ExtBelow m) (hmn : m ≤ n) :
    a.ExtBelow n :=
  fun i hi => lt_of_lt_of_le (ha i hi) hmn

/-! ## States reached from reset

`apple_aic_reset` zeroes every destination, and `REG_AIC_EIR_DEST` writes only the vectors up to
`AIC_INT_COUNT` that its case range reaches, so no source past `AIC_INT_COUNT` ever has a CPU in
its destination and none is ever delivered, however long the device tree's `ipid-mask` is. -/

/-- The states of the AIC after a reset and any operations since.
Source: `hw/intc/apple_aic.c` `apple_aic_reset`, `apple_aic_write`, `apple_aic_read`,
`apple_aic_set_irq`, `apple_aic_tick`
Kind: D -/
inductive AicReachable : AppleAICState → Prop
  | reset (s : AppleAICState) : AicReachable (appleAicReset s)
  | step {s : AppleAICState} (op : AicOp) : AicReachable s → AicReachable (aicStep s op).1

/-- No source past `AIC_INT_COUNT` has a destination.
Source: `hw/intc/apple_aic.c` `apple_aic_write` (`REG_AIC_EIR_DEST(0)... REG_AIC_EIR_DEST(AIC_INT_COUNT)`)
Kind: D -/
def DestBelow (s : AppleAICState) : Prop := ∀ i, AIC_INT_COUNT < i → s.eirDest i = 0

/-- Source: `hw/intc/apple_aic.c` `apple_aic_read` (`REG_AIC_IACK`). Kind: L -/
theorem eirDest_appleAicIack (s : AppleAICState) (o : ℕ) : (appleAicIack s o).1.eirDest = s.eirDest := by
  unfold appleAicIack
  dsimp only
  split_ifs
  · rfl
  · rfl
  · split <;> rfl

/-- Reads change no destination.
Source: `hw/intc/apple_aic.c` `apple_aic_read`
Kind: L -/
theorem eirDest_appleAicRead (s : AppleAICState) (o addr : ℕ) (now : UInt64) :
    (appleAicRead s o addr now).1.eirDest = s.eirDest := by
  -- every branch but `REG_AIC_IACK` returns the state it was given
  unfold appleAicRead appleAicReadCpu
  simp only [apply_ite Prod.fst, apply_ite AppleAICState.eirDest, eirDest_appleAicIack, ite_self]

/-- Source: `hw/intc/apple_aic.c` `apple_aic_write` (`REG_AIC_IPI_SET`). Kind: L -/
theorem eirDest_appleAicIpiSet (s : AppleAICState) (o : ℕ) (val : UInt32) :
    (appleAicIpiSet s o val).1.eirDest = s.eirDest := by
  unfold appleAicIpiSet
  dsimp only
  split_ifs <;> rfl

/-- Source: `hw/intc/apple_aic.c` `apple_aic_write`. Kind: L -/
theorem eirDest_ipiUpdate (s : AppleAICState) (o : ℕ) (val : UInt32) (f : UInt32 → UInt32 → UInt32)
    (get : AppleAICCPU → UInt32) (set : AppleAICCPU → UInt32 → AppleAICCPU) :
    (ipiUpdate s o val f get set).eirDest = s.eirDest := by
  unfold ipiUpdate
  dsimp only
  split_ifs <;> rfl

/-- **A write keeps `DestBelow`**: a reset zeroes the destinations, a `REG_AIC_EIR_DEST` write
changes one vector at most `AIC_INT_COUNT`, and every other write leaves them alone.
Source: `hw/intc/apple_aic.c` `apple_aic_write`
Kind: L -/
theorem destBelow_appleAicWriteCpu {s : AppleAICState} (hs : DestBelow s) (o addr : ℕ)
    (data : UInt64) : DestBelow (appleAicWriteCpu s o addr data).1 := by
  intro i hi
  unfold appleAicWriteCpu appleAicIpiClr appleAicIpiDeferSet appleAicIpiDeferClr
  -- every branch but a reset and a `REG_AIC_EIR_DEST` write keeps `eir_dest`, zero at `i`
  simp only [apply_ite Prod.fst, apply_ite AppleAICState.eirDest, eirDest_appleAicIpiSet,
    eirDest_ipiUpdate, mapCpu, ite_apply, hs i hi, appleAicReset, Function.update_apply, ite_self]
  simp only [ite_eq_left_iff, ite_eq_right_iff]
  -- the `REG_AIC_EIR_DEST` write: its vector is at most `AIC_INT_COUNT`, so not `i`
  rintro - - - - - - - - hdest - rfl
  simp only [REG_AIC_EIR_DEST, AIC_INT_COUNT] at hdest hi
  omega

/-- Source: `hw/intc/apple_aic.c` `apple_aic_write`. Kind: L -/
theorem destBelow_appleAicWrite {s : AppleAICState} (hs : DestBelow s) (o addr : ℕ)
    (data : UInt64) : DestBelow (appleAicWrite s o addr data).1 := by
  unfold appleAicWrite
  dsimp only
  split_ifs
  · exact hs
  · exact destBelow_appleAicWriteCpu hs _ _ _
  · exact destBelow_appleAicWriteCpu hs _ _ _

/-- **The step lemma**: every operation keeps `DestBelow`.
Source: `hw/intc/apple_aic.c` `apple_aic_write`, `apple_aic_read`, `apple_aic_set_irq`,
`apple_aic_tick`
Kind: L -/
theorem destBelow_aicStep {s : AppleAICState} (hs : DestBelow s) (op : AicOp) :
    DestBelow (aicStep s op).1 := by
  cases op with
  | write o addr data => exact destBelow_appleAicWrite hs o addr data
  | read o addr now =>
    intro i hi
    show (appleAicRead s o addr now).1.eirDest i = 0
    rw [eirDest_appleAicRead]
    exact hs i hi
  | setIrq irq level => exact hs
  | tick => exact hs

/-- **Every state reached from reset keeps `DestBelow`.** Induction on the reachability.
Source: `hw/intc/apple_aic.c` `apple_aic_reset`, `apple_aic_write`
Kind: L -/
theorem AicReachable.destBelow {s : AppleAICState} (h : AicReachable s) : DestBelow s := by
  induction h with
  | reset s => intro i _; rfl
  | step op _ ih => exact destBelow_aicStep ih op

/-- A write of `REG_AIC_RST`, by any CPU, is `apple_aic_reset`.
Source: `hw/intc/apple_aic.c` `apple_aic_write` (`REG_AIC_RST`)
Kind: L -/
theorem aicStep_write_rst (s : AppleAICState) (o : ℕ) (data : UInt64) :
    (aicStep s (.write o REG_AIC_RST data)).1 = appleAicReset s := by
  have hwin : ¬ (REG_AIC_WHOAMI_Pn 0 ≤ REG_AIC_RST ∧
      REG_AIC_RST ≤ REG_AIC_WHOAMI_Pn AIC_CPU_COUNT - 4) := by decide
  show (appleAicWrite s o REG_AIC_RST data).1 = _
  rw [appleAicWrite, if_neg hwin, appleAicWriteCpu, if_pos rfl]

/-- A run from a state reached from reset ends in one.
Source: `hw/intc/apple_aic.c` `apple_aic_write` (`REG_AIC_RST`)
Kind: L -/
theorem aicReachable_aicRun {s : AppleAICState} (h : AicReachable s) (ops : List AicOp) :
    AicReachable (aicRun s ops).1 := by
  induction ops generalizing s with
  | nil => exact h
  | cons op ops ih => exact ih (.step op h)

/-- A source an `IACK` answer names in a state reached from reset is at most `AIC_INT_COUNT`.
Source: `hw/intc/apple_aic.c` `apple_aic_read` (`REG_AIC_IACK`)
Kind: L -/
theorem IackSpec.extBelow_of_reachable {s t : AppleAICState} {c : ℕ} {a : IackAnswer}
    (h : IackSpec s c t a) (hs : AicReachable s) : a.ExtBelow (AIC_INT_COUNT + 1) := by
  intro i hi
  cases h with
  | ext _ _ hdel =>
    cases hi
    -- a delivered source has `c` in its destination, which is zero past `AIC_INT_COUNT`
    by_contra hlt
    have hzero : s.eirDest i = 0 := hs.destBelow i (by omega)
    exact bit_zero c (hzero ▸ hdel.2.2.2)
  | selfIpi | normalIpi | spurious => cases hi

/-! ## The `IACK` read -/

/-- **An `IACK` read of CPU `c` in a state reached from reset, directly or through its window,
gives the answer the priority order specifies and leaves the state it specifies, and the value
read names that answer**: `AIC_INT_EXTID` gives back the source, and no answer of any state
reached from reset reads alike.
Source: `hw/intc/apple_aic.c` `apple_aic_read` (`REG_AIC_IACK`, `REG_AIC_WHOAMI_Pn`),
`apple_aic_write` (`REG_AIC_EIR_DEST`)
Kind: P -/
theorem iack_read_priority (s : AppleAICState) (hs : AicReachable s) (c o : ℕ) (now : UInt64)
    (hc : c < s.numCPU) :
    (∃ a, IackSpec s c (appleAicRead s c REG_AIC_IACK now).1 a ∧
        (appleAicRead s c REG_AIC_IACK now).2 = a.encode.toUInt64 ∧
        (∀ i, a = .ext i → (AIC_INT_EXTID a.encode).toNat = i) ∧
        ∀ (s' t : AppleAICState) (c' : ℕ) (b : IackAnswer), AicReachable s' →
          IackSpec s' c' t b → b.encode = a.encode → b = a) ∧
      (c < AIC_CPU_COUNT →
        appleAicRead s o (REG_AIC_WHOAMI_Pn c + 4) now = appleAicRead s c REG_AIC_IACK now) := by
  obtain ⟨a, hspec, hval⟩ := appleAicIack_iackSpec s hc
  -- every answer of a state reached from reset names a source below the ten bits of the id
  have hbelow : ∀ {s t : AppleAICState} {c : ℕ} {b : IackAnswer}, AicReachable s →
      IackSpec s c t b → b.ExtBelow 1024 :=
    fun hs hb => (hb.extBelow_of_reachable hs).mono (by decide)
  refine ⟨⟨a, ?_, ?_, ?_, ?_⟩, fun hcpu => appleAicRead_whoamiPn_iack s hc hcpu o now⟩
  · rw [appleAicRead_iack]
    exact hspec
  · rw [appleAicRead_iack, hval]
  · rintro i rfl
    exact toNat_extid_encode_ext (hbelow hs hspec i rfl)
  · intro s' t c' b hs' hb heq
    exact encode_injective (hbelow hs' hb) (hbelow hs hspec) heq

/-- The T8030 AIC after the writes of `starveOps`, which start with a reset: CPU 0 of six
takes source 1.
Source: none: a run of `apple_aic_write`
Kind: L -/
theorem iack_read_priority_starved :
    AicReachable starvedAic ∧ 0 < starvedAic.numCPU ∧
      (∃ a, IackSpec starvedAic 0 (appleAicRead starvedAic 0 REG_AIC_IACK 0).1 a ∧
          (appleAicRead starvedAic 0 REG_AIC_IACK 0).2 = a.encode.toUInt64 ∧
          (∀ i, a = .ext i → (AIC_INT_EXTID a.encode).toNat = i) ∧
          ∀ (s' t : AppleAICState) (c' : ℕ) (b : IackAnswer), AicReachable s' →
            IackSpec s' c' t b → b.encode = a.encode → b = a) ∧
        (0 < AIC_CPU_COUNT → appleAicRead starvedAic 0 (REG_AIC_WHOAMI_Pn 0 + 4) 0 =
          appleAicRead starvedAic 0 REG_AIC_IACK 0) := by
  have hreach : AicReachable starvedAic := by
    have hrst : AicReachable (aicStep t8030Aic (.write 0 REG_AIC_RST 0)).1 := by
      rw [aicStep_write_rst]
      exact .reset t8030Aic
    exact aicReachable_aicRun hrst _
  exact ⟨hreach, by decide, iack_read_priority starvedAic hreach 0 0 0 (by decide)⟩

end QemuAppleSilicon.Intc
