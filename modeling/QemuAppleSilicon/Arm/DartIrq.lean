import QemuAppleSilicon.Arm.DartTlb

/-!
# The DART's error registers and its interrupt

A DART device holds up to `DART_MAX_INSTANCE` instances and one `irq` line.
`apple_dart_update_irq` raises the line when some DART-type instance has a non-zero
`error_status`; `apple_dart_translate` calls it after every translation, and `base_reg_write`
after a write of `REG_DART_ERROR_STATUS`.

* `appleDartUpdateIrq_eq_true_iff` — the loop of `apple_dart_update_irq` finds a faulted
  DART-type instance.
* `irqInv_dartDeviceRun` — `IrqInv`, the line high exactly when some DART-type instance has an
  error, holds over every run of translations, register writes and stores from a state where it
  holds.
* `keepsErrorBits_dartDeviceRun` — on a DART-type instance the error bits outside the stream
  field are never cleared: only translations change `error_status`, and they only add bits.
* `errorStatus_dartDeviceStep_errorStatus` — the write of `REG_DART_ERROR_STATUS` computes
  `error_status & ~val` and returns without storing it, so a guest's write-one-to-clear clears
  nothing and the line stays high after the first fault.
-/

namespace QemuAppleSilicon.Arm

open QemuAppleSilicon.Lib QemuAppleSilicon.Qemu

/-- `DART_MAX_INSTANCE`.
Source: `hw/arm/apple-silicon/dart.c` `DART_MAX_INSTANCE`
Kind: D -/
def DART_MAX_INSTANCE : ℕ := 2

/-- The fields of `AppleDARTState` that change: the instances (`instances[]`, unused ones
zero-initialised, so of type `DART_UNKNOWN`), how many `apple_dart_create` made, the guest memory
the walks read, and the level of `irq`.
Source: `hw/arm/apple-silicon/dart.c` `AppleDARTState`
Kind: D -/
structure DartDevice where
  instances : ℕ → AppleDARTInstance
  numInstances : ℕ
  mem : DmaMemory
  irq : Bool

/-- A DART-type instance with an error: what `apple_dart_update_irq` looks for.
Source: `hw/arm/apple-silicon/dart.c` `apple_dart_update_irq`
Kind: D -/
def Faulted (o : AppleDARTInstance) : Prop := o.type = .DART_DART ∧ o.errorStatus ≠ 0

instance (o : AppleDARTInstance) : Decidable (Faulted o) :=
  inferInstanceAs (Decidable (_ ∧ _))

/-- One instance of the loop of `apple_dart_update_irq`: once `level` is set the loop has
stopped.
Source: `hw/arm/apple-silicon/dart.c` `apple_dart_update_irq`
Kind: D -/
def updateIrqStep (instances : ℕ → AppleDARTInstance) (level : Bool) (i : ℕ) : Bool :=
  if level then level
  else if (instances i).type = .DART_DART then level || (instances i).errorStatus != 0
  else level

/-- `apple_dart_update_irq(s)`: the level it sets `irq` to.
Source: `hw/arm/apple-silicon/dart.c` `apple_dart_update_irq`
Kind: D -/
def appleDartUpdateIrq (instances : ℕ → AppleDARTInstance) : Bool :=
  (List.range DART_MAX_INSTANCE).foldl (updateIrqStep instances) false

/-- What the guest and the devices behind the DART can do: a four-byte write to the registers of
instance `i`, a store into guest memory, or a translation on stream `sid` of instance `i`.
Source: `hw/arm/apple-silicon/dart.c` `base_reg_ops`, `apple_dart_translate`
Kind: D -/
inductive DartDeviceOp where
  | regWrite (i addr : ℕ) (aligned : addr % 4 = 0) (data : UInt64)
  | memWrite (pa : ℕ) (bytes : List UInt8)
  | translate (i : ℕ) (sid : Fin DART_MAX_STREAMS) (addr : UInt64) (flag : IOMMUAccessFlags)

/-- One operation. Only a DART-type instance has IOMMU regions, and only the `ERROR_STATUS`
branch of `base_reg_write` calls `apple_dart_update_irq`; a translation always does, at `end`.
Source: `hw/arm/apple-silicon/dart.c` `base_reg_write`, `apple_dart_translate`
Kind: D -/
def dartDeviceStep (s : AppleDARTState) (d : DartDevice) : DartDeviceOp → DartDevice
  | .regWrite i addr _ data =>
    if i < d.numInstances then
      let o := d.instances i
      let instances := Function.update d.instances i (baseRegWrite o addr data)
      let irq := if o.type = .DART_DART ∧ addr = REG_DART_ERROR_STATUS then
        appleDartUpdateIrq instances else d.irq
      { d with instances := instances, irq := irq }
    else d
  | .memWrite pa bytes => { d with mem := d.mem.write pa bytes }
  | .translate i sid addr flag =>
    if i < d.numInstances ∧ (d.instances i).type = .DART_DART then
      let instances := Function.update d.instances i
        (appleDartTranslate s d.mem (d.instances i) sid addr flag).1
      { d with instances := instances, irq := appleDartUpdateIrq instances }
    else d

/-- A run of operations. -/
def dartDeviceRun (s : AppleDARTState) (d : DartDevice) (ops : List DartDeviceOp) : DartDevice :=
  ops.foldl (dartDeviceStep s) d

/-- The instances after a register write. -/
theorem instances_dartDeviceStep_regWrite (s : AppleDARTState) (d : DartDevice) (i addr : ℕ)
    (hal : addr % 4 = 0) (data : UInt64) :
    (dartDeviceStep s d (.regWrite i addr hal data)).instances =
      if i < d.numInstances then
        Function.update d.instances i (baseRegWrite (d.instances i) addr data)
      else d.instances := by
  dsimp only [dartDeviceStep]
  split_ifs <;> rfl

/-- The instances after a translation. -/
theorem instances_dartDeviceStep_translate (s : AppleDARTState) (d : DartDevice) (i : ℕ)
    (sid : Fin DART_MAX_STREAMS) (addr : UInt64) (flag : IOMMUAccessFlags) :
    (dartDeviceStep s d (.translate i sid addr flag)).instances =
      if i < d.numInstances ∧ (d.instances i).type = .DART_DART then
        Function.update d.instances i (appleDartTranslate s d.mem (d.instances i) sid addr flag).1
      else d.instances := by
  dsimp only [dartDeviceStep]
  split_ifs <;> rfl

/-! ## The level of the line -/

/-- The loop over a list of instances, from `acc`, ends set exactly when `acc` was or one of
them is faulted. By induction on the list. -/
theorem foldl_updateIrqStep_eq_true_iff (instances : ℕ → AppleDARTInstance) :
    ∀ (L : List ℕ) (acc : Bool),
      L.foldl (updateIrqStep instances) acc = true ↔ acc = true ∨ ∃ i ∈ L, Faulted (instances i)
  | [], acc => by simp
  | i :: L, acc => by
    rw [List.foldl_cons, foldl_updateIrqStep_eq_true_iff instances L]
    -- the step sets `level` exactly when it was set or instance `i` is faulted
    have hstep : updateIrqStep instances acc i = true ↔ acc = true ∨ Faulted (instances i) := by
      unfold updateIrqStep Faulted
      cases acc <;> by_cases hty : (instances i).type = .DART_DART <;> simp [hty]
    rw [hstep]
    simp only [List.mem_cons, exists_eq_or_imp, or_assoc]

/-- **`apple_dart_update_irq` raises the line exactly when some instance is faulted.**
Source: `hw/arm/apple-silicon/dart.c` `apple_dart_update_irq`
Kind: L -/
theorem appleDartUpdateIrq_eq_true_iff (instances : ℕ → AppleDARTInstance) :
    appleDartUpdateIrq instances = true ↔ ∃ i < DART_MAX_INSTANCE, Faulted (instances i) := by
  rw [appleDartUpdateIrq, foldl_updateIrqStep_eq_true_iff]
  simp

/-- The level depends only on which instances are faulted. -/
theorem appleDartUpdateIrq_congr {f g : ℕ → AppleDARTInstance}
    (h : ∀ j, Faulted (f j) ↔ Faulted (g j)) : appleDartUpdateIrq f = appleDartUpdateIrq g := by
  apply Bool.eq_iff_iff.mpr
  rw [appleDartUpdateIrq_eq_true_iff, appleDartUpdateIrq_eq_true_iff]
  simp only [h]

/-! ## What a register write does to `error_status` -/

/-- A four-byte write stores at a word other than `error_status`'s unless it is at
`REG_DART_ERROR_STATUS`. -/
theorem shiftRight_two_ne_of_ne {addr : ℕ} (hal : addr % 4 = 0) (h : addr ≠ REG_DART_ERROR_STATUS) :
    addr >>> 2 ≠ REG_DART_ERROR_STATUS / 4 := by
  rw [Nat.shiftRight_eq_div_pow]
  unfold REG_DART_ERROR_STATUS at h ⊢
  omega

/-- A register write leaves `error_status` of a DART-type instance, and of any instance when it
is not at `REG_DART_ERROR_STATUS`: the `ERROR_STATUS` branch stores nothing.
Source: `hw/arm/apple-silicon/dart.c` `base_reg_write`
Kind: L -/
theorem errorStatus_baseRegWrite {o : AppleDARTInstance} {addr : ℕ} (hal : addr % 4 = 0)
    (h : o.type = .DART_DART ∨ addr ≠ REG_DART_ERROR_STATUS) (data : UInt64) :
    (baseRegWrite o addr data).errorStatus = o.errorStatus := by
  have hword : (REG_DART_TLB_OP / 4 : ℕ) ≠ REG_DART_ERROR_STATUS / 4 := by decide
  dsimp only [baseRegWrite, AppleDARTInstance.errorStatus]
  split_ifs with hty hop _ _ hes
  · rfl
  · exact Function.update_of_ne hword.symm
      (o.tlbOp &&& ~~~(DART_TLB_OP_INVALIDATE ||| DART_TLB_OP_BUSY)) o.baseReg
  · exact Function.update_of_ne (shiftRight_two_ne_of_ne hal (by rw [hop]; decide)).symm _ _
  · rfl
  · exact Function.update_of_ne (shiftRight_two_ne_of_ne hal hes).symm _ _
  · exact Function.update_of_ne (shiftRight_two_ne_of_ne hal (h.resolve_left hty)).symm _ _

/-- A register write leaves whether the instance is faulted. -/
theorem faulted_baseRegWrite_iff {o : AppleDARTInstance} {addr : ℕ} (hal : addr % 4 = 0)
    (data : UInt64) : Faulted (baseRegWrite o addr data) ↔ Faulted o := by
  unfold Faulted
  rw [type_baseRegWrite]
  by_cases hty : o.type = .DART_DART
  · rw [errorStatus_baseRegWrite hal (Or.inl hty)]
  · simp only [hty, false_and]

/-! ## The invariant of the line -/

/-- The line is at the level `apple_dart_update_irq` would set.
Source: none: the law the interrupt is meant to keep
Kind: D -/
def IrqInv (d : DartDevice) : Prop := d.irq = appleDartUpdateIrq d.instances

instance (d : DartDevice) : Decidable (IrqInv d) :=
  inferInstanceAs (Decidable (_ = _))

/-- One operation keeps the line at its level: a translation and a write of `ERROR_STATUS` set
it again, and any other write leaves every instance as faulted as it was. -/
theorem IrqInv.step {d : DartDevice} (h : IrqInv d) (s : AppleDARTState) (op : DartDeviceOp) :
    IrqInv (dartDeviceStep s d op) := by
  cases op with
  | regWrite i addr hal data =>
    dsimp only [dartDeviceStep]
    split_ifs with hi hupd
    · rfl
    · -- the level is unchanged: so is which instances are faulted
      show d.irq = _
      rw [h]
      apply appleDartUpdateIrq_congr
      intro j
      dsimp only
      by_cases hj : j = i
      · subst hj
        rw [Function.update_self, faulted_baseRegWrite_iff hal]
      · rw [Function.update_of_ne hj]
    · exact h
  | memWrite pa bytes => exact h
  | translate i sid addr flag =>
    dsimp only [dartDeviceStep]
    split_ifs
    · rfl
    · exact h

/-- **The run lemma of the line**: from a state where the line is at its level, it stays there
over every run. By induction on the run, from `IrqInv.step`.
Source: `hw/arm/apple-silicon/dart.c` `apple_dart_update_irq`
Kind: L -/
theorem irqInv_dartDeviceRun (s : AppleDARTState) :
    ∀ (ops : List DartDeviceOp) (d : DartDevice), IrqInv d → IrqInv (dartDeviceRun s d ops)
  | [], _, h => h
  | op :: ops, _, h => irqInv_dartDeviceRun s ops _ (h.step s op)

/-! ## The error bits -/

/-- The bits of `error_status` outside the stream field (bits 24 to 27): those a fault sets and
the guest is to clear.
Source: `hw/arm/apple-silicon/dart.c` `DART_ERROR_*`
Kind: D -/
def StatusBit (k : ℕ) : Prop := k < DART_ERROR_STREAM_SHIFT ∨ DART_ERROR_STREAM_SHIFT + DART_ERROR_STREAM_LENGTH ≤ k

/-- `o'` has every status bit `o` has. -/
def KeepsErrorBits (o o' : AppleDARTInstance) : Prop :=
  ∀ k, StatusBit k → Bit o.errorStatus k → Bit o'.errorStatus k

theorem KeepsErrorBits.refl (o : AppleDARTInstance) : KeepsErrorBits o o := fun _ _ h => h

theorem KeepsErrorBits.trans {o₁ o₂ o₃ : AppleDARTInstance} (h₁ : KeepsErrorBits o₁ o₂)
    (h₂ : KeepsErrorBits o₂ o₃) : KeepsErrorBits o₁ o₃ :=
  fun k hk h => h₂ k hk (h₁ k hk h)

/-- Depositing the stream keeps every status bit. -/
theorem bit_deposit32_stream {v : UInt32} {k : ℕ} (hk : StatusBit k) (h : Bit v k) (f : UInt32) :
    Bit (deposit32 v DART_ERROR_STREAM_SHIFT DART_ERROR_STREAM_LENGTH f) k := by
  have hmask : (~~~(0 : UInt32) >>> UInt32.ofNat (32 - DART_ERROR_STREAM_LENGTH)) <<<
      UInt32.ofNat DART_ERROR_STREAM_SHIFT = 0x0F000000 := by decide
  -- the field's mask holds bits 24 to 27 only
  have hout : ∀ j < 32, StatusBit j → ¬ Bit (0x0F000000 : UInt32) j := by
    unfold StatusBit DART_ERROR_STREAM_SHIFT DART_ERROR_STREAM_LENGTH
    decide
  have hk32 := lt_of_bit h
  rw [deposit32, hmask, bit_or, bit_and, bit_not]
  exact Or.inl ⟨h, hk32, hout k hk32 hk⟩

/-- Recording a fault keeps every status bit.
Source: `hw/arm/apple-silicon/dart.c` `apple_dart_translate`
Kind: L -/
theorem keepsErrorBits_recordFault (o : AppleDARTInstance) (sid : ℕ) (status : UInt32)
    (addr : UInt64) : KeepsErrorBits o (o.recordFault sid status addr) := by
  intro k hk h
  have hstore : (o.recordFault sid status addr).errorStatus =
      deposit32 (o.errorStatus ||| status) DART_ERROR_STREAM_SHIFT DART_ERROR_STREAM_LENGTH
        (UInt32.ofNat sid) := by
    simp only [AppleDARTInstance.recordFault, AppleDARTInstance.setErrorAddress,
      AppleDARTInstance.setErrorStatus, AppleDARTInstance.errorStatus]
    rw [Function.update_of_ne (by decide), Function.update_of_ne (by decide), Function.update_self]
  rw [hstore]
  exact bit_deposit32_stream hk (bit_or.mpr (Or.inl h)) _

/-- The TLB step of a translation keeps every status bit: a hit and a cached walk leave the
registers, a failed walk records a fault.
Source: `hw/arm/apple-silicon/dart.c` `apple_dart_translate`
Kind: L -/
theorem keepsErrorBits_appleDartTlbLookup (s : AppleDARTState) (m : DmaMemory)
    (o : AppleDARTInstance) (sid rsid : ℕ) (addr : UInt64) :
    KeepsErrorBits o (appleDartTlbLookup s m o sid rsid addr).1 := by
  unfold appleDartTlbLookup
  dsimp only
  cases o.tlb (tlbKey s sid addr) with
  | some e => exact KeepsErrorBits.refl o
  | none =>
    rcases appleDartPtw s o m rsid (addr >>> UInt64.ofNat s.pageShift) with ⟨_ | e, status⟩
    · exact keepsErrorBits_recordFault o sid status addr
    · exact KeepsErrorBits.refl o

/-- The permission checks at the end of a translation keep every status bit.
Source: `hw/arm/apple-silicon/dart.c` `apple_dart_translate`
Kind: L -/
theorem keepsErrorBits_appleDartTranslateEnd (o : AppleDARTInstance) (sid : ℕ) (addr : UInt64)
    (flag : IOMMUAccessFlags) (entry : IOMMUTLBEntry) (tlbEntry : Option AppleDARTTLBEntry) :
    KeepsErrorBits o (appleDartTranslateEnd o sid addr flag entry tlbEntry).1 := by
  unfold appleDartTranslateEnd
  dsimp only
  split_ifs
  · exact (keepsErrorBits_recordFault _ _ _ _).trans (keepsErrorBits_recordFault _ _ _ _)
  · exact keepsErrorBits_recordFault _ _ _ _
  · exact keepsErrorBits_recordFault _ _ _ _
  · exact KeepsErrorBits.refl o

/-- A translation keeps every status bit.
Source: `hw/arm/apple-silicon/dart.c` `apple_dart_translate`
Kind: L -/
theorem keepsErrorBits_appleDartTranslate (s : AppleDARTState) (m : DmaMemory)
    (o : AppleDARTInstance) (sid : Fin DART_MAX_STREAMS) (addr : UInt64) (flag : IOMMUAccessFlags) :
    KeepsErrorBits o (appleDartTranslate s m o sid addr flag).1 := by
  dsimp only [appleDartTranslate, appleDartTranslateVia]
  split_ifs
  · exact KeepsErrorBits.refl o
  · exact KeepsErrorBits.refl o
  · exact KeepsErrorBits.refl o
  · exact (keepsErrorBits_appleDartTlbLookup s m o sid _ addr).trans
      (keepsErrorBits_appleDartTranslateEnd _ _ _ _ _ _)

/-- The write of `REG_DART_ERROR_STATUS` to a DART-type instance leaves its `error_status`:
`val = o->error_status & (~val)` is computed and never stored.
Source: `hw/arm/apple-silicon/dart.c` `base_reg_write`
Kind: L -/
theorem errorStatus_dartDeviceStep_errorStatus (s : AppleDARTState) (d : DartDevice) {i : ℕ}
    (hty : (d.instances i).type = .DART_DART) (hal : REG_DART_ERROR_STATUS % 4 = 0)
    (data : UInt64) :
    ((dartDeviceStep s d (.regWrite i REG_DART_ERROR_STATUS hal data)).instances i).errorStatus =
      (d.instances i).errorStatus := by
  rw [instances_dartDeviceStep_regWrite]
  split_ifs
  · rw [Function.update_self, errorStatus_baseRegWrite hal (Or.inl hty)]
  · rfl

/-- One operation keeps the type of every instance and the status bits of a DART-type one. -/
theorem keepsErrorBits_dartDeviceStep (s : AppleDARTState) (d : DartDevice) (op : DartDeviceOp)
    {i : ℕ} (hty : (d.instances i).type = .DART_DART) :
    ((dartDeviceStep s d op).instances i).type = .DART_DART ∧
      KeepsErrorBits (d.instances i) ((dartDeviceStep s d op).instances i) := by
  have hsame : (d.instances i).type = .DART_DART ∧ KeepsErrorBits (d.instances i) (d.instances i) :=
    ⟨hty, KeepsErrorBits.refl _⟩
  cases op with
  | regWrite j addr hal data =>
    rw [instances_dartDeviceStep_regWrite]
    split_ifs
    · by_cases hj : i = j
      · -- the write to instance `i` itself leaves its type and `error_status`
        subst hj
        rw [Function.update_self, type_baseRegWrite]
        refine ⟨hty, fun k _ hk => ?_⟩
        rw [errorStatus_baseRegWrite hal (Or.inl hty)]
        exact hk
      · rw [Function.update_of_ne hj]
        exact hsame
    · exact hsame
  | memWrite pa bytes => exact hsame
  | translate j sid addr flag =>
    rw [instances_dartDeviceStep_translate]
    split_ifs
    · by_cases hj : i = j
      · subst hj
        rw [Function.update_self]
        exact ⟨(translateEffect_appleDartTranslate s d.mem _ sid addr flag).type_eq.trans hty,
          keepsErrorBits_appleDartTranslate s d.mem _ sid addr flag⟩
      · rw [Function.update_of_ne hj]
        exact hsame
    · exact hsame

/-- **Over every run a DART-type instance keeps its type and its status bits.** By induction on
the run, from `keepsErrorBits_dartDeviceStep`.
Source: `hw/arm/apple-silicon/dart.c` `base_reg_write`, `apple_dart_translate`
Kind: L -/
theorem keepsErrorBits_dartDeviceRun (s : AppleDARTState) {i : ℕ} :
    ∀ (ops : List DartDeviceOp) (d : DartDevice), (d.instances i).type = .DART_DART →
      ((dartDeviceRun s d ops).instances i).type = .DART_DART ∧
        KeepsErrorBits (d.instances i) ((dartDeviceRun s d ops).instances i)
  | [], _, hty => ⟨hty, KeepsErrorBits.refl _⟩
  | op :: ops, d, hty => by
    obtain ⟨hty', hkeep⟩ := keepsErrorBits_dartDeviceStep s d op hty
    obtain ⟨hty'', hkeep'⟩ := keepsErrorBits_dartDeviceRun s ops _ hty'
    exact ⟨hty'', hkeep.trans hkeep'⟩

/-! ## The line after a fault -/

/-- **After a fault a DART-type instance keeps `DART_ERROR_FLAG` and the line stays high over
every run, whatever the guest writes to `REG_DART_ERROR_STATUS`**, from a state where the line
is at its level.
Source: `hw/arm/apple-silicon/dart.c` `base_reg_write`, `apple_dart_update_irq`
Kind: P -/
theorem dart_error_status_never_cleared (s : AppleDARTState) (d : DartDevice) (hinv : IrqInv d)
    {i : ℕ} (hi : i < DART_MAX_INSTANCE) (hty : (d.instances i).type = .DART_DART)
    (hflag : Bit (d.instances i).errorStatus 31) (ops : List DartDeviceOp) :
    Bit ((dartDeviceRun s d ops).instances i).errorStatus 31 ∧
      (dartDeviceRun s d ops).irq = true := by
  obtain ⟨hty', hkeep⟩ := keepsErrorBits_dartDeviceRun s ops d hty
  have hflag' := hkeep 31 (Or.inr (by decide)) hflag
  have hfault : Faulted ((dartDeviceRun s d ops).instances i) :=
    ⟨hty', fun h0 => bit_zero 31 (h0 ▸ hflag')⟩
  refine ⟨hflag', ?_⟩
  rw [irqInv_dartDeviceRun s ops d hinv, appleDartUpdateIrq_eq_true_iff]
  exact ⟨i, hi, hfault⟩

/-- One DART-type instance after reset, the second slot unused, the line low.
Source: `hw/arm/apple-silicon/dart.c` `apple_dart_create`, `apple_dart_reset`
Kind: D -/
def resetDartDevice : DartDevice where
  instances := fun i => if i = 0 then appleDartReset exampleDart exampleInstance
    else ⟨.DART_UNKNOWN, fun _ => 0, fun _ => none⟩
  numInstances := 1
  mem := exampleMemory
  irq := false

/-- `REG_DART_TCR 0` is a word offset.
Source: `hw/arm/apple-silicon/dart.c` `REG_DART_TCR`
Kind: L -/
theorem REG_DART_TCR_zero_aligned : REG_DART_TCR 0 % 4 = 0 := by decide

/-- Stream 0 exists.
Source: `hw/arm/apple-silicon/dart.c` `DART_MAX_STREAMS`
Kind: L -/
theorem DART_MAX_STREAMS_pos : 0 < DART_MAX_STREAMS := by decide

/-- Stream 0 gets translation enabled with no valid TTBR, and a read-write translation of `0x123`
on it faults. -/
def faultOps : List DartDeviceOp :=
  -- named lemmas, not inline proofs, which Lean would share with the same ones of `remapOps`
  [.regWrite 0 (REG_DART_TCR 0) REG_DART_TCR_zero_aligned 0x80,
   .translate 0 ⟨0, DART_MAX_STREAMS_pos⟩ 0x123 IOMMU_RW]

/-- The device after that fault. -/
def faultedDartDevice : DartDevice := dartDeviceRun exampleDart resetDartDevice faultOps

/-- The guest writes all ones to `REG_DART_ERROR_STATUS` after the fault: the flag and the line
stay. -/
theorem dart_error_status_never_cleared_w1c :
    IrqInv faultedDartDevice ∧ 0 < DART_MAX_INSTANCE ∧
      (faultedDartDevice.instances 0).type = .DART_DART ∧
      Bit (faultedDartDevice.instances 0).errorStatus 31 ∧
      Bit ((dartDeviceRun exampleDart faultedDartDevice
        [.regWrite 0 REG_DART_ERROR_STATUS (by decide) 0xFFFFFFFF]).instances 0).errorStatus 31 ∧
      (dartDeviceRun exampleDart faultedDartDevice
        [.regWrite 0 REG_DART_ERROR_STATUS (by decide) 0xFFFFFFFF]).irq = true := by
  have hinv : IrqInv faultedDartDevice :=
    irqInv_dartDeviceRun exampleDart faultOps resetDartDevice (by decide)
  have hty : (faultedDartDevice.instances 0).type = .DART_DART := by decide
  have hflag : Bit (faultedDartDevice.instances 0).errorStatus 31 := by decide
  exact ⟨hinv, by decide, hty, hflag, dart_error_status_never_cleared exampleDart faultedDartDevice
    hinv (by decide) hty hflag [.regWrite 0 REG_DART_ERROR_STATUS (by decide) 0xFFFFFFFF]⟩

end QemuAppleSilicon.Arm
