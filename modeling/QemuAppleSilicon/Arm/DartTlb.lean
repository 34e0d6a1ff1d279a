import QemuAppleSilicon.Arm.Dart

/-!
# The DART TLB caches the table walk

A DART translation caches each successful walk in its TLB, and the guest is meant to flush the
TLB (a write of `TLB_OP` with `DART_TLB_OP_INVALIDATE`, for the streams of `sid_mask`) after
each change of the tables. The question is whether a translation then answers what the
uncached translation `appleDartTranslateFresh` answers on the current registers and memory.

`TlbFresh s st sid` says that every TLB entry of stream `sid` is the walk of its page now. One
operation that leaves the walk of `sid` unchanged keeps it (`TlbFresh.step`: register
writes only remove entries, translations only add fresh ones), an effective invalidation
covering `sid` establishes it (`tlbFresh_dartStep_invalidate`), and under it the cached
translation is the uncached one (`appleDartTranslate_eq_fresh_of_tlbFresh`).

An invalidation is effective only while `tlb_op` has BUSY clear, and a write of `TLB_OP`
without `DART_TLB_OP_INVALIDATE` stores the guest's value, BUSY bit included: after one that
sets it, every later invalidation is dropped (`apple_dart_busy_write_keeps_stale_entry`).
Over a run from reset in which no write sets BUSY that way, and in which every operation that
changes the walk of `sid` is followed by an invalidation covering `sid`, the cached translation
is the uncached one (`apple_dart_translate_fresh`).
-/

namespace QemuAppleSilicon.Arm

open QemuAppleSilicon.Lib QemuAppleSilicon.Qemu

/-! ## TLB keys -/

/-- A page number is below `2^52`: the address is 64-bit and the page at least 4 KiB. -/
theorem toNat_pageNumber (s : AppleDARTState) (addr : UInt64) :
    (addr >>> UInt64.ofNat s.pageShift).toNat < 2 ^ 52 := by
  have hshift : (UInt64.ofNat s.pageShift).toNat % 64 = s.pageShift := by
    rcases s.pageShift_cases with h | h <;> rw [h] <;> rfl
  have hlt : addr.toNat < 2 ^ 64 := addr.toNat_lt
  rw [UInt64.toNat_shiftRight, hshift, Nat.shiftRight_eq_div_pow]
  rcases s.pageShift_cases with h | h <;> rw [h] <;> omega

/-- A TLB key is the stream above bit 53 plus the page number below it. -/
theorem toNat_tlbKey (s : AppleDARTState) {sid : ℕ} (hsid : sid < 16) (addr : UInt64) :
    (tlbKey s sid addr).toNat = 2 ^ 53 * sid + (addr >>> UInt64.ofNat s.pageShift).toNat := by
  have hpage := toNat_pageNumber s addr
  have hsid' : (UInt64.ofNat sid &&& 0xF).toNat = sid := by
    rw [UInt64.toNat_and, UInt64.toNat_ofNat', Nat.mod_eq_of_lt (by omega)]
    exact (Nat.and_two_pow_sub_one_eq_mod sid 4).trans (Nat.mod_eq_of_lt hsid)
  have hhigh : (DART_IOTLB_SID (UInt64.ofNat sid)).toNat = sid <<< 53 := by
    rw [DART_IOTLB_SID, UInt64.toNat_shiftLeft, hsid', Nat.mod_eq_of_lt]
    · rfl
    · rw [show DART_IOTLB_SID_SHIFT.toNat % 64 = 53 from rfl, Nat.shiftLeft_eq]
      omega
  rw [tlbKey, UInt64.toNat_or, hhigh, ← Nat.shiftLeft_add_eq_or_of_lt (by omega), Nat.shiftLeft_eq,
    Nat.mul_comm]

/-- The stream `GET_DART_IOTLB_SID` reads back from a key is the stream it was built from. -/
theorem getDartIotlbSid_tlbKey (s : AppleDARTState) {sid : ℕ} (hsid : sid < 16) (addr : UInt64) :
    GET_DART_IOTLB_SID (tlbKey s sid addr) = UInt64.ofNat sid := by
  have hpage := toNat_pageNumber s addr
  apply UInt64.toNat_inj.mp
  rw [GET_DART_IOTLB_SID, UInt64.toNat_and, UInt64.toNat_shiftRight, toNat_tlbKey s hsid,
    show DART_IOTLB_SID_SHIFT.toNat % 64 = 53 from rfl, Nat.shiftRight_eq_div_pow,
    show (0xF : UInt64).toNat = 2 ^ 4 - 1 from rfl, Nat.and_two_pow_sub_one_eq_mod,
    UInt64.toNat_ofNat']
  omega

/-- Two accesses share a key only on the same stream and page. -/
theorem tlbKey_inj (s : AppleDARTState) {a b : ℕ} (ha : a < 16) (hb : b < 16) {x y : UInt64}
    (h : tlbKey s a x = tlbKey s b y) :
    a = b ∧ x >>> UInt64.ofNat s.pageShift = y >>> UInt64.ofNat s.pageShift := by
  have hx := toNat_pageNumber s x
  have hy := toNat_pageNumber s y
  have hnat := congrArg UInt64.toNat h
  rw [toNat_tlbKey s ha, toNat_tlbKey s hb] at hnat
  refine ⟨by omega, UInt64.toNat_inj.mp (by omega)⟩

/-! ## What the walk reads -/

/-- The walk a translation on stream `sid` makes of each page number: the table walk of the
remapped stream on the current registers and memory.
Source: `hw/arm/apple-silicon/dart.c` `apple_dart_translate`
Kind: D -/
def DartMachine.walk (s : AppleDARTState) (st : DartMachine) (sid : ℕ) :
    UInt64 → Option AppleDARTTLBEntry :=
  fun iova => (appleDartPtw s st.inst st.mem (st.inst.remapped sid) iova).1

/-- The walk reads only the words from `remap` (word `0x20`) on. -/
theorem walk_congr {s : AppleDARTState} {st st' : DartMachine} (hm : st'.mem = st.mem)
    (h : ∀ w, 32 ≤ w → st'.inst.baseReg w = st.inst.baseReg w) (sid : ℕ) :
    st'.walk s sid = st.walk s sid := by
  have httbr : ∀ rsid idx, st'.inst.ttbr rsid idx = st.inst.ttbr rsid idx := fun rsid idx =>
    h _ (by unfold REG_DART_TTBR; omega)
  have hremap : st'.inst.remapped sid = st.inst.remapped sid := by
    unfold AppleDARTInstance.remapped AppleDARTInstance.remap AppleDARTInstance.regByte
    rw [h _ (by unfold DART_SID_REMAP; omega)]
  funext iova
  simp only [DartMachine.walk, appleDartPtw, hremap, httbr, hm]

/-! ## What a translation changes -/

/-- `o'` is `o` with at most the error registers (`error_status`, the two words of
`error_address`) changed. -/
structure ErrorsOnly (o o' : AppleDARTInstance) : Prop where
  type_eq : o'.type = o.type
  tlb_eq : o'.tlb = o.tlb
  baseReg_eq : ∀ w, w ≠ 16 → w ≠ 20 → w ≠ 21 → o'.baseReg w = o.baseReg w

theorem ErrorsOnly.refl (o : AppleDARTInstance) : ErrorsOnly o o :=
  ⟨rfl, rfl, fun _ _ _ _ => rfl⟩

theorem ErrorsOnly.trans {o₁ o₂ o₃ : AppleDARTInstance} (h₁ : ErrorsOnly o₁ o₂)
    (h₂ : ErrorsOnly o₂ o₃) : ErrorsOnly o₁ o₃ :=
  ⟨h₂.type_eq.trans h₁.type_eq, h₂.tlb_eq.trans h₁.tlb_eq, fun w h16 h20 h21 =>
    (h₂.baseReg_eq w h16 h20 h21).trans (h₁.baseReg_eq w h16 h20 h21)⟩

/-- Recording a fault writes only the error registers. -/
theorem errorsOnly_recordFault (o : AppleDARTInstance) (sid : ℕ) (status : UInt32)
    (addr : UInt64) : ErrorsOnly o (o.recordFault sid status addr) := by
  refine ⟨rfl, rfl, fun w h16 h20 h21 => ?_⟩
  simp only [AppleDARTInstance.recordFault, AppleDARTInstance.setErrorAddress,
    AppleDARTInstance.setErrorStatus]
  rw [Function.update_of_ne (show w ≠ REG_DART_ERROR_ADDRESS_LO / 4 + 1 from h21),
    Function.update_of_ne (show w ≠ REG_DART_ERROR_ADDRESS_LO / 4 from h20),
    Function.update_of_ne (show w ≠ REG_DART_ERROR_STATUS / 4 from h16)]

/-- The end of a translation records faults only. -/
theorem errorsOnly_appleDartTranslateEnd (o : AppleDARTInstance) (sid : ℕ) (addr : UInt64)
    (flag : IOMMUAccessFlags) (entry : IOMMUTLBEntry) (tlbEntry : Option AppleDARTTLBEntry) :
    ErrorsOnly o (appleDartTranslateEnd o sid addr flag entry tlbEntry).1 := by
  unfold appleDartTranslateEnd
  dsimp only
  split_ifs
  · exact (errorsOnly_recordFault _ _ _ _).trans (errorsOnly_recordFault _ _ _ _)
  · exact errorsOnly_recordFault _ _ _ _
  · exact errorsOnly_recordFault _ _ _ _
  · exact ErrorsOnly.refl o

/-- Only the error registers enter the end of a translation: two instances that agree on their
registers end with the same registers and the same entry. -/
theorem appleDartTranslateEnd_congr {o₁ o₂ : AppleDARTInstance} (h : o₁.baseReg = o₂.baseReg)
    (sid : ℕ) (addr : UInt64) (flag : IOMMUAccessFlags) (entry : IOMMUTLBEntry)
    (tlbEntry : Option AppleDARTTLBEntry) :
    (appleDartTranslateEnd o₁ sid addr flag entry tlbEntry).2 =
        (appleDartTranslateEnd o₂ sid addr flag entry tlbEntry).2 ∧
      (appleDartTranslateEnd o₁ sid addr flag entry tlbEntry).1.baseReg =
        (appleDartTranslateEnd o₂ sid addr flag entry tlbEntry).1.baseReg := by
  refine ⟨rfl, ?_⟩
  simp only [appleDartTranslateEnd, AppleDARTInstance.recordFault,
    AppleDARTInstance.setErrorAddress, AppleDARTInstance.setErrorStatus,
    AppleDARTInstance.errorStatus]
  split_ifs <;> simp only [h]

/-- What a translation may do to the instance: write the error registers, and cache the walk
of its page under its key. -/
structure TranslateEffect (s : AppleDARTState) (m : DmaMemory) (o o' : AppleDARTInstance)
    (sid : ℕ) (addr : UInt64) : Prop where
  type_eq : o'.type = o.type
  baseReg_eq : ∀ w, w ≠ 16 → w ≠ 20 → w ≠ 21 → o'.baseReg w = o.baseReg w
  tlb_eq : o'.tlb = o.tlb ∨ ∃ e,
    (appleDartPtw s o m (o.remapped sid) (addr >>> UInt64.ofNat s.pageShift)).1 = some e ∧
      o'.tlb = Function.update o.tlb (tlbKey s sid addr) (some e)

theorem ErrorsOnly.translateEffect {s : AppleDARTState} {m : DmaMemory} {o o' : AppleDARTInstance}
    (h : ErrorsOnly o o') (sid : ℕ) (addr : UInt64) : TranslateEffect s m o o' sid addr :=
  ⟨h.type_eq, h.baseReg_eq, Or.inl h.tlb_eq⟩

theorem TranslateEffect.trans_errorsOnly {s : AppleDARTState} {m : DmaMemory}
    {o o' o'' : AppleDARTInstance} {sid : ℕ} {addr : UInt64} (h : TranslateEffect s m o o' sid addr)
    (h' : ErrorsOnly o' o'') : TranslateEffect s m o o'' sid addr := by
  refine ⟨h'.type_eq.trans h.type_eq, fun w h16 h20 h21 =>
    (h'.baseReg_eq w h16 h20 h21).trans (h.baseReg_eq w h16 h20 h21), ?_⟩
  rw [h'.tlb_eq]
  exact h.tlb_eq

/-- The TLB step of a translation: a hit changes nothing, a failed walk records a fault, a
successful one is cached. -/
theorem translateEffect_appleDartTlbLookup (s : AppleDARTState) (m : DmaMemory)
    (o : AppleDARTInstance) (sid : ℕ) (addr : UInt64) :
    TranslateEffect s m o (appleDartTlbLookup s m o sid (o.remapped sid) addr).1 sid addr := by
  unfold appleDartTlbLookup
  dsimp only
  cases o.tlb (tlbKey s sid addr) with
  | some e => exact (ErrorsOnly.refl o).translateEffect sid addr
  | none =>
    rcases hwalk : appleDartPtw s o m (o.remapped sid) (addr >>> UInt64.ofNat s.pageShift) with
      ⟨_ | e, status⟩
    · exact (errorsOnly_recordFault o sid status addr).translateEffect sid addr
    · exact ⟨rfl, fun _ _ _ _ => rfl, Or.inr ⟨e, by rw [hwalk], rfl⟩⟩

/-- A translation writes the error registers and caches at most the walk of its own page. -/
theorem translateEffect_appleDartTranslate (s : AppleDARTState) (m : DmaMemory)
    (o : AppleDARTInstance) (sid : Fin DART_MAX_STREAMS) (addr : UInt64) (flag : IOMMUAccessFlags) :
    TranslateEffect s m o (appleDartTranslate s m o sid addr flag).1 sid addr := by
  dsimp only [appleDartTranslate, appleDartTranslateVia]
  split_ifs
  · exact (ErrorsOnly.refl o).translateEffect sid addr
  · exact (ErrorsOnly.refl o).translateEffect sid addr
  · exact (ErrorsOnly.refl o).translateEffect sid addr
  · exact (translateEffect_appleDartTlbLookup s m o sid addr).trans_errorsOnly
      (errorsOnly_appleDartTranslateEnd _ _ _ _ _ _)

/-! ## What a register write changes -/

@[simp] theorem type_baseRegWrite (o : AppleDARTInstance) (addr : ℕ) (data : UInt64) :
    (baseRegWrite o addr data).type = o.type := by
  dsimp only [baseRegWrite]
  split_ifs <;> rfl

/-- A register write only ever removes TLB entries. -/
theorem tlb_baseRegWrite_of_eq_some {o : AppleDARTInstance} {addr : ℕ} {data : UInt64}
    {key : UInt64} {e : AppleDARTTLBEntry} (h : (baseRegWrite o addr data).tlb key = some e) :
    o.tlb key = some e := by
  dsimp only [baseRegWrite] at h
  split_ifs at h with _ _ _ _ hrm
  all_goals first
    | exact h
    | (dsimp only at h; split_ifs at h; exact h)

/-- A write below `remap` (offset `0x80`) leaves every word from `remap` on. -/
theorem baseReg_baseRegWrite_of_le {o : AppleDARTInstance} {addr : ℕ} (haddr : addr < 0x80)
    (data : UInt64) {w : ℕ} (hw : 32 ≤ w) : (baseRegWrite o addr data).baseReg w = o.baseReg w := by
  have hne : w ≠ addr >>> 2 := by
    rw [Nat.shiftRight_eq_div_pow]
    omega
  have hne8 : w ≠ REG_DART_TLB_OP / 4 := by
    unfold REG_DART_TLB_OP
    omega
  dsimp only [baseRegWrite]
  split_ifs
  all_goals first
    | rfl
    | exact Function.update_of_ne hne _ _
    | exact Function.update_of_ne hne8 _ _

/-! ## The BUSY handshake -/

/-- `tlb_op` has BUSY clear: an invalidation written now is carried out.
Source: `hw/arm/apple-silicon/dart.c` `base_reg_write`
Kind: D -/
def BusyClear (o : AppleDARTInstance) : Prop := o.tlbOp &&& DART_TLB_OP_BUSY = 0

/-- The operation writes `TLB_OP` with BUSY set and `DART_TLB_OP_INVALIDATE` clear, a value
`base_reg_write` stores as it is.
Source: `hw/arm/apple-silicon/dart.c` `base_reg_write`
Kind: D -/
def DartOp.SetsBusy : DartOp → Prop
  | .regWrite addr _ data => addr = REG_DART_TLB_OP ∧
      data.toUInt32 &&& DART_TLB_OP_INVALIDATE = 0 ∧ data.toUInt32 &&& DART_TLB_OP_BUSY ≠ 0
  | .memWrite _ _ => False
  | .translate _ _ _ => False

instance : DecidablePred DartOp.SetsBusy := fun op =>
  match op with
  | .regWrite _ _ _ => inferInstanceAs (Decidable (_ ∧ _ ∧ _))
  | .memWrite _ _ => inferInstanceAs (Decidable False)
  | .translate _ _ _ => inferInstanceAs (Decidable False)

/-- A register write on a DART-type instance keeps BUSY clear unless it sets it itself. -/
theorem busyClear_baseRegWrite {o : AppleDARTInstance} (hty : o.type = .DART_DART)
    (hb : BusyClear o) {addr : ℕ} (haligned : addr % 4 = 0) {data : UInt64}
    (hset : ¬ (DartOp.regWrite addr haligned data).SetsBusy) :
    BusyClear (baseRegWrite o addr data) := by
  have hclear : ∀ x : UInt32,
      (x &&& ~~~(DART_TLB_OP_INVALIDATE ||| DART_TLB_OP_BUSY)) &&& DART_TLB_OP_BUSY = 0 := by
    intro x
    rw [eq_zero_iff]
    intro k
    simp only [bit_and, bit_not, bit_or]
    tauto
  by_cases haddr : addr = REG_DART_TLB_OP
  · subst haddr
    dsimp only [baseRegWrite]
    rw [if_pos hty, if_pos rfl]
    split_ifs with hinv hbusy
    · exact hb
    · exact hclear o.tlbOp
    · -- a plain store of `tlb_op`: the guest's value, whose BUSY bit `hset` rules out
      have hval : data.toUInt32 &&& DART_TLB_OP_BUSY = 0 := by
        by_contra hne
        exact hset ⟨rfl, not_not.mp hinv, hne⟩
      exact hval
  · have hne : REG_DART_TLB_OP / 4 ≠ addr >>> 2 := by
      rw [Nat.shiftRight_eq_div_pow]
      unfold REG_DART_TLB_OP at haddr ⊢
      omega
    dsimp only [baseRegWrite]
    rw [if_pos hty, if_neg haddr]
    split_ifs
    · exact hb
    · unfold BusyClear AppleDARTInstance.tlbOp
      dsimp only
      rw [Function.update_of_ne hne]
      exact hb

/-- An invalidation written while BUSY is clear removes the entries of the streams in
`sid_mask`. -/
theorem tlb_baseRegWrite_invalidate {o : AppleDARTInstance} (hty : o.type = .DART_DART)
    (hb : BusyClear o) {data : UInt64} (hinv : data.toUInt32 &&& DART_TLB_OP_INVALIDATE ≠ 0)
    (key : UInt64) :
    (baseRegWrite o REG_DART_TLB_OP data).tlb key =
      if appleDartTlbRemoveBySidMask key o.sidMask then none else o.tlb key := by
  dsimp only [baseRegWrite]
  rw [if_pos hty, if_pos rfl, if_pos hinv, if_neg (fun h => h hb)]

/-! ## One operation -/

@[simp] theorem type_dartStep (s : AppleDARTState) (st : DartMachine) (op : DartOp) :
    (dartStep s st op).inst.type = st.inst.type := by
  cases op with
  | regWrite addr _ data => exact type_baseRegWrite st.inst addr data
  | memWrite pa bytes => rfl
  | translate sid addr flag => exact (translateEffect_appleDartTranslate s st.mem st.inst sid addr flag).type_eq

/-- BUSY stays clear over an operation that does not set it. -/
theorem busyClear_dartStep {s : AppleDARTState} {st : DartMachine} (hty : st.inst.type = .DART_DART)
    (hb : BusyClear st.inst) {op : DartOp} (hop : ¬ op.SetsBusy) : BusyClear (dartStep s st op).inst := by
  cases op with
  | regWrite addr haligned data => exact busyClear_baseRegWrite hty hb haligned hop
  | memWrite pa bytes => exact hb
  | translate sid addr flag =>
    have h8 := (translateEffect_appleDartTranslate s st.mem st.inst sid addr flag).baseReg_eq
      (REG_DART_TLB_OP / 4) (by decide) (by decide) (by decide)
    unfold BusyClear AppleDARTInstance.tlbOp
    simp only [dartStep]
    rw [h8]
    exact hb

/-! ## The TLB holds fresh walks -/

/-- Every TLB entry of stream `sid` is the walk of its page on the current registers and
memory.
Source: none: specification
Kind: D -/
def TlbFresh (s : AppleDARTState) (st : DartMachine) (sid : Fin DART_MAX_STREAMS) : Prop :=
  ∀ addr e, st.inst.tlb (tlbKey s sid addr) = some e →
    st.walk s sid (addr >>> UInt64.ofNat s.pageShift) = some e

/-- An operation that leaves the walk of `sid` unchanged keeps its entries fresh: register writes
only remove entries, and a translation adds the walk it has just made. -/
theorem TlbFresh.step {s : AppleDARTState} {st : DartMachine} {sid : Fin DART_MAX_STREAMS}
    (h : TlbFresh s st sid) (op : DartOp) (hw : (dartStep s st op).walk s sid = st.walk s sid) :
    TlbFresh s (dartStep s st op) sid := by
  intro addr e he
  rw [hw]
  cases op with
  | regWrite a _ data => exact h addr e (tlb_baseRegWrite_of_eq_some he)
  | memWrite pa bytes => exact h addr e he
  | translate t a flag =>
    rcases (translateEffect_appleDartTranslate s st.mem st.inst t a flag).tlb_eq with
      htlb | ⟨e', hwalk, htlb⟩
    · simp only [dartStep] at he
      rw [htlb] at he
      exact h addr e he
    · simp only [dartStep] at he
      rw [htlb] at he
      by_cases hk : tlbKey s sid addr = tlbKey s t a
      · -- the entry just cached: same stream and page, so the walk just made
        rw [hk, Function.update_self, Option.some_inj] at he
        obtain ⟨hsid, hpage⟩ := tlbKey_inj s sid.isLt t.isLt hk
        rw [← he, ← hwalk, DartMachine.walk, hsid, hpage]
      · rw [Function.update_of_ne hk] at he
        exact h addr e he

/-- An invalidation written while BUSY is clear and `sid_mask` covers `sid` leaves no entry of
`sid`. -/
theorem tlbFresh_dartStep_invalidate {s : AppleDARTState} {st : DartMachine}
    {sid : Fin DART_MAX_STREAMS} (hty : st.inst.type = .DART_DART) (hb : BusyClear st.inst)
    (haligned : REG_DART_TLB_OP % 4 = 0) {data : UInt64}
    (hinv : data.toUInt32 &&& DART_TLB_OP_INVALIDATE ≠ 0)
    (hmask : ((1 : UInt64) <<< UInt64.ofNat sid) &&& st.inst.sidMask ≠ 0) :
    TlbFresh s (dartStep s st (.regWrite REG_DART_TLB_OP haligned data)) sid := by
  intro addr e he
  have hrm : appleDartTlbRemoveBySidMask (tlbKey s sid addr) st.inst.sidMask = true := by
    rw [appleDartTlbRemoveBySidMask, getDartIotlbSid_tlbKey s sid.isLt]
    exact bne_iff_ne.mpr hmask
  simp only [dartStep] at he
  rw [tlb_baseRegWrite_invalidate hty hb hinv, if_pos hrm] at he
  cases he

/-! ## Translation under a fresh TLB -/

/-- Under a fresh TLB, the TLB step answers what the walk answers, and records the same fault. -/
theorem appleDartTlbLookup_eq_walk {s : AppleDARTState} {m : DmaMemory} {o : AppleDARTInstance}
    {sid : Fin DART_MAX_STREAMS} (h : TlbFresh s ⟨o, m⟩ sid) (addr : UInt64) :
    (appleDartTlbLookup s m o sid (o.remapped sid) addr).2 =
        (appleDartWalk s m o sid (o.remapped sid) addr).2 ∧
      (appleDartTlbLookup s m o sid (o.remapped sid) addr).1.baseReg =
        (appleDartWalk s m o sid (o.remapped sid) addr).1.baseReg := by
  dsimp only [appleDartTlbLookup, appleDartWalk]
  rcases hk : o.tlb (tlbKey s sid addr) with _ | e
  · rcases appleDartPtw s o m (o.remapped sid) (addr >>> UInt64.ofNat s.pageShift) with
      ⟨_ | e, status⟩ <;> exact ⟨rfl, rfl⟩
  · -- a hit: freshness says the walk finds the same entry
    have hw : (appleDartPtw s o m (o.remapped sid) (addr >>> UInt64.ofNat s.pageShift)).1 =
        some e := h addr e hk
    rcases hp : appleDartPtw s o m (o.remapped sid) (addr >>> UInt64.ofNat s.pageShift) with
      ⟨_ | e', status⟩
    · rw [hp] at hw
      cases hw
    · rw [hp] at hw
      cases hw
      exact ⟨rfl, rfl⟩

/-- Under a fresh TLB, a translation answers what the uncached translation answers, and records
the same faults. -/
theorem appleDartTranslate_eq_fresh_of_tlbFresh {s : AppleDARTState} {m : DmaMemory}
    {o : AppleDARTInstance} {sid : Fin DART_MAX_STREAMS} (h : TlbFresh s ⟨o, m⟩ sid)
    (addr : UInt64) (flag : IOMMUAccessFlags) :
    (appleDartTranslate s m o sid addr flag).2 = (appleDartTranslateFresh s m o sid addr flag).2 ∧
      (appleDartTranslate s m o sid addr flag).1.baseReg =
        (appleDartTranslateFresh s m o sid addr flag).1.baseReg := by
  dsimp only [appleDartTranslate, appleDartTranslateFresh, appleDartTranslateVia]
  split_ifs
  · exact ⟨rfl, rfl⟩
  · exact ⟨rfl, rfl⟩
  · exact ⟨rfl, rfl⟩
  · obtain ⟨hentry, hregs⟩ := appleDartTlbLookup_eq_walk h addr
    rcases hl : appleDartTlbLookup s m o sid (o.remapped sid) addr with ⟨o₁, e₁⟩
    rcases hw : appleDartWalk s m o sid (o.remapped sid) addr with ⟨o₂, e₂⟩
    rw [hl, hw] at hentry hregs
    dsimp only at hentry hregs
    subst hentry
    exact appleDartTranslateEnd_congr hregs _ _ _ _ _

/-! ## Reset -/

/-- The remap bytes of the reset values lie from word `0x20` on. -/
theorem foldl_storeRegByte_remap {w : ℕ} (hw : w < 32) (l : List ℕ) (regs : ℕ → UInt32) :
    l.foldl (fun regs j => storeRegByte regs (DART_SID_REMAP 0 + j) (UInt8.ofNat j)) regs w =
      regs w := by
  induction l generalizing regs with
  | nil => rfl
  | cons j l ih =>
    rw [List.foldl_cons, ih]
    exact Function.update_of_ne (by unfold DART_SID_REMAP; omega) _ _

/-- After reset a DART-type instance has an empty TLB and BUSY clear. -/
theorem appleDartReset_of_dart (s : AppleDARTState) {o : AppleDARTInstance}
    (hty : o.type = .DART_DART) :
    (appleDartReset s o).type = .DART_DART ∧ (∀ key, (appleDartReset s o).tlb key = none) ∧
      BusyClear (appleDartReset s o) := by
  have h8 : dartResetRegs s (REG_DART_TLB_OP / 4) = 0 := by
    unfold dartResetRegs
    rw [foldl_storeRegByte_remap (by decide)]
    exact Function.update_of_ne (by decide) _ _
  unfold appleDartReset
  rw [hty]
  refine ⟨rfl, fun _ => rfl, ?_⟩
  unfold BusyClear AppleDARTInstance.tlbOp
  dsimp only
  rw [h8]
  rfl

/-! ## Runs -/

/-- Later in `ops`, a write of `TLB_OP` with `DART_TLB_OP_INVALIDATE` while `sid_mask` covers
stream `sid`.
Source: none: specification
Kind: D -/
def InvalidatesLater (s : AppleDARTState) (sid : ℕ) (st : DartMachine) (ops : List DartOp) :
    Prop :=
  ∃ pre data post, ops = pre ++ DartOp.regWrite REG_DART_TLB_OP (by decide) data :: post ∧
    data.toUInt32 &&& DART_TLB_OP_INVALIDATE ≠ 0 ∧
    ((1 : UInt64) <<< UInt64.ofNat sid) &&& (dartRun s st pre).inst.sidMask ≠ 0

/-- Every operation of `ops` that changes the walk of stream `sid` (a store into its tables,
a change of its `TTBR` or of its remapping) is followed by an invalidation covering `sid`.
Source: none: specification
Kind: D -/
def InvalidatedAfterChanges (s : AppleDARTState) (sid : ℕ) : DartMachine → List DartOp → Prop
  | _, [] => True
  | st, op :: ops =>
    ((dartStep s st op).walk s sid ≠ st.walk s sid →
        InvalidatesLater s sid (dartStep s st op) ops) ∧
      InvalidatedAfterChanges s sid (dartStep s st op) ops

/-- The run lemma: from a DART-type instance with BUSY clear whose entries of `sid` are fresh or
are flushed later, a run that never sets BUSY and invalidates after each change of the walk
ends with the entries of `sid` fresh. The induction is on the run; the pending invalidation
is either the next operation, which empties the entries of `sid`, or further on. -/
theorem tlbFresh_dartRun (s : AppleDARTState) (sid : Fin DART_MAX_STREAMS) (ops : List DartOp) :
    ∀ st : DartMachine, st.inst.type = .DART_DART → BusyClear st.inst →
      (∀ op ∈ ops, ¬ op.SetsBusy) → InvalidatedAfterChanges s sid st ops →
      (TlbFresh s st sid ∨ InvalidatesLater s sid st ops) → TlbFresh s (dartRun s st ops) sid := by
  induction ops with
  | nil =>
    intro st _ _ _ _ hf
    rcases hf with hf | ⟨pre, _, _, heq, _⟩
    · exact hf
    · exact absurd heq.symm (by simp)
  | cons op ops ih =>
    intro st hty hb hbusy hdisc hf
    have hop : ¬ op.SetsBusy := hbusy op List.mem_cons_self
    apply ih (dartStep s st op) ((type_dartStep s st op).trans hty) (busyClear_dartStep hty hb hop)
      (fun o ho => hbusy o (List.mem_cons_of_mem op ho)) hdisc.2
    rcases hf with hf | ⟨pre, data, post, heq, hinv, hmask⟩
    · by_cases hw : (dartStep s st op).walk s sid = st.walk s sid
      · exact Or.inl (hf.step op hw)
      · exact Or.inr (hdisc.1 hw)
    · cases pre with
      | nil =>
        -- the invalidation is this operation
        obtain ⟨rfl, -⟩ := List.cons.inj heq
        exact Or.inl (tlbFresh_dartStep_invalidate hty hb _ hinv hmask)
      | cons p pre =>
        obtain ⟨rfl, rfl⟩ := List.cons.inj heq
        exact Or.inr ⟨pre, data, post, rfl, hinv, hmask⟩

/-- From reset, the translations of a run that never sets BUSY in `TLB_OP` and that invalidates
stream `sid` after each change of its walk answer on `sid` what the uncached translation
answers on the current registers and memory, and record the same faults.
Source: `hw/arm/apple-silicon/dart.c` `apple_dart_translate`, `apple_dart_ptw`, `base_reg_write`
Kind: P -/
theorem apple_dart_translate_fresh (s : AppleDARTState) (o : AppleDARTInstance) (m : DmaMemory)
    (hty : o.type = .DART_DART) (sid : Fin DART_MAX_STREAMS) (ops : List DartOp)
    (hbusy : ∀ op ∈ ops, ¬ op.SetsBusy)
    (hdisc : InvalidatedAfterChanges s sid ⟨appleDartReset s o, m⟩ ops)
    (addr : UInt64) (flag : IOMMUAccessFlags) :
    let st := dartRun s ⟨appleDartReset s o, m⟩ ops
    (appleDartTranslate s st.mem st.inst sid addr flag).2 =
        (appleDartTranslateFresh s st.mem st.inst sid addr flag).2 ∧
      (appleDartTranslate s st.mem st.inst sid addr flag).1.baseReg =
        (appleDartTranslateFresh s st.mem st.inst sid addr flag).1.baseReg := by
  intro st
  obtain ⟨hty₀, hempty, hb₀⟩ := appleDartReset_of_dart s hty
  have hfresh₀ : TlbFresh s ⟨appleDartReset s o, m⟩ sid := by
    intro addr e he
    rw [hempty] at he
    cases he
  exact appleDartTranslate_eq_fresh_of_tlbFresh
    (tlbFresh_dartRun s sid ops _ hty₀ hb₀ hbusy hdisc (Or.inl hfresh₀)) addr flag

/-- A run that ends with an invalidation covering `sid` invalidates after every change it makes:
the final write itself changes no walk. -/
theorem invalidatedAfterChanges_append_invalidate (s : AppleDARTState) (sid : ℕ) {data : UInt64}
    (hinv : data.toUInt32 &&& DART_TLB_OP_INVALIDATE ≠ 0) (ops : List DartOp) :
    ∀ st : DartMachine, ((1 : UInt64) <<< UInt64.ofNat sid) &&& (dartRun s st ops).inst.sidMask ≠ 0 →
      InvalidatedAfterChanges s sid st (ops ++ [DartOp.regWrite REG_DART_TLB_OP (by decide) data]) := by
  induction ops with
  | nil =>
    intro st _
    refine ⟨fun hw => absurd ?_ hw, trivial⟩
    have hm : (dartStep s st (DartOp.regWrite REG_DART_TLB_OP (by decide) data)).mem = st.mem := rfl
    refine walk_congr hm (fun w hw => ?_) sid
    exact baseReg_baseRegWrite_of_le (show REG_DART_TLB_OP < 0x80 by decide) data hw
  | cons op ops ih =>
    intro st hmask
    exact ⟨fun _ => ⟨ops, data, [], rfl, hinv, hmask⟩, ih (dartStep s st op) hmask⟩

/-- A DART with 4 KiB pages and no bypassed stream, over guest memory that is all backed and
zero. -/
def exampleDart : AppleDARTState := ⟨12, Or.inl rfl, 0, 0, 0⟩

/-- Source: none: infrastructure. Kind: D -/
def exampleInstance : AppleDARTInstance := ⟨.DART_DART, fun _ => 0, fun _ => none⟩

/-- Source: none: infrastructure. Kind: D -/
def exampleMemory : DmaMemory := ⟨fun _ => 0, fun _ => true⟩

/-- Stream 0 gets its table at `0x1000` and translation enabled; the level-1 entry points to a
table at `0x2000` whose entry 0 maps page 0 to `0x5000`; a translation of `0x123` caches that;
the entry is changed to map `0x6000`, and `sid_mask` selects stream 0. -/
def remapOps : List DartOp :=
  [.regWrite (REG_DART_TTBR 0 0) (by decide) 0x80000001,
   .regWrite (REG_DART_TCR 0) (by decide) 0x80,
   .memWrite 0x1000 (leBytes 0x2003 8),
   .memWrite 0x2000 (leBytes 0x5003 8),
   .translate ⟨0, by decide⟩ 0x123 IOMMU_RW,
   .memWrite 0x2000 (leBytes 0x6003 8),
   .regWrite REG_DART_SID_MASK_LOW (by decide) 1]

/-- The invalidation the guest writes after `remapOps`. -/
def invalidateOp : DartOp := .regWrite REG_DART_TLB_OP (by decide) 0x100000

/-- After `remapOps` and the invalidation, from reset, the translation of `0x123` on stream 0
is the uncached one. -/
theorem apple_dart_translate_fresh_remap :
    let st₀ : DartMachine := ⟨appleDartReset exampleDart exampleInstance, exampleMemory⟩
    let ops := remapOps ++ [invalidateOp]
    let st := dartRun exampleDart st₀ ops
    (∀ op ∈ ops, ¬ op.SetsBusy) ∧ InvalidatedAfterChanges exampleDart 0 st₀ ops ∧
      ((appleDartTranslate exampleDart st.mem st.inst ⟨0, by decide⟩ 0x123 IOMMU_RW).2 =
          (appleDartTranslateFresh exampleDart st.mem st.inst ⟨0, by decide⟩ 0x123 IOMMU_RW).2 ∧
        (appleDartTranslate exampleDart st.mem st.inst ⟨0, by decide⟩ 0x123 IOMMU_RW).1.baseReg =
          (appleDartTranslateFresh exampleDart st.mem st.inst ⟨0, by decide⟩ 0x123 IOMMU_RW).1.baseReg) := by
  intro st₀ ops st
  have hbusy : ∀ op ∈ ops, ¬ op.SetsBusy := by decide
  have hdisc : InvalidatedAfterChanges exampleDart 0 st₀ ops :=
    invalidatedAfterChanges_append_invalidate exampleDart 0 (by decide) remapOps st₀ (by decide)
  exact ⟨hbusy, hdisc, apple_dart_translate_fresh exampleDart exampleInstance exampleMemory rfl
    ⟨0, by decide⟩ ops hbusy hdisc 0x123 IOMMU_RW⟩

/-- A write of `4` (BUSY alone) to `TLB_OP` before `remapOps` and the invalidation: the run
invalidates after each change of the walk, but the invalidation is dropped, and the translation
of `0x123` answers the stale `0x5123` where the tables now give `0x6123`.
Source: `hw/arm/apple-silicon/dart.c` `base_reg_write`, `apple_dart_translate`
Kind: P -/
theorem apple_dart_busy_write_keeps_stale_entry :
    let st₀ : DartMachine := ⟨appleDartReset exampleDart exampleInstance, exampleMemory⟩
    let ops := DartOp.regWrite REG_DART_TLB_OP (by decide) 4 :: remapOps ++ [invalidateOp]
    let st := dartRun exampleDart st₀ ops
    InvalidatedAfterChanges exampleDart 0 st₀ ops ∧
      (appleDartTranslate exampleDart st.mem st.inst ⟨0, by decide⟩ 0x123 IOMMU_RW).2.translatedAddr =
        0x5123 ∧
      (appleDartTranslateFresh exampleDart st.mem st.inst ⟨0, by decide⟩ 0x123 IOMMU_RW).2.translatedAddr =
        0x6123 := by
  intro st₀ ops st
  refine ⟨?_, by decide, by decide⟩
  exact invalidatedAfterChanges_append_invalidate exampleDart 0 (by decide)
    (DartOp.regWrite REG_DART_TLB_OP (by decide) 4 :: remapOps) st₀ (by decide)

end QemuAppleSilicon.Arm
