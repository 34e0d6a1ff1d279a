import Mathlib.Algebra.BigOperators.Ring.List
import QemuAppleSilicon.Arm.Dtb.Edit
import QemuAppleSilicon.Qemu.Base

/-!
# The carveout allocator (`hw/arm/apple-silicon/mem.c`)

`t8030_memory_setup` hands out the firmware carveouts at the top of DRAM through one allocator.
`carveout_alloc_new` puts a pointer `end` at `dram_base + dram_size`; each
`carveout_alloc_mem(ca, size)` moves `end` down by `size`, rounds it down to the alignment,
records the region as the property `region-id-N = (base, size)` of the `carveout-memory-map`
node and steps `N`, skipping `55` (an iBoot profiler region); `carveout_alloc_finalise` returns
the span left below `end`, rounded down, for the kernel region.

`carveout_alloc_layout` is what a caller can count on for every sequence of sizes whose rounded
total fits: each base is aligned, the regions lie inside DRAM in decreasing order (so they are
pairwise disjoint) and above the span finalise returns, and the node gets one property per call,
under distinct names that are never `region-id-55`. It needs `dram_base` to be a multiple of the
alignment, which the t8030 base `0x800000000` is for the `16 KiB` it passes: the rounding is of
the absolute address, so from an unaligned base a region can start below `dram_base`
(`carveout_alloc_below_base_unaligned`). It also needs fewer than `2^31` calls, past which `%d`
prints the id as a negative number.

The proofs follow the span `x` between `dram_base` and `end` (`end = dram_base + x`): one call
takes it to `(x - size) / a * a` (`carveoutAllocMem_spec`), and `carveoutAllocRun_spec` carries
the layout over a run, by induction on the sizes.
-/

namespace QemuAppleSilicon.Arm

open QemuAppleSilicon.Arm.Dtb QemuAppleSilicon.Qemu QemuAppleSilicon.Lib

/-! ## The allocator -/

/-- `CarveoutAllocator`.
Source: `hw/arm/apple-silicon/mem.c` `struct CarveoutAllocator`
Kind: D -/
structure CarveoutAllocator where
  dramBase : UInt64
  «end» : UInt64
  alignment : UInt64
  /-- The `carveout-memory-map` node the regions are recorded in. -/
  node : DTBNode
  curId : UInt32

/-- `carveout_alloc_new`: `dram_size` and `alignment` must be non-zero; `end` starts at the top
of DRAM and `cur_id` at `0` (`g_new0`).
Source: `hw/arm/apple-silicon/mem.c` `carveout_alloc_new`
Kind: D -/
def carveoutAllocNew (carveoutMmap : DTBNode) (dramBase dramSize alignment : UInt64) :
    Option CarveoutAllocator :=
  if dramSize = 0 then none
  else if alignment = 0 then none
  else some ⟨dramBase, dramBase + dramSize, alignment, carveoutMmap, 0⟩

/-- The `region_name` that `carveout_alloc_mem` prints with
`snprintf(region_name, 32, "region-id-%d", ca->cur_id)`. The longest such text,
`region-id--2147483648`, has 21 characters, so the buffer never truncates it.
Source: `hw/arm/apple-silicon/mem.c` `carveout_alloc_mem`
Kind: D -/
def regionName (curId : UInt32) : List UInt8 := asciiBytes "region-id-" ++ printfDecimal curId.toInt32

/-- The id after `cur_id`: one more, and one more again where that is `55`.
Source: `hw/arm/apple-silicon/mem.c` `carveout_alloc_mem`
Kind: D -/
def carveoutNextId (curId : UInt32) : UInt32 :=
  if curId + 1 = 55 then curId + 1 + 1 else curId + 1

/-- `carveout_alloc_mem`: the base of the new region and the allocator after the call; `none`
where an assertion fails (a zero `size`, or one of `dtb_set_prop`'s). The property holds
`data[0] = end` and `data[1] = size`, little-endian.
Source: `hw/arm/apple-silicon/mem.c` `carveout_alloc_mem`
Kind: D -/
def carveoutAllocMem (ca : CarveoutAllocator) (size : UInt64) :
    Option (UInt64 × CarveoutAllocator) :=
  if size = 0 then none
  else
    let e := roundDown64 (ca.end - size) ca.alignment
    match dtbSetProp ca.node (regionName ca.curId) 16
        (some (leBytes e.toNat 8 ++ leBytes size.toNat 8)) with
    | none => none
    | some node => some (e, { ca with «end» := e, node := node, curId := carveoutNextId ca.curId })

/-- `carveout_alloc_finalise`: the span between `dram_base` and `end`, rounded down.
Source: `hw/arm/apple-silicon/mem.c` `carveout_alloc_finalise`
Kind: D -/
def carveoutAllocFinalise (ca : CarveoutAllocator) : UInt64 :=
  roundDown64 (ca.end - ca.dramBase) ca.alignment

/-- A caller's calls of `carveout_alloc_mem`, one per size in order, as `t8030_memory_setup`
makes them: the bases returned and the allocator after.
Source: `hw/arm/apple-silicon/t8030.c` `t8030_memory_setup`
Kind: D -/
def carveoutAllocRun (ca : CarveoutAllocator) : List UInt64 → Option (List UInt64 × CarveoutAllocator)
  | [] => some ([], ca)
  | size :: sizes =>
    match carveoutAllocMem ca size with
    | none => none
    | some (r, ca) =>
      match carveoutAllocRun ca sizes with
      | none => none
      | some (rs, ca) => some (r :: rs, ca)

/-! ## Region ids and names -/

/-- The id the `i`-th call (from `0`) prints: `i`, one more from the call after `54` on. -/
def carveoutRegionId (i : ℕ) : UInt32 := UInt32.ofNat (if i < 55 then i else i + 1)

theorem carveoutRegionId_toNat {i : ℕ} (hi : i + 1 < 2 ^ 32) :
    (carveoutRegionId i).toNat = if i < 55 then i else i + 1 := by
  rw [carveoutRegionId, UInt32.toNat_ofNat', Nat.mod_eq_of_lt (by split <;> omega)]

/-- `cur_id` steps from the id of one call to the id of the next.
Source: `hw/arm/apple-silicon/mem.c` `carveout_alloc_mem`
Kind: L -/
theorem carveoutNextId_regionId {i : ℕ} (hi : i + 2 < 2 ^ 32) :
    carveoutNextId (carveoutRegionId i) = carveoutRegionId (i + 1) := by
  apply UInt32.toNat_inj.mp
  have hid := carveoutRegionId_toNat (i := i) (by omega)
  have hnext := carveoutRegionId_toNat (i := i + 1) (by omega)
  have hsucc : (carveoutRegionId i + 1).toNat = (carveoutRegionId i).toNat + 1 := by
    rw [UInt32.toNat_add, UInt32.toNat_one, Nat.mod_eq_of_lt (by split at hid <;> omega)]
  unfold carveoutNextId
  split
  · -- the call after id `54` skips to `56`
    rename_i h55
    have h55' : (carveoutRegionId i).toNat + 1 = 55 := by
      rw [← hsucc, h55]
      rfl
    rw [UInt32.toNat_add, hsucc, UInt32.toNat_one]
    split_ifs at hid hnext <;> omega
  · rename_i h55
    have h55' : (carveoutRegionId i).toNat + 1 ≠ 55 := fun h =>
      h55 (UInt32.toNat_inj.mp (by rw [hsucc, h]; rfl))
    rw [hsucc]
    split_ifs at hid hnext <;> omega

/-- The ids of the calls are below `2^31`, so `%d` prints them as they are. -/
theorem carveoutRegionId_lt {i : ℕ} (hi : i + 1 < 2 ^ 31) : (carveoutRegionId i).toNat < 2 ^ 31 := by
  rw [carveoutRegionId_toNat (by omega)]
  split <;> omega

/-- A region name of an id below `2^31` fits `dtb_set_prop`: shorter than 32 bytes, no `NUL`. -/
theorem regionName_cstr {n : UInt32} (hn : n.toNat < 2 ^ 31) :
    (regionName n).length < DT_PROP_NAME_LEN ∧ 0 ∉ regionName n := by
  obtain ⟨hlen, hz⟩ := printfDecimal_toInt32_cstr hn
  have hprefix : (asciiBytes "region-id-").length = 10 := rfl
  refine ⟨?_, ?_⟩
  · rw [regionName, List.length_append, hprefix, DT_PROP_NAME_LEN]
    omega
  · rw [regionName, List.mem_append, not_or]
    exact ⟨by decide, hz⟩

/-- Two calls print the same name only if they are the same call. -/
theorem regionName_regionId_injective {i j : ℕ} (hi : i + 1 < 2 ^ 31) (hj : j + 1 < 2 ^ 31)
    (h : regionName (carveoutRegionId i) = regionName (carveoutRegionId j)) : i = j := by
  have hid := printfDecimal_toInt32_injective (carveoutRegionId_lt hi) (carveoutRegionId_lt hj)
    (List.append_cancel_left h)
  have hnat := congrArg UInt32.toNat hid
  rw [carveoutRegionId_toNat (by omega), carveoutRegionId_toNat (by omega)] at hnat
  split at hnat <;> split at hnat <;> omega

/-- No call prints `region-id-55`. -/
theorem regionName_regionId_ne_55 {i : ℕ} (hi : i + 1 < 2 ^ 31) :
    regionName (carveoutRegionId i) ≠ regionName 55 := by
  intro h
  have hid := printfDecimal_toInt32_injective (carveoutRegionId_lt hi) (by decide)
    (List.append_cancel_left h)
  have hnat := congrArg UInt32.toNat hid
  rw [carveoutRegionId_toNat (by omega)] at hnat
  split at hnat <;> simp at hnat <;> omega

/-! ## One call -/

/-- The span left between `dram_base` and `end` after a call of `size` from a span `x`, for
an alignment `a`: `x - size`, rounded down. -/
def carveoutSpanAfter (a x size : ℕ) : ℕ := (x - size) / a * a

theorem carveoutSpanAfter_le (a x size : ℕ) : carveoutSpanAfter a x size ≤ x - size :=
  Nat.div_mul_le_self _ _

/-- Room for a multiple of the alignment is kept by the rounding. -/
theorem le_carveoutSpanAfter {a x size R : ℕ} (ha : 0 < a) (hR : a ∣ R) (h : R ≤ x - size) :
    R ≤ carveoutSpanAfter a x size := by
  obtain ⟨q, rfl⟩ := hR
  have hq : q ≤ (x - size) / a := (Nat.le_div_iff_mul_le ha).mpr (by rw [Nat.mul_comm]; exact h)
  calc a * q = q * a := Nat.mul_comm a q
    _ ≤ (x - size) / a * a := Nat.mul_le_mul_right a hq

theorem toNat_add_ofNat {b : UInt64} {m : ℕ} (h : b.toNat + m < 2 ^ 64) :
    (b + UInt64.ofNat m).toNat = b.toNat + m := by
  rw [UInt64.toNat_add, UInt64.toNat_ofNat', Nat.mod_eq_of_lt (show m < 2 ^ 64 by omega),
    Nat.mod_eq_of_lt h]

/-- The new `end`: `end - size` is `dram_base + (x - size)`, even where `end` itself wrapped to
`0` at the top of the address space, and rounding it down rounds the span, the base being a
multiple of the alignment.
Source: `hw/arm/apple-silicon/mem.c` `carveout_alloc_mem`
Kind: L -/
theorem roundDown64_end_sub {b size : UInt64} {x k : ℕ} (hbase : 2 ^ k ∣ b.toNat)
    (htop : b.toNat + x ≤ 2 ^ 64) (hsize : size ≠ 0) (hroom : size.toNat ≤ x) {a : UInt64}
    (ha : a.toNat = 2 ^ k) :
    roundDown64 (b + UInt64.ofNat x - size) a = b + UInt64.ofNat (carveoutSpanAfter (2 ^ k) x size.toNat) := by
  have hs : 0 < size.toNat := by
    have : size.toNat ≠ 0 := fun h => hsize (UInt64.toNat_inj.mp h)
    omega
  have hsub : (b + UInt64.ofNat x - size).toNat = b.toNat + (x - size.toNat) := by
    have hx : x % 2 ^ 64 = x ∨ x = 2 ^ 64 := by
      rcases Nat.lt_or_ge x (2 ^ 64) with h | h
      · exact Or.inl (Nat.mod_eq_of_lt h)
      · omega
    rw [UInt64.toNat_sub, UInt64.toNat_add, UInt64.toNat_ofNat']
    have hb := b.toNat_lt
    have hsz := size.toNat_lt
    rcases hx with hx | hx
    · rw [hx]
      omega
    · subst hx
      omega
  have hspan := carveoutSpanAfter_le (2 ^ k) x size.toNat
  apply UInt64.toNat_inj.mp
  rw [roundDown64_toNat _ ha, hsub, ha, toNat_add_ofNat (by omega)]
  obtain ⟨q, hq⟩ := hbase
  rw [hq, Nat.mul_add_div (Nat.two_pow_pos k), Nat.add_mul, carveoutSpanAfter, Nat.mul_comm q]

/-- One call of `carveout_alloc_mem` with room for `size` below `end = dram_base + x`: it moves
`end` to `dram_base` plus the rounded span left, records `(end, size)` under the name of the
current id, leaves every other property, and steps the id.
Source: `hw/arm/apple-silicon/mem.c` `carveout_alloc_mem`
Kind: L -/
theorem carveoutAllocMem_spec {ca : CarveoutAllocator} {size : UInt64} {x k : ℕ}
    (halign : ca.alignment.toNat = 2 ^ k) (hbase : 2 ^ k ∣ ca.dramBase.toNat)
    (hend : ca.end = ca.dramBase + UInt64.ofNat x) (htop : ca.dramBase.toNat + x ≤ 2 ^ 64)
    (hsize : size ≠ 0) (hroom : size.toNat ≤ x) (hid : ca.curId.toNat < 2 ^ 31) :
    ∃ node', carveoutAllocMem ca size =
        some (ca.dramBase + UInt64.ofNat (carveoutSpanAfter (2 ^ k) x size.toNat),
          { ca with «end» := ca.dramBase + UInt64.ofNat (carveoutSpanAfter (2 ^ k) x size.toNat),
                    node := node', curId := carveoutNextId ca.curId }) ∧
      (dtbFindProp node' (regionName ca.curId)).map DTBProp.data =
        some (leBytes (ca.dramBase + UInt64.ofNat (carveoutSpanAfter (2 ^ k) x size.toNat)).toNat 8 ++
          leBytes size.toNat 8) ∧
      ∀ name, name ≠ regionName ca.curId → dtbFindProp node' name = dtbFindProp ca.node name := by
  have hround := roundDown64_end_sub hbase htop hsize hroom halign
  rw [← hend] at hround
  obtain ⟨p, hp, hdata⟩ := setPropValue_of_length (v := leBytes (ca.dramBase +
    UInt64.ofNat (carveoutSpanAfter (2 ^ k) x size.toNat)).toNat 8 ++ leBytes size.toNat 8)
    (show (16 : UInt32) ≠ 0 by decide) (by simp)
  obtain ⟨hlen, hz⟩ := regionName_cstr hid
  obtain ⟨node', hset, -, hfind⟩ := @dtbSetProp_eq_some ca.node _ _ _ _ hp hlen hz
  refine ⟨node', ?_, ?_, fun name hne => ?_⟩
  · simp only [carveoutAllocMem, if_neg hsize, hround, hset]
  · rw [hfind, if_pos rfl, Option.map_some, hdata]
  · rw [hfind, if_neg hne]

/-! ## A run of calls -/

/-- What a run of calls leaves, started from `ca` with its `c`-th call and a span `x`, for the
`sizes` asked, the bases `rs` returned, the allocator `ca'` and the span `x'` after. -/
structure CarveoutRun (ca : CarveoutAllocator) (c x : ℕ) (sizes rs : List UInt64)
    (ca' : CarveoutAllocator) (x' : ℕ) : Prop where
  length_eq : rs.length = sizes.length
  dramBase_eq : ca'.dramBase = ca.dramBase
  alignment_eq : ca'.alignment = ca.alignment
  end_eq : ca'.end = ca.dramBase + UInt64.ofNat x'
  span_le : x' ≤ x
  curId_eq : ca'.curId = carveoutRegionId (c + sizes.length)
  /-- Every base is aligned. -/
  aligned : ∀ (i : ℕ) (r : UInt64), rs[i]? = some r → ca.alignment.toNat ∣ r.toNat
  /-- Every base is at or above what is left below `end`. -/
  above : ∀ (i : ℕ) (r : UInt64), rs[i]? = some r → ca.dramBase.toNat + x' ≤ r.toNat
  /-- Every region ends at or below the `end` the run started from. -/
  below : ∀ (i : ℕ) (r s : UInt64), rs[i]? = some r → sizes[i]? = some s → r.toNat + s.toNat ≤ ca.dramBase.toNat + x
  /-- A later region ends at or below an earlier one's base. -/
  ordered : ∀ (i j : ℕ) (r r' s' : UInt64), i < j → rs[i]? = some r → rs[j]? = some r' → sizes[j]? = some s' →
    r'.toNat + s'.toNat ≤ r.toNat
  /-- The `i`-th call's property holds its base and size. -/
  prop_eq : ∀ (i : ℕ) (r s : UInt64), rs[i]? = some r → sizes[i]? = some s →
    (dtbFindProp ca'.node (regionName (carveoutRegionId (c + i)))).map DTBProp.data =
      some (leBytes r.toNat 8 ++ leBytes s.toNat 8)
  /-- No other property changes. -/
  prop_other : ∀ name, (∀ i < sizes.length, name ≠ regionName (carveoutRegionId (c + i))) →
    dtbFindProp ca'.node name = dtbFindProp ca.node name

/-- The rounded total of the sizes asked, which must fit in the span left. -/
def carveoutRoundedTotal (a : ℕ) (sizes : List UInt64) : ℕ :=
  (sizes.map fun s => roundUp s.toNat a).sum

theorem dvd_carveoutRoundedTotal (a : ℕ) (sizes : List UInt64) : a ∣ carveoutRoundedTotal a sizes := by
  apply List.dvd_sum
  intro n hn
  obtain ⟨s, -, rfl⟩ := List.mem_map.mp hn
  exact Nat.dvd_mul_left a _

/-- A run from `ca` is its first call, to `ca₁` with base `r` at span `x₁`, followed by a run
from `ca₁`. Each field splits at index `0`: the first call for `0`, the rest of the run above. -/
theorem CarveoutRun.cons {ca ca₁ ca' : CarveoutAllocator} {c x x₁ x' : ℕ} {s r : UInt64}
    {sizes rs : List UInt64} (h : CarveoutRun ca₁ (c + 1) x₁ sizes rs ca' x')
    (hbase₁ : ca₁.dramBase = ca.dramBase)
    (halign₁ : ca₁.alignment = ca.alignment) (hr : r.toNat = ca.dramBase.toNat + x₁)
    (hdvd : ca.alignment.toNat ∣ r.toNat) (hx₁ : x₁ + s.toNat ≤ x)
    (hprop₁ : (dtbFindProp ca₁.node (regionName (carveoutRegionId c))).map DTBProp.data =
      some (leBytes r.toNat 8 ++ leBytes s.toNat 8))
    (hother₁ : ∀ name, name ≠ regionName (carveoutRegionId c) →
      dtbFindProp ca₁.node name = dtbFindProp ca.node name)
    (hnames : ∀ i < sizes.length, regionName (carveoutRegionId (c + 1 + i)) ≠
      regionName (carveoutRegionId c)) :
    CarveoutRun ca c x (s :: sizes) (r :: rs) ca' x' where
  length_eq := by rw [List.length_cons, List.length_cons, h.length_eq]
  dramBase_eq := h.dramBase_eq.trans hbase₁
  alignment_eq := h.alignment_eq.trans halign₁
  end_eq := by rw [h.end_eq, hbase₁]
  span_le := by
    have := h.span_le
    omega
  curId_eq := by
    rw [h.curId_eq, List.length_cons, Nat.add_assoc, Nat.add_comm 1]
  aligned := by
    rintro (_ | i) r' hr'
    · rw [List.getElem?_cons_zero, Option.some.injEq] at hr'
      exact hr' ▸ hdvd
    · rw [← halign₁]
      exact h.aligned i r' hr'
  above := by
    rintro (_ | i) r' hr'
    · rw [List.getElem?_cons_zero, Option.some.injEq] at hr'
      subst hr'
      have := h.span_le
      omega
    · rw [← hbase₁]
      exact h.above i r' hr'
  below := by
    rintro (_ | i) r' s' hr' hs'
    · rw [List.getElem?_cons_zero, Option.some.injEq] at hr' hs'
      subst hr' hs'
      omega
    · have := h.below i r' s' hr' hs'
      rw [hbase₁] at this
      omega
  ordered := by
    rintro i (_ | j) r₀ r' s' hij hr₀ hr' hs'
    · omega
    · rw [List.getElem?_cons_succ] at hr' hs'
      cases i with
      | zero =>
        -- a later region ends below the first call's base
        rw [List.getElem?_cons_zero, Option.some.injEq] at hr₀
        subst hr₀
        have := h.below j r' s' hr' hs'
        rw [hbase₁] at this
        omega
      | succ i => exact h.ordered i j r₀ r' s' (by omega) hr₀ hr' hs'
  prop_eq := by
    rintro (_ | i) r' s' hr' hs'
    · -- the first call's property survives the rest of the run, whose names differ
      rw [List.getElem?_cons_zero, Option.some.injEq] at hr' hs'
      subst hr' hs'
      rw [Nat.add_zero, h.prop_other _ fun i hi => (hnames i hi).symm, hprop₁]
    · rw [← Nat.add_assoc, Nat.add_right_comm]
      exact h.prop_eq i r' s' hr' hs'
  prop_other := by
    intro name hname
    have hrest : ∀ i < sizes.length, name ≠ regionName (carveoutRegionId (c + 1 + i)) := by
      intro i hi
      rw [Nat.add_assoc, Nat.add_comm 1]
      exact hname (i + 1) (by simp [hi])
    rw [h.prop_other name hrest, hother₁ name (by simpa using hname 0 (by simp))]

/-- A run whose rounded total fits below `end`, from the `c`-th call with fewer than `2^31` calls
in all, succeeds and leaves a `CarveoutRun`. The induction is on the sizes, generalising the
allocator, the call count and the span: the first call is `carveoutAllocMem_spec`, and its span
after still holds the rest's rounded total, which is a multiple of the alignment.
Source: `hw/arm/apple-silicon/mem.c` `carveout_alloc_mem`
Kind: L -/
theorem carveoutAllocRun_spec {k : ℕ} :
    ∀ (sizes : List UInt64) (ca : CarveoutAllocator) (c x : ℕ),
      ca.alignment.toNat = 2 ^ k → 2 ^ k ∣ ca.dramBase.toNat →
      ca.end = ca.dramBase + UInt64.ofNat x → ca.dramBase.toNat + x ≤ 2 ^ 64 →
      (∀ s ∈ sizes, s ≠ 0) → carveoutRoundedTotal (2 ^ k) sizes ≤ x →
      ca.curId = carveoutRegionId c → c + sizes.length < 2 ^ 31 →
      ∃ rs ca' x', carveoutAllocRun ca sizes = some (rs, ca') ∧ CarveoutRun ca c x sizes rs ca' x'
  | [], ca, c, x, _, _, hend, _, _, _, hid, _ =>
    ⟨[], ca, x, rfl,
      { length_eq := rfl, dramBase_eq := rfl, alignment_eq := rfl, end_eq := hend,
        span_le := le_rfl, curId_eq := hid, aligned := by simp, above := by simp,
        below := by simp, ordered := by simp, prop_eq := by simp, prop_other := fun _ _ => rfl }⟩
  | s :: sizes, ca, c, x, halign, hbase, hend, htop, hpos, htotal, hid, hcount => by
    have ha : 0 < 2 ^ k := Nat.two_pow_pos k
    have htotal' : roundUp s.toNat (2 ^ k) + carveoutRoundedTotal (2 ^ k) sizes ≤ x := by
      simpa [carveoutRoundedTotal] using htotal
    have hs := le_roundUp s.toNat ha
    have hcount' : c + 1 + sizes.length < 2 ^ 31 := by
      simp only [List.length_cons] at hcount
      omega
    have hidlt := carveoutRegionId_lt (i := c) (by omega)
    rw [← hid] at hidlt
    have hspos : 0 < s.toNat := by
      have hne : s.toNat ≠ 0 := fun h => hpos s List.mem_cons_self (UInt64.toNat_inj.mp h)
      omega
    -- the first call
    obtain ⟨node₁, hmem, hprop₁, hother₁⟩ :=
      carveoutAllocMem_spec halign hbase hend htop (hpos s List.mem_cons_self) (by omega) hidlt
    have hx₁le := carveoutSpanAfter_le (2 ^ k) x s.toNat
    have hrest : carveoutRoundedTotal (2 ^ k) sizes ≤ carveoutSpanAfter (2 ^ k) x s.toNat :=
      le_carveoutSpanAfter ha (dvd_carveoutRoundedTotal _ _) (by omega)
    have hx₁dvd : 2 ^ k ∣ carveoutSpanAfter (2 ^ k) x s.toNat := Nat.dvd_mul_left _ _
    generalize carveoutSpanAfter (2 ^ k) x s.toNat = x₁ at hmem hprop₁ hx₁le hrest hx₁dvd
    have hr : (ca.dramBase + UInt64.ofNat x₁).toNat = ca.dramBase.toNat + x₁ :=
      toNat_add_ofNat (by omega)
    -- the rest of the run, from the allocator after the first call
    obtain ⟨rs, ca', x', hrun, hinv⟩ := carveoutAllocRun_spec sizes
      { ca with «end» := ca.dramBase + UInt64.ofNat x₁, node := node₁,
                curId := carveoutNextId ca.curId } (c + 1) x₁
      halign hbase rfl (show ca.dramBase.toNat + x₁ ≤ 2 ^ 64 by omega) (fun s' hs' => hpos s' (List.mem_cons_of_mem s hs')) hrest
      (by rw [hid, carveoutNextId_regionId (by omega)]) hcount'
    refine ⟨(ca.dramBase + UInt64.ofNat x₁) :: rs, ca', x',
      by simp only [carveoutAllocRun, hmem, hrun], ?_⟩
    refine hinv.cons rfl rfl hr (by rw [hr, halign]; exact Nat.dvd_add hbase hx₁dvd)
      (by omega) (by rw [← hid]; exact hprop₁) (by rw [← hid]; exact hother₁) (fun i hi => ?_)
    -- the later calls print other names
    intro heq
    have := regionName_regionId_injective (i := c + 1 + i) (j := c) (by omega) (by omega) heq
    omega

/-! ## The layout of every run -/

/-- `carveout_alloc_finalise` returns the span between `dram_base` and `end`, rounded down.
Source: `hw/arm/apple-silicon/mem.c` `carveout_alloc_finalise`
Kind: L -/
theorem carveoutAllocFinalise_toNat {ca : CarveoutAllocator} {x k : ℕ}
    (halign : ca.alignment.toNat = 2 ^ k) (hend : ca.end = ca.dramBase + UInt64.ofNat x)
    (hx : x < 2 ^ 64) : (carveoutAllocFinalise ca).toNat = x / 2 ^ k * 2 ^ k := by
  have hspan : ca.end - ca.dramBase = UInt64.ofNat x := by
    rw [hend]
    grind
  rw [carveoutAllocFinalise, roundDown64_toNat _ halign, hspan, UInt64.toNat_ofNat',
    Nat.mod_eq_of_lt hx, halign]

/-- For a DRAM base that is a multiple of the power-of-two alignment, a DRAM range that does not
wrap, and fewer than `2^31` calls of non-zero sizes whose rounded total fits in DRAM: every call
succeeds; every base is aligned, inside DRAM with its region, and at or above what
`carveout_alloc_finalise` returns; a later region ends at or below an earlier one's base; the
`i`-th call's property `region-id-N` holds its base and size, under a name no other call and no
`region-id-55` shares; and no other property of the node changes.
Source: `hw/arm/apple-silicon/mem.c` `carveout_alloc_new` / `carveout_alloc_mem` / `carveout_alloc_finalise`
Kind: P -/
theorem carveout_alloc_layout (node : DTBNode) (dramBase dramSize alignment : UInt64)
    (sizes : List UInt64) {k : ℕ} (halign : alignment.toNat = 2 ^ k)
    (hbase : alignment.toNat ∣ dramBase.toNat) (htop : dramBase.toNat + dramSize.toNat ≤ 2 ^ 64)
    (hdram : dramSize ≠ 0) (hpos : ∀ s ∈ sizes, s ≠ 0)
    (htotal : (sizes.map fun s => roundUp s.toNat alignment.toNat).sum ≤ dramSize.toNat)
    (hcount : sizes.length < 2 ^ 31) :
    ∃ ca rs ca', carveoutAllocNew node dramBase dramSize alignment = some ca ∧
      carveoutAllocRun ca sizes = some (rs, ca') ∧ rs.length = sizes.length ∧
      (∀ (i : ℕ) (r s : UInt64), rs[i]? = some r → sizes[i]? = some s →
        alignment.toNat ∣ r.toNat ∧ dramBase.toNat ≤ r.toNat ∧
        r.toNat + s.toNat ≤ dramBase.toNat + dramSize.toNat ∧
        dramBase.toNat + (carveoutAllocFinalise ca').toNat ≤ r.toNat ∧
        (dtbFindProp ca'.node (regionName (carveoutRegionId i))).map DTBProp.data =
          some (leBytes r.toNat 8 ++ leBytes s.toNat 8)) ∧
      (∀ (i j : ℕ) (r r' s' : UInt64), i < j → rs[i]? = some r → rs[j]? = some r' →
        sizes[j]? = some s' → r'.toNat + s'.toNat ≤ r.toNat) ∧
      (∀ i < sizes.length, ∀ j < sizes.length,
        regionName (carveoutRegionId i) = regionName (carveoutRegionId j) → i = j) ∧
      (∀ i < sizes.length, regionName (carveoutRegionId i) ≠ regionName 55) ∧
      (∀ name, (∀ i < sizes.length, name ≠ regionName (carveoutRegionId i)) →
        dtbFindProp ca'.node name = dtbFindProp node name) := by
  have halign0 : alignment ≠ 0 := by
    intro h
    rw [h, UInt64.toNat_zero] at halign
    exact absurd halign.symm (Nat.two_pow_pos k).ne'
  have hsize := dramSize.toNat_lt
  -- the allocator `carveout_alloc_new` makes, with the whole of DRAM as its span
  obtain ⟨rs, ca', x', hrun, hinv⟩ := carveoutAllocRun_spec (k := k) sizes
    ⟨dramBase, dramBase + dramSize, alignment, node, 0⟩ 0 dramSize.toNat halign (halign ▸ hbase)
    (by simp) htop hpos (by rw [← halign]; exact htotal) rfl (by omega)
  have hfinal : (carveoutAllocFinalise ca').toNat ≤ x' := by
    have hx' := hinv.span_le
    rw [carveoutAllocFinalise_toNat (by rw [hinv.alignment_eq]; exact halign)
      (by rw [hinv.end_eq, hinv.dramBase_eq]) (by omega)]
    exact Nat.div_mul_le_self _ _
  refine ⟨_, rs, ca', by rw [carveoutAllocNew, if_neg hdram, if_neg halign0], hrun,
    hinv.length_eq, fun i r s hr hs => ?_, fun i j r r' s' hij hr hr' hs' => ?_,
    fun i hi j hj h => regionName_regionId_injective (by omega) (by omega) h,
    fun i hi => regionName_regionId_ne_55 (by omega), fun name hname => ?_⟩
  · have habove : dramBase.toNat + x' ≤ r.toNat := hinv.above i r hr
    refine ⟨hinv.aligned i r hr, by omega, hinv.below i r s hr hs, by omega, ?_⟩
    simpa only [Nat.zero_add] using hinv.prop_eq i r s hr hs
  · exact hinv.ordered i j r r' s' hij hr hr' hs'
  · exact hinv.prop_other name fun i hi => by simpa only [Nat.zero_add] using hname i hi

/-- From the t8030 DRAM base with 4 GiB of DRAM and its `16 KiB` alignment, the first two
carveouts `t8030_memory_setup` asks for both succeed: SIO's text and data
(`0x1C000 + 0xF8000`) and ANS's (`0x124000 + 0x3C00000`).
Source: `hw/arm/apple-silicon/t8030.c` `t8030_memory_setup`
Kind: P -/
theorem carveout_alloc_layout_t8030 :
    ∃ ca rs ca', carveoutAllocNew (.mk PropTable.empty []) 0x800000000 0x100000000 0x4000 =
        some ca ∧ carveoutAllocRun ca [0x114000, 0x3D24000] = some (rs, ca') ∧
      rs.length = 2 := by
  obtain ⟨ca, rs, ca', hnew, hrun, hlen, -⟩ :=
    carveout_alloc_layout (.mk PropTable.empty []) 0x800000000 0x100000000 0x4000
      [0x114000, 0x3D24000] (k := 14) (by decide) (by decide) (by decide) (by decide) (by simp)
      (by decide) (by decide)
  exact ⟨ca, rs, ca', hnew, hrun, hlen⟩

/-- From a DRAM base that is not a multiple of the alignment, the rounding of the absolute
address puts a region below `dram_base`: base `1`, four bytes of DRAM, alignment `4`, and one
call for four bytes returns `0`.
Source: `hw/arm/apple-silicon/mem.c` `carveout_alloc_mem`
Kind: P -/
theorem carveout_alloc_below_base_unaligned :
    ∃ ca ca', carveoutAllocNew (.mk PropTable.empty []) 1 4 4 = some ca ∧
      carveoutAllocRun ca [4] = some ([0], ca') :=
  ⟨_, _, rfl, rfl⟩

end QemuAppleSilicon.Arm
