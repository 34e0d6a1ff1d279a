import QemuAppleSilicon.Dma.Sio

/-!
# The mapping loop of `apple_sio_map_dma` (`hw/dma/apple_sio.c`)

For each segment of a request, `apple_sio_map_dma` runs `while (len)`: it asks `dma_memory_map`
for the `len` bytes at `base`, adds what it maps (at most `len`) to the iovec and moves on; when
`dma_memory_map` returns `NULL` it logs and `continue`s with `base` and `len` as they were.

Here `dma_memory_map` is any function of the request (`DmaMap`), and the loop is given `fuel`
turns (`mapSegmentLoop`), `none` when they run out.

* `mapSegmentLoop_refused` — a refused request is asked again unchanged: no fuel ends the loop.
* `mapSegmentLoop_covers` — when every request maps at least one byte, `len + 1` turns end it,
  with an iovec that covers the segment's bytes in order and adds up to its length
  (`Covers`), however the mapping splits it.
* `appleSioMapDmaFuel_dmaMapOf` — the whole-or-nothing `appleSioMapDma` of `Sio` is this loop with
  at least two turns, for the `dma_memory_map` that maps a backed range whole; and its `none` is
  the loop's divergence (`appleSioMapDma_eq_none_diverges`).
* `sio_map_dma_diverges` — so `apple_sio_map_dma` does not terminate on a request with a
  non-empty segment that `dma_memory_map` refuses.
-/

namespace QemuAppleSilicon.Dma

open QemuAppleSilicon.Lib QemuAppleSilicon.Qemu

/-- `dma_memory_map(as, base, &xlen, dir, attrs)` asked for `len` bytes at `base`: `none` for a
`NULL` answer, or the length it mapped.
Source: `include/system/dma.h` `dma_memory_map`
Kind: D -/
abbrev DmaMap := ℕ → ℕ → Option ℕ

/-- The `while (len)` loop of `apple_sio_map_dma` over one segment, with `fuel` turns: a `NULL`
answer is retried unchanged (`continue`), a mapping of `xlen` bytes, capped at `len`, is added
to the iovec and skipped. `none` when the turns run out.
Source: `hw/dma/apple_sio.c` `apple_sio_map_dma`
Kind: D -/
def mapSegmentLoop (dmaMap : DmaMap) : ℕ → ℕ → ℕ → Option (List (ℕ × ℕ))
  | 0, _, _ => none
  | fuel + 1, base, len =>
    if len = 0 then some []
    else
      match dmaMap base len with
      | none => mapSegmentLoop dmaMap fuel base len
      | some xlen =>
        let xlen := if xlen > len then len else xlen
        (mapSegmentLoop dmaMap fuel (base + xlen) (len - xlen)).map ((base, xlen) :: ·)

/-- `apple_sio_map_dma(s, ep, req)` with `fuel` turns for each segment's loop.
Source: `hw/dma/apple_sio.c` `apple_sio_map_dma`
Kind: D -/
def appleSioMapDmaFuel (dmaMap : DmaMap) (fuel : ℕ) (req : SIODMAMapRequest) :
    Option SIODMAMapRequest :=
  if req.mapped then some req
  else (req.segments.mapM fun sg => mapSegmentLoop dmaMap fuel sg.addr.toNat sg.len.toNat).map
    fun chunks => { req with iov := chunks.flatten, mapped := true }

/-! ## Refused requests -/

/-- **A refused request never ends the loop**: by induction on the fuel, each turn asks the same
question again.
Source: `hw/dma/apple_sio.c` `apple_sio_map_dma`
Kind: L -/
theorem mapSegmentLoop_refused {dmaMap : DmaMap} {base len : ℕ} (hlen : len ≠ 0)
    (hrefused : dmaMap base len = none) : ∀ fuel, mapSegmentLoop dmaMap fuel base len = none := by
  intro fuel
  induction fuel with
  | zero => rfl
  | succ fuel ih =>
    rw [mapSegmentLoop, if_neg hlen, hrefused]
    exact ih

/-- A `mapM` fails exactly when one element does. -/
theorem mapM_eq_none_iff {α β : Type} {f : α → Option β} :
    ∀ {l : List α}, l.mapM f = none ↔ ∃ x ∈ l, f x = none
  | [] => by simp
  | a :: l => by
    rw [List.mapM_cons]
    cases ha : f a with
    | none => exact ⟨fun _ => ⟨a, List.mem_cons_self, ha⟩, fun _ => rfl⟩
    | some b =>
      have ih := mapM_eq_none_iff (f := f) (l := l)
      cases hl : l.mapM f with
      | none =>
        obtain ⟨x, hx, hfx⟩ := ih.mp hl
        exact ⟨fun _ => ⟨x, List.mem_cons_of_mem _ hx, hfx⟩, fun _ => rfl⟩
      | some bs =>
        constructor
        · intro h
          simp at h
        · rintro ⟨x, hx, hfx⟩
          rcases List.mem_cons.mp hx with rfl | hx
          · rw [ha] at hfx
            cases hfx
          · rw [ih.mpr ⟨x, hx, hfx⟩] at hl
            cases hl

/-- **A refused segment hangs the map.** When `dma_memory_map` returns `NULL` for a non-empty
segment of an unmapped request, `apple_sio_map_dma` asks again forever: no fuel finishes it.
Source: `hw/dma/apple_sio.c` `apple_sio_map_dma`
Kind: P -/
theorem sio_map_dma_diverges (dmaMap : DmaMap) (req : SIODMAMapRequest) (hmapped : req.mapped = false)
    {sg : SIODMASegment} (hsg : sg ∈ req.segments) (hlen : sg.len ≠ 0)
    (hrefused : dmaMap sg.addr.toNat sg.len.toNat = none) :
    ∀ fuel, appleSioMapDmaFuel dmaMap fuel req = none := by
  intro fuel
  have hlen' : sg.len.toNat ≠ 0 := by
    intro h
    exact hlen (UInt32.toNat_inj.mp h)
  have hnone : req.segments.mapM (fun sg => mapSegmentLoop dmaMap fuel sg.addr.toNat sg.len.toNat) =
      none :=
    mapM_eq_none_iff.mpr ⟨sg, hsg, mapSegmentLoop_refused hlen' hrefused fuel⟩
  unfold appleSioMapDmaFuel
  rw [if_neg (by rw [hmapped]; decide), hnone]
  rfl

/-- A `dma_memory_map` that refuses every request. -/
def refusingMap : DmaMap := fun _ _ => none

/-- One segment of one byte at address 0, refused: a thousand turns do not map it. -/
theorem sio_map_dma_diverges_refused :
    appleSioMapDmaFuel refusingMap 1000 ⟨[⟨0, 1⟩], [], 0, 0, false⟩ = none :=
  sio_map_dma_diverges refusingMap ⟨[⟨0, 1⟩], [], 0, 0, false⟩ rfl (List.mem_singleton_self _)
    (by decide) rfl 1000

/-! ## Mappings that make progress -/

/-- The iovec `iov` lays out the `len` bytes from `base` in order, in pieces of at least one byte.
-/
def Covers : ℕ → ℕ → List (ℕ × ℕ) → Prop
  | _, len, [] => len = 0
  | base, len, (a, x) :: rest => a = base ∧ 0 < x ∧ x ≤ len ∧ Covers (base + x) (len - x) rest

/-- An iovec that covers a segment adds up to its length. -/
theorem Covers.sum : ∀ {base len : ℕ} {iov : List (ℕ × ℕ)}, Covers base len iov →
    (iov.map Prod.snd).sum = len
  | _, _, [], h => h.symm
  | _, _, (_, _) :: _, ⟨_, _, hle, hrest⟩ => by
    rw [List.map_cons, List.sum_cons, hrest.sum]
    omega

/-- More turns give the same finished loop. -/
theorem mapSegmentLoop_fuel_mono {dmaMap : DmaMap} :
    ∀ {fuel base len iov}, mapSegmentLoop dmaMap fuel base len = some iov →
      mapSegmentLoop dmaMap (fuel + 1) base len = some iov
  | 0, _, _, _, h => by cases h
  | fuel + 1, base, len, iov, h => by
    rw [mapSegmentLoop] at h ⊢
    split_ifs at h ⊢
    · exact h
    · cases hmap : dmaMap base len with
      | none =>
        rw [hmap] at h
        exact mapSegmentLoop_fuel_mono h
      | some xlen =>
        rw [hmap] at h
        dsimp only at h ⊢
        cases hrest : mapSegmentLoop dmaMap fuel (base + if xlen > len then len else xlen)
            (len - if xlen > len then len else xlen) with
        | none =>
          rw [hrest] at h
          cases h
        | some rest =>
          rw [hrest] at h
          rw [mapSegmentLoop_fuel_mono hrest]
          exact h

theorem mapSegmentLoop_fuel_le {dmaMap : DmaMap} {fuel fuel' base len : ℕ} {iov : List (ℕ × ℕ)}
    (h : mapSegmentLoop dmaMap fuel base len = some iov) (hle : fuel ≤ fuel') :
    mapSegmentLoop dmaMap fuel' base len = some iov := by
  obtain ⟨k, rfl⟩ := Nat.exists_eq_add_of_le hle
  induction k with
  | zero => exact h
  | succ k ih => exact mapSegmentLoop_fuel_mono (ih (by omega))

/-- **When every request maps at least one byte, `len + 1` turns end the loop with an iovec
that covers the segment**, whatever lengths the mapping answers. By strong induction on `len`.
Source: `hw/dma/apple_sio.c` `apple_sio_map_dma`
Kind: L -/
theorem mapSegmentLoop_covers {dmaMap : DmaMap}
    (hprogress : ∀ base len, 0 < len → ∃ x, dmaMap base len = some x ∧ 0 < x) :
    ∀ len base, ∃ iov, mapSegmentLoop dmaMap (len + 1) base len = some iov ∧ Covers base len iov := by
  intro len
  induction len using Nat.strong_induction_on with
  | _ len ih =>
    intro base
    by_cases hlen : len = 0
    · subst hlen
      exact ⟨[], rfl, rfl⟩
    · obtain ⟨x, hx, hpos⟩ := hprogress base len (by omega)
      -- the piece mapped, capped at `len`
      set xlen := if x > len then len else x with hxlen
      have hxpos : 0 < xlen := by
        rw [hxlen]
        split_ifs <;> omega
      have hxle : xlen ≤ len := by
        rw [hxlen]
        split_ifs <;> omega
      obtain ⟨rest, hrest, hcov⟩ := ih (len - xlen) (by omega) (base + xlen)
      refine ⟨(base, xlen) :: rest, ?_, ⟨rfl, hxpos, hxle, hcov⟩⟩
      rw [mapSegmentLoop, if_neg hlen, hx]
      dsimp only
      rw [← hxlen, mapSegmentLoop_fuel_le hrest (by omega)]
      rfl

/-! ## The whole-or-nothing model -/

/-- The `dma_memory_map` of `DmaMemory`: a backed range is mapped whole, any other refused.
Source: `include/system/dma.h` `dma_memory_map`
Kind: D -/
def dmaMapOf (m : DmaMemory) : DmaMap := fun base len => if m.Backed base len then some len else none

/-- With two turns or more the loop is `mapSegment` of `Sio`.
Source: `hw/dma/apple_sio.c` `apple_sio_map_dma`
Kind: L -/
theorem mapSegmentLoop_dmaMapOf (m : DmaMemory) {fuel : ℕ} (hfuel : 2 ≤ fuel) (base len : ℕ) :
    mapSegmentLoop (dmaMapOf m) fuel base len = mapSegment m base len := by
  obtain ⟨f, rfl⟩ : ∃ f, fuel = f + 2 := ⟨fuel - 2, by omega⟩
  unfold mapSegment
  by_cases hlen : len = 0
  · rw [if_pos hlen, mapSegmentLoop, if_pos hlen]
  · rw [if_neg hlen]
    by_cases hb : m.Backed base len = true
    · rw [if_pos hb, mapSegmentLoop, if_neg hlen]
      simp only [dmaMapOf, hb, if_true, gt_iff_lt, Nat.lt_irrefl, if_false, Nat.sub_self]
      rw [mapSegmentLoop, if_pos rfl]
      rfl
    · rw [if_neg hb]
      exact mapSegmentLoop_refused hlen (by simp [dmaMapOf, hb]) _

/-- **`appleSioMapDma` of `Sio` is `apple_sio_map_dma` with two turns or more** for the
`dma_memory_map` that maps a backed range whole.
Source: `hw/dma/apple_sio.c` `apple_sio_map_dma`
Kind: L -/
theorem appleSioMapDmaFuel_dmaMapOf (m : DmaMemory) {fuel : ℕ} (hfuel : 2 ≤ fuel)
    (req : SIODMAMapRequest) : appleSioMapDmaFuel (dmaMapOf m) fuel req = appleSioMapDma m req := by
  have hseg : (fun sg : SIODMASegment => mapSegmentLoop (dmaMapOf m) fuel sg.addr.toNat sg.len.toNat) =
      fun sg => mapSegment m sg.addr.toNat sg.len.toNat :=
    funext fun sg => mapSegmentLoop_dmaMapOf m hfuel _ _
  unfold appleSioMapDmaFuel appleSioMapDma
  rw [hseg]

/-- **The `none` of `appleSioMapDma` is divergence**: no number of turns maps the request.
Source: `hw/dma/apple_sio.c` `apple_sio_map_dma`
Kind: L -/
theorem appleSioMapDma_eq_none_diverges (m : DmaMemory) {req : SIODMAMapRequest}
    (h : appleSioMapDma m req = none) : ∀ fuel, appleSioMapDmaFuel (dmaMapOf m) fuel req = none := by
  intro fuel
  have hmapped : req.mapped = false := by
    unfold appleSioMapDma at h
    cases hm : req.mapped
    · rfl
    · rw [if_pos hm] at h
      cases h
  -- some segment is non-empty and not backed
  obtain ⟨sg, hsg, hnone⟩ : ∃ sg ∈ req.segments, mapSegment m sg.addr.toNat sg.len.toNat = none := by
    unfold appleSioMapDma at h
    rw [if_neg (by rw [hmapped]; decide), Option.map_eq_none_iff] at h
    exact mapM_eq_none_iff.mp h
  have hlen : sg.len.toNat ≠ 0 := by
    intro h0
    rw [mapSegment, if_pos h0] at hnone
    cases hnone
  have hrefused : dmaMapOf m sg.addr.toNat sg.len.toNat = none := by
    unfold mapSegment at hnone
    rw [if_neg hlen] at hnone
    split_ifs at hnone with hb
    simp [dmaMapOf, hb]
  have hloop : req.segments.mapM
      (fun sg => mapSegmentLoop (dmaMapOf m) fuel sg.addr.toNat sg.len.toNat) = none :=
    mapM_eq_none_iff.mpr ⟨sg, hsg, mapSegmentLoop_refused hlen hrefused fuel⟩
  unfold appleSioMapDmaFuel
  rw [if_neg (by rw [hmapped]; decide), hloop]
  rfl

end QemuAppleSilicon.Dma
