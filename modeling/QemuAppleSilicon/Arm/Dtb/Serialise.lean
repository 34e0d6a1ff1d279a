import QemuAppleSilicon.Arm.Dtb.Node

/-!
# Serialising the device tree, and the size the loader allocates for it

`dtb_serialise_node` and `dtb_get_serialised_node_size` are two independent recursions over the
tree: one writes the flattened tree into a buffer and advances a cursor, the other predicts how
far. `macho_load_dtb` allocates `ROUND_UP_16K` of the prediction and serialises into it.

* `dtbGetPlaceholderSize` — the placeholder tokenizer: the property's string split at `,` by
  `qemu_strsep`; `macaddr/…` gives `6`, `syscfg/XXXX/len` gives `len` unless `0`, `zeroes/len`
  gives `len`, and nothing gives `0` (the property is dropped). It asserts a non-empty
  property, so both recursions are partial.
* `dtbSerialiseNode m c T` — the memory after serialising `T` at cursor `c`, and the cursor;
  `dtbGetSerialisedNodeSize T`.
* **`dtbSerialiseNode_cursor`**: for every tree, every memory and every start, serialising
  fails exactly when the size computation fails, and otherwise advances the cursor by exactly
  the size. Per property the two agree branch by branch (`dtbSerialiseProp_cursor`), the
  property loop sums them (`dtbSerialiseProps_cursor`), and the two mutual recursions agree by
  mutual structural induction over the node and its list of children.
* **`dtbSerialiseNode_unchanged`**: when every copied (non-placeholder) property is shorter than
  `2^32 - 3` bytes (`LengthsFit`), serialising writes only inside `[c, c + size)`. The bound is
  where `ROUND_UP(prop->length, 4)`, computed in 32 bits, stops covering the `memcpy` of
  `length` bytes; `dtb_serialise_overruns` shows a longer property written past a buffer of
  `ROUND_UP_16K(size)` bytes.
* **`dtbSerialise_within_buffer`**: the two results at the start of the buffer, as
  `macho_load_dtb` uses them.
-/

namespace QemuAppleSilicon.Arm.Dtb

open QemuAppleSilicon.Lib QemuAppleSilicon.Qemu

/-! ## Placeholder properties -/

/-- The token loop of `dtb_get_placeholder_size`.
Source: `hw/arm/apple-silicon/dtb.c` `dtb_get_placeholder_size` (lines 296–323)
Kind: D -/
def placeholderSizeOfTokens : List (List UInt8) → UInt32
  | [] => 0
  | t :: ts =>
    if t = [] then placeholderSizeOfTokens ts
    else if (asciiBytes "macaddr/").isPrefixOf t then 6
    else if (asciiBytes "syscfg/").isPrefixOf t then
      if t.length < 12 ∨ t[11]? ≠ some 47 then placeholderSizeOfTokens ts
      else
        let len := UInt32.ofNat (gAsciiStrtoull (t.drop 12))
        if len = 0 then placeholderSizeOfTokens ts else len
    else if (asciiBytes "zeroes/").isPrefixOf t then UInt32.ofNat (gAsciiStrtoull (t.drop 7))
    else placeholderSizeOfTokens ts

/-- `dtb_get_placeholder_size`: assert a non-empty property, then tokenize its C string at `,`.
Source: `hw/arm/apple-silicon/dtb.c` `dtb_get_placeholder_size`
Kind: D -/
def dtbGetPlaceholderSize (prop : DTBProp) : Option UInt32 :=
  if prop.length = 0 then none
  else some (placeholderSizeOfTokens (qemuStrsep (cString prop.data) 44))

/-! ## The serialiser -/

/-- One iteration of the property loop of `dtb_serialise_node`: the memory and cursor after it,
and whether the property stays counted (`false`: a placeholder of size `0`, removed).
Source: `hw/arm/apple-silicon/dtb.c` `dtb_serialise_node` (lines 346–374)
Kind: D -/
def dtbSerialiseProp (key : List UInt8) (prop : DTBProp) (m : Mem) (c : ℕ) :
    Option (Mem × ℕ × Bool) :=
  if prop.placeholder then do
    let ps ← dtbGetPlaceholderSize prop
    if ps = 0 then some (m, c, false)
    else
      -- the expanded value is not written: the cursor skips `ROUND_UP(ps, 4)` bytes
      let m := stlLeP (m.write c (strncpyBytes key DT_PROP_NAME_LEN)) (c + 32) ps
      some (m, c + 36 + (roundUp32 ps 4).toNat, true)
  else
    let m := stlLeP (m.write c (strncpyBytes key DT_PROP_NAME_LEN)) (c + 32) prop.length
    if prop.length ≠ 0 then
      some (m.write (c + 36) prop.data, c + 36 + (roundUp32 prop.length 4).toNat, true)
    else some (m, c + 36, true)

/-- The property loop of `dtb_serialise_node`, threading the memory, the cursor and
`prop_count`.
Source: `hw/arm/apple-silicon/dtb.c` `dtb_serialise_node`
Kind: D -/
def dtbSerialiseProps : List (List UInt8 × DTBProp) → Mem → ℕ → UInt32 → Option (Mem × ℕ × UInt32)
  | [], m, c, n => some (m, c, n)
  | (k, p) :: rest, m, c, n => do
    let (m, c, counted) ← dtbSerialiseProp k p m c
    dtbSerialiseProps rest m c (if counted then n else n - 1)

mutual

/-- `dtb_serialise_node`: reserve `prop_count`, store the child count, serialise the properties,
patch `prop_count`, then serialise the children in order.
Source: `hw/arm/apple-silicon/dtb.c` `dtb_serialise_node`
Kind: D -/
def dtbSerialiseNode : DTBNode → Mem → ℕ → Option (Mem × ℕ)
  | .mk t cs, m, c => do
    let m := stlLeP m (c + 4) (UInt32.ofNat cs.length)
    let (m, c', n) ← dtbSerialiseProps t.entries m (c + 8) (UInt32.ofNat t.entries.length)
    let m := stlLeP m c n
    dtbSerialiseChildren cs m c'

/-- `g_list_foreach(node->children, dtb_serialise_node, buf)`.
Source: `hw/arm/apple-silicon/dtb.c` `dtb_serialise_node` (line 377)
Kind: D -/
def dtbSerialiseChildren : List DTBNode → Mem → ℕ → Option (Mem × ℕ)
  | [], m, c => some (m, c)
  | n :: ns, m, c => do
    let (m, c) ← dtbSerialiseNode n m c
    dtbSerialiseChildren ns m c

end

/-- `dtb_serialise(buf, root)`.
Source: `hw/arm/apple-silicon/dtb.c` `dtb_serialise`
Kind: D -/
def dtbSerialise (buf : Mem) (root : DTBNode) : Option Mem := (dtbSerialiseNode root buf 0).map Prod.fst

/-! ## The size computation -/

/-- `dtb_get_serialised_prop_size`.
Source: `hw/arm/apple-silicon/dtb.c` `dtb_get_serialised_prop_size`
Kind: D -/
def dtbGetSerialisedPropSize (prop : DTBProp) : Option ℕ :=
  if prop.placeholder then do
    let ps ← dtbGetPlaceholderSize prop
    if ps = 0 then some 0 else some (DT_PROP_NAME_LEN + 4 + (roundUp32 ps 4).toNat)
  else some (DT_PROP_NAME_LEN + 4 + (roundUp32 prop.length 4).toNat)

/-- The property loop of `dtb_get_serialised_node_size`.
Source: `hw/arm/apple-silicon/dtb.c` `dtb_get_serialised_node_size` (lines 410–413)
Kind: D -/
def propsSize : List (List UInt8 × DTBProp) → Option ℕ
  | [] => some 0
  | (_, p) :: rest => do
    let a ← dtbGetSerialisedPropSize p
    let b ← propsSize rest
    some (a + b)

mutual

/-- `dtb_get_serialised_node_size`: the two counts, the properties, the children.
Source: `hw/arm/apple-silicon/dtb.c` `dtb_get_serialised_node_size`
Kind: D -/
def dtbGetSerialisedNodeSize : DTBNode → Option ℕ
  | .mk t cs => do
    let ps ← propsSize t.entries
    let s ← childrenSize cs
    some (4 + 4 + ps + s)

/-- The children loop of `dtb_get_serialised_node_size`.
Source: `hw/arm/apple-silicon/dtb.c` `dtb_get_serialised_node_size` (lines 415–417)
Kind: D -/
def childrenSize : List DTBNode → Option ℕ
  | [] => some 0
  | n :: ns => do
    let a ← dtbGetSerialisedNodeSize n
    let b ← childrenSize ns
    some (a + b)

end

/-! ## The cursor advances by the size -/

/-- One property: the serialiser fails exactly when the size does, and advances by it. -/
theorem dtbSerialiseProp_cursor (k : List UInt8) (p : DTBProp) (m : Mem) (c : ℕ) :
    (dtbSerialiseProp k p m c).map (·.2.1) = (dtbGetSerialisedPropSize p).map (c + ·) := by
  unfold dtbSerialiseProp dtbGetSerialisedPropSize
  by_cases hp : p.placeholder
  · -- placeholder: both sides go through the same tokenizer result
    rcases dtbGetPlaceholderSize p with _ | ps
    · simp [hp]
    · by_cases h0 : ps = 0
      · simp [hp, h0]
      · simp [hp, h0, DT_PROP_NAME_LEN]
        omega
  · by_cases h0 : p.length = 0
    · simp [hp, h0, DT_PROP_NAME_LEN]
    · simp [hp, h0, DT_PROP_NAME_LEN]
      omega

/-- The property loop advances by the sum of the property sizes. -/
theorem dtbSerialiseProps_cursor (l : List (List UInt8 × DTBProp)) (m : Mem) (c : ℕ) (n : UInt32) :
    (dtbSerialiseProps l m c n).map (·.2.1) = (propsSize l).map (c + ·) := by
  induction l generalizing m c n with
  | nil => simp [dtbSerialiseProps, propsSize]
  | cons e rest ih =>
    obtain ⟨k, p⟩ := e
    have hp := dtbSerialiseProp_cursor k p m c
    rcases h : dtbSerialiseProp k p m c with _ | ⟨m', c', b⟩
    · rw [h] at hp
      rcases hs : dtbGetSerialisedPropSize p with _ | a
      · simp [dtbSerialiseProps, propsSize, h, hs]
      · simp [hs] at hp
    · rw [h] at hp
      rcases hs : dtbGetSerialisedPropSize p with _ | a
      · simp [hs] at hp
      · simp only [hs, Option.map_some, Option.some.injEq] at hp
        have ih' := ih m' c' (if b then n else n - 1)
        simp only [dtbSerialiseProps, propsSize, h, hs, Option.bind_eq_bind, Option.bind_some]
        rcases hr : propsSize rest with _ | r
        · rw [hr] at ih'
          simpa using ih'
        · rw [hr] at ih'
          simp only [Option.map_some] at ih' ⊢
          rw [ih', hp]
          simp [Nat.add_assoc]

mutual

/-- **`dtb_serialise_node` advances its cursor by exactly `dtb_get_serialised_node_size`**, and
fails (an assertion of `dtb_get_placeholder_size`) exactly when the size computation does.
Source: `hw/arm/apple-silicon/dtb.c` `dtb_serialise_node` / `dtb_get_serialised_node_size`
Kind: P -/
theorem dtbSerialiseNode_cursor :
    ∀ (T : DTBNode) (m : Mem) (c : ℕ),
      (dtbSerialiseNode T m c).map Prod.snd = (dtbGetSerialisedNodeSize T).map (c + ·)
  | .mk t cs, m, c => by
    have hp := dtbSerialiseProps_cursor t.entries (stlLeP m (c + 4) (UInt32.ofNat cs.length)) (c + 8)
      (UInt32.ofNat t.entries.length)
    rw [dtbSerialiseNode, dtbGetSerialisedNodeSize]
    rcases h : dtbSerialiseProps t.entries (stlLeP m (c + 4) (UInt32.ofNat cs.length)) (c + 8)
        (UInt32.ofNat t.entries.length) with _ | ⟨m', c', n⟩
    · rw [h] at hp
      rcases hs : propsSize t.entries with _ | a
      · simp
      · simp [hs] at hp
    · rw [h] at hp
      rcases hs : propsSize t.entries with _ | a
      · simp [hs] at hp
      · simp only [hs, Option.map_some, Option.some.injEq] at hp
        have hc := dtbSerialiseChildren_cursor cs (stlLeP m' c n) c'
        simp only [Option.bind_eq_bind, Option.bind_some]
        rcases hr : childrenSize cs with _ | r
        · rw [hr] at hc
          simpa using hc
        · rw [hr] at hc
          simp only [Option.map_some] at hc ⊢
          rw [hc, hp]
          simp only [Option.bind_some, Option.map_some, Option.some.injEq]
          omega

/-- The children loop advances by the sum of the children's sizes. -/
theorem dtbSerialiseChildren_cursor :
    ∀ (cs : List DTBNode) (m : Mem) (c : ℕ),
      (dtbSerialiseChildren cs m c).map Prod.snd = (childrenSize cs).map (c + ·)
  | [], m, c => by simp [dtbSerialiseChildren, childrenSize]
  | n :: ns, m, c => by
    have hn := dtbSerialiseNode_cursor n m c
    rw [dtbSerialiseChildren, childrenSize]
    rcases h : dtbSerialiseNode n m c with _ | ⟨m', c'⟩
    · rw [h] at hn
      rcases hs : dtbGetSerialisedNodeSize n with _ | a
      · simp
      · simp [hs] at hn
    · rw [h] at hn
      rcases hs : dtbGetSerialisedNodeSize n with _ | a
      · simp [hs] at hn
      · simp only [hs, Option.map_some, Option.some.injEq] at hn
        have hc := dtbSerialiseChildren_cursor ns m' c'
        simp only [Option.bind_eq_bind, Option.bind_some]
        rcases hr : childrenSize ns with _ | r
        · rw [hr] at hc
          simpa using hc
        · rw [hr] at hc
          simp only [Option.map_some] at hc ⊢
          rw [hc, hn]
          simp only [Option.bind_some, Option.map_some, Option.some.injEq]
          omega

end

/-! ## Where the serialiser writes -/

/-- Every copied (non-placeholder) property is shorter than `2^32 - 3` bytes, so that
`ROUND_UP(length, 4)` does not wrap in 32 bits. -/
def DTBNode.LengthsFit (T : DTBNode) : Prop :=
  T.allNodes fun t _ => ∀ e ∈ t.entries, e.2.placeholder = false → e.2.length.toNat + 3 < 2 ^ 32

/-- The name field `[c, c + 32)` and the length field `[c + 32, c + 36)` of a property are all
its header writes. -/
theorem unchanged_propHeader (m : Mem) (c : ℕ) (k : List UInt8) (v : UInt32) :
    Mem.Unchanged m (stlLeP (m.write c (strncpyBytes k DT_PROP_NAME_LEN)) (c + 32) v) c (c + 36) := by
  have hname := (m.unchanged_write c (strncpyBytes k DT_PROP_NAME_LEN)).mono (le_refl c)
    (show c + (strncpyBytes k DT_PROP_NAME_LEN).length ≤ c + 36 by simp [DT_PROP_NAME_LEN])
  have hlength := (unchanged_stlLeP (m.write c (strncpyBytes k DT_PROP_NAME_LEN)) (c + 32) v).mono
    (show c ≤ c + 32 by omega) (le_refl _)
  exact hname.trans hlength

/-- One property writes only between the cursor before it and the cursor after it. -/
theorem dtbSerialiseProp_unchanged {k : List UInt8} {p : DTBProp} {m m' : Mem} {c c' : ℕ}
    {b : Bool} (h : dtbSerialiseProp k p m c = some (m', c', b))
    (hfit : p.placeholder = false → p.length.toNat + 3 < 2 ^ 32) :
    Mem.Unchanged m m' c c' ∧ c ≤ c' := by
  have hhead := unchanged_propHeader m c k
  unfold dtbSerialiseProp at h
  by_cases hp : p.placeholder
  · rcases hps : dtbGetPlaceholderSize p with _ | ps
    · simp [hp, hps] at h
    · by_cases h0 : ps = 0
      · simp only [hp, hps, h0, if_true, Option.bind_eq_bind, Option.bind_some,
          Option.some.injEq, Prod.mk.injEq] at h
        obtain ⟨rfl, rfl, -⟩ := h
        exact ⟨Mem.Unchanged.refl _ _ _, le_refl _⟩
      · simp only [hp, hps, h0, if_true, if_false, Option.bind_eq_bind, Option.bind_some,
          Option.some.injEq, Prod.mk.injEq] at h
        obtain ⟨rfl, rfl, -⟩ := h
        exact ⟨(hhead ps).mono (le_refl c) (by omega), by omega⟩
  · have hlen := hfit (by simpa using hp)
    by_cases h0 : p.length = 0
    · simp only [hp, h0, ne_eq, not_true_eq_false, if_false, Bool.false_eq_true,
        Option.some.injEq, Prod.mk.injEq] at h
      obtain ⟨rfl, rfl, -⟩ := h
      exact ⟨hhead 0, by omega⟩
    · simp only [hp, h0, ne_eq, not_false_eq_true, if_true, Bool.false_eq_true, if_false,
        Option.some.injEq, Prod.mk.injEq] at h
      obtain ⟨rfl, rfl, -⟩ := h
      -- the data `[c + 36, c + 36 + length)` stays below the rounded-up cursor
      have hround := roundUp32_four_toNat p.length hlen
      have hbound := roundUp_four_bounds p.length.toNat
      have h3 := Mem.unchanged_write
        (stlLeP (m.write c (strncpyBytes k DT_PROP_NAME_LEN)) (c + 32) p.length) (c + 36) p.data
      rw [p.data_length] at h3
      refine ⟨((hhead p.length).mono (le_refl c) ?_).trans (h3.mono (by omega) ?_), ?_⟩ <;> omega

/-- The property loop writes only between its first and last cursor. -/
theorem dtbSerialiseProps_unchanged (l : List (List UInt8 × DTBProp))
    (hfit : ∀ e ∈ l, e.2.placeholder = false → e.2.length.toNat + 3 < 2 ^ 32) :
    ∀ {m m' : Mem} {c c' : ℕ} {n n' : UInt32}, dtbSerialiseProps l m c n = some (m', c', n') →
      Mem.Unchanged m m' c c' ∧ c ≤ c' := by
  induction l with
  | nil =>
    intro m m' c c' n n' h
    simp only [dtbSerialiseProps, Option.some.injEq, Prod.mk.injEq] at h
    obtain ⟨rfl, rfl, -⟩ := h
    exact ⟨Mem.Unchanged.refl _ _ _, le_refl _⟩
  | cons e rest ih =>
    intro m m' c c' n n' h
    obtain ⟨k, p⟩ := e
    simp only [dtbSerialiseProps, Option.bind_eq_bind] at h
    rcases hp : dtbSerialiseProp k p m c with _ | ⟨m₁, c₁, b⟩
    · simp [hp] at h
    · simp only [hp, Option.bind_some] at h
      obtain ⟨hu₁, hc₁⟩ := dtbSerialiseProp_unchanged hp (hfit (k, p) (by simp))
      obtain ⟨hu₂, hc₂⟩ := ih (fun e he => hfit e (by simp [he])) h
      exact ⟨(hu₁.mono (le_refl c) (by omega)).trans (hu₂.mono (by omega) (le_refl _)),
        by omega⟩

mutual

/-- A tree whose copied properties fit writes only between the cursor before it and the
cursor after it. -/
theorem dtbSerialiseNode_unchanged :
    ∀ (T : DTBNode) {m m' : Mem} {c c' : ℕ}, T.LengthsFit →
      dtbSerialiseNode T m c = some (m', c') → Mem.Unchanged m m' c c' ∧ c ≤ c'
  | .mk t cs, m, m', c, c', hfit, h => by
    obtain ⟨ht, hcs⟩ := hfit
    simp only [dtbSerialiseNode, Option.bind_eq_bind] at h
    rcases hp : dtbSerialiseProps t.entries (stlLeP m (c + 4) (UInt32.ofNat cs.length)) (c + 8)
        (UInt32.ofNat t.entries.length) with _ | ⟨m₁, c₁, n⟩
    · simp [hp] at h
    · simp only [hp, Option.bind_some] at h
      -- header: the child count at `c + 4`, the patched property count at `c`
      have h₀ := (unchanged_stlLeP m (c + 4) (UInt32.ofNat cs.length))
      obtain ⟨hu₁, hc₁⟩ := dtbSerialiseProps_unchanged t.entries ht hp
      have h₂ := unchanged_stlLeP m₁ c n
      obtain ⟨hu₃, hc₃⟩ := dtbSerialiseChildren_unchanged cs hcs h
      refine ⟨?_, by omega⟩
      exact (((h₀.mono (by omega) (by omega)).trans (hu₁.mono (by omega) (by omega))).trans
        (h₂.mono (le_refl c) (by omega))).trans (hu₃.mono (by omega) (le_refl _))

/-- The children loop writes only between its first and last cursor. -/
theorem dtbSerialiseChildren_unchanged :
    ∀ (cs : List DTBNode) {m m' : Mem} {c c' : ℕ}, DTBNode.allNodesList
      (fun t _ => ∀ e ∈ t.entries, e.2.placeholder = false → e.2.length.toNat + 3 < 2 ^ 32) cs →
      dtbSerialiseChildren cs m c = some (m', c') → Mem.Unchanged m m' c c' ∧ c ≤ c'
  | [], m, m', c, c', _, h => by
    simp only [dtbSerialiseChildren, Option.some.injEq, Prod.mk.injEq] at h
    obtain ⟨rfl, rfl⟩ := h
    exact ⟨Mem.Unchanged.refl _ _ _, le_refl _⟩
  | n :: ns, m, m', c, c', hfit, h => by
    obtain ⟨hn, hns⟩ := hfit
    simp only [dtbSerialiseChildren, Option.bind_eq_bind] at h
    rcases hs : dtbSerialiseNode n m c with _ | ⟨m₁, c₁⟩
    · simp [hs] at h
    · simp only [hs, Option.bind_some] at h
      obtain ⟨hu₁, hc₁⟩ := dtbSerialiseNode_unchanged n hn hs
      obtain ⟨hu₂, hc₂⟩ := dtbSerialiseChildren_unchanged ns hns h
      exact ⟨(hu₁.mono (le_refl c) (by omega)).trans (hu₂.mono (by omega) (le_refl _)),
        by omega⟩

end

/-! ## The buffer `macho_load_dtb` allocates -/

/-- `dtb_serialise(buf, T)` advances its cursor by exactly `dtb_get_serialised_node_size(T)`
for every tree, and, when every copied property is shorter than `2^32 - 3` bytes, writes only
inside the first `size` bytes of `buf`, so nowhere at or past `ROUND_UP_16K(size)`.
Source: `hw/arm/apple-silicon/dtb.c` `dtb_serialise`, `hw/arm/apple-silicon/boot.c`
`macho_load_dtb`
Kind: P -/
theorem dtbSerialise_within_buffer (T : DTBNode) (m : Mem) :
    (dtbSerialiseNode T m 0).map Prod.snd = dtbGetSerialisedNodeSize T ∧
      (T.LengthsFit → ∀ m' s, dtbSerialiseNode T m 0 = some (m', s) →
        Mem.Unchanged m m' 0 s ∧ ∀ x, roundUp16K s ≤ x → m' x = m x) := by
  refine ⟨by simpa using dtbSerialiseNode_cursor T m 0, ?_⟩
  intro hfit m' s h
  have hu := (dtbSerialiseNode_unchanged T hfit h).1
  refine ⟨hu, fun x hx => hu x (Or.inr ?_)⟩
  have := le_roundUp s (show 0 < 0x4000 by decide)
  unfold roundUp16K at hx
  omega

/-- The empty root serialises to its 8-byte header and leaves the rest of its 16 KiB buffer
alone.
Source: none: infrastructure
Kind: P -/
theorem dtbSerialise_empty_root_within_buffer :
    ∃ m', dtbSerialiseNode (.mk PropTable.empty []) (fun _ => 0) 0 = some (m', 8) ∧
      Mem.Unchanged (fun _ => 0) m' 0 8 ∧ ∀ x, roundUp16K 8 ≤ x → m' x = 0 := by
  have hfit : (DTBNode.mk PropTable.empty []).LengthsFit :=
    ⟨by simp [PropTable.empty], trivial⟩
  refine ⟨_, rfl, dtbSerialise_within_buffer (.mk PropTable.empty []) (fun _ => 0) |>.2 hfit _ 8 rfl⟩

/-- A root carrying one property `"x"` holding `2^32 - 1` bytes of value `1`, as
`dtb_set_prop(root, "x", 0xFFFFFFFF, buf)` makes it. -/
def oversizedProp : DTBProp where
  length := 0xFFFFFFFF
  placeholder := false
  data := List.replicate 0xFFFFFFFF 1
  -- not by simp, which would evaluate the literal
  data_length := by
    rw [List.length_replicate]
    rfl

/-- `dtb_set_prop` accepts the size `0xFFFFFFFF`; the serialised size of the tree is `44`
(`ROUND_UP(0xFFFFFFFF, 4)` wraps to `0` in 32 bits), but serialising it copies all `2^32 - 1`
bytes, past the end of the `ROUND_UP_16K(44)`-byte buffer.
Source: `hw/arm/apple-silicon/dtb.c` `dtb_set_prop`, `dtb_serialise_node`
Kind: P -/
theorem dtb_serialise_overruns :
    ∃ T m', dtbSetProp (.mk PropTable.empty []) (asciiBytes "x") 0xFFFFFFFF
        (some (List.replicate 0xFFFFFFFF 1)) = some T ∧
      dtbGetSerialisedNodeSize T = some 44 ∧ dtbSerialiseNode T (fun _ => 0) 0 = some (m', 44) ∧
      m' (roundUp16K 44) = 1 := by
  obtain ⟨t, ht⟩ : ∃ t, PropTable.empty.insertNew (asciiBytes "x") oversizedProp = some t := by
    simp [PropTable.insertNew, PropTable.empty, asciiBytes]
  have hent : t.entries = [(asciiBytes "x", oversizedProp)] := by
    simpa [PropTable.empty] using PropTable.insertNew_entries ht
  have hround : roundUp32 0xFFFFFFFF 4 = 0 := by decide
  -- the header, the name and length fields, then the `memcpy` of the whole value
  let m₁ : Mem := stlLeP ((stlLeP (fun _ => 0) 4 0).write 8
    (strncpyBytes (asciiBytes "x") DT_PROP_NAME_LEN)) 40 0xFFFFFFFF
  have hne : (0xFFFFFFFF : UInt32) ≠ 0 := by decide
  refine ⟨.mk t [], stlLeP (m₁.write 44 (List.replicate 0xFFFFFFFF 1)) 0 1, ?_, ?_, ?_, ?_⟩
  · have hcopy : copyBuffer (List.replicate 0xFFFFFFFF 1) 0xFFFFFFFF =
        List.replicate 0xFFFFFFFF 1 :=
      List.take_left' (by rw [List.length_replicate]; rfl)
    have hval : setPropValue 0xFFFFFFFF (some (List.replicate 0xFFFFFFFF 1)) = some oversizedProp := by
      rw [setPropValue, if_neg hne, Option.some.injEq]
      simp only [oversizedProp, hcopy]
    simp only [dtbSetProp, hval, Option.bind_eq_bind, Option.bind_some]
    rw [if_neg (by decide)]
    simp only [DTBNode.props_mk, DTBNode.children_mk,
      show PropTable.empty.find (asciiBytes "x") = none from rfl, ht, Option.bind_some]
  · simp only [dtbGetSerialisedNodeSize, hent, propsSize, dtbGetSerialisedPropSize, oversizedProp,
      hround, childrenSize]
    rfl
  · simp only [dtbSerialiseNode, hent, dtbSerialiseProps, dtbSerialiseProp, oversizedProp, hround,
      Bool.false_eq_true, if_false, ne_eq, hne, not_false_eq_true, if_true, Option.bind_eq_bind,
      Option.bind_some, dtbSerialiseChildren, List.length_nil, List.length_singleton,
      UInt32.toNat_zero, Nat.zero_add, Nat.add_zero, Nat.reduceAdd]
    rfl
  · -- `ROUND_UP_16K(44) = 16384` is byte `16340` of the copied value
    have hx : roundUp16K 44 = 44 + 16340 := rfl
    rw [hx, stlLeP, Mem.write_apply_of_le (x := 44 + 16340) _ _ (by rw [leBytes_length]; omega),
      Mem.write_apply_of_mem _ _ _ (by rw [List.length_replicate]; omega), List.getElem_replicate]

end QemuAppleSilicon.Arm.Dtb
