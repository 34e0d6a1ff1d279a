import QemuAppleSilicon.Arm.Dtb.Serialise

/-!
# Reading a serialised device tree back

`dtb_deserialise` reads the format `dtb_serialise` writes: per node the property count, the
child count, the properties (a 32-byte name, a 32-bit length, the data padded to 4 bytes) and
the children, depth first.

* `dtbDeserialiseProp`, `dtbDeserialiseProps`, `dtbDeserialiseNode` — the decoder. A length
  with bit 31 (`DT_PROP_PLACEHOLDER`) set is read as a placeholder of the remaining 31 bits.
  `dtb_deserialise_node` recurses once per level of the tree, so the model takes the recursion
  depth as fuel; the children loop is `repeatDecode`.
* `expandProp` / `DTBNode.expand` — what a serialise/deserialise round trip should do to a tree:
  each placeholder becomes `dtb_get_placeholder_size` zero bytes (the serialiser skips them in a
  zeroed buffer), or disappears when that size is `0`.
* `DTBNode.Iso` — the same children in the same order, and at every node the same property
  under every name.
* **`dtbDeserialiseNode_of_serialise`**: with fuel above the depth, reading back what
  `dtb_serialise_node` wrote gives `expand T` and stops where the writer stopped, when every
  node has fewer than `2^32` properties and children, every name is shorter than `32` bytes and
  every written length is below `2^31` (`RoundTrips`). The proof is a mutual induction on the
  tree, with the property and children loops inside by induction on their lists; each item is
  decoded from memory that agrees with what its own write left on its own range, which the
  frame lemmas of the serialiser give.
* **`dtbDeserialise_dtbSerialise`**: the round trip from a zeroed buffer, up to `Iso`.
  `dtb_deserialise_reflags_placeholder` is a placeholder of size `2^31`: its length field is
  written without the flag and read back as a placeholder of length `0`.
-/

namespace QemuAppleSilicon.Arm.Dtb

open QemuAppleSilicon.Lib QemuAppleSilicon.Qemu

/-! ## The decoder -/

/-- `DT_PROP_PLACEHOLDER`: bit 31 of a serialised length.
Source: `hw/arm/apple-silicon/dtb.c` `DT_PROP_PLACEHOLDER`
Kind: D -/
def DT_PROP_PLACEHOLDER : UInt32 := (1 : UInt32) <<< (31 : UInt32)

/-- `dtb_deserialise_prop`: the name (`strnlen` of the 32-byte field), the property and the
cursor after it. A length with `DT_PROP_PLACEHOLDER` set marks a placeholder and loses the bit;
a non-zero length is followed by its data, padded to 4 bytes.
Source: `hw/arm/apple-silicon/dtb.c` `dtb_deserialise_prop`
Kind: D -/
def dtbDeserialiseProp (m : Mem) (c : ℕ) : List UInt8 × DTBProp × ℕ :=
  let name := strnlenBytes m c DT_PROP_NAME_LEN
  let raw := ldlLeP m (c + 32)
  let placeholder := raw &&& DT_PROP_PLACEHOLDER != 0
  let length := if placeholder then raw &&& ~~~DT_PROP_PLACEHOLDER else raw
  if h : length ≠ 0 then
    (name, ⟨length, placeholder, m.read (c + 36) length.toNat, Mem.read_length ..⟩,
      c + 36 + (roundUp32 length 4).toNat)
  else (name, ⟨length, placeholder, [], by simp [not_not.mp h]⟩, c + 36)

/-- The property loop of `dtb_deserialise_node`: `g_assert_true(g_hash_table_insert(…))`
aborts on a name the node already holds.
Source: `hw/arm/apple-silicon/dtb.c` `dtb_deserialise_node` (lines 150–157)
Kind: D -/
def dtbDeserialiseProps (m : Mem) : ℕ → PropTable → ℕ → Option (PropTable × ℕ)
  | 0, t, c => some (t, c)
  | n + 1, t, c =>
    let (key, prop, c) := dtbDeserialiseProp m c
    do
      let t ← t.insertNew key prop
      dtbDeserialiseProps m n t c

/-- `dtb_deserialise_node`, with the depth of recursion it may still take as `fuel`.
Source: `hw/arm/apple-silicon/dtb.c` `dtb_deserialise_node`
Kind: D -/
def dtbDeserialiseNode : ℕ → Mem → ℕ → Option (DTBNode × ℕ)
  | 0, _, _ => none
  | fuel + 1, m, c => do
    let propCount := ldlLeP m c
    let childrenCount := ldlLeP m (c + 4)
    let (t, c) ← dtbDeserialiseProps m propCount.toNat PropTable.empty (c + 8)
    let (cs, c) ← repeatDecode (dtbDeserialiseNode fuel m) childrenCount.toNat c
    some (.mk t cs, c)

/-- `dtb_deserialise(blob)`.
Source: `hw/arm/apple-silicon/dtb.c` `dtb_deserialise`
Kind: D -/
def dtbDeserialise (fuel : ℕ) (blob : Mem) : Option DTBNode :=
  (dtbDeserialiseNode fuel blob 0).map Prod.fst

/-! ## What the round trip should give -/

/-- The value `dtb_serialise_node` stores in a property's length field: the placeholder size
for a placeholder, the length otherwise.
Source: `hw/arm/apple-silicon/dtb.c` `dtb_serialise_node` (the two `stl_le_p` of a length)
Kind: D -/
def serialisedLength (p : DTBProp) : Option UInt32 :=
  if p.placeholder then dtbGetPlaceholderSize p else some p.length

/-- The property a round trip should give back: a placeholder of non-zero size becomes that
many zero bytes, one of size `0` disappears, any other property stays.
Source: none: specification
Kind: D -/
def expandProp (p : DTBProp) : Option DTBProp :=
  if p.placeholder then do
    let ps ← dtbGetPlaceholderSize p
    if ps = 0 then none else some ⟨ps, false, List.replicate ps.toNat 0, List.length_replicate ..⟩
  else some p

/-- `expandProp` over a property list.
Source: none: specification
Kind: D -/
def expandEntries (l : List (List UInt8 × DTBProp)) : List (List UInt8 × DTBProp) :=
  l.filterMap fun e => (expandProp e.2).map (e.1, ·)

@[simp] theorem expandEntries_nil : expandEntries [] = [] := rfl

theorem expandEntries_cons (k : List UInt8) (p : DTBProp) (l : List (List UInt8 × DTBProp)) :
    expandEntries ((k, p) :: l) =
      match expandProp p with
      | none => expandEntries l
      | some q => (k, q) :: expandEntries l := by
  unfold expandEntries
  rw [List.filterMap_cons]
  cases expandProp p <;> rfl

/-- Expanding keeps a sublist of the keys. -/
theorem expandEntries_keys_sublist (l : List (List UInt8 × DTBProp)) :
    ((expandEntries l).map Prod.fst).Sublist (l.map Prod.fst) := by
  induction l with
  | nil => simp
  | cons e l ih =>
    obtain ⟨k, p⟩ := e
    rw [expandEntries_cons]
    cases expandProp p with
    | none => exact ih.cons k
    | some q => exact ih.cons_cons k

/-- The table a round trip should give back.
Source: none: specification
Kind: D -/
def PropTable.expand (t : PropTable) : PropTable where
  entries := expandEntries t.entries
  keys_nodup := t.keys_nodup.sublist (expandEntries_keys_sublist _)
  keys_cstr := fun k hk => t.keys_cstr k ((expandEntries_keys_sublist _).subset hk)

mutual

/-- The tree a round trip should give back.
Source: none: specification
Kind: D -/
def DTBNode.expand : DTBNode → DTBNode
  | .mk t cs => .mk t.expand (DTBNode.expandList cs)

/-- `DTBNode.expand` over a list of siblings.
Source: none: specification
Kind: D -/
def DTBNode.expandList : List DTBNode → List DTBNode
  | [] => []
  | c :: cs => c.expand :: DTBNode.expandList cs

end

/-- No property of the tree is a placeholder.
Source: none: specification
Kind: D -/
def DTBNode.NoPlaceholders (T : DTBNode) : Prop :=
  T.allNodes fun t _ => ∀ e ∈ t.entries, e.2.placeholder = false

/-- Without placeholders nothing is expanded. -/
theorem expandEntries_of_noPlaceholders (l : List (List UInt8 × DTBProp))
    (h : ∀ e ∈ l, e.2.placeholder = false) : expandEntries l = l := by
  induction l with
  | nil => rfl
  | cons e l ih =>
    obtain ⟨k, p⟩ := e
    have hpl : p.placeholder = false := h (k, p) (by simp)
    have hp : expandProp p = some p := by simp [expandProp, hpl]
    rw [expandEntries_cons, hp, ih fun e he => h e (by simp [he])]

mutual

theorem expand_of_noPlaceholders : ∀ T : DTBNode, T.NoPlaceholders → T.expand = T
  | .mk t cs, ⟨ht, hcs⟩ => by
    have htable : t.expand = t := PropTable.ext (expandEntries_of_noPlaceholders t.entries ht)
    rw [DTBNode.expand, htable, expandList_of_noPlaceholders cs hcs]

theorem expandList_of_noPlaceholders : ∀ cs : List DTBNode,
    DTBNode.allNodesList (fun t _ => ∀ e ∈ t.entries, e.2.placeholder = false) cs →
      DTBNode.expandList cs = cs
  | [], _ => rfl
  | c :: cs, ⟨hc, hcs⟩ => by
    rw [DTBNode.expandList, expand_of_noPlaceholders c hc, expandList_of_noPlaceholders cs hcs]

end

mutual

/-- Two trees are isomorphic: the same property under every name at the root, and isomorphic
children in the same order.
Source: none: specification
Kind: D -/
def DTBNode.Iso : DTBNode → DTBNode → Prop
  | .mk t cs, .mk t' cs' => (∀ k, t.find k = t'.find k) ∧ DTBNode.IsoList cs cs'

/-- `Iso` child by child.
Source: none: specification
Kind: D -/
def DTBNode.IsoList : List DTBNode → List DTBNode → Prop
  | [], [] => True
  | c :: cs, c' :: cs' => DTBNode.Iso c c' ∧ DTBNode.IsoList cs cs'
  | _, _ => False

end

mutual

theorem DTBNode.Iso.refl : ∀ T : DTBNode, T.Iso T
  | .mk _ cs => ⟨fun _ => rfl, DTBNode.IsoList.refl cs⟩

theorem DTBNode.IsoList.refl : ∀ cs : List DTBNode, DTBNode.IsoList cs cs
  | [] => trivial
  | c :: cs => ⟨DTBNode.Iso.refl c, DTBNode.IsoList.refl cs⟩

end

/-! ## When the round trip works -/

/-- One property survives the round trip: its name fits the 32-byte field and the value of
its length field is below `DT_PROP_PLACEHOLDER`.
Source: none: specification
Kind: D -/
def EntryRoundTrips (e : List UInt8 × DTBProp) : Prop :=
  e.1.length < DT_PROP_NAME_LEN ∧ ∀ v ∈ serialisedLength e.2, v.toNat < 2 ^ 31

/-- One node survives the round trip: its counts fit in 32 bits and its properties survive.
Source: none: specification
Kind: D -/
def NodeRoundTrips (t : PropTable) (cs : List DTBNode) : Prop :=
  t.entries.length < 2 ^ 32 ∧ cs.length < 2 ^ 32 ∧ ∀ e ∈ t.entries, EntryRoundTrips e

/-- Every node survives the round trip.
Source: none: specification
Kind: D -/
def DTBNode.RoundTrips (T : DTBNode) : Prop := T.allNodes NodeRoundTrips

/-- A copied property below `2^31` bytes is below `2^32 - 3`. -/
theorem lengthFits_of_entryRoundTrips {e : List UInt8 × DTBProp} (h : EntryRoundTrips e)
    (hp : e.2.placeholder = false) : e.2.length.toNat + 3 < 2 ^ 32 := by
  have := h.2 e.2.length (by simp [serialisedLength, hp])
  omega

theorem lengthsFit_of_roundTrips {T : DTBNode} (h : T.RoundTrips) : T.LengthsFit :=
  DTBNode.allNodes_mono (fun _ _ ht e he => lengthFits_of_entryRoundTrips (ht.2.2 e he)) T h

/-! ## Reading one property back -/

/-- A length field below `2^31` does not carry the placeholder flag. -/
theorem placeholder_flag_of_lt {v : UInt32} (h : v.toNat < 2 ^ 31) :
    (v &&& DT_PROP_PLACEHOLDER != 0) = false := by
  have hflag : DT_PROP_PLACEHOLDER.toNat = 2 ^ 31 := by decide
  have hzero : v &&& DT_PROP_PLACEHOLDER = 0 := by
    apply UInt32.toNat_inj.mp
    rw [UInt32.toNat_and, hflag, Nat.and_two_pow, Nat.testBit_lt_two_pow h]
    rfl
  simp [hzero]

/-- The name field and the length field of a property read back from memory that agrees with
what `dtb_serialise_node` stored in them. -/
theorem header_of_agree {k : List UInt8} {m m₂ : Mem} {c : ℕ} {v : UInt32}
    (hk : k.length < DT_PROP_NAME_LEN) (hz : 0 ∉ k)
    (h : Mem.AgreeOn (stlLeP (m.write c (strncpyBytes k DT_PROP_NAME_LEN)) (c + 32) v) m₂ c
      (c + 36)) :
    strnlenBytes m₂ c DT_PROP_NAME_LEN = k ∧ ldlLeP m₂ (c + 32) = v := by
  -- the length field at `c + 32` leaves the name field `[c, c + 32)` alone
  have hname : Mem.AgreeOn (m.write c (strncpyBytes k DT_PROP_NAME_LEN)) m₂ c
      (c + (strncpyBytes k DT_PROP_NAME_LEN).length) := by
    rw [strncpyBytes_length]
    exact ((unchanged_stlLeP _ (c + 32) v).agreeOn (Or.inl (le_refl _))).trans
      (h.mono (le_refl c) (by simp))
  constructor
  · rw [strnlenBytes, ← strncpyBytes_length k DT_PROP_NAME_LEN, Mem.read_write_of_agree m hname,
      cString_strncpyBytes hz hk]
  · exact ldlLeP_stlLeP_of_agree (h.mono (by omega) (le_refl _))

/-- Reading a property whose fields were read back: the name, the length without the flag and,
for a non-zero length, the data that follows. -/
theorem dtbDeserialiseProp_of_fields {m : Mem} {c : ℕ} {k : List UInt8} {v : UInt32}
    (hname : strnlenBytes m c DT_PROP_NAME_LEN = k) (hraw : ldlLeP m (c + 32) = v)
    (hv : v.toNat < 2 ^ 31) :
    dtbDeserialiseProp m c =
      if h : v ≠ 0 then (k, ⟨v, false, m.read (c + 36) v.toNat, Mem.read_length ..⟩,
        c + 36 + (roundUp32 v 4).toNat)
      else (k, ⟨v, false, [], by simp [not_not.mp h]⟩, c + 36) := by
  have hflag := placeholder_flag_of_lt hv
  unfold dtbDeserialiseProp
  simp only [hname, hraw, hflag, Bool.false_eq_true, if_false]

/-- Serialising a property keeps it counted exactly when a round trip should keep it, and a
dropped property writes nothing. -/
theorem dtbSerialiseProp_counted {k : List UInt8} {p : DTBProp} {m m₁ : Mem} {c c₁ : ℕ}
    {b : Bool} (h : dtbSerialiseProp k p m c = some (m₁, c₁, b)) :
    b = (expandProp p).isSome ∧ (expandProp p = none → m₁ = m ∧ c₁ = c) := by
  unfold dtbSerialiseProp at h
  unfold expandProp
  by_cases hp : p.placeholder
  · rcases hps : dtbGetPlaceholderSize p with _ | ps
    · simp [hp, hps] at h
    · by_cases h0 : ps = 0
      · simp only [hp, hps, h0, if_true, Option.bind_eq_bind, Option.bind_some,
          Option.some.injEq, Prod.mk.injEq] at h
        obtain ⟨rfl, rfl, rfl⟩ := h
        simp [hp, h0]
      · simp only [hp, hps, h0, if_true, if_false, Option.bind_eq_bind, Option.bind_some,
          Option.some.injEq, Prod.mk.injEq] at h
        obtain ⟨-, -, rfl⟩ := h
        simp [hp, h0]
  · have hb : b = true := by
      by_cases h0 : p.length = 0 <;> simp [hp, h0] at h <;> exact h.2.2
    simp [hp, hb]

/-- **One property survives the round trip.** Reading at `c` from memory that agrees with what
`dtb_serialise_node` wrote for a kept property gives its name, its expansion and the cursor
after it. For a placeholder the expanded zero bytes are read from the buffer itself, which the
serialiser skips: `hzero` says it was zero there.
Source: `hw/arm/apple-silicon/dtb.c` `dtb_serialise_node` / `dtb_deserialise_prop`
Kind: L -/
theorem dtbDeserialiseProp_of_serialise {k : List UInt8} {p q : DTBProp} {m m₁ m₂ : Mem}
    {c c₁ : ℕ} {b : Bool} (h : dtbSerialiseProp k p m c = some (m₁, c₁, b))
    (he : EntryRoundTrips (k, p)) (hz : 0 ∉ k) (hq : expandProp p = some q)
    (hzero : ∀ x, c ≤ x → x < c₁ → m x = 0) (hagree : Mem.AgreeOn m₁ m₂ c c₁) :
    dtbDeserialiseProp m₂ c = (k, q, c₁) := by
  obtain ⟨hk, hlen⟩ := he
  unfold dtbSerialiseProp at h
  unfold expandProp at hq
  by_cases hp : p.placeholder
  · -- a placeholder: the length field holds its size, the value is left as it was (zero)
    obtain ⟨ps, hps, h0, rfl⟩ : ∃ ps, dtbGetPlaceholderSize p = some ps ∧ ps ≠ 0 ∧
        q = ⟨ps, false, List.replicate ps.toNat 0, List.length_replicate ..⟩ := by
      rcases hps : dtbGetPlaceholderSize p with _ | ps
      · simp [hp, hps] at hq
      · by_cases h0 : ps = 0
        · simp [hp, hps, h0] at hq
        · simp only [hp, hps, h0, if_true, if_false, Option.bind_eq_bind, Option.bind_some,
            Option.some.injEq] at hq
          exact ⟨ps, rfl, h0, hq.symm⟩
    simp only [hp, hps, h0, if_true, if_false, Option.bind_eq_bind, Option.bind_some,
      Option.some.injEq, Prod.mk.injEq] at h
    obtain ⟨rfl, rfl, -⟩ := h
    have hlt : ps.toNat < 2 ^ 31 := hlen ps (by simp [serialisedLength, hp, hps])
    have hround : ps.toNat ≤ (roundUp32 ps 4).toNat := by
      rw [roundUp32_four_toNat ps (by omega)]
      exact (roundUp_four_bounds _).1
    obtain ⟨hname, hraw⟩ := header_of_agree hk hz (hagree.mono (le_refl c) (by omega))
    -- the skipped bytes: untouched by the header writes, zero before them
    have hdata : m₂.read (c + 36) ps.toNat = List.replicate ps.toNat 0 := by
      apply Mem.read_eq_replicate_zero
      intro x hx₁ hx₂
      rw [← hagree x (by omega) (by omega), unchanged_propHeader m c k ps x (Or.inr hx₁)]
      exact hzero x (by omega) (by omega)
    rw [dtbDeserialiseProp_of_fields hname hraw hlt, dif_pos h0]
    simp only [hdata]
  · -- a copied property: name, length and data are all written
    have hpf : p.placeholder = false := by simpa using hp
    simp only [hp, Bool.false_eq_true, if_false, Option.some.injEq] at hq
    subst hq
    have hlt : p.length.toNat < 2 ^ 31 := hlen p.length (by simp [serialisedLength, hpf])
    by_cases h0 : p.length = 0
    · simp only [hp, h0, ne_eq, not_true_eq_false, if_false, Bool.false_eq_true,
        Option.some.injEq, Prod.mk.injEq] at h
      obtain ⟨rfl, rfl, -⟩ := h
      obtain ⟨hname, hraw⟩ := header_of_agree hk hz hagree
      have hdata : p.data = [] := List.eq_nil_of_length_eq_zero (by rw [p.data_length, h0]; rfl)
      rw [dtbDeserialiseProp_of_fields hname hraw (by simp), dif_neg (not_not.mpr rfl)]
      simp only [Prod.mk.injEq, true_and, and_true]
      ext <;> simp [h0, hpf, hdata]
    · simp only [hp, h0, ne_eq, not_false_eq_true, if_true, Bool.false_eq_true, if_false,
        Option.some.injEq, Prod.mk.injEq] at h
      obtain ⟨rfl, rfl, -⟩ := h
      have hround : p.length.toNat ≤ (roundUp32 p.length 4).toNat := by
        rw [roundUp32_four_toNat p.length (by omega)]
        exact (roundUp_four_bounds _).1
      -- the data write at `c + 36` leaves the header alone
      have hheader := ((Mem.unchanged_write (stlLeP (m.write c (strncpyBytes k DT_PROP_NAME_LEN))
        (c + 32) p.length) (c + 36) p.data).agreeOn (Or.inl (le_refl _))).trans
        (hagree.mono (le_refl c) (by omega))
      obtain ⟨hname, hraw⟩ := header_of_agree hk hz hheader
      have hdata : m₂.read (c + 36) p.length.toNat = p.data := by
        rw [← p.data_length]
        exact Mem.read_write_of_agree _ (hagree.mono (by omega) (by rw [p.data_length]; omega))
      rw [dtbDeserialiseProp_of_fields hname hraw hlt, dif_pos h0]
      simp only [hdata, Prod.mk.injEq, true_and, and_true]
      ext <;> simp [hpf]

/-! ## The property loop -/

/-- The patched `prop_count`: the count the loop starts from, less one per dropped
placeholder. -/
theorem dtbSerialiseProps_count (l : List (List UInt8 × DTBProp)) :
    ∀ {m m₁ : Mem} {c c₁ : ℕ} {n n₁ : UInt32}, dtbSerialiseProps l m c n = some (m₁, c₁, n₁) →
      l.length ≤ n.toNat → n₁.toNat + l.length = n.toNat + (expandEntries l).length := by
  induction l with
  | nil =>
    intro m m₁ c c₁ n n₁ h _
    simp only [dtbSerialiseProps, Option.some.injEq, Prod.mk.injEq] at h
    obtain ⟨-, -, rfl⟩ := h
    simp
  | cons e rest ih =>
    intro m m₁ c c₁ n n₁ h hn
    obtain ⟨k, p⟩ := e
    simp only [dtbSerialiseProps, Option.bind_eq_bind] at h
    rcases hp : dtbSerialiseProp k p m c with _ | ⟨mA, cA, b⟩
    · simp [hp] at h
    simp only [hp, Option.bind_some] at h
    obtain ⟨hb, -⟩ := dtbSerialiseProp_counted hp
    simp only [List.length_cons] at hn ⊢
    rw [expandEntries_cons]
    cases hq : expandProp p with
    | none =>
      -- dropped: `prop_count -= 1`, which does not wrap
      rw [hq, Option.isSome_none] at hb
      subst hb
      have hsub : (n - 1).toNat = n.toNat - 1 := by
        rw [UInt32.toNat_sub_of_le _ _ (UInt32.le_iff_toNat_le.mpr (by simp; omega))]
        rfl
      simp only [Bool.false_eq_true, if_false] at h
      have := ih h (by omega)
      dsimp only
      omega
    | some q =>
      rw [hq, Option.isSome_some] at hb
      subst hb
      simp only [if_true] at h
      have := ih h (by omega)
      simp only [List.length_cons]
      omega

/-- **The property loop survives the round trip.** Reading as many properties as the
expansion keeps, from memory that agrees with what the loop wrote, inserts the expanded
properties in order.
Source: `hw/arm/apple-silicon/dtb.c` `dtb_serialise_node` / `dtb_deserialise_node`
Kind: L -/
theorem dtbDeserialiseProps_of_serialise (l : List (List UInt8 × DTBProp)) :
    ∀ {m m₁ m₂ : Mem} {c c₁ : ℕ} {n n₁ : UInt32} (t : PropTable),
      dtbSerialiseProps l m c n = some (m₁, c₁, n₁) → (∀ e ∈ l, EntryRoundTrips e) →
      (∀ k ∈ l.map Prod.fst, 0 ∉ k) → ((t.entries ++ expandEntries l).map Prod.fst).Nodup →
      (∀ x, c ≤ x → x < c₁ → m x = 0) → Mem.AgreeOn m₁ m₂ c c₁ →
      ∃ t', dtbDeserialiseProps m₂ (expandEntries l).length t c = some (t', c₁) ∧
        t'.entries = t.entries ++ expandEntries l := by
  induction l with
  | nil =>
    intro m m₁ m₂ c c₁ n n₁ t h _ _ _ _ _
    simp only [dtbSerialiseProps, Option.some.injEq, Prod.mk.injEq] at h
    obtain ⟨-, rfl, -⟩ := h
    exact ⟨t, rfl, by simp⟩
  | cons e rest ih =>
    intro m m₁ m₂ c c₁ n n₁ t h hl hz hnd hzero hagree
    obtain ⟨k, p⟩ := e
    simp only [dtbSerialiseProps, Option.bind_eq_bind] at h
    rcases hp : dtbSerialiseProp k p m c with _ | ⟨mA, cA, b⟩
    · simp [hp] at h
    simp only [hp, Option.bind_some] at h
    have hfit : ∀ e ∈ rest, e.2.placeholder = false → e.2.length.toNat + 3 < 2 ^ 32 :=
      fun e he => lengthFits_of_entryRoundTrips (hl e (by simp [he]))
    -- the rest of the loop writes only after this property
    obtain ⟨hrest, hcA⟩ := dtbSerialiseProps_unchanged rest hfit h
    have hl' : ∀ e ∈ rest, EntryRoundTrips e := fun e he => hl e (by simp [he])
    have hz' : ∀ k ∈ rest.map Prod.fst, 0 ∉ k := fun k' hk' => hz k' (by simp_all)
    rw [expandEntries_cons] at hnd ⊢
    cases hq : expandProp p with
    | none =>
      -- a dropped placeholder: nothing written, nothing read
      obtain ⟨rfl, rfl⟩ := (dtbSerialiseProp_counted hp).2 hq
      rw [hq] at hnd
      exact ih t h hl' hz' hnd hzero hagree
    | some q =>
      rw [hq] at hnd
      have hnd' : ((t.entries ++ [(k, q)]) ++ expandEntries rest).map Prod.fst |>.Nodup := by
        simpa using hnd
      obtain ⟨hhere, hc⟩ := dtbSerialiseProp_unchanged hp
        (lengthFits_of_entryRoundTrips (hl (k, p) (by simp)))
      -- this property is read from what it wrote itself
      have hdec := dtbDeserialiseProp_of_serialise hp (hl (k, p) (by simp)) (hz k (by simp)) hq
        (fun x h₁ h₂ => hzero x h₁ (by omega))
        ((hrest.agreeOn (Or.inl (le_refl _))).trans (hagree.mono (le_refl c) hcA))
      have hk : k ∉ t.entries.map Prod.fst := by
        intro hk
        rw [List.map_append, List.map_cons, List.nodup_append] at hnd
        exact hnd.2.2 k hk k (by simp) rfl
      obtain ⟨t₁, hins, ht₁⟩ := t.insertNew_eq_some q hk (hz k (by simp))
      obtain ⟨t', hdec', ht'⟩ := ih t₁ h hl' hz' (by rw [ht₁]; exact hnd')
        (fun x h₁ h₂ => by rw [hhere x (Or.inr h₁)]; exact hzero x (by omega) h₂)
        (hagree.mono hc (le_refl _))
      refine ⟨t', ?_, by rw [ht', ht₁]; simp⟩
      simp only [List.length_cons, dtbDeserialiseProps, hdec, hins, Option.bind_eq_bind,
        Option.bind_some, hdec']

/-! ## The tree -/

theorem lengthsFitList_of_roundTrips {cs : List DTBNode} (h : DTBNode.allNodesList NodeRoundTrips cs) :
    DTBNode.allNodesList
      (fun t _ => ∀ e ∈ t.entries, e.2.placeholder = false → e.2.length.toNat + 3 < 2 ^ 32) cs :=
  DTBNode.allNodesList_mono (fun _ _ ht e he => lengthFits_of_entryRoundTrips (ht.2.2 e he)) cs h

mutual

/-- **A tree survives the round trip.** With fuel above its depth, reading at `c` from memory
that agrees with what `dtb_serialise_node` wrote for `T` gives `T.expand` and stops where the
writer stopped.
Source: `hw/arm/apple-silicon/dtb.c` `dtb_serialise_node` / `dtb_deserialise_node`
Kind: L -/
theorem dtbDeserialiseNode_of_serialise :
    ∀ (T : DTBNode) {fuel : ℕ} {m m₁ m₂ : Mem} {c c₁ : ℕ}, T.RoundTrips → T.depth < fuel →
      dtbSerialiseNode T m c = some (m₁, c₁) → (∀ x, c ≤ x → x < c₁ → m x = 0) →
      Mem.AgreeOn m₁ m₂ c c₁ → dtbDeserialiseNode fuel m₂ c = some (T.expand, c₁)
  | .mk t cs, fuel, m, m₁, m₂, c, c₁, hT, hd, h, hzero, hagree => by
    obtain ⟨⟨hnp, hncs, hent⟩, hcs⟩ := hT
    obtain ⟨f, rfl, hdcs⟩ : ∃ f, fuel = f + 1 ∧ DTBNode.depthList cs < f := by
      simp only [DTBNode.depth] at hd
      exact ⟨fuel - 1, by omega, by omega⟩
    simp only [dtbSerialiseNode, Option.bind_eq_bind] at h
    rcases hp : dtbSerialiseProps t.entries (stlLeP m (c + 4) (UInt32.ofNat cs.length)) (c + 8)
        (UInt32.ofNat t.entries.length) with _ | ⟨mp, cp, n⟩
    · simp [hp] at h
    simp only [hp, Option.bind_some] at h
    -- where each phase writes: the child count, the properties, the patched count, the children
    have hu₀ := unchanged_stlLeP m (c + 4) (UInt32.ofNat cs.length)
    obtain ⟨hu₁, hcp⟩ := dtbSerialiseProps_unchanged t.entries
      (fun e he => lengthFits_of_entryRoundTrips (hent e he)) hp
    have hu₂ := unchanged_stlLeP mp c n
    obtain ⟨hu₃, hc₁⟩ := dtbSerialiseChildren_unchanged cs (lengthsFitList_of_roundTrips hcs) h
    -- the two counts
    have hcount : ldlLeP m₂ c = n := ldlLeP_stlLeP_of_agree
      ((hu₃.agreeOn (Or.inl (by omega))).trans (hagree.mono (le_refl c) (by omega)))
    have hchildren : ldlLeP m₂ (c + 4) = UInt32.ofNat cs.length := ldlLeP_stlLeP_of_agree
      (((hu₁.agreeOn (Or.inl (by omega))).trans (hu₂.agreeOn (Or.inr (by omega)))).trans
        ((hu₃.agreeOn (Or.inl (by omega))).trans (hagree.mono (by omega) (by omega))))
    have hn : n.toNat = (expandEntries t.entries).length := by
      have hlen : (UInt32.ofNat t.entries.length).toNat = t.entries.length :=
        UInt32.toNat_ofNat_of_lt' hnp
      have := dtbSerialiseProps_count t.entries hp (by rw [hlen])
      omega
    -- the properties
    obtain ⟨t', hdec, ht'⟩ := dtbDeserialiseProps_of_serialise t.entries PropTable.empty hp hent
      t.keys_cstr
      (by rw [show PropTable.empty.entries = [] from rfl, List.nil_append]; exact t.expand.keys_nodup)
      (fun x h₁ h₂ => by rw [hu₀ x (Or.inr (by omega))]; exact hzero x (by omega) (by omega))
      ((hu₂.agreeOn (Or.inr (by omega))).trans
        ((hu₃.agreeOn (Or.inl (le_refl _))).trans (hagree.mono (by omega) hc₁)))
    have htable : t' = t.expand := PropTable.ext (by rw [ht']; rfl)
    -- the children
    have hkids := dtbDeserialiseChildren_of_serialise cs hcs hdcs h
      (fun x h₁ h₂ => by
        rw [hu₂ x (Or.inr (by omega)), hu₁ x (Or.inr h₁), hu₀ x (Or.inr (by omega))]
        exact hzero x (by omega) h₂)
      (hagree.mono (by omega) (le_refl _))
    simp only [dtbDeserialiseNode, hcount, hchildren, hn, hdec, Option.bind_eq_bind,
      Option.bind_some, UInt32.toNat_ofNat_of_lt' hncs, hkids, htable, DTBNode.expand]

/-- The children loop survives the round trip, child by child.
Source: `hw/arm/apple-silicon/dtb.c` `dtb_serialise_node` / `dtb_deserialise_node`
Kind: L -/
theorem dtbDeserialiseChildren_of_serialise :
    ∀ (cs : List DTBNode) {f : ℕ} {m m₁ m₂ : Mem} {c c₁ : ℕ},
      DTBNode.allNodesList NodeRoundTrips cs → DTBNode.depthList cs < f →
      dtbSerialiseChildren cs m c = some (m₁, c₁) → (∀ x, c ≤ x → x < c₁ → m x = 0) →
      Mem.AgreeOn m₁ m₂ c c₁ →
      repeatDecode (dtbDeserialiseNode f m₂) cs.length c = some (DTBNode.expandList cs, c₁)
  | [], f, m, m₁, m₂, c, c₁, _, _, h, _, _ => by
    simp only [dtbSerialiseChildren, Option.some.injEq, Prod.mk.injEq] at h
    obtain ⟨-, rfl⟩ := h
    rfl
  | n :: ns, f, m, m₁, m₂, c, c₁, hcs, hd, h, hzero, hagree => by
    obtain ⟨hn, hns⟩ := hcs
    simp only [DTBNode.depthList] at hd
    simp only [dtbSerialiseChildren, Option.bind_eq_bind] at h
    rcases hs : dtbSerialiseNode n m c with _ | ⟨mA, cA⟩
    · simp [hs] at h
    simp only [hs, Option.bind_some] at h
    obtain ⟨hu₁, hcA⟩ := dtbSerialiseNode_unchanged n (lengthsFit_of_roundTrips hn) hs
    obtain ⟨hu₂, hc₁⟩ := dtbSerialiseChildren_unchanged ns (lengthsFitList_of_roundTrips hns) h
    -- this child from what it wrote itself, the rest from where it ends
    have hhead : dtbDeserialiseNode f m₂ c = some (n.expand, cA) :=
      dtbDeserialiseNode_of_serialise n hn (by omega) hs
      (fun x h₁ h₂ => hzero x h₁ (by omega))
      ((hu₂.agreeOn (Or.inl (le_refl _))).trans (hagree.mono (le_refl c) hc₁))
    have hrest : repeatDecode (dtbDeserialiseNode f m₂) ns.length cA =
        some (DTBNode.expandList ns, c₁) :=
      dtbDeserialiseChildren_of_serialise ns hns (by omega) h
      (fun x h₁ h₂ => by rw [hu₁ x (Or.inr h₁)]; exact hzero x (by omega) h₂)
      (hagree.mono hcA (le_refl _))
    exact repeatDecode_succ_of_eq hhead hrest

end

/-! ## The round trip of `dtb_serialise` and `dtb_deserialise` -/

/-- **Deserialising what `dtb_serialise` wrote into a zeroed buffer gives the tree back**, up
to `Iso`, with each placeholder expanded to its zero bytes or dropped; a tree without
placeholders comes back as it was. The decoder stops exactly at the end of what was written.
Source: `hw/arm/apple-silicon/dtb.c` `dtb_serialise` / `dtb_deserialise`
Kind: P -/
theorem dtbDeserialise_dtbSerialise (T : DTBNode) (hT : T.RoundTrips) (fuel : ℕ)
    (hfuel : T.depth < fuel) (m : Mem) (s : ℕ)
    (h : dtbSerialiseNode T (fun _ => 0) 0 = some (m, s)) :
    ∃ T', dtbDeserialiseNode fuel m 0 = some (T', s) ∧ T'.Iso T.expand ∧
      (T.NoPlaceholders → T'.Iso T) := by
  have hrt := dtbDeserialiseNode_of_serialise T hT hfuel h (fun _ _ _ => rfl) (fun _ _ _ => rfl)
  refine ⟨T.expand, hrt, DTBNode.Iso.refl _, fun hno => ?_⟩
  rw [expand_of_noPlaceholders T hno]
  exact DTBNode.Iso.refl T

/-- A root with a 4-byte property `"a"` and one empty child. -/
def smallTree : DTBNode :=
  .mk ⟨[(asciiBytes "a", ⟨4, false, [1, 2, 3, 4], rfl⟩)], by decide, by decide⟩
    [.mk PropTable.empty []]

/-- The small tree comes back from its serialisation.
Source: none: infrastructure
Kind: P -/
theorem dtbDeserialise_dtbSerialise_smallTree :
    ∃ m s T', dtbSerialiseNode smallTree (fun _ => 0) 0 = some (m, s) ∧
      dtbDeserialiseNode 3 m 0 = some (T', s) ∧ T'.Iso smallTree := by
  obtain ⟨m, s, h⟩ : ∃ m s, dtbSerialiseNode smallTree (fun _ => 0) 0 = some (m, s) :=
    ⟨_, _, rfl⟩
  have hT : smallTree.RoundTrips :=
    ⟨⟨by decide, by decide, by simp [EntryRoundTrips, serialisedLength, DT_PROP_NAME_LEN, asciiBytes]⟩,
      ⟨⟨by decide, by decide, by simp [PropTable.empty]⟩, trivial⟩, trivial⟩
  have hno : smallTree.NoPlaceholders :=
    ⟨by simp, ⟨by simp [PropTable.empty], trivial⟩, trivial⟩
  obtain ⟨T', h₁, -, h₂⟩ := dtbDeserialise_dtbSerialise smallTree hT 3 (by decide) m s h
  exact ⟨m, s, T', h, h₁, h₂ hno⟩

/-- A placeholder `zeroes/2147483648`: `dtb_get_placeholder_size` gives `2^31`. -/
def zeroesPlaceholder : DTBProp := ⟨18, true, asciiBytes "zeroes/2147483648" ++ [0], rfl⟩

/-- A root holding the placeholder under the name `"x"`. -/
def zeroesTree : DTBNode :=
  .mk ⟨[(asciiBytes "x", zeroesPlaceholder)], by decide, by decide⟩ []

/-- The placeholder size `2^31` is stored as the length field `0x80000000`, which
`dtb_deserialise_prop` reads as a placeholder of length `0`: the property comes back as a
placeholder, not as `2^31` zero bytes, and the decoder stops `2^31` bytes short of the end.
Source: `hw/arm/apple-silicon/dtb.c` `dtb_serialise_node` / `dtb_deserialise_prop`
Kind: P -/
theorem dtb_deserialise_reflags_placeholder :
    dtbGetPlaceholderSize zeroesPlaceholder = some 0x80000000 ∧
      ∃ m, dtbSerialiseNode zeroesTree (fun _ => 0) 0 = some (m, 2 ^ 31 + 44) ∧
        ∀ fuel, ∃ T', dtbDeserialiseNode (fuel + 1) m 0 = some (T', 44) ∧
          dtbFindProp T' (asciiBytes "x") = some ⟨0, true, [], rfl⟩ := by
  refine ⟨by decide, _, rfl, fun fuel => ⟨_, rfl, rfl⟩⟩

end QemuAppleSilicon.Arm.Dtb
