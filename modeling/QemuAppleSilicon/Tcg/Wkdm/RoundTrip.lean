import QemuAppleSilicon.Tcg.Wkdm.Packing
import QemuAppleSilicon.Tcg.Wkdm.Helper

/-!
# The packed format round trip

`WKdm_decompress` undoes `WKdm_compress` on the packed format. When the compressor packs a page
(it returns neither `0`, nor `-1`, nor the mostly-zero format) at `dest`, and the source and
output pages miss the `r` bytes it wrote, then decompressing from `dest`:

* with a `size` of at least `r + 4` bytes, succeeds and leaves the output page equal to the
  source page, writing nothing else;
* with a smaller `size`, fails the header check `words ≤ lowEnd` and writes nothing.

So the decompressor needs one word more than the compressor reports (`wkdm_packed_round_trip`).

The proof is a simulation. After the same number of words, the decoder's dictionary is the
compressor's, and its cursors stand at the ends of the compressor's arrays (`InStep`). One
modeling step is followed by one decoded tag that writes back the modelled word
(`decodeTag_modelWord`). By induction over the modeling loop the whole tag loop rebuilds the
page (`decodeTags_modelLoop`). Around it:

* the loop's arrays fit their packed fields (`modelLoop_fits`);
* the misses sit in the full-word area (`modelLoop_fullArea`);
* the packed writer lays the areas out where the header says (`packNormal_tags` and the lemmas
  after it), and the unpackers return the arrays (`unpack_tags`, `unpack_qpos`,
  `unpack_lowBits`).
-/

namespace QemuAppleSilicon.Tcg.Wkdm

open QemuAppleSilicon.Lib QemuAppleSilicon.Qemu

/-! ## One modeling step -/

section Step

variable {dest : ℕ} {s s' : Modeling} {m m' : Mem} {w : UInt32}

/-- The four outcomes of one modeling step: an exact match, a zero, a partial match, a miss. -/
theorem modelWord_eq_some (h : modelWord dest s m w = some (s', m')) :
    (w = s.dict (dictSlot w) ∧ m' = m ∧
        s' = { s with tags := s.tags ++ [EXACT_TAG], qpos := s.qpos ++ [(dictSlot w).val.toUInt8] }) ∨
      (w = 0 ∧ m' = m ∧ s' = { s with tags := s.tags ++ [ZERO_TAG] }) ∨
      (w >>> 10 = s.dict (dictSlot w) >>> 10 ∧ m' = m ∧ s' = { s with
          tags := s.tags ++ [PARTIAL_TAG]
          qpos := s.qpos ++ [(dictSlot w).val.toUInt8]
          lowBits := s.lowBits ++ [w &&& LOW_BITS_MASK]
          dict := Function.update s.dict (dictSlot w) w }) ∨
      (m' = stlLeP m (dest + 4 * (fullWordsStart + s.misses.length)) w ∧ s' = s.miss w) := by
  dsimp only [modelWord] at h
  split_ifs at h with hexact hzero hpart
  · cases h
    exact Or.inl ⟨hexact, rfl, rfl⟩
  · cases h
    exact Or.inr (Or.inl ⟨hzero, rfl, rfl⟩)
  · cases h
    exact Or.inr (Or.inr (Or.inl ⟨hpart, rfl, rfl⟩))
  · cases h
    exact Or.inr (Or.inr (Or.inr ⟨rfl, rfl⟩))

/-- A dictionary slot as a queue-position byte keeps its value. -/
theorem slot_toUInt8_toNat (x : Fin 16) : (x.val.toUInt8).toNat = x.val := by
  rw [Nat.toUInt8, UInt8.toNat_ofNat_of_lt' (Nat.lt_of_lt_of_le x.isLt (by decide))]

theorem and_LOW_BITS_MASK_lt (w : UInt32) : (w &&& LOW_BITS_MASK).toNat < 2 ^ 10 := by
  rw [UInt32.toNat_and]
  exact Nat.and_lt_two_pow _ (by decide)

/-- The arrays of a modeling state fit the fields the packers give them, and hold at most one
entry per tag. -/
structure Modeling.Fits (s : Modeling) : Prop where
  tags : ∀ t ∈ s.tags, t.toNat < 2 ^ 2
  qpos : ∀ q ∈ s.qpos, q.toNat < 2 ^ 4
  lowBits : ∀ l ∈ s.lowBits, l.toNat < 2 ^ 10
  qpos_le : s.qpos.length ≤ s.tags.length
  lowBits_le : s.lowBits.length ≤ s.tags.length
  misses_le : s.misses.length ≤ s.tags.length

/-- One modeling step keeps the arrays within their fields. -/
theorem modelWord_fits (h : modelWord dest s m w = some (s', m')) (hs : s.Fits) : s'.Fits := by
  have hslot := slot_toUInt8_toNat (dictSlot w)
  have hlow := and_LOW_BITS_MASK_lt w
  have := hs.qpos_le; have := hs.lowBits_le; have := hs.misses_le
  rcases modelWord_eq_some h with ⟨-, -, rfl⟩ | ⟨-, -, rfl⟩ | ⟨-, -, rfl⟩ | ⟨-, rfl⟩
  all_goals
    constructor <;> simp only [Modeling.miss, List.forall_mem_append, List.forall_mem_singleton,
      List.length_append, List.length_singleton]
  -- each field is the old one, or the old one and the entry this step appends
  all_goals first
    | omega
    | exact hs.tags | exact hs.qpos | exact hs.lowBits
    | exact ⟨hs.tags, by decide⟩ | exact ⟨hs.qpos, by omega⟩ | exact ⟨hs.lowBits, hlow⟩

/-- One modeling step appends one tag, and extends the other arrays. -/
theorem modelWord_grows (h : modelWord dest s m w = some (s', m')) :
    (∃ t, s'.tags = s.tags ++ [t]) ∧ s.qpos <+: s'.qpos ∧ s.lowBits <+: s'.lowBits ∧
      s.misses <+: s'.misses := by
  rcases modelWord_eq_some h with ⟨-, -, rfl⟩ | ⟨-, -, rfl⟩ | ⟨-, -, rfl⟩ | ⟨-, rfl⟩ <;>
    simp [Modeling.miss]

/-- The full-word area at `dest` holds the misses so far, in order. -/
def FullArea (dest : ℕ) (s : Modeling) (m : Mem) : Prop :=
  ∀ j (hj : j < s.misses.length), ldlLeP m (dest + 4 * (fullWordsStart + j)) = s.misses[j]

/-- One modeling step writes at most the next slot of the full-word area. -/
theorem modelWord_unchanged (h : modelWord dest s m w = some (s', m')) :
    Mem.Unchanged m m' (dest + 4 * (fullWordsStart + s.misses.length))
      (dest + 4 * (fullWordsStart + s'.misses.length)) := by
  rcases modelWord_eq_some h with ⟨-, rfl, -⟩ | ⟨-, rfl, -⟩ | ⟨-, rfl, -⟩ | ⟨rfl, rfl⟩
  any_goals exact Mem.Unchanged.refl _ _ _
  simpa [Modeling.miss, Nat.mul_add, Nat.add_assoc] using
    unchanged_stlLeP m (dest + 4 * (fullWordsStart + s.misses.length)) w

/-- One modeling step keeps the full-word area in step with the misses. -/
theorem modelWord_fullArea (h : modelWord dest s m w = some (s', m')) (hf : FullArea dest s m) :
    FullArea dest s' m' := by
  rcases modelWord_eq_some h with ⟨-, rfl, rfl⟩ | ⟨-, rfl, rfl⟩ | ⟨-, rfl, rfl⟩ | ⟨rfl, rfl⟩
  any_goals exact hf
  -- a miss stores its word in the next slot of the area, past the earlier ones
  intro j hj
  simp only [Modeling.miss, List.length_append, List.length_singleton] at hj ⊢
  rcases Nat.lt_succ_iff_lt_or_eq.mp hj with hj | rfl
  · rw [ldlLeP_eq_of_unchanged (unchanged_stlLeP _ _ _) (by omega), List.getElem_append_left hj,
      hf j hj]
  · simp

end Step

/-! ## The modeling loop -/

section Run

variable {src dest : ℕ}

/-- **The invariant rule of the modeling loop**: a property of the word index, the state and the
memory that every step keeps holds at the end of every run that does not fail. -/
theorem modelLoop_invariant (P : ℕ → Modeling → Mem → Prop)
    (hstep : ∀ i s m s' m', P i s m →
      modelWord dest s m (ldlLeP m (src + 4 * i)) = some (s', m') → P (i + 1) s' m') :
    ∀ n i s m s' m', modelLoop src dest n i s m = (some s', m') → P i s m → P (i + n) s' m'
  | 0, i, s, m, s', m', h, hP => by
    cases h
    exact hP
  | n + 1, i, s, m, s', m', h, hP => by
    rw [modelLoop_succ] at h
    cases hw : modelWord dest s m (ldlLeP m (src + 4 * i)) with
    | none => simp [hw] at h
    | some p =>
      obtain ⟨s₁, m₁⟩ := p
      rw [hw] at h
      have hrun := modelLoop_invariant P hstep n (i + 1) s₁ m₁ s' m' h (hstep _ _ _ _ _ hP hw)
      rwa [Nat.add_assoc, Nat.add_comm 1 n] at hrun

theorem initialModeling_fits (budget : ℤ) : (initialModeling budget).Fits := by
  constructor <;> simp [initialModeling]

variable {n i : ℕ} {s s' : Modeling} {m m' : Mem}

/-- A run keeps the arrays within their fields, and adds one tag per word. -/
theorem modelLoop_fits (h : modelLoop src dest n i s m = (some s', m')) (hs : s.Fits) :
    s'.Fits ∧ s'.tags.length = s.tags.length + n := by
  have hrun := modelLoop_invariant (fun j s₁ _ => s₁.Fits ∧ s₁.tags.length + i = s.tags.length + j)
    (fun j s₁ m₁ s₂ m₂ hP hw => ?_) n i s m s' m' h ⟨hs, rfl⟩
  · exact ⟨hrun.1, by omega⟩
  · obtain ⟨⟨t, ht⟩, -⟩ := modelWord_grows hw
    refine ⟨modelWord_fits hw hP.1, ?_⟩
    rw [ht, List.length_append, List.length_singleton]
    omega

/-- A run only extends the arrays. -/
theorem modelLoop_grows (h : modelLoop src dest n i s m = (some s', m')) :
    s.tags <+: s'.tags ∧ s.qpos <+: s'.qpos ∧ s.lowBits <+: s'.lowBits ∧ s.misses <+: s'.misses := by
  refine modelLoop_invariant
    (fun _ s₁ _ => s.tags <+: s₁.tags ∧ s.qpos <+: s₁.qpos ∧ s.lowBits <+: s₁.lowBits ∧
      s.misses <+: s₁.misses)
    (fun j s₁ m₁ s₂ m₂ hP hw => ?_) n i s m s' m' h ⟨List.prefix_refl _, List.prefix_refl _,
      List.prefix_refl _, List.prefix_refl _⟩
  obtain ⟨⟨t, ht⟩, hq, hl, hm⟩ := modelWord_grows hw
  exact ⟨hP.1.trans (ht ▸ List.prefix_append _ _), hP.2.1.trans hq, hP.2.2.1.trans hl,
    hP.2.2.2.trans hm⟩

/-- A run keeps the full-word area in step with the misses. -/
theorem modelLoop_fullArea (h : modelLoop src dest n i s m = (some s', m')) (hf : FullArea dest s m) :
    FullArea dest s' m' :=
  modelLoop_invariant (fun _ s₁ m₁ => FullArea dest s₁ m₁)
    (fun _ _ _ _ _ hP hw => modelWord_fullArea hw hP) n i s m s' m' h hf

end Run

/-! ## The packed branch of the compressor -/

/-- The mostly-zero entries lie past the cursor's first four bytes. -/
theorem unchanged_mzvEntries (src : ℕ) :
    ∀ (n i o : ℕ) (m : Mem), Mem.Unchanged m (mzvEntries src n i o m) (o + 4) (o + 4 + 6 * n)
  | 0, _, _, _ => Mem.Unchanged.refl _ _ _
  | n + 1, i, o, m => by
    rw [mzvEntries]
    split_ifs
    · exact ((unchanged_mzvEntry i o m _).mono le_rfl (by omega)).trans
        ((unchanged_mzvEntries src n (i + 1) (o + 6) _).mono (by omega) (by omega))
    · exact (unchanged_mzvEntries src n (i + 1) o m).mono le_rfl (by omega)

/-- The mostly-zero format starts with its magic word. -/
theorem ldlLeP_mzvWrite (src dest : ℕ) (m : Mem) : ldlLeP (mzvWrite src dest m) dest = MZV_MAGIC := by
  rw [mzvWrite, ldlLeP_eq_of_unchanged (unchanged_mzvEntries _ _ _ _ _) (Or.inl (by omega)),
    ldlLeP_stlLeP]

/-- A tail that neither fails, nor returns `SV_RETURN`, nor writes the magic word is the packed
writer. -/
theorem compressTail_packed {src dest : ℕ} {s : Modeling} {m m₁ : Mem} {r : UInt32}
    (h : compressTail src dest s m = (r, m₁)) (hr : r ≠ 0) (hfail : r ≠ 0xFFFFFFFF)
    (hpacked : ldlLeP m₁ dest ≠ MZV_MAGIC) : packNormal dest s m = (r, m₁) := by
  dsimp only [compressTail] at h
  split_ifs at h
  -- the failure, the three single-value returns and the mostly-zero format are all excluded
  · exact absurd (Prod.mk.inj h).1.symm hfail
  · exact absurd (Prod.mk.inj h).1.symm hr
  · exact absurd (Prod.mk.inj h).1.symm hr
  · exact absurd (Prod.mk.inj h).1.symm hr
  · exact absurd ((Prod.mk.inj h).2 ▸ ldlLeP_mzvWrite src dest m) hpacked
  · exact h

/-- A compression that packs the page is a full modeling run, then the packed writer. -/
theorem wkdmCompress_packed {src dest : ℕ} {byteBudget : ℤ} {m m₁ : Mem} {r : UInt32}
    (h : wkdmCompress src dest byteBudget m = (r, m₁)) (hr : r ≠ 0) (hfail : r ≠ 0xFFFFFFFF)
    (hpacked : ldlLeP m₁ dest ≠ MZV_MAGIC) :
    ∃ s mL, modelLoop src dest PAGE_SIZE_IN_WORDS 0 (initialModeling (byteBudget - headerSize)) m =
      (some s, mL) ∧ packNormal dest s mL = (r, m₁) := by
  dsimp only [wkdmCompress] at h
  split_ifs at h
  · exact absurd (Prod.mk.inj h).1.symm hfail
  · revert h
    rcases modelLoop src dest PAGE_SIZE_IN_WORDS 0 (initialModeling (byteBudget - headerSize)) m
      with ⟨_ | s, mL⟩
    · intro h
      exact absurd (Prod.mk.inj h).1.symm hfail
    · intro h
      exact ⟨s, mL, rfl, compressTail_packed h hr hfail hpacked⟩

/-! ## The packed layout -/

theorem Modeling.packedQpos_length (s : Modeling) : s.packedQpos.length = s.qPacked := by
  simp only [Modeling.packedQpos, wkPack4bits_length, bytesToWords_length, List.length_append,
    List.length_replicate, Modeling.qPacked, Nat.shiftRight_eq_div_pow]
  omega

theorem Modeling.packedLowBits_length (s : Modeling) : s.packedLowBits.length = s.lPacked := by
  simp only [Modeling.packedLowBits, wkPack3Tenbits_length, List.length_append,
    List.length_replicate, Modeling.lPacked]
  omega

/-- After a full page the packed size, and so every header word, fits in 32 bits. -/
theorem Modeling.Fits.lowEnd_lt {s : Modeling} (hs : s.Fits)
    (hlen : s.tags.length = PAGE_SIZE_IN_WORDS) : 4 * s.lowEnd < 2 ^ 32 := by
  have := hs.qpos_le; have := hs.lowBits_le; have := hs.misses_le
  simp only [Modeling.lowEnd, Modeling.lowStart, Modeling.qposStart, Modeling.qPacked,
    Modeling.lPacked, Nat.shiftRight_eq_div_pow, fullWordsStart, TAGS_AREA_OFFSET,
    PAGE_SIZE_IN_WORDS, TARGET_PAGE_SIZE] at hlen ⊢
  omega

section Layout

/-! Each area is read back through the writes that follow it, which all miss it: the header
words lie below the tags area, and the full words, queue positions and low bits follow each
other. -/

variable (dest : ℕ) (s : Modeling) (m : Mem)

theorem packNormal_qposStart : ldlLeP (packNormal dest s m).2 dest = UInt32.ofNat s.qposStart := by
  have h₁ : s.qposStart = 67 + s.misses.length := rfl
  have h₂ : 4 * HEADER_SIZE_IN_WORDS = 12 := rfl
  have h₃ : s.lowStart = s.qposStart + s.qPacked := rfl
  simp (disch := omega) only [packNormal, ldlLeP_stlLeP_of_disjoint, ldlLeP_storeWords_of_disjoint,
    ldlLeP_stlLeP]

theorem packNormal_lowStart : ldlLeP (packNormal dest s m).2 (dest + 4) = UInt32.ofNat s.lowStart := by
  have h₁ : s.qposStart = 67 + s.misses.length := rfl
  have h₃ : s.lowStart = s.qposStart + s.qPacked := rfl
  simp (disch := omega) only [packNormal, ldlLeP_stlLeP_of_disjoint, ldlLeP_storeWords_of_disjoint,
    ldlLeP_stlLeP]

theorem packNormal_lowEnd : ldlLeP (packNormal dest s m).2 (dest + 8) = UInt32.ofNat s.lowEnd := by
  simp only [packNormal, ldlLeP_stlLeP]

/-- The tags area holds the packed tags of a full page. -/
theorem packNormal_tags (hlen : s.tags.length = PAGE_SIZE_IN_WORDS) :
    loadWords (packNormal dest s m).2 (dest + 4 * TAGS_AREA_OFFSET) TAGS_AREA_SIZE =
      wkPack2bits (bytesToWords s.tags) := by
  have h₁ : s.qposStart = 67 + s.misses.length := rfl
  have h₂ : 4 * TAGS_AREA_OFFSET = 12 := rfl
  have h₃ : s.lowStart = s.qposStart + s.qPacked := rfl
  have h₄ : TAGS_AREA_SIZE = 64 := rfl
  have hpacked : (wkPack2bits (bytesToWords s.tags)).length = TAGS_AREA_SIZE := by
    rw [wkPack2bits_length, bytesToWords_length, hlen]
    rfl
  simp (disch := omega) only [packNormal, loadWords_stlLeP_of_disjoint,
    loadWords_storeWords_of_disjoint]
  rw [show dest + 4 * TAGS_AREA_OFFSET = dest + 4 * HEADER_SIZE_IN_WORDS from rfl, ← hpacked,
    loadWords_storeWords]

theorem packNormal_qpos :
    loadWords (packNormal dest s m).2 (dest + 4 * s.qposStart) s.qPacked = s.packedQpos := by
  have h₃ : s.lowStart = s.qposStart + s.qPacked := rfl
  have h₁ : s.qposStart = 67 + s.misses.length := rfl
  have hlen := s.packedQpos_length
  simp (disch := omega) only [packNormal, loadWords_stlLeP_of_disjoint,
    loadWords_storeWords_of_disjoint]
  rw [← hlen, loadWords_storeWords]

theorem packNormal_lowBits :
    loadWords (packNormal dest s m).2 (dest + 4 * s.lowStart) s.lPacked = s.packedLowBits := by
  have h₃ : s.lowStart = s.qposStart + s.qPacked := rfl
  have h₁ : s.qposStart = 67 + s.misses.length := rfl
  have hlen := s.packedLowBits_length
  simp (disch := omega) only [packNormal, loadWords_stlLeP_of_disjoint]
  rw [← hlen, loadWords_storeWords]

/-- The packed writer leaves the full-word area alone. -/
theorem packNormal_fullArea (hlen : s.tags.length = PAGE_SIZE_IN_WORDS) (hf : FullArea dest s m) :
    FullArea dest s (packNormal dest s m).2 := by
  intro j hj
  have h₁ : s.qposStart = 67 + s.misses.length := rfl
  have h₂ : 4 * HEADER_SIZE_IN_WORDS = 12 := rfl
  have h₃ : s.lowStart = s.qposStart + s.qPacked := rfl
  have h₄ : fullWordsStart = 67 := rfl
  have hpacked : (wkPack2bits (bytesToWords s.tags)).length ≤ 64 := by
    rw [wkPack2bits_length, bytesToWords_length, hlen]
    decide
  simp (disch := omega) only [packNormal, ldlLeP_stlLeP_of_disjoint, ldlLeP_storeWords_of_disjoint]
  exact hf j hj

end Layout

section Unpack

variable {s : Modeling} (hs : s.Fits)
include hs

/-- The tags come back from the tags area. -/
theorem unpack_tags (hlen : s.tags.length = PAGE_SIZE_IN_WORDS) :
    wordsToBytes (wkUnpack2bits (wkPack2bits (bytesToWords s.tags))) = s.tags := by
  rw [wkUnpack2bits_wkPack2bits _ (by rw [bytesToWords_length, hlen]; rfl)
    (bytesToWords_lanes _ hs.tags), wordsToBytes_bytesToWords _ (by rw [hlen]; rfl)]

/-- The queue positions come back from their area, with the compressor's zero padding. -/
theorem unpack_qpos : wordsToBytes (wkUnpack4bits s.packedQpos) =
    s.qpos ++ List.replicate (s.qPacked * 8 - s.qpos.length) 0 := by
  have hlen : (s.qpos ++ List.replicate (s.qPacked * 8 - s.qpos.length) 0).length = s.qPacked * 8 := by
    simp only [List.length_append, List.length_replicate, Modeling.qPacked, Nat.shiftRight_eq_div_pow]
    omega
  have hfit : ∀ b ∈ s.qpos ++ List.replicate (s.qPacked * 8 - s.qpos.length) 0, b.toNat < 2 ^ 4 := by
    intro b hb
    rcases List.mem_append.mp hb with hb | hb
    · exact hs.qpos b hb
    · rw [List.eq_of_mem_replicate hb]
      decide
  rw [Modeling.packedQpos, wkUnpack4bits_wkPack4bits _ (by rw [bytesToWords_length, hlen]; omega)
    (bytesToWords_lanes _ hfit), wordsToBytes_bytesToWords _ (by rw [hlen]; omega)]

/-- The low bits come back from their area, with the compressor's zero padding. -/
theorem unpack_lowBits : wkUnpack3Tenbits s.packedLowBits =
    s.lowBits ++ List.replicate (s.lPacked * 3 - s.lowBits.length) 0 := by
  apply wkUnpack3Tenbits_wkPack3Tenbits
  · simp only [List.length_append, List.length_replicate, Modeling.lPacked]
    omega
  · intro w hw
    rcases List.mem_append.mp hw with hw | hw
    · exact hs.lowBits w hw
    · rw [List.eq_of_mem_replicate hw]
      decide

end Unpack

/-- **The decompressor on a packed page**: the header passes exactly when `size` has a word
past the low-bits area, and then the tag loop runs over the compressor's own tags, queue
positions and low bits. -/
theorem wkdmDecompress_packNormal {dest out size : ℕ} {s : Modeling} {mL : Mem} (hs : s.Fits)
    (hlen : s.tags.length = PAGE_SIZE_IN_WORDS)
    (hmagic : ldlLeP (packNormal dest s mL).2 dest ≠ MZV_MAGIC) :
    wkdmDecompress dest out size (packNormal dest s mL).2 =
      if size / 4 ≤ s.lowEnd then some (false, (packNormal dest s mL).2)
      else (decodeTags dest out (s.qpos ++ List.replicate (s.qPacked * 8 - s.qpos.length) 0)
        (s.lowBits ++ List.replicate (s.lPacked * 3 - s.lowBits.length) 0) s.tags
          ⟨preloadDictionary, 0, 0, 0, 0, (packNormal dest s mL).2⟩).map fun st => (true, st.m) := by
  have hend := hs.lowEnd_lt hlen
  have hword : UInt32.size = 2 ^ 32 := rfl
  have h₁ : s.qposStart = 67 + s.misses.length := rfl
  have h₃ : s.lowStart = s.qposStart + s.qPacked := rfl
  have h₄ : s.lowEnd = s.lowStart + s.lPacked := rfl
  have hq : (ldlLeP (packNormal dest s mL).2 dest).toNat = s.qposStart := by
    rw [packNormal_qposStart, UInt32.toNat_ofNat_of_lt' (by omega)]
  have hl : (ldlLeP (packNormal dest s mL).2 (dest + 4)).toNat = s.lowStart := by
    rw [packNormal_lowStart, UInt32.toNat_ofNat_of_lt' (by omega)]
  have he : (ldlLeP (packNormal dest s mL).2 (dest + 8)).toNat = s.lowEnd := by
    rw [packNormal_lowEnd, UInt32.toNat_ofNat_of_lt' (by omega)]
  simp only [wkdmDecompress, hmagic, if_false, hq, hl, he]
  by_cases hsize : size / 4 ≤ s.lowEnd
  · -- the last check fails, whatever the others say
    rw [if_pos (Or.inr (Or.inr (Or.inr (Or.inr hsize)))), if_pos hsize]
  · have hpass : ¬ (size / 4 ≤ TAGS_AREA_OFFSET ∨ size / 4 ≤ TAGS_AREA_OFFSET + TAGS_AREA_SIZE ∨
        size / 4 ≤ s.qposStart ∨ size / 4 ≤ s.lowStart ∨ size / 4 ≤ s.lowEnd) := by
      simp only [TAGS_AREA_OFFSET, TAGS_AREA_SIZE, TARGET_PAGE_SIZE] at hsize ⊢
      omega
    rw [if_neg hpass, if_neg hsize, packNormal_tags dest s mL hlen, unpack_tags hs hlen,
      show s.lowStart - s.qposStart = s.qPacked by omega, packNormal_qpos, unpack_qpos hs,
      show s.lowEnd - s.lowStart = s.lPacked by omega, packNormal_lowBits, unpack_lowBits hs]

/-! ## The decoder in step with the compressor -/

/-- The decoder in step with the compressor after the same words: the same dictionary, the
cursors at the ends of the compressor's arrays, and the full-word area at `csrc` holding the
run's misses `F`. -/
structure InStep (csrc : ℕ) (F : List UInt32) (s : Modeling) (st : Decoding) : Prop where
  dict : st.dict = s.dict
  q : st.q = s.qpos.length
  l : st.l = s.lowBits.length
  f : st.f = s.misses.length
  i : st.i = s.tags.length
  full : ∀ j (hj : j < F.length), ldlLeP st.m (csrc + 4 * (fullWordsStart + j)) = F[j]

theorem getElem?_of_prefix {α : Type*} {l L : List α} {x : α} (h : l ++ [x] <+: L) :
    L[l.length]? = some x := by
  obtain ⟨t, rfl⟩ := h
  simp

/-- The queue position of a slot names the slot. -/
theorem dictIndex_slot (x : Fin 16) : dictIndex x.val.toUInt8 = some x := by
  have hx := slot_toUInt8_toNat x
  simp [dictIndex, hx]

section Step

variable {csrc out : ℕ} {Q : List UInt8} {L : List UInt32} {F : List UInt32}

/-- An output word stored away from the full-word area leaves it alone. -/
theorem InStep.write {s : Modeling} {st : Decoding} (h : InStep csrc F s st) (w : UInt32)
    (hout : out + 4 * st.i + 4 ≤ csrc + 4 * fullWordsStart ∨
      csrc + 4 * (fullWordsStart + F.length) ≤ out + 4 * st.i) (j : ℕ) (hj : j < F.length) :
    ldlLeP (stlLeP st.m (out + 4 * st.i) w) (csrc + 4 * (fullWordsStart + j)) = F[j] := by
  rw [ldlLeP_eq_of_unchanged (unchanged_stlLeP _ _ _) (by omega), h.full j hj]

/-- **The step lemma**: a modeling step on `w` appends a tag whose decoding, against the
compressor's arrays `Q`, `L` and misses `F`, stores `w` and keeps the two in step. -/
theorem decodeTag_modelWord {dest : ℕ} {s s₁ : Modeling} {m m₁ : Mem} {w : UInt32} {st : Decoding}
    (h : modelWord dest s m w = some (s₁, m₁)) (hst : InStep csrc F s st)
    (hQ : s₁.qpos <+: Q) (hL : s₁.lowBits <+: L) (hF : s₁.misses <+: F)
    (hout : out + 4 * st.i + 4 ≤ csrc + 4 * fullWordsStart ∨
      csrc + 4 * (fullWordsStart + F.length) ≤ out + 4 * st.i) :
    ∃ t st₁, s₁.tags = s.tags ++ [t] ∧ decodeTag csrc out Q L st t = some st₁ ∧
      InStep csrc F s₁ st₁ ∧ st₁.m = stlLeP st.m (out + 4 * st.i) w := by
  have hfull := hst.write w hout
  rcases modelWord_eq_some h with ⟨hw, -, rfl⟩ | ⟨rfl, -, rfl⟩ | ⟨hw, -, rfl⟩ | ⟨-, rfl⟩
  · -- exact: the queue position names the slot that holds the word
    have hq : Q[st.q]? = some (dictSlot w).val.toUInt8 := by
      rw [hst.q]
      exact getElem?_of_prefix hQ
    refine ⟨EXACT_TAG, { st with q := st.q + 1, i := st.i + 1, m := stlLeP st.m (out + 4 * st.i) w },
      rfl, ?_, ⟨hst.dict, ?_, hst.l, hst.f, ?_, hfull⟩, rfl⟩
    · simp [decodeTag, ZERO_TAG, EXACT_TAG, hq, dictIndex_slot, hst.dict, ← hw]
    all_goals simp [hst.q, hst.i]
  · -- zero
    refine ⟨ZERO_TAG, { st with i := st.i + 1, m := stlLeP st.m (out + 4 * st.i) 0 }, rfl,
      by simp [decodeTag], ⟨hst.dict, hst.q, hst.l, hst.f, ?_, hfull⟩, rfl⟩
    simp [hst.i]
  · -- partial: the high bits from the slot and the low bits from the array rebuild the word
    have hq : Q[st.q]? = some (dictSlot w).val.toUInt8 := by
      rw [hst.q]
      exact getElem?_of_prefix hQ
    have hl : L[st.l]? = some (w &&& LOW_BITS_MASK) := by
      rw [hst.l]
      exact getElem?_of_prefix hL
    refine ⟨PARTIAL_TAG, { st with
      dict := Function.update st.dict (dictSlot w) w, q := st.q + 1, l := st.l + 1, i := st.i + 1,
      m := stlLeP st.m (out + 4 * st.i) w }, rfl, ?_, ⟨?_, ?_, ?_, hst.f, ?_, hfull⟩, rfl⟩
    · simp [decodeTag, ZERO_TAG, EXACT_TAG, PARTIAL_TAG, hq, hl, dictIndex_slot, hst.dict,
        highBits_or_lowBits hw]
    all_goals simp [hst.q, hst.l, hst.i, hst.dict]
  · -- miss: the full word comes back from its slot in the full-word area
    have hmiss : ldlLeP st.m (csrc + 4 * (TAGS_AREA_OFFSET + TAGS_AREA_SIZE + st.f)) = w := by
      have hlen : s.misses.length < F.length := by
        have := hF.length_le
        simp [Modeling.miss] at this
        omega
      rw [hst.f, show TAGS_AREA_OFFSET + TAGS_AREA_SIZE = fullWordsStart from rfl, hst.full _ hlen]
      obtain ⟨t, ht⟩ := hF
      simp [Modeling.miss, ← ht]
    refine ⟨MISS_TAG, { st with
      dict := Function.update st.dict (dictSlot w) w, f := st.f + 1, i := st.i + 1,
      m := stlLeP st.m (out + 4 * st.i) w }, rfl, ?_, ⟨?_, hst.q, hst.l, ?_, ?_, hfull⟩, rfl⟩
    · simp [decodeTag, ZERO_TAG, EXACT_TAG, PARTIAL_TAG, MISS_TAG, hmiss]
    all_goals simp [Modeling.miss, hst.f, hst.i, hst.dict]

end Step

section Simulation

variable {src dest csrc out : ℕ} {m₀ : Mem} {Q : List UInt8} {L : List UInt32} {fin : Modeling}
  {mL : Mem}

/-- **The run lemma**: a modeling run from word `i` that ends in `fin`, and the tag loop over the
tags it adds, started in step, end in step; the tag loop has then stored every word the run
read, as the source page held it. By induction on the run, from `decodeTag_modelWord`; the
source page is safe from the run's misses and the output from the full-word area. -/
theorem decodeTags_modelLoop (hQ : fin.qpos <+: Q) (hL : fin.lowBits <+: L)
    (hsrc : src + 4 * PAGE_SIZE_IN_WORDS ≤ dest + 4 * fullWordsStart ∨
      dest + 4 * (fullWordsStart + fin.misses.length) ≤ src)
    (hout : out + 4 * PAGE_SIZE_IN_WORDS ≤ csrc + 4 * fullWordsStart ∨
      csrc + 4 * (fullWordsStart + fin.misses.length) ≤ out) :
    ∀ n i s m, modelLoop src dest n i s m = (some fin, mL) → i = s.tags.length →
      i + n ≤ PAGE_SIZE_IN_WORDS →
      Mem.Unchanged m₀ m (dest + 4 * fullWordsStart) (dest + 4 * (fullWordsStart + s.misses.length)) →
      ∀ st, InStep csrc fin.misses s st →
      ∃ new st', fin.tags = s.tags ++ new ∧ decodeTags csrc out Q L new st = some st' ∧
        InStep csrc fin.misses fin st' ∧
        ∀ k < n, ldlLeP st'.m (out + 4 * (i + k)) = ldlLeP m₀ (src + 4 * (i + k))
  | 0, i, s, m, h, _, _, _, st, hst => by
    cases h
    exact ⟨[], st, by simp, rfl, hst, fun k hk => absurd hk (Nat.not_lt_zero k)⟩
  | n + 1, i, s, m, h, hi, hn, hm, st, hst => by
    rw [modelLoop_succ] at h
    cases hw : modelWord dest s m (ldlLeP m (src + 4 * i)) with
    | none => simp [hw] at h
    | some p =>
      obtain ⟨s₁, m₁⟩ := p
      rw [hw] at h
      obtain ⟨-, hq, hl, hf⟩ := modelLoop_grows h
      have hlen := hf.length_le
      have hlen₁ := (modelWord_grows hw).2.2.2.length_le
      -- the word read is the source word: misses so far went to the full-word area only
      have hread : ldlLeP m (src + 4 * i) = ldlLeP m₀ (src + 4 * i) :=
        ldlLeP_eq_of_unchanged hm (by unfold PAGE_SIZE_IN_WORDS TARGET_PAGE_SIZE at hsrc hn; omega)
      have hout₁ : out + 4 * st.i + 4 ≤ csrc + 4 * fullWordsStart ∨
          csrc + 4 * (fullWordsStart + fin.misses.length) ≤ out + 4 * st.i := by
        rw [hst.i, ← hi]
        unfold PAGE_SIZE_IN_WORDS TARGET_PAGE_SIZE at hout hn
        omega
      obtain ⟨t, st₁, ht, hdec, hst₁, hm₁⟩ :=
        decodeTag_modelWord hw hst (hq.trans hQ) (hl.trans hL) hf hout₁
      have hi₁ : st₁.i = i + 1 := by rw [hst₁.i, ht, List.length_append, ← hi, List.length_singleton]
      obtain ⟨new, st', hnew, hdecs, hst', hout'⟩ := decodeTags_modelLoop hQ hL hsrc hout n (i + 1) s₁ m₁
        h (by rw [← hi₁, hst₁.i]) (by omega)
        ((hm.mono le_rfl (by omega)).trans ((modelWord_unchanged hw).mono (by omega) le_rfl)) st₁ hst₁
      refine ⟨t :: new, st', by rw [hnew, ht, List.append_assoc, List.singleton_append], ?_, hst', ?_⟩
      · simp only [decodeTags, hdec, Option.bind_eq_bind, Option.bind_some, hdecs]
      · intro k hk
        cases k with
        | zero =>
          -- the later tags write only past output word `i`
          have hframe := (decodeTags_unchanged new hdecs).1
          rw [hi₁] at hframe
          rw [Nat.add_zero, ldlLeP_eq_of_unchanged hframe (Or.inl (by omega)), hm₁, hst.i, ← hi,
            ldlLeP_stlLeP, hread]
        | succ k =>
          rw [show i + (k + 1) = i + 1 + k by omega]
          exact hout' k (by omega)

end Simulation

/-! ## The round trip -/

theorem wkdm_packed_round_trip {src dest out size : ℕ} {byteBudget : ℤ} {m m₁ : Mem} {r : UInt32}
    (hc : wkdmCompress src dest byteBudget m = (r, m₁))
    (hr : r ≠ 0) (hfail : r ≠ 0xFFFFFFFF) (hpacked : ldlLeP m₁ dest ≠ MZV_MAGIC)
    (hsrc : src + TARGET_PAGE_SIZE ≤ dest ∨ dest + r.toNat ≤ src)
    (hout : out + TARGET_PAGE_SIZE ≤ dest ∨ dest + r.toNat ≤ out) :
    (r.toNat + 4 ≤ size → ∃ m₂, wkdmDecompress dest out size m₁ = some (true, m₂) ∧
        loadWords m₂ out PAGE_SIZE_IN_WORDS = loadWords m src PAGE_SIZE_IN_WORDS ∧
        Mem.Unchanged m₁ m₂ out (out + TARGET_PAGE_SIZE)) ∧
      (size < r.toNat + 4 → wkdmDecompress dest out size m₁ = some (false, m₁)) := by
  obtain ⟨s, mL, hloop, hpack⟩ := wkdmCompress_packed hc hr hfail hpacked
  obtain ⟨hfits, hlen⟩ := modelLoop_fits hloop (initialModeling_fits _)
  simp only [initialModeling, List.length_nil, Nat.zero_add] at hlen
  have hm₁ : m₁ = (packNormal dest s mL).2 := by rw [hpack]
  have hr4 : r.toNat = 4 * s.lowEnd := by
    have hfst : r = (packNormal dest s mL).1 := by rw [hpack]
    rw [hfst, packNormal_fst, UInt32.toNat_ofNat_of_lt' (hfits.lowEnd_lt hlen)]
  subst hm₁
  rw [hr4] at hsrc hout ⊢
  have hdec : wkdmDecompress dest out size (packNormal dest s mL).2 = _ :=
    wkdmDecompress_packNormal hfits hlen hpacked
  refine ⟨fun hsize => ?_, fun hsize => by rw [hdec, if_pos (by omega)]⟩
  -- the header passes: run the decoder in step with the compressor's loop
  have hend : fullWordsStart + s.misses.length ≤ s.lowEnd := by
    simp only [Modeling.lowEnd, Modeling.lowStart, Modeling.qposStart]
    omega
  have hsrc' : src + 4 * PAGE_SIZE_IN_WORDS ≤ dest + 4 * fullWordsStart ∨
      dest + 4 * (fullWordsStart + s.misses.length) ≤ src := by
    unfold PAGE_SIZE_IN_WORDS
    omega
  have hout' : out + 4 * PAGE_SIZE_IN_WORDS ≤ dest + 4 * fullWordsStart ∨
      dest + 4 * (fullWordsStart + s.misses.length) ≤ out := by
    unfold PAGE_SIZE_IN_WORDS
    omega
  have hfull := packNormal_fullArea dest s mL hlen
    (modelLoop_fullArea hloop fun j hj => by simp [initialModeling] at hj)
  obtain ⟨tags, st, htags, hdecs, -, hwords⟩ :=
    decodeTags_modelLoop (List.prefix_append _ _) (List.prefix_append _ _) hsrc' hout'
      PAGE_SIZE_IN_WORDS 0 _ m hloop rfl le_rfl (Mem.Unchanged.refl _ _ _)
      ⟨preloadDictionary, 0, 0, 0, 0, (packNormal dest s mL).2⟩ ⟨rfl, rfl, rfl, rfl, rfl, hfull⟩
  simp only [initialModeling, List.nil_append] at htags
  have hdecomp : wkdmDecompress dest out size (packNormal dest s mL).2 = some (true, st.m) := by
    rw [hdec, if_neg (by omega), htags, hdecs]
    rfl
  refine ⟨st.m, hdecomp, ?_, wkdmDecompress_packed_unchanged hpacked hdecomp⟩
  exact congrArg List.ofFn (funext fun k => by simpa using hwords k k.isLt)

theorem wkdm_packed_round_trip_onesPage :
    ∃ m₂, wkdmDecompress 0x1EC0 0x3000 4096 (wkdmCompress 0 0x1EC0 320 onesPage).2 = some (true, m₂) ∧
      loadWords m₂ 0x3000 PAGE_SIZE_IN_WORDS = loadWords onesPage 0 PAGE_SIZE_IN_WORDS ∧
      Mem.Unchanged (wkdmCompress 0 0x1EC0 320 onesPage).2 m₂ 0x3000 (0x3000 + TARGET_PAGE_SIZE) := by
  obtain ⟨hstart, -, hend, -⟩ := onesModel_layout
  have hr : (wkdmCompress 0 0x1EC0 320 onesPage).1 = 788 := by
    rw [wkdmCompress_onesPage, packNormal_fst, hend]
    rfl
  have hmagic : ldlLeP (wkdmCompress 0 0x1EC0 320 onesPage).2 0x1EC0 ≠ MZV_MAGIC := by
    rw [wkdmCompress_onesPage, packNormal_qposStart, hstart]
    decide
  have hc : wkdmCompress 0 0x1EC0 320 onesPage =
      ((wkdmCompress 0 0x1EC0 320 onesPage).1, (wkdmCompress 0 0x1EC0 320 onesPage).2) :=
    Prod.mk.eta.symm
  exact (wkdm_packed_round_trip hc (by rw [hr]; decide) (by rw [hr]; decide) hmagic
    (Or.inl (by decide)) (Or.inr (by rw [hr]; decide))).1 (by rw [hr]; decide)

end QemuAppleSilicon.Tcg.Wkdm
