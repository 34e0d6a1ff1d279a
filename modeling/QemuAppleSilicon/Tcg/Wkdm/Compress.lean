import QemuAppleSilicon.Tcg.Wkdm.Format

/-!
# `WKdm_compress` (`target/arm/tcg/WKdmCompress.c`)

The compressor models every word of the source page against the dictionary, then writes one of
two formats into the destination buffer.

* `modelWord` — one iteration of the modeling loop: an exact match, a zero, a partial match
  (same high 22 bits) or a miss. A miss is charged four bytes of the budget and its word is
  written at once into the full-words area of the destination (`RECORD_MISS`); when the budget
  goes negative the compressor returns `-1` with the misses so far already written.
  `modelLoop` runs it over the page, reading each source word from the memory as it is then.
* The end: an all-zero page and two kinds of same-value page return `0`; otherwise the smaller
  of two size estimates picks the mostly-zero format (`mzvWrite`: the magic word, then per
  non-zero word a 6-byte entry) or the packed format (`packNormal`: the header, the tags, the
  queue positions and the low bits). Neither writer checks the budget.
* Run lemmas for the modeling loop (`modelLoop_zeros`, `modelLoop_exacts`, `modelLoop_misses`)
  and for the mostly-zero writer: over a run of zero words, of words found in the dictionary,
  or of words whose high bits the dictionary has never seen, the loop's effect is stated once.
  The later proofs about particular pages are assembled from them.
-/

namespace QemuAppleSilicon.Tcg.Wkdm

open QemuAppleSilicon.Lib QemuAppleSilicon.Qemu

/-! ## The modeling loop -/

/-- The word offset of the full-words area: `TAGS_AREA_OFFSET + num_input_words / 16`.
Source: `target/arm/tcg/WKdmCompress.c` `WKdm_compress` (`next_full_patt = …`)
Kind: D -/
def fullWordsStart : ℕ := TAGS_AREA_OFFSET + PAGE_SIZE_IN_WORDS / 16

/-- `header_size`: the header and the tags area, in bytes.
Source: `target/arm/tcg/WKdmCompress.c` `WKdm_compress`
Kind: D -/
def headerSize : ℕ := (TAGS_AREA_OFFSET + TAGS_AREA_SIZE) * 4

/-- The state of the modeling loop: the dictionary, the three intermediate arrays as far as
they are filled, the full words written so far and `byte_budget`.
Source: `target/arm/tcg/WKdmCompress.c` `WKdm_compress` (locals)
Kind: D -/
structure Modeling where
  /-- `dictionary`. -/
  dict : Dictionary
  /-- `tempTagsArray` up to `next_tag`, one tag per byte. -/
  tags : List UInt8
  /-- `tempQPosArray` up to `next_qp`, one queue position per byte. -/
  qpos : List UInt8
  /-- `tempLowBitsArray` up to `next_low_bits`. -/
  lowBits : List UInt32
  /-- The full words from `start_next_full_patt` up to `next_full_patt`. -/
  misses : List UInt32
  /-- `byte_budget`. -/
  budget : ℤ

/-- One iteration of the modeling loop on the input word `w`: `none` is the `return -1` of a
miss past the budget.
Source: `target/arm/tcg/WKdmCompress.c` `WKdm_compress` (lines 141–175)
Kind: D -/
def modelWord (dest : ℕ) (s : Modeling) (m : Mem) (w : UInt32) : Option (Modeling × Mem) :=
  let slot := dictSlot w
  let dictWord := s.dict slot
  if w = dictWord then
    some ({ s with tags := s.tags ++ [EXACT_TAG], qpos := s.qpos ++ [slot.val.toUInt8] }, m)
  else if w = 0 then
    some ({ s with tags := s.tags ++ [ZERO_TAG] }, m)
  else if w >>> 10 = dictWord >>> 10 then
    some ({ s with
      tags := s.tags ++ [PARTIAL_TAG]
      qpos := s.qpos ++ [slot.val.toUInt8]
      lowBits := s.lowBits ++ [w &&& LOW_BITS_MASK]
      dict := Function.update s.dict slot w }, m)
  else if s.budget - 4 < 0 then none
  else
    -- `RECORD_MISS`: the word goes straight to `next_full_patt` in the destination
    some ({ s with
      budget := s.budget - 4
      tags := s.tags ++ [MISS_TAG]
      misses := s.misses ++ [w]
      dict := Function.update s.dict slot w },
      stlLeP m (dest + 4 * (fullWordsStart + s.misses.length)) w)

/-- The modeling loop from input word `i`, for `n` more words; each word is read from the
memory as the loop has left it. The second component is the memory on return.
Source: `target/arm/tcg/WKdmCompress.c` `WKdm_compress` (the `while` loop)
Kind: D -/
def modelLoop (src dest : ℕ) : ℕ → ℕ → Modeling → Mem → Option Modeling × Mem
  | 0, _, s, m => (some s, m)
  | n + 1, i, s, m =>
    match modelWord dest s m (ldlLeP m (src + 4 * i)) with
    | none => (none, m)
    | some (s, m) => modelLoop src dest n (i + 1) s m

/-! ## The two output formats -/

/-- One entry of the mostly-zero format for input word `i` at the cursor `o` (`output`, in
bytes): `output += 2` and the word stored there, then its byte offset stored over the low half
of it (`*(output++) = …`).
Source: `target/arm/tcg/WKdmCompress.c` `WKdm_compress` (lines 206–207)
Kind: D -/
def mzvEntry (i o : ℕ) (m : Mem) (w : UInt32) : Mem :=
  stwLeP (stlLeP m (o + 4) w) (o + 4) (UInt16.ofNat (4 * i))

/-- The entries of the mostly-zero format from input word `i` on; a non-zero word advances the
cursor by six bytes.
Source: `target/arm/tcg/WKdmCompress.c` `WKdm_compress` (lines 202–211)
Kind: D -/
def mzvEntries (src : ℕ) : ℕ → ℕ → ℕ → Mem → Mem
  | 0, _, _, m => m
  | n + 1, i, o, m =>
    let w := ldlLeP m (src + 4 * i)
    if w ≠ 0 then mzvEntries src n (i + 1) (o + 6) (mzvEntry i o m w)
    else mzvEntries src n (i + 1) o m

/-- The mostly-zero format: `MZV_MAGIC`, then the entries from `dest + 4`.
Source: `target/arm/tcg/WKdmCompress.c` `WKdm_compress` (lines 200–213)
Kind: D -/
def mzvWrite (src dest : ℕ) (m : Mem) : Mem :=
  mzvEntries src PAGE_SIZE_IN_WORDS 0 (dest + 4) (stlLeP m dest MZV_MAGIC)

/-- The word offset of the queue-position area: `next_full_patt - dest_buf`, just past the
full words.
Source: `target/arm/tcg/WKdmCompress.c` `WKdm_compress` (`dest_buf[0] = …`)
Kind: D -/
def Modeling.qposStart (s : Modeling) : ℕ := fullWordsStart + s.misses.length

/-- The number of packed queue-position words: the queue positions padded to a multiple of
eight, two per word after `WK_pack_4bits`.
Source: `target/arm/tcg/WKdmCompress.c` `WKdm_compress` (`num_bytes_to_pack = …`)
Kind: D -/
def Modeling.qPacked (s : Modeling) : ℕ := (s.qpos.length + 7) >>> 3

/-- The packed queue positions.
Source: `target/arm/tcg/WKdmCompress.c` `WKdm_compress` (the zero padding and `WK_pack_4bits`)
Kind: D -/
def Modeling.packedQpos (s : Modeling) : List UInt32 :=
  wkPack4bits (bytesToWords (s.qpos ++ List.replicate (s.qPacked * 8 - s.qpos.length) 0))

/-- The word offset of the low-bits area.
Source: `target/arm/tcg/WKdmCompress.c` `WKdm_compress` (`dest_buf[1] = …`)
Kind: D -/
def Modeling.lowStart (s : Modeling) : ℕ := s.qposStart + s.qPacked

/-- The number of packed low-bits words: the patterns padded to a multiple of three.
Source: `target/arm/tcg/WKdmCompress.c` `WKdm_compress` (`num_tenbits_to_pack = …`)
Kind: D -/
def Modeling.lPacked (s : Modeling) : ℕ := (s.lowBits.length + 2) / 3

/-- The packed low bits.
Source: `target/arm/tcg/WKdmCompress.c` `WKdm_compress` (the zero padding and `WK_pack_3_tenbits`)
Kind: D -/
def Modeling.packedLowBits (s : Modeling) : List UInt32 :=
  wkPack3Tenbits (s.lowBits ++ List.replicate (s.lPacked * 3 - s.lowBits.length) 0)

/-- The word offset of the end of the low-bits area.
Source: `target/arm/tcg/WKdmCompress.c` `WKdm_compress` (`dest_buf[2] = …`)
Kind: D -/
def Modeling.lowEnd (s : Modeling) : ℕ := s.lowStart + s.lPacked

/-- The packed format, in the order the source writes it: the queue-position area start, the
tags, the queue positions, the low-bits area start, the low bits, the low-bits area end; the
size in bytes.
Source: `target/arm/tcg/WKdmCompress.c` `WKdm_compress` (lines 216–289)
Kind: D -/
def packNormal (dest : ℕ) (s : Modeling) (m : Mem) : UInt32 × Mem :=
  let m := stlLeP m dest (UInt32.ofNat s.qposStart)
  let m := storeWords m (dest + 4 * HEADER_SIZE_IN_WORDS) (wkPack2bits (bytesToWords s.tags))
  let m := storeWords m (dest + 4 * s.qposStart) s.packedQpos
  let m := stlLeP m (dest + 4) (UInt32.ofNat s.lowStart)
  let m := storeWords m (dest + 4 * s.lowStart) s.packedLowBits
  let m := stlLeP m (dest + 8) (UInt32.ofNat s.lowEnd)
  (UInt32.ofNat (4 * s.lowEnd), m)

/-- `SV_RETURN`.
Source: `target/arm/tcg/WKdm_internal.h` `SV_RETURN`
Kind: D -/
def SV_RETURN : UInt32 := 0

/-- The modeling state at the start: the preloaded dictionary, empty arrays, the budget.
Source: `target/arm/tcg/WKdmCompress.c` `WKdm_compress`
Kind: D -/
def initialModeling (budget : ℤ) : Modeling := ⟨preloadDictionary, [], [], [], [], budget⟩

/-- What `WKdm_compress` does once the modeling loop has run over the whole page.
Source: `target/arm/tcg/WKdmCompress.c` `WKdm_compress` (lines 177–289)
Kind: D -/
def compressTail (src dest : ℕ) (s : Modeling) (m : Mem) : UInt32 × Mem :=
  let miss := s.misses.length
  let hits := s.qpos.length
  let partials := s.lowBits.length
  let firstTag := s.tags.getD 0 0
  if s.budget < 0 then (0xFFFFFFFF, m)
  else if miss = 0 ∧ hits = 0 then (SV_RETURN, m)
  else if partials = 0 ∧ hits = PAGE_SIZE_IN_WORDS - 1 ∧ miss = 1 ∧ firstTag = 2 then (SV_RETURN, m)
  else if partials = 1 ∧ hits = PAGE_SIZE_IN_WORDS ∧ firstTag = 1 then (SV_RETURN, m)
  else
    let sparseCsize := (miss + hits) * 6 + 4
    let normalCsize := 2 * partials / 3 + miss * 4 + hits / 2 + headerSize
    if sparseCsize < normalCsize then (UInt32.ofNat sparseCsize, mzvWrite src dest m)
    else packNormal dest s m

/-- `WKdm_compress(src_buf, dest_buf, byte_budget)`: the returned `unsigned int` (`-1` is
`0xFFFFFFFF`) and the memory after it.
Source: `target/arm/tcg/WKdmCompress.c` `WKdm_compress`
Kind: D -/
def wkdmCompress (src dest : ℕ) (byteBudget : ℤ) (m : Mem) : UInt32 × Mem :=
  let budget := byteBudget - headerSize
  if budget ≤ 0 then (0xFFFFFFFF, m)
  else
    match modelLoop src dest PAGE_SIZE_IN_WORDS 0 (initialModeling budget) m with
    | (none, m) => (0xFFFFFFFF, m)
    | (some s, m) => compressTail src dest s m

/-! ## One modeling step -/

section Step

variable {dest : ℕ} {s : Modeling} {m : Mem}

/-- A word the dictionary holds is an exact match. -/
theorem modelWord_exact {w : UInt32} (h : s.dict (dictSlot w) = w) :
    modelWord dest s m w = some ({ s with
      tags := s.tags ++ [EXACT_TAG]
      qpos := s.qpos ++ [(dictSlot w).val.toUInt8] }, m) := by
  simp [modelWord, h]

/-- A zero word is recorded as a zero, since no dictionary entry is ever zero. -/
theorem modelWord_zero (hd : ∀ x, s.dict x ≠ 0) :
    modelWord dest s m 0 = some ({ s with tags := s.tags ++ [ZERO_TAG] }, m) := by
  have hne : (0 : UInt32) ≠ s.dict (dictSlot 0) := (hd _).symm
  simp [modelWord, hne]

/-- The state after a miss on `w`.
Source: `target/arm/tcg/WKdmCompress.c` `WKdm_compress` (the miss branch)
Kind: D -/
def Modeling.miss (s : Modeling) (w : UInt32) : Modeling :=
  { s with
    budget := s.budget - 4
    tags := s.tags ++ [MISS_TAG]
    misses := s.misses ++ [w]
    dict := Function.update s.dict (dictSlot w) w }

/-- A non-zero word whose high bits differ from its dictionary entry's is a miss; within the
budget its word is stored at the next full-word slot. -/
theorem modelWord_miss {w : UInt32} (hz : w ≠ 0) (hhigh : w >>> 10 ≠ s.dict (dictSlot w) >>> 10)
    (hb : 4 ≤ s.budget) :
    modelWord dest s m w =
      some (s.miss w, stlLeP m (dest + 4 * (fullWordsStart + s.misses.length)) w) := by
  have hne : w ≠ s.dict (dictSlot w) := fun h => hhigh (by rw [← h])
  have hbudget : ¬ s.budget - 4 < 0 := by omega
  simp [modelWord, hne, hz, hhigh, hbudget, Modeling.miss]

end Step

theorem modelLoop_succ (src dest n i : ℕ) (s : Modeling) (m : Mem) :
    modelLoop src dest (n + 1) i s m =
      match modelWord dest s m (ldlLeP m (src + 4 * i)) with
      | none => (none, m)
      | some (s, m) => modelLoop src dest n (i + 1) s m := rfl

/-! ## Runs of the modeling loop -/

/-- **A run of zero words** adds one zero tag each and changes nothing else. -/
theorem modelLoop_zeros (src dest k : ℕ) :
    ∀ (n i : ℕ) (s : Modeling) (m : Mem), (∀ x, s.dict x ≠ 0) →
      (∀ j < n, ldlLeP m (src + 4 * (i + j)) = 0) →
      modelLoop src dest (n + k) i s m =
        modelLoop src dest k (i + n) { s with tags := s.tags ++ List.replicate n ZERO_TAG } m
  | 0, i, s, m, _, _ => by simp
  | n + 1, i, s, m, hd, hread => by
    have h0 : ldlLeP m (src + 4 * i) = 0 := by simpa using hread 0 (by omega)
    rw [show n + 1 + k = n + k + 1 by omega, modelLoop_succ, h0, modelWord_zero hd]
    dsimp only
    -- the zero step leaves the dictionary alone, so the rest of the run is a zero run too
    rw [modelLoop_zeros src dest k n (i + 1) { s with tags := s.tags ++ [ZERO_TAG] } m hd
      (fun j hj => by simpa [Nat.add_assoc, Nat.add_comm 1 j] using hread (j + 1) (by omega))]
    simp [Nat.add_assoc, Nat.add_comm 1 n, List.replicate_succ]

/-- **A run of one word the dictionary holds** adds one exact tag and one queue position each. -/
theorem modelLoop_exacts (src dest k : ℕ) (w : UInt32) :
    ∀ (n i : ℕ) (s : Modeling) (m : Mem), s.dict (dictSlot w) = w →
      (∀ j < n, ldlLeP m (src + 4 * (i + j)) = w) →
      modelLoop src dest (n + k) i s m =
        modelLoop src dest k (i + n) { s with
          tags := s.tags ++ List.replicate n EXACT_TAG
          qpos := s.qpos ++ List.replicate n (dictSlot w).val.toUInt8 } m
  | 0, i, s, m, _, _ => by simp
  | n + 1, i, s, m, hd, hread => by
    have hw : ldlLeP m (src + 4 * i) = w := by simpa using hread 0 (by omega)
    rw [show n + 1 + k = n + k + 1 by omega, modelLoop_succ, hw, modelWord_exact hd]
    dsimp only
    rw [modelLoop_exacts src dest k w n (i + 1)
      { s with tags := s.tags ++ [EXACT_TAG], qpos := s.qpos ++ [(dictSlot w).val.toUInt8] } m hd
      (fun j hj => by simpa [Nat.add_assoc, Nat.add_comm 1 j] using hread (j + 1) (by omega))]
    simp [Nat.add_assoc, Nat.add_comm 1 n, List.replicate_succ]

/-- The dictionary after storing a list of words, one `*dict_location = input_word` each. -/
def storeAll (d : Dictionary) (ws : List UInt32) : Dictionary :=
  ws.foldl (fun d w => Function.update d (dictSlot w) w) d

/-- After storing words, every entry is an old entry or one of the words. -/
theorem storeAll_mem (ws : List UInt32) :
    ∀ (d : Dictionary) (x : Fin 16), storeAll d ws x = d x ∨ storeAll d ws x ∈ ws := by
  induction ws with
  | nil => simp [storeAll]
  | cons w ws ih =>
    intro d x
    rcases ih (Function.update d (dictSlot w) w) x with h | h
    · rw [storeAll, List.foldl_cons, ← storeAll, h]
      by_cases hx : x = dictSlot w
      · subst hx
        simp
      · simp [Function.update_of_ne hx]
    · right
      rw [storeAll, List.foldl_cons, ← storeAll]
      exact List.mem_cons_of_mem w h

/-- **A run of misses.** Words that are non-zero, whose high bits differ from each other and
from every entry of the dictionary, are all misses: within the budget, they are stored one after
another from the next full-word slot, provided that slot range does not overlap the source words
still to be read. -/
theorem modelLoop_misses (src dest k : ℕ) :
    ∀ (ws : List UInt32) (i : ℕ) (s : Modeling) (m : Mem),
      (∀ w ∈ ws, w ≠ 0) → (ws.map fun w : UInt32 => w >>> 10).Nodup →
      (∀ w ∈ ws, ∀ x, s.dict x >>> 10 ≠ w >>> 10) → 4 * ws.length ≤ s.budget →
      (src + 4 * (i + ws.length) ≤ dest + 4 * (fullWordsStart + s.misses.length) ∨
        dest + 4 * (fullWordsStart + s.misses.length + ws.length) ≤ src + 4 * i) →
      (∀ j (h : j < ws.length), ldlLeP m (src + 4 * (i + j)) = ws[j]) →
      modelLoop src dest (ws.length + k) i s m =
        modelLoop src dest k (i + ws.length) { s with
          budget := s.budget - 4 * ws.length
          tags := s.tags ++ List.replicate ws.length MISS_TAG
          misses := s.misses ++ ws
          dict := storeAll s.dict ws }
          (storeWords m (dest + 4 * (fullWordsStart + s.misses.length)) ws)
  | [], i, s, m, _, _, _, _, _, _ => by simp [storeAll]
  | w :: ws, i, s, m, hz, hnd, hfresh, hb, hdisj, hread => by
    simp only [List.length_cons] at hb hdisj ⊢
    have hw : ldlLeP m (src + 4 * i) = w := by
      have h0 := hread 0 (by simp)
      rw [Nat.add_zero] at h0
      exact h0
    have hhigh : w >>> 10 ≠ s.dict (dictSlot w) >>> 10 := fun h => hfresh w (by simp) _ h.symm
    rw [show ws.length + 1 + k = ws.length + k + 1 by omega, modelLoop_succ, hw,
      modelWord_miss (hz w (by simp)) hhigh (by omega)]
    dsimp only
    -- the rest of the run, from the state after `w` and the memory holding it
    have hnd' : w >>> 10 ∉ ws.map (fun w : UInt32 => w >>> 10) ∧
        (ws.map fun w : UInt32 => w >>> 10).Nodup := by
      rw [List.map_cons, List.nodup_cons] at hnd
      exact hnd
    have hrest := modelLoop_misses src dest k ws (i + 1) (s.miss w)
      (stlLeP m (dest + 4 * (fullWordsStart + s.misses.length)) w)
      (fun v hv => hz v (by simp [hv]))
      hnd'.2
      (fun v hv x h => by
        -- the new entry is `w`, whose high bits no later word shares
        simp only [Modeling.miss] at h
        by_cases hx : x = dictSlot w
        · rw [hx, Function.update_self] at h
          exact hnd'.1 (List.mem_map.mpr ⟨v, hv, h.symm⟩)
        · rw [Function.update_of_ne hx] at h
          exact hfresh v (by simp [hv]) x h)
      (by simp only [Modeling.miss]; omega)
      (by simp only [Modeling.miss, List.length_append, List.length_singleton]; omega)
      (fun j hj => by
        rw [stlLeP, ldlLeP_write_of_disjoint _ _ (by simp only [leBytes_length]; omega)]
        have h := hread (j + 1) (by simp; omega)
        rw [show i + (j + 1) = i + 1 + j by omega] at h
        exact h)
    rw [hrest, storeWords_cons]
    simp only [Modeling.miss, List.length_append, List.length_singleton, storeAll,
      List.foldl_cons, List.append_assoc, List.singleton_append, List.replicate_succ]
    have hi : i + 1 + ws.length = i + (ws.length + 1) := by omega
    have hb' : s.budget - 4 - 4 * (ws.length : ℤ) = s.budget - 4 * ((ws.length + 1 : ℕ) : ℤ) := by
      omega
    have ha : dest + 4 * (fullWordsStart + (s.misses.length + 1)) =
        dest + 4 * (fullWordsStart + s.misses.length) + 4 := by omega
    rw [hi, hb', ha]

/-! ## The packed writer -/

/-- The packed format reports the end of the low-bits area, in bytes. -/
theorem packNormal_fst (dest : ℕ) (s : Modeling) (m : Mem) :
    (packNormal dest s m).1 = UInt32.ofNat (4 * s.lowEnd) := rfl

/-- The queue-position area holds the packed queue positions: the later writes, the low-bits
area and the header words at `dest + 4` and `dest + 8`, all miss it. -/
theorem packNormal_apply_qpos (dest : ℕ) (s : Modeling) (m : Mem) (i : ℕ)
    (hi : i < (wordsToBytes s.packedQpos).length) (hend : i < 4 * s.qPacked) :
    (packNormal dest s m).2 (dest + 4 * s.qposStart + i) = (wordsToBytes s.packedQpos)[i] := by
  have hstart : 3 ≤ s.qposStart := by
    simp only [Modeling.qposStart, fullWordsStart, TAGS_AREA_OFFSET]
    omega
  have hlow : dest + 4 * s.qposStart + i < dest + 4 * s.lowStart := by
    simp only [Modeling.lowStart]
    omega
  simp only [packNormal]
  rw [stlLeP, Mem.write_apply_of_le _ _ (by simp only [leBytes_length]; omega), storeWords,
    Mem.write_apply_of_lt _ _ hlow, stlLeP, Mem.write_apply_of_le _ _ (by simp only [leBytes_length]; omega),
    storeWords, Mem.write_apply_of_mem _ _ _ hi]

/-! ## Runs of the mostly-zero writer -/

/-- The entries a run of non-zero words leaves, from input word `i` at the cursor `o`. -/
def mzvStore : ℕ → ℕ → Mem → List UInt32 → Mem
  | _, _, m, [] => m
  | i, o, m, w :: ws => mzvStore (i + 1) (o + 6) (mzvEntry i o m w) ws

/-- An entry changes only the four bytes after the cursor's first four. -/
theorem unchanged_mzvEntry (i o : ℕ) (m : Mem) (w : UInt32) :
    Mem.Unchanged m (mzvEntry i o m w) (o + 4) (o + 8) :=
  (unchanged_stlLeP m (o + 4) w).trans ((unchanged_stwLeP _ (o + 4) _).mono le_rfl (by omega))

/-- The entries of a run of `n` words lie in the `6 n` bytes after the cursor's first four. -/
theorem unchanged_mzvStore (ws : List UInt32) :
    ∀ (i o : ℕ) (m : Mem), Mem.Unchanged m (mzvStore i o m ws) (o + 4) (o + 4 + 6 * ws.length) := by
  induction ws with
  | nil => intro i o m _ _; rfl
  | cons w ws ih =>
    intro i o m
    have hfirst := (unchanged_mzvEntry i o m w).mono le_rfl
      (show o + 8 ≤ o + 4 + 6 * (ws.length + 1) by omega)
    have hrest := (ih (i + 1) (o + 6) (mzvEntry i o m w)).mono (show o + 4 ≤ o + 6 + 4 by omega)
      (show o + 6 + 4 + 6 * ws.length ≤ o + 4 + 6 * (ws.length + 1) by omega)
    exact hfirst.trans hrest

/-- A run of entries is the entries of its first part, then those of the rest. -/
theorem mzvStore_append (xs ys : List UInt32) :
    ∀ (i o : ℕ) (m : Mem),
      mzvStore i o m (xs ++ ys) = mzvStore (i + xs.length) (o + 6 * xs.length) (mzvStore i o m xs) ys := by
  induction xs with
  | nil => intro i o m; rfl
  | cons x xs ih =>
    intro i o m
    rw [List.cons_append, mzvStore, mzvStore, ih, List.length_cons,
      show i + 1 + xs.length = i + (xs.length + 1) by omega,
      show o + 6 + 6 * xs.length = o + 6 * (xs.length + 1) by omega]

/-- An entry's byte offset loads back from the cursor's second word. -/
theorem lduwLeP_mzvEntry (i o : ℕ) (m : Mem) (w : UInt32) :
    lduwLeP (mzvEntry i o m w) (o + 4) = UInt16.ofNat (4 * i) := by
  rw [mzvEntry, stwLeP, lduwLeP]
  have hread := Mem.read_write_self (stlLeP m (o + 4) w) (o + 4) (leBytes (UInt16.ofNat (4 * i)).toNat 2)
  rw [leBytes_length] at hread
  rw [hread, leValue_leBytes_of_lt (by simpa using (UInt16.ofNat (4 * i)).toNat_lt)]
  exact UInt16.ofNat_toNat

/-- The high half of an entry's word survives the byte offset stored over its low half. -/
theorem mzvEntry_apply_high (i o : ℕ) (m : Mem) (w : UInt32) {b : ℕ} (hb : b < 2) :
    mzvEntry i o m w (o + 6 + b) = (leBytes w.toNat 4).getD (2 + b) 0 := by
  have hlen : 2 + b < (leBytes w.toNat 4).length := by
    rw [leBytes_length]
    omega
  rw [mzvEntry, stwLeP, Mem.write_apply_of_le _ _ (by simp), stlLeP,
    show o + 6 + b = o + 4 + (2 + b) by omega, Mem.write_apply_of_mem _ _ _ hlen,
    List.getD_eq_getElem _ _ hlen]

/-- **A run of zero words** writes no entry. -/
theorem mzvEntries_zeros (src k : ℕ) :
    ∀ (n i o : ℕ) (m : Mem), (∀ j < n, ldlLeP m (src + 4 * (i + j)) = 0) →
      mzvEntries src (n + k) i o m = mzvEntries src k (i + n) o m
  | 0, i, o, m, _ => by simp
  | n + 1, i, o, m, hread => by
    have h0 : ldlLeP m (src + 4 * i) = 0 := by simpa using hread 0 (by omega)
    rw [show n + 1 + k = n + k + 1 by omega, mzvEntries]
    simp only [h0, ne_eq, not_true_eq_false, if_false]
    rw [mzvEntries_zeros src k n (i + 1) o m
      (fun j hj => by simpa [Nat.add_assoc, Nat.add_comm 1 j] using hread (j + 1) (by omega))]
    rw [Nat.add_assoc, Nat.add_comm 1 n]

/-- **A run of non-zero words** writes one entry each, provided the entries do not overlap the
words still to be read. -/
theorem mzvEntries_words (src k : ℕ) :
    ∀ (ws : List UInt32) (i o : ℕ) (m : Mem), (∀ w ∈ ws, w ≠ 0) →
      (src + 4 * (i + ws.length) ≤ o + 4 ∨ o + 4 + 6 * ws.length ≤ src + 4 * i) →
      (∀ j (h : j < ws.length), ldlLeP m (src + 4 * (i + j)) = ws[j]) →
      mzvEntries src (ws.length + k) i o m =
        mzvEntries src k (i + ws.length) (o + 6 * ws.length) (mzvStore i o m ws)
  | [], i, o, m, _, _, _ => by simp [mzvStore]
  | w :: ws, i, o, m, hz, hdisj, hread => by
    simp only [List.length_cons] at hdisj ⊢
    have hw : ldlLeP m (src + 4 * i) = w := by
      have h0 := hread 0 (by simp)
      rw [Nat.add_zero] at h0
      exact h0
    rw [show ws.length + 1 + k = ws.length + k + 1 by omega, mzvEntries]
    simp only [hw, ne_eq, hz w (by simp), not_false_eq_true, if_true]
    -- the entry for `w` leaves the later source words alone
    have hrest := mzvEntries_words src k ws (i + 1) (o + 6) (mzvEntry i o m w)
      (fun v hv => hz v (by simp [hv])) (by omega)
      (fun j hj => by
        have hagree : Mem.AgreeOn m (mzvEntry i o m w) (src + 4 * (i + 1 + j))
            (src + 4 * (i + 1 + j) + 4) :=
          (unchanged_mzvEntry i o m w).agreeOn (by omega)
        rw [← ldlLeP_eq_of_agree hagree]
        have h := hread (j + 1) (by simp; omega)
        rw [show i + (j + 1) = i + 1 + j by omega] at h
        exact h)
    rw [hrest, mzvStore, show i + 1 + ws.length = i + (ws.length + 1) by omega,
      show o + 6 + 6 * ws.length = o + 6 * (ws.length + 1) by omega]

end QemuAppleSilicon.Tcg.Wkdm
