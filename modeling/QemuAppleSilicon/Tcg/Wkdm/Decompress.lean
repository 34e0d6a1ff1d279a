import QemuAppleSilicon.Tcg.Wkdm.Compress

/-!
# `WKdm_decompress` (`target/arm/tcg/WKdmDecompress.c`)

* The mostly-zero format: when the first word is `MZV_MAGIC` the destination page is cleared
  and one word, read from bytes `4–7`, is stored at the byte offset read from bytes `8–9`; the
  rest of the input is never looked at.
* The packed format: the header's three word offsets are each checked to lie below
  `size / 4`, the three areas are unpacked into the intermediate arrays, then every tag rebuilds
  one output word against a dictionary that evolves as the compressor's did. The full words are
  read from the input with no bound at all: `next_full_word` starts at word `67` and advances
  once per miss tag.
* The model returns `none` where the C code has no defined behaviour: a tag that reads a queue
  position or a low-bits pattern past what was unpacked (the arrays are uninitialised stack
  memory), and the failed `assert(src_buf != dest_buf)`.
-/

namespace QemuAppleSilicon.Tcg.Wkdm

open QemuAppleSilicon.Lib QemuAppleSilicon.Qemu

/-- The state of the tag loop: the dictionary, the cursors into the queue positions, the low
bits and the full words, the output word index and the memory.
Source: `target/arm/tcg/WKdmDecompress.c` `WKdm_decompress` (locals of the tag loop)
Kind: D -/
structure Decoding where
  /-- `dictionary`. -/
  dict : Dictionary
  /-- `next_q_pos - tempQPosArray`. -/
  q : ℕ
  /-- `next_low_bits - tempLowBitsArray`. -/
  l : ℕ
  /-- `next_full_word - FULL_WORD_AREA_START(src_buf)`. -/
  f : ℕ
  /-- `next_output - dest_buf`. -/
  i : ℕ
  /-- The memory. -/
  m : Mem

/-- The dictionary entry a queue position names; `none` past the dictionary.
Source: `target/arm/tcg/WKdmDecompress.c` `WKdm_decompress` (`dictionary + *(next_q_pos++)`)
Kind: D -/
def dictIndex (q : UInt8) : Option (Fin 16) :=
  if h : q.toNat < 16 then some ⟨q.toNat, h⟩ else none

/-- One iteration of the tag loop.
Source: `target/arm/tcg/WKdmDecompress.c` `WKdm_decompress` (the `switch (tag)`)
Kind: D -/
def decodeTag (src dest : ℕ) (qpos : List UInt8) (lowBits : List UInt32) (st : Decoding)
    (tag : UInt8) : Option Decoding :=
  let out := dest + 4 * st.i
  if tag = ZERO_TAG then some { st with i := st.i + 1, m := stlLeP st.m out 0 }
  else if tag = EXACT_TAG then do
    let qb ← qpos[st.q]?
    let x ← dictIndex qb
    some { st with q := st.q + 1, i := st.i + 1, m := stlLeP st.m out (st.dict x) }
  else if tag = PARTIAL_TAG then do
    let qb ← qpos[st.q]?
    let x ← dictIndex qb
    let lb ← lowBits[st.l]?
    let temp := ((st.dict x >>> 10) <<< 10) ||| lb
    some { st with
      dict := Function.update st.dict x temp
      q := st.q + 1
      l := st.l + 1
      i := st.i + 1
      m := stlLeP st.m out temp }
  else if tag = MISS_TAG then
    let missed := ldlLeP st.m (src + 4 * (TAGS_AREA_OFFSET + TAGS_AREA_SIZE + st.f))
    some { st with
      dict := Function.update st.dict (dictSlot missed) missed
      f := st.f + 1
      i := st.i + 1
      m := stlLeP st.m out missed }
  -- `default: break;`: the output word is skipped
  else some { st with i := st.i + 1 }

/-- The tag loop over the tags in order.
Source: `target/arm/tcg/WKdmDecompress.c` `WKdm_decompress` (`while (next_tag < tags_area_end)`)
Kind: D -/
def decodeTags (src dest : ℕ) (qpos : List UInt8) (lowBits : List UInt32) :
    List UInt8 → Decoding → Option Decoding
  | [], st => some st
  | tag :: tags, st => do
    let st ← decodeTag src dest qpos lowBits st tag
    decodeTags src dest qpos lowBits tags st

/-- `WKdm_decompress(src_buf, dest_buf, size)`: the returned `bool` and the memory after it.
Source: `target/arm/tcg/WKdmDecompress.c` `WKdm_decompress`
Kind: D -/
def wkdmDecompress (src dest size : ℕ) (m : Mem) : Option (Bool × Mem) :=
  let words := size / 4
  if ldlLeP m src = MZV_MAGIC then
    if src = dest then none
    else
      let m := m.write dest (List.replicate TARGET_PAGE_SIZE 0)
      let word := ldlLeP m (src + 4)
      let index := lduwLeP m (src + 8)
      some (true, stlLeP m (dest + index.toNat) word)
  else
    let qposStart := (ldlLeP m src).toNat
    let lowStart := (ldlLeP m (src + 4)).toNat
    let lowEnd := (ldlLeP m (src + 8)).toNat
    if words ≤ TAGS_AREA_OFFSET ∨ words ≤ TAGS_AREA_OFFSET + TAGS_AREA_SIZE ∨ words ≤ qposStart ∨
        words ≤ lowStart ∨ words ≤ lowEnd then some (false, m)
    else
      let tags := wordsToBytes (wkUnpack2bits (loadWords m (src + 4 * TAGS_AREA_OFFSET) TAGS_AREA_SIZE))
      let qpos := wordsToBytes (wkUnpack4bits (loadWords m (src + 4 * qposStart) (lowStart - qposStart)))
      let lowBits := wkUnpack3Tenbits (loadWords m (src + 4 * lowStart) (lowEnd - lowStart))
      (decodeTags src dest qpos lowBits tags ⟨preloadDictionary, 0, 0, 0, 0, m⟩).map
        fun st => (true, st.m)

/-! ## Where the decoder writes -/

section Frame

variable {src dest : ℕ} {qpos : List UInt8} {lowBits : List UInt32}

/-- One tag writes at most its own output word, and moves to the next one. -/
theorem decodeTag_unchanged {st st' : Decoding} {tag : UInt8}
    (h : decodeTag src dest qpos lowBits st tag = some st') :
    Mem.Unchanged st.m st'.m (dest + 4 * st.i) (dest + 4 * st.i + 4) ∧ st'.i = st.i + 1 := by
  unfold decodeTag at h
  -- every branch either stores one word at the output or leaves the memory alone
  split_ifs at h
  · cases h
    exact ⟨unchanged_stlLeP _ _ _, rfl⟩
  · simp only [Option.bind_eq_bind, Option.bind_eq_some_iff, Option.some.injEq] at h
    obtain ⟨_, _, _, _, rfl⟩ := h
    exact ⟨unchanged_stlLeP _ _ _, rfl⟩
  · simp only [Option.bind_eq_bind, Option.bind_eq_some_iff, Option.some.injEq] at h
    obtain ⟨_, _, _, _, _, _, rfl⟩ := h
    exact ⟨unchanged_stlLeP _ _ _, rfl⟩
  · cases h
    exact ⟨unchanged_stlLeP _ _ _, rfl⟩
  · cases h
    exact ⟨Mem.Unchanged.refl _ _ _, rfl⟩

/-- **The tag loop writes only the output words of its tags**, whatever the tags, queue
positions, low bits and full words: by induction on the tags, from `decodeTag_unchanged`. -/
theorem decodeTags_unchanged (tags : List UInt8) :
    ∀ {st st' : Decoding}, decodeTags src dest qpos lowBits tags st = some st' →
      Mem.Unchanged st.m st'.m (dest + 4 * st.i) (dest + 4 * (st.i + tags.length)) ∧
        st'.i = st.i + tags.length := by
  induction tags with
  | nil =>
    intro st st' h
    cases h
    exact ⟨Mem.Unchanged.refl _ _ _, rfl⟩
  | cons tag tags ih =>
    intro st st' h
    simp only [decodeTags, Option.bind_eq_bind, Option.bind_eq_some_iff] at h
    obtain ⟨st₁, h₁, h₂⟩ := h
    obtain ⟨hm₁, hi₁⟩ := decodeTag_unchanged h₁
    obtain ⟨hm₂, hi₂⟩ := ih h₂
    rw [hi₁] at hm₂ hi₂
    rw [List.length_cons]
    refine ⟨(hm₁.mono le_rfl ?_).trans (hm₂.mono ?_ ?_), ?_⟩ <;> omega

end Frame

theorem wkUnpack2bits_length (ws : List UInt32) : (wkUnpack2bits ws).length = 4 * ws.length := by
  induction ws with
  | nil => rfl
  | cons w ws ih =>
    simp only [wkUnpack2bits, List.flatMap_cons, List.length_append, List.length_cons,
      List.length_nil] at ih ⊢
    rw [ih]
    ring

/-- **The packed format writes only the destination page**: the `1024` tags unpacked from the
tags area each stand for one output word, so no input, however malformed, makes the tag loop
write outside `[dest, dest + 4096)`. -/
theorem wkdmDecompress_packed_unchanged {src dest size : ℕ} {m m' : Mem} {ok : Bool}
    (hmagic : ldlLeP m src ≠ MZV_MAGIC) (h : wkdmDecompress src dest size m = some (ok, m')) :
    Mem.Unchanged m m' dest (dest + TARGET_PAGE_SIZE) := by
  simp only [wkdmDecompress, hmagic, if_false] at h
  split_ifs at h with hcheck
  · -- a header check failed: nothing is written
    cases h
    exact Mem.Unchanged.refl _ _ _
  · simp only [Option.map_eq_some_iff, Prod.mk.injEq] at h
    obtain ⟨st, hst, -, rfl⟩ := h
    have htags : (wordsToBytes (wkUnpack2bits
        (loadWords m (src + 4 * TAGS_AREA_OFFSET) TAGS_AREA_SIZE))).length = 1024 := by
      rw [wordsToBytes_length, wkUnpack2bits_length, loadWords, List.length_ofFn]
      rfl
    have hframe := (decodeTags_unchanged _ hst).1
    rw [htags] at hframe
    simpa [TARGET_PAGE_SIZE] using hframe

/-- The mostly-zero format: the destination page is cleared, then the word at `src + 4` is
stored at `dest` plus the byte offset at `src + 8`, both read after the clearing. -/
theorem wkdmDecompress_mzv {src dest size : ℕ} {m : Mem} (hmagic : ldlLeP m src = MZV_MAGIC)
    (hne : src ≠ dest) :
    wkdmDecompress src dest size m =
      some (true, stlLeP (m.write dest (List.replicate TARGET_PAGE_SIZE 0))
        (dest + (lduwLeP (m.write dest (List.replicate TARGET_PAGE_SIZE 0)) (src + 8)).toNat)
        (ldlLeP (m.write dest (List.replicate TARGET_PAGE_SIZE 0)) (src + 4))) := by
  simp only [wkdmDecompress, hmagic, if_true, hne, if_false]

end QemuAppleSilicon.Tcg.Wkdm
