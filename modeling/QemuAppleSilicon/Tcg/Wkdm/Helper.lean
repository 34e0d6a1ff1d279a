import QemuAppleSilicon.Tcg.Wkdm.Decompress

/-!
# `HELPER(wkdmc)` and `HELPER(wkdmd)` (`target/arm/tcg/helper-a64.c`)

The guest's compress and decompress instructions. Guest memory is the flat memory of the model,
read and written at the guest's virtual addresses: the pages are assumed mapped, so the
`NULL` returns of `get_page_read` and `get_page_write` do not arise, and the
`TARGET_PAGE_BITS` check passes for the `12`-bit build.

* `helperWkdmc`: the source page is the page of `vaddr_in`; the output goes to `vaddr_out`
  rounded down to `64` bytes, with the rest of its page as the budget `csize`. The
  compressor's `unsigned` result is read as an `int`: `n ≤ 0` is returned sign-extended,
  `n > csize` is `-1`, and otherwise `n >> 6`, the size in `64`-byte units.
* `helperWkdmd`: the input is `vaddr_in` rounded down to `64` bytes, with the rest of its page
  as the size; the output is the page of `vaddr_out`. It returns `0` on success and `0x3000`
  otherwise.

The compressor writes before the helper compares `n` with `csize`, so a page whose packed
form does not fit has already been written past the output page when `-1` comes back
(`wkdmc_writes_past_output_page`). The mostly-zero format reports `6 k + 4` bytes for `k`
entries while its last entry ends at byte `6 k + 6`, and each entry's byte offset is stored
over the low half of its word: the decompressor, which reads one word from bytes `4–7`, cannot
rebuild such a page (`wkdm_mostly_zero_page_round_trip_fails`).
-/

namespace QemuAppleSilicon.Tcg.Wkdm

open QemuAppleSilicon.Lib QemuAppleSilicon.Qemu

/-- `TARGET_PAGE_MASK`.
Source: `include/exec/target_page.h` `TARGET_PAGE_MASK`
Kind: D -/
def TARGET_PAGE_MASK : UInt64 := ~~~(UInt64.ofNat TARGET_PAGE_SIZE - 1)

/-- `vaddr - (vaddr & TARGET_PAGE_MASK)`: the offset of an address in its page.
Source: `target/arm/tcg/helper-a64.c` `HELPER(wkdmc)` (`out_offset = …`), `HELPER(wkdmd)` (`in_offset = …`)
Kind: D -/
def pageOffset (vaddr : UInt64) : ℕ := (vaddr - (vaddr &&& TARGET_PAGE_MASK)).toNat

/-- What `HELPER(wkdmc)` returns for the compressor's result `r` and the budget `csize`:
`int n = r`, then `n` itself when `n ≤ 0`, `-1` past the budget, else `n >> 6`.
Source: `target/arm/tcg/helper-a64.c` `HELPER(wkdmc)` (lines 1882–1889)
Kind: D -/
def wkdmcReturn (csize : ℤ) (r : UInt32) : UInt64 :=
  let n := r.toInt32.toInt
  if n ≤ 0 then UInt64.ofInt n
  else if n > csize then UInt64.ofInt (-1)
  else UInt64.ofInt (n >>> (6 : ℕ))

/-- `HELPER(wkdmc)(env, vaddr_in, vaddr_out)`: the returned `uint64_t` and the memory after it.
Source: `target/arm/tcg/helper-a64.c` `HELPER(wkdmc)`
Kind: D -/
def helperWkdmc (m : Mem) (vaddrIn vaddrOut : UInt64) : UInt64 × Mem :=
  let vaddrIn := vaddrIn &&& TARGET_PAGE_MASK
  let vaddrOut := vaddrOut &&& ~~~0x3f
  let csize : ℤ := TARGET_PAGE_SIZE - pageOffset vaddrOut
  let compressed := wkdmCompress vaddrIn.toNat vaddrOut.toNat csize m
  (wkdmcReturn csize compressed.1, compressed.2)

/-- `HELPER(wkdmd)(env, vaddr_in, vaddr_out)`: the returned `uint64_t` and the memory after it;
`none` where `WKdm_decompress` has no defined behaviour.
Source: `target/arm/tcg/helper-a64.c` `HELPER(wkdmd)`
Kind: D -/
def helperWkdmd (m : Mem) (vaddrIn vaddrOut : UInt64) : Option (UInt64 × Mem) :=
  let vaddrOut := vaddrOut &&& TARGET_PAGE_MASK
  let vaddrIn := vaddrIn &&& ~~~0x3f
  let csize := TARGET_PAGE_SIZE - pageOffset vaddrIn
  (wkdmDecompress vaddrIn.toNat vaddrOut.toNat csize m).map fun (ok, m) =>
    (if ok then 0 else 0x3000, m)

/-- `HELPER(wkdmd)` on a 64-byte copy, at `0x2000`, of a mostly-zero block at `0x1000` whose first
entry has byte offset `0`: the page at `0x3000` comes back with the block's word at bytes `4–7` as
its first word.
Source: `target/arm/tcg/helper-a64.c` `HELPER(wkdmd)`. Kind: L -/
theorem helperWkdmd_mzv_copy {m : Mem} {w : UInt32} (hmagic : ldlLeP m 0x1000 = MZV_MAGIC)
    (hword : ldlLeP m 0x1004 = w) (hindex : lduwLeP m 0x1008 = 0) :
    ∃ m', helperWkdmd (m.write 0x2000 (m.read 0x1000 64)) 0x2000 0x3000 = some (0, m') ∧
      ldlLeP m' 0x3000 = w := by
  have hcopy : ∀ k, k + 4 ≤ 64 →
      ldlLeP (m.write 0x2000 (m.read 0x1000 64)) (0x2000 + k) = ldlLeP m (0x1000 + k) :=
    fun k hk => ldlLeP_write_read _ _ hk
  -- clearing the output page leaves the copy below it as it was
  have hclear : Mem.Unchanged (m.write 0x2000 (m.read 0x1000 64))
      ((m.write 0x2000 (m.read 0x1000 64)).write 0x3000 (List.replicate TARGET_PAGE_SIZE 0))
      0x3000 0x4000 := by
    have h := Mem.unchanged_write (m.write 0x2000 (m.read 0x1000 64)) 0x3000
      (List.replicate TARGET_PAGE_SIZE 0)
    rwa [List.length_replicate] at h
  have hsrc : ldlLeP (m.write 0x2000 (m.read 0x1000 64)) 0x2000 = MZV_MAGIC := by
    rw [← hmagic]
    exact hcopy 0 (by decide)
  have hw : ldlLeP ((m.write 0x2000 (m.read 0x1000 64)).write 0x3000
      (List.replicate TARGET_PAGE_SIZE 0)) (0x2000 + 4) = w := by
    rw [ldlLeP_eq_of_unchanged hclear (Or.inl (by decide)), hcopy 4 (by decide)]
    exact hword
  have hi : lduwLeP ((m.write 0x2000 (m.read 0x1000 64)).write 0x3000
      (List.replicate TARGET_PAGE_SIZE 0)) (0x2000 + 8) = 0 := by
    rw [← lduwLeP_eq_of_agree (hclear.agreeOn (Or.inl (by decide))),
      lduwLeP_write_read _ _ (by decide)]
    exact hindex
  have hin : ((0x2000 : UInt64) &&& ~~~0x3f).toNat = 0x2000 := by decide
  have hout : ((0x3000 : UInt64) &&& TARGET_PAGE_MASK).toNat = 0x3000 := by decide
  have hsize : TARGET_PAGE_SIZE - pageOffset ((0x2000 : UInt64) &&& ~~~0x3f) = 4096 := by decide
  simp only [helperWkdmd, hin, hout, hsize]
  rw [wkdmDecompress_mzv hsrc (by decide), hw, hi]
  refine ⟨_, rfl, ?_⟩
  rw [UInt16.toNat_zero, Nat.add_zero, ldlLeP_stlLeP]

/-! ## A packed page that does not fit -/

/-- A page at address `0`: the word `0x400`, then `1023` words of all ones. Both words are
misses, the rest exact matches: `1022` queue positions to pack. -/
def onesPage : Mem := storeWords (fun _ => 0) 0 (0x400 :: List.replicate 1023 0xFFFFFFFF)

theorem ldlLeP_onesPage {j : ℕ} (hj : j < 1024) :
    ldlLeP onesPage (4 * j) = if j = 0 then 0x400 else 0xFFFFFFFF := by
  have hlen : j < (0x400 :: List.replicate 1023 (0xFFFFFFFF : UInt32)).length := by
    rw [List.length_cons, List.length_replicate]
    omega
  have h := ldlLeP_storeWords _ (fun _ => 0) 0 j hlen
  rw [Nat.zero_add] at h
  rw [onesPage, h]
  cases j with
  | zero => rfl
  | succ j => rw [List.getElem_cons_succ, List.getElem_replicate, if_neg (Nat.succ_ne_zero j)]

/-- The modeling loop over `onesPage` with the output at `0x1EC0`: two misses stored at the
full-word area, then `1022` exact matches of slot `14`. -/
theorem modelLoop_onesPage :
    modelLoop 0 0x1EC0 PAGE_SIZE_IN_WORDS 0 (initialModeling 52) onesPage =
      (some ⟨storeAll preloadDictionary [0x400, 0xFFFFFFFF],
        [MISS_TAG, MISS_TAG] ++ List.replicate 1022 EXACT_TAG, List.replicate 1022 14, [],
        [0x400, 0xFFFFFFFF], 44⟩,
        storeWords onesPage (0x1EC0 + 4 * fullWordsStart) [0x400, 0xFFFFFFFF]) := by
  -- the list facts are unfolded to their two literals before `decide`, which would otherwise
  -- quantify over all of `UInt32`
  have hmiss := modelLoop_misses 0 0x1EC0 1022 [0x400, 0xFFFFFFFF] 0 (initialModeling 52) onesPage
    (by
      simp only [List.mem_cons, List.not_mem_nil, or_false, forall_eq_or_imp, forall_eq]
      decide)
    (by decide)
    (fun w hw x => by
      simp only [initialModeling, preloadDictionary]
      revert w
      simp only [List.mem_cons, List.not_mem_nil, or_false, forall_eq_or_imp, forall_eq]
      decide)
    (by decide) (by left; decide)
    (fun j hj => by
      rw [Nat.zero_add, Nat.zero_add, ldlLeP_onesPage (by simp at hj; omega)]
      match j, hj with
      | 0, _ => rfl
      | 1, _ => rfl)
  rw [show PAGE_SIZE_IN_WORDS = [(0x400 : UInt32), 0xFFFFFFFF].length + 1022 from rfl, hmiss]
  simp only [initialModeling, List.nil_append, List.length_cons, List.length_nil, Nat.reduceAdd,
    Nat.zero_add, Nat.add_zero, Nat.cast_ofNat, Int.reduceMul, Int.reduceSub]
  -- the all-ones word now sits in its slot: the rest of the page is exact matches
  have hexact := modelLoop_exacts 0 0x1EC0 0 0xFFFFFFFF 1022 2
    ⟨storeAll preloadDictionary [0x400, 0xFFFFFFFF], List.replicate 2 MISS_TAG, [], [],
      [0x400, 0xFFFFFFFF], 44⟩
    (storeWords onesPage (0x1EC0 + 4 * fullWordsStart) [0x400, 0xFFFFFFFF])
    (by simp [storeAll])
    (fun j hj => by
      -- the stored misses lie past the source page
      have hpast : 4 * (2 + j) + 4 ≤ 0x1EC0 + 4 * fullWordsStart := by
        have : fullWordsStart = 67 := rfl
        omega
      rw [Nat.zero_add, storeWords, ldlLeP_write_of_disjoint _ _ (Or.inl hpast),
        ldlLeP_onesPage (by omega), if_neg (by omega)])
  have hslot : (dictSlot 0xFFFFFFFF).val.toUInt8 = 14 := by decide
  rw [Nat.add_zero] at hexact
  rw [hexact, hslot]
  rfl

/-- The state after modeling `onesPage`. -/
def onesModel : Modeling :=
  ⟨storeAll preloadDictionary [0x400, 0xFFFFFFFF], [MISS_TAG, MISS_TAG] ++ List.replicate 1022 EXACT_TAG,
    List.replicate 1022 14, [], [0x400, 0xFFFFFFFF], 44⟩

/-- `WKdm_compress` on `onesPage` with `320` bytes left in the output page: the mostly-zero
estimate `6148` loses to the packed one `787`, so the page is packed. -/
theorem wkdmCompress_onesPage :
    wkdmCompress 0 0x1EC0 320 onesPage =
      packNormal 0x1EC0 onesModel (storeWords onesPage (0x1EC0 + 4 * fullWordsStart) [0x400, 0xFFFFFFFF]) := by
  have hbudget : (320 : ℤ) - headerSize = 52 := by decide
  simp only [wkdmCompress, hbudget]
  rw [if_neg (by decide), modelLoop_onesPage]
  dsimp only
  have hfirst : ([MISS_TAG, MISS_TAG] ++ List.replicate 1022 EXACT_TAG).getD 0 0 = MISS_TAG := rfl
  simp only [compressTail, List.length_cons, List.length_nil, List.length_replicate, Nat.reduceAdd, hfirst]
  rw [if_neg (by decide), if_neg (by decide), if_neg (by decide), if_neg (by decide),
    if_neg (by decide)]
  rfl

/-- The packed queue positions of `onesPage` fill `128` words from word `69`; every word packs
two of the queue position `14`, so its bytes are `0xEE`. -/
theorem onesModel_layout :
    onesModel.qposStart = 69 ∧ onesModel.qPacked = 128 ∧ onesModel.lowEnd = 197 ∧
      (wordsToBytes onesModel.packedQpos)[44]? = some 0xEE := by
  have hq : onesModel.qPacked = 128 := by
    simp only [Modeling.qPacked, onesModel, List.length_replicate]
    rfl
  refine ⟨rfl, hq, ?_, by decide +kernel⟩
  simp only [Modeling.lowEnd, Modeling.lowStart, hq]
  rfl

/-- **The packed writer runs past the output page.** `HELPER(wkdmc)` of `onesPage` into an
output at offset `0xEC0` of its page returns `-1`, after the queue positions have already
overwritten byte `0x2000`, the first of the next page.
Source: `target/arm/tcg/helper-a64.c` `HELPER(wkdmc)`; `target/arm/tcg/WKdmCompress.c`
`WKdm_compress`
Kind: P -/
theorem wkdmc_writes_past_output_page :
    (helperWkdmc onesPage 0 0x1EC0).1 = 0xFFFFFFFFFFFFFFFF ∧ onesPage 0x2000 = 0 ∧
      (helperWkdmc onesPage 0 0x1EC0).2 0x2000 = 0xEE := by
  obtain ⟨hstart, hq, hend, hbyte⟩ := onesModel_layout
  have hin : ((0 : UInt64) &&& TARGET_PAGE_MASK).toNat = 0 := by decide
  have hout : ((0x1EC0 : UInt64) &&& ~~~0x3f).toNat = 0x1EC0 := by decide
  have hoff : (TARGET_PAGE_SIZE : ℤ) - pageOffset ((0x1EC0 : UInt64) &&& ~~~0x3f) = 320 := by decide
  simp only [helperWkdmc, hin, hout, hoff, wkdmCompress_onesPage, packNormal_fst, hend]
  obtain ⟨hlen, hget⟩ := List.getElem?_eq_some_iff.mp hbyte
  refine ⟨by decide, ?_, ?_⟩
  · -- `onesPage` holds only its own 4096 bytes
    have hpage : 0 + (wordsToBytes (0x400 :: List.replicate 1023 (0xFFFFFFFF : UInt32))).length ≤
        0x2000 := by
      rw [wordsToBytes_length, List.length_cons, List.length_replicate]
      omega
    rw [onesPage, storeWords, Mem.write_apply_of_le _ _ hpage]
  · -- byte `44` of the queue-position area, which starts at `0x1EC0 + 276 = 0x1FD4`
    have h := packNormal_apply_qpos 0x1EC0 onesModel
      (storeWords onesPage (0x1EC0 + 4 * fullWordsStart) [0x400, 0xFFFFFFFF]) 44 hlen (by omega)
    rw [hstart] at h
    rw [← hget, ← h]

/-! ## A mostly-zero page -/

/-- Ten non-zero words with pairwise different high bits. -/
def sparseWords : List UInt32 :=
  [0x10000, 0x20000, 0x30000, 0x40000, 0x50000, 0x60000, 0x70000, 0x80000, 0x90000, 0xA0000]

theorem sparseWords_ne_zero : ∀ w ∈ sparseWords, w ≠ 0 := by
  simp only [sparseWords, List.mem_cons, List.not_mem_nil, or_false, forall_eq_or_imp, forall_eq]
  decide

/-- A page at address `0`: `sparseWords`, then `1014` zero words. -/
def sparsePage : Mem := storeWords (fun _ => 0) 0 sparseWords

theorem ldlLeP_sparsePage_of_lt {j : ℕ} (hj : j < sparseWords.length) :
    ldlLeP sparsePage (4 * j) = sparseWords[j] := by
  have h := ldlLeP_storeWords sparseWords (fun _ => 0) 0 j hj
  rwa [Nat.zero_add] at h

theorem ldlLeP_sparsePage_of_le {p : ℕ} (hp : 40 ≤ p) : ldlLeP sparsePage p = 0 := by
  have hlen : 0 + (wordsToBytes sparseWords).length ≤ p := by
    rw [wordsToBytes_length]
    exact hp
  rw [sparsePage, storeWords, ldlLeP_write_of_disjoint _ _ (Or.inr hlen)]
  rfl

/-- Every memory that differs from `sparsePage` only at or above `0x1000` still holds the source
page. -/
theorem ldlLeP_sparse_source {m : Mem} {hi : ℕ} (h : Mem.Unchanged sparsePage m 0x1000 hi)
    {j : ℕ} (hj : j < 1024) :
    ldlLeP m (4 * j) = sparseWords.getD j 0 := by
  rw [ldlLeP_eq_of_unchanged h (Or.inl (by omega))]
  by_cases hw : j < sparseWords.length
  · rw [ldlLeP_sparsePage_of_lt hw, List.getD_eq_getElem _ _ hw]
  · rw [ldlLeP_sparsePage_of_le (by simp [sparseWords] at hw; omega),
      List.getD_eq_default _ _ (by omega)]

/-- The state after modeling `sparsePage`: ten misses, then zeros. -/
def sparseModel : Modeling :=
  ⟨storeAll preloadDictionary sparseWords, List.replicate 10 MISS_TAG ++ List.replicate 1014 ZERO_TAG,
    [], [], sparseWords, 3788⟩

/-- The memory after modeling `sparsePage` with the output at `0x1000`: the ten misses stored in
the full-word area. -/
def sparseMisses : Mem := storeWords sparsePage (0x1000 + 4 * fullWordsStart) sparseWords

theorem unchanged_sparseMisses : Mem.Unchanged sparsePage sparseMisses 0x1000 0x2000 :=
  (unchanged_storeWords _ _ _).mono (by decide) (by decide)

/-- The modeling loop over `sparsePage`: a run of ten misses, then a run of zeros. -/
theorem modelLoop_sparsePage :
    modelLoop 0 0x1000 PAGE_SIZE_IN_WORDS 0 (initialModeling 3828) sparsePage =
      (some sparseModel, sparseMisses) := by
  have hlen : sparseWords.length = 10 := rfl
  have hmiss := modelLoop_misses 0 0x1000 1014 sparseWords 0 (initialModeling 3828) sparsePage
    sparseWords_ne_zero (by decide)
    (fun w hw x => by
      simp only [initialModeling, preloadDictionary]
      revert w
      simp only [sparseWords, List.mem_cons, List.not_mem_nil, or_false, forall_eq_or_imp,
        forall_eq]
      decide)
    (by decide) (by left; decide)
    (fun j hj => by rw [Nat.zero_add, Nat.zero_add, ldlLeP_sparsePage_of_lt hj])
  rw [show PAGE_SIZE_IN_WORDS = sparseWords.length + 1014 from rfl, hmiss]
  simp only [initialModeling, List.nil_append, List.length_nil, hlen, Nat.zero_add, Nat.add_zero,
    Nat.cast_ofNat, Int.reduceMul, Int.reduceSub]
  -- no dictionary entry is zero: each is the preloaded `1` or one of the misses
  have hdict : ∀ x, storeAll preloadDictionary sparseWords x ≠ 0 := by
    intro x
    rcases storeAll_mem sparseWords preloadDictionary x with h | h
    · rw [h]
      show (1 : UInt32) ≠ 0
      decide
    · intro h0
      rw [h0] at h
      revert h
      decide
  have hzero := modelLoop_zeros 0 0x1000 0 1014 10
    ⟨storeAll preloadDictionary sparseWords, List.replicate 10 MISS_TAG, [], [], sparseWords, 3788⟩
    (storeWords sparsePage (0x1000 + 4 * fullWordsStart) sparseWords) hdict
    (fun j hj => by
      rw [Nat.zero_add]
      exact (ldlLeP_sparse_source unchanged_sparseMisses (by omega)).trans
        (List.getD_eq_default _ _ (by simp [sparseWords])))
  rw [Nat.add_zero] at hzero
  rw [hzero]
  rfl

/-- `WKdm_compress` on `sparsePage` with a whole output page: the mostly-zero estimate `64` beats
the packed one `308`, so the page is written as the magic word and ten entries. -/
theorem wkdmCompress_sparsePage :
    wkdmCompress 0 0x1000 4096 sparsePage = (64, mzvWrite 0 0x1000 sparseMisses) := by
  have hbudget : (4096 : ℤ) - headerSize = 3828 := by decide
  simp only [wkdmCompress, hbudget]
  rw [if_neg (by decide), modelLoop_sparsePage]
  dsimp only
  have hfirst : (List.replicate 10 MISS_TAG ++ List.replicate 1014 ZERO_TAG).getD 0 0 = MISS_TAG :=
    rfl
  have hlen : sparseWords.length = 10 := rfl
  simp only [compressTail, sparseModel, List.length_nil, hlen, hfirst]
  rw [if_neg (by decide), if_neg (by decide), if_neg (by decide), if_neg (by decide),
    if_pos (by decide)]
  rfl

/-- The mostly-zero writer on `sparsePage`: one entry per word of `sparseWords`, after the magic
word. -/
theorem mzvWrite_sparsePage :
    mzvWrite 0 0x1000 sparseMisses = mzvStore 0 0x1004 (stlLeP sparseMisses 0x1000 MZV_MAGIC) sparseWords := by
  have hmagic : Mem.Unchanged sparsePage (stlLeP sparseMisses 0x1000 MZV_MAGIC) 0x1000 0x2000 :=
    unchanged_sparseMisses.trans ((unchanged_stlLeP _ _ _).mono le_rfl (by decide))
  have hwords := mzvEntries_words 0 (1014 + 0) sparseWords 0 (0x1000 + 4)
    (stlLeP sparseMisses 0x1000 MZV_MAGIC) sparseWords_ne_zero (by left; decide)
    (fun j hj => by
      rw [Nat.zero_add, Nat.zero_add, ldlLeP_sparse_source hmagic (by simp [sparseWords] at hj; omega),
        List.getD_eq_getElem _ _ hj])
  have hentries : Mem.Unchanged sparsePage
      (mzvStore 0 (0x1000 + 4) (stlLeP sparseMisses 0x1000 MZV_MAGIC) sparseWords) 0x1000 0x2000 :=
    hmagic.trans ((unchanged_mzvStore _ _ _ _).mono (by decide) (by decide))
  have hzeros := mzvEntries_zeros 0 0 1014 (0 + sparseWords.length) (0x1000 + 4 + 6 * sparseWords.length)
    (mzvStore 0 (0x1000 + 4) (stlLeP sparseMisses 0x1000 MZV_MAGIC) sparseWords)
    (fun j hj => by
      rw [Nat.zero_add, ldlLeP_sparse_source hentries (by simp [sparseWords]; omega),
        List.getD_eq_default _ _ (by omega)])
  rw [mzvWrite, show PAGE_SIZE_IN_WORDS = sparseWords.length + (1014 + 0) from rfl, hwords, hzeros]
  rfl

/-- The memory after `HELPER(wkdmc)` on `sparsePage`. -/
def sparseOut : Mem := mzvStore 0 0x1004 (stlLeP sparseMisses 0x1000 MZV_MAGIC) sparseWords

/-- What the mostly-zero format of `sparsePage` holds: the magic word, nothing written at
bytes `4–7`, the first entry's byte offset `0` at bytes `8–9`, and the high half of the last
word at bytes `64–65`, past the `64` bytes reported. -/
theorem sparseOut_layout :
    ldlLeP sparseOut 0x1000 = MZV_MAGIC ∧ ldlLeP sparseOut 0x1004 = 0 ∧
      lduwLeP sparseOut 0x1008 = 0 ∧ sparseOut 0x1040 = 0x0A := by
  have hentries := unchanged_mzvStore sparseWords 0 0x1004 (stlLeP sparseMisses 0x1000 MZV_MAGIC)
  refine ⟨?_, ?_, ?_, ?_⟩
  · rw [sparseOut, ldlLeP_eq_of_unchanged hentries (Or.inl (by decide)), ldlLeP_stlLeP]
  · -- bytes `4–7` lie between the magic word and the first entry's word
    have hmisses : 0x1004 + 4 ≤ 0x1000 + 4 * fullWordsStart := by decide
    rw [sparseOut, ldlLeP_eq_of_unchanged hentries (Or.inl (by decide)), stlLeP,
      ldlLeP_write_of_disjoint _ _ (Or.inr (by simp)), sparseMisses, storeWords,
      ldlLeP_write_of_disjoint _ _ (Or.inl hmisses), ldlLeP_sparsePage_of_le (by decide)]
  · -- the first entry's offset; the later entries start six bytes on
    have hrest := unchanged_mzvStore (sparseWords.drop 1) 1 (0x1004 + 6)
      (mzvEntry 0 0x1004 (stlLeP sparseMisses 0x1000 MZV_MAGIC) 0x10000)
    have h := lduwLeP_mzvEntry 0 0x1004 (stlLeP sparseMisses 0x1000 MZV_MAGIC) 0x10000
    rw [sparseOut, show sparseWords = 0x10000 :: sparseWords.drop 1 from rfl, mzvStore,
      lduwLeP_eq_of_agree (hrest.agreeOn (Or.inl (by decide))).symm]
    exact h
  · -- the last entry's word is at `0x103E`, its offset over `0x103E–0x103F`
    rw [sparseOut, show sparseWords = sparseWords.take 9 ++ [0xA0000] from rfl, mzvStore_append]
    exact mzvEntry_apply_high 9 (0x1004 + 6 * 9) _ 0xA0000 (b := 0) (by decide)

/-- **A mostly-zero page does not survive the round trip.** `HELPER(wkdmc)` of `sparsePage`
reports one 64-byte unit, but the last entry's word reaches byte `0x40` of the output; the
`HELPER(wkdmd)` of those 64 bytes succeeds and reads a first word the compressor never wrote.
Source: `target/arm/tcg/helper-a64.c` `HELPER(wkdmc)`, `HELPER(wkdmd)`;
`target/arm/tcg/WKdmCompress.c` `WKdm_compress`
Kind: P -/
theorem wkdm_mostly_zero_page_round_trip_fails :
    ∃ m, helperWkdmc sparsePage 0 0x1000 = (1, m) ∧ m 0x1040 ≠ sparsePage 0x1040 ∧
      ∃ m', helperWkdmd (m.write 0x2000 (m.read 0x1000 64)) 0x2000 0x3000 = some (0, m') ∧
        ldlLeP m' 0x3000 ≠ ldlLeP sparsePage 0 := by
  obtain ⟨hmagic, hword, hindex, hbyte⟩ := sparseOut_layout
  refine ⟨sparseOut, ?_, ?_, ?_⟩
  · have hin : ((0 : UInt64) &&& TARGET_PAGE_MASK).toNat = 0 := by decide
    have hout : ((0x1000 : UInt64) &&& ~~~0x3f).toNat = 0x1000 := by decide
    have hoff : (TARGET_PAGE_SIZE : ℤ) - pageOffset ((0x1000 : UInt64) &&& ~~~0x3f) = 4096 := by
      decide
    have hret : wkdmcReturn 4096 64 = 1 := by decide
    simp only [helperWkdmc, hin, hout, hoff, wkdmCompress_sparsePage, mzvWrite_sparsePage, hret]
    rfl
  · -- `sparsePage` holds nothing past its first 40 bytes
    have hpage : 0 + (wordsToBytes sparseWords).length ≤ 0x1040 := by
      rw [wordsToBytes_length]
      decide
    rw [hbyte, sparsePage, storeWords, Mem.write_apply_of_le _ _ hpage]
    decide
  · -- decompress the 64-byte copy at `0x2000` into the page at `0x3000`
    obtain ⟨m', hrun, hfirst⟩ := helperWkdmd_mzv_copy hmagic hword hindex
    refine ⟨m', hrun, ?_⟩
    -- the page starts with the zero word read from bytes `4–7`, not with the page's first word
    have hsparse := ldlLeP_sparsePage_of_lt (j := 0) (by decide)
    rw [Nat.mul_zero] at hsparse
    rw [hfirst, hsparse]
    decide

end QemuAppleSilicon.Tcg.Wkdm
