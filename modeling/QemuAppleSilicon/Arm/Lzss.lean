import QemuAppleSilicon.Lib.BigEndian
import QemuAppleSilicon.Lib.EState

/-!
# The LZSS decoder and the `complzss` branch of `extract_im4p_payload`

`decompress_lzss` (`hw/arm/apple-silicon/lzss.h`) decodes `srclen` input bytes into `dst` through
a 4096-byte ring buffer: each flag bit selects a literal (one input byte, one output byte) or a
back-reference (two input bytes, `3` to `18` output bytes). It checks the input cursor against
`srcend` before every read and never looks at how much room `dst` has. `extract_im4p_payload`
(`boot.c`) takes `srclen` from the big-endian `compressed_size` header field and sizes `dst` by
`uncompressed_size`, and compares the result with `uncompressed_size` only after the decoder ran.

The decoder's loop body is three pieces (the flag refill, the literal, the back-reference),
each an `Except` computation whose error is the C `break` carrying the state at that point.

* `lzssLoop_consumes` — every run reads the input bytes from its cursor up to `srcend` in order,
  each once, and writes at most nine output bytes per input byte read.
* `decompressLzss_reads` — so `decompress_lzss` reads exactly `[src, src + srclen)`.
* `extractIm4pLzss_reads` — and the `complzss` branch reads the stream up to
  `sizeof(LzssCompHeader) + compressed_size`, whatever the payload's length.
* `lzss_extract_overruns` — a three-byte stream of two literals is decoded in full: with a
  payload of `386` bytes its last byte lies past the payload, and with `uncompressed_size` below
  two both bytes are written into the smaller buffer before the failure is reported.

Not modelled: the stack slots of `text_buf` above `N - F`, which the decoder reads uninitialised
(here zero), and the `bvx` and raw branches of `extract_im4p_payload`.
-/

namespace QemuAppleSilicon.Arm

open QemuAppleSilicon.Lib

/-! ## The decoder -/

/-- The ring buffer's size.
Source: `hw/arm/apple-silicon/lzss.h` `N`
Kind: D -/
def Lzss.N : ℕ := 4096

/-- The longest match.
Source: `hw/arm/apple-silicon/lzss.h` `F`
Kind: D -/
def Lzss.F : ℕ := 18

/-- The shortest match, less one.
Source: `hw/arm/apple-silicon/lzss.h` `THRESHOLD`
Kind: D -/
def Lzss.THRESHOLD : ℕ := 2

/-- The decoder's locals between two steps: the ring buffer `text_buf` and its cursor `r`, the
flag register, the input cursor `src`, the bytes written through `dst` in order (the `k`-th at
`dststart + k`), and the input addresses read so far.
Source: `hw/arm/apple-silicon/lzss.h` `decompress_lzss`
Kind: D -/
structure LzssState where
  textBuf : ℕ → UInt8
  r : ℕ
  flags : UInt32
  src : ℕ
  dst : List UInt8
  reads : List ℕ

/-- The state before the loop: `text_buf[0, N - F)` filled with spaces, `r = N - F`, no flags.
Source: `hw/arm/apple-silicon/lzss.h` `decompress_lzss`
Kind: D -/
def LzssState.init (src : ℕ) : LzssState where
  textBuf := fun i => if i < Lzss.N - Lzss.F then 0x20 else 0
  r := Lzss.N - Lzss.F
  flags := 0
  src := src
  dst := []
  reads := []

/-- `if (src < srcend) c = *src++; else break;`
Source: `hw/arm/apple-silicon/lzss.h` `decompress_lzss`
Kind: D -/
def LzssState.next (mem : Mem) (srcend : ℕ) (s : LzssState) :
    Except LzssState (UInt8 × LzssState) :=
  if s.src < srcend then .ok (mem s.src, { s with src := s.src + 1, reads := s.reads ++ [s.src] })
  else .error s

/-- `*dst++ = c; text_buf[r++] = c; r &= (N - 1);`
Source: `hw/arm/apple-silicon/lzss.h` `decompress_lzss`
Kind: D -/
def LzssState.emit (s : LzssState) (c : UInt8) : LzssState :=
  { s with dst := s.dst ++ [c], textBuf := Function.update s.textBuf s.r c,
           r := (s.r + 1) &&& (Lzss.N - 1) }

/-- The back-reference loop `for (k = 0; k <= j; k++)`, each pass emitting
`text_buf[(i + k) & (N - 1)]` as the buffer stands after the passes before it.
Source: `hw/arm/apple-silicon/lzss.h` `decompress_lzss`
Kind: D -/
def LzssState.copyRef (s : LzssState) (i j : ℕ) : LzssState :=
  (List.range (j + 1)).foldl (fun s k => s.emit (s.textBuf ((i + k) &&& (Lzss.N - 1)))) s

/-- The flag refill: `if (((flags >>= 1) & 0x100) == 0)` read a byte into `flags = c | 0xFF00`.
Source: `hw/arm/apple-silicon/lzss.h` `decompress_lzss`
Kind: D -/
def LzssState.refresh (mem : Mem) (srcend : ℕ) (s : LzssState) : Except LzssState LzssState :=
  let flags := s.flags >>> 1
  if flags &&& 0x100 = 0 then do
    let (c, s) ← s.next mem srcend
    pure { s with flags := c.toUInt32 ||| 0xFF00 }
  else pure { s with flags }

/-- A literal: one input byte, copied to the output.
Source: `hw/arm/apple-silicon/lzss.h` `decompress_lzss`
Kind: D -/
def LzssState.literal (mem : Mem) (srcend : ℕ) (s : LzssState) : Except LzssState LzssState := do
  let (c, s) ← s.next mem srcend
  pure (s.emit c)

/-- A back-reference: two input bytes give the position `i` (twelve bits) and the length `j + 1`.
Source: `hw/arm/apple-silicon/lzss.h` `decompress_lzss`
Kind: D -/
def LzssState.backref (mem : Mem) (srcend : ℕ) (s : LzssState) : Except LzssState LzssState := do
  let (i, s) ← s.next mem srcend
  let (j, s) ← s.next mem srcend
  let i := i.toNat ||| ((j.toNat &&& 0xF0) <<< 4)
  let j := (j.toNat &&& 0x0F) + Lzss.THRESHOLD
  pure (s.copyRef i j)

/-- One pass of the decoder's `for (;;)`; an error is the `break`, with the state at that point.
Source: `hw/arm/apple-silicon/lzss.h` `decompress_lzss`
Kind: D -/
def lzssStep (mem : Mem) (srcend : ℕ) (s : LzssState) : Except LzssState LzssState := do
  let s ← s.refresh mem srcend
  if s.flags &&& 1 ≠ 0 then s.literal mem srcend else s.backref mem srcend

/-! ## What a piece of the loop body consumes -/

/-- `s'` follows `s` having read the input bytes from `s.src` up to `s'.src`, in order, and
having appended at most nine output bytes for each of them. -/
structure LzssState.Consumes (s s' : LzssState) : Prop where
  src_le : s.src ≤ s'.src
  reads : s'.reads = s.reads ++ List.range' s.src (s'.src - s.src)
  dst_prefix : s.dst <+: s'.dst
  dst_length : s'.dst.length ≤ s.dst.length + 9 * (s'.src - s.src)

theorem LzssState.Consumes.refl (s : LzssState) : s.Consumes s :=
  ⟨le_rfl, by simp, List.prefix_refl _, by omega⟩

theorem LzssState.Consumes.trans {s₁ s₂ s₃ : LzssState} (h₁ : s₁.Consumes s₂)
    (h₂ : s₂.Consumes s₃) : s₁.Consumes s₃ := by
  refine ⟨h₁.src_le.trans h₂.src_le, ?_, h₁.dst_prefix.trans h₂.dst_prefix, ?_⟩
  · have hsplit : s₃.src - s₁.src = (s₂.src - s₁.src) + (s₃.src - s₂.src) := by
      have := h₁.src_le; have := h₂.src_le; omega
    rw [h₂.reads, h₁.reads, hsplit, ← List.range'_append_1, List.append_assoc,
      Nat.add_sub_cancel' h₁.src_le]
  · have := h₁.dst_length; have := h₂.dst_length; have := h₁.src_le; have := h₂.src_le
    omega

/-- The outcome of a piece of the loop body from `s`: a state reached by consuming input within
`srcend`, at least `n` bytes of it if the piece went on, all of it if the piece broke. -/
def LzssState.Within (srcend n : ℕ) (s : LzssState) : Except LzssState LzssState → Prop
  | .ok s' => s.Consumes s' ∧ s.src + n ≤ s'.src ∧ s'.src ≤ srcend
  | .error s' => s.Consumes s' ∧ s'.src = srcend

theorem LzssState.Within.mono {srcend n n' : ℕ} {s : LzssState} {x : Except LzssState LzssState}
    (hx : s.Within srcend n x) (hn : n' ≤ n) : s.Within srcend n' x := by
  cases x with
  | error s' => exact hx
  | ok s' => exact ⟨hx.1, by have := hx.2.1; omega, hx.2.2⟩

/-- Pieces compose: the bytes the first consumes add to those the second does.
Source: none: infrastructure. Kind: L -/
theorem LzssState.Within.bind {srcend n m : ℕ} {s : LzssState}
    {x : Except LzssState LzssState} {f : LzssState → Except LzssState LzssState}
    (hx : s.Within srcend n x) (hf : ∀ s', s.Consumes s' → s'.src ≤ srcend → s'.Within srcend m (f s')) :
    s.Within srcend (n + m) (x >>= f) := by
  cases x with
  | error s' => exact hx
  | ok s' =>
    obtain ⟨hc, hn, he⟩ := hx
    have hfs := hf s' hc he
    change s.Within srcend (n + m) (f s')
    cases hy : f s' with
    | error s'' =>
      rw [hy] at hfs
      exact ⟨hc.trans hfs.1, hfs.2⟩
    | ok s'' =>
      rw [hy] at hfs
      have hm : s'.src + m ≤ s''.src := hfs.2.1
      exact ⟨hc.trans hfs.1, by omega, hfs.2.2⟩

@[simp] theorem LzssState.src_emit (s : LzssState) (c : UInt8) : (s.emit c).src = s.src := rfl

@[simp] theorem LzssState.reads_emit (s : LzssState) (c : UInt8) : (s.emit c).reads = s.reads := rfl

@[simp] theorem LzssState.dst_emit (s : LzssState) (c : UInt8) : (s.emit c).dst = s.dst ++ [c] := rfl

/-- Passes of the back-reference loop, each emitting one byte chosen from the state, read no input
and append one byte each.
Source: none: infrastructure. Kind: L -/
theorem LzssState.foldl_emit (g : LzssState → ℕ → UInt8) (ks : List ℕ) (s : LzssState) :
    (ks.foldl (fun s k => s.emit (g s k)) s).src = s.src ∧
      (ks.foldl (fun s k => s.emit (g s k)) s).reads = s.reads ∧
      s.dst <+: (ks.foldl (fun s k => s.emit (g s k)) s).dst ∧
      (ks.foldl (fun s k => s.emit (g s k)) s).dst.length = s.dst.length + ks.length := by
  induction ks generalizing s with
  | nil => simp
  | cons k ks ih =>
    obtain ⟨hsrc, hreads, hpre, hlen⟩ := ih (s.emit (g s k))
    refine ⟨hsrc, hreads, (List.prefix_append _ _).trans (by simpa using hpre), ?_⟩
    simp only [List.foldl_cons, hlen, LzssState.dst_emit, List.length_append, List.length_cons,
      List.length_nil]
    omega

/-- The back-reference loop appends `j + 1` bytes and reads no input.
Source: `hw/arm/apple-silicon/lzss.h` `decompress_lzss`. Kind: L -/
theorem LzssState.copyRef_spec (s : LzssState) (i j : ℕ) :
    (s.copyRef i j).src = s.src ∧ (s.copyRef i j).reads = s.reads ∧
      s.dst <+: (s.copyRef i j).dst ∧ (s.copyRef i j).dst.length = s.dst.length + (j + 1) := by
  unfold LzssState.copyRef
  simpa using LzssState.foldl_emit (fun s k => s.textBuf ((i + k) &&& (Lzss.N - 1)))
    (List.range (j + 1)) s

theorem LzssState.next_eq_ok {mem : Mem} {srcend : ℕ} {s s' : LzssState} {c : UInt8}
    (h : s.next mem srcend = .ok (c, s')) :
    s.src < srcend ∧ s' = { s with src := s.src + 1, reads := s.reads ++ [s.src] } := by
  unfold LzssState.next at h
  split_ifs at h with hlt
  · cases h
    exact ⟨hlt, rfl⟩

theorem LzssState.next_eq_error {mem : Mem} {srcend : ℕ} {s s' : LzssState}
    (h : s.next mem srcend = .error s') : srcend ≤ s.src ∧ s' = s := by
  unfold LzssState.next at h
  split_ifs at h with hlt
  · cases h
    exact ⟨Nat.le_of_not_lt hlt, rfl⟩

/-- A read inside a piece that started at `s`: it breaks at `srcend`, or goes on from the state
after it.
Source: none: infrastructure. Kind: L -/
theorem LzssState.within_next_bind {mem : Mem} {srcend n : ℕ} {s t : LzssState}
    (hst : s.Consumes t) (ht : t.src ≤ srcend) {f : UInt8 × LzssState → Except LzssState LzssState}
    (hf : ∀ c, t.src < srcend →
      s.Within srcend n (f (c, { t with src := t.src + 1, reads := t.reads ++ [t.src] }))) :
    s.Within srcend n (t.next mem srcend >>= f) := by
  cases hn : t.next mem srcend with
  | error t' =>
    obtain ⟨hle, ht'⟩ := LzssState.next_eq_error hn
    rw [ht']
    exact ⟨hst, by omega⟩
  | ok p =>
    obtain ⟨c, t'⟩ := p
    obtain ⟨hlt, rfl⟩ := LzssState.next_eq_ok hn
    exact hf c hlt

/-- Reading one byte from `s` consumes it.
Source: none: infrastructure. Kind: L -/
theorem LzssState.consumes_advance (s : LzssState) :
    s.Consumes { s with src := s.src + 1, reads := s.reads ++ [s.src] } :=
  ⟨by simp, by simp, List.prefix_refl _, by simp⟩

/-- Source: `hw/arm/apple-silicon/lzss.h` `decompress_lzss`. Kind: L -/
theorem LzssState.refresh_within {mem : Mem} {srcend : ℕ} {s : LzssState} (hs : s.src ≤ srcend) :
    s.Within srcend 0 (s.refresh mem srcend) := by
  unfold LzssState.refresh
  dsimp only
  split_ifs
  · refine LzssState.within_next_bind (LzssState.Consumes.refl s) hs ?_
    intro c hlt
    exact ⟨⟨by simp, by simp, List.prefix_refl _, by simp⟩, by simp, by simp; omega⟩
  · exact ⟨⟨le_rfl, by simp, List.prefix_refl _, by simp⟩, by simp, hs⟩

/-- Source: `hw/arm/apple-silicon/lzss.h` `decompress_lzss`. Kind: L -/
theorem LzssState.literal_within {mem : Mem} {srcend : ℕ} {s : LzssState} (hs : s.src ≤ srcend) :
    s.Within srcend 1 (s.literal mem srcend) := by
  unfold LzssState.literal
  refine LzssState.within_next_bind (LzssState.Consumes.refl s) hs ?_
  intro c hlt
  exact ⟨⟨by simp, by simp, List.prefix_append _ _, by simp⟩, by simp, by simp; omega⟩

/-- A back-reference reads two bytes and copies at most `F` of them: nine per byte read.
Source: `hw/arm/apple-silicon/lzss.h` `decompress_lzss`. Kind: L -/
theorem LzssState.backref_within {mem : Mem} {srcend : ℕ} {s : LzssState} (hs : s.src ≤ srcend) :
    s.Within srcend 1 (s.backref mem srcend) := by
  unfold LzssState.backref
  refine LzssState.within_next_bind (LzssState.Consumes.refl s) hs ?_
  intro i hlt
  refine LzssState.within_next_bind (LzssState.consumes_advance s) (by simpa using hlt) ?_
  intro j hlt'
  dsimp only at hlt' ⊢
  -- the copy appends `(j & 0x0F) + THRESHOLD + 1 ≤ F` bytes after the two reads
  have hj : (j.toNat &&& 0x0F) ≤ 15 := Nat.and_le_right
  obtain ⟨hsrc, hreads, hpre, hlen⟩ :=
    LzssState.copyRef_spec { s with src := s.src + 1 + 1, reads := s.reads ++ [s.src] ++ [s.src + 1] }
      (i.toNat ||| ((j.toNat &&& 0xF0) <<< 4)) ((j.toNat &&& 0x0F) + Lzss.THRESHOLD)
  dsimp only at hsrc hreads hpre hlen
  refine ⟨⟨by omega, ?_, hpre, ?_⟩, by omega, by omega⟩
  · rw [hreads, hsrc, show s.src + 1 + 1 - s.src = 2 by omega]
    simp [List.range']
  · rw [hlen, hsrc]
    simp only [Lzss.THRESHOLD]
    omega

theorem LzssState.next_of_le {mem : Mem} {srcend : ℕ} {s : LzssState} (h : srcend ≤ s.src) :
    s.next mem srcend = .error s := by
  unfold LzssState.next
  rw [if_neg (Nat.not_lt.mpr h)]

/-! ## The loop -/

/-- A pass of the loop reads at least one byte, or breaks with all the input read.
Source: `hw/arm/apple-silicon/lzss.h` `decompress_lzss`. Kind: L -/
theorem lzssStep_within {mem : Mem} {srcend : ℕ} {s : LzssState} (hs : s.src ≤ srcend) :
    s.Within srcend 1 (lzssStep mem srcend s) := by
  unfold lzssStep
  have hr : s.Within srcend 0 (s.refresh mem srcend) := LzssState.refresh_within hs
  have h := hr.bind (m := 1)
    (f := fun s => if s.flags &&& 1 ≠ 0 then s.literal mem srcend else s.backref mem srcend)
    (fun s' _ hs' => by
      split_ifs
      · exact LzssState.literal_within hs'
      · exact LzssState.backref_within hs')
  simpa only [Nat.zero_add] using h

/-- With no input left, a pass of the loop breaks: every branch reads before it emits.
Source: `hw/arm/apple-silicon/lzss.h` `decompress_lzss`. Kind: L -/
theorem lzssStep_of_le {mem : Mem} {srcend : ℕ} {s : LzssState} (h : srcend ≤ s.src) :
    ∃ s', lzssStep mem srcend s = .error s' := by
  unfold lzssStep LzssState.refresh
  dsimp only
  split_ifs
  · rw [LzssState.next_of_le h]
    exact ⟨s, rfl⟩
  · -- the flags still held a literal or back-reference bit: its first read breaks
    unfold LzssState.literal LzssState.backref
    simp only [pure_bind]
    split_ifs <;> rw [LzssState.next_of_le (s := { s with flags := s.flags >>> 1 }) h] <;>
      exact ⟨_, rfl⟩

/-- Source: `hw/arm/apple-silicon/lzss.h` `decompress_lzss`. Kind: L -/
theorem lzssStep_progress {mem : Mem} {srcend : ℕ} {s s' : LzssState}
    (h : lzssStep mem srcend s = .ok s') : srcend - s'.src < srcend - s.src := by
  by_cases hs : s.src ≤ srcend
  · have hw : s.Within srcend 1 (lzssStep mem srcend s) := lzssStep_within hs
    rw [h] at hw
    obtain ⟨-, hlt, hle⟩ := hw
    omega
  · obtain ⟨s'', he⟩ : ∃ s'', lzssStep mem srcend s = .error s'' :=
      lzssStep_of_le (Nat.le_of_lt (Nat.lt_of_not_le hs))
    rw [h] at he
    cases he

/-- The decoder's `for (;;)`, run to its `break`.
Source: `hw/arm/apple-silicon/lzss.h` `decompress_lzss`
Kind: D -/
def lzssLoop (mem : Mem) (srcend : ℕ) (s : LzssState) : LzssState :=
  match h : lzssStep mem srcend s with
  | .error s' => s'
  | .ok s' =>
    -- each pass reads at least one byte
    have := lzssStep_progress h
    lzssLoop mem srcend s'
termination_by srcend - s.src

theorem lzssLoop_of_ok {mem : Mem} {srcend : ℕ} {s s' : LzssState}
    (h : lzssStep mem srcend s = .ok s') : lzssLoop mem srcend s = lzssLoop mem srcend s' := by
  rw [lzssLoop]
  split <;> simp_all

theorem lzssLoop_of_error {mem : Mem} {srcend : ℕ} {s s' : LzssState}
    (h : lzssStep mem srcend s = .error s') : lzssLoop mem srcend s = s' := by
  rw [lzssLoop]
  split <;> simp_all

/-- Every run of the loop reads the input from its cursor to `srcend`, in order and each byte
once, and writes at most nine output bytes for each byte it reads.
Source: `hw/arm/apple-silicon/lzss.h` `decompress_lzss`. Kind: L -/
theorem lzssLoop_consumes (mem : Mem) (srcend : ℕ) (s : LzssState) (hs : s.src ≤ srcend) :
    s.Consumes (lzssLoop mem srcend s) ∧ (lzssLoop mem srcend s).src = srcend := by
  -- induction on the passes of the loop: each one is `lzssStep_within`
  induction s using lzssLoop.induct mem srcend with
  | case1 s s' h =>
    have hw : s.Within srcend 1 (lzssStep mem srcend s) := lzssStep_within hs
    rw [h] at hw
    rw [lzssLoop_of_error h]
    exact hw
  | case2 s s' h _ ih =>
    have hw : s.Within srcend 1 (lzssStep mem srcend s) := lzssStep_within hs
    rw [h] at hw
    obtain ⟨hc, -, hle⟩ := hw
    obtain ⟨hc', hsrc⟩ := ih hle
    rw [lzssLoop_of_ok h]
    exact ⟨hc.trans hc', hsrc⟩

/-- A run that starts with all its input read writes nothing more.
Source: `hw/arm/apple-silicon/lzss.h` `decompress_lzss`. Kind: L -/
theorem lzssLoop_dst_of_eq {mem : Mem} {srcend : ℕ} {s : LzssState} (hs : s.src = srcend) :
    (lzssLoop mem srcend s).dst = s.dst := by
  obtain ⟨hc, hsrc⟩ := lzssLoop_consumes mem srcend s hs.le
  have hlen := hc.dst_length
  rw [hsrc, hs, Nat.sub_self, Nat.mul_zero, Nat.add_zero] at hlen
  exact (hc.dst_prefix.eq_of_length (Nat.le_antisymm hc.dst_prefix.length_le hlen)).symm

/-- A pass whose flag register still holds a literal bit copies one byte.
Source: `hw/arm/apple-silicon/lzss.h` `decompress_lzss`. Kind: L -/
theorem lzssStep_literal {mem : Mem} {srcend : ℕ} {s : LzssState}
    (hbits : s.flags >>> 1 &&& 0x100 ≠ 0) (hlit : s.flags >>> 1 &&& 1 ≠ 0) (hs : s.src < srcend) :
    lzssStep mem srcend s = .ok (LzssState.emit
      { s with flags := s.flags >>> 1, src := s.src + 1, reads := s.reads ++ [s.src] }
      (mem s.src)) := by
  simp [lzssStep, LzssState.refresh, LzssState.literal, LzssState.next, hbits, hlit, hs]

/-- A pass that refills the flag register from a byte whose low bit is set, then copies the
literal after it.
Source: `hw/arm/apple-silicon/lzss.h` `decompress_lzss`. Kind: L -/
theorem lzssStep_refill_literal {mem : Mem} {srcend : ℕ} {s : LzssState}
    (hrefill : s.flags >>> 1 &&& 0x100 = 0) (hlit : ((mem s.src).toUInt32 ||| 0xFF00) &&& 1 ≠ 0)
    (hs : s.src + 1 < srcend) :
    lzssStep mem srcend s = .ok (LzssState.emit
      { s with flags := (mem s.src).toUInt32 ||| 0xFF00, src := s.src + 1 + 1,
               reads := s.reads ++ [s.src] ++ [s.src + 1] }
      (mem (s.src + 1))) := by
  have hs' : s.src < srcend := by omega
  simp [lzssStep, LzssState.refresh, LzssState.literal, LzssState.next, hrefill, hlit, hs, hs']

/-- `decompress_lzss(dst, src, srclen)`: the state at the loop's `break`; its `dst` is what was
written through `dst`.
Source: `hw/arm/apple-silicon/lzss.h` `decompress_lzss`
Kind: D -/
def decompressLzss (mem : Mem) (src srclen : ℕ) : LzssState :=
  lzssLoop mem (src + srclen) (LzssState.init src)

/-- `return dst - dststart;` as the `int` the decoder returns: the count narrowed to 32 bits.
Source: `hw/arm/apple-silicon/lzss.h` `decompress_lzss`
Kind: D -/
def LzssState.decodedLength (s : LzssState) : ℤ := Int.bmod s.dst.length (2 ^ 32)

/-- The decoder reads exactly its `srclen` input bytes, in order, whatever they decode to.
Source: `hw/arm/apple-silicon/lzss.h` `decompress_lzss`. Kind: L -/
theorem decompressLzss_reads (mem : Mem) (src srclen : ℕ) :
    (decompressLzss mem src srclen).reads = List.range' src srclen := by
  obtain ⟨hc, hsrc⟩ := lzssLoop_consumes mem (src + srclen) (LzssState.init src) (by simp [LzssState.init])
  unfold decompressLzss
  rw [hc.reads, hsrc]
  simp [LzssState.init]

/-- Its output is bounded only by the input: at most nine bytes per input byte.
Source: `hw/arm/apple-silicon/lzss.h` `decompress_lzss`. Kind: L -/
theorem decompressLzss_dst_length (mem : Mem) (src srclen : ℕ) :
    (decompressLzss mem src srclen).dst.length ≤ 9 * srclen := by
  obtain ⟨hc, hsrc⟩ := lzssLoop_consumes mem (src + srclen) (LzssState.init src) (by simp [LzssState.init])
  unfold decompressLzss
  have h := hc.dst_length
  rw [hsrc] at h
  simpa [LzssState.init] using h

/-! ## The `complzss` branch of `extract_im4p_payload` -/

/-- `sizeof(LzssCompHeader)`: five words, eleven reserved words and the two names; `data[]`
starts here.
Source: `hw/arm/apple-silicon/lzss.h` `LzssCompHeader`
Kind: D -/
def LzssCompHeader.size : ℕ := 4 * 5 + 4 * 11 + 64 + 256

/-- `be32_to_cpu(comp_hdr->uncompressed_size)`: the big-endian word at offset 12.
Source: `hw/arm/apple-silicon/boot.c` `extract_im4p_payload`
Kind: D -/
def LzssCompHeader.uncompressedSize (payload : Mem) : ℕ := beValue (payload.read 12 4)

/-- `be32_to_cpu(comp_hdr->compressed_size)`: the big-endian word at offset 16.
Source: `hw/arm/apple-silicon/boot.c` `extract_im4p_payload`
Kind: D -/
def LzssCompHeader.compressedSize (payload : Mem) : ℕ := beValue (payload.read 16 4)

/-- What the `complzss` branch does with a payload of `len` bytes: the size of `decode_buffer`,
the decoder's run into it, whether it reports the failure (`error_fatal`), the offset and size of
the secure monitor it copies out, and the payload offsets it reads.
Source: `hw/arm/apple-silicon/boot.c` `extract_im4p_payload`
Kind: D -/
structure Im4pLzss where
  uncompressedSize : ℕ
  decoder : LzssState
  failed : Bool
  monitor : Option (ℕ × ℕ)
  reads : List ℕ

/-- The `complzss` branch of `extract_im4p_payload`, reached when the payload's first eight bytes
are `complzss`; `secureMonitor` is whether the caller passed `secure_monitor`. The reads are the
signature comparison, the two header words, the decoder's and the monitor's `memcpy`.
Source: `hw/arm/apple-silicon/boot.c` `extract_im4p_payload`
Kind: D -/
def extractIm4pLzss (payload : Mem) (len : ℕ) (secureMonitor : Bool) : Im4pLzss :=
  let uncompressedSize := LzssCompHeader.uncompressedSize payload
  let compressedSize := LzssCompHeader.compressedSize payload
  let decoder := decompressLzss payload LzssCompHeader.size compressedSize
  let decodedLength := decoder.decodedLength
  let monitorOff := compressedSize + LzssCompHeader.size
  let monitor := if secureMonitor ∧ monitorOff < len then some (monitorOff, len - monitorOff) else none
  { uncompressedSize, decoder, monitor
    -- `decoded_length != uncompressed_size` compares the int converted to a 64-bit `size_t`
    failed := decodedLength == 0 || (decodedLength % 2 ^ 64).toNat != uncompressedSize
    reads := List.range 8 ++ List.range' 12 8 ++ decoder.reads ++
      match monitor with
      | some (off, n) => List.range' off n
      | none => [] }

/-- The branch reads the whole stream the header announces, past the payload if need be: its
reads stay in `[0, len)` exactly when the header fits and so does the stream.
Source: `hw/arm/apple-silicon/boot.c` `extract_im4p_payload`. Kind: L -/
theorem extractIm4pLzss_reads_lt_iff (payload : Mem) (len : ℕ) (secureMonitor : Bool) :
    (∀ a ∈ (extractIm4pLzss payload len secureMonitor).reads, a < len) ↔
      20 ≤ len ∧ (LzssCompHeader.compressedSize payload = 0 ∨
        LzssCompHeader.size + LzssCompHeader.compressedSize payload ≤ len) := by
  have hmon : ∀ off n, (secureMonitor ∧ off < len) → n = len - off →
      ∀ a ∈ List.range' off n, a < len := by
    intro off n h hn a ha
    rw [List.mem_range'_1] at ha
    omega
  simp only [extractIm4pLzss, decompressLzss_reads]
  constructor
  · intro h
    have h19 : 19 < len := h 19 (by simp)
    refine ⟨h19, ?_⟩
    rcases Nat.eq_zero_or_pos (LzssCompHeader.compressedSize payload) with hz | hpos
    · exact .inl hz
    · -- the stream's last byte is read
      have hlast := h (LzssCompHeader.size + LzssCompHeader.compressedSize payload - 1) (by
        simp only [List.mem_append, List.mem_range'_1]
        exact .inl (.inr (by omega)))
      exact .inr (by omega)
  · rintro ⟨h20, hcs⟩ a ha
    simp only [List.mem_append, List.mem_range, List.mem_range'_1] at ha
    rcases ha with ((ha | ha) | ha) | ha
    · omega
    · omega
    · omega
    · split_ifs at ha with hm
      · exact hmon _ _ hm rfl a ha
      · simp at ha

/-- With fewer than `2 ^ 31` bytes written the decoder returns their count.
Source: `hw/arm/apple-silicon/lzss.h` `decompress_lzss`. Kind: L -/
theorem LzssState.decodedLength_of_lt (s : LzssState) (h : s.dst.length < 2 ^ 31) :
    s.decodedLength = s.dst.length := by
  unfold LzssState.decodedLength
  rw [Int.bmod_def, Int.emod_eq_of_lt (by omega) (by omega), if_pos (by omega)]

/-- For a decoding of fewer than `2 ^ 31` bytes, the branch reports a failure exactly when it
decoded nothing or not `uncompressed_size` bytes.
Source: `hw/arm/apple-silicon/boot.c` `extract_im4p_payload`. Kind: L -/
theorem extractIm4pLzss_failed_iff (payload : Mem) (len : ℕ) (secureMonitor : Bool)
    (h : (extractIm4pLzss payload len secureMonitor).decoder.dst.length < 2 ^ 31) :
    (extractIm4pLzss payload len secureMonitor).failed = true ↔
      (extractIm4pLzss payload len secureMonitor).decoder.dst.length = 0 ∨
      (extractIm4pLzss payload len secureMonitor).decoder.dst.length ≠
        (extractIm4pLzss payload len secureMonitor).uncompressedSize := by
  have hd := LzssState.decodedLength_of_lt _ h
  simp only [extractIm4pLzss] at h hd ⊢
  rw [hd, Int.emod_eq_of_lt (by omega) (by omega)]
  simp

/-- A stream of two literals under one flag byte is decoded in full, whatever the payload's length
and `uncompressed_size`: the branch reads the stream's last byte at offset `386` and fails
exactly when `uncompressed_size` is not `2`, after writing both bytes.
Source: `hw/arm/apple-silicon/boot.c` `extract_im4p_payload`. Kind: L -/
theorem lzss_extract_overruns (payload : Mem) (len : ℕ) (secureMonitor : Bool)
    (hcs : LzssCompHeader.compressedSize payload = 3) (hflags : payload LzssCompHeader.size = 0xFF) :
    (extractIm4pLzss payload len secureMonitor).decoder.dst = [payload 385, payload 386] ∧
    LzssCompHeader.size + 2 ∈ (extractIm4pLzss payload len secureMonitor).reads ∧
    ((extractIm4pLzss payload len secureMonitor).failed = false ↔
      LzssCompHeader.uncompressedSize payload = 2) := by
  have hfill : (payload LzssCompHeader.size).toUInt32 ||| 0xFF00 = 0xFFFF := by
    rw [hflags]; decide
  -- a refill whose low bit is set with the literal after it, then the literal on the next bit
  have hdec : (decompressLzss payload LzssCompHeader.size 3).dst = [payload 385, payload 386] := by
    unfold decompressLzss
    rw [lzssLoop_of_ok (lzssStep_refill_literal ?refill ?lit ?more),
      lzssLoop_of_ok (lzssStep_literal ?bits ?lit₂ ?more₂), lzssLoop_dst_of_eq ?done]
    case refill => decide
    case lit => simp only [LzssState.init, hfill]; decide
    case more => simp [LzssState.init, LzssCompHeader.size]
    case bits => simp only [LzssState.emit, LzssState.init, hfill]; decide
    case lit₂ => simp only [LzssState.emit, LzssState.init, hfill]; decide
    case more₂ => simp [LzssState.emit, LzssState.init, LzssCompHeader.size]
    case done => simp [LzssState.emit, LzssState.init, LzssCompHeader.size]
    rfl
  have hlen : (extractIm4pLzss payload len secureMonitor).decoder.dst.length < 2 ^ 31 := by
    simp [extractIm4pLzss, hcs, hdec]
  refine ⟨by simp [extractIm4pLzss, hcs, hdec], ?_, ?_⟩
  · simp [extractIm4pLzss, decompressLzss_reads, hcs, LzssCompHeader.size]
  · rw [← Bool.not_eq_true, extractIm4pLzss_failed_iff payload len secureMonitor hlen]
    simp [extractIm4pLzss, hcs, hdec, eq_comm]

/-- A `complzss` payload whose header announces two bytes decoded from a three-byte stream, with
the third byte at offset `386`.
Source: none: witness. Kind: D -/
def overrunPayload : Mem := fun a =>
  match a with
  | 0 => 0x63 | 1 => 0x6F | 2 => 0x6D | 3 => 0x70 | 4 => 0x6C | 5 => 0x7A | 6 => 0x73 | 7 => 0x73
  | 15 => 2 | 19 => 3 | 384 => 0xFF | 385 => 0x41 | 386 => 0x42
  | _ => 0

/-- With `len = 386` the branch reads offset `386`, past the payload, and reports no failure. -/
theorem lzss_extract_overruns_past_payload :
    LzssCompHeader.compressedSize overrunPayload = 3 ∧ overrunPayload LzssCompHeader.size = 0xFF ∧
    LzssCompHeader.uncompressedSize overrunPayload = 2 ∧
    ((extractIm4pLzss overrunPayload 386 false).decoder.dst = [overrunPayload 385, overrunPayload 386] ∧
    LzssCompHeader.size + 2 ∈ (extractIm4pLzss overrunPayload 386 false).reads ∧
    ((extractIm4pLzss overrunPayload 386 false).failed = false ↔
      LzssCompHeader.uncompressedSize overrunPayload = 2)) :=
  ⟨by decide, by decide, by decide,
    lzss_extract_overruns overrunPayload 386 false (by decide) (by decide)⟩

end QemuAppleSilicon.Arm
