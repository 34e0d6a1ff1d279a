import QemuAppleSilicon.Nvram.Env

/-!
# The NVRAM bank (`hw/nvram/apple_nvram.c`)

A bank is `len` bytes: a `0x20`-byte Apple header (a CHRP header named `"nvram"`, then the
`adler32` of everything from byte `0x14` on), then the partitions, each a 16-byte CHRP header
and its data in 16-byte units, then a free partition's header when there is room for one.

* `nvramPrepareBank` — `nvram_prepare_bank`: the headers and the data written in order into a
  zeroed buffer, with each header's checksum computed once its other fields are in place and
  the `adler32` last.
* `nvramParse` — `nvram_parse`: both checks, then `nvram_parse_partitions` from `0x20` until a
  free header, a failed check or the end, skipping a partition named `"APL,OSXPani"`.

A CHRP header: the signature (byte 0), the checksum of bytes `0` and `2–15` (byte 1), the
length in 16-byte units including the header (bytes 2–3, in host order), the name (bytes
4–15).
-/

namespace QemuAppleSilicon.Nvram

open QemuAppleSilicon.Lib QemuAppleSilicon.Qemu

/-! ## Checksums -/

/-- `chrp_checksum(header)` over the sixteen header bytes: byte `0`, then bytes `2–15` added one
at a time with the carry folded back into the low byte.
Source: `hw/nvram/apple_nvram.c` `chrp_checksum`
Kind: D -/
def chrpChecksum (hdr : List UInt8) : UInt8 :=
  let step (sum : ℕ) (b : UInt8) : ℕ :=
    let sum := sum + b.toNat
    (sum + ((sum &&& 0xff00) >>> 8)) &&& 0xff
  UInt8.ofNat (((hdr.drop 2).take 14).foldl step (hdr.getD 0 0).toNat &&& 0xff)

/-- The checksum of the header at `p`.
Source: `hw/nvram/apple_nvram.c` `chrp_checksum`
Kind: D -/
def chrpChecksumAt (m : Mem) (p : ℕ) : UInt8 := chrpChecksum (m.read p 16)

/-- zlib's `adler32(adler, buf, len)`: the two running sums modulo `65521`, the second in the
high half. zlib is outside the repository, so the model takes the checksum as a parameter; this
is the one a build links, for the examples.
Source: zlib `adler32`
Kind: D -/
def zlibAdler32 (adler : UInt32) (bs : List UInt8) : UInt32 :=
  let sums := bs.foldl
    (fun (s : ℕ × ℕ) x => ((s.1 + x.toNat) % 65521, (s.2 + (s.1 + x.toNat) % 65521) % 65521))
    (adler.toNat % 65536, adler.toNat / 65536)
  UInt32.ofNat (sums.2 * 65536 + sums.1)

-- The bank's checksum, zlib's `adler32(adler, buf, len)`: nothing below depends on what it
-- computes, only on the header storing what it returns.
variable (adler32 : UInt32 → List UInt8 → UInt32)

/-! ## Partitions and banks -/

/-- `CHRP_NVPART_FREE`.
Source: `include/hw/nvram/chrp_nvram.h` `CHRP_NVPART_FREE`
Kind: D -/
def CHRP_NVPART_FREE : UInt8 := 0x7f

/-- `APPLE_NVRAM_PANIC_NAME_TRUNCATED` and its zero byte: the twelve bytes `memcmp` compares.
Source: `include/hw/nvram/apple_nvram.h` `APPLE_NVRAM_PANIC_NAME_TRUNCATED`
Kind: D -/
def APPLE_NVRAM_PANIC_NAME_TRUNCATED : List UInt8 := asciiBytes "APL,OSXPani" ++ [0]

/-- A partition: its signature, its data of `len` bytes and its name, the C string in
`char name[16]`.
Source: `include/hw/nvram/apple_nvram.h` `NvramPartition`
Kind: D -/
structure NvramPartition where
  /-- `sig`. -/
  sig : UInt8
  /-- `len`. -/
  len : ℕ
  /-- `data`, `len` bytes. -/
  data : List UInt8
  /-- `name`. -/
  name : List UInt8
  data_length : data.length = len
  deriving DecidableEq

attribute [ext] NvramPartition

/-- A bank: its partitions in order and its length.
Source: `include/hw/nvram/apple_nvram.h` `NvramBank`
Kind: D -/
structure NvramBank where
  /-- `parts`. -/
  parts : List NvramPartition
  /-- `len`. -/
  len : ℕ
  deriving DecidableEq

/-- `nvram_find_part(bank, name)`: the first partition of that name.
Source: `hw/nvram/apple_nvram.c` `nvram_find_part`
Kind: D -/
def nvramFindPart (bank : NvramBank) (name : List UInt8) : Option NvramPartition :=
  bank.parts.find? fun p => p.name = name

/-! ## `nvram_prepare_bank` -/

/-- The fields of a CHRP header written at `offset`: the signature, the length, the name bytes,
then the checksum over what is there.
Source: `hw/nvram/apple_nvram.c` `nvram_prepare_bank` (`hdr->signature = …` to `hdr->checksum = …`)
Kind: D -/
def writeChrpHeader (buf : Mem) (offset : ℕ) (sig : UInt8) (len : UInt16) (name : List UInt8) :
    Mem :=
  let buf := Function.update buf offset sig
  let buf := stwLeP buf (offset + 2) len
  let buf := buf.write (offset + 4) name
  Function.update buf (offset + 1) (chrpChecksumAt buf offset)

/-- A partition's header length: `ROUND_UP(part->len + 0x10, 0x10) / 0x10`, stored in 16 bits.
Source: `hw/nvram/apple_nvram.c` `nvram_prepare_bank` (`hdr->len = …`)
Kind: D -/
def partHdrLen (p : NvramPartition) : UInt16 := UInt16.ofNat (roundUp (p.len + 0x10) 0x10 / 0x10)

/-- The partition loop of `nvram_prepare_bank` from `offset`: an empty partition is skipped, a
header or data past the end is `-1`, and otherwise the header (its name the first twelve
bytes of `char name[16]`) and the data are written and `offset` moves by the header's length.
Source: `hw/nvram/apple_nvram.c` `nvram_prepare_bank` (the `QTAILQ_FOREACH`)
Kind: D -/
def preparePartitions (len : ℕ) : List NvramPartition → ℕ → Mem → Option (Mem × ℕ)
  | [], offset, buf => some (buf, offset)
  | part :: parts, offset, buf =>
    if part.len = 0 then preparePartitions len parts offset buf
    else if len < offset + 16 then none
    else
      let buf := writeChrpHeader buf offset part.sig (partHdrLen part) (strncpyBytes part.name 12)
      if len < offset + 16 + part.len then none
      else preparePartitions len parts (offset + (partHdrLen part).toNat * 0x10)
        (buf.write (offset + 16) part.data)

/-- `nvram_prepare_bank(bank, &buffer, &len)`: the buffer of `bank->len` bytes, or `none` for
`-1`. The Apple header is a CHRP header of signature `0x5a`, length `2` and name `"nvram"`;
after the partitions comes a free header if it fits, and last the `adler32` from byte `0x14`.
Source: `hw/nvram/apple_nvram.c` `nvram_prepare_bank`
Kind: D -/
def nvramPrepareBank (bank : NvramBank) : Option Mem := do
  let buf := writeChrpHeader (fun _ => 0) 0 0x5a 0x2 (asciiBytes "nvram" ++ [0])
  -- `apple_hdr->generation = 0`
  let buf := stlLeP buf 0x14 0
  let (buf, offset) ← preparePartitions bank.len bank.parts 0x20 buf
  let buf :=
    if offset + 16 ≤ bank.len then
      writeChrpHeader buf offset CHRP_NVPART_FREE (UInt16.ofNat ((bank.len - offset) / 0x10)) []
    else buf
  some (stlLeP buf 0x10 (adler32 1 (buf.read 0x14 (bank.len - 0x14))))

/-! ## Reading a header back -/

/-- The checksum does not read byte `1`, where it is stored. -/
theorem chrpChecksum_set_one (hdr : List UInt8) (x : UInt8) :
    chrpChecksum (hdr.set 1 x) = chrpChecksum hdr := by
  rcases hdr with _ | ⟨a, _ | ⟨b, rest⟩⟩ <;> rfl

section Header

variable (buf : Mem) (offset : ℕ) (sig : UInt8) (len : UInt16) (name : List UInt8)

/-- **A written header's checksum is valid**, whatever was in the buffer: it is computed over
the other fifteen bytes, which storing it does not change. -/
theorem writeChrpHeader_checksum :
    writeChrpHeader buf offset sig len name (offset + 1) =
      chrpChecksumAt (writeChrpHeader buf offset sig len name) offset := by
  simp only [writeChrpHeader, Function.update_self, chrpChecksumAt, Mem.read_update,
    chrpChecksum_set_one]

theorem writeChrpHeader_sig : writeChrpHeader buf offset sig len name offset = sig := by
  simp only [writeChrpHeader]
  rw [Function.update_of_ne (by omega), Mem.write_apply_of_lt _ _ (by omega), stwLeP,
    Mem.write_apply_of_lt _ _ (by omega), Function.update_self]

/-- The stored length reads back: the name and the checksum are stored beside it. -/
theorem writeChrpHeader_len :
    lduwLeP (writeChrpHeader buf offset sig len name) (offset + 2) = len := by
  simp only [writeChrpHeader]
  rw [← lduwLeP_eq_of_agree ((Mem.unchanged_update _ _ _).agreeOn (Or.inr le_rfl)),
    ← lduwLeP_eq_of_agree ((Mem.unchanged_write _ _ _).agreeOn (Or.inl le_rfl)), lduwLeP_stwLeP]

/-- The stored name reads back. -/
theorem writeChrpHeader_name :
    (writeChrpHeader buf offset sig len name).read (offset + 4) name.length = name := by
  simp only [writeChrpHeader]
  rw [← ((Mem.unchanged_update _ (offset + 1) _).agreeOn (Or.inr (by omega))).read_eq,
    Mem.read_write_self]

/-- A header with a name of at most twelve bytes stays within its sixteen bytes. -/
theorem unchanged_writeChrpHeader (hname : name.length ≤ 12) :
    Mem.Unchanged buf (writeChrpHeader buf offset sig len name) offset (offset + 16) := by
  simp only [writeChrpHeader]
  have hsig := (Mem.unchanged_update buf offset sig).mono le_rfl (show offset + 1 ≤ offset + 16 by omega)
  have hlen := (unchanged_stwLeP (Function.update buf offset sig) (offset + 2) len).mono
    (show offset ≤ offset + 2 by omega) (show offset + 2 + 2 ≤ offset + 16 by omega)
  have hname' := (Mem.unchanged_write (stwLeP (Function.update buf offset sig) (offset + 2) len)
    (offset + 4) name).mono (show offset ≤ offset + 4 by omega)
    (show offset + 4 + name.length ≤ offset + 16 by omega)
  have hsum : ∀ x, Mem.Unchanged ((stwLeP (Function.update buf offset sig) (offset + 2) len).write
      (offset + 4) name) (Function.update ((stwLeP (Function.update buf offset sig) (offset + 2)
      len).write (offset + 4) name) (offset + 1) x) offset (offset + 16) := fun x =>
    (Mem.unchanged_update _ (offset + 1) x).mono (by omega) (by omega)
  exact ((hsig.trans hlen).trans hname').trans (hsum _)

/-- Any memory holding a written header's sixteen bytes holds a valid header of that signature. -/
theorem writeChrpHeader_valid_of_agree {F : Mem}
    (h : Mem.AgreeOn (writeChrpHeader buf offset sig len name) F offset (offset + 16)) :
    F (offset + 1) = chrpChecksumAt F offset ∧ F offset = sig := by
  refine ⟨?_, ?_⟩
  · rw [← h (offset + 1) (by omega) (by omega), writeChrpHeader_checksum, chrpChecksumAt,
      chrpChecksumAt, h.read_eq]
  · rw [← h offset le_rfl (by omega), writeChrpHeader_sig]

end Header

/-! ## `nvram_parse` -/

/-- The partition loop of `nvram_parse_partitions` from `offset`, with `fuel` rounds: stop at
the end, at a bad checksum or a bad length (keeping the partitions so far) and at a free header;
skip a partition named `"APL,OSXPani"`. Every round moves at least sixteen bytes, so `len`
rounds are enough.
Source: `hw/nvram/apple_nvram.c` `nvram_parse_partitions`
Kind: D -/
def nvramParsePartitions (len : ℕ) (buf : Mem) : ℕ → ℕ → List NvramPartition
  | 0, _ => []
  | fuel + 1, offset =>
    if len < offset + 16 then []
    else if buf (offset + 1) ≠ chrpChecksumAt buf offset then []
    else if buf offset = CHRP_NVPART_FREE then []
    else
      let hlen := (lduwLeP buf (offset + 2)).toNat
      if len < hlen * 0x10 + offset ∨ hlen < 1 then []
      else if buf.read (offset + 4) 12 = APPLE_NVRAM_PANIC_NAME_TRUNCATED then
        nvramParsePartitions len buf fuel (offset + hlen * 0x10)
      else
        ⟨buf offset, hlen * 0x10 - 0x10, buf.read (offset + 0x10) (hlen * 0x10 - 0x10),
          cString (buf.read (offset + 4) 16), Mem.read_length _ _ _⟩ ::
          nvramParsePartitions len buf fuel (offset + hlen * 0x10)

/-- `nvram_parse(buf, len)`: the bank, with no partitions when the header checksum or the
`adler32` fails.
Source: `hw/nvram/apple_nvram.c` `nvram_parse`
Kind: D -/
def nvramParse (buf : Mem) (len : ℕ) : NvramBank :=
  if buf 1 ≠ chrpChecksumAt buf 0 then ⟨[], len⟩
  else if adler32 1 (buf.read 0x14 (len - 0x14)) ≠ ldlLeP buf 0x10 then ⟨[], len⟩
  else ⟨nvramParsePartitions len buf len 0x20, len⟩

/-! ## The partition loop round trip -/

/-- A partition as `nvram_parse` returns it: the data zero-padded to whole 16-byte units. -/
def NvramPartition.padded (p : NvramPartition) : NvramPartition where
  sig := p.sig
  len := roundUp p.len 0x10
  data := p.data ++ List.replicate (roundUp p.len 0x10 - p.len) 0
  name := p.name
  data_length := by
    have := le_roundUp p.len (show 0 < 0x10 by decide)
    simp only [List.length_append, List.length_replicate, p.data_length]
    omega

@[simp] theorem NvramPartition.padded_data (p : NvramPartition) :
    p.padded.data = p.data ++ List.replicate (roundUp p.len 0x10 - p.len) 0 :=
  rfl

@[simp] theorem NvramPartition.padded_name (p : NvramPartition) : p.padded.name = p.name := rfl

/-- What a partition needs for `nvram_parse` to give it back: data, a signature other than the
free one, and a name of at most eleven bytes (so that its zero byte is in the header) that is not
the truncated panic name. -/
structure NvramPartition.Storable (p : NvramPartition) : Prop where
  len_ne_zero : p.len ≠ 0
  sig_ne_free : p.sig ≠ CHRP_NVPART_FREE
  name_cstr : 0 ∉ p.name
  name_length : p.name.length ≤ 11
  not_panic : ¬ asciiBytes "APL,OSXPani" <+: p.name

instance : DecidablePred NvramPartition.Storable := fun p =>
  decidable_of_iff (p.len ≠ 0 ∧ p.sig ≠ CHRP_NVPART_FREE ∧ 0 ∉ p.name ∧ p.name.length ≤ 11 ∧
      ¬ asciiBytes "APL,OSXPani" <+: p.name)
    ⟨fun ⟨h₁, h₂, h₃, h₄, h₅⟩ => ⟨h₁, h₂, h₃, h₄, h₅⟩,
      fun h => ⟨h.len_ne_zero, h.sig_ne_free, h.name_cstr, h.name_length, h.not_panic⟩⟩

/-- Where the partition loop stops: past the end, or at a valid free header. -/
def Terminates (len : ℕ) (buf : Mem) (offset : ℕ) : Prop :=
  len < offset + 16 ∨ (buf (offset + 1) = chrpChecksumAt buf offset ∧ buf offset = CHRP_NVPART_FREE)

/-- A storable partition's name bytes are not the panic name. -/
theorem NvramPartition.Storable.name_ne_panic {p : NvramPartition} (hp : p.Storable) :
    strncpyBytes p.name 12 ≠ APPLE_NVRAM_PANIC_NAME_TRUNCATED := by
  intro h
  have hname := cString_strncpyBytes hp.name_cstr (show p.name.length < 12 by
    have := hp.name_length
    omega)
  have hpanic : cString APPLE_NVRAM_PANIC_NAME_TRUNCATED = asciiBytes "APL,OSXPani" := by decide
  rw [h, hpanic] at hname
  exact hp.not_panic (hname ▸ List.prefix_refl _)

/-- A storable partition's header length in units, as the loop reads it back. -/
theorem partHdrLen_toNat {p : NvramPartition} (h : p.len < 0x10000) :
    (partHdrLen p).toNat = roundUp (p.len + 0x10) 0x10 / 0x10 := by
  rw [partHdrLen, UInt16.toNat_ofNat_of_lt' (by unfold roundUp; simp only [UInt16.size]; omega)]

/-- **One partition read back.** A memory that holds, over the partition's units, its header and
data in a buffer that was zero there, yields the padded partition and moves to the next one. -/
theorem nvramParsePartitions_of_prepared {len fuel offset : ℕ} {buf F : Mem} {p : NvramPartition}
    (hp : p.Storable) (hend : offset + 16 + p.len ≤ len) (hlen16 : 16 ∣ len) (hoff16 : 16 ∣ offset)
    (hsmall : len ≤ 0x2000)
    (hzero : ∀ x, offset + 16 + p.len ≤ x → x < len → buf x = 0)
    (hF : Mem.AgreeOn ((writeChrpHeader buf offset p.sig (partHdrLen p)
      (strncpyBytes p.name 12)).write (offset + 16) p.data) F offset
      (offset + (partHdrLen p).toNat * 0x10)) :
    nvramParsePartitions len F (fuel + 1) offset =
      p.padded :: nvramParsePartitions len F fuel (offset + (partHdrLen p).toNat * 0x10) := by
  set H := writeChrpHeader buf offset p.sig (partHdrLen p) (strncpyBytes p.name 12) with hH
  have hl := partHdrLen_toNat (p := p) (by omega)
  have hround := le_roundUp p.len (show 0 < 0x10 by decide)
  have hunits : (partHdrLen p).toNat * 0x10 = 0x10 + roundUp p.len 0x10 := by
    rw [hl]
    unfold roundUp at hround ⊢
    omega
  have hfits : offset + (partHdrLen p).toNat * 0x10 ≤ len := by
    rw [hunits]
    unfold roundUp at hround ⊢
    omega
  -- the header as written, and as `F` holds it
  have hHF : Mem.AgreeOn H F offset (offset + 16) :=
    ((Mem.unchanged_write H (offset + 16) p.data).agreeOn (Or.inl le_rfl)).trans
      (hF.mono le_rfl (by omega))
  have hname12 : (strncpyBytes p.name 12).length = 12 := strncpyBytes_length _ _
  have hcheck : F (offset + 1) = chrpChecksumAt F offset := by
    rw [← hHF (offset + 1) (by omega) (by omega), hH, writeChrpHeader_checksum, chrpChecksumAt,
      chrpChecksumAt, ← hH, hHF.read_eq]
  have hsig : F offset = p.sig := by
    rw [← hHF offset le_rfl (by omega), hH, writeChrpHeader_sig]
  have hlen : (lduwLeP F (offset + 2)).toNat = (partHdrLen p).toNat := by
    rw [← lduwLeP_eq_of_agree (hHF.mono (by omega) (by omega)), hH, writeChrpHeader_len]
  have hname : F.read (offset + 4) 12 = strncpyBytes p.name 12 := by
    have h := writeChrpHeader_name buf offset p.sig (partHdrLen p) (strncpyBytes p.name 12)
    rw [hname12] at h
    rw [← (hHF.mono (by omega) (by omega)).read_eq, hH, h]
  -- the data, then the zeros the buffer held up to the next unit
  have hdata : F.read (offset + 0x10) (roundUp p.len 0x10) = p.padded.data := by
    rw [← (hF.mono (by omega) (by omega)).read_eq,
      Mem.read_write_prefix _ _ _ (by rw [p.data_length]; omega), p.data_length]
    have hpad : H.read (offset + 16 + p.len) (roundUp p.len 0x10 - p.len) =
        List.replicate (roundUp p.len 0x10 - p.len) 0 := by
      apply Mem.read_eq_replicate_zero
      intro x hx₁ hx₂
      rw [hH, unchanged_writeChrpHeader buf offset _ _ _ (by rw [hname12]) x (Or.inr (by omega))]
      exact hzero x hx₁ (by omega)
    rw [hpad]
    rfl
  have hcname : cString (F.read (offset + 4) 16) = p.name := by
    have hzero12 : (0 : UInt8) ∈ strncpyBytes p.name 12 := by
      have := hp.name_length
      rw [strncpyBytes_of_le (by omega)]
      exact List.mem_append_right _ (List.mem_replicate.mpr ⟨by omega, rfl⟩)
    rw [show (16 : ℕ) = 12 + 4 from rfl, Mem.read_add, hname, cString_append_of_zero_mem _ hzero12,
      cString_strncpyBytes hp.name_cstr (by have := hp.name_length; omega)]
  -- every check of the loop passes, and the partition it builds is the padded one
  have hnotend : ¬ len < offset + 16 := by omega
  have hunit : ¬ (len < (lduwLeP F (offset + 2)).toNat * 0x10 + offset ∨
      (lduwLeP F (offset + 2)).toNat < 1) := by
    rw [hlen]
    omega
  rw [nvramParsePartitions, if_neg hnotend, if_neg (not_not.mpr hcheck), hsig, if_neg hp.sig_ne_free]
  dsimp only
  rw [if_neg hunit, hname, if_neg hp.name_ne_panic]
  congr 1
  · ext1
    · rfl
    · show (lduwLeP F (offset + 2)).toNat * 0x10 - 0x10 = roundUp p.len 0x10
      omega
    · show F.read (offset + 0x10) ((lduwLeP F (offset + 2)).toNat * 0x10 - 0x10) = _
      rw [hlen, show (partHdrLen p).toNat * 0x10 - 0x10 = roundUp p.len 0x10 by omega, hdata]
    · exact hcname
  · rw [hlen]

section Loop

variable {len : ℕ} (hlen16 : 16 ∣ len) (hsmall : len ≤ 0x2000)
include hlen16 hsmall

/-- One partition's units: its header and its data padded to whole units, at least two. -/
theorem partHdrLen_units {p : NvramPartition} {offset : ℕ} (hne : p.len ≠ 0) (hoff16 : 16 ∣ offset)
    (hend : offset + 16 + p.len ≤ len) :
    offset + 32 ≤ offset + (partHdrLen p).toNat * 0x10 ∧
      offset + 16 + p.len ≤ offset + (partHdrLen p).toNat * 0x10 ∧
      offset + (partHdrLen p).toNat * 0x10 ≤ len ∧ 16 ∣ offset + (partHdrLen p).toNat * 0x10 := by
  rw [partHdrLen_toNat (by omega)]
  unfold roundUp
  omega

/-- **What the partition loop of `nvram_prepare_bank` does when it succeeds**: it writes only
between `offset` and the offset it returns, which stays a whole unit within the bank and moves
at least 32 bytes per partition. -/
theorem preparePartitions_spec (parts : List NvramPartition) (hne : ∀ p ∈ parts, p.len ≠ 0) :
    ∀ (offset : ℕ) (buf buf' : Mem) (offset' : ℕ), 16 ∣ offset → offset ≤ len →
      preparePartitions len parts offset buf = some (buf', offset') →
        Mem.Unchanged buf buf' offset offset' ∧ offset + 32 * parts.length ≤ offset' ∧
          16 ∣ offset' ∧ offset' ≤ len := by
  induction parts with
  | nil =>
    intro offset buf buf' offset' hoff16 hoff h
    cases h
    exact ⟨Mem.Unchanged.refl _ _ _, by simp, hoff16, hoff⟩
  | cons p parts ih =>
    intro offset buf buf' offset' hoff16 hoff h
    have hp := hne p (by simp)
    simp only [preparePartitions, if_neg hp] at h
    split_ifs at h with h₁ h₂
    obtain ⟨hstep, hcover, hnext, hnext16⟩ := partHdrLen_units hlen16 hsmall hp hoff16 (by omega)
    obtain ⟨hrest, hmove, h16, hle⟩ :=
      ih (fun q hq => hne q (by simp [hq])) _ _ _ _ hnext16 hnext h
    -- the header and the data lie in the partition's units, before the rest
    have hhdr := (unchanged_writeChrpHeader buf offset p.sig (partHdrLen p) (strncpyBytes p.name 12)
      (by rw [strncpyBytes_length])).mono le_rfl (show offset + 16 ≤ offset' by omega)
    have hdata := (Mem.unchanged_write (writeChrpHeader buf offset p.sig (partHdrLen p)
      (strncpyBytes p.name 12)) (offset + 16) p.data).mono (show offset ≤ offset + 16 by omega)
      (show offset + 16 + p.data.length ≤ offset' by rw [p.data_length]; omega)
    refine ⟨(hhdr.trans hdata).trans (hrest.mono (by omega) le_rfl), ?_, h16, hle⟩
    simp only [List.length_cons]
    omega

/-- **The partitions read back.** Over a buffer that was zero from `offset` to the end, what the
partition loop of `nvram_prepare_bank` wrote is read back by `nvram_parse_partitions` as the
padded partitions, from any memory that holds those bytes and stops the loop where the
partitions end; by induction on the partitions, one `nvramParsePartitions_of_prepared` each. -/
theorem nvramParsePartitions_preparePartitions (parts : List NvramPartition)
    (hparts : ∀ p ∈ parts, p.Storable) :
    ∀ (offset : ℕ) (buf buf' : Mem) (offset' : ℕ), 16 ∣ offset → offset ≤ len →
      (∀ x, offset ≤ x → x < len → buf x = 0) →
      preparePartitions len parts offset buf = some (buf', offset') →
      ∀ (F : Mem) (fuel : ℕ), Mem.AgreeOn buf' F offset offset' → Terminates len F offset' →
        parts.length < fuel → nvramParsePartitions len F fuel offset = parts.map NvramPartition.padded := by
  induction parts with
  | nil =>
    intro offset buf buf' offset' _ _ _ h F fuel _ hterm hfuel
    cases h
    obtain ⟨f, rfl⟩ : ∃ f, fuel = f + 1 := ⟨fuel - 1, by simp at hfuel; omega⟩
    -- the loop stops at once: at the end, or at the free header
    rw [nvramParsePartitions, List.map_nil]
    rcases hterm with hend | ⟨hcheck, hfree⟩
    · rw [if_pos hend]
    · split_ifs <;> simp_all
  | cons p parts ih =>
    intro offset buf buf' offset' hoff16 hoff hzero h F fuel hF hterm hfuel
    have hp := hparts p (by simp)
    obtain ⟨f, rfl⟩ : ∃ f, fuel = f + 1 := ⟨fuel - 1, by simp at hfuel; omega⟩
    have hprep := h
    simp only [preparePartitions, if_neg hp.len_ne_zero] at h
    split_ifs at h with h₁ h₂
    obtain ⟨hstep, hcover, hnext, hnext16⟩ :=
      partHdrLen_units hlen16 hsmall hp.len_ne_zero hoff16 (by omega)
    obtain ⟨hrest, hmove, -, -⟩ := preparePartitions_spec hlen16 hsmall parts
      (fun q hq => (hparts q (by simp [hq])).len_ne_zero) _ _ _ _ hnext16 hnext h
    set buf₁ := (writeChrpHeader buf offset p.sig (partHdrLen p) (strncpyBytes p.name 12)).write
      (offset + 16) p.data with hbuf₁
    -- the partition's units hold what was written for it; the rest of the loop writes past them
    have hF₁ : Mem.AgreeOn buf₁ F offset (offset + (partHdrLen p).toNat * 0x10) :=
      (hrest.agreeOn (Or.inl le_rfl)).trans (hF.mono le_rfl (by omega))
    have hwritten : Mem.Unchanged buf buf₁ offset (offset + 16 + p.len) := by
      have hhdr := (unchanged_writeChrpHeader buf offset p.sig (partHdrLen p)
        (strncpyBytes p.name 12) (by rw [strncpyBytes_length])).mono le_rfl
        (show offset + 16 ≤ offset + 16 + p.len by omega)
      have hdata := (Mem.unchanged_write (writeChrpHeader buf offset p.sig (partHdrLen p)
        (strncpyBytes p.name 12)) (offset + 16) p.data).mono (show offset ≤ offset + 16 by omega)
        (show offset + 16 + p.data.length ≤ offset + 16 + p.len by rw [p.data_length])
      exact hhdr.trans hdata
    rw [nvramParsePartitions_of_prepared hp (by omega) hlen16 hoff16 hsmall
      (fun x hx₁ hx₂ => hzero x (by omega) hx₂) hF₁, List.map_cons]
    congr 1
    exact ih (fun q hq => hparts q (by simp [hq])) _ buf₁ buf' offset' hnext16 hnext
      (fun x hx₁ hx₂ => by rw [hwritten x (Or.inr (by omega))]; exact hzero x (by omega) hx₂) h F f
      (hF.mono (by omega) le_rfl) hterm (by simp at hfuel; omega)

end Loop

/-! ## The bank round trip -/

section Bank

variable {adler32} {bank : NvramBank} {buf : Mem}

/-- **What `nvram_prepare_bank` leaves, when it succeeds**: the Apple header with a valid
checksum, the `adler32` of the bytes after it, the partitions where the loop put them, a loop
stop after them, and nothing written outside the bank. -/
theorem nvramPrepareBank_spec (h16 : 16 ∣ bank.len) (hlo : 0x20 ≤ bank.len)
    (hsmall : bank.len ≤ 0x2000) (hne : ∀ p ∈ bank.parts, p.len ≠ 0)
    (h : nvramPrepareBank adler32 bank = some buf) :
    buf 1 = chrpChecksumAt buf 0 ∧ adler32 1 (buf.read 0x14 (bank.len - 0x14)) = ldlLeP buf 0x10 ∧
      Mem.Unchanged (fun _ => 0) buf 0 bank.len ∧
      ∃ (buf₂ : Mem) (offset' : ℕ),
        preparePartitions bank.len bank.parts 0x20
          (stlLeP (writeChrpHeader (fun _ => 0) 0 0x5a 0x2 (asciiBytes "nvram" ++ [0])) 0x14 0) =
            some (buf₂, offset') ∧
        Mem.AgreeOn buf₂ buf 0x20 offset' ∧ Terminates bank.len buf offset' := by
  set A := writeChrpHeader (fun _ => 0) 0 0x5a 0x2 (asciiBytes "nvram" ++ [0]) with hA
  simp only [nvramPrepareBank, Option.bind_eq_bind, Option.bind_eq_some_iff] at h
  obtain ⟨⟨buf₂, offset'⟩, hprep, h⟩ := h
  simp only [Option.some.injEq] at h
  subst h
  -- the Apple header, then `generation`: both below the partitions
  have hAunch : Mem.Unchanged (fun _ => 0) A 0 16 :=
    unchanged_writeChrpHeader _ _ _ _ _ (by decide)
  have hBunch := unchanged_stlLeP A 0x14 0
  obtain ⟨hU₂, hmove, -, hle⟩ := preparePartitions_spec h16 hsmall bank.parts hne 0x20 _ buf₂
    offset' (by decide) hlo hprep
  -- the free header, written only when it fits
  set C := if offset' + 16 ≤ bank.len then writeChrpHeader buf₂ offset' CHRP_NVPART_FREE
    (UInt16.ofNat ((bank.len - offset') / 0x10)) [] else buf₂ with hC
  have hCunch : Mem.Unchanged buf₂ C offset' (offset' + 16) := by
    by_cases hfit : offset' + 16 ≤ bank.len
    · rw [hC, if_pos hfit]
      exact unchanged_writeChrpHeader _ _ _ _ _ (by simp)
    · rw [hC, if_neg hfit]
      exact Mem.Unchanged.refl _ _ _
  have hFunch := unchanged_stlLeP C 0x10 (adler32 1 (C.read 0x14 (bank.len - 0x14)))
  refine ⟨?_, ?_, ?_, buf₂, offset', hprep, ?_, ?_⟩
  · -- the Apple header's sixteen bytes are never written again
    have hagree : Mem.AgreeOn A (stlLeP C 0x10 (adler32 1 (C.read 0x14 (bank.len - 0x14)))) 0 16 :=
      (((hBunch.agreeOn (Or.inl (by decide))).trans (hU₂.agreeOn (Or.inl (by decide)))).trans
        (hCunch.agreeOn (Or.inl (by omega)))).trans (hFunch.agreeOn (Or.inl le_rfl))
    exact (writeChrpHeader_valid_of_agree _ 0 _ _ _ hagree).1
  · rw [ldlLeP_stlLeP, ← (hFunch.agreeOn (Or.inr le_rfl)).read_eq]
  · have hCbank : Mem.Unchanged buf₂ C 0 bank.len := by
      by_cases hfit : offset' + 16 ≤ bank.len
      · exact hCunch.mono (by omega) hfit
      · rw [hC, if_neg hfit]
        exact Mem.Unchanged.refl _ _ _
    exact (((hAunch.mono le_rfl (by omega)).trans (hBunch.mono (by omega) (by omega))).trans
      ((hU₂.mono (by omega) hle).trans hCbank)).trans (hFunch.mono (by omega) (by omega))
  · exact (hCunch.agreeOn (Or.inl le_rfl)).trans (hFunch.agreeOn (Or.inr (by decide)))
  · by_cases hfit : offset' + 16 ≤ bank.len
    · -- the free header stops the loop
      have hfree : Mem.AgreeOn (writeChrpHeader buf₂ offset' CHRP_NVPART_FREE
          (UInt16.ofNat ((bank.len - offset') / 0x10)) []) C offset' (offset' + 16) :=
        fun x _ _ => by rw [hC, if_pos hfit]
      have hlast : Mem.AgreeOn C (stlLeP C 0x10 (adler32 1 (C.read 0x14 (bank.len - 0x14))))
          offset' (offset' + 16) :=
        hFunch.agreeOn (Or.inr (by omega))
      exact Or.inr (writeChrpHeader_valid_of_agree _ _ _ _ _ (hfree.trans hlast))
    · exact Or.inl (by omega)

/-- **The bank round trip**: a bank of storable partitions that `nvram_prepare_bank` writes,
`nvram_parse` reads back with each partition's data zero-padded to whole 16-byte units.
Source: `hw/nvram/apple_nvram.c` `nvram_prepare_bank`, `nvram_parse`
Kind: L -/
theorem nvramParse_nvramPrepareBank (h16 : 16 ∣ bank.len) (hlo : 0x20 ≤ bank.len)
    (hsmall : bank.len ≤ 0x2000) (hparts : ∀ p ∈ bank.parts, p.Storable)
    (h : nvramPrepareBank adler32 bank = some buf) :
    nvramParse adler32 buf bank.len = ⟨bank.parts.map NvramPartition.padded, bank.len⟩ := by
  have hne : ∀ p ∈ bank.parts, p.len ≠ 0 := fun p hp => (hparts p hp).len_ne_zero
  obtain ⟨hcheck, hadler, -, buf₂, offset', hprep, hagree, hterm⟩ :=
    nvramPrepareBank_spec h16 hlo hsmall hne h
  obtain ⟨-, hmove, -, hle⟩ := preparePartitions_spec h16 hsmall bank.parts hne 0x20 _ buf₂
    offset' (by decide) hlo hprep
  -- the partitions start on zeros: the Apple header ends at `0x18`
  have hzero : ∀ x, 0x20 ≤ x → x < bank.len →
      stlLeP (writeChrpHeader (fun _ => 0) 0 0x5a 0x2 (asciiBytes "nvram" ++ [0])) 0x14 0 x = 0 :=
    fun x hx _ => by
      rw [unchanged_stlLeP _ 0x14 0 x (Or.inr (by omega)),
        unchanged_writeChrpHeader _ _ _ _ _ (by decide) x (Or.inr (by omega))]
  rw [nvramParse, if_neg (not_not.mpr hcheck), if_neg (not_not.mpr hadler),
    nvramParsePartitions_preparePartitions h16 hsmall bank.parts hparts 0x20 _ buf₂ offset'
      (by decide) hlo hzero hprep buf bank.len hagree hterm (by omega)]

end Bank

end QemuAppleSilicon.Nvram
