import QemuAppleSilicon.Qemu.Base

/-!
# The WKdm page format (`target/arm/tcg/WKdm_internal.h`)

The constants, the dictionary hash and the bit packers shared by `WKdm_compress` and
`WKdm_decompress`, for the `TARGET_PAGE_BITS = 12` build of the Apple-silicon target: a page of
`1024` words.

* The dictionary: sixteen words, all `1` after `PRELOAD_DICTIONARY`; a word `w` is looked up in
  slot `hashLookupTable[(w >> 10) & 0xFF] / 4` (`dictSlot`, whose bound `hashToDictByteOffset_lt`
  checks once over the table).
* The packers `wkPack2bits`, `wkPack4bits`, `wkPack3Tenbits` and the unpackers: each packs a
  group of `4`, `2` or `3` words into one. The intermediate arrays of the source are `char`
  arrays read as words, `bytesToWords` on a little-endian host.
-/

namespace QemuAppleSilicon.Tcg.Wkdm

open QemuAppleSilicon.Lib QemuAppleSilicon.Qemu

/-! ## Layout -/

/-- `TARGET_PAGE_SIZE` (`TARGET_PAGE_BITS = 12`).
Source: `target/arm/cpu-param.h` `TARGET_PAGE_BITS`
Kind: D -/
def TARGET_PAGE_SIZE : ℕ := 4096

/-- `PAGE_SIZE_IN_WORDS`.
Source: `target/arm/tcg/WKdm_internal.h` `PAGE_SIZE_IN_WORDS`
Kind: D -/
def PAGE_SIZE_IN_WORDS : ℕ := TARGET_PAGE_SIZE / 4

/-- `HEADER_SIZE_IN_WORDS`.
Source: `target/arm/tcg/WKdm_internal.h` `HEADER_SIZE_IN_WORDS`
Kind: D -/
def HEADER_SIZE_IN_WORDS : ℕ := 3

/-- `TAGS_AREA_OFFSET`.
Source: `target/arm/tcg/WKdm_internal.h` `TAGS_AREA_OFFSET`
Kind: D -/
def TAGS_AREA_OFFSET : ℕ := 3

/-- `TAGS_AREA_SIZE`: `(256 * PAGE_SIZE_IN_KBYTES / 4) / 4` words.
Source: `target/arm/tcg/WKdm_internal.h` `TAGS_AREA_SIZE`
Kind: D -/
def TAGS_AREA_SIZE : ℕ := 256 * (TARGET_PAGE_SIZE / 1024) / 4 / 4

/-- `MZV_MAGIC`: the first word of a mostly-zero page.
Source: `target/arm/tcg/WKdm_internal.h` `MZV_MAGIC`
Kind: D -/
def MZV_MAGIC : UInt32 := 0x4321

/-- `LOW_BITS_MASK`.
Source: `target/arm/tcg/WKdm_internal.h` `LOW_BITS_MASK`
Kind: D -/
def LOW_BITS_MASK : UInt32 := 0x3FF

/-- `ZERO_TAG`.
Source: `target/arm/tcg/WKdm_internal.h` `ZERO_TAG`
Kind: D -/
def ZERO_TAG : UInt8 := 0

/-- `PARTIAL_TAG`.
Source: `target/arm/tcg/WKdm_internal.h` `PARTIAL_TAG`
Kind: D -/
def PARTIAL_TAG : UInt8 := 1

/-- `MISS_TAG`.
Source: `target/arm/tcg/WKdm_internal.h` `MISS_TAG`
Kind: D -/
def MISS_TAG : UInt8 := 2

/-- `EXACT_TAG`.
Source: `target/arm/tcg/WKdm_internal.h` `EXACT_TAG`
Kind: D -/
def EXACT_TAG : UInt8 := 3

/-! ## The dictionary -/

/-- `HASH_LOOKUP_TABLE_CONTENTS`: byte offsets into the dictionary.
Source: `target/arm/tcg/WKdm_internal.h` `HASH_LOOKUP_TABLE_CONTENTS`
Kind: D -/
def hashLookupTable : List ℕ :=
  [0, 52, 8, 56, 16, 12, 28, 20, 4, 36, 48, 24, 44, 40, 32, 60, 8, 12, 28, 20, 4, 60, 16, 36, 24,
    48, 44, 32, 52, 56, 40, 12, 8, 48, 16, 52, 60, 28, 56, 32, 20, 24, 36, 40, 44, 4, 8, 40, 60, 32,
    20, 44, 4, 36, 52, 24, 16, 56, 48, 12, 28, 16, 8, 40, 36, 28, 32, 12, 4, 44, 52, 20, 24, 48, 60,
    56, 40, 48, 8, 32, 28, 36, 4, 44, 20, 56, 60, 24, 52, 16, 12, 12, 4, 48, 20, 8, 52, 16, 60, 24,
    36, 44, 28, 56, 40, 32, 36, 20, 24, 60, 40, 44, 52, 16, 32, 4, 48, 8, 28, 56, 12, 28, 32, 40, 52,
    36, 16, 20, 48, 8, 4, 60, 24, 56, 44, 12, 8, 36, 24, 28, 16, 60, 20, 56, 32, 40, 48, 12, 4, 44,
    52, 44, 40, 12, 56, 8, 36, 24, 60, 28, 48, 4, 32, 20, 16, 52, 60, 12, 24, 36, 8, 4, 16, 56, 48,
    44, 40, 52, 32, 20, 28, 32, 12, 36, 28, 24, 56, 40, 16, 52, 44, 4, 20, 60, 8, 48, 48, 52, 12, 20,
    32, 44, 36, 28, 4, 40, 24, 8, 56, 60, 16, 36, 32, 8, 40, 4, 52, 24, 44, 20, 12, 28, 48, 56, 16,
    60, 4, 52, 60, 48, 20, 16, 56, 44, 24, 8, 40, 12, 32, 28, 36, 24, 32, 12, 4, 20, 16, 60, 36, 28,
    8, 52, 40, 48, 44, 56]

/-- `HASH_TO_DICT_BYTE_OFFSET(pattern)`.
Source: `target/arm/tcg/WKdm_internal.h` `HASH_TO_DICT_BYTE_OFFSET`
Kind: D -/
def hashToDictByteOffset (w : UInt32) : ℕ := hashLookupTable.getD ((w >>> 10) &&& 0xFF).toNat 0

/-- Every offset of the table stays inside the sixteen-word dictionary. -/
theorem hashToDictByteOffset_lt (w : UInt32) : hashToDictByteOffset w < 64 := by
  have htable : ∀ x ∈ hashLookupTable, x < 64 := by decide +kernel
  unfold hashToDictByteOffset
  rw [List.getD_eq_getElem?_getD]
  rcases h : hashLookupTable[((w >>> 10) &&& 0xFF).toNat]? with _ | x
  · simp
  · exact htable x (List.mem_of_getElem? h)

/-- The dictionary: `DictionaryElement dictionary[DICTIONARY_SIZE]`.
Source: `target/arm/tcg/WKdm_internal.h` `DictionaryElement`
Kind: D -/
abbrev Dictionary := Fin 16 → UInt32

/-- `PRELOAD_DICTIONARY`: every entry `1`.
Source: `target/arm/tcg/WKdm_internal.h` `PRELOAD_DICTIONARY`
Kind: D -/
def preloadDictionary : Dictionary := fun _ => 1

/-- The dictionary slot of a word: `dict_location - dictionary`.
Source: `target/arm/tcg/WKdmCompress.c` `WKdm_compress` (`dict_location = … HASH_TO_DICT_BYTE_OFFSET`)
Kind: D -/
def dictSlot (w : UInt32) : Fin 16 := ⟨hashToDictByteOffset w / 4, by
  have := hashToDictByteOffset_lt w
  omega⟩

/-! ## Word arrays and the packers -/

/-- A `char` array read as words (`(WK_word *) next_tag`) on a little-endian host. -/
def bytesToWords : List UInt8 → List UInt32
  | b₀ :: b₁ :: b₂ :: b₃ :: rest => UInt32.ofNat (leValue [b₀, b₁, b₂, b₃]) :: bytesToWords rest
  | _ => []

/-- `WK_pack_2bits`: four words of two-bit tags (one per byte) into one.
Source: `target/arm/tcg/WKdmCompress.c` `WK_pack_2bits`
Kind: D -/
def wkPack2bits : List UInt32 → List UInt32
  | a :: b :: c :: d :: rest => (a ||| b <<< 2 ||| c <<< 4 ||| d <<< 6) :: wkPack2bits rest
  | _ => []

/-- `WK_pack_4bits`: two words of four-bit queue positions into one.
Source: `target/arm/tcg/WKdmCompress.c` `WK_pack_4bits`
Kind: D -/
def wkPack4bits : List UInt32 → List UInt32
  | a :: b :: rest => (a ||| b <<< 4) :: wkPack4bits rest
  | _ => []

/-- `WK_pack_3_tenbits`: three ten-bit low-bit patterns into one word.
Source: `target/arm/tcg/WKdmCompress.c` `WK_pack_3_tenbits`
Kind: D -/
def wkPack3Tenbits : List UInt32 → List UInt32
  | a :: b :: c :: rest => (a ||| b <<< 10 ||| c <<< 20) :: wkPack3Tenbits rest
  | _ => []

/-- `TWO_BITS_PACKING_MASK`.
Source: `target/arm/tcg/WKdm_internal.h` `TWO_BITS_PACKING_MASK`
Kind: D -/
def TWO_BITS_PACKING_MASK : UInt32 := 0x03030303

/-- `FOUR_BITS_PACKING_MASK`.
Source: `target/arm/tcg/WKdm_internal.h` `FOUR_BITS_PACKING_MASK`
Kind: D -/
def FOUR_BITS_PACKING_MASK : UInt32 := 0x0F0F0F0F

/-- `WK_unpack_2bits`: each word into four words of tags.
Source: `target/arm/tcg/WKdmDecompress.c` `WK_unpack_2bits`
Kind: D -/
def wkUnpack2bits (ws : List UInt32) : List UInt32 :=
  ws.flatMap fun t =>
    [t &&& TWO_BITS_PACKING_MASK, (t >>> 2) &&& TWO_BITS_PACKING_MASK,
      (t >>> 4) &&& TWO_BITS_PACKING_MASK, (t >>> 6) &&& TWO_BITS_PACKING_MASK]

/-- `WK_unpack_4bits`: each word into two words of queue positions.
Source: `target/arm/tcg/WKdmDecompress.c` `WK_unpack_4bits`
Kind: D -/
def wkUnpack4bits (ws : List UInt32) : List UInt32 :=
  ws.flatMap fun t => [t &&& FOUR_BITS_PACKING_MASK, (t >>> 4) &&& FOUR_BITS_PACKING_MASK]

/-- `WK_unpack_3_tenbits`: each word into three low-bit patterns (the third unmasked).
Source: `target/arm/tcg/WKdmDecompress.c` `WK_unpack_3_tenbits`
Kind: D -/
def wkUnpack3Tenbits (ws : List UInt32) : List UInt32 :=
  ws.flatMap fun t => [t &&& LOW_BITS_MASK, (t >>> 10) &&& LOW_BITS_MASK, t >>> 20]

end QemuAppleSilicon.Tcg.Wkdm
