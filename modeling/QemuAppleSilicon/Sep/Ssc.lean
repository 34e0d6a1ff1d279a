import QemuAppleSilicon.Sep.Ecc
import QemuAppleSilicon.Lib.TracedRun

/-!
# The secure storage component on the SEP's I2C bus (`hw/arm/apple-silicon/sep.c`)

The SEP talks to the SSC over I2C. `apple_ssc_tx` appends each byte it is sent to `req_cmd`;
the second `apple_ssc_rx` of a response (`resp_cur = 1`) dispatches the request on its first
byte, checks its length against `ssc_request_sizes`, runs one of `answer_cmd_0x0` …
`answer_cmd_0x9` and leaves the answer in `resp_cmd`, which that read and the following ones
return byte by byte.

* `AppleSSCState` — the counters and buffers of the framing, around the `SscStore` the handlers
  keep: `ecc_keys`, `slot_hmac_key`, `kbkdf_keys` and `kbkdf_counter`, arrays of
  `KBKDF_KEY_MAX_SLOTS` entries, with `random_hmac_key`, `ecc_key_main` and the block device.
  The arrays are functions on `ℕ`: at an index past the last slot they hold what the C code
  would address there, and the model records every index it uses (`SscAccess`).
* `SscCrypto` — nettle's and GMP's functions and the host's random bytes, parameters: the
  results below hold whatever they compute.
* `sscAnswer` — the dispatch; `appleSscTx`, `appleSscRx` and `sscRun` — the bus.

Every handler but `answer_cmd_0x2_disconnect_sp` checks its slot and copy fields before it uses
them (`sscAnswer_inBounds`), and a request one of them finds out of range is answered with an
error and changes nothing (`sscAnswer_rejects_outOfRange`). `answer_cmd_0x2_disconnect_sp` takes
`request[1]` as a slot with no bound: `is_keyslot_valid` reads `ecc_keys[k]` and `kbkdf_keys[k]`
for every `k < 256`, and when those bytes are not zero the request is answered `OK` and they are
cleared, with `kbkdf_counter[k]` (`answerCmd0x2DisconnectSp_of_valid`). Over any run, those three
arrays at such an index are the only accesses out of bounds (`sscRun_accesses`).

The payloads nettle computes into the response (public keys, CMACs, ciphertexts, the signature)
and `cpsn` are not modelled: the model writes the four bytes of the prefix, and the `0xff` fill
of an error.
-/

namespace QemuAppleSilicon.Sep

open QemuAppleSilicon.Lib

/-! ## Sizes, offsets and flags -/

/-- Source: `include/hw/arm/apple-silicon/sep.h` `KBKDF_KEY_MAX_SLOTS`. Kind: D -/
def KBKDF_KEY_MAX_SLOTS : ℕ := 0x49

/-- Source: `include/hw/arm/apple-silicon/sep.h` `SSC_REQUEST_MAX_COPIES`. Kind: D -/
def SSC_REQUEST_MAX_COPIES : ℕ := 4

/-- Source: `include/hw/arm/apple-silicon/sep.h` `MSG_PREFIX_LENGTH`. Kind: D -/
def MSG_PREFIX_LENGTH : ℕ := 4

/-- Source: `include/hw/arm/apple-silicon/sep.h` `KBKDF_CMAC_OUTPUT_LEN`. Kind: D -/
def KBKDF_CMAC_OUTPUT_LEN : ℕ := 0x48

/-- Source: `include/hw/arm/apple-silicon/sep.h` `KBKDF_KEY_REQUEST_KEY_OFFSET`. Kind: D -/
def KBKDF_KEY_REQUEST_KEY_OFFSET : ℕ := 0x08

/-- Source: `include/hw/arm/apple-silicon/sep.h` `KBKDF_KEY_SEED_LENGTH`. Kind: D -/
def KBKDF_KEY_SEED_LENGTH : ℕ := 8

/-- Source: `include/hw/arm/apple-silicon/sep.h` `KBKDF_KEY_KEY_LENGTH`. Kind: D -/
def KBKDF_KEY_KEY_LENGTH : ℕ := 0x20

/-- Source: `include/hw/arm/apple-silicon/sep.h` `KBKDF_KEY_KEY_FILE_OFFSET`. Kind: D -/
def KBKDF_KEY_KEY_FILE_OFFSET : ℕ := 0x100

/-- Source: `include/hw/arm/apple-silicon/sep.h` `KBKDF_CMAC_LABEL_SIZE`. Kind: D -/
def KBKDF_CMAC_LABEL_SIZE : ℕ := 0x10

/-- Source: `include/hw/arm/apple-silicon/sep.h` `KBKDF_CMAC_CONTEXT_SIZE`. Kind: D -/
def KBKDF_CMAC_CONTEXT_SIZE : ℕ := MSG_PREFIX_LENGTH

/-- Source: `include/hw/arm/apple-silicon/sep.h` `AES_CCM_TAG_LENGTH`. Kind: D -/
def AES_CCM_TAG_LENGTH : ℕ := 0x10

/-- Source: `include/hw/arm/apple-silicon/sep.h` `AES_CCM_COUNTER_LENGTH`. Kind: D -/
def AES_CCM_COUNTER_LENGTH : ℕ := 4

/-- Source: `include/hw/arm/apple-silicon/sep.h` `CMD_METADATA_PAYLOAD_LENGTH`. Kind: D -/
def CMD_METADATA_PAYLOAD_LENGTH : ℕ := 0x20

/-- Source: `include/hw/arm/apple-silicon/sep.h` `CMD_METADATA_DATA_PAYLOAD_LENGTH`. Kind: D -/
def CMD_METADATA_DATA_PAYLOAD_LENGTH : ℕ := 0x40

/-- Source: `include/hw/arm/apple-silicon/sep.h` `SSC_MAX_RESPONSE_SIZE`. Kind: D -/
def SSC_MAX_RESPONSE_SIZE : ℕ := 0xc4

/-- nettle's `SHA256_DIGEST_SIZE`. Source: `hw/arm/apple-silicon/sep.c`. Kind: D -/
def SHA256_DIGEST_SIZE : ℕ := 0x20

/-- nettle's `AES_BLOCK_SIZE`, also `CMAC128_DIGEST_SIZE`. Source: `hw/arm/apple-silicon/sep.c`.
Kind: D -/
def AES_BLOCK_SIZE : ℕ := 0x10

/-- `sizeof(ssc->req_cmd)`, which is also `sizeof(ssc->resp_cmd)`.
Source: `include/hw/arm/apple-silicon/sep.h` `struct AppleSSCState`
Kind: D -/
def sscCmdBufferSize : ℕ := 1024

/-- Source: `include/hw/arm/apple-silicon/sep.h` `SSC_RESPONSE_FLAG_COMMAND_SIZE_MISMATCH`.
Kind: D -/
def SSC_RESPONSE_FLAG_COMMAND_SIZE_MISMATCH : UInt8 := 0x02

/-- Source: `include/hw/arm/apple-silicon/sep.h` `SSC_RESPONSE_FLAG_COMMAND_OR_FIELD_INVALID`.
Kind: D -/
def SSC_RESPONSE_FLAG_COMMAND_OR_FIELD_INVALID : UInt8 := 0x04

/-- Source: `include/hw/arm/apple-silicon/sep.h` `SSC_RESPONSE_FLAG_KEYSLOT_INVALID`. Kind: D -/
def SSC_RESPONSE_FLAG_KEYSLOT_INVALID : UInt8 := 0x08

/-- Source: `include/hw/arm/apple-silicon/sep.h` `SSC_RESPONSE_FLAG_CMAC_INVALID`. Kind: D -/
def SSC_RESPONSE_FLAG_CMAC_INVALID : UInt8 := 0x10

/-- Source: `include/hw/arm/apple-silicon/sep.h` `SSC_RESPONSE_FLAG_CURVE_INVALID`. Kind: D -/
def SSC_RESPONSE_FLAG_CURVE_INVALID : UInt8 := 0x20

/-- Source: `include/hw/arm/apple-silicon/sep.h` `SSC_RESPONSE_FLAG_OK`. Kind: D -/
def SSC_RESPONSE_FLAG_OK : UInt8 := 0x80

/-- The length of the request of each command, `SSC_REQUEST_SIZE_CMD_0x0` … `_0x9`.
Source: `hw/arm/apple-silicon/sep.c` `ssc_request_sizes`
Kind: D -/
def sscRequestSizes : List ℕ := [0x84, 0x74, 0x4, 0x34, 0x14, 0x54, 0x14, 0x4, 0x4, 0x4]

/-- The 16 label bytes of the session seed; the labels are read 16 bytes at a time.
Source: `hw/arm/apple-silicon/sep.c` `INFOSTR_AKE_SESSIONSEED`
Kind: D -/
def INFOSTR_AKE_SESSIONSEED : List UInt8 := "AKE_SessionSeed\n".toUTF8.data.toList

/-- Source: `hw/arm/apple-silicon/sep.c` `INFOSTR_AKE_MACKEY`. Kind: D -/
def INFOSTR_AKE_MACKEY : List UInt8 := "AKE_MACKey\n\n\n\n\n\n".toUTF8.data.toList

/-- Source: `hw/arm/apple-silicon/sep.c` `INFOSTR_AKE_EXTRACTORKEY`. Kind: D -/
def INFOSTR_AKE_EXTRACTORKEY : List UInt8 := "AKE_ExtractorKey".toUTF8.data.toList

/-! ## State -/

/-- A `struct ecc_scalar` as `buffer_is_zero` sees it: all zero bytes (never initialised, or
cleared by `clear_ecc_scalar`), initialised by `ecc_scalar_init` with no scalar set, or holding a
scalar.
Source: `hw/arm/apple-silicon/sep.c` `generate_ec_priv`, `clear_ecc_scalar`, `is_keyslot_valid`
Kind: D -/
inductive EccScalar
  | zero
  | init
  | set (k : ℕ)
  deriving DecidableEq, Repr

/-- The scalar `generate_ec_priv` leaves: initialised in any case, holding the scalar when
`ecc_scalar_set` took it.
Source: `hw/arm/apple-silicon/sep.c` `generate_ec_priv`
Kind: D -/
def EccScalar.ofGenerated : Option ℕ → EccScalar
  | some k => .set k
  | none => .init

/-- `generate_ec_priv` on the number `temp` that the random bytes or `priv` spell: the scalar
`temp + 1` when `ecc_scalar_set` accepts it (`0 < temp + 1 < q`), `none` when it returns `-1`.
Source: `hw/arm/apple-silicon/sep.c` `generate_ec_priv`
Kind: D -/
def generateEcPriv (temp : ℕ) : Option ℕ :=
  if temp + 1 < SECP384R1_Q then some (temp + 1) else none

/-- What the handlers take from nettle, GMP and the host, as functions of what the code hands
them. `rand n` is the `n`-th draw of `qemu_guest_getrandom_nofail` as `mpz_import` reads it.
Source: `hw/arm/apple-silicon/sep.c` (nettle `ecc_point_mul`, `hmac_sha256_*`, `cmac_aes256_*`,
`ccm_aes256_decrypt_message`; GMP `mpz_export`, `mpz_import`; `qemu_guest_getrandom_nofail`)
Kind: D -/
structure SscCrypto where
  rand : ℕ → ℕ
  eccPointMul : ℕ → EccPoint → EccPoint
  hmacSha256 : List UInt8 → List UInt8 → List UInt8
  cmacAes256 : List UInt8 → List UInt8 → List UInt8
  /-- key, nonce, authenticated data, tag and ciphertext; the plaintext when the tag checks -/
  ccmAes256Decrypt : List UInt8 → List UInt8 → List UInt8 → List UInt8 → List UInt8 →
    Option (List UInt8)
  mpzExport : Mem → ℕ → ℕ → Mem
  mpzImport : Mem → ℕ → ℕ → ℕ

/-- What the handlers keep: the main key, the per-slot scalars, HMAC keys, KBKDF keys and
counters, the session HMAC key, and the block device. `rngDraws` counts the random draws made so
far.
Source: `include/hw/arm/apple-silicon/sep.h` `struct AppleSSCState`
Kind: D -/
structure SscStore where
  eccKeyMain : EccScalar
  eccKeys : ℕ → EccScalar
  randomHmacKey : List UInt8
  slotHmacKey : ℕ → List UInt8
  kbkdfKeys : ℕ → List UInt8
  kbkdfCounter : ℕ → UInt32
  blk : Mem
  rngDraws : ℕ

/-- The SSC: the I2C framing around the store. The handlers read the request and change only
the store.
Source: `include/hw/arm/apple-silicon/sep.h` `struct AppleSSCState`
Kind: D -/
structure AppleSSCState where
  reqCur : ℕ
  respCur : ℕ
  reqCmd : Mem
  respCmd : Mem
  store : SscStore

/-- A cell of a slot array a handler touches, or a block-device offset it computes from a slot
(and a copy).
Source: `hw/arm/apple-silicon/sep.c` `answer_cmd_0x0_init1` … `answer_cmd_0x9_panic`
Kind: D -/
inductive SscAccess
  | eccKeys (k : ℕ)
  | slotHmacKey (k : ℕ)
  | kbkdfKeys (k : ℕ)
  | kbkdfCounter (k : ℕ)
  | blkData (slot copy : ℕ)
  | blkKey (slot : ℕ)
  deriving DecidableEq, Repr

/-- The access stays inside the arrays, and a block offset comes from a slot and a copy in range.
Source: `include/hw/arm/apple-silicon/sep.h` `KBKDF_KEY_MAX_SLOTS`, `SSC_REQUEST_MAX_COPIES`
Kind: D -/
def SscAccess.InBounds : SscAccess → Prop
  | .eccKeys k | .slotHmacKey k | .kbkdfKeys k | .kbkdfCounter k | .blkKey k =>
    k < KBKDF_KEY_MAX_SLOTS
  | .blkData k copy => k < KBKDF_KEY_MAX_SLOTS ∧ copy < SSC_REQUEST_MAX_COPIES

instance : DecidablePred SscAccess.InBounds := fun a =>
  match a with
  | .eccKeys k | .slotHmacKey k | .kbkdfKeys k | .kbkdfCounter k | .blkKey k =>
    inferInstanceAs (Decidable (k < KBKDF_KEY_MAX_SLOTS))
  | .blkData k copy =>
    inferInstanceAs (Decidable (k < KBKDF_KEY_MAX_SLOTS ∧ copy < SSC_REQUEST_MAX_COPIES))

/-- What a handler leaves: the flags of the last `do_response_prefix`, the state, and what it
touched, in order.
Source: `hw/arm/apple-silicon/sep.c` `answer_cmd_0x0_init1` … `answer_cmd_0x9_panic`
Kind: D -/
structure SscResult where
  flags : UInt8
  state : SscStore
  trace : List SscAccess

/-! ## The helpers of the handlers -/

/-- Source: QEMU `buffer_is_zero` (used by `hw/arm/apple-silicon/sep.c`). Kind: D -/
def bufferIsZero (b : List UInt8) : Bool := b.all fun x => x == 0

/-- A slot is in use when neither its ECC scalar nor its KBKDF keys are all zero. Both are
read: `ret &= ...` does not stop at the first.
Source: `hw/arm/apple-silicon/sep.c` `is_keyslot_valid`
Kind: D -/
def isKeyslotValid (s : SscStore) (kbkdfIndex : ℕ) : Bool :=
  (s.eccKeys kbkdfIndex != .zero) && !bufferIsZero (s.kbkdfKeys kbkdfIndex)

/-- The two cells `is_keyslot_valid` reads.
Source: `hw/arm/apple-silicon/sep.c` `is_keyslot_valid`
Kind: D -/
def keyslotReads (kbkdfIndex : ℕ) : List SscAccess :=
  [.eccKeys kbkdfIndex, .kbkdfKeys kbkdfIndex]

/-- The cells `aes_ccm_crypt` reads: the counter and the slot's keys.
Source: `hw/arm/apple-silicon/sep.c` `aes_ccm_crypt`
Kind: D -/
def ccmAccesses (kbkdfIndex : ℕ) : List SscAccess :=
  [.kbkdfCounter kbkdfIndex, .kbkdfKeys kbkdfIndex]

/-- The cells `generate_kbkdf_keys` and `answer_cmd_0x2_disconnect_sp` write: the scalar, the
keys and the counter of the slot.
Source: `hw/arm/apple-silicon/sep.c` `generate_kbkdf_keys`, `answer_cmd_0x2_disconnect_sp`
Kind: D -/
def kbkdfAccesses (kbkdfIndex : ℕ) : List SscAccess :=
  [.eccKeys kbkdfIndex, .kbkdfKeys kbkdfIndex, .kbkdfCounter kbkdfIndex]

/-- The KBKDF in counter mode over AES-CMAC: blocks of 16 bytes for counters `1, 2, …`, each the
CMAC of the big-endian counter, the 16 label bytes, a zero, the 4 context bytes and the
big-endian length in bits, the last one cut to what is left of `length`.
Source: `hw/arm/apple-silicon/sep.c` `kbkdf_generate_key`
Kind: D -/
def kbkdfGenerateKey (c : SscCrypto) (cmacKey label context : List UInt8) (length : ℕ) :
    List UInt8 :=
  (List.range ((length + AES_BLOCK_SIZE - 1) / AES_BLOCK_SIZE)).flatMap fun i =>
    (c.cmacAes256 cmacKey (beBytes (i + 1) 2 ++ label.take KBKDF_CMAC_LABEL_SIZE ++ [0] ++
      context.take KBKDF_CMAC_CONTEXT_SIZE ++ beBytes (length * 8) 2)).take
      (min AES_BLOCK_SIZE (length - AES_BLOCK_SIZE * i))

/-- The session keys of a slot: HMAC-SHA256 of the 48 bytes `output_ec_pub` gives for the shared
point, under `hmacKey`, expanded by the KBKDF into `kbkdf_keys[k]`; the counter restarts.
Source: `hw/arm/apple-silicon/sep.c` `generate_kbkdf_keys`
Kind: D -/
def generateKbkdfKeys (c : SscCrypto) (s : SscStore) (eccKey : ℕ) (eccPubPeer : EccPoint)
    (hmacKey label context : List UInt8) (kbkdfIndex : ℕ) : SscStore :=
  let derivedKey := c.hmacSha256 (hmacKey.take SHA256_DIGEST_SIZE)
    (kbkdfSharedKey c.mpzExport (c.eccPointMul eccKey eccPubPeer))
  { s with
    kbkdfKeys := Function.update s.kbkdfKeys kbkdfIndex
      (kbkdfGenerateKey c derivedKey label context KBKDF_CMAC_OUTPUT_LEN)
    kbkdfCounter := Function.update s.kbkdfCounter kbkdfIndex 0 }

/-- The decryption of a request with the request key of a slot: nonce and authenticated data
carry the big-endian counter, which is then incremented whether or not the tag checks. `data` is
the tag followed by the ciphertext.
Source: `hw/arm/apple-silicon/sep.c` `aes_ccm_crypt` (`encrypt = response_key = false`)
Kind: D -/
def aesCcmDecrypt (c : SscCrypto) (s : SscStore) (kbkdfIndex : ℕ) (pfx : List UInt8)
    (payloadLen : ℕ) (data : List UInt8) : Option (List UInt8) × SscStore :=
  let keys := s.kbkdfKeys kbkdfIndex
  let counterBe := beBytes (s.kbkdfCounter kbkdfIndex).toNat AES_CCM_COUNTER_LENGTH
  let key := (keys.drop KBKDF_KEY_REQUEST_KEY_OFFSET).take KBKDF_KEY_KEY_LENGTH
  let auth := pfx.take MSG_PREFIX_LENGTH ++ counterBe
  let nonce := keys.take KBKDF_KEY_SEED_LENGTH ++ counterBe
  (c.ccmAes256Decrypt key nonce auth (data.take AES_CCM_TAG_LENGTH)
      ((data.drop AES_CCM_TAG_LENGTH).take payloadLen),
    { s with kbkdfCounter :=
        Function.update s.kbkdfCounter kbkdfIndex (s.kbkdfCounter kbkdfIndex + 1) })

/-- The block-device offset of a copy of a data slot's metadata.
Source: `hw/arm/apple-silicon/sep.c` `answer_cmd_0x3_metadata_write` (`blk_offset`)
Kind: D -/
def blkOffset (slot copy : ℕ) : ℕ :=
  slot * CMD_METADATA_DATA_PAYLOAD_LENGTH * SSC_REQUEST_MAX_COPIES +
    copy * CMD_METADATA_DATA_PAYLOAD_LENGTH

/-- The block-device offset of a data slot's HMAC key.
Source: `hw/arm/apple-silicon/sep.c` `answer_cmd_0x3_metadata_write` (`key_offset`)
Kind: D -/
def keyOffset (slot : ℕ) : ℕ :=
  KBKDF_KEY_KEY_FILE_OFFSET * CMD_METADATA_DATA_PAYLOAD_LENGTH * SSC_REQUEST_MAX_COPIES +
    slot * KBKDF_KEY_KEY_LENGTH

/-! ## The handlers -/

/-- `init1`: a session on slot 0, which must be free, with the peer's key from the request.
Source: `hw/arm/apple-silicon/sep.c` `answer_cmd_0x0_init1`
Kind: D -/
def answerCmd0x0Init1 (c : SscCrypto) (req : Mem) (s : SscStore) : SscResult :=
  -- the slot of `init1` is hardcoded
  let kbkdfIndex := 0
  if isKeyslotValid s kbkdfIndex then
    ⟨SSC_RESPONSE_FLAG_KEYSLOT_INVALID, s, keyslotReads kbkdfIndex⟩
  else
    match inputEcPub c.mpzImport req (MSG_PREFIX_LENGTH + SHA256_DIGEST_SIZE) with
    | none => ⟨SSC_RESPONSE_FLAG_CURVE_INVALID, s, keyslotReads kbkdfIndex⟩
    | some cmd0Ecpub =>
      let key := generateEcPriv (c.rand s.rngDraws)
      let s₁ := { s with
        eccKeys := Function.update s.eccKeys kbkdfIndex (EccScalar.ofGenerated key)
        rngDraws := s.rngDraws + 1 }
      match key with
      | none => ⟨SSC_RESPONSE_FLAG_CURVE_INVALID, s₁, keyslotReads kbkdfIndex ++ [.eccKeys kbkdfIndex]⟩
      | some k =>
        let randomHmacKey := req.read MSG_PREFIX_LENGTH SHA256_DIGEST_SIZE
        ⟨SSC_RESPONSE_FLAG_OK,
          generateKbkdfKeys c { s₁ with randomHmacKey := randomHmacKey } k cmd0Ecpub randomHmacKey
            INFOSTR_AKE_SESSIONSEED (req.read 0 MSG_PREFIX_LENGTH) kbkdfIndex,
          keyslotReads kbkdfIndex ++ [.eccKeys kbkdfIndex] ++ kbkdfAccesses kbkdfIndex⟩

/-- `connect_sp`: a session on the free slot `request[1]`, authenticated by a CMAC under keys
derived from the slot's HMAC key.
Source: `hw/arm/apple-silicon/sep.c` `answer_cmd_0x1_connect_sp`, `aes_keys_from_sp_key`,
`aes_cmac_prefix_public`
Kind: D -/
def answerCmd0x1ConnectSp (c : SscCrypto) (req : Mem) (s : SscStore) : SscResult :=
  let kbkdfIndex := (req 1).toNat
  if KBKDF_KEY_MAX_SLOTS ≤ kbkdfIndex then
    ⟨SSC_RESPONSE_FLAG_COMMAND_OR_FIELD_INVALID, s, []⟩
  else if isKeyslotValid s kbkdfIndex then
    ⟨SSC_RESPONSE_FLAG_KEYSLOT_INVALID, s, keyslotReads kbkdfIndex⟩
  else
    let swPublicXy2 := MSG_PREFIX_LENGTH + AES_BLOCK_SIZE
    match inputEcPub c.mpzImport req swPublicXy2 with
    | none => ⟨SSC_RESPONSE_FLAG_CURVE_INVALID, s, keyslotReads kbkdfIndex⟩
    | some cmd1Ecpub =>
      let key := generateEcPriv (c.rand s.rngDraws)
      let s₁ := { s with
        eccKeys := Function.update s.eccKeys kbkdfIndex (EccScalar.ofGenerated key)
        rngDraws := s.rngDraws + 1 }
      match key with
      | none => ⟨SSC_RESPONSE_FLAG_CURVE_INVALID, s₁, keyslotReads kbkdfIndex ++ [.eccKeys kbkdfIndex]⟩
      | some k =>
        let pfx := req.read 0 MSG_PREFIX_LENGTH
        let hmacKey := (s.slotHmacKey kbkdfIndex).take SHA256_DIGEST_SIZE
        let aesKeyMackeyReq := kbkdfGenerateKey c hmacKey INFOSTR_AKE_MACKEY pfx 0x20
        let aesKeyExtractorkeyReq := kbkdfGenerateKey c hmacKey INFOSTR_AKE_EXTRACTORKEY pfx 0x20
        let cmacReqIs := c.cmacAes256 aesKeyMackeyReq
          (pfx ++ req.read swPublicXy2 SECP384_PUBLIC_XY_SIZE)
        let touched := keyslotReads kbkdfIndex ++ [.eccKeys kbkdfIndex, .slotHmacKey kbkdfIndex]
        if req.read MSG_PREFIX_LENGTH AES_BLOCK_SIZE ≠ cmacReqIs.take AES_BLOCK_SIZE then
          ⟨SSC_RESPONSE_FLAG_CMAC_INVALID, s₁, touched⟩
        else
          ⟨SSC_RESPONSE_FLAG_OK,
            generateKbkdfKeys c s₁ k cmd1Ecpub aesKeyExtractorkeyReq INFOSTR_AKE_SESSIONSEED pfx
              kbkdfIndex,
            touched ++ kbkdfAccesses kbkdfIndex⟩

/-- `disconnect_sp`: the session of slot `request[1]` is closed, its scalar, keys and counter
cleared. The slot is not checked against `KBKDF_KEY_MAX_SLOTS`.
Source: `hw/arm/apple-silicon/sep.c` `answer_cmd_0x2_disconnect_sp`, `clear_ecc_scalar`
Kind: D -/
def answerCmd0x2DisconnectSp (req : Mem) (s : SscStore) : SscResult :=
  let kbkdfIndex := (req 1).toNat
  if !isKeyslotValid s kbkdfIndex then
    ⟨SSC_RESPONSE_FLAG_KEYSLOT_INVALID, s, keyslotReads kbkdfIndex⟩
  else
    ⟨SSC_RESPONSE_FLAG_OK,
      { s with
        eccKeys := Function.update s.eccKeys kbkdfIndex .zero
        kbkdfKeys := Function.update s.kbkdfKeys kbkdfIndex
          (List.replicate KBKDF_CMAC_OUTPUT_LEN 0)
        kbkdfCounter := Function.update s.kbkdfCounter kbkdfIndex 0 },
      keyslotReads kbkdfIndex ++ kbkdfAccesses kbkdfIndex⟩

/-- The checks `metadata_write` and `metadata_read` make before they decrypt, and the answer
when one fails: the copy `request[3]` against `copyLimit`, the key slot `request[1]` and its
keys, the data slot `request[2]`. The key slot is read only once it is in range (`||`).
Source: `hw/arm/apple-silicon/sep.c` `answer_cmd_0x3_metadata_write`,
`answer_cmd_0x6_metadata_read`
Kind: D -/
def metadataChecks (req : Mem) (s : SscStore) (copyLimit : ℕ) : Option SscResult :=
  let kbkdfIndexKey := (req 1).toNat
  let kbkdfIndexDataslot := (req 2).toNat
  let copy := (req 3).toNat
  if copyLimit ≤ copy then some ⟨SSC_RESPONSE_FLAG_COMMAND_OR_FIELD_INVALID, s, []⟩
  else if KBKDF_KEY_MAX_SLOTS ≤ kbkdfIndexKey then some ⟨SSC_RESPONSE_FLAG_KEYSLOT_INVALID, s, []⟩
  else if !isKeyslotValid s kbkdfIndexKey then
    some ⟨SSC_RESPONSE_FLAG_KEYSLOT_INVALID, s, keyslotReads kbkdfIndexKey⟩
  else if kbkdfIndexDataslot = 0 ∨ KBKDF_KEY_MAX_SLOTS ≤ kbkdfIndexDataslot then
    some ⟨SSC_RESPONSE_FLAG_KEYSLOT_INVALID, s, keyslotReads kbkdfIndexKey⟩
  else none

/-- The checks `metadata_data_read` and `metadata_data_write` make before they decrypt: the copy
`request[3]`, then the slot `request[1]`, which may not be 0, and its keys.
Source: `hw/arm/apple-silicon/sep.c` `answer_cmd_0x4_metadata_data_read`,
`answer_cmd_0x5_metadata_data_write`
Kind: D -/
def metadataDataChecks (req : Mem) (s : SscStore) : Option SscResult :=
  let kbkdfIndex := (req 1).toNat
  let copy := (req 3).toNat
  if SSC_REQUEST_MAX_COPIES ≤ copy then some ⟨SSC_RESPONSE_FLAG_COMMAND_OR_FIELD_INVALID, s, []⟩
  else if kbkdfIndex = 0 ∨ KBKDF_KEY_MAX_SLOTS ≤ kbkdfIndex then
    some ⟨SSC_RESPONSE_FLAG_KEYSLOT_INVALID, s, []⟩
  else if !isKeyslotValid s kbkdfIndex then
    some ⟨SSC_RESPONSE_FLAG_KEYSLOT_INVALID, s, keyslotReads kbkdfIndex⟩
  else none

/-- `metadata_write`: the HMAC key of data slot `request[2]`, decrypted under key slot
`request[1]`, kept in `slot_hmac_key` and on the block device, whose metadata copy is cleared.
Only copy 0 is taken (`copy > 0` is refused).
Source: `hw/arm/apple-silicon/sep.c` `answer_cmd_0x3_metadata_write`
Kind: D -/
def answerCmd0x3MetadataWrite (c : SscCrypto) (req : Mem) (s : SscStore) : SscResult :=
  match metadataChecks req s 1 with
  | some r => r
  | none =>
      let kbkdfIndexKey := (req 1).toNat
    let kbkdfIndexDataslot := (req 2).toNat
    let copy := (req 3).toNat
    let d := aesCcmDecrypt c s kbkdfIndexKey (req.read 0 MSG_PREFIX_LENGTH)
      CMD_METADATA_PAYLOAD_LENGTH
      (req.read MSG_PREFIX_LENGTH (AES_CCM_TAG_LENGTH + CMD_METADATA_PAYLOAD_LENGTH))
    let touched := keyslotReads kbkdfIndexKey ++ ccmAccesses kbkdfIndexKey
    match d.1 with
    | none => ⟨SSC_RESPONSE_FLAG_CMAC_INVALID, d.2, touched⟩
    | some reqDecOut =>
      ⟨SSC_RESPONSE_FLAG_OK,
        { d.2 with
          slotHmacKey := Function.update d.2.slotHmacKey kbkdfIndexDataslot reqDecOut
          blk := (d.2.blk.write (blkOffset kbkdfIndexDataslot copy)
              (List.replicate CMD_METADATA_DATA_PAYLOAD_LENGTH 0)).write
            (keyOffset kbkdfIndexDataslot) reqDecOut },
        touched ++ [.slotHmacKey kbkdfIndexDataslot, .blkData kbkdfIndexDataslot copy,
          .blkKey kbkdfIndexDataslot] ++ ccmAccesses kbkdfIndexKey⟩

/-- `metadata_data_read`: copy `request[3]` of slot `request[1]` read from the block device into
the (encrypted) response.
Source: `hw/arm/apple-silicon/sep.c` `answer_cmd_0x4_metadata_data_read`
Kind: D -/
def answerCmd0x4MetadataDataRead (c : SscCrypto) (req : Mem) (s : SscStore) : SscResult :=
  match metadataDataChecks req s with
  | some r => r
  | none =>
      let kbkdfIndex := (req 1).toNat
    let copy := (req 3).toNat
    let d := aesCcmDecrypt c s kbkdfIndex (req.read 0 MSG_PREFIX_LENGTH) 0
      (req.read MSG_PREFIX_LENGTH AES_CCM_TAG_LENGTH)
    let touched := keyslotReads kbkdfIndex ++ ccmAccesses kbkdfIndex
    match d.1 with
    | none => ⟨SSC_RESPONSE_FLAG_CMAC_INVALID, d.2, touched⟩
    | some _ =>
      ⟨SSC_RESPONSE_FLAG_OK, d.2, touched ++ [.blkData kbkdfIndex copy] ++ ccmAccesses kbkdfIndex⟩

/-- `metadata_data_write`: the decrypted payload written as copy `request[3]` of slot
`request[1]` on the block device.
Source: `hw/arm/apple-silicon/sep.c` `answer_cmd_0x5_metadata_data_write`
Kind: D -/
def answerCmd0x5MetadataDataWrite (c : SscCrypto) (req : Mem) (s : SscStore) : SscResult :=
  match metadataDataChecks req s with
  | some r => r
  | none =>
      let kbkdfIndex := (req 1).toNat
    let copy := (req 3).toNat
    let d := aesCcmDecrypt c s kbkdfIndex (req.read 0 MSG_PREFIX_LENGTH)
      CMD_METADATA_DATA_PAYLOAD_LENGTH
      (req.read MSG_PREFIX_LENGTH (AES_CCM_TAG_LENGTH + CMD_METADATA_DATA_PAYLOAD_LENGTH))
    let touched := keyslotReads kbkdfIndex ++ ccmAccesses kbkdfIndex
    match d.1 with
    | none => ⟨SSC_RESPONSE_FLAG_CMAC_INVALID, d.2, touched⟩
    | some reqDecOut =>
      ⟨SSC_RESPONSE_FLAG_OK, { d.2 with blk := d.2.blk.write (blkOffset kbkdfIndex copy) reqDecOut },
        touched ++ [.blkData kbkdfIndex copy] ++ ccmAccesses kbkdfIndex⟩

/-- `metadata_read`: the metadata copy of data slot `request[2]` read into the response, and its
HMAC key read back from the block device into `slot_hmac_key`.
Source: `hw/arm/apple-silicon/sep.c` `answer_cmd_0x6_metadata_read`
Kind: D -/
def answerCmd0x6MetadataRead (c : SscCrypto) (req : Mem) (s : SscStore) : SscResult :=
  match metadataChecks req s SSC_REQUEST_MAX_COPIES with
  | some r => r
  | none =>
      let kbkdfIndexKey := (req 1).toNat
    let kbkdfIndexDataslot := (req 2).toNat
    let copy := (req 3).toNat
    let d := aesCcmDecrypt c s kbkdfIndexKey (req.read 0 MSG_PREFIX_LENGTH) 0
      (req.read MSG_PREFIX_LENGTH AES_CCM_TAG_LENGTH)
    let touched := keyslotReads kbkdfIndexKey ++ ccmAccesses kbkdfIndexKey
    match d.1 with
    | none => ⟨SSC_RESPONSE_FLAG_CMAC_INVALID, d.2, touched⟩
    | some _ =>
      ⟨SSC_RESPONSE_FLAG_OK,
        { d.2 with
          slotHmacKey := Function.update d.2.slotHmacKey kbkdfIndexDataslot
            (d.2.blk.read (keyOffset kbkdfIndexDataslot) CMD_METADATA_PAYLOAD_LENGTH) },
        touched ++ [.blkData kbkdfIndexDataslot copy, .blkKey kbkdfIndexDataslot,
          .slotHmacKey kbkdfIndexDataslot] ++ ccmAccesses kbkdfIndexKey⟩

/-- The private key of `init0`, the hexadecimal `priv_str` of 96 `c`s.
Source: `hw/arm/apple-silicon/sep.c` `answer_cmd_0x7_init0`
Kind: D -/
def init0PrivStr : ℕ :=
  0xcccccccccccccccccccccccccccccccccccccccccccccccccccccccccccccccccccccccccccccccccccccccccccccccc

/-- `init0`: the main key set from `priv_str`.
Source: `hw/arm/apple-silicon/sep.c` `answer_cmd_0x7_init0`
Kind: D -/
def answerCmd0x7Init0 (_ : Mem) (s : SscStore) : SscResult :=
  let key := generateEcPriv init0PrivStr
  let s₁ := { s with eccKeyMain := EccScalar.ofGenerated key }
  match key with
  | none => ⟨SSC_RESPONSE_FLAG_CURVE_INVALID, s₁, []⟩
  | some _ => ⟨SSC_RESPONSE_FLAG_OK, s₁, []⟩

/-- Source: `hw/arm/apple-silicon/sep.c` `answer_cmd_0x8_sleep`. Kind: D -/
def answerCmd0x8Sleep (_ : Mem) (s : SscStore) : SscResult := ⟨SSC_RESPONSE_FLAG_OK, s, []⟩

/-- Source: `hw/arm/apple-silicon/sep.c` `answer_cmd_0x9_panic`. Kind: D -/
def answerCmd0x9Panic (_ : Mem) (s : SscStore) : SscResult := ⟨SSC_RESPONSE_FLAG_OK, s, []⟩

/-! ## The dispatch and the bus -/

/-- The handler of each command number.
Source: `hw/arm/apple-silicon/sep.c` `apple_ssc_rx`
Kind: D -/
def sscHandler (c : SscCrypto) : ℕ → Mem → SscStore → SscResult
  | 0 => answerCmd0x0Init1 c
  | 1 => answerCmd0x1ConnectSp c
  | 2 => answerCmd0x2DisconnectSp
  | 3 => answerCmd0x3MetadataWrite c
  | 4 => answerCmd0x4MetadataDataRead c
  | 5 => answerCmd0x5MetadataDataWrite c
  | 6 => answerCmd0x6MetadataRead c
  | 7 => answerCmd0x7Init0
  | 8 => answerCmd0x8Sleep
  | 9 => answerCmd0x9Panic
  -- not reached: `sscAnswer` refuses a command above 9 first
  | _ => fun _ s => ⟨SSC_RESPONSE_FLAG_COMMAND_OR_FIELD_INVALID, s, []⟩

/-- The answer to the `reqCur` bytes of request in `req`: refused when the command is above 9
or the request is not its length, else the command's handler.
Source: `hw/arm/apple-silicon/sep.c` `apple_ssc_rx`
Kind: D -/
def sscAnswer (c : SscCrypto) (reqCur : ℕ) (req : Mem) (s : SscStore) : SscResult :=
  let cmd := (req 0).toNat
  if 0x09 < cmd then ⟨SSC_RESPONSE_FLAG_COMMAND_OR_FIELD_INVALID, s, []⟩
  else if reqCur ≠ sscRequestSizes.getD cmd 0 then
    ⟨SSC_RESPONSE_FLAG_COMMAND_SIZE_MISMATCH, s, []⟩
  else sscHandler c cmd req s

/-- The first `SSC_MAX_RESPONSE_SIZE` bytes of the response cleared, then the command, the slot
byte (for commands up to 6), a zero and the flags.
Source: `hw/arm/apple-silicon/sep.c` `do_response_prefix`
Kind: D -/
def doResponsePrefix (request response : Mem) (flags : UInt8) : Mem :=
  let cmd := request 0
  let r := Function.update (response.write 0 (List.replicate SSC_MAX_RESPONSE_SIZE 0)) 0 cmd
  let r := if cmd ≤ 0x6 then Function.update r 1 (request 1) else r
  Function.update (Function.update r 2 0) 3 flags

/-- The read at `resp_cur = 1`, before it returns its byte: the request answered, the prefix
written (and the rest of the buffer filled with `0xff` unless the answer is `OK`), the request
buffer emptied.
Source: `hw/arm/apple-silicon/sep.c` `apple_ssc_rx`
Kind: D -/
def sscRespond (c : SscCrypto) (s : AppleSSCState) : AppleSSCState × List SscAccess :=
  let r := sscAnswer c s.reqCur s.reqCmd s.store
  let resp := doResponsePrefix s.reqCmd s.respCmd r.flags
  let resp := if resp 3 ≠ SSC_RESPONSE_FLAG_OK then
      resp.write MSG_PREFIX_LENGTH (List.replicate (sscCmdBufferSize - MSG_PREFIX_LENGTH) 0xff)
    else resp
  ({ s with reqCur := 0, reqCmd := (fun _ => 0), respCmd := resp, store := r.state }, r.trace)

/-- A read of the SSC: nothing past the buffer; the first read of a response starts it with the
command byte, the second answers the request; each returns the byte at `resp_cur`.
Source: `hw/arm/apple-silicon/sep.c` `apple_ssc_rx`
Kind: D -/
def appleSscRx (c : SscCrypto) (s : AppleSSCState) : UInt8 × AppleSSCState × List SscAccess :=
  if sscCmdBufferSize ≤ s.respCur then (0, s, [])
  else
    let s₁ := if s.respCur = 0 then
        { s with respCmd := Function.update (fun _ => 0) 0 (s.reqCmd 0) }
      else s
    let p := if s₁.respCur = 1 then sscRespond c s₁ else (s₁, [])
    (p.1.respCmd p.1.respCur, { p.1 with respCur := p.1.respCur + 1 }, p.2)

/-- A write to the SSC: the first byte of a request clears the response; each byte is appended
while the buffer has room.
Source: `hw/arm/apple-silicon/sep.c` `apple_ssc_tx`
Kind: D -/
def appleSscTx (s : AppleSSCState) (data : UInt8) : AppleSSCState :=
  let s₁ := if s.reqCur = 0 then { s with respCur := 0, respCmd := (fun _ => 0) } else s
  if sscCmdBufferSize ≤ s₁.reqCur then s₁
  else { s₁ with reqCmd := Function.update s₁.reqCmd s₁.reqCur data, reqCur := s₁.reqCur + 1 }

/-- What the SEP does on the bus: send a byte, or read one.
Source: `hw/arm/apple-silicon/sep.c` `apple_ssc_tx`, `apple_ssc_rx`
Kind: D -/
inductive SscEvent
  | tx (data : UInt8)
  | rx
  deriving DecidableEq, Repr

/-- Source: `hw/arm/apple-silicon/sep.c` `apple_ssc_tx`, `apple_ssc_rx`. Kind: D -/
def sscStep (c : SscCrypto) (s : AppleSSCState) : SscEvent → AppleSSCState × List SscAccess
  | .tx data => (appleSscTx s data, [])
  | .rx => ((appleSscRx c s).2.1, (appleSscRx c s).2.2)

/-- A run of bus events, with every access of every answer.
Source: `hw/arm/apple-silicon/sep.c` `apple_ssc_tx`, `apple_ssc_rx`
Kind: D -/
def sscRun (c : SscCrypto) (es : List SscEvent) (s : AppleSSCState) :
    Option (AppleSSCState × List SscAccess) :=
  tracedRun (fun e s => some (sscStep c s e)) es s

/-! ## What each handler touches -/

section handlers

variable (c : SscCrypto) (req : Mem) (s : SscStore)

/-- Every error flag differs from `OK`.
Source: `include/hw/arm/apple-silicon/sep.h` `SSC_RESPONSE_FLAG_*`
Kind: L -/
@[simp] theorem flags_ne_ok :
    SSC_RESPONSE_FLAG_COMMAND_SIZE_MISMATCH ≠ SSC_RESPONSE_FLAG_OK ∧
    SSC_RESPONSE_FLAG_COMMAND_OR_FIELD_INVALID ≠ SSC_RESPONSE_FLAG_OK ∧
    SSC_RESPONSE_FLAG_KEYSLOT_INVALID ≠ SSC_RESPONSE_FLAG_OK ∧
    SSC_RESPONSE_FLAG_CMAC_INVALID ≠ SSC_RESPONSE_FLAG_OK ∧
    SSC_RESPONSE_FLAG_CURVE_INVALID ≠ SSC_RESPONSE_FLAG_OK := by
  decide

theorem kbkdfAccesses_inBounds {k : ℕ} (hk : k < KBKDF_KEY_MAX_SLOTS) :
    ∀ a ∈ kbkdfAccesses k, a.InBounds := by
  simp [kbkdfAccesses, SscAccess.InBounds, hk]

/-- Source: `hw/arm/apple-silicon/sep.c` `answer_cmd_0x0_init1`. Kind: L -/
theorem answerCmd0x0Init1_inBounds : ∀ a ∈ (answerCmd0x0Init1 c req s).trace, a.InBounds := by
  have h0 : (0 : ℕ) < KBKDF_KEY_MAX_SLOTS := by decide
  simp only [answerCmd0x0Init1]
  split
  · simp [keyslotReads, SscAccess.InBounds, h0]
  · split
    · simp [keyslotReads, SscAccess.InBounds, h0]
    · split
      · simp [keyslotReads, SscAccess.InBounds, h0]
      · simp [keyslotReads, kbkdfAccesses, SscAccess.InBounds, h0]

/-- Source: `hw/arm/apple-silicon/sep.c` `answer_cmd_0x1_connect_sp`. Kind: L -/
theorem answerCmd0x1ConnectSp_inBounds :
    ∀ a ∈ (answerCmd0x1ConnectSp c req s).trace, a.InBounds := by
  simp only [answerCmd0x1ConnectSp]
  split
  · simp
  · -- past the bound check every access is at the slot `request[1]`
    have hk : (req 1).toNat < KBKDF_KEY_MAX_SLOTS := by omega
    split
    · simp [keyslotReads, SscAccess.InBounds, hk]
    · split
      · simp [keyslotReads, SscAccess.InBounds, hk]
      · split
        · simp [keyslotReads, SscAccess.InBounds, hk]
        · split <;> simp [keyslotReads, kbkdfAccesses, SscAccess.InBounds, hk]

/-- Every access of `disconnect_sp` is at the slot `request[1]`, whatever its value.
Source: `hw/arm/apple-silicon/sep.c` `answer_cmd_0x2_disconnect_sp`
Kind: L -/
theorem answerCmd0x2DisconnectSp_trace :
    ∀ a ∈ (answerCmd0x2DisconnectSp req s).trace, a ∈ kbkdfAccesses (req 1).toNat := by
  simp only [answerCmd0x2DisconnectSp]
  split <;> simp [keyslotReads, kbkdfAccesses]

/-- A failed check of `metadata_write` or `metadata_read` answers with an error, leaves the store
as it was, and has read only a key slot in range.
Source: `hw/arm/apple-silicon/sep.c` `answer_cmd_0x3_metadata_write`, `answer_cmd_0x6_metadata_read`
Kind: L -/
theorem metadataChecks_some {lim : ℕ} {r : SscResult} (h : metadataChecks req s lim = some r) :
    r.state = s ∧ r.flags ≠ SSC_RESPONSE_FLAG_OK ∧ ∀ a ∈ r.trace, a.InBounds := by
  simp only [metadataChecks] at h
  split_ifs at h with h₁ h₂ h₃ h₄ <;> cases h
  · exact ⟨rfl, by simp, by simp⟩
  · exact ⟨rfl, by simp, by simp⟩
  · exact ⟨rfl, by simp, by simp [keyslotReads, SscAccess.InBounds]; omega⟩
  · exact ⟨rfl, by simp, by simp [keyslotReads, SscAccess.InBounds]; omega⟩

/-- Past the checks of `metadata_write` and `metadata_read`, the copy is below the limit and
both slots are in range.
Source: `hw/arm/apple-silicon/sep.c` `answer_cmd_0x3_metadata_write`, `answer_cmd_0x6_metadata_read`
Kind: L -/
theorem metadataChecks_none {lim : ℕ} (h : metadataChecks req s lim = none) :
    (req 3).toNat < lim ∧ (req 1).toNat < KBKDF_KEY_MAX_SLOTS ∧ 0 < (req 2).toNat ∧
      (req 2).toNat < KBKDF_KEY_MAX_SLOTS := by
  simp only [metadataChecks] at h
  split_ifs at h with h₁ h₂ h₃ h₄
  exact ⟨by omega, by omega, by omega, by omega⟩

/-- Source: `hw/arm/apple-silicon/sep.c` `answer_cmd_0x4_metadata_data_read`,
`answer_cmd_0x5_metadata_data_write`. Kind: L -/
theorem metadataDataChecks_some {r : SscResult} (h : metadataDataChecks req s = some r) :
    r.state = s ∧ r.flags ≠ SSC_RESPONSE_FLAG_OK ∧ ∀ a ∈ r.trace, a.InBounds := by
  simp only [metadataDataChecks] at h
  split_ifs at h with h₁ h₂ h₃ <;> cases h
  · exact ⟨rfl, by simp, by simp⟩
  · exact ⟨rfl, by simp, by simp⟩
  · exact ⟨rfl, by simp, by simp [keyslotReads, SscAccess.InBounds]; omega⟩

/-- Source: `hw/arm/apple-silicon/sep.c` `answer_cmd_0x4_metadata_data_read`,
`answer_cmd_0x5_metadata_data_write`. Kind: L -/
theorem metadataDataChecks_none (h : metadataDataChecks req s = none) :
    (req 3).toNat < SSC_REQUEST_MAX_COPIES ∧ 0 < (req 1).toNat ∧
      (req 1).toNat < KBKDF_KEY_MAX_SLOTS := by
  simp only [metadataDataChecks] at h
  split_ifs at h with h₁ h₂ h₃
  exact ⟨by omega, by omega, by omega⟩

/-- Source: `hw/arm/apple-silicon/sep.c` `answer_cmd_0x3_metadata_write`. Kind: L -/
theorem answerCmd0x3MetadataWrite_inBounds :
    ∀ a ∈ (answerCmd0x3MetadataWrite c req s).trace, a.InBounds := by
  simp only [answerCmd0x3MetadataWrite]
  split
  · next r h => exact (metadataChecks_some req s h).2.2
  · next h =>
    obtain ⟨hcopy, hk, -, hd⟩ := metadataChecks_none req s h
    have hc : (req 3).toNat < SSC_REQUEST_MAX_COPIES := by unfold SSC_REQUEST_MAX_COPIES; omega
    split <;> simp [keyslotReads, ccmAccesses, SscAccess.InBounds, hk, hd, hc]

/-- Source: `hw/arm/apple-silicon/sep.c` `answer_cmd_0x4_metadata_data_read`. Kind: L -/
theorem answerCmd0x4MetadataDataRead_inBounds :
    ∀ a ∈ (answerCmd0x4MetadataDataRead c req s).trace, a.InBounds := by
  simp only [answerCmd0x4MetadataDataRead]
  split
  · next r h => exact (metadataDataChecks_some req s h).2.2
  · next h =>
    obtain ⟨hc, -, hk⟩ := metadataDataChecks_none req s h
    split <;> simp [keyslotReads, ccmAccesses, SscAccess.InBounds, hk, hc]

/-- Source: `hw/arm/apple-silicon/sep.c` `answer_cmd_0x5_metadata_data_write`. Kind: L -/
theorem answerCmd0x5MetadataDataWrite_inBounds :
    ∀ a ∈ (answerCmd0x5MetadataDataWrite c req s).trace, a.InBounds := by
  simp only [answerCmd0x5MetadataDataWrite]
  split
  · next r h => exact (metadataDataChecks_some req s h).2.2
  · next h =>
    obtain ⟨hc, -, hk⟩ := metadataDataChecks_none req s h
    split <;> simp [keyslotReads, ccmAccesses, SscAccess.InBounds, hk, hc]

/-- Source: `hw/arm/apple-silicon/sep.c` `answer_cmd_0x6_metadata_read`. Kind: L -/
theorem answerCmd0x6MetadataRead_inBounds :
    ∀ a ∈ (answerCmd0x6MetadataRead c req s).trace, a.InBounds := by
  simp only [answerCmd0x6MetadataRead]
  split
  · next r h => exact (metadataChecks_some req s h).2.2
  · next h =>
    obtain ⟨hc, hk, -, hd⟩ := metadataChecks_none req s h
    split <;> simp [keyslotReads, ccmAccesses, SscAccess.InBounds, hk, hd, hc]

/-- `metadata_write` takes only copy 0: where the other metadata commands refuse a copy of 4 or
more, it refuses any copy but 0, so an `OK` answer means `request[3] = 0`.
Source: `hw/arm/apple-silicon/sep.c` `answer_cmd_0x3_metadata_write`
Kind: L -/
theorem answerCmd0x3MetadataWrite_copy_eq_zero
    (h : (answerCmd0x3MetadataWrite c req s).flags = SSC_RESPONSE_FLAG_OK) : req 3 = 0 := by
  simp only [answerCmd0x3MetadataWrite] at h
  split at h
  · next r hr => exact absurd h (metadataChecks_some req s hr).2.1
  · next hr =>
    have hcopy := (metadataChecks_none req s hr).1
    exact UInt8.toNat_inj.mp (by simp only [UInt8.toNat_zero]; omega)

end handlers

/-! ## The dispatch -/

section dispatch

variable (c : SscCrypto) (reqCur : ℕ) (req : Mem) (s : SscStore)

/-- Every handler stays in bounds, but `disconnect_sp` given a slot past the arrays. One case per
command, as `sscHandler` has them.
Source: `hw/arm/apple-silicon/sep.c` `apple_ssc_rx`
Kind: L -/
theorem sscHandler_inBounds :
    ∀ n, ¬(n = 2 ∧ KBKDF_KEY_MAX_SLOTS ≤ (req 1).toNat) →
      ∀ a ∈ (sscHandler c n req s).trace, a.InBounds
  | 0, _ => answerCmd0x0Init1_inBounds c req s
  | 1, _ => answerCmd0x1ConnectSp_inBounds c req s
  | 2, h => fun a ha => by
    have hk : (req 1).toNat < KBKDF_KEY_MAX_SLOTS := by omega
    exact kbkdfAccesses_inBounds hk a (answerCmd0x2DisconnectSp_trace req s a ha)
  | 3, _ => answerCmd0x3MetadataWrite_inBounds c req s
  | 4, _ => answerCmd0x4MetadataDataRead_inBounds c req s
  | 5, _ => answerCmd0x5MetadataDataWrite_inBounds c req s
  | 6, _ => answerCmd0x6MetadataRead_inBounds c req s
  | 7, _ => by simp only [sscHandler, answerCmd0x7Init0]; split <;> simp
  | 8, _ => by simp [sscHandler, answerCmd0x8Sleep]
  | 9, _ => by simp [sscHandler, answerCmd0x9Panic]
  | _ + 10, _ => by simp [sscHandler]

/-- An answer touches only cells inside the slot arrays and block offsets of slots and copies in
range, unless it is a `disconnect_sp` whose `request[1]` is past the last slot.
Source: `hw/arm/apple-silicon/sep.c` `apple_ssc_rx`
Kind: L -/
theorem sscAnswer_inBounds (h : ¬((req 0).toNat = 2 ∧ KBKDF_KEY_MAX_SLOTS ≤ (req 1).toNat)) :
    ∀ a ∈ (sscAnswer c reqCur req s).trace, a.InBounds := by
  simp only [sscAnswer]
  split
  · simp
  · split
    · simp
    · exact sscHandler_inBounds c req s _ h

/-- Each access of an answer is in bounds, or it is one of the cells of `disconnect_sp` at a
slot past the arrays.
Source: `hw/arm/apple-silicon/sep.c` `apple_ssc_rx`, `answer_cmd_0x2_disconnect_sp`
Kind: L -/
theorem sscAnswer_accesses :
    ∀ a ∈ (sscAnswer c reqCur req s).trace,
      a.InBounds ∨ ∃ k, KBKDF_KEY_MAX_SLOTS ≤ k ∧ a ∈ kbkdfAccesses k := by
  intro a ha
  by_cases h : (req 0).toNat = 2 ∧ KBKDF_KEY_MAX_SLOTS ≤ (req 1).toNat
  · -- a disconnect past the arrays: its accesses are all at that slot
    refine Or.inr ⟨(req 1).toNat, h.2, ?_⟩
    simp only [sscAnswer, h.1] at ha
    split_ifs at ha
    · simp at ha
    · simp at ha
    · exact answerCmd0x2DisconnectSp_trace req s a ha
  · exact Or.inl (sscAnswer_inBounds c reqCur req s h a ha)

/-- A request of command `cmd` whose slot or copy field is past what the SSC keeps:
`request[1]` is a slot for commands 1 to 6, `request[2]` a data slot for 3 and 6, `request[3]` a
copy for 3 to 6.
Source: `hw/arm/apple-silicon/sep.c` `answer_cmd_0x1_connect_sp` … `answer_cmd_0x6_metadata_read`
Kind: D -/
def RequestOutOfRange (cmd : ℕ) (req : Mem) : Prop :=
  (1 ≤ cmd ∧ cmd ≤ 6 ∧ KBKDF_KEY_MAX_SLOTS ≤ (req 1).toNat) ∨
    ((cmd = 3 ∨ cmd = 6) ∧ KBKDF_KEY_MAX_SLOTS ≤ (req 2).toNat) ∨
    (3 ≤ cmd ∧ cmd ≤ 6 ∧ SSC_REQUEST_MAX_COPIES ≤ (req 3).toNat)

/-- An answer with an error flag that leaves the store as it was.
Source: `hw/arm/apple-silicon/sep.c` `do_response_prefix`
Kind: D -/
def SscResult.Rejects (s : SscStore) (r : SscResult) : Prop :=
  r.state = s ∧ r.flags ≠ SSC_RESPONSE_FLAG_OK

/-- A failed check of `metadata_write` or `metadata_read` rejects. -/
theorem rejects_of_metadataChecks {lim : ℕ} {r : SscResult} (h : metadataChecks req s lim = some r) :
    r.Rejects s :=
  ⟨(metadataChecks_some req s h).1, (metadataChecks_some req s h).2.1⟩

/-- A failed check of `metadata_data_read` or `metadata_data_write` rejects. -/
theorem rejects_of_metadataDataChecks {r : SscResult} (h : metadataDataChecks req s = some r) :
    r.Rejects s :=
  ⟨(metadataDataChecks_some req s h).1, (metadataDataChecks_some req s h).2.1⟩

/-- Every handler but `disconnect_sp` rejects a request with a field out of range, before it
changes anything. One case per command.
Source: `hw/arm/apple-silicon/sep.c` `answer_cmd_0x1_connect_sp` … `answer_cmd_0x6_metadata_read`
Kind: L -/
theorem sscHandler_rejects_outOfRange :
    ∀ n, n ≠ 2 → RequestOutOfRange n req → (sscHandler c n req s).Rejects s
  | 0, _, h | 7, _, h | 8, _, h | 9, _, h => by simp [RequestOutOfRange] at h
  | 1, _, h => by
    have hk : KBKDF_KEY_MAX_SLOTS ≤ (req 1).toNat := by simp [RequestOutOfRange] at h; omega
    simp [sscHandler, answerCmd0x1ConnectSp, hk, SscResult.Rejects]
  | 2, h2, _ => absurd rfl h2
  | 3, _, h => by
    simp only [sscHandler, answerCmd0x3MetadataWrite]
    split
    · next r hr => exact rejects_of_metadataChecks req s hr
    · next hr =>
      have := metadataChecks_none req s hr
      simp only [RequestOutOfRange, SSC_REQUEST_MAX_COPIES] at h
      omega
  | 4, _, h => by
    simp only [sscHandler, answerCmd0x4MetadataDataRead]
    split
    · next r hr => exact rejects_of_metadataDataChecks req s hr
    · next hr =>
      have := metadataDataChecks_none req s hr
      simp only [RequestOutOfRange] at h
      omega
  | 5, _, h => by
    simp only [sscHandler, answerCmd0x5MetadataDataWrite]
    split
    · next r hr => exact rejects_of_metadataDataChecks req s hr
    · next hr =>
      have := metadataDataChecks_none req s hr
      simp only [RequestOutOfRange] at h
      omega
  | 6, _, h => by
    simp only [sscHandler, answerCmd0x6MetadataRead]
    split
    · next r hr => exact rejects_of_metadataChecks req s hr
    · next hr =>
      have := metadataChecks_none req s hr
      simp only [RequestOutOfRange] at h
      omega
  | _ + 10, _, h => by simp [RequestOutOfRange] at h

/-- A request out of range for its command is answered with an error and changes nothing, for
every command but `disconnect_sp`.
Source: `hw/arm/apple-silicon/sep.c` `apple_ssc_rx`
Kind: L -/
theorem sscAnswer_rejects_outOfRange (h2 : (req 0).toNat ≠ 2)
    (h : RequestOutOfRange (req 0).toNat req) : (sscAnswer c reqCur req s).Rejects s := by
  simp only [sscAnswer]
  split
  · simp [SscResult.Rejects]
  · split
    · simp [SscResult.Rejects]
    · exact sscHandler_rejects_outOfRange c req s _ h2 h

/-- `disconnect_sp` on a slot whose scalar and keys are not all zero, in range or not: `OK`, and
the scalar, keys and counter of that index cleared.
Source: `hw/arm/apple-silicon/sep.c` `answer_cmd_0x2_disconnect_sp`
Kind: L -/
theorem answerCmd0x2DisconnectSp_of_valid (hv : isKeyslotValid s (req 1).toNat = true) :
    answerCmd0x2DisconnectSp req s =
      ⟨SSC_RESPONSE_FLAG_OK,
        { s with
          eccKeys := Function.update s.eccKeys (req 1).toNat .zero
          kbkdfKeys := Function.update s.kbkdfKeys (req 1).toNat
            (List.replicate KBKDF_CMAC_OUTPUT_LEN 0)
          kbkdfCounter := Function.update s.kbkdfCounter (req 1).toNat 0 },
        keyslotReads (req 1).toNat ++ kbkdfAccesses (req 1).toNat⟩ := by
  simp [answerCmd0x2DisconnectSp, hv]

end dispatch

/-! ## The bus -/

section bus

variable (c : SscCrypto) (s : AppleSSCState)

/-- The first byte of a request clears the response.
Source: `hw/arm/apple-silicon/sep.c` `apple_ssc_tx`
Kind: L -/
theorem appleSscTx_of_reqCur_eq_zero (b : UInt8) (h : s.reqCur = 0) :
    appleSscTx s b =
      { s with
        respCur := 0
        respCmd := fun _ => 0
        reqCmd := Function.update s.reqCmd 0 b
        reqCur := 1 } := by
  simp [appleSscTx, h, sscCmdBufferSize]

/-- A later byte is appended while the buffer has room.
Source: `hw/arm/apple-silicon/sep.c` `apple_ssc_tx`
Kind: L -/
theorem appleSscTx_of_lt (b : UInt8) (h0 : s.reqCur ≠ 0) (h : s.reqCur < sscCmdBufferSize) :
    appleSscTx s b = { s with reqCmd := Function.update s.reqCmd s.reqCur b, reqCur := s.reqCur + 1 } := by
  simp [appleSscTx, h0, Nat.not_le.mpr h]

/-- The first read of a response starts it with the command byte.
Source: `hw/arm/apple-silicon/sep.c` `apple_ssc_rx`
Kind: L -/
theorem appleSscRx_of_respCur_eq_zero (h : s.respCur = 0) :
    appleSscRx c s = (s.reqCmd 0,
      { s with respCmd := Function.update (fun _ => 0) 0 (s.reqCmd 0), respCur := 1 }, []) := by
  simp [appleSscRx, h, sscCmdBufferSize]

/-- Source: `hw/arm/apple-silicon/sep.c` `apple_ssc_rx`. Kind: L -/
theorem sscRespond_respCur : (sscRespond c s).1.respCur = s.respCur := by
  simp only [sscRespond]

/-- The second read answers the request.
Source: `hw/arm/apple-silicon/sep.c` `apple_ssc_rx`
Kind: L -/
theorem appleSscRx_of_respCur_eq_one (h : s.respCur = 1) :
    appleSscRx c s = ((sscRespond c s).1.respCmd 1, { (sscRespond c s).1 with respCur := 2 },
      (sscRespond c s).2) := by
  simp [appleSscRx, h, sscCmdBufferSize, sscRespond_respCur]

/-- The later reads return the response byte by byte.
Source: `hw/arm/apple-silicon/sep.c` `apple_ssc_rx`
Kind: L -/
theorem appleSscRx_of_lt (h2 : 2 ≤ s.respCur) (h : s.respCur < sscCmdBufferSize) :
    appleSscRx c s = (s.respCmd s.respCur, { s with respCur := s.respCur + 1 }, []) := by
  have h0 : s.respCur ≠ 0 := by omega
  have h1 : s.respCur ≠ 1 := by omega
  simp [appleSscRx, Nat.not_le.mpr h, h0, h1]

/-- A read passes on the accesses of the answer it makes, if it makes one.
Source: `hw/arm/apple-silicon/sep.c` `apple_ssc_rx`
Kind: L -/
theorem appleSscRx_trace :
    (appleSscRx c s).2.2 = [] ∨
      (appleSscRx c s).2.2 = (sscAnswer c s.reqCur s.reqCmd s.store).trace := by
  simp only [appleSscRx]
  split
  · exact Or.inl rfl
  · by_cases h0 : s.respCur = 0
    · simp [h0]
    · by_cases h1 : s.respCur = 1
      · simp [h1, sscRespond]
      · simp [h0, h1]

theorem sscRun_cons (e : SscEvent) (es : List SscEvent) :
    sscRun c (e :: es) s =
      (sscRun c es (sscStep c s e).1).map fun r => (r.1, (sscStep c s e).2 ++ r.2) := by
  simp only [sscRun, tracedRun_cons, Option.bind_some]

/-- Over any run of the bus, every access is in bounds or is one of the cells `disconnect_sp`
clears, at a slot past the arrays: the run lemma of `sscAnswer_accesses`, by the invariant rule.
Source: `hw/arm/apple-silicon/sep.c` `apple_ssc_tx`, `apple_ssc_rx`
Kind: L -/
theorem sscRun_accesses (es : List SscEvent) (s' : AppleSSCState) (tr : List SscAccess)
    (h : sscRun c es s = some (s', tr)) :
    ∀ a ∈ tr, a.InBounds ∨ ∃ k, KBKDF_KEY_MAX_SLOTS ≤ k ∧ a ∈ kbkdfAccesses k := by
  refine (tracedRun_invariant (fun _ => True) _ ?_ s (s', tr) trivial h).2
  intro e _ t r _ hr
  cases Option.some.inj hr
  refine ⟨trivial, ?_⟩
  cases e with
  | tx b => simp [sscStep]
  | rx =>
    rcases appleSscRx_trace c t with h | h
    · simp [sscStep, h]
    · simp only [sscStep, h]
      exact sscAnswer_accesses c _ _ _

/-- Bytes sent after the first byte of a request are appended to it.
Source: `hw/arm/apple-silicon/sep.c` `apple_ssc_tx`
Kind: L -/
theorem sscRun_tx_append (bs : List UInt8) :
    ∀ s : AppleSSCState, s.reqCur ≠ 0 → s.reqCur + bs.length ≤ sscCmdBufferSize →
      sscRun c (bs.map .tx) s =
        some ({ s with reqCmd := s.reqCmd.write s.reqCur bs, reqCur := s.reqCur + bs.length }, []) := by
  induction bs with
  | nil => intro s _ _; rfl
  | cons b bs ih =>
    intro s h0 hlen
    simp only [List.length_cons] at hlen
    rw [List.map_cons, sscRun_cons]
    simp only [sscStep, appleSscTx_of_lt s b h0 (by omega)]
    rw [ih _ (by simp) (by simp only; omega)]
    simp only [Option.map_some, List.nil_append, Mem.write, List.length_cons]
    congr 3
    omega

/-- Reads after the second one of a response only return its bytes.
Source: `hw/arm/apple-silicon/sep.c` `apple_ssc_rx`
Kind: L -/
theorem sscRun_rx_later (n : ℕ) :
    ∀ s : AppleSSCState, 2 ≤ s.respCur → s.respCur + n ≤ sscCmdBufferSize →
      sscRun c (List.replicate n .rx) s = some ({ s with respCur := s.respCur + n }, []) := by
  induction n with
  | zero => intro s _ _; rfl
  | succ n ih =>
    intro s h2 hlen
    rw [List.replicate_succ, sscRun_cons]
    simp only [sscStep, appleSscRx_of_lt c s h2 (by omega)]
    rw [ih _ (by simp only; omega) (by simp only; omega)]
    simp only [Option.map_some, List.nil_append]
    congr 3
    omega

theorem sscRun_append (es₁ es₂ : List SscEvent) :
    sscRun c (es₁ ++ es₂) s =
      (sscRun c es₁ s).bind fun r => (sscRun c es₂ r.1).map fun r' => (r'.1, r.2 ++ r'.2) :=
  tracedRun_append _ _ _

/-- A whole exchange on the bus: a request sent from an idle SSC, then read back with two reads or
more, is answered once, by `sscRespond` on the request as sent.
Source: `hw/arm/apple-silicon/sep.c` `apple_ssc_tx`, `apple_ssc_rx`
Kind: L -/
theorem sscRun_exchange (b : UInt8) (bs : List UInt8) (n : ℕ) (hidle : s.reqCur = 0)
    (hlen : bs.length + 1 ≤ sscCmdBufferSize) (hn : n + 2 ≤ sscCmdBufferSize) :
    let sent : AppleSSCState :=
      { s with
        respCur := 1
        respCmd := Function.update (fun _ => 0) 0 b
        reqCmd := s.reqCmd.write 0 (b :: bs)
        reqCur := bs.length + 1 }
    sscRun c ((b :: bs).map .tx ++ .rx :: .rx :: List.replicate n .rx) s =
      some ({ (sscRespond c sent).1 with respCur := n + 2 }, (sscRespond c sent).2) := by
  intro sent
  obtain ⟨reqCur, respCur, reqCmd, respCmd, store⟩ := s
  simp only at hidle
  subst hidle
  -- the first byte starts the request and clears the response; the others are appended
  have htx : sscRun c ((b :: bs).map .tx)
      ⟨0, respCur, reqCmd, respCmd, store⟩ =
      some (⟨bs.length + 1, 0, reqCmd.write 0 (b :: bs), fun _ => 0, store⟩, []) := by
    rw [List.map_cons, sscRun_cons]
    simp only [sscStep, appleSscTx_of_reqCur_eq_zero ⟨0, respCur, reqCmd, respCmd, store⟩ b rfl]
    rw [sscRun_tx_append c bs _ (by simp) (by simp only; omega)]
    simp only [Option.map_some, List.nil_append]
    rw [Nat.add_comm]
    rfl
  -- the first read starts the response with the command byte
  have hrx₁ : sscStep c ⟨bs.length + 1, 0, reqCmd.write 0 (b :: bs), fun _ => 0, store⟩ .rx =
      (sent, []) := by
    simp only [sscStep,
      appleSscRx_of_respCur_eq_zero c ⟨bs.length + 1, 0, reqCmd.write 0 (b :: bs), fun _ => 0, store⟩ rfl]
    have hb : reqCmd.write 0 (b :: bs) 0 = b := by
      rw [Mem.write, Mem.write_apply_of_lt _ _ Nat.zero_lt_one, Function.update_self]
    rw [hb]
  -- the second answers, the others only read
  have hrx₂ : sscStep c sent .rx = ({ (sscRespond c sent).1 with respCur := 2 }, (sscRespond c sent).2) := by
    simp only [sscStep, appleSscRx_of_respCur_eq_one c sent rfl]
  have hrest := sscRun_rx_later c n { (sscRespond c sent).1 with respCur := 2 } (by simp) (by simp only; omega)
  rw [sscRun_append, htx, Option.bind_some, sscRun_cons, hrx₁, sscRun_cons, hrx₂, hrest]
  simp only [Option.map_some, List.nil_append, List.append_nil]
  congr 3
  omega

/-- The flags byte of the prefix.
Source: `hw/arm/apple-silicon/sep.c` `do_response_prefix`
Kind: L -/
@[simp] theorem doResponsePrefix_three (request response : Mem) (flags : UInt8) :
    doResponsePrefix request response flags 3 = flags := by
  simp [doResponsePrefix]

/-- After the answer, byte 3 of the response is the answer's flags: the `0xff` fill of an error
starts past the prefix.
Source: `hw/arm/apple-silicon/sep.c` `apple_ssc_rx`
Kind: L -/
theorem sscRespond_respCmd_three :
    (sscRespond c s).1.respCmd 3 = (sscAnswer c s.reqCur s.reqCmd s.store).flags := by
  simp only [sscRespond]
  split
  · rw [Mem.write_apply_of_lt _ _ (by decide), doResponsePrefix_three]
  · exact doResponsePrefix_three _ _ _

/-- Every `disconnect_sp` reads `ecc_keys` at its slot.
Source: `hw/arm/apple-silicon/sep.c` `answer_cmd_0x2_disconnect_sp`, `is_keyslot_valid`
Kind: L -/
theorem eccKeys_mem_answerCmd0x2DisconnectSp (req : Mem) (t : SscStore) :
    SscAccess.eccKeys (req 1).toNat ∈ (answerCmd0x2DisconnectSp req t).trace := by
  simp only [answerCmd0x2DisconnectSp]
  split <;> simp [keyslotReads]

/-- A `disconnect_sp` request sent whole and read back, with a slot byte past the arrays: the
answer reads `ecc_keys[k]` out of bounds, and when the scalar and keys found at that index are
not all zero it is answered `OK` and clears them, with the counter.
Source: `hw/arm/apple-silicon/sep.c` `answer_cmd_0x2_disconnect_sp`, `apple_ssc_rx`
Kind: P -/
theorem disconnect_sp_slot_unchecked (c : SscCrypto) (s : AppleSSCState) (hidle : s.reqCur = 0)
    (k b₂ b₃ : UInt8) (hk : KBKDF_KEY_MAX_SLOTS ≤ k.toNat) :
    ∃ s' tr, sscRun c [.tx 2, .tx k, .tx b₂, .tx b₃, .rx, .rx, .rx, .rx] s = some (s', tr) ∧
      SscAccess.eccKeys k.toNat ∈ tr ∧ ¬ (SscAccess.eccKeys k.toNat).InBounds ∧
      (isKeyslotValid s.store k.toNat = true →
        s'.respCmd 3 = SSC_RESPONSE_FLAG_OK ∧ s'.store.eccKeys k.toNat = .zero ∧
        s'.store.kbkdfKeys k.toNat = List.replicate KBKDF_CMAC_OUTPUT_LEN 0 ∧
        s'.store.kbkdfCounter k.toNat = 0) := by
  have hrun := sscRun_exchange c s 2 [k, b₂, b₃] 2 hidle (by simp [sscCmdBufferSize])
    (by simp [sscCmdBufferSize])
  set req := s.reqCmd.write 0 [2, k, b₂, b₃] with hreq
  have hreq0 : req 0 = 2 := Mem.write_apply_of_mem s.reqCmd [2, k, b₂, b₃] 0 (by simp)
  have hreq1 : req 1 = k := Mem.write_apply_of_mem s.reqCmd [2, k, b₂, b₃] 1 (by simp)
  -- the exchange reaches `disconnect_sp` with the request as sent
  have hans : sscAnswer c ([k, b₂, b₃].length + 1) req s.store =
      answerCmd0x2DisconnectSp req s.store := by
    simp [sscAnswer, hreq0, sscRequestSizes, sscHandler]
  refine ⟨_, _, hrun, ?_, by simp [SscAccess.InBounds]; omega, fun hv => ?_⟩
  · simp only [sscRespond]
    rw [hans, ← hreq1]
    exact eccKeys_mem_answerCmd0x2DisconnectSp req s.store
  · have hres := answerCmd0x2DisconnectSp_of_valid req s.store (by rw [hreq1]; exact hv)
    rw [hreq1] at hres
    refine ⟨?_, ?_⟩
    · simp only
      rw [sscRespond_respCmd_three]
      simp only
      rw [hans, hres]
    · simp only [sscRespond]
      rw [hans, hres]
      simp

end bus

/-- An idle SSC whose `ecc_keys` and `kbkdf_keys` at index `0x49`, one past the last slot, are not
all zero bytes.
Source: `include/hw/arm/apple-silicon/sep.h` `struct AppleSSCState`
Kind: D -/
def sscPastSlotsNonzero : AppleSSCState :=
  ⟨0, 0, fun _ => 0, fun _ => 0,
    ⟨.zero, fun i => if i = 0x49 then .init else .zero, [], fun _ => [],
      fun i => if i = 0x49 then [1] else [], fun _ => 0, fun _ => 0, 0⟩⟩

/-- Primitives that compute nothing; `disconnect_sp` calls none of them.
Source: `hw/arm/apple-silicon/sep.c`
Kind: D -/
def sscNullCrypto : SscCrypto :=
  ⟨fun _ => 0, fun _ P => P, fun _ m => m, fun _ m => m, fun _ _ _ _ _ => none, fun m _ _ => m,
    fun _ _ _ => 0⟩

/-- The request `02 49 00 00` to that SSC. -/
theorem disconnect_sp_slot_unchecked_slot_49 :
    isKeyslotValid sscPastSlotsNonzero.store 0x49 = true ∧
    ∃ s' tr, sscRun sscNullCrypto [.tx 2, .tx 0x49, .tx 0, .tx 0, .rx, .rx, .rx, .rx]
        sscPastSlotsNonzero = some (s', tr) ∧
      SscAccess.eccKeys (0x49 : UInt8).toNat ∈ tr ∧
      ¬ (SscAccess.eccKeys (0x49 : UInt8).toNat).InBounds ∧
      (isKeyslotValid sscPastSlotsNonzero.store (0x49 : UInt8).toNat = true →
        s'.respCmd 3 = SSC_RESPONSE_FLAG_OK ∧ s'.store.eccKeys (0x49 : UInt8).toNat = .zero ∧
        s'.store.kbkdfKeys (0x49 : UInt8).toNat = List.replicate KBKDF_CMAC_OUTPUT_LEN 0 ∧
        s'.store.kbkdfCounter (0x49 : UInt8).toNat = 0) :=
  ⟨by decide,
    disconnect_sp_slot_unchecked sscNullCrypto sscPastSlotsNonzero rfl 0x49 0 0 (by decide)⟩

end QemuAppleSilicon.Sep
