import Mathlib.Data.Fintype.Pi
import QemuAppleSilicon.Lib.Cbc
import QemuAppleSilicon.Lib.Ctr

/-!
# QEMU's cipher objects on the nettle backend (`crypto/cipher.c`, `crypto/cipher-nettle.c.inc`)

`qcrypto_cipher_new` creates a cipher object for an algorithm, a mode and a key: it checks the
mode, then that the algorithm is in range and the key has its length, and gives a context whose
IV is zero. The object's driver then encrypts and decrypts buffers of whole blocks in ECB, CBC or
CTR mode, and sets and reads the IV, which CBC and CTR carry from one call to the next; ECB has
no IV, and its `setiv` and `getiv` fail. The CTR driver decrypts with its encryption.

Failures go through an `Error **`. Into a local `Error *`, `errorSetg` stores the message, and a
second failure into the same slot fails `assert(*errp == NULL)` in `error_setv`: QEMU aborts.
Through `&error_abort` every failure aborts.

The AES block function is the parameter `AesBlockCipher`, on blocks `CipherBlock`. The SEP's
engine and the AES engine both create their cipher objects here, through `&error_abort`: a
failure aborts, which is `Except.toOption`.

* `qcryptoCipherNew_eq_ok_iff` — creation succeeds exactly for a known mode and algorithm and
  the algorithm's key length.
* `qcryptoCipherEncrypt_eq`, `qcryptoCipherDecrypt_eq` — past the length check, the driver's
  block function; neither changes the mode (`encryptBlocks_mode`, `decryptBlocks_mode`).
* `qcryptoCipherNew_cbc`, `qcryptoCipherSetiv_cbc` — a CBC object with its algorithm's key
  length is created, and takes an IV, without failing.
-/

namespace QemuAppleSilicon.Crypto

open QemuAppleSilicon.Lib

/-! ## Errors -/

/-- `error_setg(errp, msg)` into a local `Error *errp`: an empty slot takes the message; a slot
already set fails `assert(*errp == NULL)` and QEMU aborts (`none`).
Source: `util/error.c` `error_setv`
Kind: D -/
def errorSetg (errp : Option String) (msg : String) : Option (Option String) :=
  match errp with
  | none => some (some msg)
  | some _ => none

/-- A call that reports failure through a local `Error *errp`: its result and the slot, or on
failure no result and the slot `errorSetg` leaves.
Source: `util/error.c` `error_setv`
Kind: D -/
def callErrp {α : Type} (errp : Option String) : Except String α → Option (Option α × Option String)
  | .ok a => some (some a, errp)
  | .error msg => (errorSetg errp msg).map fun e => (none, e)

@[simp] theorem callErrp_ok {α : Type} (errp : Option String) (a : α) :
    callErrp errp (.ok a) = some (some a, errp) := rfl

/-- A failure into an empty slot is stored. -/
@[simp] theorem callErrp_error_none {α : Type} (msg : String) :
    callErrp (α := α) none (.error msg) = some (none, some msg) := rfl

/-- A second failure aborts. -/
@[simp] theorem callErrp_error_some {α : Type} (e msg : String) :
    callErrp (α := α) (some e) (.error msg) = none := rfl

/-! ## Blocks and algorithms -/

/-- A 16-byte block.
Source: `crypto/cipher-nettle.c.inc` (`AES_BLOCK_SIZE`)
Kind: D -/
abbrev CipherBlock := Fin 16 → UInt8

/-- Source: `hw/arm/apple-silicon/sep.c` `aess_handle_cmd` (`uint8_t iv[0x10] = { 0 }`). Kind: D -/
def zeroBlock : CipherBlock := fun _ => 0

/-- Exclusive or of two blocks, the combination of CBC and CTR mode.
Source: `crypto/cipher-nettle.c.inc` `DEFINE_CBC`
Kind: D -/
def blockXor (a b : CipherBlock) : CipherBlock := fun i => a i ^^^ b i

/-- The AES algorithms.
Source: `qapi/crypto.json` `QCryptoCipherAlgo`
Kind: D -/
inductive QCryptoCipherAlgo
  | aes128
  | aes192
  | aes256
  deriving DecidableEq, Repr

/-- Source: `crypto/cipher.c` `qcrypto_cipher_get_key_len`. Kind: D -/
def qcryptoCipherGetKeyLen : QCryptoCipherAlgo → ℕ
  | .aes128 => 16
  | .aes192 => 24
  | .aes256 => 32

/-- The AES block function under a key and its inverse, taken as parameters: the results below
hold whatever they compute.
Source: `crypto/cipher-nettle.c.inc` `aes128_encrypt_native` …
Kind: D -/
structure AesBlockCipher where
  encrypt : QCryptoCipherAlgo → List UInt8 → CipherBlock → CipherBlock
  decrypt : QCryptoCipherAlgo → List UInt8 → CipherBlock → CipherBlock

/-! ## Cipher objects -/

/-- The modes a cipher object is created in here (`xts` is never asked for).
Source: `qapi/crypto.json` `QCryptoCipherMode`
Kind: D -/
inductive QCryptoCipherMode
  | ecb
  | cbc
  | ctr
  deriving DecidableEq, Repr

/-- A cipher object: its algorithm, its mode (which driver it has), its key, and the IV
`ctx->iv` a CBC or CTR driver chains from.
Source: `crypto/cipher-nettle.c.inc` `QCryptoNettleAES128`
Kind: D -/
structure QCryptoCipher where
  alg : QCryptoCipherAlgo
  mode : QCryptoCipherMode
  key : List UInt8
  iv : CipherBlock

/-- `qcrypto_cipher_validate_key_length` outside XTS: the algorithm must be in range (`none` is
`QCRYPTO_CIPHER_ALGO__MAX`, `13`) and the key `alg_key_len` bytes long.
Source: `crypto/cipher.c` `qcrypto_cipher_validate_key_length`
Kind: D -/
def qcryptoCipherValidateKeyLength (alg : Option QCryptoCipherAlgo) (nkey : ℕ) :
    Except String QCryptoCipherAlgo :=
  match alg with
  | none => .error "Cipher algorithm 13 out of range"
  | some alg =>
    let want := qcryptoCipherGetKeyLen alg
    if want = nkey then .ok alg else .error s!"Cipher key length {nkey} should be {want}"

/-- `qcrypto_cipher_new` on the nettle backend (`qcrypto_cipher_ctx_new`): the mode first
(`none` is `QCRYPTO_CIPHER_MODE__MAX`, for which the message's `QCryptoCipherMode_str` fails an
assertion of its own), then the key length; the context is `g_new0`, so the IV starts at zero,
and the key schedule is set from the first `nkey` bytes of `key`.
Source: `crypto/cipher.c` `qcrypto_cipher_new`
Kind: D -/
def qcryptoCipherNew (alg : Option QCryptoCipherAlgo) (mode : Option QCryptoCipherMode)
    (key : List UInt8) (nkey : ℕ) : Except String QCryptoCipher :=
  match mode with
  | none => .error "Unsupported cipher mode"
  | some mode => do
    let alg ← qcryptoCipherValidateKeyLength alg nkey
    pure ⟨alg, mode, key.take nkey, zeroBlock⟩

/-- `qcrypto_cipher_setiv(cipher, iv, 16, errp)`: the ECB driver has `qcrypto_cipher_no_setiv`;
CBC and CTR store the IV (every call here passes the block size as `niv`).
Source: `crypto/cipher-nettle.c.inc` `DEFINE_SETIV`, `qcrypto_cipher_no_setiv`
Kind: D -/
def qcryptoCipherSetiv (c : QCryptoCipher) (iv : CipherBlock) : Except String QCryptoCipher :=
  match c.mode with
  | .ecb => .error "Setting IV is not supported"
  | .cbc | .ctr => .ok { c with iv := iv }

/-- `qcrypto_cipher_getiv(cipher, iv, 16, errp)`: the ECB driver has `qcrypto_cipher_no_getiv`.
Source: `crypto/cipher-nettle.c.inc` `DEFINE_GETIV`, `qcrypto_cipher_no_getiv`
Kind: D -/
def qcryptoCipherGetiv (c : QCryptoCipher) : Except String CipherBlock :=
  match c.mode with
  | .ecb => .error "Getting IV is not supported"
  | .cbc | .ctr => .ok c.iv

/-- `qcrypto_length_check(len, 16, errp)`.
Source: `crypto/cipher-nettle.c.inc` `qcrypto_length_check`
Kind: D -/
def qcryptoLengthCheck (len : ℕ) : Except String Unit :=
  if len &&& (16 - 1) ≠ 0 then .error s!"Length {len} must be a multiple of block size 16"
  else .ok ()

/-- nettle's `INCREMENT(16, ctr)`, from byte `i - 1` down: add one, and carry to the byte
before while the byte wraps to zero.
Source: `crypto/cipher-nettle.c.inc` `DEFINE_CTR` (nettle `ctr_crypt`)
Kind: D -/
def ctrIncrementFrom : ℕ → CipherBlock → CipherBlock
  | 0, b => b
  | i + 1, b =>
    let k : Fin 16 := Fin.ofNat 16 i
    let b := Function.update b k (b k + 1)
    if b k = 0 then ctrIncrementFrom i b else b

/-- The counter step of CTR mode: the block as a big-endian number, plus one.
Source: `crypto/cipher-nettle.c.inc` `DEFINE_CTR` (nettle `ctr_crypt`)
Kind: D -/
def ctrIncrement (b : CipherBlock) : CipherBlock := ctrIncrementFrom 16 b

example : ctrIncrement (fun i => if i = 15 then 0xff else 0) = fun i => if i = 14 then 1 else 0 := by
  decide

/-- What a driver's `cipher_encrypt` does once its length check has passed: ECB enciphers each
block, CBC chains from `ctx->iv` (`cbc_encrypt`), CTR combines the keystream from the counter
`ctx->iv` (`ctr_crypt`); CBC and CTR leave in `ctx->iv` where the next call continues.
Source: `crypto/cipher-nettle.c.inc` `DEFINE_ECB`, `DEFINE_CBC`, `DEFINE_CTR`
Kind: D -/
def encryptBlocks (bc : AesBlockCipher) (c : QCryptoCipher) (buf : List CipherBlock) :
    List CipherBlock × QCryptoCipher :=
  match c.mode with
  | .ecb => (buf.map (bc.encrypt c.alg c.key), c)
  | .cbc =>
    let r := cbcEncrypt blockXor (bc.encrypt c.alg c.key) c.iv buf
    (r.1, { c with iv := r.2 })
  | .ctr =>
    let r := ctrCrypt blockXor (bc.encrypt c.alg c.key) ctrIncrement c.iv buf
    (r.1, { c with iv := r.2 })

/-- What a driver's `cipher_decrypt` does once its length check has passed: ECB and CBC
decipher; the CTR driver's `cipher_decrypt` is its `_encrypt_ctr`, the keystream of the block
encryption.
Source: `crypto/cipher-nettle.c.inc` `DEFINE_ECB`, `DEFINE_CBC`, `DEFINE_CTR`
Kind: D -/
def decryptBlocks (bc : AesBlockCipher) (c : QCryptoCipher) (buf : List CipherBlock) :
    List CipherBlock × QCryptoCipher :=
  match c.mode with
  | .ecb => (buf.map (bc.decrypt c.alg c.key), c)
  | .cbc =>
    let r := cbcDecrypt blockXor (bc.decrypt c.alg c.key) c.iv buf
    (r.1, { c with iv := r.2 })
  | .ctr => encryptBlocks bc c buf

/-- `qcrypto_cipher_encrypt` of a buffer of `len` bytes, given as its blocks.
Source: `crypto/cipher.c` `qcrypto_cipher_encrypt`
Kind: D -/
def qcryptoCipherEncrypt (bc : AesBlockCipher) (c : QCryptoCipher) (len : ℕ) (buf : List CipherBlock) :
    Except String (List CipherBlock × QCryptoCipher) := do
  qcryptoLengthCheck len
  pure (encryptBlocks bc c buf)

/-- `qcrypto_cipher_decrypt` of a buffer of `len` bytes, given as its blocks.
Source: `crypto/cipher.c` `qcrypto_cipher_decrypt`
Kind: D -/
def qcryptoCipherDecrypt (bc : AesBlockCipher) (c : QCryptoCipher) (len : ℕ) (buf : List CipherBlock) :
    Except String (List CipherBlock × QCryptoCipher) := do
  qcryptoLengthCheck len
  pure (decryptBlocks bc c buf)

/-! ## Creation -/

/-- A call through `&error_abort` that succeeds. -/
@[simp] theorem toOption_ok {ε α : Type} (a : α) : (Except.ok a : Except ε α).toOption = some a := rfl

/-- Creation succeeds exactly for a known mode, a known algorithm and its key length, and gives
the key's first `nkey` bytes and a zero IV.
Source: `crypto/cipher.c` `qcrypto_cipher_new`
Kind: L -/
theorem qcryptoCipherNew_eq_ok_iff {alg : Option QCryptoCipherAlgo} {mode : Option QCryptoCipherMode}
    {key : List UInt8} {nkey : ℕ} {c : QCryptoCipher} :
    qcryptoCipherNew alg mode key nkey = .ok c ↔
      ∃ a m, alg = some a ∧ mode = some m ∧ qcryptoCipherGetKeyLen a = nkey ∧
        c = ⟨a, m, key.take nkey, zeroBlock⟩ := by
  rcases mode with _ | m
  · simp [qcryptoCipherNew]
  rcases alg with _ | a
  · simp [qcryptoCipherNew, qcryptoCipherValidateKeyLength, bind, Except.bind]
  by_cases hk : qcryptoCipherGetKeyLen a = nkey
  · simp [qcryptoCipherNew, qcryptoCipherValidateKeyLength, hk, bind, Except.bind, pure,
      Except.pure, eq_comm]
  · simp [qcryptoCipherNew, qcryptoCipherValidateKeyLength, hk, bind, Except.bind]

/-- A CBC object with its algorithm's own key length is created.
Source: `crypto/cipher.c` `qcrypto_cipher_new`
Kind: L -/
theorem qcryptoCipherNew_cbc (alg : QCryptoCipherAlgo) (key : List UInt8) :
    qcryptoCipherNew (some alg) (some .cbc) key (qcryptoCipherGetKeyLen alg) =
      .ok ⟨alg, .cbc, key.take (qcryptoCipherGetKeyLen alg), zeroBlock⟩ :=
  qcryptoCipherNew_eq_ok_iff.mpr ⟨alg, .cbc, rfl, rfl, rfl, rfl⟩

/-- A CBC object takes an IV.
Source: `crypto/cipher-nettle.c.inc` `DEFINE_SETIV`
Kind: L -/
theorem qcryptoCipherSetiv_cbc {c : QCryptoCipher} (h : c.mode = .cbc) (iv : CipherBlock) :
    qcryptoCipherSetiv c iv = .ok { c with iv := iv } := by
  rw [qcryptoCipherSetiv, h]

/-! ## Encryption and decryption -/

/-- The length check passes for a whole number of blocks. -/
theorem qcryptoLengthCheck_eq_ok {len : ℕ} (h : len % 16 = 0) : qcryptoLengthCheck len = .ok () := by
  have : len &&& (16 - 1) = len % 16 := Nat.and_two_pow_sub_one_eq_mod len 4
  simp [qcryptoLengthCheck, this, h]

/-- Source: `crypto/cipher-nettle.c.inc` `DEFINE_ECB`, `DEFINE_CBC`, `DEFINE_CTR`. Kind: L -/
theorem qcryptoCipherEncrypt_eq {bc : AesBlockCipher} {c : QCryptoCipher} {len : ℕ}
    (h : len % 16 = 0) (buf : List CipherBlock) :
    qcryptoCipherEncrypt bc c len buf = .ok (encryptBlocks bc c buf) := by
  rw [qcryptoCipherEncrypt, qcryptoLengthCheck_eq_ok h]
  rfl

/-- Source: `crypto/cipher-nettle.c.inc` `DEFINE_ECB`, `DEFINE_CBC`, `DEFINE_CTR`. Kind: L -/
theorem qcryptoCipherDecrypt_eq {bc : AesBlockCipher} {c : QCryptoCipher} {len : ℕ}
    (h : len % 16 = 0) (buf : List CipherBlock) :
    qcryptoCipherDecrypt bc c len buf = .ok (decryptBlocks bc c buf) := by
  rw [qcryptoCipherDecrypt, qcryptoLengthCheck_eq_ok h]
  rfl

/-- Source: `crypto/cipher-nettle.c.inc` `DEFINE_CBC`. Kind: L -/
theorem blockXor_cancel (a b : CipherBlock) : blockXor (blockXor a b) b = a := by
  funext i
  simp only [blockXor, UInt8.xor_assoc, UInt8.xor_self, UInt8.xor_zero]

/-- **CBC decryption inverts CBC encryption**: two CBC objects with the same algorithm, key and
IV, the second decrypts what the first encrypts, for a block function whose decryption inverts
its encryption.
Source: `crypto/cipher-nettle.c.inc` `DEFINE_CBC`
Kind: L -/
theorem decryptBlocks_encryptBlocks_cbc {bc : AesBlockCipher}
    (hbc : ∀ alg key b, bc.decrypt alg key (bc.encrypt alg key b) = b) {c c' : QCryptoCipher}
    (hc : c.mode = .cbc) (hc' : c'.mode = .cbc) (halg : c'.alg = c.alg) (hkey : c'.key = c.key)
    (hiv : c'.iv = c.iv) (bs : List CipherBlock) :
    (decryptBlocks bc c' (encryptBlocks bc c bs).1).1 = bs := by
  simp only [encryptBlocks, decryptBlocks, hc, hc', halg, hkey, hiv]
  rw [cbcDecrypt_cbcEncrypt (hbc _ _) blockXor_cancel]

/-- Neither direction changes the algorithm, the mode or the key. -/
theorem encryptBlocks_snd (bc : AesBlockCipher) (c : QCryptoCipher) (buf : List CipherBlock) :
    (encryptBlocks bc c buf).2 = { c with iv := (encryptBlocks bc c buf).2.iv } := by
  unfold encryptBlocks
  split <;> rfl

theorem decryptBlocks_snd (bc : AesBlockCipher) (c : QCryptoCipher) (buf : List CipherBlock) :
    (decryptBlocks bc c buf).2 = { c with iv := (decryptBlocks bc c buf).2.iv } := by
  unfold decryptBlocks
  split
  · rfl
  · rfl
  · exact encryptBlocks_snd bc c buf

@[simp] theorem encryptBlocks_mode (bc : AesBlockCipher) (c : QCryptoCipher) (buf : List CipherBlock) :
    (encryptBlocks bc c buf).2.mode = c.mode := by
  rw [encryptBlocks_snd]

@[simp] theorem decryptBlocks_mode (bc : AesBlockCipher) (c : QCryptoCipher) (buf : List CipherBlock) :
    (decryptBlocks bc c buf).2.mode = c.mode := by
  rw [decryptBlocks_snd]

@[simp] theorem decryptBlocks_alg (bc : AesBlockCipher) (c : QCryptoCipher) (buf : List CipherBlock) :
    (decryptBlocks bc c buf).2.alg = c.alg := by
  rw [decryptBlocks_snd]

@[simp] theorem decryptBlocks_key (bc : AesBlockCipher) (c : QCryptoCipher) (buf : List CipherBlock) :
    (decryptBlocks bc c buf).2.key = c.key := by
  rw [decryptBlocks_snd]

/-- One block in CBC mode: the block xored with the IV, enciphered.
Source: `crypto/cipher-nettle.c.inc` `DEFINE_CBC`
Kind: L -/
theorem encryptBlocks_cbc_singleton (bc : AesBlockCipher) {c : QCryptoCipher} (hc : c.mode = .cbc)
    (b : CipherBlock) : (encryptBlocks bc c [b]).1 = [bc.encrypt c.alg c.key (blockXor b c.iv)] := by
  simp only [encryptBlocks, hc, cbcEncrypt]

/-- Source: `crypto/cipher-nettle.c.inc` `DEFINE_CBC`. Kind: L -/
theorem decryptBlocks_cbc_singleton (bc : AesBlockCipher) {c : QCryptoCipher} (hc : c.mode = .cbc)
    (b : CipherBlock) : (decryptBlocks bc c [b]).1 = [blockXor (bc.decrypt c.alg c.key b) c.iv] := by
  simp only [decryptBlocks, hc, cbcDecrypt]

end QemuAppleSilicon.Crypto
