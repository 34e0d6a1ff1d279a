import Mathlib.Tactic.IntervalCases
import QemuAppleSilicon.Crypto.Cipher
import QemuAppleSilicon.Lib.Bits32
import QemuAppleSilicon.Lib.TracedRun
import QemuAppleSilicon.Qemu.Base

/-!
# The SEP's AES engine (`hw/arm/apple-silicon/sep.c`, `aess_*`)

The SEP firmware drives its AES engine through a page of 32-bit registers. It writes a command
to `COMMAND`, an IV and an input block to `IV` and `IN` (the 32 bytes of `in_full`), and starts
the command by writing `STATUS` with `RUN_COMMAND` set; `aess_handle_cmd` then fills `out_full`
(`TAG_OUT` and `OUT`) and `interrupt_status`. The commands encrypt or decrypt one block in CBC
mode under a GID key, a custom key or a key set with a sync command, wrap `in_full` under a UID
key (`aess_keywrap_uid`), or load keys.

Three registers hold fuses that only a reset clears: `0x18` (`reg_0x18_keydisable`), whose bits
an encryption under a GID key checks, and `SEED_BITS_LOCK`, which freezes bits of `SEED_BITS`.

* `AessKeys` — the key tables the handler copies from (`AESS_GID0`, …), a parameter with the
  source's values in `aessKeys`. The cipher objects are QEMU's (`Crypto/Cipher`), created and
  driven through `&error_abort`, over the AES block function `AesBlockCipher`, a parameter.
* `aessHandleCmd`, `aessBaseRegWrite`, `aessBaseRegRead` — the handlers; `aessStep` and
  `tracedRun` — runs of register accesses.

The main results:

* `aess_step_aborts_iff` — the only access that aborts is a `RUN_COMMAND` write under a command
  with both key size bits; it goes through `aessHandleCmd_eq_none_iff`.
* `aess_seed_bits_lock_holds` — over every run, the locked bits of `SEED_BITS` and the lock itself
  keep their values: every access is a `FuseStep`, an invariant of `tracedRun`.
* `aess_disabled_gid_keys_unobservable` — a disabled GID key cannot be told apart over any run:
  `GidKeysHidden` is kept by every step and makes the steps agree, and `tracedRun_congr` unwinds.
* `aess_cbc_decrypt_inverts_encrypt` — `0xa` undoes `0x9` under the same flags, from the handler
  specs `aessHandleCmd_encrypt` and `aessHandleCmd_decrypt` and the CBC round trip
  `decryptBlocks_encryptBlocks_cbc`.
-/

namespace QemuAppleSilicon.Sep

open QemuAppleSilicon.Lib QemuAppleSilicon.Qemu QemuAppleSilicon.Crypto

/-! ## Commands and registers -/

/-- Source: `hw/arm/apple-silicon/sep.c` `SEP_AESS_CMD_FLAG_KEYSIZE_AES128`. Kind: D -/
def SEP_AESS_CMD_FLAG_KEYSIZE_AES128 : UInt32 := 0x0
/-- Source: `hw/arm/apple-silicon/sep.c` `SEP_AESS_CMD_FLAG_KEYSIZE_AES192`. Kind: D -/
def SEP_AESS_CMD_FLAG_KEYSIZE_AES192 : UInt32 := 0x100
/-- Source: `hw/arm/apple-silicon/sep.c` `SEP_AESS_CMD_FLAG_KEYSIZE_AES256`. Kind: D -/
def SEP_AESS_CMD_FLAG_KEYSIZE_AES256 : UInt32 := 0x200
/-- Source: `hw/arm/apple-silicon/sep.c` `SEP_AESS_CMD_FLAG_KEYSELECT_GID0` (`_T8020`). Kind: D -/
def SEP_AESS_CMD_FLAG_KEYSELECT_GID0 : UInt32 := 0x00
/-- Source: `hw/arm/apple-silicon/sep.c` `SEP_AESS_CMD_FLAG_KEYSELECT_GID1` (`_T8020`). Kind: D -/
def SEP_AESS_CMD_FLAG_KEYSELECT_GID1 : UInt32 := 0x40
/-- Source: `hw/arm/apple-silicon/sep.c` `SEP_AESS_CMD_FLAG_KEYSELECT_CUSTOM` (`_T8020`). Kind: D -/
def SEP_AESS_CMD_FLAG_KEYSELECT_CUSTOM : UInt32 := 0x80

/-- Source: `hw/arm/apple-silicon/sep.c` `SEP_AESS_CMD_WITHOUT_KEYSIZE`. Kind: D -/
def SEP_AESS_CMD_WITHOUT_KEYSIZE (cmd : UInt32) : UInt32 :=
  cmd &&& ~~~(SEP_AESS_CMD_FLAG_KEYSIZE_AES256 ||| SEP_AESS_CMD_FLAG_KEYSIZE_AES192 |||
    SEP_AESS_CMD_FLAG_KEYSIZE_AES128)

/-- Source: `hw/arm/apple-silicon/sep.c` `SEP_AESS_CMD_WITHOUT_FLAGS`. Kind: D -/
def SEP_AESS_CMD_WITHOUT_FLAGS (cmd : UInt32) : UInt32 :=
  SEP_AESS_CMD_WITHOUT_KEYSIZE cmd &&& ~~~(SEP_AESS_CMD_FLAG_KEYSELECT_GID0 |||
    SEP_AESS_CMD_FLAG_KEYSELECT_GID1 ||| SEP_AESS_CMD_FLAG_KEYSELECT_CUSTOM)

/-- Source: `hw/arm/apple-silicon/sep.c` `SEP_AESS_CMD_FLAG_KEYSELECT_GID1_CUSTOM`. Kind: D -/
def SEP_AESS_CMD_FLAG_KEYSELECT_GID1_CUSTOM (cmd : UInt32) : UInt32 :=
  cmd &&& (SEP_AESS_CMD_FLAG_KEYSELECT_GID1 ||| SEP_AESS_CMD_FLAG_KEYSELECT_CUSTOM)

/-- Source: `hw/arm/apple-silicon/sep.c`
`SEP_AESS_COMMAND_ENCRYPT_CBC_ONLY_NONCUSTOM_FORCE_CUSTOM_AES256`. Kind: D -/
def SEP_AESS_COMMAND_ENCRYPT_CBC_ONLY_NONCUSTOM_FORCE_CUSTOM_AES256 : UInt32 := 0x6
/-- Source: `hw/arm/apple-silicon/sep.c` `SEP_AESS_COMMAND_ENCRYPT_CBC_FORCE_CUSTOM_AES256`.
Kind: D -/
def SEP_AESS_COMMAND_ENCRYPT_CBC_FORCE_CUSTOM_AES256 : UInt32 := 0x8
/-- Source: `hw/arm/apple-silicon/sep.c` `SEP_AESS_COMMAND_ENCRYPT_CBC`. Kind: D -/
def SEP_AESS_COMMAND_ENCRYPT_CBC : UInt32 := 0x9
/-- Source: `hw/arm/apple-silicon/sep.c` `SEP_AESS_COMMAND_DECRYPT_CBC`. Kind: D -/
def SEP_AESS_COMMAND_DECRYPT_CBC : UInt32 := 0xa
/-- Source: `hw/arm/apple-silicon/sep.c` `SEP_AESS_COMMAND_0xb`. Kind: D -/
def SEP_AESS_COMMAND_0xb : UInt32 := 0xb

/-- Source: `hw/arm/apple-silicon/sep.c` `SEP_AESS_REGISTER_STATUS`. Kind: D -/
def SEP_AESS_REGISTER_STATUS : UInt64 := 0x4
/-- Source: `hw/arm/apple-silicon/sep.c` `SEP_AESS_REGISTER_COMMAND`. Kind: D -/
def SEP_AESS_REGISTER_COMMAND : UInt64 := 0x8
/-- Source: `hw/arm/apple-silicon/sep.c` `SEP_AESS_REGISTER_INTERRUPT_STATUS`. Kind: D -/
def SEP_AESS_REGISTER_INTERRUPT_STATUS : UInt64 := 0xc
/-- Source: `hw/arm/apple-silicon/sep.c` `SEP_AESS_REGISTER_INTERRUPT_ENABLED`. Kind: D -/
def SEP_AESS_REGISTER_INTERRUPT_ENABLED : UInt64 := 0x10
/-- Source: `hw/arm/apple-silicon/sep.c` `SEP_AESS_REGISTER_0x14_KEYWRAP_ITERATIONS_COUNTER`.
Kind: D -/
def SEP_AESS_REGISTER_0x14_KEYWRAP_ITERATIONS_COUNTER : UInt64 := 0x14
/-- Source: `hw/arm/apple-silicon/sep.c` `SEP_AESS_REGISTER_0x18_KEYDISABLE`. Kind: D -/
def SEP_AESS_REGISTER_0x18_KEYDISABLE : UInt64 := 0x18
/-- Source: `hw/arm/apple-silicon/sep.c` `SEP_AESS_REGISTER_SEED_BITS`. Kind: D -/
def SEP_AESS_REGISTER_SEED_BITS : UInt64 := 0x1c
/-- Source: `hw/arm/apple-silicon/sep.c` `SEP_AESS_REGISTER_SEED_BITS_LOCK`. Kind: D -/
def SEP_AESS_REGISTER_SEED_BITS_LOCK : UInt64 := 0x20
/-- Source: `hw/arm/apple-silicon/sep.c` `SEP_AESS_REGISTER_IV`. Kind: D -/
def SEP_AESS_REGISTER_IV : UInt64 := 0x40
/-- Source: `hw/arm/apple-silicon/sep.c` `SEP_AESS_REGISTER_IN`. Kind: D -/
def SEP_AESS_REGISTER_IN : UInt64 := 0x50
/-- Source: `hw/arm/apple-silicon/sep.c` `SEP_AESS_REGISTER_TAG_OUT`. Kind: D -/
def SEP_AESS_REGISTER_TAG_OUT : UInt64 := 0x60
/-- Source: `hw/arm/apple-silicon/sep.c` `SEP_AESS_REGISTER_OUT`. Kind: D -/
def SEP_AESS_REGISTER_OUT : UInt64 := 0x70
/-- Source: `hw/arm/apple-silicon/sep.c` `SEP_AESS_REGISTER_STATUS_RUN_COMMAND`. Kind: D -/
def SEP_AESS_REGISTER_STATUS_RUN_COMMAND : UInt32 := 0x1

/-- The four words of a 16-byte register, `case base ... base + 0xc`.
Source: `hw/arm/apple-silicon/sep.c` `aess_base_reg_write`
Kind: D -/
def inWordRange (base addr : UInt64) : Bool := base ≤ addr && addr ≤ base + 0xc

/-! ## Keys and the block cipher -/

/-- The key tables, words in host order: `AESS_UID0`, `AESS_UID1`, `AESS_GID0`, `AESS_GID1`,
`AESS_KEY_FOR_DISABLED_KEY`, `AESS_UID_SEED_NOT_ENABLED` and `AESS_UID_SEED_INVALID`.
Source: `hw/arm/apple-silicon/sep.c` `AESS_UID0`, `AESS_UID1`, `AESS_GID0`, `AESS_GID1`,
`AESS_KEY_FOR_DISABLED_KEY`, `AESS_UID_SEED_NOT_ENABLED`, `AESS_UID_SEED_INVALID`
Kind: D -/
structure AessKeys where
  uid0 : List UInt32
  uid1 : List UInt32
  gid0 : List UInt32
  gid1 : List UInt32
  keyForDisabledKey : List UInt32
  uidSeedNotEnabled : List UInt32
  uidSeedInvalid : List UInt32

/-- The source's tables.
Source: `hw/arm/apple-silicon/sep.c` `AESS_UID0` … `AESS_UID_SEED_INVALID`
Kind: D -/
def aessKeys : AessKeys where
  uid0 := [0xdeadbeef, 0x13370000, 0xa55a0000, 0xcafecafe, 0xc4f3c4f3, 0xd34db33f, 0xff317331,
    0xffa50000]
  uid1 := [0xdeadbeef, 0x13371111, 0xa55a1111, 0xcafecafe, 0xc4f3c4f3, 0xd34db33f, 0xff317331,
    0xffa50000]
  gid0 := [0xdeadbe00, 0x13371337, 0xa55a5aa5, 0xcafeca00, 0xc4f3c400, 0xd34db33f, 0x73317331,
    0x5aa5a500]
  gid1 := [0xdeadbe11, 0x13371337, 0xa55a5aa5, 0xcafeca11, 0xc4f3c411, 0xd34db33f, 0x73317331,
    0x5aa5a511]
  keyForDisabledKey := [0xf00ff00f, 0xf00ff00f, 0xf00ff00f, 0xcafeca33, 0xc4f3c488, 0xd34db33f,
    0xf00ff00f, 0xf00ff00f]
  uidSeedNotEnabled := [0x0ff00ff0, 0x0ff00ff0, 0x0ff00ff0, 0xcafeca44, 0xc4f3c499, 0xd34db33f,
    0x0ff00ff0, 0x0ff00ff0]
  uidSeedInvalid := [0x1ff11ff1, 0x1ff11ff1, 0x1ff11ff1, 0xcafeca55, 0xc4f3c4aa, 0xd34db33f,
    0x1ff11ff1, 0x1ff11ff1]

/-- The bytes of a key table, as a `memcpy` from the `uint32_t` array reads them.
Source: `hw/arm/apple-silicon/sep.c` `aess_handle_cmd`
Kind: D -/
def keyBytes (ws : List UInt32) : List UInt8 := ws.flatMap fun w => leBytes w.toNat 4

/-- A local `uint8_t used_key[0x20] = { 0 }`.
Source: `hw/arm/apple-silicon/sep.c` `aess_handle_cmd`
Kind: D -/
def zeroKey : Mem := fun _ => 0

/-- The 16 bytes of `m` from `p`.
Source: `hw/arm/apple-silicon/sep.c` `aess_handle_cmd`
Kind: D -/
def memBlock (m : Mem) (p : ℕ) : CipherBlock := fun i => m (p + i)

/-- `memcpy` of blocks to `m` from `p`.
Source: `hw/arm/apple-silicon/sep.c` `aess_handle_cmd`
Kind: D -/
def memWriteBlocks (m : Mem) (p : ℕ) (bs : List CipherBlock) : Mem := m.write p (bs.flatMap List.ofFn)

/-! ## The engine -/

/-- `AppleAESSState`, with `sep->aess_base_regs` for the offsets no case handles. The byte
arrays are memories of which the handlers use the first 32 bytes: `in_full` holds `iv` then `in`,
read as `in_dec` then `iv_dec` by a decryption, and `out_full` holds `tag_out` then `out`.
Source: `include/hw/arm/apple-silicon/sep.h` `AppleAESSState`
Kind: D -/
structure AppleAESSState where
  status : UInt32
  command : UInt32
  interruptStatus : UInt32
  interruptEnabled : UInt32
  reg0x14KeywrapIterationsCounter : UInt32
  reg0x18Keydisable : UInt32
  seedBits : UInt32
  seedBitsLock : UInt32
  inFull : Mem
  outFull : Mem
  key256In : Mem
  keywrapKeyUid0 : Mem
  keywrapKeyUid1 : Mem
  customKeyIndex : Fin 4 → Mem
  customKeyIndexEnabled : Fin 4 → Bool
  keywrapUid0Enabled : Bool
  keywrapUid1Enabled : Bool
  aessBaseRegs : Mem

/-- What the engine does that the SEP sees besides its registers: the value a read returns, and
a status pushed to the SEP mailbox's interrupt queue.
Source: `hw/arm/apple-silicon/sep.c` `aess_base_reg_read`, `aess_raise_interrupt`
Kind: D -/
inductive AessEvent
  | readValue (value : UInt64)
  | interruptStatusPush (status : UInt32)
  deriving DecidableEq, Repr

/-- A register access of the SEP.
Source: `hw/arm/apple-silicon/sep.c` `aess_base_reg_ops`
Kind: D -/
inductive AessAccess
  | write (addr data : UInt64) (size : ℕ)
  | read (addr : UInt64) (size : ℕ)
  deriving DecidableEq, Repr

/-- `get_aes_cipher_alg(flags)`; both key size bits set is `g_assert_not_reached`.
Source: `hw/arm/apple-silicon/sep.c` `get_aes_cipher_alg`
Kind: D -/
def getAesCipherAlg (flags : UInt32) : Option QCryptoCipherAlgo :=
  let keysize := flags &&& (SEP_AESS_CMD_FLAG_KEYSIZE_AES128 ||| SEP_AESS_CMD_FLAG_KEYSIZE_AES192 |||
    SEP_AESS_CMD_FLAG_KEYSIZE_AES256)
  if keysize = SEP_AESS_CMD_FLAG_KEYSIZE_AES128 then some .aes128
  else if keysize = SEP_AESS_CMD_FLAG_KEYSIZE_AES192 then some .aes192
  else if keysize = SEP_AESS_CMD_FLAG_KEYSIZE_AES256 then some .aes256
  else none

/-- `xor_32bit_value(dest, val, size)`: `size` words from `p` xored with `val`, one after the
other.
Source: `hw/arm/apple-silicon/sep.c` `xor_32bit_value`
Kind: D -/
def xor32BitValue (dest : Mem) (p : ℕ) (val : UInt32) : ℕ → Mem
  | 0 => dest
  | size + 1 => xor32BitValue (stlLeP dest p (ldlLeP dest p ^^^ val)) (p + 4) val size

/-- `aess_raise_interrupt`: with both enable bits set, flag the interrupt and push the AESS status
to the SEP's mailbox.
Source: `hw/arm/apple-silicon/sep.c` `aess_raise_interrupt`
Kind: D -/
def aessRaiseInterrupt (s : AppleAESSState) : AppleAESSState × List AessEvent :=
  if s.interruptEnabled &&& 0x3 = 0x3 then
    ({ s with interruptStatus := s.interruptStatus ||| 0x1 }, [.interruptStatusPush 0x10005])
  else (s, [])

/-- The `while` loop of `aess_keywrap_uid`: `n` encryptions of the buffer in place, each one
continuing the chain of the one before.
Source: `hw/arm/apple-silicon/sep.c` `aess_keywrap_uid`
Kind: D -/
def keywrapRounds (bc : AesBlockCipher) :
    QCryptoCipher → ℕ → List CipherBlock → Option (List CipherBlock)
  | _, 0, encTemp => some encTemp
  | cipher, n + 1, encTemp =>
    (qcryptoCipherEncrypt bc cipher 0x20 encTemp).toOption.bind fun r => keywrapRounds bc r.2 n r.1

/-- The key of `aess_keywrap_uid` before the counter is xored in: the synced UID key of the
command, or `AESS_UID_SEED_NOT_ENABLED`; a command other than `0x02` and `0x12` is
`g_assert_not_reached`.
Source: `hw/arm/apple-silicon/sep.c` `aess_keywrap_uid`
Kind: D -/
def aessKeywrapUsedKey (uidSeedNotEnabled : List UInt32) (s : AppleAESSState) : Option Mem :=
  let normalizedCmd := SEP_AESS_CMD_WITHOUT_FLAGS s.command
  if normalizedCmd = 0x02 ∧ s.keywrapUid0Enabled then some s.keywrapKeyUid0
  else if normalizedCmd = 0x12 ∧ s.keywrapUid1Enabled then some s.keywrapKeyUid1
  else if normalizedCmd = 0x02 ∨ normalizedCmd = 0x12 then
    some (zeroKey.write 0 (keyBytes uidSeedNotEnabled))
  else none

/-- `aess_keywrap_uid(s, in, out, cipher_alg)`: the wrapped buffer, with the state after the
iterations counter is cleared and the interrupt raised. The counter is xored into the third
quarter of the key; an algorithm other than AES-256 is an assertion.
Source: `hw/arm/apple-silicon/sep.c` `aess_keywrap_uid`
Kind: D -/
def aessKeywrapUid (bc : AesBlockCipher) (uidSeedNotEnabled : List UInt32) (s : AppleAESSState)
    (input : List CipherBlock) (cipherAlg : QCryptoCipherAlgo) :
    Option (AppleAESSState × List CipherBlock × List AessEvent) :=
  if cipherAlg ≠ .aes256 then none else
  (aessKeywrapUsedKey uidSeedNotEnabled s).bind fun usedKey => do
    let keyLen := qcryptoCipherGetKeyLen cipherAlg
    let usedKey := xor32BitValue usedKey 0x10 s.reg0x14KeywrapIterationsCounter (0x8 / 4)
    let cipher ← (qcryptoCipherNew (some cipherAlg) (some .cbc) (usedKey.read 0 0x20) keyLen).toOption
    let cipher ← (qcryptoCipherSetiv cipher zeroBlock).toOption
    -- a zero counter runs the loop once
    let iterations := if s.reg0x14KeywrapIterationsCounter = 0 then 1
      else s.reg0x14KeywrapIterationsCounter
    let out ← keywrapRounds bc cipher iterations.toNat input
    let r := aessRaiseInterrupt { s with reg0x14KeywrapIterationsCounter := 0 }
    pure (r.1, out, r.2)

/-- `aess_get_custom_keywrap_index(cmd)`; any other command is `g_assert_not_reached`.
Source: `hw/arm/apple-silicon/sep.c` `aess_get_custom_keywrap_index`
Kind: D -/
def aessGetCustomKeywrapIndex (cmd : UInt32) : Option (Fin 4) :=
  if cmd = 0x01 ∨ cmd = 0x06 then some 0
  else if cmd = 0x41 ∨ cmd = 0x46 then some 1
  else if cmd = 0x81 ∨ cmd = 0x08 ∨ cmd = 0x88 then some 2
  else if cmd = 0xc1 ∨ cmd = 0x48 ∨ cmd = 0xc8 then some 3
  else none

/-- `check_register_0x18_keydisable_bit_invalid(s)`: the bit of `reg_0x18_keydisable` that
disables the command's key, if it has one.
Source: `hw/arm/apple-silicon/sep.c` `check_register_0x18_keydisable_bit_invalid`
Kind: D -/
def checkRegister0x18KeydisableBitInvalid (s : AppleAESSState) : Bool :=
  let cmd := SEP_AESS_CMD_WITHOUT_KEYSIZE s.command
  if cmd = 0x0C ∨ cmd = 0x4C then s.reg0x18Keydisable &&& 0x10 != 0
  else if cmd = 0x09 ∨ cmd = 0x0A then s.reg0x18Keydisable &&& 0x1 != 0
  else if cmd = 0x49 ∨ cmd = 0x4A then s.reg0x18Keydisable &&& 0x2 != 0
  else if cmd = 0x0D ∨ cmd = 0x4D then s.reg0x18Keydisable &&& 0x8 != 0
  else if cmd = 0x50 ∨ cmd = 0x90 then s.reg0x18Keydisable &&& 0x8 != 0
  else false

/-- The key of a CBC command (`used_key`): the custom key of its slot when the command forces a
custom key (zero when the slot is not enabled), else `key_256_in` for the custom flag, else the
stand-in key when the key is disabled, else GID1 or GID0.
Source: `hw/arm/apple-silicon/sep.c` `aess_handle_cmd`
Kind: D -/
def aessCbcUsedKey (keys : AessKeys) (s : AppleAESSState)
    (customEncryption keyselectCustom registerInvalid keyselectGid1 : Bool) : Option Mem :=
  if customEncryption then
    (aessGetCustomKeywrapIndex (s.command &&& 0xff)).map fun customKeywrapIndex =>
      if s.customKeyIndexEnabled customKeywrapIndex then s.customKeyIndex customKeywrapIndex
      else zeroKey
  else if keyselectCustom then some s.key256In
  else if registerInvalid then some (zeroKey.write 0 (keyBytes keys.keyForDisabledKey))
  else if keyselectGid1 then some (zeroKey.write 0 (keyBytes keys.gid1))
  else some (zeroKey.write 0 (keyBytes keys.gid0))

/-- The cipher work of a CBC command once its key is chosen. A command forced to a custom key is
AES-256 encryption, of all of `in_full` from a zero IV when the custom flag was clear. Otherwise
`0x9` encrypts `in` from `iv` into `out` and copies `iv` to `tag_out`, and `0xa` decrypts `in_dec`
into `tag_out` from the zero IV of a fresh context, then again into `out` from `iv_dec`. Every
cipher call passes `&error_abort` (`none` if it fails; `aessCbcRun_eq`: none does).
Source: `hw/arm/apple-silicon/sep.c` `aess_handle_cmd`
Kind: D -/
def aessCbcRun (bc : AesBlockCipher) (s : AppleAESSState) (forceCustom keyselectCustom : Bool)
    (normalizedCmd : UInt32) (cipherAlg : QCryptoCipherAlgo) (usedKey : Mem) :
    Option AppleAESSState := do
  let zeroIvTwoBlocksEncryption := forceCustom && !keyselectCustom
  let cipherAlg := if forceCustom then .aes256 else cipherAlg
  let normalizedCmd := if forceCustom then SEP_AESS_COMMAND_ENCRYPT_CBC else normalizedCmd
  let doEncryption := normalizedCmd = SEP_AESS_COMMAND_ENCRYPT_CBC
  let cipher ← (qcryptoCipherNew (some cipherAlg) (some .cbc) (usedKey.read 0 0x20)
    (qcryptoCipherGetKeyLen cipherAlg)).toOption
  let iv := if doEncryption then memBlock s.inFull 0 else memBlock s.inFull 16
  let inBlock := if doEncryption then memBlock s.inFull 16 else memBlock s.inFull 0
  if zeroIvTwoBlocksEncryption then
    let cipher ← (qcryptoCipherSetiv cipher zeroBlock).toOption
    let out ← (qcryptoCipherEncrypt bc cipher 0x20 [memBlock s.inFull 0, memBlock s.inFull 16]).toOption
    pure { s with outFull := memWriteBlocks s.outFull 0 out.1 }
  else if doEncryption then
    let cipher ← (qcryptoCipherSetiv cipher iv).toOption
    let out ← (qcryptoCipherEncrypt bc cipher 0x10 [memBlock s.inFull 16]).toOption
    pure { s with outFull := memWriteBlocks (memWriteBlocks s.outFull 16 out.1) 0 [iv] }
  else
    let tagOut ← (qcryptoCipherDecrypt bc cipher 0x10 [inBlock]).toOption
    let cipher ← (qcryptoCipherSetiv tagOut.2 iv).toOption
    let out ← (qcryptoCipherDecrypt bc cipher 0x10 [inBlock]).toOption
    pure { s with outFull := memWriteBlocks (memWriteBlocks s.outFull 0 tagOut.1) 16 out.1 }

/-- The CBC branch of `aess_handle_cmd` (commands `0x6`, `0x8`, `0x9` and `0xa`). `0x6` with the
custom flag does nothing (`goto jump_return`); `0x6` and `0x8` force a custom key, and the flags
are overwritten to say so.
Source: `hw/arm/apple-silicon/sep.c` `aess_handle_cmd`
Kind: D -/
def aessCbcCommand (bc : AesBlockCipher) (keys : AessKeys) (s : AppleAESSState)
    (keyselectGid1 keyselectCustom : Bool) (normalizedCmd : UInt32) (cipherAlg : QCryptoCipherAlgo)
    (registerInvalid : Bool) : Option AppleAESSState :=
  if normalizedCmd = SEP_AESS_COMMAND_ENCRYPT_CBC_ONLY_NONCUSTOM_FORCE_CUSTOM_AES256 ∧
      keyselectCustom then
    some s
  else
  let normalizedCmd :=
    if normalizedCmd = SEP_AESS_COMMAND_ENCRYPT_CBC_ONLY_NONCUSTOM_FORCE_CUSTOM_AES256 then
      SEP_AESS_COMMAND_ENCRYPT_CBC_FORCE_CUSTOM_AES256
    else normalizedCmd
  let forceCustom := normalizedCmd == SEP_AESS_COMMAND_ENCRYPT_CBC_FORCE_CUSTOM_AES256
  (aessCbcUsedKey keys s forceCustom (forceCustom || keyselectCustom) registerInvalid
      (!forceCustom && keyselectGid1)).bind
    (aessCbcRun bc s forceCustom keyselectCustom normalizedCmd cipherAlg)

/-- The `0x2`/`0x12` branch: wrap all of `in_full` under the UID key into `out_full`, as
AES-256 whatever the key size flags say.
Source: `hw/arm/apple-silicon/sep.c` `aess_handle_cmd`
Kind: D -/
def aessKeywrapCommand (bc : AesBlockCipher) (uidSeedNotEnabled : List UInt32)
    (s : AppleAESSState) : Option (AppleAESSState × List AessEvent) :=
  let cipherAlg := QCryptoCipherAlgo.aes256
  let keyLen := qcryptoCipherGetKeyLen cipherAlg
  let keyWrapDataIn := [memBlock s.inFull 0, memBlock s.inFull 16]
  (aessKeywrapUid bc uidSeedNotEnabled s keyWrapDataIn cipherAlg).map fun r =>
    ({ r.1 with outFull := r.1.outFull.write 0 ((r.2.1.flatMap List.ofFn).take keyLen) }, r.2.2)

/-- Command `0x40`: `keywrap_key_uid0` is `AESS_UID0` with `seed_bits` xored into its second and
third words.
Source: `hw/arm/apple-silicon/sep.c` `aess_handle_cmd`
Kind: D -/
def aessSyncUid0 (uid0 : List UInt32) (s : AppleAESSState) : AppleAESSState :=
  { s with
    keywrapKeyUid0 := xor32BitValue (s.keywrapKeyUid0.write 0 (keyBytes uid0)) 0x8 s.seedBits (0x8 / 4)
    keywrapUid0Enabled := true }

/-- Command `0x50`: `keywrap_key_uid1` is `AESS_UID1`, or `AESS_UID_SEED_INVALID` when the
command's disable bit is set, with `seed_bits` xored in.
Source: `hw/arm/apple-silicon/sep.c` `aess_handle_cmd`
Kind: D -/
def aessSyncUid1 (uid1 uidSeedInvalid : List UInt32) (s : AppleAESSState) (invalidParameters : Bool) :
    AppleAESSState :=
  let key := if invalidParameters then uidSeedInvalid else uid1
  { s with
    keywrapKeyUid1 := xor32BitValue (s.keywrapKeyUid1.write 0 (keyBytes key)) 0x8 s.seedBits (0x8 / 4)
    keywrapUid1Enabled := true }

/-- Command `0x1`: the custom key slot of the command is `in_full` xored with `0xdeadbeef`, and
enabled.
Source: `hw/arm/apple-silicon/sep.c` `aess_handle_cmd`
Kind: D -/
def aessSetCustomKey (s : AppleAESSState) : Option AppleAESSState :=
  (aessGetCustomKeywrapIndex (s.command &&& 0xff)).map fun customKeywrapIndex =>
    let key := xor32BitValue ((s.customKeyIndex customKeywrapIndex).write 0 (s.inFull.read 0 32)) 0
      0xdeadbeef (0x20 / 4)
    { s with
      customKeyIndex := Function.update s.customKeyIndex customKeywrapIndex key
      customKeyIndexEnabled := Function.update s.customKeyIndexEnabled customKeywrapIndex true }

/-- The chain of branches of `aess_handle_cmd` on the normalised command; an unknown one is only
logged.
Source: `hw/arm/apple-silicon/sep.c` `aess_handle_cmd`
Kind: D -/
def aessCommand (bc : AesBlockCipher) (keys : AessKeys) (s : AppleAESSState)
    (keyselectNonGid0 keyselectGid1 keyselectCustom : Bool) (normalizedCmd : UInt32)
    (cipherAlg : QCryptoCipherAlgo) (invalidParameters : Bool) :
    Option (AppleAESSState × List AessEvent) :=
  if !keyselectNonGid0 ∧ normalizedCmd = SEP_AESS_COMMAND_0xb then
    -- the `memset` of `key_256_in` is overwritten whole by the `memcpy`
    some ({ s with key256In := s.key256In.write 0 (s.inFull.read 0 32) }, [])
  else if !keyselectNonGid0 ∧ (normalizedCmd = 0x2 ∨ normalizedCmd = 0x12) then
    aessKeywrapCommand bc keys.uidSeedNotEnabled s
  else if normalizedCmd = SEP_AESS_COMMAND_ENCRYPT_CBC ∨ normalizedCmd = SEP_AESS_COMMAND_DECRYPT_CBC ∨
      normalizedCmd = SEP_AESS_COMMAND_ENCRYPT_CBC_FORCE_CUSTOM_AES256 ∨
      normalizedCmd = SEP_AESS_COMMAND_ENCRYPT_CBC_ONLY_NONCUSTOM_FORCE_CUSTOM_AES256 then
    (aessCbcCommand bc keys s keyselectGid1 keyselectCustom normalizedCmd cipherAlg
      invalidParameters).map (·, [])
  else if normalizedCmd = 0x00 then
    some (if keyselectGid1 then aessSyncUid0 keys.uid0 s else s, [])
  else if normalizedCmd = 0x10 then
    some (if keyselectGid1 then aessSyncUid1 keys.uid1 keys.uidSeedInvalid s invalidParameters
      else s, [])
  else if normalizedCmd = 0x1 then
    (aessSetCustomKey s).map (·, [])
  else some (s, [])

/-- `aess_handle_cmd(s)`: decode the command, clear `interrupt_status` and `out_full`, run the
branch, and set `interrupt_status` to `1`, with bit 1 when the command's key is disabled.
Source: `hw/arm/apple-silicon/sep.c` `aess_handle_cmd`
Kind: D -/
def aessHandleCmd (bc : AesBlockCipher) (keys : AessKeys) (s : AppleAESSState) :
    Option (AppleAESSState × List AessEvent) :=
  let keyselectNonGid0 := SEP_AESS_CMD_FLAG_KEYSELECT_GID1_CUSTOM s.command != 0
  let keyselectGid1 := s.command &&& SEP_AESS_CMD_FLAG_KEYSELECT_GID1 != 0
  let keyselectCustom := s.command &&& SEP_AESS_CMD_FLAG_KEYSELECT_CUSTOM != 0
  let normalizedCmd := SEP_AESS_CMD_WITHOUT_FLAGS s.command
  (getAesCipherAlg s.command).bind fun cipherAlg =>
    let invalidParameters := checkRegister0x18KeydisableBitInvalid s
    let s := { s with interruptStatus := 0, outFull := s.outFull.write 0 (List.replicate 32 0) }
    (aessCommand bc keys s keyselectNonGid0 keyselectGid1 keyselectCustom normalizedCmd cipherAlg
        invalidParameters).map fun r =>
      -- `jump_return`: `valid_command` is never cleared
      ({ r.1 with
        interruptStatus :=
          ((if invalidParameters then (1 : UInt32) else 0) <<< 1 ||| (r.1.interruptStatus &&& 0x2)) ||| 1 },
        r.2)

/-- The cases of the `switch (addr)` of `aess_base_reg_write` and `aess_base_reg_read`; the
16-byte registers carry `addr & 0xf`, and `constant` is a read that returns a fixed value.
Source: `hw/arm/apple-silicon/sep.c` `aess_base_reg_write`, `aess_base_reg_read`
Kind: D -/
inductive AessRegister
  | status
  | command
  | interruptStatus
  | interruptEnabled
  | keywrapIterationsCounter
  | keydisable
  | seedBits
  | seedBitsLock
  | iv (offset : ℕ)
  | input (offset : ℕ)
  | tagOut (offset : ℕ)
  | out (offset : ℕ)
  | constant (value : UInt64)
  | other
  deriving DecidableEq, Repr

/-- The 32-bit registers, the cases the two switches share.
Source: `hw/arm/apple-silicon/sep.c` `aess_base_reg_write`, `aess_base_reg_read`
Kind: D -/
def aessControlRegister (addr : UInt64) : Option AessRegister :=
  if addr = SEP_AESS_REGISTER_STATUS then some .status
  else if addr = SEP_AESS_REGISTER_COMMAND then some .command
  else if addr = SEP_AESS_REGISTER_INTERRUPT_STATUS then some .interruptStatus
  else if addr = SEP_AESS_REGISTER_INTERRUPT_ENABLED then some .interruptEnabled
  else if addr = SEP_AESS_REGISTER_0x14_KEYWRAP_ITERATIONS_COUNTER then some .keywrapIterationsCounter
  else if addr = SEP_AESS_REGISTER_0x18_KEYDISABLE then some .keydisable
  else if addr = SEP_AESS_REGISTER_SEED_BITS then some .seedBits
  else if addr = SEP_AESS_REGISTER_SEED_BITS_LOCK then some .seedBitsLock
  else none

/-- The `switch` of `aess_base_reg_write`: `IV` and `IN` also at their T8015 offsets `0x100` and
`0x110`.
Source: `hw/arm/apple-silicon/sep.c` `aess_base_reg_write`
Kind: D -/
def aessWriteRegister (addr : UInt64) : AessRegister :=
  match aessControlRegister addr with
  | some r => r
  | none =>
    if inWordRange SEP_AESS_REGISTER_IV addr || inWordRange 0x100 addr then .iv (addr &&& 0xf).toNat
    else if inWordRange SEP_AESS_REGISTER_IN addr || inWordRange 0x110 addr then
      .input (addr &&& 0xf).toNat
    else .other

/-- The `switch` of `aess_base_reg_read`: the output registers, and `0xe4` and `0x280`.
Source: `hw/arm/apple-silicon/sep.c` `aess_base_reg_read`
Kind: D -/
def aessReadRegister (addr : UInt64) : AessRegister :=
  match aessControlRegister addr with
  | some r => r
  | none =>
    if inWordRange SEP_AESS_REGISTER_IV addr then .iv (addr &&& 0xf).toNat
    else if inWordRange SEP_AESS_REGISTER_IN addr then .input (addr &&& 0xf).toNat
    else if inWordRange SEP_AESS_REGISTER_TAG_OUT addr then .tagOut (addr &&& 0xf).toNat
    else if inWordRange SEP_AESS_REGISTER_OUT addr then .out (addr &&& 0xf).toNat
    else if addr = 0xe4 then .constant 0x0
    else if addr = 0x280 then .constant 0x1
    else .other

/-- `aess_base_reg_write(s, addr, data, size)`. The 32-bit registers keep the low half of `data`;
`0x18` ors into the disabled bits, `SEED_BITS` keeps its locked bits and `SEED_BITS_LOCK` ors in.
Source: `hw/arm/apple-silicon/sep.c` `aess_base_reg_write`
Kind: D -/
def aessBaseRegWrite (bc : AesBlockCipher) (keys : AessKeys) (s : AppleAESSState)
    (addr data : UInt64) (size : ℕ) : Option (AppleAESSState × List AessEvent) :=
  match aessWriteRegister addr with
  | .status =>
    let s := { s with status := data.toUInt32 }
    if s.status &&& SEP_AESS_REGISTER_STATUS_RUN_COMMAND ≠ 0 then aessHandleCmd bc keys s
    else some (s, [])
  | .command => some ({ s with command := (data &&& 0x3ff).toUInt32 }, [])
  | .interruptStatus =>
    some (if data &&& 0x1 ≠ 0 then { s with interruptStatus := s.interruptStatus &&& ~~~0x1 } else s, [])
  | .interruptEnabled => some ({ s with interruptEnabled := (data &&& 0x3).toUInt32 }, [])
  | .keywrapIterationsCounter => some ({ s with reg0x14KeywrapIterationsCounter := data.toUInt32 }, [])
  | .keydisable =>
    some ({ s with reg0x18Keydisable := ((data ||| s.reg0x18Keydisable.toUInt64) &&& 0x1b).toUInt32 }, [])
  | .seedBits =>
    some ({ s with
      seedBits := ((data &&& (~~~s.seedBitsLock).toUInt64) ||| (s.seedBits &&& s.seedBitsLock).toUInt64).toUInt32 },
      [])
  | .seedBitsLock => some ({ s with seedBitsLock := (data ||| s.seedBitsLock.toUInt64).toUInt32 }, [])
  | .iv offset => some ({ s with inFull := stlLeP s.inFull offset data.toUInt32 }, [])
  | .input offset => some ({ s with inFull := stlLeP s.inFull (16 + offset) data.toUInt32 }, [])
  | _ => some ({ s with aessBaseRegs := s.aessBaseRegs.write addr.toNat (leBytes data.toNat size) }, [])

/-- `aess_base_reg_read(s, addr, size)`: the new state (a read of `STATUS` clears bit 1 and sets
`0x100`) and the value read.
Source: `hw/arm/apple-silicon/sep.c` `aess_base_reg_read`
Kind: D -/
def aessBaseRegRead (s : AppleAESSState) (addr : UInt64) (size : ℕ) : AppleAESSState × UInt64 :=
  match aessReadRegister addr with
  | .status =>
    let status := (s.status &&& ~~~((1 : UInt32) <<< 1)) ||| 0x100
    ({ s with status := status }, status.toUInt64)
  | .command => (s, s.command.toUInt64)
  | .interruptStatus => (s, s.interruptStatus.toUInt64)
  | .interruptEnabled => (s, s.interruptEnabled.toUInt64)
  | .keywrapIterationsCounter => (s, s.reg0x14KeywrapIterationsCounter.toUInt64)
  | .keydisable => (s, s.reg0x18Keydisable.toUInt64)
  | .seedBits => (s, s.seedBits.toUInt64)
  | .seedBitsLock => (s, s.seedBitsLock.toUInt64)
  | .iv offset => (s, (ldlLeP s.inFull offset).toUInt64)
  | .input offset => (s, (ldlLeP s.inFull (16 + offset)).toUInt64)
  | .tagOut offset => (s, (ldlLeP s.outFull offset).toUInt64)
  | .out offset => (s, (ldlLeP s.outFull (16 + offset)).toUInt64)
  | .constant value => (s, value)
  | .other => (s, UInt64.ofNat (leValue (s.aessBaseRegs.read addr.toNat size)))

/-- One register access.
Source: `hw/arm/apple-silicon/sep.c` `aess_base_reg_ops`
Kind: D -/
def aessStep (bc : AesBlockCipher) (keys : AessKeys) :
    AessAccess → AppleAESSState → Option (AppleAESSState × List AessEvent)
  | .write addr data size, s => aessBaseRegWrite bc keys s addr data size
  | .read addr size, s =>
    let r := aessBaseRegRead s addr size
    some (r.1, [.readValue r.2])

/-- `aess_reset(s)`.
Source: `hw/arm/apple-silicon/sep.c` `aess_reset`
Kind: D -/
def aessReset (s : AppleAESSState) : AppleAESSState :=
  { s with
    status := 0, command := 0, interruptStatus := 0, interruptEnabled := 0
    reg0x14KeywrapIterationsCounter := 0, reg0x18Keydisable := 0, seedBits := 0, seedBitsLock := 0
    keywrapUid0Enabled := false, keywrapUid1Enabled := false
    keywrapKeyUid0 := s.keywrapKeyUid0.write 0 (List.replicate 32 0)
    keywrapKeyUid1 := s.keywrapKeyUid1.write 0 (List.replicate 32 0)
    customKeyIndex := fun i => (s.customKeyIndex i).write 0 (List.replicate 32 0)
    customKeyIndexEnabled := fun _ => false }

/-- The engine reset from zeroed memory.
Source: `hw/arm/apple-silicon/sep.c` `aess_reset`
Kind: D -/
def aessResetState : AppleAESSState :=
  aessReset ⟨0, 0, 0, 0, 0, 0, 0, 0, zeroKey, zeroKey, zeroKey, zeroKey, zeroKey, fun _ => zeroKey,
    fun _ => false, false, false, zeroKey⟩

/-- A block function that leaves a block as it is, to run the engine on fixed inputs.
Source: none: fixture
Kind: D -/
def aesIdentityCipher : AesBlockCipher := ⟨fun _ _ b => b, fun _ _ b => b⟩

/-! ## The bits of a command

The handler tests the command through masks: the key size bits `0x300`, the key select bits
`0x40` and `0x80`, and the rest. Without its key size, a command is its normalised value with the
two key select bits added back (`withoutKeysize_eq`); its low byte likewise (`command_and_0xff`). -/

section Bits

variable (c : UInt32)

/-- Source: `hw/arm/apple-silicon/sep.c` `SEP_AESS_CMD_WITHOUT_KEYSIZE`. Kind: L -/
theorem withoutKeysize_eq : SEP_AESS_CMD_WITHOUT_KEYSIZE c = SEP_AESS_CMD_WITHOUT_FLAGS c |||
    (c &&& SEP_AESS_CMD_FLAG_KEYSELECT_GID1) ||| (c &&& SEP_AESS_CMD_FLAG_KEYSELECT_CUSTOM) := by
  apply ext_bit_lt
  intro k hk
  simp only [SEP_AESS_CMD_WITHOUT_FLAGS, SEP_AESS_CMD_WITHOUT_KEYSIZE, SEP_AESS_CMD_FLAG_KEYSIZE_AES128,
    SEP_AESS_CMD_FLAG_KEYSIZE_AES192, SEP_AESS_CMD_FLAG_KEYSIZE_AES256, SEP_AESS_CMD_FLAG_KEYSELECT_GID0,
    SEP_AESS_CMD_FLAG_KEYSELECT_GID1, SEP_AESS_CMD_FLAG_KEYSELECT_CUSTOM, bit_and, bit_or, bit_not]
  interval_cases k <;> simp +decide

/-- Source: `hw/arm/apple-silicon/sep.c` `aess_handle_cmd` (`s->command & 0xff`). Kind: L -/
theorem command_and_0xff : c &&& 0xff = (SEP_AESS_CMD_WITHOUT_FLAGS c &&& 0xff) |||
    (c &&& SEP_AESS_CMD_FLAG_KEYSELECT_GID1) ||| (c &&& SEP_AESS_CMD_FLAG_KEYSELECT_CUSTOM) := by
  apply ext_bit_lt
  intro k hk
  simp only [SEP_AESS_CMD_WITHOUT_FLAGS, SEP_AESS_CMD_WITHOUT_KEYSIZE, SEP_AESS_CMD_FLAG_KEYSIZE_AES128,
    SEP_AESS_CMD_FLAG_KEYSIZE_AES192, SEP_AESS_CMD_FLAG_KEYSIZE_AES256, SEP_AESS_CMD_FLAG_KEYSELECT_GID0,
    SEP_AESS_CMD_FLAG_KEYSELECT_GID1, SEP_AESS_CMD_FLAG_KEYSELECT_CUSTOM, bit_and, bit_or, bit_not]
  interval_cases k <;> simp +decide

/-- A one-bit flag of a command is clear or set.
Source: `hw/arm/apple-silicon/sep.c` `aess_handle_cmd`
Kind: L -/
theorem command_flag_cases {m : UInt32} (hm : m = SEP_AESS_CMD_FLAG_KEYSELECT_GID1 ∨
    m = SEP_AESS_CMD_FLAG_KEYSELECT_CUSTOM ∨ m = SEP_AESS_CMD_FLAG_KEYSIZE_AES192 ∨
    m = SEP_AESS_CMD_FLAG_KEYSIZE_AES256) : c &&& m = 0 ∨ c &&& m = m := by
  obtain ⟨n, hn, rfl⟩ : ∃ n < 32, m = (1 : UInt32) <<< UInt32.ofNat n := by
    rcases hm with rfl | rfl | rfl | rfl
    · exact ⟨6, by decide, rfl⟩
    · exact ⟨7, by decide, rfl⟩
    · exact ⟨8, by decide, rfl⟩
    · exact ⟨9, by decide, rfl⟩
  exact and_one_shiftLeft_eq_zero_or c hn

/-- Flags added to a command leave its normalised value alone.
Source: `hw/arm/apple-silicon/sep.c` `SEP_AESS_CMD_WITHOUT_FLAGS`
Kind: L -/
theorem withoutFlags_or_of_eq_zero {flags : UInt32} (hf : SEP_AESS_CMD_WITHOUT_FLAGS flags = 0) :
    SEP_AESS_CMD_WITHOUT_FLAGS (flags ||| c) = SEP_AESS_CMD_WITHOUT_FLAGS c := by
  apply ext_bit
  intro k
  have hk : ¬ Bit (SEP_AESS_CMD_WITHOUT_FLAGS flags) k := hf ▸ bit_zero k
  simp only [SEP_AESS_CMD_WITHOUT_FLAGS, SEP_AESS_CMD_WITHOUT_KEYSIZE, bit_and, bit_or] at hk ⊢
  tauto

end Bits

/-- `get_aes_cipher_alg` fails exactly when both key size bits are set.
Source: `hw/arm/apple-silicon/sep.c` `get_aes_cipher_alg`
Kind: L -/
theorem getAesCipherAlg_eq_none_iff (flags : UInt32) :
    getAesCipherAlg flags = none ↔ flags &&& SEP_AESS_CMD_FLAG_KEYSIZE_AES192 ≠ 0 ∧
      flags &&& SEP_AESS_CMD_FLAG_KEYSIZE_AES256 ≠ 0 := by
  have hsplit : flags &&& (SEP_AESS_CMD_FLAG_KEYSIZE_AES128 ||| SEP_AESS_CMD_FLAG_KEYSIZE_AES192 |||
      SEP_AESS_CMD_FLAG_KEYSIZE_AES256) =
      (flags &&& SEP_AESS_CMD_FLAG_KEYSIZE_AES192) ||| (flags &&& SEP_AESS_CMD_FLAG_KEYSIZE_AES256) := by
    apply ext_bit_lt
    intro k hk
    simp only [SEP_AESS_CMD_FLAG_KEYSIZE_AES128, SEP_AESS_CMD_FLAG_KEYSIZE_AES192,
      SEP_AESS_CMD_FLAG_KEYSIZE_AES256, bit_and, bit_or]
    interval_cases k <;> simp +decide
  -- four cases of the two bits
  rcases command_flag_cases flags (Or.inr (Or.inr (Or.inl rfl))) with h₁ | h₁ <;>
    rcases command_flag_cases flags (Or.inr (Or.inr (Or.inr rfl))) with h₂ | h₂ <;>
    simp only [getAesCipherAlg, hsplit, h₁, h₂] <;> decide

/-- The slot commands that reach `aess_get_custom_keywrap_index` all have a slot: `0x1`, `0x8`,
and `0x6` without the custom flag.
Source: `hw/arm/apple-silicon/sep.c` `aess_get_custom_keywrap_index`
Kind: L -/
theorem aessGetCustomKeywrapIndex_isSome {c : UInt32}
    (h : SEP_AESS_CMD_WITHOUT_FLAGS c = 0x1 ∨ SEP_AESS_CMD_WITHOUT_FLAGS c = 0x8 ∨
      (SEP_AESS_CMD_WITHOUT_FLAGS c = 0x6 ∧ c &&& SEP_AESS_CMD_FLAG_KEYSELECT_CUSTOM = 0)) :
    (aessGetCustomKeywrapIndex (c &&& 0xff)).isSome := by
  rw [command_and_0xff]
  rcases h with h | h | ⟨h, hc⟩
  · rcases command_flag_cases c (Or.inl rfl) with h₁ | h₁ <;>
      rcases command_flag_cases c (Or.inr (Or.inl rfl)) with h₂ | h₂ <;>
      rw [h, h₁, h₂] <;> decide
  · rcases command_flag_cases c (Or.inl rfl) with h₁ | h₁ <;>
      rcases command_flag_cases c (Or.inr (Or.inl rfl)) with h₂ | h₂ <;>
      rw [h, h₁, h₂] <;> decide
  · -- `0x6` with the custom flag jumps past the lookup
    rcases command_flag_cases c (Or.inl rfl) with h₁ | h₁ <;> rw [h, h₁, hc] <;> decide

/-! ## What a command leaves alone -/

/-- The fuse registers: `reg_0x18_keydisable`, `seed_bits` and `seed_bits_lock`.
Source: `include/hw/arm/apple-silicon/sep.h` `AppleAESSState`
Kind: D -/
def AppleAESSState.fuses (s : AppleAESSState) : UInt32 × UInt32 × UInt32 :=
  (s.reg0x18Keydisable, s.seedBits, s.seedBitsLock)

section Frame

variable {bc : AesBlockCipher} {keys : AessKeys} {s : AppleAESSState}

/-- Source: `hw/arm/apple-silicon/sep.c` `aess_raise_interrupt`. Kind: L -/
theorem aessRaiseInterrupt_fuses (s : AppleAESSState) : (aessRaiseInterrupt s).1.fuses = s.fuses := by
  unfold aessRaiseInterrupt
  split <;> rfl

/-- Source: `hw/arm/apple-silicon/sep.c` `aess_keywrap_uid`. Kind: L -/
theorem aessKeywrapUid_fuses {u : List UInt32} {input : List CipherBlock} {alg : QCryptoCipherAlgo}
    {r : AppleAESSState × List CipherBlock × List AessEvent} (h : aessKeywrapUid bc u s input alg = some r) :
    r.1.fuses = s.fuses := by
  unfold aessKeywrapUid at h
  split at h
  · cases h
  · -- past the cipher calls and the rounds, the interrupt
    obtain ⟨key, -, h⟩ := Option.bind_eq_some_iff.mp h
    simp only [Option.bind_eq_bind, Option.bind_eq_some_iff, Option.pure_def, Option.some.injEq] at h
    obtain ⟨c₁, -, c₂, -, out, -, rfl⟩ := h
    exact aessRaiseInterrupt_fuses _

/-- Source: `hw/arm/apple-silicon/sep.c` `aess_handle_cmd`. Kind: L -/
theorem aessKeywrapCommand_fuses {u : List UInt32} {r : AppleAESSState × List AessEvent}
    (h : aessKeywrapCommand bc u s = some r) : r.1.fuses = s.fuses := by
  obtain ⟨r', hr', rfl⟩ := Option.map_eq_some_iff.mp h
  exact aessKeywrapUid_fuses hr'

/-- The object `qcrypto_cipher_new` gives a CBC command or the keywrap: the first `key_len`
bytes of `used_key`, and a zero IV.
Source: `crypto/cipher.c` `qcrypto_cipher_new`
Kind: D -/
def aessCipher (alg : QCryptoCipherAlgo) (key : Mem) : QCryptoCipher :=
  ⟨alg, .cbc, (key.read 0 0x20).take (qcryptoCipherGetKeyLen alg), zeroBlock⟩

/-- Source: `crypto/cipher.c` `qcrypto_cipher_new`. Kind: L -/
@[simp] theorem qcryptoCipherNew_aessCipher (alg : QCryptoCipherAlgo) (key : Mem) :
    (qcryptoCipherNew (some alg) (some .cbc) (key.read 0 0x20) (qcryptoCipherGetKeyLen alg)).toOption =
      some (aessCipher alg key) := by
  rw [qcryptoCipherNew_cbc]
  rfl

/-- **No cipher call of a CBC command aborts**: the object is made with its algorithm's key
length, in CBC mode, which takes IVs, and every buffer is a whole number of blocks. The command
writes `out_full` and nothing else.
Source: `hw/arm/apple-silicon/sep.c` `aess_handle_cmd`
Kind: L -/
theorem aessCbcRun_eq (fc c : Bool) (n : UInt32) (alg : QCryptoCipherAlgo) (key : Mem) :
    ∃ out, aessCbcRun bc s fc c n alg key = some { s with outFull := out } := by
  unfold aessCbcRun
  simp only [qcryptoCipherNew_aessCipher]
  split_ifs <;> simp [aessCipher, qcryptoCipherSetiv, qcryptoCipherEncrypt_eq, qcryptoCipherDecrypt_eq]

/-- A CBC command aborts only where its key does.
Source: `hw/arm/apple-silicon/sep.c` `aess_handle_cmd`
Kind: L -/
theorem aessCbcRun_bind_isSome (x : Option Mem) (fc c : Bool) (n : UInt32) (alg : QCryptoCipherAlgo) :
    (x.bind (aessCbcRun bc s fc c n alg)).isSome = x.isSome := by
  cases x with
  | none => rfl
  | some key =>
    obtain ⟨out, hout⟩ := @aessCbcRun_eq bc s fc c n alg key
    rw [Option.bind_some, hout]
    rfl

/-- The rounds of the keywrap do not abort: each encrypts a whole number of blocks.
Source: `hw/arm/apple-silicon/sep.c` `aess_keywrap_uid`
Kind: L -/
theorem keywrapRounds_isSome (c : QCryptoCipher) (n : ℕ) (bs : List CipherBlock) :
    (keywrapRounds bc c n bs).isSome := by
  induction n generalizing c bs with
  | zero => rfl
  | succ n ih =>
    rw [keywrapRounds, qcryptoCipherEncrypt_eq (by decide), toOption_ok, Option.bind_some]
    exact ih _ _

/-- The keywrap as the handler calls it, under AES-256, aborts only where its key does.
Source: `hw/arm/apple-silicon/sep.c` `aess_keywrap_uid`
Kind: L -/
theorem aessKeywrapUid_isSome {u : List UInt32} {input : List CipherBlock}
    (h : (aessKeywrapUsedKey u s).isSome) : (aessKeywrapUid bc u s input .aes256).isSome := by
  obtain ⟨key, hkey⟩ := Option.isSome_iff_exists.mp h
  unfold aessKeywrapUid
  rw [if_neg (by decide), hkey, Option.bind_some]
  simp [qcryptoCipherSetiv, aessCipher, Option.isSome_bind, keywrapRounds_isSome]

/-- Source: `hw/arm/apple-silicon/sep.c` `aess_handle_cmd`. Kind: L -/
theorem aessCbcCommand_fuses {g1 c inv : Bool} {n : UInt32} {alg : QCryptoCipherAlgo}
    {r : AppleAESSState} (h : aessCbcCommand bc keys s g1 c n alg inv = some r) : r.fuses = s.fuses := by
  unfold aessCbcCommand at h
  split at h
  · cases h
    rfl
  · obtain ⟨key, -, h⟩ := Option.bind_eq_some_iff.mp h
    obtain ⟨out, hout⟩ := @aessCbcRun_eq bc s _ _ _ _ key
    rw [hout, Option.some.injEq] at h
    rw [← h]
    rfl

/-- Source: `hw/arm/apple-silicon/sep.c` `aess_handle_cmd`. Kind: L -/
theorem aessCommand_fuses {n0 g1 c inv : Bool} {n : UInt32} {alg : QCryptoCipherAlgo}
    {r : AppleAESSState × List AessEvent} (h : aessCommand bc keys s n0 g1 c n alg inv = some r) :
    r.1.fuses = s.fuses := by
  unfold aessCommand at h
  split_ifs at h
  · cases h
    rfl
  · exact aessKeywrapCommand_fuses h
  · obtain ⟨r', hr', rfl⟩ := Option.map_eq_some_iff.mp h
    exact aessCbcCommand_fuses hr'
  all_goals first
    | (cases h; rfl)
    | (obtain ⟨r', hr', rfl⟩ := Option.map_eq_some_iff.mp h
       obtain ⟨i, -, rfl⟩ := Option.map_eq_some_iff.mp hr'
       rfl)

/-- A command leaves the fuse registers as they are.
Source: `hw/arm/apple-silicon/sep.c` `aess_handle_cmd`
Kind: L -/
theorem aessHandleCmd_fuses {r : AppleAESSState × List AessEvent} (h : aessHandleCmd bc keys s = some r) :
    r.1.fuses = s.fuses := by
  obtain ⟨alg, -, h⟩ := Option.bind_eq_some_iff.mp h
  obtain ⟨r', hr', rfl⟩ := Option.map_eq_some_iff.mp h
  simpa only [AppleAESSState.fuses] using aessCommand_fuses hr'

end Frame

/-! ## Which commands abort

`aess_handle_cmd` asserts in four places: `get_aes_cipher_alg` on a command with both key size
bits, `aess_get_custom_keywrap_index` on a command it has no slot for, and `aess_keywrap_uid` on an
algorithm other than AES-256 or a command other than `0x02` and `0x12`. Only the first can be
reached: the callers of the others pass the values they check. -/

section Abort

variable {bc : AesBlockCipher} {keys : AessKeys}

/-- Source: `hw/arm/apple-silicon/sep.c` `aess_handle_cmd`. Kind: L -/
theorem aessKeywrapCommand_isSome {u : List UInt32} {t : AppleAESSState}
    (h : SEP_AESS_CMD_WITHOUT_FLAGS t.command = 0x2 ∨ SEP_AESS_CMD_WITHOUT_FLAGS t.command = 0x12) :
    (aessKeywrapCommand bc u t).isSome := by
  unfold aessKeywrapCommand
  rw [Option.isSome_map]
  apply aessKeywrapUid_isSome
  unfold aessKeywrapUsedKey
  dsimp only
  split_ifs <;> simp_all

/-- Source: `hw/arm/apple-silicon/sep.c` `aess_handle_cmd`. Kind: L -/
theorem aessCbcCommand_isSome {t : AppleAESSState} {sel c inv : Bool} {n : UInt32}
    {alg : QCryptoCipherAlgo}
    (hidx : (n = SEP_AESS_COMMAND_ENCRYPT_CBC_ONLY_NONCUSTOM_FORCE_CUSTOM_AES256 ∧ c = false) ∨
      n = SEP_AESS_COMMAND_ENCRYPT_CBC_FORCE_CUSTOM_AES256 →
      (aessGetCustomKeywrapIndex (t.command &&& 0xff)).isSome) :
    (aessCbcCommand bc keys t sel c n alg inv).isSome := by
  unfold aessCbcCommand
  by_cases hskip : n = SEP_AESS_COMMAND_ENCRYPT_CBC_ONLY_NONCUSTOM_FORCE_CUSTOM_AES256 ∧ c = true
  · rw [if_pos hskip]
    rfl
  rw [if_neg hskip]
  dsimp only
  rw [aessCbcRun_bind_isSome]
  unfold aessCbcUsedKey
  by_cases hforce : (if n = SEP_AESS_COMMAND_ENCRYPT_CBC_ONLY_NONCUSTOM_FORCE_CUSTOM_AES256 then
      SEP_AESS_COMMAND_ENCRYPT_CBC_FORCE_CUSTOM_AES256 else n) = SEP_AESS_COMMAND_ENCRYPT_CBC_FORCE_CUSTOM_AES256
  · -- forced to a custom key: `0x8`, or `0x6` without the custom flag
    rw [if_pos (beq_iff_eq.mpr hforce), Option.isSome_map]
    apply hidx
    by_cases h6 : n = SEP_AESS_COMMAND_ENCRYPT_CBC_ONLY_NONCUSTOM_FORCE_CUSTOM_AES256
    · exact .inl ⟨h6, by simpa [h6] using hskip⟩
    · rw [if_neg h6] at hforce
      exact .inr hforce
  · rw [if_neg (by simpa using hforce)]
    split_ifs <;> rfl

/-- Source: `hw/arm/apple-silicon/sep.c` `aess_handle_cmd`. Kind: L -/
theorem aessCommand_isSome (t : AppleAESSState) (alg : QCryptoCipherAlgo) (inv : Bool) :
    (aessCommand bc keys t (SEP_AESS_CMD_FLAG_KEYSELECT_GID1_CUSTOM t.command != 0)
      (t.command &&& SEP_AESS_CMD_FLAG_KEYSELECT_GID1 != 0)
      (t.command &&& SEP_AESS_CMD_FLAG_KEYSELECT_CUSTOM != 0) (SEP_AESS_CMD_WITHOUT_FLAGS t.command)
      alg inv).isSome := by
  unfold aessCommand
  split_ifs with h₁ h₂ h₃ h₄ h₅ h₆
  · rfl
  · exact aessKeywrapCommand_isSome h₂.2
  · rw [Option.isSome_map]
    apply aessCbcCommand_isSome
    intro h
    apply aessGetCustomKeywrapIndex_isSome
    rcases h with ⟨h, hc⟩ | h
    · exact .inr (.inr ⟨h, by simpa using hc⟩)
    · exact .inr (.inl h)
  · rfl
  · rfl
  · rfl
  · rfl
  · rw [Option.isSome_map]
    unfold aessSetCustomKey
    rw [Option.isSome_map]
    exact aessGetCustomKeywrapIndex_isSome (.inl ‹_›)
  · rfl

/-- A command fails exactly when `get_aes_cipher_alg` does.
Source: `hw/arm/apple-silicon/sep.c` `aess_handle_cmd`
Kind: L -/
theorem aessHandleCmd_eq_none_iff (s : AppleAESSState) :
    aessHandleCmd bc keys s = none ↔ getAesCipherAlg s.command = none := by
  unfold aessHandleCmd
  dsimp only
  cases halg : getAesCipherAlg s.command with
  | none => simp
  | some alg =>
    simp only [Option.bind_some, Option.map_eq_none_iff, reduceCtorEq, iff_false]
    exact Option.isSome_iff_ne_none.mp (aessCommand_isSome _ alg _)

/-- Source: `hw/arm/apple-silicon/sep.c` `aess_base_reg_write`. Kind: L -/
theorem aessWriteRegister_eq_status_iff (addr : UInt64) :
    aessWriteRegister addr = .status ↔ addr = SEP_AESS_REGISTER_STATUS := by
  by_cases h : addr = SEP_AESS_REGISTER_STATUS
  · simp [aessWriteRegister, aessControlRegister, h]
  · simp only [aessWriteRegister, aessControlRegister, h, iff_false]
    split_ifs <;> simp_all

end Abort

/-- The register file aborts on exactly one kind of access: a write of `STATUS` with
`RUN_COMMAND` set while both key size bits of the command are set (`get_aes_cipher_alg`'s
`g_assert_not_reached`, which a `COMMAND` write of `0x300` reaches). Every other access, in any
state, completes: the other assertions of `aess_handle_cmd` cannot fire.
Source: `hw/arm/apple-silicon/sep.c` `aess_base_reg_write`, `aess_handle_cmd`, `get_aes_cipher_alg`,
`aess_get_custom_keywrap_index`, `aess_keywrap_uid`
Kind: P -/
theorem aess_step_aborts_iff (bc : AesBlockCipher) (keys : AessKeys) (x : AessAccess)
    (s : AppleAESSState) :
    aessStep bc keys x s = none ↔
      (∃ data size, x = .write SEP_AESS_REGISTER_STATUS data size ∧
        data.toUInt32 &&& SEP_AESS_REGISTER_STATUS_RUN_COMMAND ≠ 0) ∧
      s.command &&& SEP_AESS_CMD_FLAG_KEYSIZE_AES192 ≠ 0 ∧
      s.command &&& SEP_AESS_CMD_FLAG_KEYSIZE_AES256 ≠ 0 := by
  cases x with
  | read addr size => simp [aessStep]
  | write addr data size =>
    simp only [aessStep, aessBaseRegWrite, AessAccess.write.injEq]
    rw [← getAesCipherAlg_eq_none_iff, ← aessWriteRegister_eq_status_iff]
    cases aessWriteRegister addr
    case status =>
      dsimp only
      split_ifs with hrun
      · rw [aessHandleCmd_eq_none_iff]
        simp [hrun]
      · simp [hrun]
    all_goals simp

/-! ## The fuse registers over a run -/

/-- What one access may do to the fuse registers: `0x18` gains bits within `0x1b`, the lock gains
bits, and `SEED_BITS` takes new values only where the lock is clear.
Source: `hw/arm/apple-silicon/sep.c` `aess_base_reg_write`
Kind: D -/
def FuseStep (s t : AppleAESSState) : Prop :=
  (t.reg0x18Keydisable = s.reg0x18Keydisable ∨
      ∃ d : UInt32, t.reg0x18Keydisable = (d ||| s.reg0x18Keydisable) &&& 0x1b) ∧
  (t.seedBitsLock = s.seedBitsLock ∨ ∃ d : UInt32, t.seedBitsLock = d ||| s.seedBitsLock) ∧
  (t.seedBits = s.seedBits ∨
      ∃ d : UInt32, t.seedBits = (d &&& ~~~s.seedBitsLock) ||| (s.seedBits &&& s.seedBitsLock))

section FuseStep

variable {s t : AppleAESSState}

/-- Source: `hw/arm/apple-silicon/sep.c` `aess_base_reg_write`. Kind: L -/
theorem FuseStep.of_fuses (h : t.fuses = s.fuses) : FuseStep s t := by
  simp only [AppleAESSState.fuses, Prod.mk.injEq] at h
  obtain ⟨h₁, h₂, h₃⟩ := h
  exact ⟨.inl h₁, .inl h₃, .inl h₂⟩

/-- A bit of `0x1b` set in `reg_0x18_keydisable` stays set.
Source: `hw/arm/apple-silicon/sep.c` `aess_base_reg_write`
Kind: L -/
theorem FuseStep.keydisable (h : FuseStep s t) {k : ℕ} (hk : Bit 0x1b k)
    (hs : Bit s.reg0x18Keydisable k) : Bit t.reg0x18Keydisable k := by
  rcases h.1 with h | ⟨d, h⟩
  · rwa [h]
  · rw [h, bit_and, bit_or]
    exact ⟨.inr hs, hk⟩

/-- A locked seed bit stays locked and keeps its value.
Source: `hw/arm/apple-silicon/sep.c` `aess_base_reg_write`
Kind: L -/
theorem FuseStep.locked (h : FuseStep s t) {k : ℕ} (hk : Bit s.seedBitsLock k) :
    Bit t.seedBitsLock k ∧ (Bit t.seedBits k ↔ Bit s.seedBits k) := by
  refine ⟨?_, ?_⟩
  · rcases h.2.1 with h | ⟨d, h⟩
    · rwa [h]
    · rw [h, bit_or]
      exact .inr hk
  · rcases h.2.2 with h | ⟨d, h⟩
    · rw [h]
    · simp [h, hk]

end FuseStep

/-! The writes to the fuse registers compute in 64 bits and store the low half; or, and and not
act bit by bit, so the cut can come first. -/

/-- Source: `hw/arm/apple-silicon/sep.c` `aess_base_reg_write`. Kind: L -/
theorem keydisable_toUInt32 (data : UInt64) (kd : UInt32) :
    ((data ||| kd.toUInt64) &&& 0x1b).toUInt32 = (data.toUInt32 ||| kd) &&& 0x1b := by
  simp only [UInt64.toUInt32_and, UInt64.toUInt32_or, UInt32.toUInt32_toUInt64]
  rfl

/-- Source: `hw/arm/apple-silicon/sep.c` `aess_base_reg_write`. Kind: L -/
theorem seedBits_toUInt32 (data : UInt64) (seed lock : UInt32) :
    ((data &&& (~~~lock).toUInt64) ||| (seed &&& lock).toUInt64).toUInt32 =
      (data.toUInt32 &&& ~~~lock) ||| (seed &&& lock) := by
  simp only [UInt64.toUInt32_and, UInt64.toUInt32_or, UInt32.toUInt32_toUInt64]

/-- Source: `hw/arm/apple-silicon/sep.c` `aess_base_reg_write`. Kind: L -/
theorem seedBitsLock_toUInt32 (data : UInt64) (lock : UInt32) :
    (data ||| lock.toUInt64).toUInt32 = data.toUInt32 ||| lock := by
  simp only [UInt64.toUInt32_or, UInt32.toUInt32_toUInt64]

/-- Source: `hw/arm/apple-silicon/sep.c` `aess_base_reg_write`. Kind: L -/
theorem aessBaseRegWrite_fuseStep {bc : AesBlockCipher} {keys : AessKeys} {s : AppleAESSState}
    {addr data : UInt64} {size : ℕ} {r : AppleAESSState × List AessEvent}
    (h : aessBaseRegWrite bc keys s addr data size = some r) : FuseStep s r.1 := by
  unfold aessBaseRegWrite at h
  generalize aessWriteRegister addr = reg at h
  cases reg
  case status =>
    dsimp only at h
    split_ifs at h
    · apply FuseStep.of_fuses
      simpa only [AppleAESSState.fuses] using aessHandleCmd_fuses h
    · cases h
      exact FuseStep.of_fuses (by simp only [AppleAESSState.fuses])
  case keydisable =>
    cases h
    exact ⟨.inr ⟨data.toUInt32, keydisable_toUInt32 data _⟩, .inl rfl, .inl rfl⟩
  case seedBits =>
    cases h
    exact ⟨.inl rfl, .inl rfl, .inr ⟨data.toUInt32, seedBits_toUInt32 data _ _⟩⟩
  case seedBitsLock =>
    cases h
    exact ⟨.inl rfl, .inr ⟨data.toUInt32, seedBitsLock_toUInt32 data _⟩, .inl rfl⟩
  case interruptStatus =>
    cases h
    apply FuseStep.of_fuses
    split_ifs <;> simp only [AppleAESSState.fuses]
  -- the other registers hold no fuse
  all_goals
    cases h
    exact FuseStep.of_fuses (by simp only [AppleAESSState.fuses])

/-- Every access is a `FuseStep`.
Source: `hw/arm/apple-silicon/sep.c` `aess_base_reg_ops`
Kind: L -/
theorem aessStep_fuseStep {bc : AesBlockCipher} {keys : AessKeys} {x : AessAccess}
    {s : AppleAESSState} {r : AppleAESSState × List AessEvent} (h : aessStep bc keys x s = some r) :
    FuseStep s r.1 := by
  cases x with
  | write addr data size => exact aessBaseRegWrite_fuseStep h
  | read addr size =>
    cases h
    apply FuseStep.of_fuses
    unfold aessBaseRegRead
    cases aessReadRegister addr <;> simp only [AppleAESSState.fuses]

/-- Over every run of register accesses, `SEED_BITS_LOCK` only gains bits, and the bits of
`SEED_BITS` it held at the start keep their values. Induction over the run (`tracedRun_invariant`)
with the invariant "every bit locked at the start is locked and has its first value"; each step is
a `FuseStep`.
Source: `hw/arm/apple-silicon/sep.c` `aess_base_reg_write`
Kind: P -/
theorem aess_seed_bits_lock_holds (bc : AesBlockCipher) (keys : AessKeys) (xs : List AessAccess)
    (s : AppleAESSState) {r : AppleAESSState × List AessEvent}
    (h : tracedRun (aessStep bc keys) xs s = some r) :
    r.1.seedBitsLock &&& s.seedBitsLock = s.seedBitsLock ∧
      r.1.seedBits &&& s.seedBitsLock = s.seedBits &&& s.seedBitsLock := by
  have hbits : ∀ k, Bit s.seedBitsLock k → Bit r.1.seedBitsLock k ∧ (Bit r.1.seedBits k ↔ Bit s.seedBits k) := by
    intro k hk
    refine (tracedRun_invariant
      (fun t : AppleAESSState => Bit t.seedBitsLock k ∧ (Bit t.seedBits k ↔ Bit s.seedBits k))
      (fun _ => True) ?_ s r ⟨hk, Iff.rfl⟩ h).1
    intro x _ t r' ht hr'
    obtain ⟨hlock, hseed⟩ := (aessStep_fuseStep hr').locked ht.1
    exact ⟨⟨hlock, hseed.trans ht.2⟩, fun _ _ => trivial⟩
  constructor
  · apply ext_bit
    intro k
    rw [bit_and]
    exact ⟨And.right, fun hk => ⟨(hbits k hk).1, hk⟩⟩
  · apply ext_bit
    intro k
    rw [bit_and, bit_and]
    exact ⟨fun ⟨h₁, h₂⟩ => ⟨(hbits k h₂).2.mp h₁, h₂⟩, fun ⟨h₁, h₂⟩ => ⟨(hbits k h₂).2.mpr h₁, h₂⟩⟩

/-- The lock holds on a run that rewrites `SEED_BITS` and writes zero to the lock.
Source: `hw/arm/apple-silicon/sep.c` `aess_base_reg_write`
Kind: P -/
theorem aess_seed_bits_lock_holds_rewrite :
    ∃ r, tracedRun (aessStep aesIdentityCipher aessKeys)
        [.write SEP_AESS_REGISTER_SEED_BITS 0xff 4, .write SEP_AESS_REGISTER_SEED_BITS_LOCK 0 4]
        { aessResetState with seedBits := 0x50, seedBitsLock := 0xf0 } = some r ∧
      (r.1.seedBitsLock &&& 0xf0 = 0xf0 ∧ r.1.seedBits &&& 0xf0 = 0x50 &&& 0xf0) :=
  ⟨_, rfl, aess_seed_bits_lock_holds aesIdentityCipher aessKeys
    [.write SEP_AESS_REGISTER_SEED_BITS 0xff 4, .write SEP_AESS_REGISTER_SEED_BITS_LOCK 0 4]
    { aessResetState with seedBits := 0x50, seedBitsLock := 0xf0 } rfl⟩

/-! ## Disabled GID keys

An encryption or decryption under a GID key first asks `check_register_0x18_keydisable_bit_invalid`:
commands `0x09`/`0x0a` (GID0) look at bit 0 of `reg_0x18_keydisable`, `0x49`/`0x4a` (GID1) at bit 1,
and a set bit swaps in `AESS_KEY_FOR_DISABLED_KEY`. The register only gains bits, so once a bit is
set nothing the SEP can observe depends on that GID key again: the key tables that differ from
`keys` in the disabled GID keys only give the same runs (`aess_disabled_gid_keys_unobservable`). -/

section Gid

variable {bc : AesBlockCipher} {keys : AessKeys} {gid0 gid1 : List UInt32}

/-- A mask with one bit below 32 is nonzero in a word exactly when the word has the bit.
Source: `hw/arm/apple-silicon/sep.c` `check_register_0x18_keydisable_bit_invalid`
Kind: L -/
theorem keydisable_and_ne_zero {x : UInt32} {n : ℕ} (hn : n < 32) :
    (x &&& ((1 : UInt32) <<< UInt32.ofNat n) != 0) = decide (Bit x n) := by
  rw [Bool.eq_iff_iff, bne_iff_ne, decide_eq_true_iff, ne_eq, and_one_shiftLeft_eq_zero hn, not_not]

/-- A GID0 command (`0x09`, `0x0a`) checks bit 0 of `reg_0x18_keydisable`; with the GID1 flag
(`0x49`, `0x4a`) it checks bit 1.
Source: `hw/arm/apple-silicon/sep.c` `check_register_0x18_keydisable_bit_invalid`
Kind: L -/
theorem checkRegister0x18KeydisableBitInvalid_gid {s : AppleAESSState} (sel : Bool)
    (hcmd : SEP_AESS_CMD_WITHOUT_KEYSIZE s.command = 0x09 ||| (if sel then 0x40 else 0) ∨
      SEP_AESS_CMD_WITHOUT_KEYSIZE s.command = 0x0a ||| (if sel then 0x40 else 0)) :
    checkRegister0x18KeydisableBitInvalid s = decide (Bit s.reg0x18Keydisable (if sel then 1 else 0)) := by
  unfold checkRegister0x18KeydisableBitInvalid
  cases sel
  · rcases hcmd with h | h <;> simp only [h] <;> exact keydisable_and_ne_zero (n := 0) (by decide)
  · rcases hcmd with h | h <;> simp only [h] <;> exact keydisable_and_ne_zero (n := 1) (by decide)

/-- A CBC command under a GID key whose check passed has that key's disable bit clear: bit 1 with
the GID1 flag, bit 0 without.
Source: `hw/arm/apple-silicon/sep.c` `aess_handle_cmd`
Kind: L -/
theorem keydisable_clear_of_check {s : AppleAESSState}
    (hn : SEP_AESS_CMD_WITHOUT_FLAGS s.command = SEP_AESS_COMMAND_ENCRYPT_CBC ∨
      SEP_AESS_CMD_WITHOUT_FLAGS s.command = SEP_AESS_COMMAND_DECRYPT_CBC)
    (hc : s.command &&& SEP_AESS_CMD_FLAG_KEYSELECT_CUSTOM = 0)
    (hinv : checkRegister0x18KeydisableBitInvalid s = false) (sel : Bool)
    (hsel : (s.command &&& SEP_AESS_CMD_FLAG_KEYSELECT_GID1 != 0) = sel) :
    ¬ Bit s.reg0x18Keydisable (if sel then 1 else 0) := by
  -- the GID1 flag is the only key select bit left in the command without its key size
  have hflag : s.command &&& SEP_AESS_CMD_FLAG_KEYSELECT_GID1 = if sel then 0x40 else 0 := by
    rcases command_flag_cases s.command (Or.inl rfl) with hg | hg <;> rw [hg] at hsel ⊢ <;>
      subst hsel <;> rfl
  have hks : SEP_AESS_CMD_WITHOUT_KEYSIZE s.command =
      SEP_AESS_CMD_WITHOUT_FLAGS s.command ||| (if sel then 0x40 else 0) := by
    rw [withoutKeysize_eq, hc, hflag, UInt32.or_zero]
  rw [checkRegister0x18KeydisableBitInvalid_gid sel (by
      rw [hks]
      rcases hn with h | h <;> simp [h, SEP_AESS_COMMAND_ENCRYPT_CBC, SEP_AESS_COMMAND_DECRYPT_CBC]),
    decide_eq_false_iff_not] at hinv
  exact hinv

/-- The key of a CBC command depends on GID0 only when it selects GID0 and the check passed, and
on GID1 likewise.
Source: `hw/arm/apple-silicon/sep.c` `aess_handle_cmd`
Kind: L -/
theorem aessCbcUsedKey_gid_congr {s : AppleAESSState} {ce kc inv sel : Bool}
    (h0 : ce = false → kc = false → inv = false → sel = false → gid0 = keys.gid0)
    (h1 : ce = false → kc = false → inv = false → sel = true → gid1 = keys.gid1) :
    aessCbcUsedKey { keys with gid0 := gid0, gid1 := gid1 } s ce kc inv sel =
      aessCbcUsedKey keys s ce kc inv sel := by
  unfold aessCbcUsedKey
  cases ce <;> cases kc <;> cases inv <;> cases sel <;> simp_all

/-- Source: `hw/arm/apple-silicon/sep.c` `aess_handle_cmd`. Kind: L -/
theorem aessCbcCommand_gid_congr {s : AppleAESSState} {sel c inv : Bool} {n : UInt32}
    {alg : QCryptoCipherAlgo}
    (h0 : n ≠ SEP_AESS_COMMAND_ENCRYPT_CBC_ONLY_NONCUSTOM_FORCE_CUSTOM_AES256 →
      n ≠ SEP_AESS_COMMAND_ENCRYPT_CBC_FORCE_CUSTOM_AES256 → c = false → inv = false → sel = false →
      gid0 = keys.gid0)
    (h1 : n ≠ SEP_AESS_COMMAND_ENCRYPT_CBC_ONLY_NONCUSTOM_FORCE_CUSTOM_AES256 →
      n ≠ SEP_AESS_COMMAND_ENCRYPT_CBC_FORCE_CUSTOM_AES256 → c = false → inv = false → sel = true →
      gid1 = keys.gid1) :
    aessCbcCommand bc { keys with gid0 := gid0, gid1 := gid1 } s sel c n alg inv =
      aessCbcCommand bc keys s sel c n alg inv := by
  unfold aessCbcCommand
  by_cases hskip : n = SEP_AESS_COMMAND_ENCRYPT_CBC_ONLY_NONCUSTOM_FORCE_CUSTOM_AES256 ∧ c = true
  · rw [if_pos hskip, if_pos hskip]
  rw [if_neg hskip, if_neg hskip]
  -- only the key can differ; the command is forced to a custom key exactly for `0x6` and `0x8`
  dsimp only
  congr 1
  apply aessCbcUsedKey_gid_congr
  · intro hce hkc hinv hsel
    refine h0 ?_ ?_ ?_ hinv ?_ <;> split_ifs at hce hkc hsel <;> simp_all
  · intro hce hkc hinv hsel
    refine h1 ?_ ?_ ?_ hinv ?_ <;> split_ifs at hce hkc hsel <;> simp_all

/-- Source: `hw/arm/apple-silicon/sep.c` `aess_handle_cmd`. Kind: L -/
theorem aessCommand_gid_congr {s : AppleAESSState} {n0 sel c inv : Bool} {n : UInt32}
    {alg : QCryptoCipherAlgo}
    (hcbc : (n = SEP_AESS_COMMAND_ENCRYPT_CBC ∨ n = SEP_AESS_COMMAND_DECRYPT_CBC ∨
      n = SEP_AESS_COMMAND_ENCRYPT_CBC_FORCE_CUSTOM_AES256 ∨
      n = SEP_AESS_COMMAND_ENCRYPT_CBC_ONLY_NONCUSTOM_FORCE_CUSTOM_AES256) →
      aessCbcCommand bc { keys with gid0 := gid0, gid1 := gid1 } s sel c n alg inv =
        aessCbcCommand bc keys s sel c n alg inv) :
    aessCommand bc { keys with gid0 := gid0, gid1 := gid1 } s n0 sel c n alg inv =
      aessCommand bc keys s n0 sel c n alg inv := by
  unfold aessCommand
  split_ifs with h₁ h₂ h₃
  · rfl
  · rfl
  · rw [hcbc h₃]
  all_goals rfl

/-- The GID keys `gid0` and `gid1` may differ from those of `keys` only where
`reg_0x18_keydisable` has disabled them.
Source: `hw/arm/apple-silicon/sep.c` `check_register_0x18_keydisable_bit_invalid`
Kind: D -/
def GidKeysHidden (keys : AessKeys) (gid0 gid1 : List UInt32) (s : AppleAESSState) : Prop :=
  (¬ Bit s.reg0x18Keydisable 0 → gid0 = keys.gid0) ∧ (¬ Bit s.reg0x18Keydisable 1 → gid1 = keys.gid1)

/-- A command cannot tell hidden GID keys apart.
Source: `hw/arm/apple-silicon/sep.c` `aess_handle_cmd`
Kind: L -/
theorem aessHandleCmd_gid_congr {s : AppleAESSState} (hs : GidKeysHidden keys gid0 gid1 s) :
    aessHandleCmd bc { keys with gid0 := gid0, gid1 := gid1 } s = aessHandleCmd bc keys s := by
  unfold aessHandleCmd
  dsimp only
  congr 1
  funext alg
  congr 1
  apply aessCommand_gid_congr
  intro hcbc
  -- a CBC command not forced to a custom key is `0x9` or `0xa`
  have hn : ∀ n : UInt32, (n = SEP_AESS_COMMAND_ENCRYPT_CBC ∨ n = SEP_AESS_COMMAND_DECRYPT_CBC ∨
      n = SEP_AESS_COMMAND_ENCRYPT_CBC_FORCE_CUSTOM_AES256 ∨
      n = SEP_AESS_COMMAND_ENCRYPT_CBC_ONLY_NONCUSTOM_FORCE_CUSTOM_AES256) →
      n ≠ SEP_AESS_COMMAND_ENCRYPT_CBC_ONLY_NONCUSTOM_FORCE_CUSTOM_AES256 →
      n ≠ SEP_AESS_COMMAND_ENCRYPT_CBC_FORCE_CUSTOM_AES256 →
      n = SEP_AESS_COMMAND_ENCRYPT_CBC ∨ n = SEP_AESS_COMMAND_DECRYPT_CBC := by
    intro n hn h6 h8
    rcases hn with h | h | h | h <;> simp_all
  apply aessCbcCommand_gid_congr
  · intro h6 h8 hc hinv hsel
    apply hs.1
    exact keydisable_clear_of_check (hn _ hcbc h6 h8) (by simpa using hc) hinv false hsel
  · intro h6 h8 hc hinv hsel
    apply hs.2
    exact keydisable_clear_of_check (hn _ hcbc h6 h8) (by simpa using hc) hinv true hsel

/-- Source: `hw/arm/apple-silicon/sep.c` `aess_base_reg_write`. Kind: L -/
theorem aessStep_gid_congr {x : AessAccess} {s : AppleAESSState} (hs : GidKeysHidden keys gid0 gid1 s) :
    aessStep bc { keys with gid0 := gid0, gid1 := gid1 } x s = aessStep bc keys x s := by
  cases x with
  | read addr size => rfl
  | write addr data size =>
    simp only [aessStep, aessBaseRegWrite]
    cases aessWriteRegister addr
    case status =>
      dsimp only
      split_ifs
      · exact aessHandleCmd_gid_congr hs
      · rfl
    all_goals rfl

/-- Hidden GID keys stay hidden: the disable bits only gain.
Source: `hw/arm/apple-silicon/sep.c` `aess_base_reg_write`
Kind: L -/
theorem GidKeysHidden.step {x : AessAccess} {s : AppleAESSState} {r : AppleAESSState × List AessEvent}
    (h : aessStep bc keys x s = some r) (hs : GidKeysHidden keys gid0 gid1 s) :
    GidKeysHidden keys gid0 gid1 r.1 := by
  have hfs := aessStep_fuseStep h
  exact ⟨fun h0 => hs.1 fun hb => h0 (hfs.keydisable (by decide) hb),
    fun h1 => hs.2 fun hb => h1 (hfs.keydisable (by decide) hb)⟩

end Gid

/-- Once bit 0 of `reg_0x18_keydisable` is set, nothing the SEP observes depends on the GID0 key,
and once bit 1 is set, nothing depends on the GID1 key: over every run of register accesses, key
tables that differ only in disabled GID keys give the same values read, the same interrupts and the
same final state. The unwinding rule (`tracedRun_congr`) with `GidKeysHidden` as the invariant.
Source: `hw/arm/apple-silicon/sep.c` `aess_handle_cmd`, `check_register_0x18_keydisable_bit_invalid`,
`aess_base_reg_write`
Kind: P -/
theorem aess_disabled_gid_keys_unobservable (bc : AesBlockCipher) (keys : AessKeys)
    (gid0 gid1 : List UInt32) (xs : List AessAccess) (s : AppleAESSState)
    (hs : GidKeysHidden keys gid0 gid1 s) :
    tracedRun (aessStep bc { keys with gid0 := gid0, gid1 := gid1 }) xs s =
      tracedRun (aessStep bc keys) xs s :=
  tracedRun_congr (GidKeysHidden keys gid0 gid1) (fun _ _ _ ht hr => GidKeysHidden.step hr ht)
    (fun _ _ ht => aessStep_gid_congr ht) xs s hs

/-- With GID0 disabled, an AES-256 GID0 encryption and the read of its output do not depend on the
GID0 key.
Source: `hw/arm/apple-silicon/sep.c` `aess_handle_cmd`
Kind: P -/
theorem aess_disabled_gid_keys_unobservable_encrypt :
    tracedRun (aessStep aesIdentityCipher { aessKeys with gid0 := [], gid1 := aessKeys.gid1 })
        [.write SEP_AESS_REGISTER_COMMAND 0x209 4, .write SEP_AESS_REGISTER_STATUS 1 4,
          .read SEP_AESS_REGISTER_OUT 4] { aessResetState with reg0x18Keydisable := 1 } =
      tracedRun (aessStep aesIdentityCipher aessKeys)
        [.write SEP_AESS_REGISTER_COMMAND 0x209 4, .write SEP_AESS_REGISTER_STATUS 1 4,
          .read SEP_AESS_REGISTER_OUT 4] { aessResetState with reg0x18Keydisable := 1 } :=
  aess_disabled_gid_keys_unobservable _ _ _ _ _ _ ⟨fun h => absurd (by decide) h, fun _ => rfl⟩

/-! ## Decryption inverts encryption

`0x9` reads its IV from `IV` and its plaintext from `IN` and leaves the ciphertext in `OUT`; `0xa`
reads the ciphertext from `IV` (`in_dec`) and the IV from `IN` (`iv_dec`). Moving the ciphertext
and the IV over and running `0xa` with the same flags gives the plaintext back in `OUT`, under
any key the flags select, for a block function whose decryption inverts its encryption. -/

section RoundTrip

variable {bc : AesBlockCipher} {keys : AessKeys}

/-- Source: `hw/arm/apple-silicon/sep.c` `aess_handle_cmd`. Kind: L -/
theorem memBlock_memWriteBlocks_self (m : Mem) (p : ℕ) (b : CipherBlock) :
    memBlock (memWriteBlocks m p [b]) p = b := by
  funext i
  have hi : (i : ℕ) < (List.ofFn b).length := by simp
  simp only [memBlock, memWriteBlocks, List.flatMap_cons, List.flatMap_nil, List.append_nil]
  rw [Mem.write_apply_of_mem m _ i hi, List.getElem_ofFn]

/-- Source: `hw/arm/apple-silicon/sep.c` `aess_handle_cmd`. Kind: L -/
theorem memBlock_memWriteBlocks_of_le (m : Mem) {p q : ℕ} (h : q + 16 ≤ p) (b : CipherBlock) :
    memBlock (memWriteBlocks m q [b]) p = memBlock m p := by
  funext i
  simp only [memBlock, memWriteBlocks, List.flatMap_cons, List.flatMap_nil, List.append_nil]
  exact Mem.write_apply_of_le m _ (by simp; omega)

/-- Source: `hw/arm/apple-silicon/sep.c` `aess_handle_cmd`. Kind: L -/
theorem memBlock_memWriteBlocks_of_ge (m : Mem) {p q : ℕ} (h : p + 16 ≤ q) (bs : List CipherBlock) :
    memBlock (memWriteBlocks m q bs) p = memBlock m p := by
  funext i
  exact Mem.write_apply_of_lt m _ (by omega)

/-- Writing blocks one after the other.
Source: `hw/arm/apple-silicon/sep.c` `aess_handle_cmd`
Kind: L -/
theorem memWriteBlocks_cons (m : Mem) (p : ℕ) (b : CipherBlock) (bs : List CipherBlock) :
    memWriteBlocks m p (b :: bs) = memWriteBlocks (memWriteBlocks m p [b]) (p + 16) bs := by
  simp only [memWriteBlocks, List.flatMap_cons, List.flatMap_nil, List.append_nil]
  rw [Mem.write_append, List.length_ofFn]

/-- `0x9` not forced to a custom key: `OUT` holds the encryption of `in` from `iv`, and
`TAG_OUT` the IV.
Source: `hw/arm/apple-silicon/sep.c` `aess_handle_cmd`
Kind: L -/
theorem aessCbcRun_encrypt (t : AppleAESSState) (c : Bool) (alg : QCryptoCipherAlgo) (key : Mem) :
    ∃ t', aessCbcRun bc t false c SEP_AESS_COMMAND_ENCRYPT_CBC alg key = some t' ∧
      memBlock t'.outFull 0 = memBlock t.inFull 0 ∧
      [memBlock t'.outFull 16] =
        (encryptBlocks bc { aessCipher alg key with iv := memBlock t.inFull 0 } [memBlock t.inFull 16]).1 := by
  simp only [aessCbcRun, Bool.false_and, Bool.false_eq_true, if_false, if_true, qcryptoCipherNew_aessCipher,
    toOption_ok, qcryptoCipherEncrypt_eq (by decide : 0x10 % 16 = 0), Option.pure_def]
  refine ⟨_, rfl, memBlock_memWriteBlocks_self _ _ _, ?_⟩
  rw [encryptBlocks_cbc_singleton bc rfl, memBlock_memWriteBlocks_of_le _ (by omega),
    memBlock_memWriteBlocks_self]

/-- `0xa`: `OUT` holds the decryption of `in_dec` from `iv_dec`, by the object that decrypted
`TAG_OUT`.
Source: `hw/arm/apple-silicon/sep.c` `aess_handle_cmd`
Kind: L -/
theorem aessCbcRun_decrypt (t : AppleAESSState) (c : Bool) (alg : QCryptoCipherAlgo) (key : Mem) :
    ∃ t', aessCbcRun bc t false c SEP_AESS_COMMAND_DECRYPT_CBC alg key = some t' ∧
      [memBlock t'.outFull 16] = (decryptBlocks bc { (decryptBlocks bc (aessCipher alg key)
        [memBlock t.inFull 0]).2 with iv := memBlock t.inFull 16 } [memBlock t.inFull 0]).1 := by
  have hmode : (decryptBlocks bc (aessCipher alg key) [memBlock t.inFull 0]).2.mode = .cbc :=
    decryptBlocks_mode bc _ _
  simp only [aessCbcRun, Bool.false_and, Bool.false_eq_true, if_false, qcryptoCipherNew_aessCipher,
    show SEP_AESS_COMMAND_DECRYPT_CBC ≠ SEP_AESS_COMMAND_ENCRYPT_CBC by decide,
    qcryptoCipherDecrypt_eq (by decide : 0x10 % 16 = 0), toOption_ok, Option.pure_def]
  refine ⟨_, rfl, ?_⟩
  rw [decryptBlocks_cbc_singleton bc (c := { (decryptBlocks bc (aessCipher alg key)
    [memBlock t.inFull 0]).2 with iv := memBlock t.inFull 16 }) hmode, memBlock_memWriteBlocks_self]

/-- Without a forced custom key the key is `key_256_in` or a table's; it always exists.
Source: `hw/arm/apple-silicon/sep.c` `aess_handle_cmd`
Kind: L -/
theorem aessCbcUsedKey_noncustom_isSome (s : AppleAESSState) (kc inv sel : Bool) :
    (aessCbcUsedKey keys s false kc inv sel).isSome := by
  simp only [aessCbcUsedKey, Bool.false_eq_true, if_false]
  split_ifs <;> rfl

/-- Without a forced custom key the rest of the state than `key_256_in` does not matter.
Source: `hw/arm/apple-silicon/sep.c` `aess_handle_cmd`
Kind: L -/
theorem aessCbcUsedKey_noncustom_congr {s t : AppleAESSState} {kc inv sel : Bool}
    (h : t.key256In = s.key256In) :
    aessCbcUsedKey keys t false kc inv sel = aessCbcUsedKey keys s false kc inv sel := by
  simp only [aessCbcUsedKey, Bool.false_eq_true, if_false, h]

/-- `aess_handle_cmd` on `0x9` or `0xa`: the CBC work of `aessCbcRun` on the state with `out_full`
cleared, under the key the flags select, which does not abort; only `interrupt_status` and
`out_full` change.
Source: `hw/arm/apple-silicon/sep.c` `aess_handle_cmd`
Kind: L -/
theorem aessHandleCmd_cbc {s : AppleAESSState} {alg : QCryptoCipherAlgo}
    (hn : SEP_AESS_CMD_WITHOUT_FLAGS s.command = SEP_AESS_COMMAND_ENCRYPT_CBC ∨
      SEP_AESS_CMD_WITHOUT_FLAGS s.command = SEP_AESS_COMMAND_DECRYPT_CBC)
    (halg : getAesCipherAlg s.command = some alg) :
    ∃ key out, aessCbcUsedKey keys s false (s.command &&& SEP_AESS_CMD_FLAG_KEYSELECT_CUSTOM != 0)
        (checkRegister0x18KeydisableBitInvalid s) (s.command &&& SEP_AESS_CMD_FLAG_KEYSELECT_GID1 != 0) =
          some key ∧
      aessCbcRun bc { s with interruptStatus := 0, outFull := s.outFull.write 0 (List.replicate 32 0) }
        false (s.command &&& SEP_AESS_CMD_FLAG_KEYSELECT_CUSTOM != 0) (SEP_AESS_CMD_WITHOUT_FLAGS s.command)
        alg key = some { s with interruptStatus := 0, outFull := out } ∧
      aessHandleCmd bc keys s = some ({ s with
        interruptStatus :=
          (if checkRegister0x18KeydisableBitInvalid s then (1 : UInt32) else 0) <<< 1 ||| 1
        outFull := out }, []) := by
  set n := SEP_AESS_CMD_WITHOUT_FLAGS s.command with hn_def
  -- `0x9` and `0xa` are neither `0xb`, the keywrap commands, nor the forced custom ones
  have hcases : ∀ P : UInt32 → Prop, P SEP_AESS_COMMAND_ENCRYPT_CBC → P SEP_AESS_COMMAND_DECRYPT_CBC →
      P n := fun P h9 ha => hn.elim (· ▸ h9) (· ▸ ha)
  have hb : n ≠ SEP_AESS_COMMAND_0xb := hcases (· ≠ SEP_AESS_COMMAND_0xb) (by decide) (by decide)
  have hw : ¬ (n = 0x2 ∨ n = 0x12) := hcases (fun n => ¬ (n = 0x2 ∨ n = 0x12)) (by decide) (by decide)
  have h6 : n ≠ SEP_AESS_COMMAND_ENCRYPT_CBC_ONLY_NONCUSTOM_FORCE_CUSTOM_AES256 :=
    hcases (· ≠ SEP_AESS_COMMAND_ENCRYPT_CBC_ONLY_NONCUSTOM_FORCE_CUSTOM_AES256) (by decide) (by decide)
  have h8 : (n == SEP_AESS_COMMAND_ENCRYPT_CBC_FORCE_CUSTOM_AES256) = false :=
    hcases (fun n => (n == SEP_AESS_COMMAND_ENCRYPT_CBC_FORCE_CUSTOM_AES256) = false) (by decide) (by decide)
  have hcbc : n = SEP_AESS_COMMAND_ENCRYPT_CBC ∨ n = SEP_AESS_COMMAND_DECRYPT_CBC ∨
      n = SEP_AESS_COMMAND_ENCRYPT_CBC_FORCE_CUSTOM_AES256 ∨
      n = SEP_AESS_COMMAND_ENCRYPT_CBC_ONLY_NONCUSTOM_FORCE_CUSTOM_AES256 :=
    hn.elim Or.inl fun h => Or.inr (Or.inl h)
  obtain ⟨key, hkey⟩ := Option.isSome_iff_exists.mp (@aessCbcUsedKey_noncustom_isSome keys s
    (s.command &&& SEP_AESS_CMD_FLAG_KEYSELECT_CUSTOM != 0) (checkRegister0x18KeydisableBitInvalid s)
    (s.command &&& SEP_AESS_CMD_FLAG_KEYSELECT_GID1 != 0))
  obtain ⟨out, hout⟩ := @aessCbcRun_eq bc
    { s with interruptStatus := 0, outFull := s.outFull.write 0 (List.replicate 32 0) } false
    (s.command &&& SEP_AESS_CMD_FLAG_KEYSELECT_CUSTOM != 0) n alg key
  refine ⟨key, out, hkey, hout, ?_⟩
  unfold aessHandleCmd
  dsimp only
  rw [halg, Option.bind_some]
  unfold aessCommand
  rw [← hn_def]
  simp only [hb, hw, and_false, if_false]
  rw [if_pos hcbc]
  unfold aessCbcCommand
  simp only [h6, false_and, if_false]
  rw [h8, Bool.not_false, Bool.true_and, Bool.false_or]
  erw [hkey]
  rw [Option.bind_some, hout, Option.map_some, Option.map_some]
  simp only [UInt32.zero_and, UInt32.or_zero]

/-- A command bit the key size mask misses leaves the algorithm alone.
Source: `hw/arm/apple-silicon/sep.c` `get_aes_cipher_alg`
Kind: L -/
theorem getAesCipherAlg_or {flags n : UInt32}
    (hn : n &&& (SEP_AESS_CMD_FLAG_KEYSIZE_AES128 ||| SEP_AESS_CMD_FLAG_KEYSIZE_AES192 |||
      SEP_AESS_CMD_FLAG_KEYSIZE_AES256) = 0) :
    getAesCipherAlg (flags ||| n) = getAesCipherAlg flags := by
  simp only [getAesCipherAlg, or_and_of_and_eq_zero hn]

/-- `0x09` and `0x0a` under the same flags check the same disable bit.
Source: `hw/arm/apple-silicon/sep.c` `check_register_0x18_keydisable_bit_invalid`
Kind: L -/
theorem checkRegister0x18KeydisableBitInvalid_decrypt {s t : AppleAESSState} {flags : UInt32}
    (hf : SEP_AESS_CMD_WITHOUT_FLAGS flags = 0) (hs : s.command = flags ||| SEP_AESS_COMMAND_ENCRYPT_CBC)
    (ht : t.command = flags ||| SEP_AESS_COMMAND_DECRYPT_CBC)
    (hkd : t.reg0x18Keydisable = s.reg0x18Keydisable) :
    checkRegister0x18KeydisableBitInvalid t = checkRegister0x18KeydisableBitInvalid s := by
  -- without its key size, either command is itself with the key select bits of `flags`
  have hks : ∀ n, SEP_AESS_CMD_WITHOUT_FLAGS n = n → n &&& SEP_AESS_CMD_FLAG_KEYSELECT_GID1 = 0 →
      n &&& SEP_AESS_CMD_FLAG_KEYSELECT_CUSTOM = 0 →
      SEP_AESS_CMD_WITHOUT_KEYSIZE (flags ||| n) = n ||| (flags &&& SEP_AESS_CMD_FLAG_KEYSELECT_GID1) |||
        (flags &&& SEP_AESS_CMD_FLAG_KEYSELECT_CUSTOM) := by
    intro n h₀ h₁ h₂
    rw [withoutKeysize_eq, withoutFlags_or_of_eq_zero _ hf, h₀, or_and_of_and_eq_zero h₁,
      or_and_of_and_eq_zero h₂]
  simp only [checkRegister0x18KeydisableBitInvalid]
  rw [hs, ht, hks _ (by decide) (by decide) (by decide), hks _ (by decide) (by decide) (by decide), hkd]
  rcases command_flag_cases flags (Or.inl rfl) with h₁ | h₁ <;>
    rcases command_flag_cases flags (Or.inr (Or.inl rfl)) with h₂ | h₂ <;>
    rw [h₁, h₂] <;> simp +decide only

/-- `0x9`: `out` is `in` encrypted from `iv` and `tag_out` is `iv`; the command, the disable
register and `key_256_in` are left alone.
Source: `hw/arm/apple-silicon/sep.c` `aess_handle_cmd`
Kind: L -/
theorem aessHandleCmd_encrypt {s : AppleAESSState} {alg : QCryptoCipherAlgo}
    (hn : SEP_AESS_CMD_WITHOUT_FLAGS s.command = SEP_AESS_COMMAND_ENCRYPT_CBC)
    (halg : getAesCipherAlg s.command = some alg) :
    ∃ key t, aessCbcUsedKey keys s false (s.command &&& SEP_AESS_CMD_FLAG_KEYSELECT_CUSTOM != 0)
        (checkRegister0x18KeydisableBitInvalid s) (s.command &&& SEP_AESS_CMD_FLAG_KEYSELECT_GID1 != 0) =
          some key ∧
      aessHandleCmd bc keys s = some (t, []) ∧ t.command = s.command ∧
      t.reg0x18Keydisable = s.reg0x18Keydisable ∧ t.key256In = s.key256In ∧
      memBlock t.outFull 0 = memBlock s.inFull 0 ∧
      [memBlock t.outFull 16] =
        (encryptBlocks bc { aessCipher alg key with iv := memBlock s.inFull 0 } [memBlock s.inFull 16]).1 := by
  obtain ⟨key, out, hkey, hrun, h⟩ := @aessHandleCmd_cbc bc keys s alg (.inl hn) halg
  rw [hn] at hrun
  obtain ⟨t', ht', htag, hout⟩ := @aessCbcRun_encrypt bc
    { s with interruptStatus := 0, outFull := s.outFull.write 0 (List.replicate 32 0) }
    (s.command &&& SEP_AESS_CMD_FLAG_KEYSELECT_CUSTOM != 0) alg key
  -- the run's state is the one the handler keeps `out_full` of
  obtain rfl : { s with interruptStatus := 0, outFull := out } = t' :=
    Option.some_injective _ (hrun.symm.trans ht')
  exact ⟨key, _, hkey, h, rfl, rfl, rfl, htag, hout⟩

/-- `0xa`: `out` is `in_dec` decrypted from `iv_dec`, by the object that decrypted `tag_out`.
Source: `hw/arm/apple-silicon/sep.c` `aess_handle_cmd`
Kind: L -/
theorem aessHandleCmd_decrypt {s : AppleAESSState} {alg : QCryptoCipherAlgo}
    (hn : SEP_AESS_CMD_WITHOUT_FLAGS s.command = SEP_AESS_COMMAND_DECRYPT_CBC)
    (halg : getAesCipherAlg s.command = some alg) :
    ∃ key u, aessCbcUsedKey keys s false (s.command &&& SEP_AESS_CMD_FLAG_KEYSELECT_CUSTOM != 0)
        (checkRegister0x18KeydisableBitInvalid s) (s.command &&& SEP_AESS_CMD_FLAG_KEYSELECT_GID1 != 0) =
          some key ∧
      aessHandleCmd bc keys s = some (u, []) ∧
      [memBlock u.outFull 16] = (decryptBlocks bc { (decryptBlocks bc (aessCipher alg key)
        [memBlock s.inFull 0]).2 with iv := memBlock s.inFull 16 } [memBlock s.inFull 0]).1 := by
  obtain ⟨key, out, hkey, hrun, h⟩ := @aessHandleCmd_cbc bc keys s alg (.inr hn) halg
  rw [hn] at hrun
  obtain ⟨t', ht', hout⟩ := @aessCbcRun_decrypt bc
    { s with interruptStatus := 0, outFull := s.outFull.write 0 (List.replicate 32 0) }
    (s.command &&& SEP_AESS_CMD_FLAG_KEYSELECT_CUSTOM != 0) alg key
  obtain rfl : { s with interruptStatus := 0, outFull := out } = t' :=
    Option.some_injective _ (hrun.symm.trans ht')
  exact ⟨key, _, hkey, h, hout⟩

end RoundTrip

/-- Decryption with the flags of an encryption gives the plaintext back: in any state, for any key
selection and key size the flags name, after `0x9` encrypts `in` from `iv`, writing `out` and
`tag_out` back to `in_full` (as `in_dec` and `iv_dec`) and running `0xa` leaves `in` in `out`.
Both commands use the same key: the GID checks of `0x09` and `0x0a` look at the same disable bit,
and `key_256_in` is left alone. The block cipher is any whose decryption inverts its encryption.
Source: `hw/arm/apple-silicon/sep.c` `aess_handle_cmd`, `check_register_0x18_keydisable_bit_invalid`,
`get_aes_cipher_alg`
Kind: P -/
theorem aess_cbc_decrypt_inverts_encrypt (bc : AesBlockCipher) (keys : AessKeys)
    (hbc : ∀ alg key b, bc.decrypt alg key (bc.encrypt alg key b) = b) (s : AppleAESSState)
    (flags : UInt32) (hflags : SEP_AESS_CMD_WITHOUT_FLAGS flags = 0) (halg : getAesCipherAlg flags ≠ none) :
    ∃ t u, aessHandleCmd bc keys { s with command := flags ||| SEP_AESS_COMMAND_ENCRYPT_CBC } = some t ∧
      aessHandleCmd bc keys { t.1 with
        command := flags ||| SEP_AESS_COMMAND_DECRYPT_CBC
        inFull := memWriteBlocks t.1.inFull 0 [memBlock t.1.outFull 16, memBlock t.1.outFull 0] } = some u ∧
      memBlock u.1.outFull 16 = memBlock s.inFull 16 := by
  obtain ⟨alg, halg⟩ := Option.ne_none_iff_exists'.mp halg
  have hcmd : ∀ n, SEP_AESS_CMD_WITHOUT_FLAGS n = n → SEP_AESS_CMD_WITHOUT_FLAGS (flags ||| n) = n :=
    fun n hn => (withoutFlags_or_of_eq_zero n hflags).trans hn
  -- the two commands carry the same key select bits
  have hflag : ∀ m, m = SEP_AESS_CMD_FLAG_KEYSELECT_GID1 ∨ m = SEP_AESS_CMD_FLAG_KEYSELECT_CUSTOM →
      (flags ||| SEP_AESS_COMMAND_DECRYPT_CBC) &&& m = (flags ||| SEP_AESS_COMMAND_ENCRYPT_CBC) &&& m := by
    rintro m (rfl | rfl) <;> rw [or_and_of_and_eq_zero (by decide), or_and_of_and_eq_zero (by decide)]
  set s₁ : AppleAESSState := { s with command := flags ||| SEP_AESS_COMMAND_ENCRYPT_CBC } with hs₁
  obtain ⟨key, t, hkey, henc, htc, htkd, htk, htag, hout⟩ := @aessHandleCmd_encrypt bc keys s₁
    alg (hcmd _ (by decide)) ((getAesCipherAlg_or (by decide)).trans halg)
  set s₂ : AppleAESSState := { t with
    command := flags ||| SEP_AESS_COMMAND_DECRYPT_CBC
    inFull := memWriteBlocks t.inFull 0 [memBlock t.outFull 16, memBlock t.outFull 0] } with hs₂
  obtain ⟨key', u, hkey', hdec, hu⟩ := @aessHandleCmd_decrypt bc keys s₂ alg
    (hcmd _ (by decide)) ((getAesCipherAlg_or (by decide)).trans halg)
  refine ⟨(t, []), (u, []), henc, hdec, ?_⟩
  -- `0xa` finds the key `0x9` used
  have hkk : key' = key := by
    have hchk : checkRegister0x18KeydisableBitInvalid s₂ = checkRegister0x18KeydisableBitInvalid s₁ :=
      checkRegister0x18KeydisableBitInvalid_decrypt hflags rfl rfl htkd
    rw [hchk, hflag _ (.inl rfl), hflag _ (.inr rfl), aessCbcUsedKey_noncustom_congr (t := s₂) (s := s₁) htk]
      at hkey'
    exact Option.some_injective _ (hkey'.symm.trans hkey)
  -- `in_dec` is the ciphertext and `iv_dec` the IV
  have hin₀ : memBlock s₂.inFull 0 = memBlock t.outFull 16 := by
    rw [hs₂, memWriteBlocks_cons, memBlock_memWriteBlocks_of_ge _ (by omega), memBlock_memWriteBlocks_self]
  have hin₁ : memBlock s₂.inFull 16 = memBlock t.outFull 0 := by
    rw [hs₂, memWriteBlocks_cons, Nat.zero_add, memBlock_memWriteBlocks_self]
  apply List.singleton_inj.mp
  rw [hu, hin₀, hin₁, htag, hkk, hout]
  -- the object that decrypts has the encrypting one's algorithm and key
  exact decryptBlocks_encryptBlocks_cbc hbc rfl (by simp [aessCipher]) (by simp) (by simp) rfl _

/-- Exchange the blocks `p` and `c` and leave every other block alone.
Source: none: fixture
Kind: D -/
def blockSwap (p c b : CipherBlock) : CipherBlock := if b = p then c else if b = c then p else b

/-- An exchange is its own inverse.
Source: none: fixture
Kind: L -/
theorem blockSwap_blockSwap (p c b : CipherBlock) : blockSwap p c (blockSwap p c b) = b := by
  unfold blockSwap
  split_ifs <;> simp_all

/-- AES-256 of the zero block under the bytes of `AESS_GID1`, as the FIPS-197 cipher (OpenSSL's
`aes-256-ecb`) computes it.
Source: none: fixture
Kind: D -/
def gid1ZeroCiphertext : CipherBlock := fun i =>
  [0xf8, 0xd7, 0xed, 0xe3, 0x77, 0x08, 0xb4, 0x00, 0x7c, 0x24, 0x26, 0xb5, 0x59, 0x3b, 0x02, 0xad].getD i 0

/-- A block function that agrees with AES-256 under the GID1 key on the blocks the round trip
below takes: it exchanges the zero block and its ciphertext, and leaves every other block alone.
Source: none: fixture
Kind: D -/
def aesGid1Cipher : AesBlockCipher :=
  ⟨fun _ _ => blockSwap zeroBlock gid1ZeroCiphertext, fun _ _ => blockSwap zeroBlock gid1ZeroCiphertext⟩

/-- A GID1 AES-256 encryption of the zero block from the zero IV under the source's tables,
decrypted again.
Source: `hw/arm/apple-silicon/sep.c` `aess_handle_cmd`
Kind: P -/
theorem aess_cbc_decrypt_inverts_encrypt_gid1 :
    ∃ t u, aessHandleCmd aesGid1Cipher aessKeys
        { aessResetState with command := 0x240 ||| SEP_AESS_COMMAND_ENCRYPT_CBC } = some t ∧
      aessHandleCmd aesGid1Cipher aessKeys { t.1 with
        command := 0x240 ||| SEP_AESS_COMMAND_DECRYPT_CBC
        inFull := memWriteBlocks t.1.inFull 0 [memBlock t.1.outFull 16, memBlock t.1.outFull 0] } = some u ∧
      memBlock u.1.outFull 16 = memBlock aessResetState.inFull 16 :=
  aess_cbc_decrypt_inverts_encrypt aesGid1Cipher aessKeys (fun _ _ b => blockSwap_blockSwap _ _ b)
    aessResetState 0x240 (by decide) (by decide)

end QemuAppleSilicon.Sep
