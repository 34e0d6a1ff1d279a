import QemuAppleSilicon.Misc.Aes
import QemuAppleSilicon.Sep.Aess

/-!
# The AES engine's commands (`hw/misc/apple-silicon/aes.c`, `aes_process_command`)

The worker thread `aes_thread` takes the commands the guest queued through `COMMAND_FIFO` and
runs each through `aes_process_command`. A `KEY` command loads key context `0` or `1`: a
software key becomes a QEMU cipher object (`qcrypto_cipher_new(..., &error_abort)`), a hardware
key disables the context. An `IV` command loads one of four IV registers. A `DATA` command reads
`len` bytes by DMA, sets the cipher's IV from an IV register, encrypts or decrypts, reads the IV
back into the register and writes the result by DMA; a length that is not a whole number of
blocks, or a disabled key, only raises an interrupt status bit. `STORE_IV` writes an IV register
by DMA, `FLAG` records a code and may stop the engine or raise `flag_command`, and `DSB` does
nothing.

The block cipher is the parameter `AesBlockCipher`; the engine's state `AesEngineState` holds the
key contexts, the IV registers, the bits of the registers `aes_process_command` writes, and the
guest memory DMA reaches. `aesProcessCommand` returns `none` where QEMU aborts.

* `aes_process_command_aborts_iff` — the commands that abort QEMU: a software `KEY` whose block
  mode or key length code is `3` (`qcrypto_cipher_new` fails into `&error_abort`), and a `DATA`
  command that reaches an ECB cipher, whose `setiv` and `getiv` both fail into one `Error *`, so
  that the second fails `assert(*errp == NULL)`. Through `aesProcessKey_eq_none_iff` (the key
  tables `key_size` and `key_algo` agree with `qcrypto_cipher_get_key_len`) and
  `aesDataTransfer_eq_none_iff`.
-/

namespace QemuAppleSilicon.Misc

open QemuAppleSilicon.Lib QemuAppleSilicon.Qemu QemuAppleSilicon.Crypto
open QemuAppleSilicon.Sep (memBlock memWriteBlocks)

/-! ## A command's buffer -/

/-- Word `i` of a command's buffer (`cmd->data[i]`), `0` past its end.
Source: `hw/misc/apple-silicon/aes.c` `aes_process_command`
Kind: D -/
def AESCommand.word (cmd : AESCommand) (i : ℕ) : UInt32 := cmd.data.getD i 0

/-- The bytes from `&cmd->data[1]` on, as `memcpy` reads them.
Source: `hw/misc/apple-silicon/aes.c` `aes_process_command`
Kind: D -/
def AESCommand.payload (cmd : AESCommand) : List UInt8 := wordsToBytes (cmd.data.drop 1)

/-- The first 16 payload bytes as a block (`memcpy(s->iv[ctx], &cmd->data[1], 16)`).
Source: `hw/misc/apple-silicon/aes.c` `aes_process_command` (`OPCODE_IV`)
Kind: D -/
def AESCommand.payloadBlock (cmd : AESCommand) : CipherBlock := fun i => cmd.payload.getD i 0

namespace AesEngine

/-! ## Command fields -/

/-- Source: `include/hw/misc/apple-silicon/aes_reg.h` `BLOCK_MODE_ECB`. Kind: D -/
def BLOCK_MODE_ECB : UInt32 := 0
/-- Source: `include/hw/misc/apple-silicon/aes_reg.h` `BLOCK_MODE_CBC`. Kind: D -/
def BLOCK_MODE_CBC : UInt32 := 1
/-- Source: `include/hw/misc/apple-silicon/aes_reg.h` `BLOCK_MODE_CTR`. Kind: D -/
def BLOCK_MODE_CTR : UInt32 := 2
/-- Source: `include/hw/misc/apple-silicon/aes_reg.h` `KEY_LEN_128`. Kind: D -/
def KEY_LEN_128 : UInt32 := 0
/-- Source: `include/hw/misc/apple-silicon/aes_reg.h` `KEY_LEN_192`. Kind: D -/
def KEY_LEN_192 : UInt32 := 1
/-- Source: `include/hw/misc/apple-silicon/aes_reg.h` `KEY_LEN_256`. Kind: D -/
def KEY_LEN_256 : UInt32 := 2

/-- Source: `include/hw/misc/apple-silicon/aes_reg.h` `COMMAND_KEY_COMMAND_KEY_CONTEXT`. Kind: D -/
def COMMAND_KEY_COMMAND_KEY_CONTEXT (x : UInt32) : UInt32 := (x >>> 27) &&& 0x1
/-- Source: `include/hw/misc/apple-silicon/aes_reg.h` `COMMAND_KEY_COMMAND_ENCRYPT`. Kind: D -/
def COMMAND_KEY_COMMAND_ENCRYPT : UInt32 := (1 : UInt32) <<< 20
/-- Source: `include/hw/misc/apple-silicon/aes_reg.h` `COMMAND_KEY_COMMAND_BLOCK_MODE`. Kind: D -/
def COMMAND_KEY_COMMAND_BLOCK_MODE (x : UInt32) : UInt32 := (x >>> 16) &&& 0x3
/-- Source: `include/hw/misc/apple-silicon/aes_reg.h` `COMMAND_KEY_COMMAND_COMMAND_ID`. Kind: D -/
def COMMAND_KEY_COMMAND_COMMAND_ID (x : UInt32) : UInt32 := (x >>> 0) &&& 0xFF
/-- Source: `include/hw/misc/apple-silicon/aes_reg.h` `COMMAND_IV_COMMAND_IV_CONTEXT`. Kind: D -/
def COMMAND_IV_COMMAND_IV_CONTEXT (x : UInt32) : UInt32 := (x >>> 26) &&& 0x3
/-- Source: `include/hw/misc/apple-silicon/aes_reg.h` `COMMAND_DATA_COMMAND_KEY_CONTEXT`. Kind: D -/
def COMMAND_DATA_COMMAND_KEY_CONTEXT (x : UInt32) : UInt32 := (x >>> 27) &&& 0x1
/-- Source: `include/hw/misc/apple-silicon/aes_reg.h` `COMMAND_DATA_COMMAND_IV_CONTEXT`. Kind: D -/
def COMMAND_DATA_COMMAND_IV_CONTEXT (x : UInt32) : UInt32 := (x >>> 25) &&& 0x3
/-- Source: `include/hw/misc/apple-silicon/aes_reg.h` `COMMAND_DATA_COMMAND_LENGTH`. Kind: D -/
def COMMAND_DATA_COMMAND_LENGTH (x : UInt32) : UInt32 := (x >>> 0) &&& 0xFFFFFF
/-- Source: `include/hw/misc/apple-silicon/aes_reg.h` `COMMAND_DATA_UPPER_ADDR_SOURCE`. Kind: D -/
def COMMAND_DATA_UPPER_ADDR_SOURCE (x : UInt32) : UInt32 := (x >>> 16) &&& 0xFF
/-- Source: `include/hw/misc/apple-silicon/aes_reg.h` `COMMAND_DATA_UPPER_ADDR_DEST`. Kind: D -/
def COMMAND_DATA_UPPER_ADDR_DEST (x : UInt32) : UInt32 := (x >>> 0) &&& 0xFF
/-- Source: `include/hw/misc/apple-silicon/aes_reg.h` `COMMAND_STORE_IV_COMMAND_CONTEXT`. Kind: D -/
def COMMAND_STORE_IV_COMMAND_CONTEXT (x : UInt32) : UInt32 := (x >>> 26) &&& 0x3
/-- Source: `include/hw/misc/apple-silicon/aes_reg.h` `COMMAND_STORE_IV_COMMAND_UPPER_ADDR_DEST`.
Kind: D -/
def COMMAND_STORE_IV_COMMAND_UPPER_ADDR_DEST (x : UInt32) : UInt32 := (x >>> 0) &&& 0xFF
/-- Source: `include/hw/misc/apple-silicon/aes_reg.h` `COMMAND_FLAG_ID_CODE`. Kind: D -/
def COMMAND_FLAG_ID_CODE (x : UInt32) : UInt32 := (x >>> 0) &&& 0xFF
/-- Source: `include/hw/misc/apple-silicon/aes_reg.h` `COMMAND_FLAG_SEND_INTERRUPT`. Kind: D -/
def COMMAND_FLAG_SEND_INTERRUPT : UInt32 := (1 : UInt32) <<< 27

/-- A context field used as an index into `keys` or `iv`; the masks keep it below `n`.
Source: `hw/misc/apple-silicon/aes.c` `aes_process_command`
Kind: D -/
def ctxOf (n : ℕ) (hn : 0 < n) (v : UInt32) : Fin n := ⟨v.toNat % n, Nat.mod_lt _ hn⟩

/-- `key_algo`: the algorithm of a key length code; `none` is `QCRYPTO_CIPHER_ALGO__MAX`.
Source: `hw/misc/apple-silicon/aes.c` `key_algo`
Kind: D -/
def keyAlgo (mode : UInt32) : Option QCryptoCipherAlgo :=
  if mode = KEY_LEN_128 then some .aes128
  else if mode = KEY_LEN_192 then some .aes192
  else if mode = KEY_LEN_256 then some .aes256
  else none

/-- `key_mode`: the QEMU mode of a block mode code; `none` is `QCRYPTO_CIPHER_MODE__MAX`.
Source: `hw/misc/apple-silicon/aes.c` `key_mode`
Kind: D -/
def keyMode (mode : UInt32) : Option QCryptoCipherMode :=
  if mode = BLOCK_MODE_ECB then some .ecb
  else if mode = BLOCK_MODE_CBC then some .cbc
  else if mode = BLOCK_MODE_CTR then some .ctr
  else none

/-- `addr | (dma_addr_t)upper << 32`: a bus address from its low word and its upper bits.
Source: `hw/misc/apple-silicon/aes.c` `aes_process_command`
Kind: D -/
def dmaAddr (lo upper : UInt32) : ℕ := (lo.toUInt64 ||| upper.toUInt64 <<< 32).toNat

/-! The fields of a `DATA` command's `command_data_t`: `command`, `upper_addr`, `source_addr`,
`dest_addr` are the buffer's four words. -/

/-- Source: `hw/misc/apple-silicon/aes.c` `aes_process_command` (`OPCODE_DATA`). Kind: D -/
def dataKeyCtx (cmd : AESCommand) : Fin 2 := ctxOf 2 (by decide) (COMMAND_DATA_COMMAND_KEY_CONTEXT (cmd.word 0))
/-- Source: `hw/misc/apple-silicon/aes.c` `aes_process_command` (`OPCODE_DATA`). Kind: D -/
def dataIvCtx (cmd : AESCommand) : Fin 4 := ctxOf 4 (by decide) (COMMAND_DATA_COMMAND_IV_CONTEXT (cmd.word 0))
/-- Source: `hw/misc/apple-silicon/aes.c` `aes_process_command` (`OPCODE_DATA`). Kind: D -/
def dataLength (cmd : AESCommand) : UInt32 := COMMAND_DATA_COMMAND_LENGTH (cmd.word 0)
/-- Source: `hw/misc/apple-silicon/aes.c` `aes_process_command` (`OPCODE_DATA`). Kind: D -/
def dataSource (cmd : AESCommand) : ℕ :=
  dmaAddr (cmd.word 2) (COMMAND_DATA_UPPER_ADDR_SOURCE (cmd.word 1))
/-- Source: `hw/misc/apple-silicon/aes.c` `aes_process_command` (`OPCODE_DATA`). Kind: D -/
def dataDest (cmd : AESCommand) : ℕ :=
  dmaAddr (cmd.word 3) (COMMAND_DATA_UPPER_ADDR_DEST (cmd.word 1))

/-! ## The engine -/

/-- A key context: the fields `aes_process_command` sets from a `KEY` command, and the cipher
object (`NULL` is `none`). The key bytes are read only by the `qcrypto_cipher_new` that follows
their copy, and `func` and `wrapped` by nothing but a log message.
Source: `hw/misc/apple-silicon/aes.c` `AESKey`
Kind: D -/
structure AESKey where
  cipher : Option QCryptoCipher
  select : UInt32
  algo : Option QCryptoCipherAlgo
  len : UInt32
  mode : UInt32
  encrypt : Bool
  disabled : Bool
  id : UInt8

/-- The bits of `int_status` that `aes_process_command` sets: `invalid_command`, `flag_command`,
`invalid_data_length`, and `key_0_disabled`, `key_1_disabled` as `keyDisabled`.
Source: `include/hw/misc/apple-silicon/aes_reg.h` `aes_blk_int_status_t`
Kind: D -/
structure AesIntStatus where
  invalidCommand : Bool
  flagCommand : Bool
  invalidDataLength : Bool
  keyDisabled : Fin 2 → Bool

/-- What `aes_process_command` reads and writes of `AppleAESState`: the key contexts, the IV
registers `iv[4][16]`, the bits of `int_status`, `key_id.context_0`/`_1`, `flag_command.code`,
`stopped`, and the guest memory the DMA address space reaches.
Source: `hw/misc/apple-silicon/aes.c` `AppleAESState`
Kind: D -/
structure AesEngineState where
  keys : Fin 2 → AESKey
  iv : Fin 4 → CipherBlock
  intStatus : AesIntStatus
  keyId : Fin 2 → UInt8
  flagCode : UInt16
  stopped : Bool
  dma : Mem

/-- The `len` bytes from `p` as blocks, the buffer `dma_memory_read` fills.
Source: `hw/misc/apple-silicon/aes.c` `aes_process_command` (`OPCODE_DATA`)
Kind: D -/
def memBlocks (m : Mem) (p n : ℕ) : List CipherBlock := List.ofFn fun j : Fin n => memBlock m (p + 16 * j)

/-- `OPCODE_KEY`: the context's fields from the command, its cipher freed; a hardware key
disables the context and sets `key_N_disabled`, a software key enables it, clears the bit and
gets a cipher object of the command's algorithm and mode from the payload, through
`&error_abort` (`none`: QEMU aborts).
Source: `hw/misc/apple-silicon/aes.c` `aes_process_command` (`OPCODE_KEY`)
Kind: D -/
def aesProcessKey (s : AesEngineState) (cmd : AESCommand) : Option AesEngineState :=
  let ctx := ctxOf 2 (by decide) (COMMAND_KEY_COMMAND_KEY_CONTEXT cmd.command)
  let lenCode := COMMAND_KEY_COMMAND_KEY_LENGTH cmd.command
  let k : AESKey :=
    { s.keys ctx with
      select := COMMAND_KEY_COMMAND_KEY_SELECT cmd.command
      algo := keyAlgo lenCode
      len := keySize lenCode / 8
      encrypt := cmd.command &&& COMMAND_KEY_COMMAND_ENCRYPT != 0
      mode := COMMAND_KEY_COMMAND_BLOCK_MODE cmd.command
      id := (COMMAND_KEY_COMMAND_COMMAND_ID cmd.command).toUInt8
      cipher := none }
  let s := { s with keyId := Function.update s.keyId ctx k.id }
  if k.select ≠ KEY_SELECT_SOFTWARE then
    some { s with
      keys := Function.update s.keys ctx { k with disabled := true }
      intStatus := { s.intStatus with
        keyDisabled := Function.update s.intStatus.keyDisabled ctx true } }
  else
    match qcryptoCipherNew k.algo (keyMode k.mode) cmd.payload k.len.toNat with
    | .error _ => none
    | .ok c =>
      some { s with
        keys := Function.update s.keys ctx { k with disabled := false, cipher := some c }
        intStatus := { s.intStatus with
          keyDisabled := Function.update s.intStatus.keyDisabled ctx false } }

/-- `OPCODE_IV`: the IV register of the command's context from its payload.
Source: `hw/misc/apple-silicon/aes.c` `aes_process_command` (`OPCODE_IV`)
Kind: D -/
def aesProcessIv (s : AesEngineState) (cmd : AESCommand) : AesEngineState :=
  let ctx := ctxOf 4 (by decide) (COMMAND_IV_COMMAND_IV_CONTEXT cmd.command)
  { s with iv := Function.update s.iv ctx cmd.payloadBlock }

/-- The transfer of a `DATA` command whose length and key passed: read the buffer, `setiv` from
the IV register, encrypt or decrypt in place, `getiv` back into the register, write the buffer;
the three calls share one `Error *errp`, and a failed call leaves what it would have written.
The cipher object keeps the IV it ends on.
Source: `hw/misc/apple-silicon/aes.c` `aes_process_command` (`OPCODE_DATA`)
Kind: D -/
def aesDataTransfer (bc : AesBlockCipher) (s : AesEngineState) (keyCtx : Fin 2) (ivCtx : Fin 4)
    (c : QCryptoCipher) (len source dest : ℕ) : Option AesEngineState := do
  let buffer := memBlocks s.dma source (len / 16)
  let (c₁, errp) ← callErrp none (qcryptoCipherSetiv c (s.iv ivCtx))
  let c := c₁.getD c
  let (r, errp) ← callErrp errp
    (if (s.keys keyCtx).encrypt then qcryptoCipherEncrypt bc c len buffer
     else qcryptoCipherDecrypt bc c len buffer)
  let (buffer, c) := r.getD (buffer, c)
  let (iv, _) ← callErrp errp (qcryptoCipherGetiv c)
  pure { s with
    keys := Function.update s.keys keyCtx { s.keys keyCtx with cipher := some c }
    iv := Function.update s.iv ivCtx (iv.getD (s.iv ivCtx))
    dma := memWriteBlocks s.dma dest buffer }

/-- `OPCODE_DATA`: a length with bits below 16 sets `invalid_data_length`; a disabled key or one
without a cipher sets `key_N_disabled`; otherwise the transfer.
Source: `hw/misc/apple-silicon/aes.c` `aes_process_command` (`OPCODE_DATA`)
Kind: D -/
def aesProcessData (bc : AesBlockCipher) (s : AesEngineState) (cmd : AESCommand) :
    Option AesEngineState :=
  if dataLength cmd &&& 0xf ≠ 0 then
    some { s with intStatus := { s.intStatus with invalidDataLength := true } }
  else
    let key := s.keys (dataKeyCtx cmd)
    match key.disabled, key.cipher with
    | false, some c =>
      aesDataTransfer bc s (dataKeyCtx cmd) (dataIvCtx cmd) c (dataLength cmd).toNat
        (dataSource cmd) (dataDest cmd)
    | _, _ =>
      some { s with intStatus := { s.intStatus with
        keyDisabled := Function.update s.intStatus.keyDisabled (dataKeyCtx cmd) true } }

/-- `OPCODE_STORE_IV`: write the IV register of the command's context by DMA.
Source: `hw/misc/apple-silicon/aes.c` `aes_process_command` (`OPCODE_STORE_IV`)
Kind: D -/
def aesProcessStoreIv (s : AesEngineState) (cmd : AESCommand) : AesEngineState :=
  let dest := dmaAddr (cmd.word 1) (COMMAND_STORE_IV_COMMAND_UPPER_ADDR_DEST cmd.command)
  let ctx := ctxOf 4 (by decide) (COMMAND_STORE_IV_COMMAND_CONTEXT cmd.command)
  { s with dma := memWriteBlocks s.dma dest [s.iv ctx] }

/-- `OPCODE_FLAG`: record the code; `STOP_COMMANDS` stops the engine and `SEND_INTERRUPT` sets
`flag_command`.
Source: `hw/misc/apple-silicon/aes.c` `aes_process_command` (`OPCODE_FLAG`)
Kind: D -/
def aesProcessFlag (s : AesEngineState) (cmd : AESCommand) : AesEngineState :=
  let s := { s with flagCode := (COMMAND_FLAG_ID_CODE cmd.command).toUInt16 }
  let s := if cmd.command &&& COMMAND_FLAG_STOP_COMMANDS ≠ 0 then { s with stopped := true } else s
  if cmd.command &&& COMMAND_FLAG_SEND_INTERRUPT ≠ 0 then
    { s with intStatus := { s.intStatus with flagCommand := true } }
  else s

/-- `aes_process_command`, by opcode; `DSB` does nothing and an unknown opcode sets
`invalid_command`. `none` where QEMU aborts.
Source: `hw/misc/apple-silicon/aes.c` `aes_process_command`
Kind: D -/
def aesProcessCommand (bc : AesBlockCipher) (s : AesEngineState) (cmd : AESCommand) :
    Option AesEngineState :=
  let op := COMMAND_OPCODE cmd.command
  if op = OPCODE_KEY then aesProcessKey s cmd
  else if op = OPCODE_IV then some (aesProcessIv s cmd)
  else if op = OPCODE_DSB then some s
  else if op = OPCODE_DATA then aesProcessData bc s cmd
  else if op = OPCODE_STORE_IV then some (aesProcessStoreIv s cmd)
  else if op = OPCODE_FLAG then some (aesProcessFlag s cmd)
  else some { s with intStatus := { s.intStatus with invalidCommand := true } }

/-! ## The key tables -/

/-- The two tables agree: a key length code with an algorithm has that algorithm's key length
in `key_size`, in bytes.
Source: `hw/misc/apple-silicon/aes.c` `key_size`, `key_algo`
Kind: L -/
theorem keySize_div_eight_of_keyAlgo {len : UInt32} {a : QCryptoCipherAlgo}
    (h : keyAlgo len = some a) : (keySize len / 8).toNat = qcryptoCipherGetKeyLen a := by
  unfold keyAlgo at h
  split_ifs at h with h₀ h₁ h₂ <;> cases h
  · simp only [h₀, KEY_LEN_128, keySize]; decide
  · simp only [h₁, KEY_LEN_192, keySize]; decide
  · simp only [h₂, KEY_LEN_256, keySize]; decide

/-- A two-bit field is below four. -/
theorem and_three_le (x : UInt32) : x &&& 0x3 ≤ 3 := by
  rw [UInt32.le_iff_toNat_le, UInt32.toNat_and]
  exact Nat.and_le_right

/-- A two-bit field is one of its four codes. -/
theorem le_three_cases {v : UInt32} (hv : v ≤ 3) : v = 0 ∨ v = 1 ∨ v = 2 ∨ v = 3 := by
  rw [UInt32.le_iff_toNat_le] at hv
  have hn : v.toNat = 0 ∨ v.toNat = 1 ∨ v.toNat = 2 ∨ v.toNat = 3 := by simp at hv; omega
  rcases hn with h | h | h | h
  · exact .inl (UInt32.toNat_inj.mp h)
  · exact .inr (.inl (UInt32.toNat_inj.mp h))
  · exact .inr (.inr (.inl (UInt32.toNat_inj.mp h)))
  · exact .inr (.inr (.inr (UInt32.toNat_inj.mp h)))

/-- Of the codes of a two-bit field, only `3` has no algorithm.
Source: `hw/misc/apple-silicon/aes.c` `key_algo`
Kind: L -/
theorem keyAlgo_eq_none_iff {v : UInt32} (hv : v ≤ 3) : keyAlgo v = none ↔ v = 3 := by
  rcases le_three_cases hv with rfl | rfl | rfl | rfl <;> decide

/-- Of the codes of a two-bit field, only `3` has no mode.
Source: `hw/misc/apple-silicon/aes.c` `key_mode`
Kind: L -/
theorem keyMode_eq_none_iff {v : UInt32} (hv : v ≤ 3) : keyMode v = none ↔ v = 3 := by
  rcases le_three_cases hv with rfl | rfl | rfl | rfl <;> decide

/-- A length field with no bit below 16 is a whole number of blocks. -/
theorem toNat_mod_sixteen {x : UInt32} (h : x &&& 0xf = 0) : x.toNat % 16 = 0 := by
  have hx := congrArg UInt32.toNat h
  rw [UInt32.toNat_and, show (0xf : UInt32).toNat = 2 ^ 4 - 1 from rfl,
    Nat.and_two_pow_sub_one_eq_mod] at hx
  simpa using hx

/-! ## Which commands abort -/

/-- A `KEY` command aborts exactly when it selects the software key and a table has no entry
for its block mode or key length: both entries give a cipher, as `key_size` agrees with
`qcrypto_cipher_get_key_len`.
Source: `hw/misc/apple-silicon/aes.c` `aes_process_command` (`OPCODE_KEY`)
Kind: L -/
theorem aesProcessKey_eq_none_iff (s : AesEngineState) (cmd : AESCommand) :
    aesProcessKey s cmd = none ↔ COMMAND_KEY_COMMAND_KEY_SELECT cmd.command = KEY_SELECT_SOFTWARE ∧
      (COMMAND_KEY_COMMAND_BLOCK_MODE cmd.command = 3 ∨ COMMAND_KEY_COMMAND_KEY_LENGTH cmd.command = 3) := by
  rw [← keyMode_eq_none_iff (v := COMMAND_KEY_COMMAND_BLOCK_MODE cmd.command) (and_three_le _),
    ← keyAlgo_eq_none_iff (v := COMMAND_KEY_COMMAND_KEY_LENGTH cmd.command) (and_three_le _)]
  unfold aesProcessKey
  by_cases hsel : COMMAND_KEY_COMMAND_KEY_SELECT cmd.command = KEY_SELECT_SOFTWARE
  · simp only [hsel, ne_eq, not_true_eq_false, if_false, true_and]
    split
    next e hnew =>
      -- with both entries the creation would succeed
      simp only [true_iff]
      by_contra hboth
      obtain ⟨m, hm⟩ := Option.ne_none_iff_exists'.mp (not_or.mp hboth).1
      obtain ⟨a, ha⟩ := Option.ne_none_iff_exists'.mp (not_or.mp hboth).2
      have hok : qcryptoCipherNew (keyAlgo (COMMAND_KEY_COMMAND_KEY_LENGTH cmd.command))
          (keyMode (COMMAND_KEY_COMMAND_BLOCK_MODE cmd.command)) cmd.payload
          (keySize (COMMAND_KEY_COMMAND_KEY_LENGTH cmd.command) / 8).toNat = .ok ⟨a, m, _, _⟩ :=
        qcryptoCipherNew_eq_ok_iff.mpr ⟨a, m, ha, hm, (keySize_div_eight_of_keyAlgo ha).symm, rfl⟩
      rw [hnew] at hok
      cases hok
    next c hnew =>
      obtain ⟨a, m, ha, hm, -, -⟩ := qcryptoCipherNew_eq_ok_iff.mp hnew
      simp [ha, hm]
  · simp [hsel]

/-- The transfer of a `DATA` command aborts exactly on an ECB cipher: its `setiv` fails into the
empty `errp`, and its `getiv` fails into the set one. A CBC or CTR cipher passes all three calls.
Source: `hw/misc/apple-silicon/aes.c` `aes_process_command` (`OPCODE_DATA`)
Kind: L -/
theorem aesDataTransfer_eq_none_iff (bc : AesBlockCipher) (s : AesEngineState) (keyCtx : Fin 2)
    (ivCtx : Fin 4) (c : QCryptoCipher) {len : ℕ} (hlen : len % 16 = 0) (source dest : ℕ) :
    aesDataTransfer bc s keyCtx ivCtx c len source dest = none ↔ c.mode = .ecb := by
  -- the encryption or decryption succeeds and keeps the mode, whatever the IV
  have hcrypt : ∀ c' : QCryptoCipher, ∃ r, (if (s.keys keyCtx).encrypt then
      qcryptoCipherEncrypt bc c' len (memBlocks s.dma source (len / 16))
      else qcryptoCipherDecrypt bc c' len (memBlocks s.dma source (len / 16))) = .ok r ∧
      r.2.mode = c'.mode := by
    intro c'
    split
    · exact ⟨_, qcryptoCipherEncrypt_eq hlen _, encryptBlocks_mode bc c' _⟩
    · exact ⟨_, qcryptoCipherDecrypt_eq hlen _, decryptBlocks_mode bc c' _⟩
  unfold aesDataTransfer
  cases hm : c.mode with
  | ecb =>
    have hset : qcryptoCipherSetiv c (s.iv ivCtx) = .error "Setting IV is not supported" := by
      simp [qcryptoCipherSetiv, hm]
    obtain ⟨r, hr, hrm⟩ := hcrypt c
    have hget : qcryptoCipherGetiv r.2 = .error "Getting IV is not supported" := by
      simp [qcryptoCipherGetiv, hrm, hm]
    simp [hset, hr, hget]
  | cbc | ctr =>
    have hset : qcryptoCipherSetiv c (s.iv ivCtx) = .ok { c with iv := s.iv ivCtx } := by
      simp [qcryptoCipherSetiv, hm]
    obtain ⟨r, hr, hrm⟩ := hcrypt { c with iv := s.iv ivCtx }
    have hget : qcryptoCipherGetiv r.2 = .ok r.2.iv := by simp [qcryptoCipherGetiv, hrm, hm]
    simp [hset, hr, hget]

/-- A `DATA` command aborts exactly when its length is whole blocks and its key context is
enabled with an ECB cipher.
Source: `hw/misc/apple-silicon/aes.c` `aes_process_command` (`OPCODE_DATA`)
Kind: L -/
theorem aesProcessData_eq_none_iff (bc : AesBlockCipher) (s : AesEngineState) (cmd : AESCommand) :
    aesProcessData bc s cmd = none ↔ dataLength cmd &&& 0xf = 0 ∧
      (s.keys (dataKeyCtx cmd)).disabled = false ∧
      ∃ c, (s.keys (dataKeyCtx cmd)).cipher = some c ∧ c.mode = .ecb := by
  unfold aesProcessData
  by_cases hl : dataLength cmd &&& 0xf = 0
  · simp only [hl, ne_eq, not_true_eq_false, if_false, true_and]
    split
    next c hd hc =>
      rw [aesDataTransfer_eq_none_iff bc s _ _ c (toNat_mod_sixteen hl)]
      simp [hd, hc]
    next hne =>
      -- a disabled key, or one without a cipher, only sets its status bit
      simp only [reduceCtorEq, false_iff, not_and, not_exists]
      exact fun hd c hc _ => hne c hd hc
  · simp [hl]

/-- The commands that abort QEMU: a software `KEY` with block mode or key length code `3`, and a
`DATA` command of whole blocks through an enabled key context holding an ECB cipher. Every other
command, in every state, is processed.
Source: `hw/misc/apple-silicon/aes.c` `aes_process_command`
Kind: P -/
theorem aes_process_command_aborts_iff (bc : AesBlockCipher) (s : AesEngineState) (cmd : AESCommand) :
    aesProcessCommand bc s cmd = none ↔
      (COMMAND_OPCODE cmd.command = OPCODE_KEY ∧
        COMMAND_KEY_COMMAND_KEY_SELECT cmd.command = KEY_SELECT_SOFTWARE ∧
        (COMMAND_KEY_COMMAND_BLOCK_MODE cmd.command = 3 ∨ COMMAND_KEY_COMMAND_KEY_LENGTH cmd.command = 3)) ∨
      (COMMAND_OPCODE cmd.command = OPCODE_DATA ∧ dataLength cmd &&& 0xf = 0 ∧
        (s.keys (dataKeyCtx cmd)).disabled = false ∧
        ∃ c, (s.keys (dataKeyCtx cmd)).cipher = some c ∧ c.mode = .ecb) := by
  rw [← aesProcessKey_eq_none_iff s cmd, ← aesProcessData_eq_none_iff bc s cmd]
  unfold aesProcessCommand
  -- the opcodes are distinct constants; only the two branches that can fail matter
  by_cases hk : COMMAND_OPCODE cmd.command = OPCODE_KEY
  · simp [hk, OPCODE_KEY, OPCODE_DATA]
  · by_cases hd : COMMAND_OPCODE cmd.command = OPCODE_DATA
    · simp [hd, OPCODE_KEY, OPCODE_IV, OPCODE_DSB, OPCODE_DATA]
    · simp only [hk, hd, if_false, false_and, or_self, iff_false]
      split_ifs <;> simp

end AesEngine

end QemuAppleSilicon.Misc
