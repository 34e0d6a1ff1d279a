import Mathlib.Data.UInt

/-!
# The AES engine's command FIFO level (`hw/misc/apple-silicon/aes.c`)

The guest feeds commands to the AES engine one 32-bit word at a time through `COMMAND_FIFO`.
`aes_reg_write` assembles the words into a command (its first word's opcode fixes how many words
it has, `data_len`), queues each complete command for the worker thread `aes_thread`, and adds
one to the 8-bit `command_fifo_status.level` per word; the worker takes commands off the queue,
processes them and subtracts their `data_len`; `CLEAR_FIFO`, `CONTROL` `RESET` and `RESET_AES`
empty the queue and set the level to `0`. `aes_update_command_fifo_status` derives `EMPTY`,
`FULL`, `OVERFLOW` and `LOW` from the level.

The level is meant to count the words accepted and not yet consumed (`pendingWords`: the
`data_len` of every queued or in-flight command and the words of the one being assembled). The
model follows the difference `levelGap` between the two, modulo `2^8` as the bitfield is, over
every interleaving of guest writes and worker steps (`aesStep`). `aesStep_levelGap` says what one
step does to it: a word whose opcode starts no command adds one (it is counted but never
consumed), a clear sets it to minus the words in flight and half assembled (the worker subtracts
them later), and every other step keeps it; `aesRun_levelGap` carries that over runs.
`aes_command_fifo_level_miscounts` states the two departures and the stale `LOW` a `WATERMARKS`
write leaves.

Key, IV, DSB, DATA and STORE_IV processing (keys, IVs, DMA) does not touch the level; it is
modelled in `Misc/AesEngine`. The interrupt line and the other registers are not modelled.
-/

namespace QemuAppleSilicon.Misc

/-! ## Registers and commands -/

/-- Source: `include/hw/misc/apple-silicon/aes_reg.h` `REG_AES_CONTROL`. Kind: D -/
def REG_AES_CONTROL : UInt64 := 0x8
/-- Source: `include/hw/misc/apple-silicon/aes_reg.h` `AES_BLK_CONTROL_START`. Kind: D -/
def AES_BLK_CONTROL_START : UInt32 := (1 : UInt32) <<< 0
/-- Source: `include/hw/misc/apple-silicon/aes_reg.h` `AES_BLK_CONTROL_STOP`. Kind: D -/
def AES_BLK_CONTROL_STOP : UInt32 := (1 : UInt32) <<< 1
/-- Source: `include/hw/misc/apple-silicon/aes_reg.h` `AES_BLK_CONTROL_RESET`. Kind: D -/
def AES_BLK_CONTROL_RESET : UInt32 := (1 : UInt32) <<< 2
/-- Source: `include/hw/misc/apple-silicon/aes_reg.h` `AES_BLK_CONTROL_RESET_AES`. Kind: D -/
def AES_BLK_CONTROL_RESET_AES : UInt32 := (1 : UInt32) <<< 3
/-- Source: `include/hw/misc/apple-silicon/aes_reg.h` `REG_AES_WATERMARKS`. Kind: D -/
def REG_AES_WATERMARKS : UInt64 := 0x20
/-- Source: `include/hw/misc/apple-silicon/aes_reg.h` `REG_AES_CLEAR_FIFO`. Kind: D -/
def REG_AES_CLEAR_FIFO : UInt64 := 0x38
/-- Source: `include/hw/misc/apple-silicon/aes_reg.h` `REG_AES_CLEAR_FIFO_RESET`. Kind: D -/
def REG_AES_CLEAR_FIFO_RESET : UInt32 := (1 : UInt32) <<< 0
/-- Source: `include/hw/misc/apple-silicon/aes_reg.h` `REG_AES_COMMAND_FIFO_S8000`. Kind: D -/
def REG_AES_COMMAND_FIFO_S8000 : UInt64 := 0x100
/-- Source: `include/hw/misc/apple-silicon/aes_reg.h` `REG_AES_COMMAND_FIFO`. Kind: D -/
def REG_AES_COMMAND_FIFO : UInt64 := 0x200
/-- Source: `include/hw/misc/apple-silicon/aes_reg.h` `AES_BLK_REG_SIZE`. Kind: D -/
def AES_BLK_REG_SIZE : UInt64 := 0x204
/-- Source: `include/hw/misc/apple-silicon/aes_reg.h` `COMMAND_FIFO_SIZE`. Kind: D -/
def COMMAND_FIFO_SIZE : ℕ := 128

/-- Source: `include/hw/misc/apple-silicon/aes_reg.h` `OPCODE_KEY`. Kind: D -/
def OPCODE_KEY : UInt32 := 0x01
/-- Source: `include/hw/misc/apple-silicon/aes_reg.h` `OPCODE_IV`. Kind: D -/
def OPCODE_IV : UInt32 := 0x02
/-- Source: `include/hw/misc/apple-silicon/aes_reg.h` `OPCODE_DSB`. Kind: D -/
def OPCODE_DSB : UInt32 := 0x03
/-- Source: `include/hw/misc/apple-silicon/aes_reg.h` `OPCODE_DATA`. Kind: D -/
def OPCODE_DATA : UInt32 := 0x05
/-- Source: `include/hw/misc/apple-silicon/aes_reg.h` `OPCODE_STORE_IV`. Kind: D -/
def OPCODE_STORE_IV : UInt32 := 0x06
/-- Source: `include/hw/misc/apple-silicon/aes_reg.h` `OPCODE_FLAG`. Kind: D -/
def OPCODE_FLAG : UInt32 := 0x08
/-- Source: `include/hw/misc/apple-silicon/aes_reg.h` `KEY_SELECT_SOFTWARE`. Kind: D -/
def KEY_SELECT_SOFTWARE : UInt32 := 0
/-- Source: `include/hw/misc/apple-silicon/aes_reg.h` `COMMAND_FLAG_STOP_COMMANDS`. Kind: D -/
def COMMAND_FLAG_STOP_COMMANDS : UInt32 := (1 : UInt32) <<< 26

/-- Source: `include/hw/misc/apple-silicon/aes_reg.h` `COMMAND_OPCODE`. Kind: D -/
def COMMAND_OPCODE (x : UInt32) : UInt32 := (x >>> 28) &&& 0xF
/-- Source: `include/hw/misc/apple-silicon/aes_reg.h` `COMMAND_KEY_COMMAND_KEY_SELECT`. Kind: D -/
def COMMAND_KEY_COMMAND_KEY_SELECT (x : UInt32) : UInt32 := (x >>> 24) &&& 0x7
/-- Source: `include/hw/misc/apple-silicon/aes_reg.h` `COMMAND_KEY_COMMAND_KEY_LENGTH`. Kind: D -/
def COMMAND_KEY_COMMAND_KEY_LENGTH (x : UInt32) : UInt32 := (x >>> 22) &&& 0x3

/-- `key_size`: the key length code in bits, `0` for the unused code.
Source: `hw/misc/apple-silicon/aes.c` `key_size`
Kind: D -/
def keySize (len : UInt32) : UInt32 :=
  if len = 0 then 128 else if len = 1 then 192 else if len = 2 then 256 else 0

/-- The `data_len` the opcode switch of the `COMMAND_FIFO` write gives the command a word starts:
the key words and the command word for a software key, one word for the other keys and `FLAG`,
and `sizeof` the command for `IV`, `DSB`, `DATA` and `STORE_IV`; `none` for the opcodes the
switch sends to its `default` (unknown opcodes, `SKG`, `WRITE_REG`). Each known branch allocates
`data_len` words and stores the command word in the first.
Source: `hw/misc/apple-silicon/aes.c` `aes_reg_write` (`COMMAND_FIFO`)
Kind: D -/
def aesCommandDataLen (val : UInt32) : Option UInt32 :=
  let op := COMMAND_OPCODE val
  if op = OPCODE_KEY then
    if COMMAND_KEY_COMMAND_KEY_SELECT val = KEY_SELECT_SOFTWARE then
      some (keySize (COMMAND_KEY_COMMAND_KEY_LENGTH val) / 8 / 4 + 1)
    else some 1
  else if op = OPCODE_IV then some 5
  else if op = OPCODE_DSB then some 9
  else if op = OPCODE_DATA then some 4
  else if op = OPCODE_STORE_IV then some 2
  else if op = OPCODE_FLAG then some 1
  else none

/-- `AESCommand`: a complete command on the queue.
Source: `hw/misc/apple-silicon/aes.c` `AESCommand`
Kind: D -/
structure AESCommand where
  command : UInt32
  data : List UInt32
  dataLen : UInt32
  deriving DecidableEq, Repr

/-- The fields of `command_fifo_status` the model keeps: the flags and the 8-bit `level`
(`read_pointer` and `write_pointer` are never written).
Source: `include/hw/misc/apple-silicon/aes_reg.h` `aes_blk_command_fifo_status_t`
Kind: D -/
structure AesCommandFifoStatus where
  low : Bool
  empty : Bool
  full : Bool
  overflow : Bool
  level : UInt8
  deriving DecidableEq, Repr

/-- The part of `AppleAESState` the command FIFO uses: the status register, the raw
`watermarks` register, the queue, the commands the worker threads have taken and not finished,
the command being assembled (`data` is `NULL` between commands) and `stopped`.
Source: `hw/misc/apple-silicon/aes.c` `AppleAESState`
Kind: D -/
structure AppleAESState where
  commandFifoStatus : AesCommandFifoStatus
  watermarks : UInt32
  queue : List AESCommand
  /-- Taken off the queue by a worker thread, not yet subtracted from the level. -/
  inFlight : List AESCommand
  command : UInt32
  data : Option (List UInt32)
  dataLen : UInt32
  dataRead : UInt32
  stopped : Bool
  deriving DecidableEq, Repr

namespace AppleAESState

/-- The level. Source: none: infrastructure. Kind: D -/
def level (s : AppleAESState) : UInt8 := s.commandFifoStatus.level

/-- Store the level. -/
def setLevel (s : AppleAESState) (l : UInt8) : AppleAESState :=
  { s with commandFifoStatus := { s.commandFifoStatus with level := l } }

@[simp] theorem level_setLevel (s : AppleAESState) (l : UInt8) : (s.setLevel l).level = l := rfl
@[simp] theorem queue_setLevel (s : AppleAESState) (l : UInt8) : (s.setLevel l).queue = s.queue := rfl
@[simp] theorem inFlight_setLevel (s : AppleAESState) (l : UInt8) :
    (s.setLevel l).inFlight = s.inFlight := rfl
@[simp] theorem data_setLevel (s : AppleAESState) (l : UInt8) : (s.setLevel l).data = s.data := rfl
@[simp] theorem dataLen_setLevel (s : AppleAESState) (l : UInt8) :
    (s.setLevel l).dataLen = s.dataLen := rfl
@[simp] theorem dataRead_setLevel (s : AppleAESState) (l : UInt8) :
    (s.setLevel l).dataRead = s.dataRead := rfl

end AppleAESState

/-! ## The register side -/

/-- `aes_update_command_fifo_status`: the flags from the level, `LOW` against the watermark
register's `command_fifo_low` field (the interrupt status and line it also drives are not
modelled).
Source: `hw/misc/apple-silicon/aes.c` `aes_update_command_fifo_status`
Kind: D -/
def aesUpdateCommandFifoStatus (s : AppleAESState) : AppleAESState :=
  let level := s.commandFifoStatus.level
  { s with commandFifoStatus :=
      { s.commandFifoStatus with
        empty := decide (level = 0)
        full := decide (COMMAND_FIFO_SIZE ≤ level.toNat)
        overflow := decide (COMMAND_FIFO_SIZE < level.toNat)
        low := decide (level.toUInt32 < s.watermarks &&& 0x7F) } }

/-- `aes_empty_fifo`: drop every queued command and set the level to `0`.
Source: `hw/misc/apple-silicon/aes.c` `aes_empty_fifo`
Kind: D -/
def aesEmptyFifo (s : AppleAESState) : AppleAESState :=
  aesUpdateCommandFifoStatus ({ s with queue := [] }.setLevel 0)

/-- `aes_start`: a stopped engine gets a new worker thread.
Source: `hw/misc/apple-silicon/aes.c` `aes_start`
Kind: D -/
def aesStart (s : AppleAESState) : AppleAESState :=
  if s.stopped then { s with stopped := false } else s

/-- `aes_stop`: mark the engine stopped. The join that follows only waits for the worker to
finish what it holds, which the interleaving of `aesStep` already allows.
Source: `hw/misc/apple-silicon/aes.c` `aes_stop`
Kind: D -/
def aesStop (s : AppleAESState) : AppleAESState :=
  if s.stopped then s else { s with stopped := true }

/-- `apple_aes_reset`: zero the registers (the level and the watermarks among them), free the
command being assembled, set `stopped` (so the `aes_stop` that follows does not join the worker,
which keeps what it holds), and empty the FIFO.
Source: `hw/misc/apple-silicon/aes.c` `apple_aes_reset`
Kind: D -/
def appleAesReset (s : AppleAESState) : AppleAESState :=
  aesEmptyFifo
    { s with
      commandFifoStatus := ⟨false, false, false, false, 0⟩
      watermarks := 0
      command := 0
      data := none
      dataRead := 0
      dataLen := 0
      stopped := true }

/-- The first half of a `COMMAND_FIFO` write: a word of the command being assembled is stored;
otherwise the word is a new command word, and a known opcode starts a command of
`aesCommandDataLen` words holding it (an unknown one only raises `invalid_command`, not
modelled).
Source: `hw/misc/apple-silicon/aes.c` `aes_reg_write` (`COMMAND_FIFO`)
Kind: D -/
def aesCommandFifoAccept (s : AppleAESState) (val : UInt32) : AppleAESState :=
  if s.dataRead < s.dataLen then
    { s with data := s.data.map (·.set s.dataRead.toNat val), dataRead := s.dataRead + 1 }
  else
    match aesCommandDataLen val with
    | some n =>
      { s with command := val, dataLen := n,
               data := some ((List.replicate n.toNat 0).set 0 val), dataRead := 1 }
    | none => { s with command := val }

/-- The second half: a complete command goes to the tail of the queue and the assembly restarts.
Source: `hw/misc/apple-silicon/aes.c` `aes_reg_write` (`COMMAND_FIFO`)
Kind: D -/
def aesCommandFifoQueue (s : AppleAESState) : AppleAESState :=
  match s.data with
  | some d =>
    if s.dataLen ≤ s.dataRead then
      { s with queue := s.queue ++ [⟨s.command, d, s.dataLen⟩], command := 0, data := none,
               dataLen := 0, dataRead := 0 }
    else s
  | none => s

/-- A `COMMAND_FIFO` write: accept the word, queue a complete command, and count the word.
Source: `hw/misc/apple-silicon/aes.c` `aes_reg_write` (`COMMAND_FIFO`)
Kind: D -/
def aesCommandFifoWrite (s : AppleAESState) (val : UInt32) : AppleAESState :=
  let s := aesCommandFifoQueue (aesCommandFifoAccept s val)
  aesUpdateCommandFifoStatus (s.setLevel (s.level + 1))

/-- `aes_reg_write` on the registers that touch the command FIFO: `WATERMARKS` (the status is
updated before the register is stored), `CONTROL`, the two `COMMAND_FIFO` addresses and
`CLEAR_FIFO`. The other registers' stores are not modelled.
Source: `hw/misc/apple-silicon/aes.c` `aes_reg_write`
Kind: D -/
def aesRegWrite (s : AppleAESState) (addr data : UInt64) : AppleAESState :=
  let val := data.toUInt32
  if AES_BLK_REG_SIZE ≤ addr then s
  else if addr = REG_AES_WATERMARKS then { aesUpdateCommandFifoStatus s with watermarks := val }
  else if addr = REG_AES_CONTROL then
    if val = AES_BLK_CONTROL_START then aesStart s
    else if val = AES_BLK_CONTROL_STOP then aesStop s
    else if val = AES_BLK_CONTROL_RESET then aesEmptyFifo s
    else if val = AES_BLK_CONTROL_RESET_AES then appleAesReset s
    else s
  else if addr = REG_AES_COMMAND_FIFO_S8000 ∨ addr = REG_AES_COMMAND_FIFO then
    aesCommandFifoWrite s val
  else if addr = REG_AES_CLEAR_FIFO then
    if val = REG_AES_CLEAR_FIFO_RESET then aesEmptyFifo s else s
  else s

/-! ## The worker thread -/

/-- A running worker takes the head of the queue.
Source: `hw/misc/apple-silicon/aes.c` `aes_thread`
Kind: D -/
def aesThreadDequeue (s : AppleAESState) : Option AppleAESState :=
  if s.stopped then none
  else
    match s.queue with
    | [] => none
    | cmd :: queue => some { s with queue := queue, inFlight := s.inFlight ++ [cmd] }

/-- What `aes_process_command` does to the FIFO's state: a `FLAG` command with
`STOP_COMMANDS` stops the engine.
Source: `hw/misc/apple-silicon/aes.c` `aes_process_command` (`OPCODE_FLAG`)
Kind: D -/
def aesProcessCommand (s : AppleAESState) (cmd : AESCommand) : AppleAESState :=
  if COMMAND_OPCODE cmd.command = OPCODE_FLAG ∧ cmd.command &&& COMMAND_FLAG_STOP_COMMANDS ≠ 0 then
    { s with stopped := true }
  else s

/-- A worker finishes the `i`-th command in flight: it processes it, subtracts its `data_len`
from the level in the bitfield's 8 bits, and updates the status.
Source: `hw/misc/apple-silicon/aes.c` `aes_thread`
Kind: D -/
def aesThreadFinish (s : AppleAESState) (i : ℕ) : Option AppleAESState :=
  match s.inFlight[i]? with
  | none => none
  | some cmd =>
    let s := aesProcessCommand { s with inFlight := s.inFlight.eraseIdx i } cmd
    some (aesUpdateCommandFifoStatus (s.setLevel (s.level - cmd.dataLen.toUInt8)))

/-- What can happen next: a guest register write, or a worker step. -/
inductive AesEvent where
  | regWrite (addr data : UInt64)
  | threadDequeue
  | threadFinish (i : ℕ)
  deriving DecidableEq, Repr

/-- One event; `none` where it cannot happen (a worker step with nothing to take). -/
def aesStep (s : AppleAESState) : AesEvent → Option AppleAESState
  | .regWrite addr data => some (aesRegWrite s addr data)
  | .threadDequeue => aesThreadDequeue s
  | .threadFinish i => aesThreadFinish s i

/-- A sequence of events, in order. -/
def aesRun (s : AppleAESState) : List AesEvent → Option AppleAESState
  | [] => some s
  | e :: es =>
    match aesStep s e with
    | none => none
    | some s => aesRun s es

/-- The device after `apple_aes_realize`: the zeroed object, reset.
Source: `hw/misc/apple-silicon/aes.c` `apple_aes_realize`
Kind: D -/
def aesRealized : AppleAESState :=
  appleAesReset ⟨⟨false, false, false, false, 0⟩, 0, [], [], 0, none, 0, 0, false⟩

/-! ## Words pending and the level -/

/-- The words of a list of commands. -/
def queuedWords (cmds : List AESCommand) : ℕ := (cmds.map fun c => c.dataLen.toNat).sum

/-- The words of the command being assembled. -/
def partialWords (s : AppleAESState) : ℕ := if s.data.isSome then s.dataRead.toNat else 0

/-- The command words accepted and not yet consumed: the queued commands, those in flight and
the one being assembled. -/
def pendingWords (s : AppleAESState) : ℕ :=
  queuedWords s.queue + queuedWords s.inFlight + partialWords s

/-- How far the level is from the pending words, in the level's 8 bits. -/
def levelGap (s : AppleAESState) : UInt8 := s.level - UInt8.ofNat (pendingWords s)

/-- The command being assembled: none (`data` is `NULL`, both counts `0`), or one with words
still to come. -/
def AppleAESState.WellFormed (s : AppleAESState) : Prop :=
  (s.data = none ∧ s.dataLen = 0 ∧ s.dataRead = 0) ∨ (s.data.isSome ∧ s.dataRead < s.dataLen)

instance (s : AppleAESState) : Decidable s.WellFormed :=
  inferInstanceAs (Decidable (_ ∨ _))

/-- A word that starts no command: no command is being assembled and its opcode is one the
switch does not know. -/
def aesStrayWord (s : AppleAESState) (val : UInt32) : Bool :=
  s.data.isNone && (aesCommandDataLen val).isNone

@[simp] theorem queuedWords_nil : queuedWords [] = 0 := rfl

@[simp] theorem queuedWords_append (l l' : List AESCommand) :
    queuedWords (l ++ l') = queuedWords l + queuedWords l' := by
  simp [queuedWords]

@[simp] theorem queuedWords_cons (c : AESCommand) (l : List AESCommand) :
    queuedWords (c :: l) = c.dataLen.toNat + queuedWords l := by
  simp [queuedWords]

theorem keySize_cases (len : UInt32) :
    keySize len = 128 ∨ keySize len = 192 ∨ keySize len = 256 ∨ keySize len = 0 := by
  unfold keySize
  split_ifs <;> simp

/-- Every command an opcode starts has at least one word. -/
theorem one_le_of_aesCommandDataLen {val n : UInt32} (h : aesCommandDataLen val = some n) :
    1 ≤ n.toNat := by
  unfold aesCommandDataLen at h
  dsimp only at h
  split_ifs at h <;> rw [Option.some.injEq] at h <;> subst h
  -- a software key: its length code gives `0`, `4`, `6` or `8` key words, plus the command word
  · rcases keySize_cases (COMMAND_KEY_COMMAND_KEY_LENGTH val) with h | h | h | h <;>
      rw [h] <;> decide
  all_goals decide

/-! ### The status register -/

@[simp] theorem level_aesUpdateCommandFifoStatus (s : AppleAESState) :
    (aesUpdateCommandFifoStatus s).level = s.level := rfl

@[simp] theorem pendingWords_aesUpdateCommandFifoStatus (s : AppleAESState) :
    pendingWords (aesUpdateCommandFifoStatus s) = pendingWords s := rfl

@[simp] theorem wellFormed_aesUpdateCommandFifoStatus (s : AppleAESState) :
    (aesUpdateCommandFifoStatus s).WellFormed ↔ s.WellFormed := Iff.rfl

@[simp] theorem inFlight_aesUpdateCommandFifoStatus (s : AppleAESState) :
    (aesUpdateCommandFifoStatus s).inFlight = s.inFlight := rfl

@[simp] theorem pendingWords_setLevel (s : AppleAESState) (l : UInt8) :
    pendingWords (s.setLevel l) = pendingWords s := rfl

@[simp] theorem wellFormed_setLevel (s : AppleAESState) (l : UInt8) :
    (s.setLevel l).WellFormed ↔ s.WellFormed := Iff.rfl

/-! ### A `COMMAND_FIFO` write -/

@[simp] theorem level_aesCommandFifoAccept (s : AppleAESState) (val : UInt32) :
    (aesCommandFifoAccept s val).level = s.level := by
  unfold aesCommandFifoAccept
  split
  · rfl
  · split <;> rfl

@[simp] theorem level_aesCommandFifoQueue (s : AppleAESState) :
    (aesCommandFifoQueue s).level = s.level := by
  unfold aesCommandFifoQueue
  split
  · split <;> rfl
  · rfl

/-- Accepting a word: a word of the command being assembled or one that starts a command adds a
pending word; a stray word adds none. Either way the command stays well formed up to its last
word (`dataRead ≤ dataLen`), which the queueing half then takes.
Source: `hw/misc/apple-silicon/aes.c` `aes_reg_write` (`COMMAND_FIFO`)
Kind: L -/
theorem aesCommandFifoAccept_spec {s : AppleAESState} (hwf : s.WellFormed) (val : UInt32) :
    let s' := aesCommandFifoAccept s val
    pendingWords s' + (if aesStrayWord s val then 1 else 0) = pendingWords s + 1 ∧
      s'.queue = s.queue ∧ s'.inFlight = s.inFlight ∧
      ((s'.data = none ∧ s'.dataLen = 0 ∧ s'.dataRead = 0) ∨
        (s'.data.isSome ∧ s'.dataRead ≤ s'.dataLen)) := by
  rcases hwf with ⟨hnone, hlen, hread⟩ | ⟨hsome, hlt⟩
  · -- between commands: the word is a command word
    have hstart : ¬s.dataRead < s.dataLen := by rw [hlen, hread]; decide
    cases hop : aesCommandDataLen val with
    | none =>
      have hs' : aesCommandFifoAccept s val = { s with command := val } := by
        simp only [aesCommandFifoAccept, if_neg hstart, hop]
      have hstray : aesStrayWord s val = true := by simp [aesStrayWord, hnone, hop]
      rw [hs', hstray, if_pos rfl]
      exact ⟨rfl, rfl, rfl, Or.inl ⟨hnone, hlen, hread⟩⟩
    | some n =>
      have hn := one_le_of_aesCommandDataLen hop
      have hs' : aesCommandFifoAccept s val =
          { s with
            command := val
            dataLen := n
            data := some ((List.replicate n.toNat 0).set 0 val)
            dataRead := 1 } := by
        simp only [aesCommandFifoAccept, if_neg hstart, hop]
      have hstray : aesStrayWord s val = false := by simp [aesStrayWord, hop]
      rw [hs', hstray, if_neg Bool.false_ne_true]
      refine ⟨?_, rfl, rfl, Or.inr ⟨rfl, ?_⟩⟩
      · simp [pendingWords, partialWords, hnone]
      · rw [UInt32.le_iff_toNat_le]
        simpa using hn
  · -- inside a command: the word is one of its data words
    obtain ⟨d, hd⟩ := Option.isSome_iff_exists.mp hsome
    have hstray : aesStrayWord s val = false := by simp [aesStrayWord, hd]
    have hsucc : (s.dataRead + 1).toNat = s.dataRead.toNat + 1 := by
      rw [UInt32.toNat_add, UInt32.toNat_one, Nat.mod_eq_of_lt]
      have := UInt32.lt_iff_toNat_lt.mp hlt
      have := s.dataLen.toNat_lt
      omega
    have hs' : aesCommandFifoAccept s val =
        { s with
          data := some (d.set s.dataRead.toNat val)
          dataRead := s.dataRead + 1 } := by
      simp only [aesCommandFifoAccept, if_pos hlt, hd, Option.map_some]
    rw [hs', hstray, if_neg Bool.false_ne_true]
    refine ⟨?_, rfl, rfl, Or.inr ⟨rfl, ?_⟩⟩
    · simp only [pendingWords, partialWords, hd, Option.isSome_some, if_true, hsucc]
      omega
    · rw [UInt32.le_iff_toNat_le, hsucc]
      exact UInt32.lt_iff_toNat_lt.mp hlt

/-- Queueing a complete command moves its words from the partial command to the queue, and
leaves a well-formed state.
Source: `hw/misc/apple-silicon/aes.c` `aes_reg_write` (`COMMAND_FIFO`)
Kind: L -/
theorem aesCommandFifoQueue_spec {s : AppleAESState}
    (hs : (s.data = none ∧ s.dataLen = 0 ∧ s.dataRead = 0) ∨ (s.data.isSome ∧ s.dataRead ≤ s.dataLen)) :
    let s' := aesCommandFifoQueue s
    pendingWords s' = pendingWords s ∧ s'.WellFormed ∧ s'.inFlight = s.inFlight := by
  cases hd : s.data with
  | none =>
    have hleft : s.data = none ∧ s.dataLen = 0 ∧ s.dataRead = 0 := by
      rcases hs with h | ⟨h, -⟩
      · exact h
      · simp [hd] at h
    have heq : aesCommandFifoQueue s = s := by simp only [aesCommandFifoQueue, hd]
    rw [heq]
    exact ⟨rfl, Or.inl hleft, rfl⟩
  | some d =>
    have hle : s.dataRead ≤ s.dataLen := by
      rcases hs with ⟨h, -⟩ | ⟨-, h⟩
      · simp [hd] at h
      · exact h
    by_cases hfull : s.dataLen ≤ s.dataRead
    · -- the last word arrived: the command is queued with all its words
      have hread : s.dataRead = s.dataLen := UInt32.le_antisymm hle hfull
      have heq : aesCommandFifoQueue s =
          { s with
            queue := s.queue ++ [⟨s.command, d, s.dataLen⟩]
            command := 0
            data := none
            dataLen := 0
            dataRead := 0 } := by
        simp only [aesCommandFifoQueue, hd, if_pos hfull]
      rw [heq]
      refine ⟨?_, Or.inl ⟨rfl, rfl, rfl⟩, rfl⟩
      simp only [pendingWords, partialWords, hd, queuedWords_append, queuedWords_cons,
        queuedWords_nil, Option.isSome_none, Option.isSome_some, hread]
      simp
      omega
    · have heq : aesCommandFifoQueue s = s := by simp only [aesCommandFifoQueue, hd, if_neg hfull]
      rw [heq]
      have hlt : s.dataRead < s.dataLen := by
        rw [UInt32.le_iff_toNat_le] at hfull
        rw [UInt32.lt_iff_toNat_lt]
        omega
      exact ⟨rfl, Or.inr ⟨by simp [hd], hlt⟩, rfl⟩

/-- The gap after a step, from what the step does to the level and to the pending words. -/
theorem levelGap_of {s s' : AppleAESState} {a : UInt8} {b c : ℕ} (hlevel : s'.level = s.level + a)
    (hpending : pendingWords s' + c = pendingWords s + b) :
    levelGap s' = levelGap s + a + UInt8.ofNat c - UInt8.ofNat b := by
  have h := congrArg UInt8.ofNat hpending
  rw [UInt8.ofNat_add, UInt8.ofNat_add] at h
  unfold levelGap
  rw [hlevel]
  grind

/-- A `COMMAND_FIFO` write counts the word in the level; it adds a pending word unless the word
is stray. So the gap grows by one exactly on a stray word.
Source: `hw/misc/apple-silicon/aes.c` `aes_reg_write` (`COMMAND_FIFO`)
Kind: L -/
theorem aesCommandFifoWrite_spec {s : AppleAESState} (hwf : s.WellFormed) (val : UInt32) :
    let s' := aesCommandFifoWrite s val
    s'.WellFormed ∧ s'.inFlight = s.inFlight ∧
      levelGap s' = levelGap s + (if aesStrayWord s val then 1 else 0) := by
  obtain ⟨hacc, -, hflight, hshape⟩ := aesCommandFifoAccept_spec hwf val
  obtain ⟨hqueue, hwf', hflight'⟩ := aesCommandFifoQueue_spec hshape
  refine ⟨hwf', hflight'.trans hflight, ?_⟩
  have hpending : pendingWords (aesCommandFifoWrite s val) + (if aesStrayWord s val then 1 else 0) =
      pendingWords s + 1 := by
    rw [aesCommandFifoWrite, pendingWords_aesUpdateCommandFifoStatus, pendingWords_setLevel,
      hqueue, hacc]
  have hgap := levelGap_of (a := 1) (by simp [aesCommandFifoWrite]) hpending
  rw [hgap]
  split <;> simp

/-! ### Clears, reset and the other registers -/

theorem aesEmptyFifo_spec (s : AppleAESState) :
    (aesEmptyFifo s).level = 0 ∧ (aesEmptyFifo s).queue = [] ∧
      (aesEmptyFifo s).inFlight = s.inFlight ∧ partialWords (aesEmptyFifo s) = partialWords s ∧
      ((aesEmptyFifo s).WellFormed ↔ s.WellFormed) :=
  ⟨rfl, rfl, rfl, rfl, Iff.rfl⟩

/-- `RESET_AES` drops the command being assembled as well as the queue.
Source: `hw/misc/apple-silicon/aes.c` `apple_aes_reset`
Kind: L -/
theorem appleAesReset_spec (s : AppleAESState) :
    (appleAesReset s).level = 0 ∧ (appleAesReset s).queue = [] ∧
      (appleAesReset s).inFlight = s.inFlight ∧ partialWords (appleAesReset s) = 0 ∧
      (appleAesReset s).WellFormed :=
  ⟨rfl, rfl, rfl, rfl, Or.inl ⟨rfl, rfl, rfl⟩⟩

/-- A write that empties the FIFO: `CONTROL` with `RESET` or `RESET_AES`, or `CLEAR_FIFO` with
its reset bit.
Source: `hw/misc/apple-silicon/aes.c` `aes_reg_write`
Kind: D -/
def AesEvent.clears : AesEvent → Bool
  | .regWrite addr data =>
    decide (addr < AES_BLK_REG_SIZE) &&
      ((addr == REG_AES_CONTROL && (data.toUInt32 == AES_BLK_CONTROL_RESET ||
          data.toUInt32 == AES_BLK_CONTROL_RESET_AES)) ||
        (addr == REG_AES_CLEAR_FIFO && data.toUInt32 == REG_AES_CLEAR_FIFO_RESET))
  | _ => false

/-- A `COMMAND_FIFO` write of a stray word. -/
def AesEvent.stray (s : AppleAESState) : AesEvent → Bool
  | .regWrite addr data =>
    decide (addr = REG_AES_COMMAND_FIFO_S8000 ∨ addr = REG_AES_COMMAND_FIFO) &&
      aesStrayWord s data.toUInt32
  | _ => false

/-- A step that leaves the level, the pending words, the commands in flight and the shape of
the command being assembled. -/
def AppleAESState.Quiet (s s' : AppleAESState) : Prop :=
  s'.level = s.level ∧ pendingWords s' = pendingWords s ∧ s'.data = s.data ∧
    s'.dataLen = s.dataLen ∧ s'.dataRead = s.dataRead ∧ s'.inFlight = s.inFlight

theorem AppleAESState.Quiet.refl (s : AppleAESState) : s.Quiet s :=
  ⟨rfl, rfl, rfl, rfl, rfl, rfl⟩

theorem AppleAESState.Quiet.wellFormed {s s' : AppleAESState} (h : s.Quiet s')
    (hwf : s.WellFormed) : s'.WellFormed := by
  obtain ⟨-, -, hd, hl, hr, -⟩ := h
  unfold AppleAESState.WellFormed
  rw [hd, hl, hr]
  exact hwf

theorem AppleAESState.Quiet.levelGap_eq {s s' : AppleAESState} (h : s.Quiet s') :
    levelGap s' = levelGap s := by
  unfold levelGap
  rw [h.1, h.2.1]

theorem quiet_aesStart (s : AppleAESState) : s.Quiet (aesStart s) := by
  unfold aesStart
  split
  · exact ⟨rfl, rfl, rfl, rfl, rfl, rfl⟩
  · exact .refl s

theorem quiet_aesStop (s : AppleAESState) : s.Quiet (aesStop s) := by
  unfold aesStop
  split
  · exact .refl s
  · exact ⟨rfl, rfl, rfl, rfl, rfl, rfl⟩

theorem AesEvent.clears_regWrite (addr data : UInt64) :
    (AesEvent.regWrite addr data).clears = true ↔
      (addr = REG_AES_CONTROL ∧ (data.toUInt32 = AES_BLK_CONTROL_RESET ∨
          data.toUInt32 = AES_BLK_CONTROL_RESET_AES)) ∨
        (addr = REG_AES_CLEAR_FIFO ∧ data.toUInt32 = REG_AES_CLEAR_FIFO_RESET) := by
  simp only [AesEvent.clears, Bool.and_eq_true, decide_eq_true_eq, Bool.or_eq_true, beq_iff_eq]
  constructor
  · exact fun h => h.2
  · rintro (⟨rfl, h⟩ | ⟨rfl, h⟩)
    · exact ⟨by decide, Or.inl ⟨rfl, h⟩⟩
    · exact ⟨by decide, Or.inr ⟨rfl, h⟩⟩

/-- What a register write can do: a `COMMAND_FIFO` write, a clear (`aes_empty_fifo` or
`apple_aes_reset`), or a quiet step.
Source: `hw/misc/apple-silicon/aes.c` `aes_reg_write`
Kind: L -/
theorem aesRegWrite_cases (s : AppleAESState) (addr data : UInt64) :
    ((AesEvent.regWrite addr data).clears = false ∧
        (addr = REG_AES_COMMAND_FIFO_S8000 ∨ addr = REG_AES_COMMAND_FIFO) ∧
        aesRegWrite s addr data = aesCommandFifoWrite s data.toUInt32) ∨
      ((AesEvent.regWrite addr data).clears = true ∧
        (aesRegWrite s addr data = aesEmptyFifo s ∨ aesRegWrite s addr data = appleAesReset s)) ∨
      ((AesEvent.regWrite addr data).clears = false ∧
        ¬(addr = REG_AES_COMMAND_FIFO_S8000 ∨ addr = REG_AES_COMMAND_FIFO) ∧
        s.Quiet (aesRegWrite s addr data)) := by
  have hfifo : addr = REG_AES_COMMAND_FIFO_S8000 ∨ addr = REG_AES_COMMAND_FIFO →
      addr < AES_BLK_REG_SIZE ∧ addr ≠ REG_AES_CONTROL ∧ addr ≠ REG_AES_CLEAR_FIFO := by
    rintro (rfl | rfl) <;> decide
  -- the clearing writes are `CONTROL` and `CLEAR_FIFO` ones with the reset values
  have hnoclear : ∀ (hctl : addr = REG_AES_CONTROL → data.toUInt32 ≠ AES_BLK_CONTROL_RESET ∧
        data.toUInt32 ≠ AES_BLK_CONTROL_RESET_AES)
      (hclr : addr = REG_AES_CLEAR_FIFO → data.toUInt32 ≠ REG_AES_CLEAR_FIFO_RESET),
      (AesEvent.regWrite addr data).clears = false := by
    intro hctl hclr
    rw [← Bool.not_eq_true, AesEvent.clears_regWrite]
    rintro (⟨ha, hr | hr⟩ | ⟨ha, hr⟩)
    · exact (hctl ha).1 hr
    · exact (hctl ha).2 hr
    · exact hclr ha hr
  unfold aesRegWrite
  dsimp only
  split_ifs with hsize hwm hctl hstart hstop hreset hresetAes hcmd hclr hclrReset
  · -- past the register block
    have hnot : ¬(addr = REG_AES_COMMAND_FIFO_S8000 ∨ addr = REG_AES_COMMAND_FIFO) := by
      intro h
      have h1 := UInt64.le_iff_toNat_le.mp hsize
      have h2 := UInt64.lt_iff_toNat_lt.mp (hfifo h).1
      omega
    refine Or.inr (Or.inr ⟨hnoclear ?_ ?_, hnot, .refl s⟩) <;>
      rintro rfl <;> exact absurd hsize (by decide)
  · subst hwm
    exact Or.inr (Or.inr ⟨hnoclear (fun h => absurd h (by decide)) (fun h => absurd h (by decide)),
      by decide, ⟨rfl, rfl, rfl, rfl, rfl, rfl⟩⟩)
  · subst hctl
    refine Or.inr (Or.inr ⟨hnoclear (fun _ => ?_) (fun h => absurd h (by decide)), by decide,
      quiet_aesStart s⟩)
    rw [hstart]
    decide
  · subst hctl
    refine Or.inr (Or.inr ⟨hnoclear (fun _ => ?_) (fun h => absurd h (by decide)), by decide,
      quiet_aesStop s⟩)
    rw [hstop]
    decide
  · subst hctl
    exact Or.inr (Or.inl ⟨(AesEvent.clears_regWrite _ _).mpr (Or.inl ⟨rfl, Or.inl hreset⟩),
      Or.inl rfl⟩)
  · subst hctl
    exact Or.inr (Or.inl ⟨(AesEvent.clears_regWrite _ _).mpr (Or.inl ⟨rfl, Or.inr hresetAes⟩),
      Or.inr rfl⟩)
  · subst hctl
    exact Or.inr (Or.inr ⟨hnoclear (fun _ => ⟨hreset, hresetAes⟩) (fun h => absurd h (by decide)),
      by decide, .refl s⟩)
  · obtain ⟨-, hnc, hncl⟩ := hfifo hcmd
    exact Or.inl ⟨hnoclear (fun h => absurd h hnc) (fun h => absurd h hncl), hcmd, rfl⟩
  · subst hclr
    exact Or.inr (Or.inl ⟨(AesEvent.clears_regWrite _ _).mpr (Or.inr ⟨rfl, hclrReset⟩),
      Or.inl rfl⟩)
  · subst hclr
    exact Or.inr (Or.inr ⟨hnoclear (fun h => absurd h (by decide)) (fun _ => hclrReset), by decide,
      .refl s⟩)
  · exact Or.inr (Or.inr ⟨hnoclear (fun h => absurd h hctl) (fun h => absurd h hclr), hcmd,
      .refl s⟩)

/-- A register write that does not empty the FIFO keeps the state well formed and the commands
in flight, and moves the gap only by a stray word.
Source: `hw/misc/apple-silicon/aes.c` `aes_reg_write`
Kind: L -/
theorem aesRegWrite_spec {s : AppleAESState} (hwf : s.WellFormed) {addr data : UInt64}
    (hclear : (AesEvent.regWrite addr data).clears = false) :
    let s' := aesRegWrite s addr data
    s'.WellFormed ∧ s'.inFlight = s.inFlight ∧
      levelGap s' = levelGap s + (if (AesEvent.regWrite addr data).stray s then 1 else 0) := by
  rcases aesRegWrite_cases s addr data with ⟨-, hfifo, heq⟩ | ⟨hc, -⟩ | ⟨-, hnot, hq⟩
  · have hstray : (AesEvent.regWrite addr data).stray s = aesStrayWord s data.toUInt32 := by
      simp [AesEvent.stray, hfifo]
    rw [heq, hstray]
    exact aesCommandFifoWrite_spec hwf data.toUInt32
  · rw [hclear] at hc
    cases hc
  · have hstray : (AesEvent.regWrite addr data).stray s = false := by
      simp [AesEvent.stray, hnot]
    rw [hstray, if_neg Bool.false_ne_true, add_zero]
    exact ⟨hq.wellFormed hwf, hq.2.2.2.2.2, hq.levelGap_eq⟩

/-- A clearing write leaves the level at `0` and the queue empty, while the commands in flight
stay, and so does the command being assembled unless the write is `RESET_AES`.
Source: `hw/misc/apple-silicon/aes.c` `aes_empty_fifo` / `apple_aes_reset`
Kind: L -/
theorem aesRegWrite_of_clears {s : AppleAESState} (hwf : s.WellFormed) {addr data : UInt64}
    (hclear : (AesEvent.regWrite addr data).clears = true) :
    let s' := aesRegWrite s addr data
    s'.WellFormed ∧ s'.level = 0 ∧ s'.queue = [] ∧ s'.inFlight = s.inFlight ∧
      levelGap s' = -UInt8.ofNat (queuedWords s.inFlight + partialWords s') := by
  rcases aesRegWrite_cases s addr data with ⟨hc, -⟩ | ⟨-, heq | heq⟩ | ⟨hc, -⟩
  · rw [hclear] at hc
    cases hc
  · obtain ⟨hlevel, hqueue, hflight, -, hwf'⟩ := aesEmptyFifo_spec s
    rw [heq]
    refine ⟨hwf'.mpr hwf, hlevel, hqueue, hflight, ?_⟩
    simp [levelGap, hlevel, pendingWords, hqueue, hflight]
  · obtain ⟨hlevel, hqueue, hflight, -, hwf'⟩ := appleAesReset_spec s
    rw [heq]
    refine ⟨hwf', hlevel, hqueue, hflight, ?_⟩
    simp [levelGap, hlevel, pendingWords, hqueue, hflight]
  · rw [hclear] at hc
    cases hc

/-! ### The worker -/

/-- Taking a command off the queue moves its words from the queue to the commands in flight.
Source: `hw/misc/apple-silicon/aes.c` `aes_thread`
Kind: L -/
theorem aesThreadDequeue_spec {s s' : AppleAESState} (h : aesThreadDequeue s = some s') :
    (s'.WellFormed ↔ s.WellFormed) ∧ levelGap s' = levelGap s := by
  unfold aesThreadDequeue at h
  split at h
  · cases h
  · split at h
    · cases h
    · rename_i cmd queue hq
      rw [Option.some.injEq] at h
      subst h
      have hafter : pendingWords { s with queue := queue, inFlight := s.inFlight ++ [cmd] } =
          queuedWords queue + (queuedWords s.inFlight + cmd.dataLen.toNat) + partialWords s := by
        simp [pendingWords, partialWords]
      have hbefore : pendingWords s =
          cmd.dataLen.toNat + queuedWords queue + queuedWords s.inFlight + partialWords s := by
        rw [pendingWords, hq, queuedWords_cons]
      have hsame : pendingWords { s with queue := queue, inFlight := s.inFlight ++ [cmd] } =
          pendingWords s := by
        omega
      refine ⟨Iff.rfl, ?_⟩
      unfold levelGap
      rw [hsame]
      rfl

theorem queuedWords_eraseIdx {l : List AESCommand} {i : ℕ} {c : AESCommand} (h : l[i]? = some c) :
    queuedWords (l.eraseIdx i) + c.dataLen.toNat = queuedWords l := by
  induction l generalizing i with
  | nil => simp at h
  | cons x l ih =>
    cases i with
    | zero =>
      rw [List.getElem?_cons_zero, Option.some.injEq] at h
      subst h
      simp only [List.eraseIdx_cons_zero, queuedWords_cons]
      omega
    | succ i =>
      rw [List.getElem?_cons_succ] at h
      simp only [List.eraseIdx_cons_succ, queuedWords_cons]
      have := ih h
      omega

theorem aesProcessCommand_quiet (s : AppleAESState) (cmd : AESCommand) :
    s.Quiet (aesProcessCommand s cmd) := by
  unfold aesProcessCommand
  split
  · exact ⟨rfl, rfl, rfl, rfl, rfl, rfl⟩
  · exact .refl s

theorem AppleAESState.Quiet.wellFormed_iff {s s' : AppleAESState} (h : s.Quiet s') :
    s'.WellFormed ↔ s.WellFormed := by
  obtain ⟨-, -, hd, hl, hr, -⟩ := h
  unfold AppleAESState.WellFormed
  rw [hd, hl, hr]

/-- Finishing a command subtracts its words from the level and from the pending words alike.
Source: `hw/misc/apple-silicon/aes.c` `aes_thread`
Kind: L -/
theorem aesThreadFinish_spec {s s' : AppleAESState} {i : ℕ} (h : aesThreadFinish s i = some s') :
    (s'.WellFormed ↔ s.WellFormed) ∧ levelGap s' = levelGap s := by
  unfold aesThreadFinish at h
  split at h
  · cases h
  · rename_i cmd hcmd
    rw [Option.some.injEq] at h
    subst h
    set s₁ := aesProcessCommand { s with inFlight := s.inFlight.eraseIdx i } cmd with hs₁
    have hq := aesProcessCommand_quiet { s with inFlight := s.inFlight.eraseIdx i } cmd
    rw [← hs₁] at hq
    refine ⟨?_, ?_⟩
    · rw [wellFormed_aesUpdateCommandFifoStatus, wellFormed_setLevel, hq.wellFormed_iff]
      exact Iff.rfl
    · have hpending : pendingWords (aesUpdateCommandFifoStatus
          (s₁.setLevel (s₁.level - cmd.dataLen.toUInt8))) + cmd.dataLen.toNat = pendingWords s + 0 := by
        rw [pendingWords_aesUpdateCommandFifoStatus, pendingWords_setLevel, hq.2.1]
        have := queuedWords_eraseIdx hcmd
        simp only [pendingWords, partialWords]
        omega
      have hlevel : (aesUpdateCommandFifoStatus (s₁.setLevel (s₁.level - cmd.dataLen.toUInt8))).level =
          s.level + -cmd.dataLen.toUInt8 := by
        rw [level_aesUpdateCommandFifoStatus, AppleAESState.level_setLevel, hq.1, sub_eq_add_neg]
        rfl
      rw [levelGap_of hlevel hpending]
      have hcast : cmd.dataLen.toUInt8 = UInt8.ofNat cmd.dataLen.toNat := rfl
      rw [hcast]
      grind

/-! ## Every interleaving -/

/-- Every step keeps the command being assembled well formed.
Source: `hw/misc/apple-silicon/aes.c` `aes_reg_write` / `aes_thread`
Kind: L -/
theorem aesStep_wellFormed {s s' : AppleAESState} (hwf : s.WellFormed) :
    ∀ {e : AesEvent}, aesStep s e = some s' → s'.WellFormed
  | .regWrite addr data, h => by
    rw [aesStep, Option.some.injEq] at h
    subst h
    cases hc : (AesEvent.regWrite addr data).clears
    · exact (aesRegWrite_spec hwf hc).1
    · exact (aesRegWrite_of_clears hwf hc).1
  | .threadDequeue, h => (aesThreadDequeue_spec h).1.mpr hwf
  | .threadFinish _, h => (aesThreadFinish_spec h).1.mpr hwf

/-- One step that is not a clear moves the gap between the level and the pending words by one
exactly when it writes a stray word, and keeps it otherwise.
Source: `hw/misc/apple-silicon/aes.c` `aes_reg_write` / `aes_thread`
Kind: L -/
theorem aesStep_levelGap {s s' : AppleAESState} (hwf : s.WellFormed) :
    ∀ {e : AesEvent}, aesStep s e = some s' → e.clears = false →
      levelGap s' = levelGap s + (if e.stray s then 1 else 0)
  | .regWrite addr data, h, hc => by
    rw [aesStep, Option.some.injEq] at h
    subst h
    exact (aesRegWrite_spec hwf hc).2.2
  | .threadDequeue, h, _ => by
    rw [(aesThreadDequeue_spec h).2]
    simp [AesEvent.stray]
  | .threadFinish _, h, _ => by
    rw [(aesThreadFinish_spec h).2]
    simp [AesEvent.stray]

/-- The stray words a run writes, each counted in the state it is written in. -/
def aesRunStrayWords (s : AppleAESState) : List AesEvent → ℕ
  | [] => 0
  | e :: es =>
    match aesStep s e with
    | none => 0
    | some s' => (if e.stray s then 1 else 0) + aesRunStrayWords s' es

/-- Over a run with no clear, the gap grows by the stray words written and by nothing else. The
induction is on the events, with `aesStep_levelGap` for each.
Source: `hw/misc/apple-silicon/aes.c` `aes_reg_write` / `aes_thread`
Kind: L -/
theorem aesRun_levelGap :
    ∀ (es : List AesEvent) {s s' : AppleAESState}, s.WellFormed → aesRun s es = some s' →
      (∀ e ∈ es, e.clears = false) →
      s'.WellFormed ∧ levelGap s' = levelGap s + UInt8.ofNat (aesRunStrayWords s es)
  | [], s, s', hwf, h, _ => by
    rw [aesRun, Option.some.injEq] at h
    subst h
    exact ⟨hwf, by simp [aesRunStrayWords]⟩
  | e :: es, s, s', hwf, h, hc => by
    rw [aesRun] at h
    cases hstep : aesStep s e with
    | none => rw [hstep] at h; cases h
    | some s₁ =>
      rw [hstep] at h
      have hgap₁ := aesStep_levelGap hwf hstep (hc e List.mem_cons_self)
      obtain ⟨hwf', hgap⟩ := aesRun_levelGap es (aesStep_wellFormed hwf hstep) h
        fun e' he' => hc e' (List.mem_cons_of_mem e he')
      refine ⟨hwf', ?_⟩
      rw [hgap, hgap₁, aesRunStrayWords, hstep]
      dsimp only
      rw [UInt8.ofNat_add]
      split <;> simp [add_assoc]

/-- For every well-formed state of the engine: over every interleaving of guest writes and worker
steps with no clear, the level minus the pending words grows by the number of stray words
written (words whose opcode starts no command), in the level's 8 bits; a clear sets the level to
`0` while the commands in flight stay (and the command being assembled, unless it is
`RESET_AES`), so the gap becomes minus their words; and `LOW` after a `WATERMARKS` write still
compares the level with the old watermark.
Source: `hw/misc/apple-silicon/aes.c` `aes_reg_write` / `aes_thread` / `aes_empty_fifo` / `apple_aes_reset`
Kind: P -/
theorem aes_command_fifo_level_miscounts (s : AppleAESState) (hwf : s.WellFormed) :
    (∀ es s', aesRun s es = some s' → (∀ e ∈ es, e.clears = false) →
      levelGap s' = levelGap s + UInt8.ofNat (aesRunStrayWords s es)) ∧
    (∀ addr data, (AesEvent.regWrite addr data).clears = true →
      (aesRegWrite s addr data).level = 0 ∧ (aesRegWrite s addr data).inFlight = s.inFlight ∧
        levelGap (aesRegWrite s addr data) =
          -UInt8.ofNat (queuedWords s.inFlight + partialWords (aesRegWrite s addr data))) ∧
    (∀ data, (aesRegWrite s REG_AES_WATERMARKS data).commandFifoStatus.low =
      decide (s.level.toUInt32 < s.watermarks &&& 0x7F)) := by
  refine ⟨fun es s' h hc => (aesRun_levelGap es hwf h hc).2, fun addr data hc => ?_,
    fun data => rfl⟩
  obtain ⟨-, hlevel, -, hflight, hgap⟩ := aesRegWrite_of_clears hwf hc
  exact ⟨hlevel, hflight, hgap⟩

/-- From the engine as realised: one write of the word `0` (opcode `0`, which starts no command)
leaves the level at `1` with no word pending, so `EMPTY` is clear with nothing to consume; and
a one-word `FLAG` command taken by the worker, then `CLEAR_FIFO`, then the worker finishing,
leaves the level at `255` with no word pending, `FULL` and `OVERFLOW` set.
Source: none: infrastructure
Kind: P -/
theorem aes_command_fifo_level_miscounts_realized :
    aesRealized.WellFormed ∧
      (∃ s', aesRun aesRealized [.regWrite REG_AES_COMMAND_FIFO 0] = some s' ∧
        levelGap s' = 1 ∧ pendingWords s' = 0 ∧ s'.commandFifoStatus.empty = false) ∧
      (∃ s', aesRun aesRealized [.regWrite REG_AES_CONTROL 1,
          .regWrite REG_AES_COMMAND_FIFO 0x80000000, .threadDequeue,
          .regWrite REG_AES_CLEAR_FIFO 1, .threadFinish 0] = some s' ∧
        s'.level = 255 ∧ pendingWords s' = 0 ∧ s'.commandFifoStatus.full = true) := by
  have hwf : aesRealized.WellFormed := by decide
  refine ⟨hwf, ⟨_, rfl, ?_, by decide, by decide⟩, ⟨_, rfl, by decide, by decide, by decide⟩⟩
  rw [(aes_command_fifo_level_miscounts aesRealized hwf).1 [.regWrite REG_AES_COMMAND_FIFO 0] _
    rfl (by decide)]
  decide

end QemuAppleSilicon.Misc
