import QemuAppleSilicon.Misc.Smc
import QemuAppleSilicon.Qemu.Base
import QemuAppleSilicon.Lib.TracedRun

/-!
# The SMC key endpoint (`hw/misc/apple-silicon/smc.c`)

The SMC answers the guest's key messages on its RTKit user endpoint: a message names a command,
a tag and a four-character key, the data of a write is taken from the shared SRAM, and a read
answers in the response (up to four bytes) or in the SRAM. The store is two `QTAILQ`s, the keys
with their info and functions and one buffer per key, built by `apple_smc_create_key`.

`AppleSMC.WellFormed` is the shape `apple_smc_create_key` gives the store: keys and buffers in
step, each buffer of its key's size, names distinct, `key_count` the number of keys.

* `appleSmcCreateKey_wellFormed`, `appleSmcCreateKeyFunc_wellFormed` — creating a fresh key keeps
  the shape; `appleSmcCreate_wellFormed` — the 72 keys `apple_smc_create` makes
  (`appleSmcCreateCalls`) pass every assertion and build a well-formed store.
* `smcStep_wellFormed` — every input (a key message, a store into the SRAM, a button event, the
  end of boot, a reset) keeps it and, from it, never fails an assertion;
  `smc_endpoint_never_aborts` carries that over every run.
* `smcStep_value_frame`, `smcHandleWriteKey_value`, `smcHandleReadKey_plain` — an input other
  than a write of a key leaves the key's bytes alone (`smcRun_value_frame` over a run), a write of
  the right length takes them from the SRAM, and a read returns them; `smc_read_returns_written`
  puts the three together over a run.
* `smc_post_load_wellFormed` — buffers saved by a well-formed store and appended by
  `get_qtailq` to a well-formed build's own pass `vmstate_apple_smc_post_load` unchanged, and
  every key then reads the build's buffer, never a loaded one.
-/

namespace QemuAppleSilicon.Misc

open QemuAppleSilicon.Lib QemuAppleSilicon.Qemu

/-! ## Commands, results and attributes -/

/-- Source: `include/hw/misc/apple-silicon/smc.h` `SMC_READ_KEY`. Kind: D -/
def SMC_READ_KEY : UInt8 := 0x10
/-- Source: `include/hw/misc/apple-silicon/smc.h` `SMC_WRITE_KEY`. Kind: D -/
def SMC_WRITE_KEY : UInt8 := 0x11
/-- Source: `include/hw/misc/apple-silicon/smc.h` `SMC_GET_KEY_BY_INDEX`. Kind: D -/
def SMC_GET_KEY_BY_INDEX : UInt8 := 0x12
/-- Source: `include/hw/misc/apple-silicon/smc.h` `SMC_GET_KEY_INFO`. Kind: D -/
def SMC_GET_KEY_INFO : UInt8 := 0x13
/-- Source: `include/hw/misc/apple-silicon/smc.h` `SMC_GET_SRAM_ADDR`. Kind: D -/
def SMC_GET_SRAM_ADDR : UInt8 := 0x17
/-- Source: `include/hw/misc/apple-silicon/smc.h` `SMC_NOTIFICATION`. Kind: D -/
def SMC_NOTIFICATION : UInt8 := 0x18
/-- Source: `include/hw/misc/apple-silicon/smc.h` `SMC_READ_KEY_PAYLOAD`. Kind: D -/
def SMC_READ_KEY_PAYLOAD : UInt8 := 0x20

/-- Source: `include/hw/misc/apple-silicon/smc.h` `kSMCSuccess`. Kind: D -/
def kSMCSuccess : UInt8 := 0
/-- Source: `include/hw/misc/apple-silicon/smc.h` `kSMCBadCommand`. Kind: D -/
def kSMCBadCommand : UInt8 := 0x82
/-- Source: `include/hw/misc/apple-silicon/smc.h` `kSMCKeyNotFound`. Kind: D -/
def kSMCKeyNotFound : UInt8 := 0x84
/-- Source: `include/hw/misc/apple-silicon/smc.h` `kSMCKeyNotReadable`. Kind: D -/
def kSMCKeyNotReadable : UInt8 := 0x85
/-- Source: `include/hw/misc/apple-silicon/smc.h` `kSMCKeyNotWritable`. Kind: D -/
def kSMCKeyNotWritable : UInt8 := 0x86
/-- Source: `include/hw/misc/apple-silicon/smc.h` `kSMCBadArgumentError`. Kind: D -/
def kSMCBadArgumentError : UInt8 := 0x89
/-- Source: `include/hw/misc/apple-silicon/smc.h` `kSMCKeyIndexRangeError`. Kind: D -/
def kSMCKeyIndexRangeError : UInt8 := 0xB8
/-- Source: `include/hw/misc/apple-silicon/smc.h` `kSMCBadFuncParameter`. Kind: D -/
def kSMCBadFuncParameter : UInt8 := 0xC0

/-- Source: `include/hw/misc/apple-silicon/smc.h` `kSMCEventSystemStateNotify`. Kind: D -/
def kSMCEventSystemStateNotify : UInt8 := 0x70
/-- Source: `include/hw/misc/apple-silicon/smc.h` `kSMCEventHIDEventNotify`. Kind: D -/
def kSMCEventHIDEventNotify : UInt8 := 0x72
/-- Source: `include/hw/misc/apple-silicon/smc.h` `kSMCSystemStateNotifySMCPanicDone`. Kind: D -/
def kSMCSystemStateNotifySMCPanicDone : UInt8 := 0xA
/-- Source: `include/hw/misc/apple-silicon/smc.h` `kSMCSystemStateNotifySMCPanicProgress`. Kind: D -/
def kSMCSystemStateNotifySMCPanicProgress : UInt8 := 0x22
/-- Source: `include/hw/misc/apple-silicon/smc.h` `kSMCHIDEventNotifyTypeButton`. Kind: D -/
def kSMCHIDEventNotifyTypeButton : UInt8 := 1
/-- Source: `include/hw/misc/apple-silicon/smc.h` `kSMCKeyEndpoint`. Kind: D -/
def kSMCKeyEndpoint : UInt32 := 0

/-- `BIT(2)`. Source: `include/hw/misc/apple-silicon/smc.h` `SMC_ATTR_LITTLE_ENDIAN`. Kind: D -/
def SMC_ATTR_LITTLE_ENDIAN : UInt32 := 0x4
/-- `BIT(4)`. Source: `include/hw/misc/apple-silicon/smc.h` `SMC_ATTR_FUNCTION`. Kind: D -/
def SMC_ATTR_FUNCTION : UInt32 := 0x10
/-- `BIT(6)`. Source: `include/hw/misc/apple-silicon/smc.h` `SMC_ATTR_WRITEABLE`. Kind: D -/
def SMC_ATTR_WRITEABLE : UInt32 := 0x40
/-- `BIT(7)`. Source: `include/hw/misc/apple-silicon/smc.h` `SMC_ATTR_READABLE`. Kind: D -/
def SMC_ATTR_READABLE : UInt32 := 0x80
/-- Source: `include/hw/misc/apple-silicon/smc.h` `SMC_ATTR_DEFAULT_LE`. Kind: D -/
def SMC_ATTR_DEFAULT_LE : UInt32 := SMC_ATTR_LITTLE_ENDIAN ||| SMC_ATTR_READABLE ||| SMC_ATTR_WRITEABLE

/-! ## Messages -/

/-- Source: `hw/misc/apple-silicon/smc.c` `KeyMessage`. Kind: D -/
structure KeyMessage where
  cmd : UInt8
  tagAndId : UInt8
  length : UInt8
  payloadLength : UInt8
  key : UInt32
  deriving DecidableEq

/-- `kmsg = (KeyMessage *)&msg`: the packed fields of the 64-bit message, byte 0 first (the
`le32_to_cpu` of the key changes nothing on a little-endian host).
Source: `hw/misc/apple-silicon/smc.c` `apple_smc_handle_key_endpoint`
Kind: D -/
def KeyMessage.ofRaw (msg : UInt64) : KeyMessage :=
  ⟨msg.toUInt8, (msg >>> 8).toUInt8, (msg >>> 16).toUInt8, (msg >>> 24).toUInt8, (msg >>> 32).toUInt32⟩

/-- Source: `include/hw/misc/apple-silicon/smc.h` `KeyResponse`. Kind: D -/
structure KeyResponse where
  status : UInt8
  tagAndId : UInt8
  length : UInt8
  unk3 : UInt8
  response : List UInt8
  deriving DecidableEq

/-- `memset(&resp, 0, sizeof(resp))`.
Source: `hw/misc/apple-silicon/smc.c` `apple_smc_handle_key_endpoint`
Kind: D -/
def KeyResponse.zero : KeyResponse := ⟨0, 0, 0, 0, [0, 0, 0, 0]⟩

/-- `resp.raw`: the eight bytes of the packed response read as a little-endian word.
Source: `include/hw/misc/apple-silicon/smc.h` `KeyResponse`
Kind: D -/
def KeyResponse.raw (r : KeyResponse) : UInt64 :=
  UInt64.ofNat (leValue ([r.status, r.tagAndId, r.length, r.unk3] ++ r.response))

/-- `memcpy(dst, src, n)` into the start of the buffer `dst`, `src` being the `n` bytes copied. -/
def memcpyPrefix (dst src : List UInt8) : List UInt8 := src ++ dst.drop src.length

/-- What the SMC does outside its own state: a message to the guest on a user endpoint, or a
request to the machine.
Source: `hw/misc/apple-silicon/smc.c` (`apple_rtkit_send_user_msg`, `qemu_system_*_request`)
Kind: D -/
inductive SMCEvent
  | send (ep : UInt32) (msg : UInt64)
  | shutdownRequest
  | suspendRequest
  | resetRequest
  deriving DecidableEq

/-! ## The store -/

/-- The key functions `smc.c` installs: `smc_key_count_read` and `apple_smc_mbse_write`.
Source: `include/hw/misc/apple-silicon/smc.h` `KeyReader`
Kind: D -/
inductive KeyReader
  | keyCountRead
  deriving DecidableEq

/-- Source: `include/hw/misc/apple-silicon/smc.h` `KeyWriter`. Kind: D -/
inductive KeyWriter
  | mbseWrite
  deriving DecidableEq

/-- `type` is the stored `cpu_to_be32(type)`.
Source: `include/hw/misc/apple-silicon/smc.h` `SMCKeyInfo`
Kind: D -/
structure SMCKeyInfo where
  size : UInt8
  type : UInt32
  attr : UInt8
  deriving DecidableEq

/-- The six packed bytes of the info.
Source: `include/hw/misc/apple-silicon/smc.h` `SMCKeyInfo`
Kind: D -/
def SMCKeyInfo.bytes (i : SMCKeyInfo) : List UInt8 := [i.size] ++ leBytes i.type.toNat 4 ++ [i.attr]

/-- A key with its info and functions.
Source: `include/hw/misc/apple-silicon/smc.h` `SMCKey`
Kind: D -/
structure SMCKeyEntry where
  key : UInt32
  info : SMCKeyInfo
  read : Option KeyReader
  write : Option KeyWriter
  deriving DecidableEq

/-- The name and size of a key, what `vmstate_apple_smc_post_load` reads of it.
Source: `include/hw/misc/apple-silicon/smc.h` `SMCKey`
Kind: D -/
def SMCKeyEntry.toSMCKey (e : SMCKeyEntry) : SMCKey := ⟨e.key, e.info.size⟩

/-- The SMC's store, its SRAM and whether the firmware has booted.
Source: `hw/misc/apple-silicon/smc.c` `AppleSMCState`
Kind: D -/
structure AppleSMC where
  keys : List SMCKeyEntry
  keyData : List SMCKeyData
  keyCount : UInt32
  sram : Mem
  sramSize : ℕ
  sramAddr : UInt64
  isBooted : Bool

/-- The store as `vmstate_apple_smc_post_load` sees it.
Source: `hw/misc/apple-silicon/smc.c` `AppleSMCState`
Kind: D -/
def AppleSMC.toState (s : AppleSMC) : AppleSMCState := ⟨s.keys.map SMCKeyEntry.toSMCKey, s.keyData⟩

/-- `apple_smc_get_key`, with the whole entry.
Source: `hw/misc/apple-silicon/smc.c` `apple_smc_get_key`
Kind: D -/
def appleSmcGetKeyEntry (s : AppleSMC) (key : UInt32) : Option SMCKeyEntry :=
  s.keys.find? (·.key == key)

/-- Writing through the buffer `apple_smc_get_key_data` finds: the first one filed under `key`.
Source: `hw/misc/apple-silicon/smc.c` `apple_smc_get_key_data`
Kind: D -/
def modifyKeyData (key : UInt32) (f : List UInt8 → List UInt8) : List SMCKeyData → List SMCKeyData
  | [] => []
  | d :: ds => if d.key = key then { d with data := f d.data } :: ds else d :: modifyKeyData key f ds

/-- `apple_smc_create_key`: `none` where `g_assert_null(apple_smc_get_key(s, key))` fails. The
`uint32_t` size and attribute are truncated into the `uint8_t` fields of the info.
Source: `hw/misc/apple-silicon/smc.c` `apple_smc_create_key`
Kind: D -/
def appleSmcCreateKey (s : AppleSMC) (key size type attr : UInt32) (data : Option (List UInt8)) :
    Option AppleSMC :=
  if (appleSmcGetKeyEntry s key).isSome then none
  else
    some { s with
      keyCount := s.keyCount + 1
      keys := s.keys ++ [⟨key, ⟨size.toUInt8, cpuToBe32 type, attr.toUInt8⟩, none, none⟩]
      keyData := s.keyData ++
        [⟨key, size, match data with
          | none => List.replicate size.toNat 0
          | some bs => bs.take size.toNat⟩] }

/-- `apple_smc_create_key_func`: the attribute gets the function bit and the bits of the
functions given, and the new key its functions.
Source: `hw/misc/apple-silicon/smc.c` `apple_smc_create_key_func`
Kind: D -/
def appleSmcCreateKeyFunc (s : AppleSMC) (key size type attr : UInt32) (reader : Option KeyReader)
    (writer : Option KeyWriter) : Option AppleSMC :=
  let attr := attr ||| SMC_ATTR_FUNCTION
  let attr := if reader.isSome then attr ||| SMC_ATTR_READABLE else attr
  let attr := if writer.isSome then attr ||| SMC_ATTR_WRITEABLE else attr
  -- the new key is the only one of its name once `apple_smc_create_key` has passed
  (appleSmcCreateKey s key size type attr none).map fun s =>
    { s with keys := s.keys.map fun e => if e.key = key then { e with read := reader, write := writer } else e }

/-- `apple_smc_set_key(s, key, size, data)`, `data` being the `size` bytes at the pointer: the
status, and `none` where the missing buffer is dereferenced.
Source: `hw/misc/apple-silicon/smc.c` `apple_smc_set_key`
Kind: D -/
def appleSmcSetKey (s : AppleSMC) (key size : UInt32) (data : List UInt8) : Option (UInt8 × AppleSMC) :=
  match appleSmcGetKeyEntry s key with
  | none => some (kSMCKeyNotFound, s)
  | some e =>
    if e.info.size.toUInt32 ≠ size then some (kSMCBadArgumentError, s)
    else
      match appleSmcGetKeyData s.toState key with
      | none => none
      | some _ => some (kSMCSuccess, { s with keyData := modifyKeyData key (memcpyPrefix · data) s.keyData })

/-- `smc_key_count_read`: the little-endian `key_count` copied into the key's buffer.
Source: `hw/misc/apple-silicon/smc.c` `smc_key_count_read`
Kind: D -/
def smcKeyCountRead (keyCount : UInt32) (data : List UInt8) : UInt8 × List UInt8 :=
  (kSMCSuccess, memcpyPrefix data (leBytes keyCount.toNat 4))

/-- A reader on the key count and the key's buffer: its status and the buffer after it.
Source: `include/hw/misc/apple-silicon/smc.h` `KeyReader`
Kind: D -/
def KeyReader.call : KeyReader → UInt32 → List UInt8 → UInt8 × List UInt8
  | .keyCountRead, keyCount, data => smcKeyCountRead keyCount data

/-- A notification: `memset` to zero, then the status and two bytes of the response.
Source: `hw/misc/apple-silicon/smc.c` `apple_smc_mbse_write`
Kind: D -/
def smcNotification (b₀ b₁ b₂ b₃ : UInt8) : KeyResponse :=
  { KeyResponse.zero with status := SMC_NOTIFICATION, response := [b₀, b₁, b₂, b₃] }

/-- `apple_smc_mbse_write`: the little-endian word at the start of the SRAM names the request
(`'offw'` is `0x6F666677`, the value of a multi-character constant in GCC). The payload pointer
is the SRAM, never `NULL`.
Source: `hw/misc/apple-silicon/smc.c` `apple_smc_mbse_write`
Kind: D -/
def appleSmcMbseWrite (s : AppleSMC) (e : SMCKeyEntry) (length : UInt8) : UInt8 × List SMCEvent :=
  if length ≠ e.info.size then (kSMCBadArgumentError, [])
  else
    let value := ldlLeP s.sram 0
    if value = 0x6F666677 ∨ value = 0x6F666631 then (kSMCSuccess, [.shutdownRequest])
    else if value = 0x73757370 then (kSMCSuccess, [.suspendRequest])
    else if value = 0x72657374 then (kSMCSuccess, [.resetRequest])
    else if value = 0x736C7077 then (kSMCSuccess, [])
    else if value = 0x70616E62 then
      (kSMCSuccess, [.send kSMCKeyEndpoint
        (smcNotification 0 0 kSMCSystemStateNotifySMCPanicProgress kSMCEventSystemStateNotify).raw])
    else if value = 0x70616E65 then
      (kSMCSuccess, [.send kSMCKeyEndpoint
        (smcNotification 0 0 kSMCSystemStateNotifySMCPanicDone kSMCEventSystemStateNotify).raw])
    else (kSMCBadFuncParameter, [])

/-- A writer on the state, the key and the length of the message: its status and what it does.
Source: `include/hw/misc/apple-silicon/smc.h` `KeyWriter`
Kind: D -/
def KeyWriter.call : KeyWriter → AppleSMC → SMCKeyEntry → UInt8 → UInt8 × List SMCEvent
  | .mbseWrite, s, e, length => appleSmcMbseWrite s e length

/-! ## The key endpoint -/

/-- The end of `SMC_READ_KEY` once the reader has run on the buffer, now `bytes`: on success the
`info.size` bytes go into the response when there are at most four, else to the SRAM.
Source: `hw/misc/apple-silicon/smc.c` `apple_smc_handle_key_endpoint`
Kind: D -/
def smcReadKeyReply (s : AppleSMC) (e : SMCKeyEntry) (status : UInt8) (bytes : List UInt8) :
    KeyResponse × AppleSMC :=
  if status = kSMCSuccess then
    if e.info.size ≤ 4 then
      ({ KeyResponse.zero with
          length := e.info.size
          response := memcpyPrefix [0, 0, 0, 0] (bytes.take e.info.size.toNat) }, s)
    else
      ({ KeyResponse.zero with length := e.info.size },
        { s with sram := s.sram.write 0 (bytes.take e.info.size.toNat) })
  else ({ KeyResponse.zero with status := status }, s)

/-- `SMC_READ_KEY` and `SMC_READ_KEY_PAYLOAD`: `none` where `g_assert_nonnull(data_entry)` fails.
Source: `hw/misc/apple-silicon/smc.c` `apple_smc_handle_key_endpoint`
Kind: D -/
def smcHandleReadKey (s : AppleSMC) (kmsg : KeyMessage) : Option (KeyResponse × AppleSMC) :=
  match appleSmcGetKeyEntry s kmsg.key with
  | none => some ({ KeyResponse.zero with status := kSMCKeyNotFound }, s)
  | some e =>
    if e.info.attr.toUInt32 &&& SMC_ATTR_READABLE ≠ 0 then
      (appleSmcGetKeyData s.toState kmsg.key).map fun d =>
        match e.read with
        | none => smcReadKeyReply s e kSMCSuccess d.data
        | some r =>
          let (status, bytes) := r.call s.keyCount d.data
          smcReadKeyReply { s with keyData := modifyKeyData kmsg.key (fun _ => bytes) s.keyData } e status bytes
    else some ({ KeyResponse.zero with status := kSMCKeyNotReadable }, s)

/-- `SMC_WRITE_KEY`: the key's writer, or `apple_smc_set_key` from the SRAM; `none` where an
assertion fails.
Source: `hw/misc/apple-silicon/smc.c` `apple_smc_handle_key_endpoint`
Kind: D -/
def smcHandleWriteKey (s : AppleSMC) (kmsg : KeyMessage) : Option (KeyResponse × AppleSMC × List SMCEvent) :=
  match appleSmcGetKeyEntry s kmsg.key with
  | none => some ({ KeyResponse.zero with status := kSMCKeyNotFound }, s, [])
  | some e =>
    if e.info.attr.toUInt32 &&& SMC_ATTR_WRITEABLE ≠ 0 then
      match appleSmcGetKeyData s.toState kmsg.key with
      | none => none
      | some _ =>
        match e.write with
        | some w =>
          let (status, evs) := w.call s e kmsg.length
          some ({ KeyResponse.zero with status := status, length := kmsg.length }, s, evs)
        | none =>
          (appleSmcSetKey s kmsg.key kmsg.length.toUInt32 (s.sram.read 0 kmsg.length.toNat)).map
            fun r => ({ KeyResponse.zero with status := r.1, length := kmsg.length }, r.2, [])
    else some ({ KeyResponse.zero with status := kSMCKeyNotWritable }, s, [])

/-- `SMC_GET_KEY_BY_INDEX`: the loop walks `kmsg->key` entries from the first.
Source: `hw/misc/apple-silicon/smc.c` `apple_smc_handle_key_endpoint`
Kind: D -/
def smcHandleGetKeyByIndex (s : AppleSMC) (kmsg : KeyMessage) : KeyResponse :=
  match s.keys[kmsg.key.toNat]? with
  | none => { KeyResponse.zero with status := kSMCKeyIndexRangeError }
  | some e => { KeyResponse.zero with response := leBytes e.key.toNat 4 }

/-- `SMC_GET_KEY_INFO`: the packed info copied to the SRAM.
Source: `hw/misc/apple-silicon/smc.c` `apple_smc_handle_key_endpoint`
Kind: D -/
def smcHandleGetKeyInfo (s : AppleSMC) (kmsg : KeyMessage) : KeyResponse × AppleSMC :=
  match appleSmcGetKeyEntry s kmsg.key with
  | none => ({ KeyResponse.zero with status := kSMCKeyNotFound }, s)
  | some e => (KeyResponse.zero, { s with sram := s.sram.write 0 e.info.bytes })

/-- `apple_smc_handle_key_endpoint(s, ep, msg)`: every command but `SMC_GET_SRAM_ADDR` answers
with the message's tag; a write's own events come before its answer.
Source: `hw/misc/apple-silicon/smc.c` `apple_smc_handle_key_endpoint`
Kind: D -/
def appleSmcHandleKeyEndpoint (s : AppleSMC) (ep : UInt32) (msg : UInt64) :
    Option (AppleSMC × List SMCEvent) :=
  let kmsg := KeyMessage.ofRaw msg
  let reply := fun r : KeyResponse => SMCEvent.send ep { r with tagAndId := kmsg.tagAndId }.raw
  if kmsg.cmd = SMC_GET_SRAM_ADDR then some (s, [.send ep s.sramAddr])
  else if kmsg.cmd = SMC_READ_KEY ∨ kmsg.cmd = SMC_READ_KEY_PAYLOAD then
    (smcHandleReadKey s kmsg).map fun r => (r.2, [reply r.1])
  else if kmsg.cmd = SMC_WRITE_KEY then
    (smcHandleWriteKey s kmsg).map fun r => (r.2.1, r.2.2 ++ [reply r.1])
  else if kmsg.cmd = SMC_GET_KEY_BY_INDEX then some (s, [reply (smcHandleGetKeyByIndex s kmsg)])
  else if kmsg.cmd = SMC_GET_KEY_INFO then
    let r := smcHandleGetKeyInfo s kmsg
    some (r.2, [reply r.1])
  else some (s, [reply { KeyResponse.zero with status := kSMCBadCommand }])

/-- `apple_smc_send_hid_button`: a notification once the firmware has booted.
Source: `hw/misc/apple-silicon/smc.c` `apple_smc_send_hid_button`
Kind: D -/
def appleSmcSendHidButton (s : AppleSMC) (button : UInt8) (state : Bool) : List SMCEvent :=
  if !s.isBooted then []
  else
    [.send kSMCKeyEndpoint
      (smcNotification (if state then 1 else 0) button kSMCHIDEventNotifyTypeButton kSMCEventHIDEventNotify).raw]

/-- Source: `hw/misc/apple-silicon/smc.c` `apple_smc_boot_done`. Kind: D -/
def appleSmcBootDone (s : AppleSMC) : AppleSMC := { s with isBooted := true }

/-- The SMC's own part of `apple_smc_reset_hold`: the SRAM cleared and the boot flag dropped.
Source: `hw/misc/apple-silicon/smc.c` `apple_smc_reset_hold`
Kind: D -/
def appleSmcResetHold (s : AppleSMC) : AppleSMC :=
  { s with sram := s.sram.write 0 (List.replicate s.sramSize 0), isBooted := false }

/-- What can happen to the SMC: a message on its key endpoint, a store of the guest into the
shared SRAM, a button, the end of the firmware's boot, a reset.
Source: none: the inputs of `hw/misc/apple-silicon/smc.c`
Kind: D -/
inductive SMCInput
  | keyMsg (msg : UInt64)
  | sramWrite (addr : ℕ) (bytes : List UInt8)
  | hidButton (button : UInt8) (state : Bool)
  | bootDone
  | reset

/-- One input.
Source: none: the inputs of `hw/misc/apple-silicon/smc.c`
Kind: D -/
def smcStep : SMCInput → AppleSMC → Option (AppleSMC × List SMCEvent)
  | .keyMsg msg, s => appleSmcHandleKeyEndpoint s kSMCKeyEndpoint msg
  | .sramWrite a bs, s => some ({ s with sram := s.sram.write a bs }, [])
  | .hidButton b st, s => some (s, appleSmcSendHidButton s b st)
  | .bootDone, s => some (appleSmcBootDone s, [])
  | .reset, s => some (appleSmcResetHold s, [])

/-! ## The shape of the store -/

/-- A buffer's name, size and length. -/
def SMCKeyData.shape (d : SMCKeyData) : UInt32 × UInt32 × ℕ := (d.key, d.size, d.data.length)

/-- The shape of the buffer `apple_smc_create_key` makes for a key.
Source: `hw/misc/apple-silicon/smc.c` `apple_smc_create_key`
Kind: D -/
def SMCKeyEntry.bufferShape (e : SMCKeyEntry) : UInt32 × UInt32 × ℕ :=
  (e.key, e.info.size.toUInt32, e.info.size.toNat)

/-- The store as `apple_smc_create_key` leaves it: one buffer per key, in the keys' order and of
their size; distinct names; `key_count` the number of keys; the key count read only on keys of
at least four bytes, the four it copies.
Source: `hw/misc/apple-silicon/smc.c` `apple_smc_create_key`
Kind: D -/
structure AppleSMC.WellFormed (s : AppleSMC) : Prop where
  shape : s.keyData.map SMCKeyData.shape = s.keys.map SMCKeyEntry.bufferShape
  nodup : (s.keys.map (·.key)).Nodup
  count : s.keyCount.toNat = s.keys.length
  countRead : ∀ e ∈ s.keys, e.read = some .keyCountRead → 4 ≤ e.info.size.toNat

/-- Two lists with the same image find, by a test on the image, elements with the same image. -/
theorem find?_map_eq {α β γ : Type*} {f : α → γ} {g : β → γ} (P : γ → Bool) :
    ∀ {l₁ : List α} {l₂ : List β}, l₁.map f = l₂.map g →
      (l₁.find? (P ∘ f)).map f = (l₂.find? (P ∘ g)).map g
  | [], [], _ => rfl
  | a :: l₁, b :: l₂, h => by
    obtain ⟨hab, hl⟩ := List.cons.inj h
    by_cases hp : P (f a)
    · have hq : P (g b) := hab ▸ hp
      simp only [List.find?_cons, Function.comp, hq, Option.map_some, hab]
    · have hq : ¬ P (g b) := hab ▸ hp
      simp only [List.find?_cons, Function.comp, hp, hq]
      exact find?_map_eq P hl

section Store

variable {s : AppleSMC} {k : UInt32}

/-- In a well-formed store a key's buffer is found, with the key's shape.
Source: `hw/misc/apple-silicon/smc.c` `apple_smc_get_key_data`
Kind: L -/
theorem AppleSMC.WellFormed.getKeyData (hs : s.WellFormed) {e : SMCKeyEntry}
    (he : appleSmcGetKeyEntry s k = some e) :
    ∃ d, appleSmcGetKeyData s.toState k = some d ∧ d.shape = e.bufferShape := by
  have hmap := find?_map_eq (fun p => p.1 == k) hs.shape
  have hkeys : s.keys.find? ((fun p => p.1 == k) ∘ SMCKeyEntry.bufferShape) = some e := he
  rw [hkeys, Option.map_some] at hmap
  obtain ⟨d, hd, hshape⟩ := Option.map_eq_some_iff.mp hmap
  exact ⟨d, hd, hshape⟩

/-- In a well-formed store every key is found with its own entry, the names being distinct.
Source: `hw/misc/apple-silicon/smc.c` `apple_smc_get_key`
Kind: L -/
theorem AppleSMC.WellFormed.getKeyEntry_of_mem (hs : s.WellFormed) {e : SMCKeyEntry} (he : e ∈ s.keys) :
    appleSmcGetKeyEntry s e.key = some e := by
  cases hfind : appleSmcGetKeyEntry s e.key with
  | none => exact absurd (List.find?_eq_none.mp hfind e he) (by simp)
  | some e' =>
    have hmem : e' ∈ s.keys := List.mem_of_find?_eq_some hfind
    have hkey : e'.key = e.key := by simpa using List.find?_some hfind
    rw [List.inj_on_of_nodup_map hs.nodup hmem he hkey]

/-- In a well-formed store every buffer finds its key, at the buffer's size.
Source: `hw/misc/apple-silicon/smc.c` `vmstate_apple_smc_post_load`
Kind: L -/
theorem AppleSMC.WellFormed.keyedData (hs : s.WellFormed) {d : SMCKeyData} (hd : d ∈ s.keyData) :
    s.toState.KeyedData d := by
  have hmem : d.shape ∈ s.keys.map SMCKeyEntry.bufferShape := hs.shape ▸ List.mem_map_of_mem hd
  obtain ⟨e, he, hshape⟩ := List.mem_map.mp hmem
  have hkey : e.key = d.key := congrArg (·.1) hshape
  have hsize : e.info.size.toUInt32 = d.size := congrArg (·.2.1) hshape
  refine ⟨e.toSMCKey, ?_, hsize⟩
  have hfind : s.keys.find? ((fun k : SMCKey => k.key == d.key) ∘ SMCKeyEntry.toSMCKey) = some e :=
    hkey ▸ hs.getKeyEntry_of_mem he
  rw [appleSmcGetKey, AppleSMC.toState, List.find?_map, hfind, Option.map_some]

/-- A buffer's shape gives its length. -/
theorem SMCKeyData.length_of_shape {d : SMCKeyData} {e : SMCKeyEntry} (h : d.shape = e.bufferShape) :
    d.data.length = e.info.size.toNat :=
  (Prod.mk.inj (Prod.mk.inj h).2).2

/-- Writing through the buffer found for `k` keeps the shape when it keeps that buffer's length.
Source: `hw/misc/apple-silicon/smc.c` `apple_smc_get_key_data`
Kind: L -/
theorem modifyKeyData_shape {f : List UInt8 → List UInt8} :
    ∀ {ds : List SMCKeyData}, (∀ d, ds.find? (·.key == k) = some d → (f d.data).length = d.data.length) →
      (modifyKeyData k f ds).map SMCKeyData.shape = ds.map SMCKeyData.shape
  | [], _ => rfl
  | d :: ds, hf => by
    by_cases hk : d.key = k
    · have hlen := hf d (by simp [hk])
      simp only [modifyKeyData, if_pos hk, List.map_cons, SMCKeyData.shape, hlen]
    · have hrest : ∀ d', ds.find? (·.key == k) = some d' → (f d'.data).length = d'.data.length :=
        fun d' hd' => hf d' (by simp [hk, hd'])
      simp only [modifyKeyData, if_neg hk, List.map_cons, modifyKeyData_shape hrest]

/-- After writing through `k`'s buffer, `k`'s buffer holds the bytes written.
Source: `hw/misc/apple-silicon/smc.c` `apple_smc_get_key_data`
Kind: L -/
theorem find?_modifyKeyData_self (f : List UInt8 → List UInt8) :
    ∀ ds : List SMCKeyData, (modifyKeyData k f ds).find? (·.key == k) =
      (ds.find? (·.key == k)).map fun d => { d with data := f d.data }
  | [] => rfl
  | d :: ds => by
    by_cases hk : d.key = k
    · simp [modifyKeyData, hk]
    · simp [modifyKeyData, hk, find?_modifyKeyData_self f ds]

/-- Writing through `k`'s buffer leaves the buffer of every other key alone.
Source: `hw/misc/apple-silicon/smc.c` `apple_smc_get_key_data`
Kind: L -/
theorem find?_modifyKeyData_of_ne (f : List UInt8 → List UInt8) {k' : UInt32} (hne : k' ≠ k) :
    ∀ ds : List SMCKeyData, (modifyKeyData k f ds).find? (·.key == k') = ds.find? (·.key == k')
  | [] => rfl
  | d :: ds => by
    by_cases hk : d.key = k
    · subst hk
      have hbeq : (d.key == k') = false := beq_eq_false_iff_ne.mpr (Ne.symm hne)
      simp only [modifyKeyData, if_true, List.find?_cons, hbeq]
    · have hrest := find?_modifyKeyData_of_ne f hne ds
      simp only [modifyKeyData, if_neg hk, List.find?_cons, hrest]

/-- A store with the same keys, count and buffer shapes as a well-formed one is well formed. -/
theorem AppleSMC.WellFormed.of_shape (hs : s.WellFormed) {s' : AppleSMC} (hk : s'.keys = s.keys)
    (hc : s'.keyCount = s.keyCount) (hd : s'.keyData.map SMCKeyData.shape = s.keyData.map SMCKeyData.shape) :
    s'.WellFormed where
  shape := by rw [hd, hk, hs.shape]
  nodup := hk ▸ hs.nodup
  count := by rw [hc, hk, hs.count]
  countRead := hk ▸ hs.countRead

/-- Changing the keys' functions keeps the store well formed, as long as the count reader goes
only to keys of four bytes or more. -/
theorem AppleSMC.WellFormed.mapKeys (hs : s.WellFormed) (g : SMCKeyEntry → SMCKeyEntry)
    (hkey : ∀ e, (g e).key = e.key) (hinfo : ∀ e, (g e).info = e.info)
    (hread : ∀ e ∈ s.keys, (g e).read = some .keyCountRead → 4 ≤ e.info.size.toNat) :
    ({ s with keys := s.keys.map g } : AppleSMC).WellFormed where
  shape := by
    rw [hs.shape, List.map_map]
    exact List.map_congr_left fun e _ => by simp [SMCKeyEntry.bufferShape, hkey, hinfo]
  nodup := by
    have hmap : (s.keys.map g).map (·.key) = s.keys.map (·.key) := by simp [hkey]
    exact hmap ▸ hs.nodup
  count := by simp [hs.count]
  countRead := by
    intro e' he' hr
    obtain ⟨e, he, rfl⟩ := List.mem_map.mp he'
    rw [hinfo]
    exact hread e he hr

/-- The end of a read touches the SRAM at most.
Source: `hw/misc/apple-silicon/smc.c` `apple_smc_handle_key_endpoint`
Kind: L -/
theorem smcReadKeyReply_store (s : AppleSMC) (e : SMCKeyEntry) (status : UInt8) (bytes : List UInt8) :
    (smcReadKeyReply s e status bytes).2.keys = s.keys ∧
      (smcReadKeyReply s e status bytes).2.keyData = s.keyData ∧
      (smcReadKeyReply s e status bytes).2.keyCount = s.keyCount := by
  unfold smcReadKeyReply
  split_ifs <;> exact ⟨rfl, rfl, rfl⟩

/-- Source: `hw/misc/apple-silicon/smc.c` `apple_smc_handle_key_endpoint`. Kind: L -/
theorem smcReadKeyReply_wellFormed (hs : s.WellFormed) (e : SMCKeyEntry) (status : UInt8)
    (bytes : List UInt8) : (smcReadKeyReply s e status bytes).2.WellFormed := by
  obtain ⟨h₁, h₂, h₃⟩ := smcReadKeyReply_store s e status bytes
  exact hs.of_shape h₁ h₃ (by rw [h₂])

/-- The key count copied over a buffer of at least four bytes keeps its length.
Source: `hw/misc/apple-silicon/smc.c` `smc_key_count_read`
Kind: L -/
theorem smcKeyCountRead_length (keyCount : UInt32) {data : List UInt8} (h : 4 ≤ data.length) :
    (smcKeyCountRead keyCount data).2.length = data.length := by
  simp only [smcKeyCountRead, memcpyPrefix, List.length_append, leBytes_length, List.length_drop]
  omega

/-- A read, from a well-formed store, does not fail and keeps it well formed.
Source: `hw/misc/apple-silicon/smc.c` `apple_smc_handle_key_endpoint`
Kind: L -/
theorem smcHandleReadKey_wellFormed (hs : s.WellFormed) (kmsg : KeyMessage) :
    ∃ r, smcHandleReadKey s kmsg = some r ∧ r.2.WellFormed := by
  cases he : appleSmcGetKeyEntry s kmsg.key with
  | none =>
    simp only [smcHandleReadKey, he, Option.some.injEq, exists_eq_left']
    exact hs
  | some e =>
    obtain ⟨d, hd, hshape⟩ := hs.getKeyData he
    by_cases hread : e.info.attr.toUInt32 &&& SMC_ATTR_READABLE ≠ 0
    · simp only [smcHandleReadKey, he, if_pos hread, hd, Option.map_some, Option.some.injEq,
        exists_eq_left']
      cases hr : e.read with
      | none => exact smcReadKeyReply_wellFormed hs e _ _
      | some r =>
        cases r
        -- the key count read rewrites the buffer in place, at its length
        have hmem : e ∈ s.keys := List.mem_of_find?_eq_some he
        have hlen : (smcKeyCountRead s.keyCount d.data).2.length = d.data.length :=
          smcKeyCountRead_length _ (by rw [SMCKeyData.length_of_shape hshape]; exact hs.countRead e hmem hr)
        have hs' : AppleSMC.WellFormed
            { s with keyData := modifyKeyData kmsg.key (fun _ => (smcKeyCountRead s.keyCount d.data).2) s.keyData } :=
          hs.of_shape rfl rfl (modifyKeyData_shape fun d' hd' => by
            have hdd : d' = d := Option.some.inj (hd'.symm.trans hd)
            rw [hdd, hlen])
        exact smcReadKeyReply_wellFormed hs' e _ _
    · simp only [smcHandleReadKey, he, if_neg hread, Option.some.injEq, exists_eq_left']
      exact hs

/-- `apple_smc_set_key` of `size` bytes from a well-formed store does not fail and keeps it well
formed.
Source: `hw/misc/apple-silicon/smc.c` `apple_smc_set_key`
Kind: L -/
theorem appleSmcSetKey_wellFormed (hs : s.WellFormed) (size : UInt32) {data : List UInt8}
    (hdata : data.length = size.toNat) : ∃ r, appleSmcSetKey s k size data = some r ∧ r.2.WellFormed := by
  cases he : appleSmcGetKeyEntry s k with
  | none =>
    simp only [appleSmcSetKey, he, Option.some.injEq, exists_eq_left']
    exact hs
  | some e =>
    by_cases hsize : e.info.size.toUInt32 ≠ size
    · simp only [appleSmcSetKey, he, if_pos hsize, Option.some.injEq, exists_eq_left']
      exact hs
    · obtain ⟨d, hd, hshape⟩ := hs.getKeyData he
      simp only [appleSmcSetKey, he, if_neg hsize, hd, Option.some.injEq, exists_eq_left']
      -- the bytes copied are as many as the buffer holds
      have hlen : data.length = d.data.length := by
        rw [hdata, SMCKeyData.length_of_shape hshape, ← not_not.mp hsize]
        rfl
      exact hs.of_shape rfl rfl (modifyKeyData_shape fun d' hd' => by
        have hdd : d' = d := Option.some.inj (hd'.symm.trans hd)
        rw [hdd, memcpyPrefix, List.length_append, List.length_drop, hlen]
        omega)

/-- A write, from a well-formed store, does not fail and keeps it well formed.
Source: `hw/misc/apple-silicon/smc.c` `apple_smc_handle_key_endpoint`
Kind: L -/
theorem smcHandleWriteKey_wellFormed (hs : s.WellFormed) (kmsg : KeyMessage) :
    ∃ r, smcHandleWriteKey s kmsg = some r ∧ r.2.1.WellFormed := by
  cases he : appleSmcGetKeyEntry s kmsg.key with
  | none =>
    simp only [smcHandleWriteKey, he, Option.some.injEq, exists_eq_left']
    exact hs
  | some e =>
    obtain ⟨d, hd, -⟩ := hs.getKeyData he
    by_cases hwrite : e.info.attr.toUInt32 &&& SMC_ATTR_WRITEABLE ≠ 0
    · cases hw : e.write with
      | some w =>
        simp only [smcHandleWriteKey, he, if_pos hwrite, hd, hw, Option.some.injEq, exists_eq_left']
        exact hs
      | none =>
        have hdata : (s.sram.read 0 kmsg.length.toNat).length = kmsg.length.toUInt32.toNat := by simp
        obtain ⟨r, hr, hwf⟩ := appleSmcSetKey_wellFormed hs (k := kmsg.key) kmsg.length.toUInt32 hdata
        simp only [smcHandleWriteKey, he, if_pos hwrite, hd, hw, hr, Option.map_some, Option.some.injEq,
          exists_eq_left']
        exact hwf
    · simp only [smcHandleWriteKey, he, if_neg hwrite, Option.some.injEq, exists_eq_left']
      exact hs

/-- Source: `hw/misc/apple-silicon/smc.c` `apple_smc_handle_key_endpoint`. Kind: L -/
theorem smcHandleGetKeyInfo_wellFormed (hs : s.WellFormed) (kmsg : KeyMessage) :
    (smcHandleGetKeyInfo s kmsg).2.WellFormed := by
  unfold smcHandleGetKeyInfo
  split
  · exact hs
  · exact hs.of_shape rfl rfl rfl

/-- The store `apple_smc_create` starts from: `QTAILQ_INIT` of both lists, `key_count` zero
(`qdev_new` zeroes the state), the SRAM as `qemu_memalign` leaves it.
Source: `hw/misc/apple-silicon/smc.c` `apple_smc_create`
Kind: D -/
def AppleSMC.empty (sram : Mem) (sramSize : ℕ) (sramAddr : UInt64) : AppleSMC :=
  ⟨[], [], 0, sram, sramSize, sramAddr, false⟩

/-- Source: `hw/misc/apple-silicon/smc.c` `apple_smc_create`. Kind: L -/
theorem AppleSMC.empty_wellFormed (sram : Mem) (sramSize : ℕ) (sramAddr : UInt64) :
    (AppleSMC.empty sram sramSize sramAddr).WellFormed :=
  ⟨rfl, List.nodup_nil, rfl, fun _ he => absurd he List.not_mem_nil⟩

/-- A size below 256 survives the truncation into `info.size`. -/
theorem toUInt8_toUInt32_of_lt {size : UInt32} (h : size.toNat < 256) : size.toUInt8.toUInt32 = size := by
  apply UInt32.toNat_inj.mp
  simp only [UInt8.toNat_toUInt32, UInt32.toNat_toUInt8]
  omega

/-- **Creating a fresh key keeps the store well formed.** The name must be new (the assertion),
the size below 256 (it is truncated into `info.size`), the count must not wrap, and the initial
bytes, if given, must cover the size.
Source: `hw/misc/apple-silicon/smc.c` `apple_smc_create_key`
Kind: L -/
theorem appleSmcCreateKey_wellFormed (hs : s.WellFormed) {key size type attr : UInt32}
    {data : Option (List UInt8)} (hfresh : appleSmcGetKeyEntry s key = none) (hsize : size.toNat < 256)
    (hcount : s.keys.length + 1 < 2 ^ 32) (hdata : ∀ bs, data = some bs → size.toNat ≤ bs.length) :
    ∃ s', appleSmcCreateKey s key size type attr data = some s' ∧ s'.WellFormed := by
  simp only [appleSmcCreateKey, hfresh, Option.isSome_none, Bool.false_eq_true, if_false,
    Option.some.injEq, exists_eq_left']
  have hnew : key ∉ s.keys.map (·.key) := by
    intro hmem
    obtain ⟨e, he, hek⟩ := List.mem_map.mp hmem
    exact List.find?_eq_none.mp hfresh e he (by simp [hek])
  -- the new buffer has the new key's shape
  have hlen : (match data with
      | none => List.replicate size.toNat 0
      | some bs => bs.take size.toNat).length = size.toNat := by
    cases data with
    | none => simp
    | some bs => simp [hdata bs rfl]
  constructor
  · simp only [List.map_append, hs.shape, List.map_cons, List.map_nil, SMCKeyData.shape,
      SMCKeyEntry.bufferShape, hlen, toUInt8_toUInt32_of_lt hsize, UInt32.toNat_toUInt8,
      Nat.mod_eq_of_lt hsize]
  · rw [List.map_append, List.nodup_append]
    exact ⟨hs.nodup, List.nodup_singleton _, fun a ha b hb => by
      rw [List.mem_singleton.mp hb]
      rintro rfl
      exact hnew ha⟩
  · rw [UInt32.toNat_add, hs.count, List.length_append, List.length_singleton]
    simp only [UInt32.reduceToNat]
    omega
  · intro e he hread
    rcases List.mem_append.mp he with he | he
    · exact hs.countRead e he hread
    · rw [List.mem_singleton.mp he] at hread
      cases hread

/-- Creating a key with functions keeps the store well formed; a key given the count reader must
hold the four bytes it copies.
Source: `hw/misc/apple-silicon/smc.c` `apple_smc_create_key_func`
Kind: L -/
theorem appleSmcCreateKeyFunc_wellFormed (hs : s.WellFormed) {key size type attr : UInt32}
    {reader : Option KeyReader} {writer : Option KeyWriter} (hfresh : appleSmcGetKeyEntry s key = none)
    (hsize : size.toNat < 256) (hcount : s.keys.length + 1 < 2 ^ 32)
    (hreader : reader = some .keyCountRead → 4 ≤ size.toNat) :
    ∃ s', appleSmcCreateKeyFunc s key size type attr reader writer = some s' ∧ s'.WellFormed := by
  -- the attribute plays no part in the shape
  suffices h : ∀ a, ∃ s', (appleSmcCreateKey s key size type a none).map
      (fun s : AppleSMC => { s with keys := s.keys.map fun e : SMCKeyEntry =>
        if e.key = key then { e with read := reader, write := writer } else e }) = some s' ∧ s'.WellFormed from
    h _
  intro a
  obtain ⟨s₁, h₁, hs₁⟩ :=
    @appleSmcCreateKey_wellFormed s hs key size type a none hfresh hsize hcount (fun _ h => nomatch h)
  have hkeys : s₁.keys = s.keys ++ [⟨key, ⟨size.toUInt8, cpuToBe32 type, a.toUInt8⟩, none, none⟩] := by
    simp only [appleSmcCreateKey, hfresh, Option.isSome_none, Bool.false_eq_true, if_false,
      Option.some.injEq] at h₁
    rw [← h₁]
  rw [h₁, Option.map_some]
  refine ⟨_, rfl, hs₁.mapKeys _ (fun e => by split_ifs <;> rfl) (fun e => by split_ifs <;> rfl) ?_⟩
  intro e he hr
  by_cases hk : e.key = key
  · -- the one entry of that name is the new one
    rw [if_pos hk] at hr
    rw [hkeys, List.mem_append, List.mem_singleton] at he
    rcases he with he | rfl
    · exact absurd (List.find?_eq_none.mp hfresh e he) (by simp [hk])
    · simp only [UInt32.toNat_toUInt8, Nat.mod_eq_of_lt hsize]
      exact hreader hr
  · rw [if_neg hk] at hr
    exact hs₁.countRead e he hr

/-- A call `apple_smc_create` makes: `apple_smc_create_key` with the bytes it copies, or
`apple_smc_create_key_func` with the functions it installs.
Source: `hw/misc/apple-silicon/smc.c` `apple_smc_create`
Kind: D -/
inductive SMCCreateCall where
  | key (key size type attr : UInt32) (data : Option (List UInt8))
  | func (key size type attr : UInt32) (reader : Option KeyReader) (writer : Option KeyWriter)

namespace SMCCreateCall

/-- The call on the store, `none` where its assertion fails.
Source: `hw/misc/apple-silicon/smc.c` `apple_smc_create_key`, `apple_smc_create_key_func`
Kind: D -/
def run (s : AppleSMC) : SMCCreateCall → Option AppleSMC
  | .key k n t a d => appleSmcCreateKey s k n t a d
  | .func k n t a r w => appleSmcCreateKeyFunc s k n t a r w

/-- The key a call makes. -/
def name : SMCCreateCall → UInt32
  | .key k .. | .func k .. => k

/-- What a call needs besides a new name: a size below 256, initial bytes that cover it, and
four bytes under the count reader. -/
def Fits : SMCCreateCall → Prop
  | .key _ n _ _ d => n.toNat < 256 ∧ ∀ bs ∈ d, n.toNat ≤ bs.length
  | .func _ n _ _ r _ => n.toNat < 256 ∧ (r = some .keyCountRead → 4 ≤ n.toNat)

instance : DecidablePred Fits := fun c => by
  cases c <;> unfold Fits <;> infer_instance

theorem run_keys {s s' : AppleSMC} {c : SMCCreateCall} (h : c.run s = some s') :
    s'.keys.map (·.key) = s.keys.map (·.key) ++ [c.name] := by
  have hkey : ∀ {s₁ : AppleSMC} k n t a d, appleSmcCreateKey s k n t a d = some s₁ →
      s₁.keys.map (·.key) = s.keys.map (·.key) ++ [k] := by
    intro s₁ k n t a d h
    unfold appleSmcCreateKey at h
    split_ifs at h
    cases h
    simp
  cases c with
  | key k n t a d => exact hkey k n t a d h
  | func k n t a r w =>
    -- installing the functions keeps every entry's name
    obtain ⟨s₁, h₁, rfl⟩ := Option.map_eq_some_iff.mp h
    rw [List.map_map]
    refine (List.map_congr_left fun e _ => ?_).trans (hkey k n t _ none h₁)
    dsimp only [Function.comp]
    split_ifs <;> rfl

theorem run_wellFormed {s : AppleSMC} (hs : s.WellFormed) {c : SMCCreateCall} (hc : c.Fits)
    (hfresh : c.name ∉ s.keys.map (·.key)) (hcount : s.keys.length + 1 < 2 ^ 32) :
    ∃ s', c.run s = some s' ∧ s'.WellFormed := by
  have hnone : appleSmcGetKeyEntry s c.name = none :=
    List.find?_eq_none.mpr fun e he hk => hfresh (List.mem_map.mpr ⟨e, he, by simpa using hk⟩)
  cases c with
  | key k n t a d => exact appleSmcCreateKey_wellFormed hs hnone hc.1 hcount fun bs h => hc.2 bs h
  | func k n t a r w => exact appleSmcCreateKeyFunc_wellFormed hs hnone hc.1 hcount hc.2

/-- **Calls of new, distinct names keep the store well formed.** Induction on the calls: each
one's name is new in the store the earlier ones leave. -/
theorem foldlM_run_wellFormed : ∀ (calls : List SMCCreateCall) {s : AppleSMC}, s.WellFormed →
    (∀ c ∈ calls, c.Fits) → (s.keys.map (·.key) ++ calls.map name).Nodup →
    s.keys.length + calls.length < 2 ^ 32 → ∃ s', calls.foldlM run s = some s' ∧ s'.WellFormed
  | [], s, hs, _, _, _ => ⟨s, rfl, hs⟩
  | c :: calls, s, hs, hfits, hnodup, hcount => by
    have hfresh : c.name ∉ s.keys.map (·.key) := fun h =>
      (List.nodup_append.mp hnodup).2.2 _ h _ List.mem_cons_self rfl
    obtain ⟨s₁, h₁, hs₁⟩ := run_wellFormed hs (hfits c List.mem_cons_self) hfresh
      (by rw [List.length_cons] at hcount; omega)
    have hkeys := run_keys h₁
    have hlen : s₁.keys.length = s.keys.length + 1 := by
      simpa using congrArg List.length hkeys
    obtain ⟨s', h', hs'⟩ := foldlM_run_wellFormed calls hs₁
      (fun c' hc' => hfits c' (List.mem_cons_of_mem _ hc'))
      (by rw [hkeys, List.append_assoc, List.singleton_append]; exact hnodup)
      (by rw [hlen]; rw [List.length_cons] at hcount; omega)
    exact ⟨s', by rw [List.foldlM_cons, h₁]; exact h', hs'⟩

end SMCCreateCall

/-- **One input keeps the store well formed, and from a well-formed store no input fails an
assertion.** By cases on the input and, for a key message, on its command.
Source: `hw/misc/apple-silicon/smc.c` `apple_smc_handle_key_endpoint`
Kind: L -/
theorem smcStep_wellFormed (hs : s.WellFormed) (x : SMCInput) :
    ∃ r, smcStep x s = some r ∧ r.1.WellFormed := by
  cases x with
  | keyMsg msg =>
    simp only [smcStep, appleSmcHandleKeyEndpoint]
    split_ifs
    · exact ⟨_, rfl, hs⟩
    · obtain ⟨r, hr, hwf⟩ := smcHandleReadKey_wellFormed hs (KeyMessage.ofRaw msg)
      refine ⟨_, by rw [hr, Option.map_some], ?_⟩
      exact hwf
    · obtain ⟨r, hr, hwf⟩ := smcHandleWriteKey_wellFormed hs (KeyMessage.ofRaw msg)
      refine ⟨_, by rw [hr, Option.map_some], ?_⟩
      exact hwf
    · exact ⟨_, rfl, hs⟩
    · exact ⟨_, rfl, smcHandleGetKeyInfo_wellFormed hs _⟩
    · exact ⟨_, rfl, hs⟩
  | sramWrite a bs => exact ⟨_, rfl, hs.of_shape rfl rfl rfl⟩
  | hidButton b st => exact ⟨_, rfl, hs⟩
  | bootDone => exact ⟨_, rfl, hs.of_shape rfl rfl rfl⟩
  | reset => exact ⟨_, rfl, hs.of_shape rfl rfl rfl⟩

end Store

/-- The store once `apple_smc_create` has made its first two keys: `'#KEY'`, four bytes read
through `smc_key_count_read`, and `'CLKH'`, eight readable and writable bytes.
Source: `hw/misc/apple-silicon/smc.c` `apple_smc_create`
Kind: D -/
def smcFirstKeys : AppleSMC :=
  ⟨[⟨0x234B4559, ⟨4, cpuToBe32 0x75693332, 0x94⟩, some .keyCountRead, none⟩,
    ⟨0x434C4B48, ⟨8, cpuToBe32 0x7B636C68, 0xC4⟩, none, none⟩],
   [⟨0x234B4559, 4, [0, 0, 0, 0]⟩, ⟨0x434C4B48, 8, [0x00, 0x00, 0x70, 0x80, 0x00, 0x01, 0x19, 0x40]⟩],
   2, fun _ => 0, 0x4000, 0, false⟩

/-- Source: `hw/misc/apple-silicon/smc.c` `apple_smc_create`. Kind: L -/
theorem smcFirstKeys_wellFormed : smcFirstKeys.WellFormed :=
  ⟨by decide, by decide, by decide, by decide⟩

/-- The keys `apple_smc_create` makes, in order. Names and types are the multi-character
constants as the compiler reads them (`'CLKH'` is `0x434C4B48`), and a pointer given for the
initial bytes is the variable's bytes in host order.
Source: `hw/misc/apple-silicon/smc.c` `apple_smc_create`
Kind: D -/
def appleSmcCreateCalls : List SMCCreateCall := [
  .func 0x234B4559 4 0x75693332 SMC_ATTR_LITTLE_ENDIAN (some .keyCountRead) none,
  .key 0x434C4B48 8 0x7B636C68 SMC_ATTR_DEFAULT_LE (some [0, 0, 0x70, 0x80, 0, 1, 0x19, 0x40]),
  .key 0x5247454E 1 0x75693820 SMC_ATTR_DEFAULT_LE (some [3, 0, 0x70, 0x80, 0, 1, 0x19, 0x40]),
  .key 0x61444323 4 0x75693332 SMC_ATTR_DEFAULT_LE none,
  .func 0x4D425345 4 0x6865785F SMC_ATTR_LITTLE_ENDIAN (none) (some .mbseWrite),
  .key 0x4C475042 1 0x666C6167 (SMC_ATTR_LITTLE_ENDIAN ||| SMC_ATTR_WRITEABLE) none,
  .key 0x4C475045 1 0x666C6167 (SMC_ATTR_LITTLE_ENDIAN ||| SMC_ATTR_WRITEABLE) none,
  .key 0x4E45534E 4 0x6865785F (SMC_ATTR_LITTLE_ENDIAN ||| SMC_ATTR_WRITEABLE) none,
  .key 0x41432D4E 1 0x75693820 SMC_ATTR_DEFAULT_LE (some [1]),
  .key 0x41432D57 1 0x73693820 (SMC_ATTR_DEFAULT_LE ||| SMC_ATTR_READABLE) (some [1]),
  .key 0x43484149 4 0x75693332 SMC_ATTR_DEFAULT_LE none,
  .key 0x54473042 8 0x696F6674 SMC_ATTR_DEFAULT_LE none,
  .key 0x54473056 8 0x696F6674 SMC_ATTR_DEFAULT_LE none,
  .key 0x54503141 8 0x696F6674 SMC_ATTR_DEFAULT_LE none,
  .key 0x54503243 8 0x696F6674 SMC_ATTR_DEFAULT_LE none,
  .key 0x54503164 8 0x696F6674 SMC_ATTR_DEFAULT_LE none,
  .key 0x54503264 8 0x696F6674 SMC_ATTR_DEFAULT_LE none,
  .key 0x54503364 8 0x696F6674 SMC_ATTR_DEFAULT_LE none,
  .key 0x54503464 8 0x696F6674 SMC_ATTR_DEFAULT_LE none,
  .key 0x54503564 8 0x696F6674 SMC_ATTR_DEFAULT_LE none,
  .key 0x54503352 8 0x696F6674 SMC_ATTR_DEFAULT_LE none,
  .key 0x54503448 8 0x696F6674 SMC_ATTR_DEFAULT_LE none,
  .key 0x5450305A 8 0x696F6674 SMC_ATTR_DEFAULT_LE none,
  .key 0x42304150 4 0x73693332 SMC_ATTR_DEFAULT_LE none,
  .key 0x54683061 8 0x666C7420 SMC_ATTR_DEFAULT_LE none,
  .key 0x54683161 8 0x666C7420 SMC_ATTR_DEFAULT_LE none,
  .key 0x54683261 8 0x666C7420 SMC_ATTR_DEFAULT_LE none,
  .key 0x54683066 8 0x666C7420 SMC_ATTR_DEFAULT_LE none,
  .key 0x54683166 8 0x666C7420 SMC_ATTR_DEFAULT_LE none,
  .key 0x54683266 8 0x666C7420 SMC_ATTR_DEFAULT_LE none,
  .key 0x54683078 8 0x666C7420 SMC_ATTR_DEFAULT_LE none,
  .key 0x54683178 8 0x666C7420 SMC_ATTR_DEFAULT_LE none,
  .key 0x54683278 8 0x666C7420 SMC_ATTR_DEFAULT_LE none,
  .key 0x54633061 8 0x666C7420 SMC_ATTR_DEFAULT_LE none,
  .key 0x54633161 8 0x666C7420 SMC_ATTR_DEFAULT_LE none,
  .key 0x54633261 8 0x666C7420 SMC_ATTR_DEFAULT_LE none,
  .key 0x54633066 8 0x666C7420 SMC_ATTR_DEFAULT_LE none,
  .key 0x54633166 8 0x666C7420 SMC_ATTR_DEFAULT_LE none,
  .key 0x54633266 8 0x666C7420 SMC_ATTR_DEFAULT_LE none,
  .key 0x54633078 8 0x666C7420 SMC_ATTR_DEFAULT_LE none,
  .key 0x54633178 8 0x666C7420 SMC_ATTR_DEFAULT_LE none,
  .key 0x54633278 8 0x666C7420 SMC_ATTR_DEFAULT_LE none,
  .key 0x44305652 2 0x75693136 SMC_ATTR_DEFAULT_LE none,
  .key 0x44315652 2 0x75693136 SMC_ATTR_DEFAULT_LE none,
  .key 0x44325652 2 0x75693136 SMC_ATTR_DEFAULT_LE none,
  .key 0x54563073 8 0x696F6674 SMC_ATTR_DEFAULT_LE none,
  .key 0x4248544C 1 0x666C6167 (SMC_ATTR_LITTLE_ENDIAN ||| SMC_ATTR_WRITEABLE ||| SMC_ATTR_READABLE) none,
  .key 0x42465330 1 0x75693820 (SMC_ATTR_LITTLE_ENDIAN ||| SMC_ATTR_READABLE) (some [0]),
  .key 0x42304354 2 0x75693136 SMC_ATTR_DEFAULT_LE (some [7, 0]),
  .key 0x42305446 2 0x75693136 SMC_ATTR_DEFAULT_LE (some [0xFF, 0xFF]),
  .key 0x4230434D 4 0x75693332 SMC_ATTR_DEFAULT_LE (some [0x69, 0x7A, 0, 0]),
  .key 0x42304643 4 0x75693332 SMC_ATTR_DEFAULT_LE (some [0xF6, 0x77, 0, 0]),
  .key 0x42305543 4 0x75693332 SMC_ATTR_DEFAULT_LE (some [0xC5, 0x52, 0, 0]),
  .key 0x4230524D 4 0x75693332 SMC_ATTR_DEFAULT_LE (some [0x31, 0x25, 0, 0]),
  .key 0x42304656 2 0x75693136 SMC_ATTR_DEFAULT_LE (some [1, 2]),
  .key 0x42444431 1 0x75693820 SMC_ATTR_DEFAULT_LE (some [0x19]),
  .key 0x55423043 1 0x75693820 SMC_ATTR_DEFAULT_LE (some [0]),
  .key 0x424E4342 1 0x75693820 SMC_ATTR_DEFAULT_LE (some [1]),
  .key 0x42433156 2 0x75693136 SMC_ATTR_DEFAULT_LE (some [0x68, 0x10]),
  .key 0x42433256 2 0x75693136 SMC_ATTR_DEFAULT_LE (some [0x68, 0x10]),
  .key 0x42433356 2 0x75693136 SMC_ATTR_DEFAULT_LE (some [0x68, 0x10]),
  .key 0x42433456 2 0x75693136 SMC_ATTR_DEFAULT_LE (some [0x68, 0x10]),
  .key 0x42304443 2 0x75693136 SMC_ATTR_DEFAULT_LE (some [0x13, 0xEF]),
  .key 0x4230424C 2 0x75693136 SMC_ATTR_DEFAULT_LE (some [0, 0]),
  .key 0x42304341 2 0x75693136 SMC_ATTR_DEFAULT_LE (some [0, 0]),
  .key 0x42304E43 2 0x75693136 SMC_ATTR_DEFAULT_LE (some [0, 0]),
  .key 0x42304956 2 0x73693136 SMC_ATTR_DEFAULT_LE (some [0, 0]),
  .key 0x42304143 2 0x73693136 SMC_ATTR_DEFAULT_LE (some [0, 0]),
  .key 0x42304156 2 0x75693136 SMC_ATTR_DEFAULT_LE (some [0x68, 0x10]),
  .key 0x43484E43 1 0x75693820 SMC_ATTR_DEFAULT_LE (some [1]),
  .key 0x43484153 4 0x75693332 SMC_ATTR_DEFAULT_LE (some [0, 0, 0, 0]),
  .key 0x43484131 4 0x75693332 SMC_ATTR_DEFAULT_LE (some [0, 0, 0, 0])
]

/-- The store `apple_smc_create` builds: its calls in order from the empty store.
Source: `hw/misc/apple-silicon/smc.c` `apple_smc_create`
Kind: D -/
def appleSmcCreate (sram : Mem) (sramSize : ℕ) (sramAddr : UInt64) : Option AppleSMC :=
  appleSmcCreateCalls.foldlM SMCCreateCall.run (AppleSMC.empty sram sramSize sramAddr)

/-- `apple_smc_create` passes every assertion of its calls and builds a well-formed store. -/
theorem appleSmcCreate_wellFormed (sram : Mem) (sramSize : ℕ) (sramAddr : UInt64) :
    ∃ s, appleSmcCreate sram sramSize sramAddr = some s ∧ s.WellFormed :=
  SMCCreateCall.foldlM_run_wellFormed _ (AppleSMC.empty_wellFormed _ _ _) (by decide)
    (by dsimp only [AppleSMC.empty]; decide +kernel) (by dsimp only [AppleSMC.empty]; decide)

/-- **The key endpoint never aborts.** From a well-formed store, any sequence of key messages,
guest stores into the SRAM, button events, boot and reset runs to the end without failing an
assertion (`g_assert_nonnull(data_entry)` or the dereference in `apple_smc_set_key`), and leaves
the store well formed.
Source: `hw/misc/apple-silicon/smc.c` `apple_smc_handle_key_endpoint`
Kind: P -/
theorem smc_endpoint_never_aborts (xs : List SMCInput) (s : AppleSMC) (hs : s.WellFormed) :
    ∃ r, tracedRun smcStep xs s = some r ∧ r.1.WellFormed :=
  tracedRun_exists AppleSMC.WellFormed (fun x _ _ ht => smcStep_wellFormed ht x) s hs

/-- A read of the key count, then a write of `'MBSE'` through its writer, on the store
`apple_smc_create` builds. -/
theorem smc_endpoint_never_aborts_created :
    ∃ s, appleSmcCreate (fun _ => 0) 0x4000 0 = some s ∧
      ∃ r, tracedRun smcStep [.keyMsg 0x234B455900000010, .keyMsg 0x4D42534500040011, .reset] s =
        some r ∧ r.1.WellFormed := by
  obtain ⟨s, hs, hwf⟩ := appleSmcCreate_wellFormed (fun _ => 0) 0x4000 0
  exact ⟨s, hs, smc_endpoint_never_aborts _ s hwf⟩

/-! ## Migration

`vmstate_apple_smc` sends `key_data` alone, and `get_qtailq` appends what arrives to the list
already there, with no `pre_load` to empty it: on the destination that list already holds one
buffer per key, queued by `apple_smc_create_key` when the machine was built. -/

/-- The state `vmstate_apple_smc_post_load` runs on when the buffers `loaded` arrive on the build
`s`: the build's keys, and its buffers followed by the loaded ones.
Source: `migration/vmstate-types.c` `get_qtailq`; `hw/misc/apple-silicon/smc.c` `vmstate_apple_smc`
Kind: D -/
def AppleSMC.loadedState (s : AppleSMC) (loaded : List SMCKeyData) : AppleSMCState :=
  ⟨s.keys.map SMCKeyEntry.toSMCKey, s.keyData ++ loaded⟩

/-- `apple_smc_get_key_data` looks through the build's buffers before the loaded ones.
Source: `hw/misc/apple-silicon/smc.c` `apple_smc_get_key_data`
Kind: L -/
theorem appleSmcGetKeyData_loadedState (s : AppleSMC) (loaded : List SMCKeyData) (k : UInt32) :
    appleSmcGetKeyData (s.loadedState loaded) k =
      (appleSmcGetKeyData s.toState k).or (loaded.find? (·.key == k)) :=
  List.find?_append

/-- In a well-formed store a key that exists has a buffer.
Source: `hw/misc/apple-silicon/smc.c` `apple_smc_get_key_data`
Kind: L -/
theorem AppleSMC.WellFormed.getKeyData_of_getKey {s : AppleSMC} {k : UInt32} (hs : s.WellFormed)
    {key : SMCKey} (h : appleSmcGetKey s.toState k = some key) :
    (appleSmcGetKeyData s.toState k).isSome := by
  rw [appleSmcGetKey, AppleSMC.toState, List.find?_map] at h
  obtain ⟨e, he, -⟩ := Option.map_eq_some_iff.mp h
  obtain ⟨d, hd, -⟩ := hs.getKeyData (k := k) he
  rw [hd]
  rfl

/-- When every loaded buffer is filed under a key of a well-formed build, every key finds the
build's own buffer: a key without one is no key of the build, so no loaded buffer is filed
under it. -/
theorem AppleSMC.WellFormed.getKeyData_loadedState {s : AppleSMC} (hs : s.WellFormed)
    {loaded : List SMCKeyData} (hloaded : ∀ d ∈ loaded, s.toState.KeyedData d) (key : UInt32) :
    appleSmcGetKeyData (s.loadedState loaded) key = appleSmcGetKeyData s.toState key := by
  rw [appleSmcGetKeyData_loadedState]
  cases h : appleSmcGetKeyData s.toState key with
  | some d => rfl
  | none =>
    rw [Option.none_or]
    refine List.find?_eq_none.mpr fun d hd hdk => ?_
    obtain ⟨k', hk', -⟩ := hloaded d hd
    have hsome := hs.getKeyData_of_getKey hk'
    rw [beq_iff_eq.mp hdk, h] at hsome
    cases hsome

/-- Over keys that all have a buffer, the second loop of the load creates nothing. The induction
is on the keys walked.
Source: `hw/misc/apple-silicon/smc.c` `vmstate_apple_smc_post_load`
Kind: L -/
theorem smcPostLoadKeys_of_found (t : AppleSMCState) :
    ∀ keys : List SMCKey, (∀ key ∈ keys, (appleSmcGetKeyData t key.key).isSome) → smcPostLoadKeys t keys = t
  | [], _ => rfl
  | key :: keys, h => by
    obtain ⟨d, hd⟩ := Option.isSome_iff_exists.mp (h key List.mem_cons_self)
    rw [smcPostLoadKeys, hd]
    exact smcPostLoadKeys_of_found t keys fun key' hk => h key' (List.mem_cons_of_mem key hk)

/-- **A migrated store keeps the destination's values.** Load into a well-formed build the
buffers a well-formed store with the same keys saved: both loops of
`vmstate_apple_smc_post_load` pass, it returns `0` and changes nothing, and
`apple_smc_get_key_data` then finds for every key the build's own buffer, never a loaded one.
Source: `hw/misc/apple-silicon/smc.c` `vmstate_apple_smc_post_load`, `apple_smc_create_key`;
`migration/vmstate-types.c` `get_qtailq`
Kind: P -/
theorem smc_post_load_wellFormed (s s₀ : AppleSMC) (hs : s.WellFormed) (hs₀ : s₀.WellFormed)
    (hkeys : s₀.keys = s.keys) :
    vmstateAppleSmcPostLoad (s.loadedState s₀.keyData) = some (0, s.loadedState s₀.keyData) ∧
      ∀ key, appleSmcGetKeyData (s.loadedState s₀.keyData) key = appleSmcGetKeyData s.toState key := by
  -- a loaded buffer finds its key in the build, which has the saving store's keys
  have hloaded : ∀ d ∈ s₀.keyData, s.toState.KeyedData d := by
    intro d hd
    have h := hs₀.keyedData hd
    rw [AppleSMC.toState, hkeys] at h
    exact h
  have hkeyed : ∀ d ∈ (s.loadedState s₀.keyData).keyData, (s.loadedState s₀.keyData).KeyedData d := by
    intro d hd
    rcases List.mem_append.mp hd with hd | hd
    · exact hs.keyedData hd
    · exact hloaded d hd
  have hfind := hs.getKeyData_loadedState hloaded
  have hkeys' : smcPostLoadKeys (s.loadedState s₀.keyData) (s.loadedState s₀.keyData).keys =
      s.loadedState s₀.keyData := by
    refine smcPostLoadKeys_of_found _ _ fun key hkey => ?_
    obtain ⟨e, he, rfl⟩ := List.mem_map.mp hkey
    obtain ⟨d, hd, -⟩ := hs.getKeyData (hs.getKeyEntry_of_mem he)
    rw [hfind, SMCKeyEntry.toSMCKey, hd]
    rfl
  refine ⟨?_, hfind⟩
  rw [vmstateAppleSmcPostLoad, smcPostLoadData_of_keyed _ _ hkeyed]
  dsimp only
  rw [hkeys']

/-- The first two keys as a source machine saved them after the guest wrote `'CLKH'`.
Source: none: fixture
Kind: D -/
def smcSavedKeys : AppleSMC :=
  { smcFirstKeys with
    keyData := [⟨0x234B4559, 4, [0, 0, 0, 2]⟩, ⟨0x434C4B48, 8, [1, 2, 3, 4, 5, 6, 7, 8]⟩] }

/-- Those buffers loaded into a fresh build: the load passes, and `'CLKH'` reads the build's
bytes, not the saved ones.
Source: `hw/misc/apple-silicon/smc.c` `vmstate_apple_smc_post_load`
Kind: L -/
theorem smc_post_load_wellFormed_first_keys :
    vmstateAppleSmcPostLoad (smcFirstKeys.loadedState smcSavedKeys.keyData) =
        some (0, smcFirstKeys.loadedState smcSavedKeys.keyData) ∧
      ∀ key, appleSmcGetKeyData (smcFirstKeys.loadedState smcSavedKeys.keyData) key =
        appleSmcGetKeyData smcFirstKeys.toState key :=
  smc_post_load_wellFormed smcFirstKeys smcSavedKeys smcFirstKeys_wellFormed
    ⟨by decide, by decide, by decide, by decide⟩ rfl

/-! ## Reading back what was written -/

/-- The bytes of `key`'s buffer, where `apple_smc_get_key_data` finds it.
Source: `hw/misc/apple-silicon/smc.c` `apple_smc_get_key_data`
Kind: D -/
def AppleSMC.value (s : AppleSMC) (key : UInt32) : Option (List UInt8) :=
  (appleSmcGetKeyData s.toState key).map (·.data)

/-- An input that writes `key`'s buffer for the guest: `SMC_WRITE_KEY` on `key`.
Source: `hw/misc/apple-silicon/smc.c` `apple_smc_handle_key_endpoint`
Kind: D -/
def SMCInput.WritesKey (key : UInt32) : SMCInput → Bool
  | .keyMsg msg => (KeyMessage.ofRaw msg).cmd == SMC_WRITE_KEY && (KeyMessage.ofRaw msg).key == key
  | _ => false

/-- A copy over the whole destination leaves only the source. -/
theorem memcpyPrefix_of_length_le {dst src : List UInt8} (h : dst.length ≤ src.length) :
    memcpyPrefix dst src = src := by
  rw [memcpyPrefix, List.drop_eq_nil_of_le h, List.append_nil]

/-- Four bytes of response padded from the front. -/
theorem memcpyPrefix_zeros (src : List UInt8) :
    memcpyPrefix [0, 0, 0, 0] src = src ++ List.replicate (4 - src.length) 0 := by
  rw [memcpyPrefix, show [(0 : UInt8), 0, 0, 0] = List.replicate 4 0 from rfl, List.drop_replicate]

section Value

variable {s : AppleSMC} {k : UInt32}

/-- Source: `hw/misc/apple-silicon/smc.c` `apple_smc_get_key_data`. Kind: L -/
theorem AppleSMC.value_eq : s.value k = (s.keyData.find? (·.key == k)).map (·.data) := rfl

/-- The entry of a key only reads the keys.
Source: `hw/misc/apple-silicon/smc.c` `apple_smc_get_key`
Kind: L -/
theorem appleSmcGetKeyEntry_congr {t : AppleSMC} (h : t.keys = s.keys) :
    appleSmcGetKeyEntry t k = appleSmcGetKeyEntry s k := by
  rw [appleSmcGetKeyEntry, appleSmcGetKeyEntry, h]

/-- Writing another key's buffer leaves `k`'s bytes alone.
Source: `hw/misc/apple-silicon/smc.c` `apple_smc_get_key_data`
Kind: L -/
theorem AppleSMC.value_modifyKeyData_of_ne {k' : UInt32} (f : List UInt8 → List UInt8) (hne : k ≠ k') :
    ({ s with keyData := modifyKeyData k' f s.keyData } : AppleSMC).value k = s.value k := by
  rw [AppleSMC.value_eq, AppleSMC.value_eq, find?_modifyKeyData_of_ne f hne]

/-- A read touches the keys nowhere, and the buffer of `k` only through a reader of `k`.
Source: `hw/misc/apple-silicon/smc.c` `apple_smc_handle_key_endpoint`
Kind: L -/
theorem smcHandleReadKey_frame {kmsg : KeyMessage} {r : KeyResponse × AppleSMC}
    (hplain : ∀ e, appleSmcGetKeyEntry s k = some e → e.read = none)
    (h : smcHandleReadKey s kmsg = some r) : r.2.keys = s.keys ∧ r.2.value k = s.value k := by
  cases he : appleSmcGetKeyEntry s kmsg.key with
  | none =>
    simp only [smcHandleReadKey, he, Option.some.injEq] at h
    subst h
    exact ⟨rfl, rfl⟩
  | some e =>
    by_cases hread : e.info.attr.toUInt32 &&& SMC_ATTR_READABLE ≠ 0
    · simp only [smcHandleReadKey, he, if_pos hread] at h
      obtain ⟨d, -, rfl⟩ := Option.map_eq_some_iff.mp h
      cases hr : e.read with
      | none =>
        obtain ⟨h₁, h₂, -⟩ := smcReadKeyReply_store s e kSMCSuccess d.data
        exact ⟨h₁, by rw [AppleSMC.value_eq, AppleSMC.value_eq, h₂]⟩
      | some rd =>
        -- a reader runs on the message's key, which cannot be `k`
        have hne : k ≠ kmsg.key := by
          rintro rfl
          rw [hplain e he] at hr
          cases hr
        obtain ⟨h₁, h₂, -⟩ := smcReadKeyReply_store
          { s with keyData := modifyKeyData kmsg.key (fun _ => (rd.call s.keyCount d.data).2) s.keyData } e
          (rd.call s.keyCount d.data).1 (rd.call s.keyCount d.data).2
        refine ⟨h₁, ?_⟩
        rw [AppleSMC.value_eq, h₂, ← AppleSMC.value_eq, AppleSMC.value_modifyKeyData_of_ne _ hne]
    · simp only [smcHandleReadKey, he, if_neg hread, Option.some.injEq] at h
      subst h
      exact ⟨rfl, rfl⟩

/-- `apple_smc_set_key` rewrites the buffer of its key or nothing.
Source: `hw/misc/apple-silicon/smc.c` `apple_smc_set_key`
Kind: L -/
theorem appleSmcSetKey_store {size : UInt32} {data : List UInt8} {r : UInt8 × AppleSMC}
    (h : appleSmcSetKey s k size data = some r) :
    r.2 = s ∨ r.2 = { s with keyData := modifyKeyData k (memcpyPrefix · data) s.keyData } := by
  unfold appleSmcSetKey at h
  split at h
  · exact Or.inl (Option.some.inj h ▸ rfl)
  · split_ifs at h
    · exact Or.inl (Option.some.inj h ▸ rfl)
    · split at h
      · cases h
      · exact Or.inr (Option.some.inj h ▸ rfl)

/-- A write touches the keys nowhere, and no buffer but that of the message's key.
Source: `hw/misc/apple-silicon/smc.c` `apple_smc_handle_key_endpoint`
Kind: L -/
theorem smcHandleWriteKey_frame {kmsg : KeyMessage} {r : KeyResponse × AppleSMC × List SMCEvent}
    (hne : k ≠ kmsg.key) (h : smcHandleWriteKey s kmsg = some r) :
    r.2.1.keys = s.keys ∧ r.2.1.value k = s.value k := by
  unfold smcHandleWriteKey at h
  split at h
  · exact Option.some.inj h ▸ ⟨rfl, rfl⟩
  · split_ifs at h
    · split at h
      · cases h
      · split at h
        · exact Option.some.inj h ▸ ⟨rfl, rfl⟩
        · obtain ⟨r', hr', rfl⟩ := Option.map_eq_some_iff.mp h
          rcases appleSmcSetKey_store hr' with hs' | hs'
          · exact hs' ▸ ⟨rfl, rfl⟩
          · rw [hs']
            exact ⟨rfl, AppleSMC.value_modifyKeyData_of_ne _ hne⟩
    · exact Option.some.inj h ▸ ⟨rfl, rfl⟩

/-- **Frame of one input.** An input other than a write of `k` keeps the keys and, when `k` has
no reader, `k`'s bytes.
Source: `hw/misc/apple-silicon/smc.c` `apple_smc_handle_key_endpoint`
Kind: L -/
theorem smcStep_value_frame {x : SMCInput} {r : AppleSMC × List SMCEvent}
    (hplain : ∀ e, appleSmcGetKeyEntry s k = some e → e.read = none) (hx : x.WritesKey k = false)
    (h : smcStep x s = some r) : r.1.keys = s.keys ∧ r.1.value k = s.value k := by
  cases x with
  | keyMsg msg =>
    simp only [smcStep, appleSmcHandleKeyEndpoint] at h
    split_ifs at h with h₁ h₂ h₃
    · exact Option.some.inj h ▸ ⟨rfl, rfl⟩
    · obtain ⟨r', hr', rfl⟩ := Option.map_eq_some_iff.mp h
      exact smcHandleReadKey_frame hplain hr'
    · -- a write of another key
      have hne : k ≠ (KeyMessage.ofRaw msg).key := by
        rintro rfl
        simp [SMCInput.WritesKey, h₃] at hx
      obtain ⟨r', hr', rfl⟩ := Option.map_eq_some_iff.mp h
      exact smcHandleWriteKey_frame hne hr'
    · exact Option.some.inj h ▸ ⟨rfl, rfl⟩
    · rw [← Option.some.inj h]
      unfold smcHandleGetKeyInfo
      split <;> exact ⟨rfl, rfl⟩
    · exact Option.some.inj h ▸ ⟨rfl, rfl⟩
  | sramWrite a bs => exact Option.some.inj h ▸ ⟨rfl, rfl⟩
  | hidButton b st => exact Option.some.inj h ▸ ⟨rfl, rfl⟩
  | bootDone => exact Option.some.inj h ▸ ⟨rfl, rfl⟩
  | reset => exact Option.some.inj h ▸ ⟨rfl, rfl⟩


/-- **Frame of a run.** From a well-formed store, inputs none of which writes `k` run without
failing and keep the keys and, when `k` has no reader, `k`'s bytes.
Source: `hw/misc/apple-silicon/smc.c` `apple_smc_handle_key_endpoint`
Kind: L -/
theorem smcRun_value_frame {xs : List SMCInput} {e : SMCKeyEntry} (hs : s.WellFormed)
    (he : appleSmcGetKeyEntry s k = some e) (hread : e.read = none) (hxs : ∀ x ∈ xs, x.WritesKey k = false) :
    ∃ r, tracedRun smcStep xs s = some r ∧ r.1.WellFormed ∧ r.1.keys = s.keys ∧ r.1.value k = s.value k := by
  refine tracedRun_exists (fun t => t.WellFormed ∧ t.keys = s.keys ∧ t.value k = s.value k) ?_ s ⟨hs, rfl, rfl⟩
  rintro x hx t ⟨ht, hkeys, hval⟩
  obtain ⟨r, hr, hwf⟩ := smcStep_wellFormed ht x
  -- the keys did not move, so `k` still has no reader
  have hplain : ∀ e', appleSmcGetKeyEntry t k = some e' → e'.read = none := by
    intro e' he'
    rw [appleSmcGetKeyEntry_congr hkeys, he, Option.some.injEq] at he'
    exact he' ▸ hread
  obtain ⟨hk, hv⟩ := smcStep_value_frame hplain (hxs x hx) hr
  exact ⟨r, hr, hwf, hk.trans hkeys, hv.trans hval⟩

/-- A write of a writable key without a writer, at the key's size, copies the key's bytes from
the start of the SRAM.
Source: `hw/misc/apple-silicon/smc.c` `apple_smc_handle_key_endpoint`
Kind: L -/
theorem smcHandleWriteKey_value (hs : s.WellFormed) {kmsg : KeyMessage} {e : SMCKeyEntry}
    (he : appleSmcGetKeyEntry s kmsg.key = some e) (hw : e.info.attr.toUInt32 &&& SMC_ATTR_WRITEABLE ≠ 0)
    (hwrite : e.write = none) (hlen : kmsg.length = e.info.size) :
    ∃ r, smcHandleWriteKey s kmsg = some r ∧ r.2.1.WellFormed ∧ r.2.1.keys = s.keys ∧
      r.2.1.value kmsg.key = some (s.sram.read 0 e.info.size.toNat) := by
  obtain ⟨d, hd, hshape⟩ := hs.getKeyData he
  obtain ⟨r, hr, hwf⟩ := smcHandleWriteKey_wellFormed hs kmsg
  refine ⟨r, hr, hwf, ?_⟩
  -- the sizes agree and the buffer is there, so `apple_smc_set_key` copies
  have hset : appleSmcSetKey s kmsg.key kmsg.length.toUInt32 (s.sram.read 0 kmsg.length.toNat) =
      some (kSMCSuccess,
        { s with keyData := modifyKeyData kmsg.key (memcpyPrefix · (s.sram.read 0 kmsg.length.toNat)) s.keyData }) := by
    simp only [appleSmcSetKey, he, hlen, ne_eq, not_true_eq_false, if_false, hd]
  simp only [smcHandleWriteKey, he, if_pos hw, hd, hwrite, hset, Option.map_some, Option.some.injEq] at hr
  subst hr
  refine ⟨rfl, ?_⟩
  have hd' : s.keyData.find? (·.key == kmsg.key) = some d := hd
  have hfit : d.data.length ≤ (s.sram.read 0 kmsg.length.toNat).length := by
    rw [Mem.read_length, hlen, SMCKeyData.length_of_shape hshape]
  rw [AppleSMC.value_eq, find?_modifyKeyData_self, hd', Option.map_some, Option.map_some,
    memcpyPrefix_of_length_le hfit, hlen]

/-- A read of a readable key without a reader answers from the key's bytes.
Source: `hw/misc/apple-silicon/smc.c` `apple_smc_handle_key_endpoint`
Kind: L -/
theorem smcHandleReadKey_plain {kmsg : KeyMessage} {e : SMCKeyEntry}
    (he : appleSmcGetKeyEntry s kmsg.key = some e) (hr : e.info.attr.toUInt32 &&& SMC_ATTR_READABLE ≠ 0)
    (hread : e.read = none) {bs : List UInt8} (hv : s.value kmsg.key = some bs) :
    smcHandleReadKey s kmsg = some (smcReadKeyReply s e kSMCSuccess bs) := by
  obtain ⟨d, hd, rfl⟩ := Option.map_eq_some_iff.mp hv
  simp only [smcHandleReadKey, he, if_pos hr, hd, Option.map_some, hread]


/-- What a successful read answers: the bytes in the response, padded with zeros, when there are
at most four; else at the start of the SRAM.
Source: `hw/misc/apple-silicon/smc.c` `apple_smc_handle_key_endpoint`
Kind: L -/
theorem smcReadKeyReply_success {e : SMCKeyEntry} {bs : List UInt8} (hlen : bs.length = e.info.size.toNat) :
    (smcReadKeyReply s e kSMCSuccess bs).1 =
        { KeyResponse.zero with
            length := e.info.size
            response := if e.info.size ≤ 4 then bs ++ List.replicate (4 - bs.length) 0 else [0, 0, 0, 0] } ∧
      (4 < e.info.size → (smcReadKeyReply s e kSMCSuccess bs).2.sram.read 0 e.info.size.toNat = bs) := by
  have htake : bs.take e.info.size.toNat = bs := by rw [← hlen, List.take_length]
  by_cases hsz : e.info.size ≤ 4
  · simp only [smcReadKeyReply, reduceIte, if_pos hsz, htake, memcpyPrefix_zeros]
    exact ⟨trivial, fun h => absurd hsz (UInt8.not_le.mpr h)⟩
  · simp only [smcReadKeyReply, reduceIte, if_neg hsz, htake]
    refine ⟨rfl, fun _ => ?_⟩
    rw [← hlen, Mem.read_write_self]

/-- A write message of a writable key without a writer, at the key's size, as one input.
Source: `hw/misc/apple-silicon/smc.c` `apple_smc_handle_key_endpoint`
Kind: L -/
theorem smcStep_write_plain (hs : s.WellFormed) {msg : UInt64} {e : SMCKeyEntry}
    (he : appleSmcGetKeyEntry s k = some e) (hwrite : e.write = none)
    (hw : e.info.attr.toUInt32 &&& SMC_ATTR_WRITEABLE ≠ 0)
    (hmsg : (KeyMessage.ofRaw msg).cmd = SMC_WRITE_KEY ∧ (KeyMessage.ofRaw msg).key = k ∧
      (KeyMessage.ofRaw msg).length = e.info.size) :
    ∃ r, smcStep (.keyMsg msg) s = some r ∧ r.1.WellFormed ∧ r.1.keys = s.keys ∧
      r.1.value k = some (s.sram.read 0 e.info.size.toNat) := by
  obtain ⟨hcmd, hkey, hlen⟩ := hmsg
  subst hkey
  obtain ⟨r, hr, hwf, hk, hv⟩ := smcHandleWriteKey_value hs he hw hwrite hlen
  -- `SMC_WRITE_KEY` is none of the commands the endpoint tests before it
  have h₁ : SMC_WRITE_KEY ≠ SMC_GET_SRAM_ADDR := by decide
  have h₂ : ¬ (SMC_WRITE_KEY = SMC_READ_KEY ∨ SMC_WRITE_KEY = SMC_READ_KEY_PAYLOAD) := by decide
  have hstep : smcStep (.keyMsg msg) s = some (r.2.1, r.2.2 ++
      [.send kSMCKeyEndpoint { r.1 with tagAndId := (KeyMessage.ofRaw msg).tagAndId }.raw]) := by
    simp only [smcStep, appleSmcHandleKeyEndpoint, hcmd, if_neg h₁, if_neg h₂, reduceIte, hr, Option.map_some]
  exact ⟨_, hstep, hwf, hk, hv⟩

/-- A read message of a readable key without a reader, as one input.
Source: `hw/misc/apple-silicon/smc.c` `apple_smc_handle_key_endpoint`
Kind: L -/
theorem smcStep_read_plain {msg : UInt64} {e : SMCKeyEntry} {bs : List UInt8}
    (he : appleSmcGetKeyEntry s k = some e) (hread : e.read = none)
    (hr : e.info.attr.toUInt32 &&& SMC_ATTR_READABLE ≠ 0) (hv : s.value k = some bs)
    (hmsg : ((KeyMessage.ofRaw msg).cmd = SMC_READ_KEY ∨ (KeyMessage.ofRaw msg).cmd = SMC_READ_KEY_PAYLOAD) ∧
      (KeyMessage.ofRaw msg).key = k) :
    smcStep (.keyMsg msg) s = some ((smcReadKeyReply s e kSMCSuccess bs).2,
      [.send kSMCKeyEndpoint { (smcReadKeyReply s e kSMCSuccess bs).1 with
        tagAndId := (KeyMessage.ofRaw msg).tagAndId }.raw]) := by
  obtain ⟨hcmd, hkey⟩ := hmsg
  subst hkey
  have hsram : (KeyMessage.ofRaw msg).cmd ≠ SMC_GET_SRAM_ADDR := by
    rcases hcmd with h | h <;> rw [h] <;> decide
  simp only [smcStep, appleSmcHandleKeyEndpoint, if_neg hsram, if_pos hcmd,
    smcHandleReadKey_plain he hr hread hv, Option.map_some]

end Value

/-- **A read returns what was written.** Let `k` be a readable and writable key of a well-formed
store, with neither a reader nor a writer. A write of `k` at its size copies `k`'s bytes from the
start of the SRAM; after any inputs that do not write `k` again (messages on other keys, reads of
`k`, stores into the SRAM, buttons, boot, resets), a read of `k` answers with those bytes: in the
response, padded with zeros, when there are at most four, else at the start of the SRAM.
Source: `hw/misc/apple-silicon/smc.c` `apple_smc_handle_key_endpoint`
Kind: P -/
theorem smc_read_returns_written (s : AppleSMC) (hs : s.WellFormed) (k : UInt32) (e : SMCKeyEntry)
    (he : appleSmcGetKeyEntry s k = some e) (hplain : e.read = none ∧ e.write = none)
    (hattr : e.info.attr.toUInt32 &&& SMC_ATTR_READABLE ≠ 0 ∧ e.info.attr.toUInt32 &&& SMC_ATTR_WRITEABLE ≠ 0)
    (wmsg rmsg : UInt64)
    (hw : (KeyMessage.ofRaw wmsg).cmd = SMC_WRITE_KEY ∧ (KeyMessage.ofRaw wmsg).key = k ∧
      (KeyMessage.ofRaw wmsg).length = e.info.size)
    (hr : ((KeyMessage.ofRaw rmsg).cmd = SMC_READ_KEY ∨ (KeyMessage.ofRaw rmsg).cmd = SMC_READ_KEY_PAYLOAD) ∧
      (KeyMessage.ofRaw rmsg).key = k)
    (xs : List SMCInput) (hxs : ∀ x ∈ xs, x.WritesKey k = false) :
    ∃ t evs, tracedRun smcStep ((.keyMsg wmsg :: xs) ++ [.keyMsg rmsg]) s =
        some (t, evs ++ [.send kSMCKeyEndpoint
          { KeyResponse.zero with
              tagAndId := (KeyMessage.ofRaw rmsg).tagAndId
              length := e.info.size
              response := if e.info.size ≤ 4 then
                  s.sram.read 0 e.info.size.toNat ++ List.replicate (4 - e.info.size.toNat) 0
                else [0, 0, 0, 0] }.raw]) ∧
      (4 < e.info.size → t.sram.read 0 e.info.size.toNat = s.sram.read 0 e.info.size.toNat) := by
  -- the write copies the bytes from the SRAM
  obtain ⟨r₁, h₁, hwf₁, hk₁, hv₁⟩ := smcStep_write_plain hs he hplain.2 hattr.2 hw
  -- the inputs after it keep them
  have he₁ : appleSmcGetKeyEntry r₁.1 k = some e := (appleSmcGetKeyEntry_congr hk₁).trans he
  obtain ⟨r₂, h₂, -, hk₂, hv₂⟩ := smcRun_value_frame hwf₁ he₁ hplain.1 hxs
  -- the read answers with them
  have he₂ : appleSmcGetKeyEntry r₂.1 k = some e := (appleSmcGetKeyEntry_congr hk₂).trans he₁
  have h₃ := smcStep_read_plain he₂ hplain.1 hattr.1 (hv₂.trans hv₁) hr
  have hlen : (s.sram.read 0 e.info.size.toNat).length = e.info.size.toNat := Mem.read_length _ _ _
  obtain ⟨hreply, hsram⟩ := smcReadKeyReply_success (s := r₂.1) hlen
  refine ⟨_, r₁.2 ++ r₂.2, ?_, hsram⟩
  rw [tracedRun_append, tracedRun_cons, h₁, Option.bind_some, h₂, Option.map_some, Option.bind_some,
    tracedRun_cons, h₃, Option.bind_some, tracedRun_nil, Option.map_some, Option.map_some, hreply, hlen]
  rfl

/-- A write of `'CLKH'` with tag 0, a store into the SRAM and the end of boot, then a read of
`'CLKH'` with tag 1: the eight bytes come back at the start of the SRAM.
Source: `hw/misc/apple-silicon/smc.c` `apple_smc_handle_key_endpoint`
Kind: L -/
theorem smc_read_returns_written_clkh :
    ∃ t evs, tracedRun smcStep
        ((.keyMsg 0x434C4B4800080011 :: [.sramWrite 0x10 [1, 2, 3], .bootDone]) ++ [.keyMsg 0x434C4B4800000110])
        smcFirstKeys =
      some (t, evs ++ [.send kSMCKeyEndpoint
        { KeyResponse.zero with
            tagAndId := 1
            length := 8
            response := if (8 : UInt8) ≤ 4 then
                smcFirstKeys.sram.read 0 8 ++ List.replicate (4 - 8) 0 else [0, 0, 0, 0] }.raw]) ∧
      (4 < (8 : UInt8) → t.sram.read 0 8 = smcFirstKeys.sram.read 0 8) :=
  smc_read_returns_written smcFirstKeys ⟨by decide, by decide, by decide, by decide⟩ 0x434C4B48
    ⟨0x434C4B48, ⟨8, cpuToBe32 0x7B636C68, 0xC4⟩, none, none⟩ (by decide) ⟨rfl, rfl⟩ (by decide)
    0x434C4B4800080011 0x434C4B4800000110 (by decide) (by decide) _ (by decide)

end QemuAppleSilicon.Misc
