import Mathlib.Data.Finset.Sort

/-!
# RTKit's management endpoint (`hw/misc/apple-silicon/a7iop/rtkit.c`)

An RTKit keeps its endpoints in a tree ordered by number: the management and crash-log
endpoints `0` and `1`, and each user endpoint `ep` at `32 + ep`. After the AP answers the
`HELLO` with `HELLO_ACK`, the management handler announces the endpoints (the rollcall):

* protocol 10 and below (`appleRtkitRollcallV10`): one message whose 52-bit mask has a bit per
  endpoint number;
* protocol 11 and above (`appleRtkitRollcallV11`): one message per block of 32 endpoints, built
  by a walk over the tree in order that carries the current block and its mask and queues a
  message when the block changes, then one last message marked `end`. The first message is
  sent at once, the others are queued.

Each `ROLLCALL` the AP sends back releases the next queued message; the one that finds the
queue empty sends `POWER_ACK`, returns the endpoint to `EP0_IDLE` and calls `boot_done`.

Messages are modelled by the fields the source writes into `AppleRTKitManagementMessage`, not by
the bit layout of the union; the handlers' opaque data are not modelled.
-/

namespace QemuAppleSilicon.A7iop

/-! ## Constants -/

/-- Source: `include/hw/misc/apple-silicon/a7iop/rtkit.h` `EP_MANAGEMENT`. Kind: D -/
def EP_MANAGEMENT : ℕ := 0
/-- Source: `include/hw/misc/apple-silicon/a7iop/rtkit.h` `EP_CRASHLOG`. Kind: D -/
def EP_CRASHLOG : ℕ := 1
/-- Source: `include/hw/misc/apple-silicon/a7iop/rtkit.h` `EP_USER_START`. Kind: D -/
def EP_USER_START : ℕ := 32

/-- Source: `include/hw/misc/apple-silicon/a7iop/rtkit.h` `EP0_IDLE`. Kind: D -/
def EP0_IDLE : UInt8 := 0
/-- Source: `include/hw/misc/apple-silicon/a7iop/rtkit.h` `EP0_WAIT_HELLO`. Kind: D -/
def EP0_WAIT_HELLO : UInt8 := 1
/-- Source: `include/hw/misc/apple-silicon/a7iop/rtkit.h` `EP0_WAIT_ROLLCALL`. Kind: D -/
def EP0_WAIT_ROLLCALL : UInt8 := 2

/-- Source: `hw/misc/apple-silicon/a7iop/rtkit.c` `MSG_HELLO_ACK`. Kind: D -/
def MSG_HELLO_ACK : UInt64 := 2
/-- Source: `hw/misc/apple-silicon/a7iop/rtkit.c` `MSG_TYPE_PING`. Kind: D -/
def MSG_TYPE_PING : UInt64 := 3
/-- Source: `hw/misc/apple-silicon/a7iop/rtkit.c` `MSG_TYPE_REQ_POWER`. Kind: D -/
def MSG_TYPE_REQ_POWER : UInt64 := 6
/-- Source: `hw/misc/apple-silicon/a7iop/rtkit.c` `MSG_TYPE_ROLLCALL`. Kind: D -/
def MSG_TYPE_ROLLCALL : UInt64 := 8
/-- Source: `hw/misc/apple-silicon/a7iop/rtkit.c` `MSG_TYPE_AP_POWER`. Kind: D -/
def MSG_TYPE_AP_POWER : UInt64 := 11

/-- Source: `hw/misc/apple-silicon/a7iop/rtkit.c` `PSTATE_SLPNOMEM`. Kind: D -/
def PSTATE_SLPNOMEM : UInt64 := 0x0
/-- Source: `hw/misc/apple-silicon/a7iop/rtkit.c` `PSTATE_WAIT_VR`. Kind: D -/
def PSTATE_WAIT_VR : UInt64 := 0x201
/-- Source: `hw/misc/apple-silicon/a7iop/rtkit.c` `PSTATE_ON`. Kind: D -/
def PSTATE_ON : UInt64 := 0x220

/-- The `type` field of a management message: bits 52–55.
Source: `include/hw/misc/apple-silicon/a7iop/rtkit.h` `AppleRTKitManagementMessage` (`type : 4`)
Kind: D -/
def mgmtType (raw : UInt64) : UInt64 := (raw >>> 52) &&& 0xF

/-- `MSG_GET_PSTATE(raw)`.
Source: `hw/misc/apple-silicon/a7iop/rtkit.c` `MSG_GET_PSTATE`
Kind: D -/
def MSG_GET_PSTATE (raw : UInt64) : UInt64 := raw &&& 0xFFF

/-- The 52-bit `rollcall_v10.mask` field: what an assignment to it keeps.
Source: `include/hw/misc/apple-silicon/a7iop/rtkit.h` `AppleRTKitManagementMessage` (`mask : 52`)
Kind: D -/
def ROLLCALL_V10_MASK : UInt64 := ((1 : UInt64) <<< 52) - 1

/-! ## Messages to the AP -/

/-- The `rollcall_v11` fields of a management message: a block of 32 endpoints, the mask of
those of the block announced, and whether it is the last.
Source: `include/hw/misc/apple-silicon/a7iop/rtkit.h` `AppleRTKitManagementMessage.rollcall_v11`
Kind: D -/
structure RollcallV11 where
  /-- `mask`. -/
  mask : UInt32
  /-- `block : 6`. -/
  block : ℕ
  /-- `end : 1`. -/
  endFlag : Bool
  deriving DecidableEq

/-- A management message the IOP sends, by the fields the source writes: `HELLO` with its
versions, a rollcall of either protocol, `POWER_ACK`, `PING_ACK` and `AP_POWER` with theirs.
Source: `include/hw/misc/apple-silicon/a7iop/rtkit.h` `AppleRTKitManagementMessage`
Kind: D -/
inductive MgmtOut where
  | hello (major minor : UInt32)
  | rollcallV10 (mask : UInt64)
  | rollcallV11 (msg : RollcallV11)
  | powerAck (state : UInt64)
  | pingAck (seg : UInt64) (timestamp : UInt64)
  | apPower (state : UInt64)
  deriving DecidableEq

/-- What the management handler does besides changing the RTKit: a message sent to the AP on
the management endpoint, the IOP started (`apple_a7iop_cpu_start(a7iop, true)`), its status set
to idle, or `boot_done` called.
Source: `hw/misc/apple-silicon/a7iop/rtkit.c` `apple_rtkit_handle_mgmt_msg`
Kind: D -/
inductive RTKitEvent where
  | send (msg : MgmtOut)
  | cpuWake
  | cpuStatusIdle
  | bootDone
  deriving DecidableEq

/-! ## The RTKit and its endpoints -/

/-- The state of `AppleRTKit` the management endpoint uses: `ep0_status`, `protocol_version`,
the numbers of the registered endpoints, the queue of rollcall messages, and whether its ops
have a `boot_done`.
Source: `include/hw/misc/apple-silicon/a7iop/rtkit.h` `AppleRTKit`
Kind: D -/
structure AppleRTKit where
  /-- `ep0_status`. -/
  ep0Status : UInt8
  /-- `protocol_version`. -/
  protocolVersion : UInt32
  /-- The keys of `endpoints`. -/
  endpoints : Finset ℕ
  /-- `rollcall`. -/
  rollcall : List MgmtOut
  /-- `s->ops != NULL && s->ops->boot_done != NULL`. -/
  hasBootDone : Bool

/-- `apple_rtkit_init`: the management and crash-log endpoints registered, `ep0_status` zero.
Source: `hw/misc/apple-silicon/a7iop/rtkit.c` `apple_rtkit_init`
Kind: D -/
def appleRtkitInit (protocolVersion : UInt32) (hasBootDone : Bool) : AppleRTKit :=
  ⟨EP0_IDLE, protocolVersion, {EP_MANAGEMENT, EP_CRASHLOG}, [], hasBootDone⟩

/-- `apple_rtkit_register_ep`: `none` when the endpoint is taken (the `g_assert_null`).
Source: `hw/misc/apple-silicon/a7iop/rtkit.c` `apple_rtkit_register_ep`
Kind: D -/
def appleRtkitRegisterEp (s : AppleRTKit) (ep : ℕ) : Option AppleRTKit :=
  if ep ∈ s.endpoints then none else some { s with endpoints := insert ep s.endpoints }

/-- `apple_rtkit_register_control_ep`: control endpoint `ep < 32` at `ep`.
Source: `hw/misc/apple-silicon/a7iop/rtkit.c` `apple_rtkit_register_control_ep`
Kind: D -/
def appleRtkitRegisterControlEp (s : AppleRTKit) (ep : ℕ) : Option AppleRTKit :=
  if ep < EP_USER_START then appleRtkitRegisterEp s ep else none

/-- `apple_rtkit_register_user_ep`: user endpoint `ep < 224` at `32 + ep`.
Source: `hw/misc/apple-silicon/a7iop/rtkit.c` `apple_rtkit_register_user_ep`
Kind: D -/
def appleRtkitRegisterUserEp (s : AppleRTKit) (ep : ℕ) : Option AppleRTKit :=
  if ep < 224 then appleRtkitRegisterEp s (ep + EP_USER_START) else none

/-- `apple_rtkit_mgmt_send_hello`: `HELLO` with the protocol version as both versions, and
`EP0_WAIT_HELLO`.
Source: `hw/misc/apple-silicon/a7iop/rtkit.c` `apple_rtkit_mgmt_send_hello`
Kind: D -/
def appleRtkitMgmtSendHello (s : AppleRTKit) : AppleRTKit × List RTKitEvent :=
  ({ s with ep0Status := EP0_WAIT_HELLO },
    [.send (.hello (s.protocolVersion % 65536) (s.protocolVersion % 65536))])

/-! ## The rollcall -/

/-- One endpoint of the walk of protocol 10: `mask |= BIT(ep)` into the 52-bit field. (For an
endpoint of 64 or more the C shift is undefined; the model shifts modulo 64, as the hardware
does.)
Source: `hw/misc/apple-silicon/a7iop/rtkit.c` `apple_rtkit_rollcall_v10_foreach`
Kind: D -/
def rollcallV10Foreach (mask : UInt64) (ep : ℕ) : UInt64 :=
  (mask ||| (1 <<< UInt64.ofNat ep)) &&& ROLLCALL_V10_MASK

/-- The mask of the rollcall of protocol 10: the walk over the endpoints in order from zero.
Source: `hw/misc/apple-silicon/a7iop/rtkit.c` `apple_rtkit_rollcall_v10`
Kind: D -/
def rollcallV10Mask (eps : List ℕ) : UInt64 :=
  eps.foldl rollcallV10Foreach 0

/-- `apple_rtkit_rollcall_v10`: `EP0_WAIT_ROLLCALL` and the one rollcall message sent.
Source: `hw/misc/apple-silicon/a7iop/rtkit.c` `apple_rtkit_rollcall_v10`
Kind: D -/
def appleRtkitRollcallV10 (s : AppleRTKit) : AppleRTKit × List RTKitEvent :=
  ({ s with ep0Status := EP0_WAIT_ROLLCALL },
    [.send (.rollcallV10 (rollcallV10Mask (s.endpoints.sort)))])

/-- The state of the walk of protocol 11: the messages queued, the mask of the current block
and the block.
Source: `hw/misc/apple-silicon/a7iop/rtkit.c` `AppleRTKitRollcallV11Data`
Kind: D -/
structure RollcallV11Data where
  /-- The rollcall messages queued on `s->rollcall`. -/
  queue : List RollcallV11
  /-- `mask`. -/
  mask : UInt32
  /-- `last_block`. -/
  lastBlock : UInt32

/-- One endpoint of the walk of protocol 11: a block change with a non-empty mask queues the
mask (not the end), then the endpoint's bit goes into the mask of its block.
Source: `hw/misc/apple-silicon/a7iop/rtkit.c` `apple_rtkit_rollcall_v11_foreach`
Kind: D -/
def rollcallV11Foreach (d : RollcallV11Data) (ep : ℕ) : RollcallV11Data :=
  let block := UInt32.ofNat ep / UInt32.ofNat EP_USER_START
  let d := if block ≠ d.lastBlock ∧ d.mask ≠ 0 then
      { d with queue := d.queue ++ [⟨d.mask, d.lastBlock.toNat % 64, false⟩], mask := 0 }
    else d
  { d with lastBlock := block,
           mask := d.mask ||| ((1 : UInt32) <<< (UInt32.ofNat ep % UInt32.ofNat EP_USER_START)) }

/-- The messages of the rollcall of protocol 11 over the endpoints in order: those the walk
queued, then the last block's, marked `end`.
Source: `hw/misc/apple-silicon/a7iop/rtkit.c` `apple_rtkit_rollcall_v11`
Kind: D -/
def rollcallV11Msgs (eps : List ℕ) : List RollcallV11 :=
  let d := eps.foldl rollcallV11Foreach ⟨[], 0, 0⟩
  d.queue ++ [⟨d.mask, d.lastBlock.toNat % 64, true⟩]

/-- `apple_rtkit_rollcall_v11`: the queue emptied and refilled with the rollcall messages,
`EP0_WAIT_ROLLCALL`, and the first message taken off the queue and sent.
Source: `hw/misc/apple-silicon/a7iop/rtkit.c` `apple_rtkit_rollcall_v11`
Kind: D -/
def appleRtkitRollcallV11 (s : AppleRTKit) : AppleRTKit × List RTKitEvent :=
  match (rollcallV11Msgs s.endpoints.sort).map MgmtOut.rollcallV11 with
  | [] => ({ s with ep0Status := EP0_WAIT_ROLLCALL, rollcall := [] }, [])
  | msg :: rest => ({ s with ep0Status := EP0_WAIT_ROLLCALL, rollcall := rest }, [.send msg])

/-! ## The management handler -/

/-- `apple_rtkit_handle_mgmt_msg(s, ep, message)`: `none` where a `g_assert` fails.
Source: `hw/misc/apple-silicon/a7iop/rtkit.c` `apple_rtkit_handle_mgmt_msg`
Kind: D -/
def appleRtkitHandleMgmtMsg (s : AppleRTKit) (raw : UInt64) : Option (AppleRTKit × List RTKitEvent) :=
  let type := mgmtType raw
  if type = MSG_HELLO_ACK then
    if s.ep0Status ≠ EP0_WAIT_HELLO then none
    else if s.protocolVersion ≤ 10 then some (appleRtkitRollcallV10 s)
    else some (appleRtkitRollcallV11 s)
  else if type = MSG_TYPE_PING then
    some (s, [.send (.pingAck (raw &&& 0xFFFFFFFF) ((raw >>> 32) &&& 0xFFFF))])
  else if type = MSG_TYPE_AP_POWER then
    some (s, [.send (.apPower (raw &&& 0xFFFFFFFF))])
  else if type = MSG_TYPE_REQ_POWER then
    if s.ep0Status ≠ EP0_IDLE then none
    else
      let pstate := MSG_GET_PSTATE raw
      if pstate = PSTATE_WAIT_VR ∨ pstate = PSTATE_ON then some (s, [.cpuWake])
      else if pstate = PSTATE_SLPNOMEM then
        some (s, [.cpuStatusIdle, .send (.powerAck pstate)])
      else some (s, [])
  else if type = MSG_TYPE_ROLLCALL then
    if s.ep0Status ≠ EP0_WAIT_ROLLCALL then none
    else
      match s.rollcall with
      | [] =>
        some ({ s with ep0Status := EP0_IDLE },
          .send (.powerAck 32) :: if s.hasBootDone then [.bootDone] else [])
      | msg :: rest => some ({ s with rollcall := rest }, [.send msg])
  else some (s, [])

/-- The handler over messages from the AP, one after another: the last state and every event,
or `none` once an assertion fails. -/
def rtkitRun : AppleRTKit → List UInt64 → Option (AppleRTKit × List RTKitEvent)
  | s, [] => some (s, [])
  | s, raw :: raws => do
    let r ← appleRtkitHandleMgmtMsg s raw
    let r' ← rtkitRun r.1 raws
    pure (r'.1, r.2 ++ r'.2)

end QemuAppleSilicon.A7iop
