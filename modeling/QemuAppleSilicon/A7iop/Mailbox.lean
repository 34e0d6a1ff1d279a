import Mathlib.Data.Fintype.Basic
import QemuAppleSilicon.Lib.Bytes
import QemuAppleSilicon.Lib.Fifo

/-!
# The A7IOP mailboxes (`hw/misc/apple-silicon/a7iop/mailbox/`)

An A7IOP has two mailboxes, one for each side: the IOP's and the AP's. `apple_a7iop_init` links
them so that, for both, `s->iop_mailbox` is the IOP mailbox and `s->ap_mailbox` the AP one; a
send or a receive in a direction therefore always reaches that side's inbox, whichever mailbox
it goes through, while the check that the direction is enabled reads the flags of the mailbox
it goes through (`mailboxSendDir`, `mailboxRecvDir`).

* `appleA7iopMailboxSend` — `apple_a7iop_mailbox_send`: the message appended, the count
  incremented.
* `appleA7iopMailboxRecv` — `apple_a7iop_mailbox_recv`: nothing after an underflow; on an empty
  inbox the underflow flag is set; otherwise the head is removed, the count it was received at
  is or-ed into its bytes 12–15 (`recvStamp`), and the count is decremented.
* `appleA7iopMailboxCtrl` — the `CTRL` bits of an inbox.
* the register front ends of both versions (`appleA7iopV2MailboxRegWrite`, …): a message is
  assembled in a send register by 4- and 8-byte writes and sent by the write that ends at the
  last send register; a read of the first receive register receives a message into the receive
  register, which the reads return.

The interrupt lines, the interrupt-status queue and the bottom half a send schedules are not
modelled. Each core function records the trace event the source emits
(`trace_apple_a7iop_mailbox_send`, `trace_apple_a7iop_mailbox_recv`): the mailbox and the
message, after the receive stamped it.
-/

namespace QemuAppleSilicon.A7iop

open QemuAppleSilicon.Lib

/-! ## Messages -/

/-- The two mailboxes of an A7IOP, and the two directions of its messages.
Source: `hw/misc/apple-silicon/a7iop/core.c` `apple_a7iop_init` (`iop_mailbox`, `ap_mailbox`)
Kind: D -/
inductive Side where
  | iop
  | ap
  deriving DecidableEq, Repr

/-- The byte at `i` of a sixteen-byte array, `0` past its end. -/
def byteAt (d : Fin 16 → UInt8) (i : ℕ) : UInt8 := if h : i < 16 then d ⟨i, h⟩ else 0

/-- `memcpy(&ret, d + off, size)` into a zeroed host integer: the `size` bytes from `off`,
little-endian.
Source: `hw/misc/apple-silicon/a7iop/mailbox/regs-v4.c` (`memcpy(&ret, …)`)
Kind: D -/
def loadBytes (d : Fin 16 → UInt8) (off size : ℕ) : ℕ :=
  leValue (List.ofFn fun k : Fin size => byteAt d (off + k))

/-- `memcpy(d + off, bs, bs.length)`.
Source: `hw/misc/apple-silicon/a7iop/mailbox/regs-v4.c` (`memcpy(s->iop_send_reg + …)`)
Kind: D -/
def storeBytes (d : Fin 16 → UInt8) (off : ℕ) (bs : List UInt8) : Fin 16 → UInt8 :=
  fun i => if off ≤ i.val ∧ i.val < off + bs.length then bs.getD (i.val - off) 0 else d i

/-- `AppleA7IOPMessage`: its sixteen bytes `data`.
Source: `include/hw/misc/apple-silicon/a7iop/mailbox/core.h` `AppleA7IOPMessage`
Kind: D -/
structure AppleA7IOPMessage where
  /-- `data`. -/
  data : Fin 16 → UInt8

instance : DecidableEq AppleA7IOPMessage := fun a b =>
  decidable_of_iff (a.data = b.data) ⟨fun h => by cases a; cases b; cases h; rfl, fun h => h ▸ rfl⟩

/-! ## Control bits -/

/-- Source: `hw/misc/apple-silicon/a7iop/mailbox/core.c` `MAX_MESSAGE_COUNT`. Kind: D -/
def MAX_MESSAGE_COUNT : UInt32 := 15

/-- Source: `hw/misc/apple-silicon/a7iop/mailbox/core.c` `CTRL_ENABLE`. Kind: D -/
def CTRL_ENABLE : UInt32 := (1 : UInt32) <<< 0

/-- Source: `hw/misc/apple-silicon/a7iop/mailbox/core.c` `CTRL_FULL`. Kind: D -/
def CTRL_FULL : UInt32 := (1 : UInt32) <<< 16

/-- Source: `hw/misc/apple-silicon/a7iop/mailbox/core.c` `CTRL_EMPTY`. Kind: D -/
def CTRL_EMPTY : UInt32 := (1 : UInt32) <<< 17

/-- Source: `hw/misc/apple-silicon/a7iop/mailbox/core.c` `CTRL_UNDERFLOW`. Kind: D -/
def CTRL_UNDERFLOW : UInt32 := (1 : UInt32) <<< 19

/-- Source: `hw/misc/apple-silicon/a7iop/mailbox/core.c` `CTRL_COUNT_SHIFT`. Kind: D -/
def CTRL_COUNT_SHIFT : UInt32 := 20

/-- Source: `hw/misc/apple-silicon/a7iop/mailbox/core.c` `CTRL_COUNT_MASK`. Kind: D -/
def CTRL_COUNT_MASK : UInt32 := MAX_MESSAGE_COUNT <<< CTRL_COUNT_SHIFT

/-- `CTRL_COUNT(v)`: the low four bits of `v` at bits 20–23.
Source: `hw/misc/apple-silicon/a7iop/mailbox/core.c` `CTRL_COUNT`
Kind: D -/
def CTRL_COUNT (v : UInt32) : UInt32 := (v <<< CTRL_COUNT_SHIFT) &&& CTRL_COUNT_MASK

/-- `ldl_le_p(data + off)` in a message.
Source: `hw/misc/apple-silicon/a7iop/mailbox/core.c` `apple_a7iop_mailbox_recv` (`ldl_le_p`)
Kind: D -/
def AppleA7IOPMessage.word (msg : AppleA7IOPMessage) (off : ℕ) : UInt32 :=
  UInt32.ofNat (loadBytes msg.data off 4)

/-- What `apple_a7iop_mailbox_recv` does to the message it removes:
`stl_le_p(data + 0xC, ldl_le_p(data + 0xC) | CTRL_COUNT(count))`.
Source: `hw/misc/apple-silicon/a7iop/mailbox/core.c` `apple_a7iop_mailbox_recv`
Kind: D -/
def recvStamp (msg : AppleA7IOPMessage) (count : UInt32) : AppleA7IOPMessage :=
  ⟨storeBytes msg.data 0xC (leBytes (msg.word 0xC ||| CTRL_COUNT count).toNat 4)⟩

/-! ## A mailbox and the pair -/

/-- The state of `AppleA7IOPMailbox` that sending, receiving and the registers use: the inbox and
its count, the two direction enables, the underflow flag, the interrupt mask and the four
register arrays.
Source: `include/hw/misc/apple-silicon/a7iop/mailbox/core.h` `AppleA7IOPMailbox`
Kind: D -/
structure AppleA7IOPMailbox where
  /-- `inbox`. -/
  inbox : List AppleA7IOPMessage
  /-- `count`. -/
  count : UInt32
  /-- `iop_dir_en`. -/
  iopDirEn : Bool
  /-- `ap_dir_en`. -/
  apDirEn : Bool
  /-- `underflow`. -/
  underflow : Bool
  /-- `int_mask`. -/
  intMask : UInt32
  /-- `iop_recv_reg`. -/
  iopRecvReg : Fin 16 → UInt8
  /-- `ap_recv_reg`. -/
  apRecvReg : Fin 16 → UInt8
  /-- `iop_send_reg`. -/
  iopSendReg : Fin 16 → UInt8
  /-- `ap_send_reg`. -/
  apSendReg : Fin 16 → UInt8

namespace AppleA7IOPMailbox

/-- `iop_dir_en` or `ap_dir_en`.
Source: `include/hw/misc/apple-silicon/a7iop/mailbox/core.h` `AppleA7IOPMailbox`
Kind: D -/
def dirEn (m : AppleA7IOPMailbox) : Side → Bool
  | .iop => m.iopDirEn
  | .ap => m.apDirEn

/-- Source: none: infrastructure. Kind: D -/
def setDirEn (m : AppleA7IOPMailbox) : Side → Bool → AppleA7IOPMailbox
  | .iop, b => { m with iopDirEn := b }
  | .ap, b => { m with apDirEn := b }

/-- `iop_send_reg` or `ap_send_reg`.
Source: `include/hw/misc/apple-silicon/a7iop/mailbox/core.h` `AppleA7IOPMailbox`
Kind: D -/
def sendReg (m : AppleA7IOPMailbox) : Side → Fin 16 → UInt8
  | .iop => m.iopSendReg
  | .ap => m.apSendReg

/-- Source: none: infrastructure. Kind: D -/
def setSendReg (m : AppleA7IOPMailbox) : Side → (Fin 16 → UInt8) → AppleA7IOPMailbox
  | .iop, d => { m with iopSendReg := d }
  | .ap, d => { m with apSendReg := d }

/-- `iop_recv_reg` or `ap_recv_reg`.
Source: `include/hw/misc/apple-silicon/a7iop/mailbox/core.h` `AppleA7IOPMailbox`
Kind: D -/
def recvReg (m : AppleA7IOPMailbox) : Side → Fin 16 → UInt8
  | .iop => m.iopRecvReg
  | .ap => m.apRecvReg

/-- Source: none: infrastructure. Kind: D -/
def setRecvReg (m : AppleA7IOPMailbox) : Side → (Fin 16 → UInt8) → AppleA7IOPMailbox
  | .iop, d => { m with iopRecvReg := d }
  | .ap, d => { m with apRecvReg := d }

/-- Two mailboxes whose inboxes are in the same state: the same messages, count and underflow
flag. -/
structure SameInbox (m m' : AppleA7IOPMailbox) : Prop where
  inbox_eq : m'.inbox = m.inbox
  count_eq : m'.count = m.count
  underflow_eq : m'.underflow = m.underflow

theorem SameInbox.refl (m : AppleA7IOPMailbox) : SameInbox m m := ⟨rfl, rfl, rfl⟩

theorem SameInbox.trans {m₁ m₂ m₃ : AppleA7IOPMailbox} (h₁ : SameInbox m₁ m₂)
    (h₂ : SameInbox m₂ m₃) : SameInbox m₁ m₃ :=
  ⟨h₂.inbox_eq.trans h₁.inbox_eq, h₂.count_eq.trans h₁.count_eq,
    h₂.underflow_eq.trans h₁.underflow_eq⟩

theorem sameInbox_setDirEn (m : AppleA7IOPMailbox) (dir : Side) (b : Bool) :
    SameInbox m (m.setDirEn dir b) := by
  cases dir <;> exact ⟨rfl, rfl, rfl⟩

theorem sameInbox_setSendReg (m : AppleA7IOPMailbox) (dir : Side) (d : Fin 16 → UInt8) :
    SameInbox m (m.setSendReg dir d) := by
  cases dir <;> exact ⟨rfl, rfl, rfl⟩

theorem sameInbox_setRecvReg (m : AppleA7IOPMailbox) (dir : Side) (d : Fin 16 → UInt8) :
    SameInbox m (m.setRecvReg dir d) := by
  cases dir <;> exact ⟨rfl, rfl, rfl⟩

@[simp] theorem dirEn_setSendReg (m : AppleA7IOPMailbox) (dir dir' : Side) (d : Fin 16 → UInt8) :
    (m.setSendReg dir d).dirEn dir' = m.dirEn dir' := by
  cases dir <;> cases dir' <;> rfl

@[simp] theorem sendReg_setSendReg_self (m : AppleA7IOPMailbox) (dir : Side) (d : Fin 16 → UInt8) :
    (m.setSendReg dir d).sendReg dir = d := by
  cases dir <;> rfl

end AppleA7IOPMailbox

open AppleA7IOPMailbox

/-- `apple_a7iop_mailbox_reset`: the inbox emptied, the count and the underflow flag cleared,
both directions enabled and the registers zeroed; the interrupt mask stays.
Source: `hw/misc/apple-silicon/a7iop/mailbox/core.c` `apple_a7iop_mailbox_reset`
Kind: D -/
def appleA7iopMailboxReset (m : AppleA7IOPMailbox) : AppleA7IOPMailbox :=
  { m with inbox := [], count := 0, iopDirEn := true, apDirEn := true, underflow := false,
           iopRecvReg := fun _ => 0, apRecvReg := fun _ => 0, iopSendReg := fun _ => 0,
           apSendReg := fun _ => 0 }

/-- An A7IOP's two mailboxes.
Source: `include/hw/misc/apple-silicon/a7iop/core.h` `AppleA7IOP` (`iop_mailbox`, `ap_mailbox`)
Kind: D -/
structure AppleA7IOP where
  /-- `iop_mailbox`. -/
  iopMailbox : AppleA7IOPMailbox
  /-- `ap_mailbox`. -/
  apMailbox : AppleA7IOPMailbox

namespace AppleA7IOP

/-- The mailbox of a side: `s->iop_mailbox` or `s->ap_mailbox`, the same from either mailbox.
Source: `hw/misc/apple-silicon/a7iop/core.c` `apple_a7iop_init`
Kind: D -/
def mailbox (s : AppleA7IOP) : Side → AppleA7IOPMailbox
  | .iop => s.iopMailbox
  | .ap => s.apMailbox

/-- Source: none: infrastructure. Kind: D -/
def setMailbox (s : AppleA7IOP) : Side → AppleA7IOPMailbox → AppleA7IOP
  | .iop, m => { s with iopMailbox := m }
  | .ap, m => { s with apMailbox := m }

@[simp] theorem mailbox_setMailbox_self (s : AppleA7IOP) (side : Side) (m : AppleA7IOPMailbox) :
    (s.setMailbox side m).mailbox side = m := by
  cases side <;> rfl

@[simp] theorem mailbox_setMailbox_of_ne (s : AppleA7IOP) {side side' : Side}
    (m : AppleA7IOPMailbox) (h : side' ≠ side) : (s.setMailbox side m).mailbox side' = s.mailbox side' := by
  cases side <;> cases side' <;> first | rfl | exact absurd rfl h

/-- Both mailboxes reset.
Source: `hw/misc/apple-silicon/a7iop/mailbox/core.c` `apple_a7iop_mailbox_reset`
Kind: D -/
def reset (s : AppleA7IOP) : AppleA7IOP :=
  ⟨appleA7iopMailboxReset s.iopMailbox, appleA7iopMailboxReset s.apMailbox⟩

@[simp] theorem mailbox_reset (s : AppleA7IOP) (side : Side) :
    s.reset.mailbox side = appleA7iopMailboxReset (s.mailbox side) := by
  cases side <;> rfl

end AppleA7IOP

/-! ## Sending and receiving -/

/-- The trace events of the mailbox core: `trace_apple_a7iop_mailbox_send` and
`trace_apple_a7iop_mailbox_recv`, with the side of the mailbox and the message.
Source: `hw/misc/apple-silicon/a7iop/mailbox/core.c` `apple_a7iop_mailbox_send`,
`apple_a7iop_mailbox_recv`
Kind: D -/
inductive MailboxTrace where
  | send (side : Side) (msg : AppleA7IOPMessage)
  | recv (side : Side) (msg : AppleA7IOPMessage)

/-- What a mailbox function leaves: the pair's state, its C result and the trace events it
emitted. -/
structure MailboxResult (α : Type) where
  /-- The two mailboxes after the call. -/
  state : AppleA7IOP
  /-- The value returned. -/
  ret : α
  /-- The trace events, in order. -/
  trace : List MailboxTrace

/-- `apple_a7iop_mailbox_send(s, msg)` on the mailbox of `side`.
Source: `hw/misc/apple-silicon/a7iop/mailbox/core.c` `apple_a7iop_mailbox_send`
Kind: D -/
def appleA7iopMailboxSend (s : AppleA7IOP) (side : Side) (msg : AppleA7IOPMessage) :
    MailboxResult Unit :=
  let m := s.mailbox side
  ⟨s.setMailbox side { m with inbox := m.inbox ++ [msg], count := m.count + 1 }, (),
    [.send side msg]⟩

/-- `apple_a7iop_mailbox_recv(s)` on the mailbox of `side`.
Source: `hw/misc/apple-silicon/a7iop/mailbox/core.c` `apple_a7iop_mailbox_recv`
Kind: D -/
def appleA7iopMailboxRecv (s : AppleA7IOP) (side : Side) : MailboxResult (Option AppleA7IOPMessage) :=
  let m := s.mailbox side
  if m.underflow then ⟨s, none, []⟩
  else
    match m.inbox with
    | [] => ⟨s.setMailbox side { m with underflow := true }, none, []⟩
    | msg :: rest =>
      let msg := recvStamp msg m.count
      ⟨s.setMailbox side { m with inbox := rest, count := m.count - 1 }, some msg,
        [.recv side msg]⟩

/-- `apple_a7iop_mailbox_send_iop` and `_send_ap` called on the mailbox `caller`: refused
unless the caller enables the direction, else sent to that side's mailbox.
Source: `hw/misc/apple-silicon/a7iop/mailbox/core.c` `apple_a7iop_mailbox_send_iop`,
`apple_a7iop_mailbox_send_ap`
Kind: D -/
def mailboxSendDir (dir : Side) (s : AppleA7IOP) (caller : Side) (msg : AppleA7IOPMessage) :
    MailboxResult Unit :=
  if (s.mailbox caller).dirEn dir then appleA7iopMailboxSend s dir msg else ⟨s, (), []⟩

/-- Source: `hw/misc/apple-silicon/a7iop/mailbox/core.c` `apple_a7iop_mailbox_send_iop`. Kind: D -/
def appleA7iopMailboxSendIop : AppleA7IOP → Side → AppleA7IOPMessage → MailboxResult Unit :=
  mailboxSendDir .iop

/-- Source: `hw/misc/apple-silicon/a7iop/mailbox/core.c` `apple_a7iop_mailbox_send_ap`. Kind: D -/
def appleA7iopMailboxSendAp : AppleA7IOP → Side → AppleA7IOPMessage → MailboxResult Unit :=
  mailboxSendDir .ap

/-- `apple_a7iop_mailbox_recv_iop` and `_recv_ap` called on the mailbox `caller`: `NULL`
unless the caller enables the direction, else a receive from that side's mailbox.
Source: `hw/misc/apple-silicon/a7iop/mailbox/core.c` `apple_a7iop_mailbox_recv_iop`,
`apple_a7iop_mailbox_recv_ap`
Kind: D -/
def mailboxRecvDir (dir : Side) (s : AppleA7IOP) (caller : Side) :
    MailboxResult (Option AppleA7IOPMessage) :=
  if (s.mailbox caller).dirEn dir then appleA7iopMailboxRecv s dir else ⟨s, none, []⟩

/-- Source: `hw/misc/apple-silicon/a7iop/mailbox/core.c` `apple_a7iop_mailbox_recv_iop`. Kind: D -/
def appleA7iopMailboxRecvIop : AppleA7IOP → Side → MailboxResult (Option AppleA7IOPMessage) :=
  mailboxRecvDir .iop

/-- Source: `hw/misc/apple-silicon/a7iop/mailbox/core.c` `apple_a7iop_mailbox_recv_ap`. Kind: D -/
def appleA7iopMailboxRecvAp : AppleA7IOP → Side → MailboxResult (Option AppleA7IOPMessage) :=
  mailboxRecvDir .ap

/-- `apple_a7iop_send_ap(s, msg)`: through the IOP mailbox.
Source: `hw/misc/apple-silicon/a7iop/core.c` `apple_a7iop_send_ap`
Kind: D -/
def appleA7iopSendAp (s : AppleA7IOP) (msg : AppleA7IOPMessage) : MailboxResult Unit :=
  appleA7iopMailboxSendAp s .iop msg

/-- `apple_a7iop_recv_ap(s)`: through the IOP mailbox.
Source: `hw/misc/apple-silicon/a7iop/core.c` `apple_a7iop_recv_ap`
Kind: D -/
def appleA7iopRecvAp (s : AppleA7IOP) : MailboxResult (Option AppleA7IOPMessage) :=
  appleA7iopMailboxRecvAp s .iop

/-- `apple_a7iop_send_iop(s, msg)`: through the AP mailbox.
Source: `hw/misc/apple-silicon/a7iop/core.c` `apple_a7iop_send_iop`
Kind: D -/
def appleA7iopSendIop (s : AppleA7IOP) (msg : AppleA7IOPMessage) : MailboxResult Unit :=
  appleA7iopMailboxSendIop s .ap msg

/-- `apple_a7iop_recv_iop(s)`: through the AP mailbox.
Source: `hw/misc/apple-silicon/a7iop/core.c` `apple_a7iop_recv_iop`
Kind: D -/
def appleA7iopRecvIop (s : AppleA7IOP) : MailboxResult (Option AppleA7IOPMessage) :=
  appleA7iopMailboxRecvIop s .ap

/-! ## Control and interrupt-mask registers -/

/-- `apple_a7iop_mailbox_ctrl(s)`: only `CTRL_UNDERFLOW` after an underflow, else `CTRL_FULL`
from fifteen messages on, `CTRL_EMPTY` for an empty inbox and the count up to fifteen.
Source: `hw/misc/apple-silicon/a7iop/mailbox/core.c` `apple_a7iop_mailbox_ctrl`
Kind: D -/
def appleA7iopMailboxCtrl (m : AppleA7IOPMailbox) : UInt32 :=
  if m.underflow then CTRL_UNDERFLOW
  else (if m.count ≥ MAX_MESSAGE_COUNT then CTRL_FULL else 0) |||
    (if m.inbox = [] then CTRL_EMPTY else 0) ||| CTRL_COUNT (min m.count MAX_MESSAGE_COUNT)

/-- `apple_a7iop_mailbox_get_iop_ctrl` and `_get_ap_ctrl` on the mailbox `caller`: the
caller's enable bit and the control bits of that side's inbox.
Source: `hw/misc/apple-silicon/a7iop/mailbox/core.c` `apple_a7iop_mailbox_get_iop_ctrl`,
`apple_a7iop_mailbox_get_ap_ctrl`
Kind: D -/
def mailboxGetCtrl (dir : Side) (s : AppleA7IOP) (caller : Side) : UInt32 :=
  (if (s.mailbox caller).dirEn dir then CTRL_ENABLE else 0) ||| appleA7iopMailboxCtrl (s.mailbox dir)

/-- Source: `hw/misc/apple-silicon/a7iop/mailbox/core.c` `apple_a7iop_mailbox_get_iop_ctrl`. Kind: D -/
def appleA7iopMailboxGetIopCtrl : AppleA7IOP → Side → UInt32 := mailboxGetCtrl .iop

/-- Source: `hw/misc/apple-silicon/a7iop/mailbox/core.c` `apple_a7iop_mailbox_get_ap_ctrl`. Kind: D -/
def appleA7iopMailboxGetApCtrl : AppleA7IOP → Side → UInt32 := mailboxGetCtrl .ap

/-- `apple_a7iop_mailbox_set_iop_ctrl` and `_set_ap_ctrl` on the mailbox `caller`: its enable of
the direction is bit 0 of the value.
Source: `hw/misc/apple-silicon/a7iop/mailbox/core.c` `apple_a7iop_mailbox_set_iop_ctrl`,
`apple_a7iop_mailbox_set_ap_ctrl`
Kind: D -/
def mailboxSetCtrl (dir : Side) (s : AppleA7IOP) (caller : Side) (value : UInt32) : AppleA7IOP :=
  s.setMailbox caller ((s.mailbox caller).setDirEn dir (value &&& CTRL_ENABLE != 0))

/-- Source: `hw/misc/apple-silicon/a7iop/mailbox/core.c` `apple_a7iop_mailbox_set_iop_ctrl`. Kind: D -/
def appleA7iopMailboxSetIopCtrl : AppleA7IOP → Side → UInt32 → AppleA7IOP := mailboxSetCtrl .iop

/-- Source: `hw/misc/apple-silicon/a7iop/mailbox/core.c` `apple_a7iop_mailbox_set_ap_ctrl`. Kind: D -/
def appleA7iopMailboxSetApCtrl : AppleA7IOP → Side → UInt32 → AppleA7IOP := mailboxSetCtrl .ap

/-- `apple_a7iop_mailbox_get_int_mask`.
Source: `hw/misc/apple-silicon/a7iop/mailbox/core.c` `apple_a7iop_mailbox_get_int_mask`
Kind: D -/
def appleA7iopMailboxGetIntMask (s : AppleA7IOP) (caller : Side) : UInt32 :=
  (s.mailbox caller).intMask

/-- `apple_a7iop_mailbox_set_int_mask`: the bits or-ed in.
Source: `hw/misc/apple-silicon/a7iop/mailbox/core.c` `apple_a7iop_mailbox_set_int_mask`
Kind: D -/
def appleA7iopMailboxSetIntMask (s : AppleA7IOP) (caller : Side) (value : UInt32) : AppleA7IOP :=
  let m := s.mailbox caller
  s.setMailbox caller { m with intMask := m.intMask ||| value }

/-- `apple_a7iop_mailbox_clear_int_mask`: the bits cleared.
Source: `hw/misc/apple-silicon/a7iop/mailbox/core.c` `apple_a7iop_mailbox_clear_int_mask`
Kind: D -/
def appleA7iopMailboxClearIntMask (s : AppleA7IOP) (caller : Side) (value : UInt32) : AppleA7IOP :=
  let m := s.mailbox caller
  s.setMailbox caller { m with intMask := m.intMask &&& ~~~value }

/-! ## The register front ends -/

/-- An access the memory core lets through to a mailbox's registers: four or eight bytes, and
aligned to its size (`.valid.unaligned = false`).
Source: `hw/misc/apple-silicon/a7iop/mailbox/regs-v4.c` `apple_a7iop_v4_mailbox_reg_ops`
Kind: D -/
structure MmioAccess where
  /-- The register offset. -/
  addr : ℕ
  /-- The access size. -/
  size : ℕ
  size_valid : size = 4 ∨ size = 8
  aligned : addr % size = 0

/-- A write to a send register of direction `dir`, the first at `send0` and the last at `last`:
the bytes are copied into the caller's send register, and a write ending at the last register
sends the sixteen bytes in that direction.
Source: `hw/misc/apple-silicon/a7iop/mailbox/regs-v4.c` `apple_a7iop_v4_mailbox_reg_write`
(`case REG_IOP_SEND0` …), `regs-v2.c` `apple_a7iop_v2_mailbox_reg_write`
Kind: D -/
def sendRegWrite (dir : Side) (send0 last : ℕ) (s : AppleA7IOP) (caller : Side)
    (acc : MmioAccess) (data : UInt64) : MailboxResult Unit :=
  let m := s.mailbox caller
  let reg := storeBytes (m.sendReg dir) (acc.addr - send0) (leBytes data.toNat acc.size)
  let s := s.setMailbox caller (m.setSendReg dir reg)
  if acc.addr + acc.size - 4 = last then mailboxSendDir dir s caller ⟨reg⟩ else ⟨s, (), []⟩

/-- A read of a receive register of direction `dir`, the first at `recv0`: a read of the first
receives a message in that direction into the caller's receive register (zeros when there is
none); every read returns bytes of the receive register.
Source: `hw/misc/apple-silicon/a7iop/mailbox/regs-v4.c` `apple_a7iop_v4_mailbox_reg_read`
(`case REG_IOP_RECV0` …), `regs-v2.c` `apple_a7iop_v2_mailbox_reg_read`
Kind: D -/
def recvRegRead (dir : Side) (recv0 : ℕ) (s : AppleA7IOP) (caller : Side) (acc : MmioAccess) :
    MailboxResult UInt64 :=
  let r : MailboxResult Unit :=
    if acc.addr = recv0 then
      let r := mailboxRecvDir dir s caller
      let reg : Fin 16 → UInt8 := match r.ret with
        | none => fun _ => 0
        | some msg => msg.data
      ⟨r.state.setMailbox caller ((r.state.mailbox caller).setRecvReg dir reg), (), r.trace⟩
    else ⟨s, (), []⟩
  ⟨r.state, UInt64.ofNat (loadBytes ((r.state.mailbox caller).recvReg dir) (acc.addr - recv0) acc.size),
    r.trace⟩

namespace V2

/-- Source: `hw/misc/apple-silicon/a7iop/mailbox/regs-v2.c` `REG_INT_MASK_SET`. Kind: D -/
def REG_INT_MASK_SET : ℕ := 0x00
/-- Source: `hw/misc/apple-silicon/a7iop/mailbox/regs-v2.c` `REG_INT_MASK_CLR`. Kind: D -/
def REG_INT_MASK_CLR : ℕ := 0x04
/-- Source: `hw/misc/apple-silicon/a7iop/mailbox/regs-v2.c` `REG_IOP_CTRL`. Kind: D -/
def REG_IOP_CTRL : ℕ := 0x08
/-- Source: `hw/misc/apple-silicon/a7iop/mailbox/regs-v2.c` `REG_IOP_SEND0`. Kind: D -/
def REG_IOP_SEND0 : ℕ := 0x10
/-- Source: `hw/misc/apple-silicon/a7iop/mailbox/regs-v2.c` `REG_IOP_SEND1`. Kind: D -/
def REG_IOP_SEND1 : ℕ := 0x14
/-- Source: `hw/misc/apple-silicon/a7iop/mailbox/regs-v2.c` `REG_IOP_RECV0`. Kind: D -/
def REG_IOP_RECV0 : ℕ := 0x18
/-- Source: `hw/misc/apple-silicon/a7iop/mailbox/regs-v2.c` `REG_IOP_RECV1`. Kind: D -/
def REG_IOP_RECV1 : ℕ := 0x1C
/-- Source: `hw/misc/apple-silicon/a7iop/mailbox/regs-v2.c` `REG_AP_CTRL`. Kind: D -/
def REG_AP_CTRL : ℕ := 0x20
/-- Source: `hw/misc/apple-silicon/a7iop/mailbox/regs-v2.c` `REG_AP_SEND0`. Kind: D -/
def REG_AP_SEND0 : ℕ := 0x30
/-- Source: `hw/misc/apple-silicon/a7iop/mailbox/regs-v2.c` `REG_AP_SEND1`. Kind: D -/
def REG_AP_SEND1 : ℕ := 0x34
/-- Source: `hw/misc/apple-silicon/a7iop/mailbox/regs-v2.c` `REG_AP_RECV0`. Kind: D -/
def REG_AP_RECV0 : ℕ := 0x38
/-- Source: `hw/misc/apple-silicon/a7iop/mailbox/regs-v2.c` `REG_AP_RECV1`. Kind: D -/
def REG_AP_RECV1 : ℕ := 0x3C

end V2

namespace V4

/-- Source: `hw/misc/apple-silicon/a7iop/mailbox/regs-v4.c` `REG_INT_MASK_SET`. Kind: D -/
def REG_INT_MASK_SET : ℕ := 0x0
/-- Source: `hw/misc/apple-silicon/a7iop/mailbox/regs-v4.c` `REG_INT_MASK_CLR`. Kind: D -/
def REG_INT_MASK_CLR : ℕ := 0x4
/-- Source: `hw/misc/apple-silicon/a7iop/mailbox/regs-v4.c` `REG_IOP_CTRL`. Kind: D -/
def REG_IOP_CTRL : ℕ := 0x8
/-- Source: `hw/misc/apple-silicon/a7iop/mailbox/regs-v4.c` `REG_AP_CTRL`. Kind: D -/
def REG_AP_CTRL : ℕ := 0xC
/-- Source: `hw/misc/apple-silicon/a7iop/mailbox/regs-v4.c` `REG_IOP_SEND0`. Kind: D -/
def REG_IOP_SEND0 : ℕ := 0x700
/-- Source: `hw/misc/apple-silicon/a7iop/mailbox/regs-v4.c` `REG_IOP_SEND1`. Kind: D -/
def REG_IOP_SEND1 : ℕ := 0x704
/-- Source: `hw/misc/apple-silicon/a7iop/mailbox/regs-v4.c` `REG_IOP_SEND2`. Kind: D -/
def REG_IOP_SEND2 : ℕ := 0x708
/-- Source: `hw/misc/apple-silicon/a7iop/mailbox/regs-v4.c` `REG_IOP_SEND3`. Kind: D -/
def REG_IOP_SEND3 : ℕ := 0x70C
/-- Source: `hw/misc/apple-silicon/a7iop/mailbox/regs-v4.c` `REG_IOP_RECV0`. Kind: D -/
def REG_IOP_RECV0 : ℕ := 0x710
/-- Source: `hw/misc/apple-silicon/a7iop/mailbox/regs-v4.c` `REG_IOP_RECV1`. Kind: D -/
def REG_IOP_RECV1 : ℕ := 0x714
/-- Source: `hw/misc/apple-silicon/a7iop/mailbox/regs-v4.c` `REG_IOP_RECV2`. Kind: D -/
def REG_IOP_RECV2 : ℕ := 0x718
/-- Source: `hw/misc/apple-silicon/a7iop/mailbox/regs-v4.c` `REG_IOP_RECV3`. Kind: D -/
def REG_IOP_RECV3 : ℕ := 0x71C
/-- Source: `hw/misc/apple-silicon/a7iop/mailbox/regs-v4.c` `REG_AP_SEND0`. Kind: D -/
def REG_AP_SEND0 : ℕ := 0x720
/-- Source: `hw/misc/apple-silicon/a7iop/mailbox/regs-v4.c` `REG_AP_SEND1`. Kind: D -/
def REG_AP_SEND1 : ℕ := 0x724
/-- Source: `hw/misc/apple-silicon/a7iop/mailbox/regs-v4.c` `REG_AP_SEND2`. Kind: D -/
def REG_AP_SEND2 : ℕ := 0x728
/-- Source: `hw/misc/apple-silicon/a7iop/mailbox/regs-v4.c` `REG_AP_SEND3`. Kind: D -/
def REG_AP_SEND3 : ℕ := 0x72C
/-- Source: `hw/misc/apple-silicon/a7iop/mailbox/regs-v4.c` `REG_AP_RECV0`. Kind: D -/
def REG_AP_RECV0 : ℕ := 0x730
/-- Source: `hw/misc/apple-silicon/a7iop/mailbox/regs-v4.c` `REG_AP_RECV1`. Kind: D -/
def REG_AP_RECV1 : ℕ := 0x734
/-- Source: `hw/misc/apple-silicon/a7iop/mailbox/regs-v4.c` `REG_AP_RECV2`. Kind: D -/
def REG_AP_RECV2 : ℕ := 0x738
/-- Source: `hw/misc/apple-silicon/a7iop/mailbox/regs-v4.c` `REG_AP_RECV3`. Kind: D -/
def REG_AP_RECV3 : ℕ := 0x73C

end V4

/-- A write to the registers shared by both versions (`INT_MASK_SET`, `INT_MASK_CLR` and the two
`CTRL`s, at the version's offsets), `none` for any other offset.
Source: `hw/misc/apple-silicon/a7iop/mailbox/regs-v4.c` `apple_a7iop_v4_mailbox_reg_write`,
`regs-v2.c` `apple_a7iop_v2_mailbox_reg_write`
Kind: D -/
def ctrlRegWrite (maskSet maskClr iopCtrl apCtrl : ℕ) (s : AppleA7IOP) (caller : Side)
    (addr : ℕ) (data : UInt64) : Option AppleA7IOP :=
  if addr = maskSet then some (appleA7iopMailboxSetIntMask s caller data.toUInt32)
  else if addr = maskClr then some (appleA7iopMailboxClearIntMask s caller data.toUInt32)
  else if addr = iopCtrl then some (appleA7iopMailboxSetIopCtrl s caller data.toUInt32)
  else if addr = apCtrl then some (appleA7iopMailboxSetApCtrl s caller data.toUInt32)
  else none

/-- A read of the registers shared by both versions, `none` for any other offset.
Source: `hw/misc/apple-silicon/a7iop/mailbox/regs-v4.c` `apple_a7iop_v4_mailbox_reg_read`,
`regs-v2.c` `apple_a7iop_v2_mailbox_reg_read`
Kind: D -/
def ctrlRegRead (maskSet maskClr iopCtrl apCtrl : ℕ) (s : AppleA7IOP) (caller : Side) (addr : ℕ) :
    Option UInt64 :=
  if addr = maskSet then some (appleA7iopMailboxGetIntMask s caller).toUInt64
  else if addr = maskClr then some (~~~appleA7iopMailboxGetIntMask s caller).toUInt64
  else if addr = iopCtrl then some (appleA7iopMailboxGetIopCtrl s caller).toUInt64
  else if addr = apCtrl then some (appleA7iopMailboxGetApCtrl s caller).toUInt64
  else none

/-- `apple_a7iop_v2_mailbox_reg_write` on the mailbox `caller`.
Source: `hw/misc/apple-silicon/a7iop/mailbox/regs-v2.c` `apple_a7iop_v2_mailbox_reg_write`
Kind: D -/
def appleA7iopV2MailboxRegWrite (s : AppleA7IOP) (caller : Side) (acc : MmioAccess)
    (data : UInt64) : MailboxResult Unit :=
  match ctrlRegWrite V2.REG_INT_MASK_SET V2.REG_INT_MASK_CLR V2.REG_IOP_CTRL V2.REG_AP_CTRL s caller
      acc.addr data with
  | some s' => ⟨s', (), []⟩
  | none =>
    if acc.addr = V2.REG_IOP_SEND0 ∨ acc.addr = V2.REG_IOP_SEND1 then
      sendRegWrite .iop V2.REG_IOP_SEND0 V2.REG_IOP_SEND1 s caller acc data
    else if acc.addr = V2.REG_AP_SEND0 ∨ acc.addr = V2.REG_AP_SEND1 then
      sendRegWrite .ap V2.REG_AP_SEND0 V2.REG_AP_SEND1 s caller acc data
    else ⟨s, (), []⟩

/-- `apple_a7iop_v2_mailbox_reg_read` on the mailbox `caller`.
Source: `hw/misc/apple-silicon/a7iop/mailbox/regs-v2.c` `apple_a7iop_v2_mailbox_reg_read`
Kind: D -/
def appleA7iopV2MailboxRegRead (s : AppleA7IOP) (caller : Side) (acc : MmioAccess) :
    MailboxResult UInt64 :=
  match ctrlRegRead V2.REG_INT_MASK_SET V2.REG_INT_MASK_CLR V2.REG_IOP_CTRL V2.REG_AP_CTRL s caller
      acc.addr with
  | some v => ⟨s, v, []⟩
  | none =>
    if acc.addr = V2.REG_IOP_RECV0 ∨ acc.addr = V2.REG_IOP_RECV1 then
      recvRegRead .iop V2.REG_IOP_RECV0 s caller acc
    else if acc.addr = V2.REG_AP_RECV0 ∨ acc.addr = V2.REG_AP_RECV1 then
      recvRegRead .ap V2.REG_AP_RECV0 s caller acc
    else ⟨s, 0, []⟩

/-- `apple_a7iop_v4_mailbox_reg_write` on the mailbox `caller`.
Source: `hw/misc/apple-silicon/a7iop/mailbox/regs-v4.c` `apple_a7iop_v4_mailbox_reg_write`
Kind: D -/
def appleA7iopV4MailboxRegWrite (s : AppleA7IOP) (caller : Side) (acc : MmioAccess)
    (data : UInt64) : MailboxResult Unit :=
  match ctrlRegWrite V4.REG_INT_MASK_SET V4.REG_INT_MASK_CLR V4.REG_IOP_CTRL V4.REG_AP_CTRL s caller
      acc.addr data with
  | some s' => ⟨s', (), []⟩
  | none =>
    if acc.addr = V4.REG_IOP_SEND0 ∨ acc.addr = V4.REG_IOP_SEND1 ∨ acc.addr = V4.REG_IOP_SEND2 ∨
        acc.addr = V4.REG_IOP_SEND3 then
      sendRegWrite .iop V4.REG_IOP_SEND0 V4.REG_IOP_SEND3 s caller acc data
    else if acc.addr = V4.REG_AP_SEND0 ∨ acc.addr = V4.REG_AP_SEND1 ∨ acc.addr = V4.REG_AP_SEND2 ∨
        acc.addr = V4.REG_AP_SEND3 then
      sendRegWrite .ap V4.REG_AP_SEND0 V4.REG_AP_SEND3 s caller acc data
    else ⟨s, (), []⟩

/-- `apple_a7iop_v4_mailbox_reg_read` on the mailbox `caller`.
Source: `hw/misc/apple-silicon/a7iop/mailbox/regs-v4.c` `apple_a7iop_v4_mailbox_reg_read`
Kind: D -/
def appleA7iopV4MailboxRegRead (s : AppleA7IOP) (caller : Side) (acc : MmioAccess) :
    MailboxResult UInt64 :=
  match ctrlRegRead V4.REG_INT_MASK_SET V4.REG_INT_MASK_CLR V4.REG_IOP_CTRL V4.REG_AP_CTRL s caller
      acc.addr with
  | some v => ⟨s, v, []⟩
  | none =>
    if acc.addr = V4.REG_IOP_RECV0 ∨ acc.addr = V4.REG_IOP_RECV1 ∨ acc.addr = V4.REG_IOP_RECV2 ∨
        acc.addr = V4.REG_IOP_RECV3 then
      recvRegRead .iop V4.REG_IOP_RECV0 s caller acc
    else if acc.addr = V4.REG_AP_RECV0 ∨ acc.addr = V4.REG_AP_RECV1 ∨ acc.addr = V4.REG_AP_RECV2 ∨
        acc.addr = V4.REG_AP_RECV3 then
      recvRegRead .ap V4.REG_AP_RECV0 s caller acc
    else ⟨s, 0, []⟩

/-! ## Runs -/

/-- `AppleA7IOPVersion`.
Source: `include/hw/misc/apple-silicon/a7iop/base.h` `AppleA7IOPVersion`
Kind: D -/
inductive AppleA7IOPVersion where
  | v2
  | v4
  deriving DecidableEq

/-- What can happen to an A7IOP's mailboxes: a send or a receive in a direction through one of
them (from the device models, as `apple_a7iop_send_ap` and the others do), or a register access
to one of them.
Source: `hw/misc/apple-silicon/a7iop/core.c`, `mailbox/core.c`, `mailbox/regs-v2.c`,
`mailbox/regs-v4.c`
Kind: D -/
inductive MailboxOp where
  | send (dir caller : Side) (msg : AppleA7IOPMessage)
  | recv (dir caller : Side)
  | regWrite (caller : Side) (acc : MmioAccess) (data : UInt64)
  | regRead (caller : Side) (acc : MmioAccess)

/-- One operation, with the register front end of the version. -/
def mailboxStep (v : AppleA7IOPVersion) (s : AppleA7IOP) : MailboxOp → AppleA7IOP × List MailboxTrace
  | .send dir caller msg => let r := mailboxSendDir dir s caller msg; (r.state, r.trace)
  | .recv dir caller => let r := mailboxRecvDir dir s caller; (r.state, r.trace)
  | .regWrite caller acc data =>
    let r := match v with
      | .v2 => appleA7iopV2MailboxRegWrite s caller acc data
      | .v4 => appleA7iopV4MailboxRegWrite s caller acc data
    (r.state, r.trace)
  | .regRead caller acc =>
    let r := match v with
      | .v2 => appleA7iopV2MailboxRegRead s caller acc
      | .v4 => appleA7iopV4MailboxRegRead s caller acc
    (r.state, r.trace)

/-- Operations one after another: the last state and every trace event, in order. -/
def mailboxRun (v : AppleA7IOPVersion) : AppleA7IOP → List MailboxOp → AppleA7IOP × List MailboxTrace
  | s, [] => (s, [])
  | s, op :: ops =>
    let r := mailboxStep v s op
    let r' := mailboxRun v r.1 ops
    (r'.1, r.2 ++ r'.2)

end QemuAppleSilicon.A7iop
