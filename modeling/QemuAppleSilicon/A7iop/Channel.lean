import QemuAppleSilicon.A7iop.Mailbox

/-!
# Each inbox of an A7IOP is a FIFO channel

What one operation can do to an inbox, stated once (`ChannelStep`): nothing, append the message
a send gave, remove the head and hand it out stamped with the count, or set the underflow flag
on an empty inbox. Every operation on the pair does one of these to each inbox, and the trace
events it emits say which (`mailboxStep_pairStep`); this is proved once per function of the
mailbox core and of the register front ends.

From that, by induction over any run from reset (`mailboxRun_inboxInv`): the count is the
length of the inbox modulo `2^32`, and until an underflow the inbox's trace events are a
behaviour of a FIFO channel that stamps each message it hands out with the count
(`fifoReplay`), ending at the inbox.
-/

namespace QemuAppleSilicon.A7iop

open QemuAppleSilicon.Lib AppleA7IOPMailbox AppleA7IOP

/-! ## Bytes of a message -/

theorem storeBytes_apply_of_lt (d : Fin 16 → UInt8) (off : ℕ) (bs : List UInt8) (i : Fin 16)
    (h : i.val < off) : storeBytes d off bs i = d i := by
  rw [storeBytes, if_neg (by omega)]

/-- Bytes stored inside the array read back. -/
theorem loadBytes_storeBytes (d : Fin 16 → UInt8) (off : ℕ) (bs : List UInt8)
    (h : off + bs.length ≤ 16) : loadBytes (storeBytes d off bs) off bs.length = leValue bs := by
  rw [loadBytes]
  congr 1
  apply List.ext_getElem (by simp)
  intro k hk _
  rw [List.length_ofFn] at hk
  rw [List.getElem_ofFn, byteAt, dif_pos (by omega), storeBytes, if_pos (by simp; omega),
    Nat.add_sub_cancel_left, List.getD_eq_getElem]

/-- A received message keeps bytes 0–11 as they were sent.
Source: `hw/misc/apple-silicon/a7iop/mailbox/core.c` `apple_a7iop_mailbox_recv`
Kind: L -/
theorem recvStamp_data_of_lt (msg : AppleA7IOPMessage) (count : UInt32) (i : Fin 16)
    (h : i.val < 12) : (recvStamp msg count).data i = msg.data i :=
  storeBytes_apply_of_lt _ _ _ i h

/-- A received message's word at byte 12 is the sent word or-ed with `CTRL_COUNT` of the count.
Source: `hw/misc/apple-silicon/a7iop/mailbox/core.c` `apple_a7iop_mailbox_recv`
Kind: L -/
theorem recvStamp_word (msg : AppleA7IOPMessage) (count : UInt32) :
    (recvStamp msg count).word 12 = msg.word 12 ||| CTRL_COUNT count := by
  have hload := loadBytes_storeBytes msg.data 12 (leBytes (msg.word 12 ||| CTRL_COUNT count).toNat 4)
    (by simp)
  rw [leBytes_length, leValue_leBytes_of_lt (UInt32.toNat_lt _)] at hload
  rw [AppleA7IOPMessage.word, recvStamp]
  exact (congrArg UInt32.ofNat hload).trans (UInt32.ofNat_toNat)

/-! ## What an operation does to an inbox -/

/-- The stamp a channel that numbers its messages by the queue length gives: `recvStamp` with
the length as the count. -/
def countStamp (msg : AppleA7IOPMessage) (n : ℕ) : AppleA7IOPMessage := recvStamp msg (UInt32.ofNat n)

/-- The channel event a trace event is for the inbox of `side`. -/
def MailboxTrace.event (side : Side) : MailboxTrace → Option (FifoEvent AppleA7IOPMessage)
  | .send d msg => if d = side then some (.push msg) else none
  | .recv d msg => if d = side then some (.pop msg) else none

/-- The channel events of the inbox of `side` in a trace. -/
def inboxEvents (side : Side) (tr : List MailboxTrace) : List (FifoEvent AppleA7IOPMessage) :=
  tr.filterMap (MailboxTrace.event side)

/-- **What one operation can do to an inbox**: leave it, append a message, hand out the head
stamped with the count, or find it empty and set the underflow flag; with the channel events
it emits.
Source: `hw/misc/apple-silicon/a7iop/mailbox/core.c` `apple_a7iop_mailbox_send`,
`apple_a7iop_mailbox_recv`
Kind: D -/
inductive ChannelStep : AppleA7IOPMailbox → AppleA7IOPMailbox → List (FifoEvent AppleA7IOPMessage) →
    Prop where
  | idle {m m' : AppleA7IOPMailbox} : SameInbox m m' → ChannelStep m m' []
  | push {m m' : AppleA7IOPMailbox} (a : AppleA7IOPMessage) : m'.inbox = m.inbox ++ [a] →
      m'.count = m.count + 1 → m'.underflow = m.underflow → ChannelStep m m' [.push a]
  | pop {m m' : AppleA7IOPMailbox} (a : AppleA7IOPMessage) : m.underflow = false →
      m.inbox = a :: m'.inbox → m'.count = m.count - 1 → m'.underflow = false →
      ChannelStep m m' [.pop (recvStamp a m.count)]
  | underflow {m m' : AppleA7IOPMailbox} : m.underflow = false → m.inbox = [] → m'.inbox = [] →
      m'.count = m.count → m'.underflow = true → ChannelStep m m' []

/-- An inbox left alone before a step changes nothing about it. -/
theorem ChannelStep.of_sameInbox_left {m m₁ m₂ : AppleA7IOPMailbox}
    {e : List (FifoEvent AppleA7IOPMessage)} (h₁ : SameInbox m m₁) (h : ChannelStep m₁ m₂ e) :
    ChannelStep m m₂ e := by
  have hin := h₁.inbox_eq
  have hcount := h₁.count_eq
  have hunder := h₁.underflow_eq
  cases h with
  | idle h₂ => exact .idle (h₁.trans h₂)
  | push a hi hc hu => exact .push a (by rw [hi, hin]) (by rw [hc, hcount]) (by rw [hu, hunder])
  | pop a hu hi hc hu' =>
    rw [hcount]
    exact .pop a (by rw [← hunder, hu]) (by rw [← hin, hi]) (by rw [hc, hcount]) hu'
  | underflow hu hi hi' hc hu' =>
    exact .underflow (by rw [← hunder, hu]) (by rw [← hin, hi]) hi' (by rw [hc, hcount]) hu'

/-- An inbox left alone after a step changes nothing about it. -/
theorem ChannelStep.of_sameInbox_right {m m₁ m₂ : AppleA7IOPMailbox}
    {e : List (FifoEvent AppleA7IOPMessage)} (h : ChannelStep m m₁ e) (h₂ : SameInbox m₁ m₂) :
    ChannelStep m m₂ e := by
  obtain ⟨hin, hcount, hunder⟩ := h₂
  cases h with
  | idle h₁ => exact .idle (h₁.trans ⟨hin, hcount, hunder⟩)
  | push a hi hc hu => exact .push a (by rw [hin, hi]) (by rw [hcount, hc]) (by rw [hunder, hu])
  | pop a hu hi hc hu' => exact .pop a hu (by rw [hin, hi]) (by rw [hcount, hc]) (by rw [hunder, hu'])
  | underflow hu hi hi' hc hu' =>
    exact .underflow hu hi (by rw [hin, hi']) (by rw [hcount, hc]) (by rw [hunder, hu'])

/-- Every inbox of the pair takes a channel step, with the events the trace gives it. -/
def PairStep (s s' : AppleA7IOP) (tr : List MailboxTrace) : Prop :=
  ∀ side, ChannelStep (s.mailbox side) (s'.mailbox side) (inboxEvents side tr)

/-- Both inboxes of the pair in the same state. -/
def SamePair (s s' : AppleA7IOP) : Prop := ∀ side, SameInbox (s.mailbox side) (s'.mailbox side)

theorem pairStep_of_samePair {s s' : AppleA7IOP} (h : SamePair s s') : PairStep s s' [] :=
  fun side => .idle (h side)

theorem PairStep.of_samePair_left {s s₁ s₂ : AppleA7IOP} {tr : List MailboxTrace}
    (h₁ : SamePair s s₁) (h : PairStep s₁ s₂ tr) : PairStep s s₂ tr :=
  fun side => (h side).of_sameInbox_left (h₁ side)

theorem PairStep.of_samePair_right {s s₁ s₂ : AppleA7IOP} {tr : List MailboxTrace}
    (h : PairStep s s₁ tr) (h₂ : SamePair s₁ s₂) : PairStep s s₂ tr :=
  fun side => (h side).of_sameInbox_right (h₂ side)

/-- Replacing one mailbox by one with the same inbox. -/
theorem samePair_setMailbox (s : AppleA7IOP) (caller : Side) {m : AppleA7IOPMailbox}
    (h : SameInbox (s.mailbox caller) m) : SamePair s (s.setMailbox caller m) := by
  intro side
  by_cases hside : side = caller
  · subst hside
    rw [mailbox_setMailbox_self]
    exact h
  · rw [mailbox_setMailbox_of_ne _ _ hside]
    exact SameInbox.refl _

theorem inboxEvents_send_self (side : Side) (msg : AppleA7IOPMessage) :
    inboxEvents side [.send side msg] = [.push msg] := by
  simp [inboxEvents, MailboxTrace.event]

theorem inboxEvents_recv_self (side : Side) (msg : AppleA7IOPMessage) :
    inboxEvents side [.recv side msg] = [.pop msg] := by
  simp [inboxEvents, MailboxTrace.event]

theorem inboxEvents_send_of_ne {side d : Side} (msg : AppleA7IOPMessage) (h : side ≠ d) :
    inboxEvents side [.send d msg] = [] := by
  simp [inboxEvents, MailboxTrace.event, Ne.symm h]

theorem inboxEvents_recv_of_ne {side d : Side} (msg : AppleA7IOPMessage) (h : side ≠ d) :
    inboxEvents side [.recv d msg] = [] := by
  simp [inboxEvents, MailboxTrace.event, Ne.symm h]

/-! ## The core and its wrappers -/

/-- `apple_a7iop_mailbox_send` appends to its inbox and leaves the other. -/
theorem pairStep_appleA7iopMailboxSend (s : AppleA7IOP) (dir : Side) (msg : AppleA7IOPMessage) :
    PairStep s (appleA7iopMailboxSend s dir msg).state (appleA7iopMailboxSend s dir msg).trace := by
  intro side
  simp only [appleA7iopMailboxSend]
  by_cases hside : side = dir
  · subst hside
    rw [mailbox_setMailbox_self, inboxEvents_send_self]
    exact .push msg rfl rfl rfl
  · rw [mailbox_setMailbox_of_ne _ _ hside, inboxEvents_send_of_ne _ hside]
    exact .idle (SameInbox.refl _)

/-- `apple_a7iop_mailbox_recv` pops its inbox, or sets its underflow flag, or does nothing, and
leaves the other. -/
theorem pairStep_appleA7iopMailboxRecv (s : AppleA7IOP) (dir : Side) :
    PairStep s (appleA7iopMailboxRecv s dir).state (appleA7iopMailboxRecv s dir).trace := by
  intro side
  simp only [appleA7iopMailboxRecv]
  split_ifs with hu
  · exact .idle (SameInbox.refl _)
  · -- the three outcomes of a receive with no underflow yet
    match hin : (s.mailbox dir).inbox with
    | [] =>
      by_cases hside : side = dir
      · subst hside
        rw [mailbox_setMailbox_self]
        exact .underflow (by simpa using hu) hin rfl rfl rfl
      · rw [mailbox_setMailbox_of_ne _ _ hside]
        exact .idle (SameInbox.refl _)
    | msg :: rest =>
      by_cases hside : side = dir
      · subst hside
        rw [mailbox_setMailbox_self, inboxEvents_recv_self]
        exact .pop msg (by simpa using hu) hin rfl (by simpa using hu)
      · rw [mailbox_setMailbox_of_ne _ _ hside, inboxEvents_recv_of_ne _ hside]
        exact .idle (SameInbox.refl _)

theorem pairStep_mailboxSendDir (dir : Side) (s : AppleA7IOP) (caller : Side)
    (msg : AppleA7IOPMessage) :
    PairStep s (mailboxSendDir dir s caller msg).state (mailboxSendDir dir s caller msg).trace := by
  rw [mailboxSendDir]
  split_ifs
  · exact pairStep_appleA7iopMailboxSend s dir msg
  · exact pairStep_of_samePair fun _ => SameInbox.refl _

theorem pairStep_mailboxRecvDir (dir : Side) (s : AppleA7IOP) (caller : Side) :
    PairStep s (mailboxRecvDir dir s caller).state (mailboxRecvDir dir s caller).trace := by
  rw [mailboxRecvDir]
  split_ifs
  · exact pairStep_appleA7iopMailboxRecv s dir
  · exact pairStep_of_samePair fun _ => SameInbox.refl _

/-! ## The register front ends -/

/-- The interrupt-mask and control registers leave both inboxes alone. -/
theorem samePair_ctrlRegWrite {maskSet maskClr iopCtrl apCtrl : ℕ} {s s' : AppleA7IOP}
    {caller : Side} {addr : ℕ} {data : UInt64}
    (h : ctrlRegWrite maskSet maskClr iopCtrl apCtrl s caller addr data = some s') :
    SamePair s s' := by
  simp only [ctrlRegWrite] at h
  split_ifs at h <;> cases h
  · exact samePair_setMailbox s caller ⟨rfl, rfl, rfl⟩
  · exact samePair_setMailbox s caller ⟨rfl, rfl, rfl⟩
  · exact samePair_setMailbox s caller (sameInbox_setDirEn _ _ _)
  · exact samePair_setMailbox s caller (sameInbox_setDirEn _ _ _)

/-- A send-register write sends at most one message, the one in the register. -/
theorem pairStep_sendRegWrite (dir : Side) (send0 last : ℕ) (s : AppleA7IOP) (caller : Side)
    (acc : MmioAccess) (data : UInt64) :
    PairStep s (sendRegWrite dir send0 last s caller acc data).state
      (sendRegWrite dir send0 last s caller acc data).trace := by
  have hsame := samePair_setMailbox s caller (sameInbox_setSendReg (s.mailbox caller) dir
    (storeBytes ((s.mailbox caller).sendReg dir) (acc.addr - send0) (leBytes data.toNat acc.size)))
  rw [sendRegWrite]
  split_ifs
  · exact (pairStep_mailboxSendDir _ _ _ _).of_samePair_left hsame
  · exact pairStep_of_samePair hsame

/-- A receive-register read receives at most one message, into the receive register. -/
theorem pairStep_recvRegRead (dir : Side) (recv0 : ℕ) (s : AppleA7IOP) (caller : Side)
    (acc : MmioAccess) :
    PairStep s (recvRegRead dir recv0 s caller acc).state (recvRegRead dir recv0 s caller acc).trace := by
  simp only [recvRegRead]
  split_ifs
  · exact (pairStep_mailboxRecvDir dir s caller).of_samePair_right
      (samePair_setMailbox _ caller (sameInbox_setRecvReg _ _ _))
  · exact pairStep_of_samePair fun _ => SameInbox.refl _

theorem pairStep_appleA7iopV2MailboxRegWrite (s : AppleA7IOP) (caller : Side) (acc : MmioAccess)
    (data : UInt64) :
    PairStep s (appleA7iopV2MailboxRegWrite s caller acc data).state
      (appleA7iopV2MailboxRegWrite s caller acc data).trace := by
  rw [appleA7iopV2MailboxRegWrite]
  split
  · next s' h => exact pairStep_of_samePair (samePair_ctrlRegWrite h)
  · split_ifs
    · exact pairStep_sendRegWrite _ _ _ _ _ _ _
    · exact pairStep_sendRegWrite _ _ _ _ _ _ _
    · exact pairStep_of_samePair fun _ => SameInbox.refl _

theorem pairStep_appleA7iopV2MailboxRegRead (s : AppleA7IOP) (caller : Side) (acc : MmioAccess) :
    PairStep s (appleA7iopV2MailboxRegRead s caller acc).state
      (appleA7iopV2MailboxRegRead s caller acc).trace := by
  rw [appleA7iopV2MailboxRegRead]
  split
  · exact pairStep_of_samePair fun _ => SameInbox.refl _
  · split_ifs
    · exact pairStep_recvRegRead _ _ _ _ _
    · exact pairStep_recvRegRead _ _ _ _ _
    · exact pairStep_of_samePair fun _ => SameInbox.refl _

theorem pairStep_appleA7iopV4MailboxRegWrite (s : AppleA7IOP) (caller : Side) (acc : MmioAccess)
    (data : UInt64) :
    PairStep s (appleA7iopV4MailboxRegWrite s caller acc data).state
      (appleA7iopV4MailboxRegWrite s caller acc data).trace := by
  rw [appleA7iopV4MailboxRegWrite]
  split
  · next s' h => exact pairStep_of_samePair (samePair_ctrlRegWrite h)
  · split_ifs
    · exact pairStep_sendRegWrite _ _ _ _ _ _ _
    · exact pairStep_sendRegWrite _ _ _ _ _ _ _
    · exact pairStep_of_samePair fun _ => SameInbox.refl _

theorem pairStep_appleA7iopV4MailboxRegRead (s : AppleA7IOP) (caller : Side) (acc : MmioAccess) :
    PairStep s (appleA7iopV4MailboxRegRead s caller acc).state
      (appleA7iopV4MailboxRegRead s caller acc).trace := by
  rw [appleA7iopV4MailboxRegRead]
  split
  · exact pairStep_of_samePair fun _ => SameInbox.refl _
  · split_ifs
    · exact pairStep_recvRegRead _ _ _ _ _
    · exact pairStep_recvRegRead _ _ _ _ _
    · exact pairStep_of_samePair fun _ => SameInbox.refl _

/-- **Every operation is a channel step of each inbox**, with the events its trace gives. -/
theorem mailboxStep_pairStep (v : AppleA7IOPVersion) (s : AppleA7IOP) (op : MailboxOp) :
    PairStep s (mailboxStep v s op).1 (mailboxStep v s op).2 := by
  cases op with
  | send dir caller msg => exact pairStep_mailboxSendDir dir s caller msg
  | recv dir caller => exact pairStep_mailboxRecvDir dir s caller
  | regWrite caller acc data =>
    cases v
    · exact pairStep_appleA7iopV2MailboxRegWrite s caller acc data
    · exact pairStep_appleA7iopV4MailboxRegWrite s caller acc data
  | regRead caller acc =>
    cases v
    · exact pairStep_appleA7iopV2MailboxRegRead s caller acc
    · exact pairStep_appleA7iopV4MailboxRegRead s caller acc

/-! ## The inbox invariant -/

/-- The invariant of an inbox with the channel events it has seen: the count is the length
modulo `2^32`, and until an underflow the events are a behaviour of the channel that ends at
the inbox. -/
def InboxInv (m : AppleA7IOPMailbox) (evs : List (FifoEvent AppleA7IOPMessage)) : Prop :=
  m.count.toNat = m.inbox.length % 2 ^ 32 ∧
    (m.underflow = false → fifoReplay countStamp evs [] = some m.inbox)

/-- A count that is the length modulo `2^32` is the length as a 32-bit value. -/
theorem count_eq_ofNat_length {m : AppleA7IOPMailbox} (h : m.count.toNat = m.inbox.length % 2 ^ 32) :
    m.count = UInt32.ofNat m.inbox.length :=
  UInt32.toNat.inj (by rw [h, UInt32.toNat_ofNat'])

/-- **One step keeps the invariant**, case by case on what the step did to the inbox. -/
theorem ChannelStep.inboxInv {m m' : AppleA7IOPMailbox} {e evs : List (FifoEvent AppleA7IOPMessage)}
    (h : ChannelStep m m' e) (hi : InboxInv m evs) : InboxInv m' (evs ++ e) := by
  obtain ⟨hcount, hreplay⟩ := hi
  cases h with
  | idle hsame =>
    rw [List.append_nil, InboxInv, hsame.inbox_eq, hsame.count_eq, hsame.underflow_eq]
    exact ⟨hcount, hreplay⟩
  | push a hin hc hu =>
    refine ⟨?_, fun hu' => ?_⟩
    · rw [hc, hin, UInt32.toNat_add, hcount, List.length_append, List.length_singleton]
      simp [Nat.add_mod]
    · rw [hin]
      exact fifoReplay_push countStamp (hreplay (hu ▸ hu')) a
  | pop a hu hin hc hu' =>
    have hlen := congrArg List.length hin
    rw [List.length_cons] at hlen
    refine ⟨?_, fun _ => ?_⟩
    · -- the count and the length drop together, wrapping at zero alike
      rw [hc, UInt32.toNat_sub, hcount, hlen]
      simp only [UInt32.toNat_one]
      omega
    · have hstamp : recvStamp a m.count = countStamp a (m'.inbox.length + 1) := by
        rw [countStamp, ← hlen, count_eq_ofNat_length hcount]
      rw [hstamp]
      exact fifoReplay_pop countStamp (hin ▸ hreplay hu)
  | underflow hu hin hin' hc hu' =>
    refine ⟨by rw [hc, hcount, hin, hin'], fun h => ?_⟩
    rw [hu'] at h
    cases h

theorem inboxEvents_append (side : Side) (tr₁ tr₂ : List MailboxTrace) :
    inboxEvents side (tr₁ ++ tr₂) = inboxEvents side tr₁ ++ inboxEvents side tr₂ :=
  List.filterMap_append

/-- **Every run keeps the invariant**: by induction on the operations, one
`ChannelStep.inboxInv` per step. -/
theorem mailboxRun_inboxInv (v : AppleA7IOPVersion) (side : Side) (ops : List MailboxOp) :
    ∀ (s : AppleA7IOP) (evs : List (FifoEvent AppleA7IOPMessage)), InboxInv (s.mailbox side) evs →
      InboxInv ((mailboxRun v s ops).1.mailbox side) (evs ++ inboxEvents side (mailboxRun v s ops).2) := by
  induction ops with
  | nil => intro s evs h; simpa [mailboxRun, inboxEvents] using h
  | cons op ops ih =>
    intro s evs h
    have hstep := (mailboxStep_pairStep v s op side).inboxInv h
    have hrest := ih _ _ hstep
    rw [mailboxRun, inboxEvents_append, ← List.append_assoc]
    exact hrest

/-- A reset inbox satisfies the invariant with no events. -/
theorem inboxInv_reset (m : AppleA7IOPMailbox) : InboxInv (appleA7iopMailboxReset m) [] :=
  ⟨rfl, fun _ => rfl⟩

/-! ## The control register -/

/-- The control bits of an enable flag, a full and an empty flag and a count up to fifteen: each
reads back from its own bits. The sixty-four cases are checked one by one. -/
theorem ctrl_bits : ∀ (en full empty : Bool) (k : Fin 16),
    let v := (if en = true then CTRL_ENABLE else 0) |||
      ((if full = true then CTRL_FULL else 0) ||| (if empty = true then CTRL_EMPTY else 0) |||
        CTRL_COUNT (UInt32.ofNat k))
    (v &&& CTRL_EMPTY ≠ 0 ↔ empty = true) ∧ (v &&& CTRL_FULL ≠ 0 ↔ full = true) ∧
      (v >>> CTRL_COUNT_SHIFT) &&& MAX_MESSAGE_COUNT = UInt32.ofNat k := by
  decide

/-- `MIN(count, MAX_MESSAGE_COUNT)`, as a number. -/
theorem toNat_min_maxMessageCount (c : UInt32) : (min c MAX_MESSAGE_COUNT).toNat = min c.toNat 15 := by
  show (if c ≤ MAX_MESSAGE_COUNT then c else MAX_MESSAGE_COUNT).toNat = min c.toNat 15
  have hmax : MAX_MESSAGE_COUNT.toNat = 15 := rfl
  split
  · next hle =>
    rw [UInt32.le_iff_toNat_le, hmax] at hle
    exact (Nat.min_eq_left hle).symm
  · next hgt =>
    rw [UInt32.le_iff_toNat_le, hmax] at hgt
    rw [hmax, Nat.min_eq_right (by omega)]

/-- **What the `CTRL` register reads** before an underflow: `EMPTY` exactly for an empty inbox,
`FULL` exactly from fifteen on, and the count up to fifteen.
Source: `hw/misc/apple-silicon/a7iop/mailbox/core.c` `apple_a7iop_mailbox_ctrl`
Kind: L -/
theorem mailboxGetCtrl_spec (dir : Side) (s : AppleA7IOP) (caller : Side)
    (hu : (s.mailbox dir).underflow = false) :
    (mailboxGetCtrl dir s caller &&& CTRL_EMPTY ≠ 0 ↔ (s.mailbox dir).inbox = []) ∧
      (mailboxGetCtrl dir s caller &&& CTRL_FULL ≠ 0 ↔ MAX_MESSAGE_COUNT ≤ (s.mailbox dir).count) ∧
      (mailboxGetCtrl dir s caller >>> CTRL_COUNT_SHIFT) &&& MAX_MESSAGE_COUNT =
        min (s.mailbox dir).count MAX_MESSAGE_COUNT := by
  have hk : (min (s.mailbox dir).count MAX_MESSAGE_COUNT).toNat < 16 := by
    rw [toNat_min_maxMessageCount]
    omega
  have hmin : min (s.mailbox dir).count MAX_MESSAGE_COUNT =
      UInt32.ofNat (⟨_, hk⟩ : Fin 16) := UInt32.ofNat_toNat.symm
  -- the case of `ctrl_bits` at this mailbox's flags
  obtain ⟨he, hf, hc⟩ := ctrl_bits ((s.mailbox caller).dirEn dir)
    (decide (MAX_MESSAGE_COUNT ≤ (s.mailbox dir).count)) (decide ((s.mailbox dir).inbox = [])) ⟨_, hk⟩
  simp only [decide_eq_true_eq, ← hmin] at he hf hc
  rw [mailboxGetCtrl, appleA7iopMailboxCtrl,
    if_neg (show ¬ (s.mailbox dir).underflow = true by simp [hu])]
  exact ⟨he, hf, hc⟩

/-! ## Runs from reset -/

/-- **Each inbox of an A7IOP is a FIFO channel**, over any operations from reset through either
register front end, as long as the inbox has not underflowed and holds fewer than `2^32`
messages: its count is its length; its events are a behaviour of the channel that stamps each
message it hands out with the count, ending at the inbox, so the messages received are the
messages sent, in order, each once, stamped, followed by those still queued; and its `CTRL`
register reads `EMPTY`, `FULL` and the count accordingly.
Source: `hw/misc/apple-silicon/a7iop/mailbox/core.c`, `mailbox/regs-v2.c`, `mailbox/regs-v4.c`,
`a7iop/core.c`
Kind: P -/
theorem a7iop_inbox_fifo (v : AppleA7IOPVersion) (s₀ : AppleA7IOP) (ops : List MailboxOp)
    (side caller : Side)
    (hunder : ((mailboxRun v s₀.reset ops).1.mailbox side).underflow = false)
    (hlen : ((mailboxRun v s₀.reset ops).1.mailbox side).inbox.length < 2 ^ 32) :
    let r := mailboxRun v s₀.reset ops
    let m := r.1.mailbox side
    let evs := inboxEvents side r.2
    m.count.toNat = m.inbox.length ∧
      fifoReplay countStamp evs [] = some m.inbox ∧
      (∃ sent, FifoEvent.pushed evs = sent ++ m.inbox ∧
        List.Forall₂ (fun b a => ∃ n, b = countStamp a n) (FifoEvent.popped evs) sent) ∧
      (mailboxGetCtrl side r.1 caller &&& CTRL_EMPTY ≠ 0 ↔ m.inbox = []) ∧
      (mailboxGetCtrl side r.1 caller &&& CTRL_FULL ≠ 0 ↔ 15 ≤ m.inbox.length) ∧
      (mailboxGetCtrl side r.1 caller >>> CTRL_COUNT_SHIFT) &&& MAX_MESSAGE_COUNT =
        UInt32.ofNat (min m.inbox.length 15) := by
  intro r m evs
  obtain ⟨hcount, hreplay⟩ := mailboxRun_inboxInv v side ops s₀.reset []
    (by rw [mailbox_reset]; exact inboxInv_reset _)
  rw [List.nil_append] at hreplay
  have hc : m.count.toNat = m.inbox.length := by rw [hcount, Nat.mod_eq_of_lt hlen]
  have hrep : fifoReplay countStamp evs [] = some m.inbox := hreplay hunder
  obtain ⟨he, hf, hcnt⟩ := mailboxGetCtrl_spec side r.1 caller hunder
  refine ⟨hc, hrep, ?_, he, ?_, ?_⟩
  · simpa using fifoReplay_sound countStamp evs hrep
  · rw [hf, UInt32.le_iff_toNat_le, hc]
    rfl
  · rw [hcnt]
    apply UInt32.toNat.inj
    rw [toNat_min_maxMessageCount, hc, UInt32.toNat_ofNat', Nat.mod_eq_of_lt (by omega)]

/-- An A7IOP whose mailboxes hold nothing. -/
def idleA7iop : AppleA7IOP :=
  let m : AppleA7IOPMailbox := ⟨[], 0, false, false, false, 0, fun _ => 0, fun _ => 0, fun _ => 0,
    fun _ => 0⟩
  ⟨m, m⟩

/-- The AP writes a message into the IOP direction through the v4 send registers of its mailbox
(eight bytes at `SEND0`, then eight at `SEND2`, which sends it), the IOP reads it through
`RECV0` of its own, and the AP sends another directly. -/
def exchangeOps : List MailboxOp :=
  [.regWrite .ap ⟨V4.REG_IOP_SEND0, 8, Or.inr rfl, by decide⟩ 0x1122334455667788,
   .regWrite .ap ⟨V4.REG_IOP_SEND2, 8, Or.inr rfl, by decide⟩ 0x99AABBCC00000000,
   .regRead .iop ⟨V4.REG_IOP_RECV0, 8, Or.inr rfl, by decide⟩,
   .send .iop .ap ⟨fun _ => 7⟩]

theorem a7iop_inbox_fifo_v4_exchange :
    ((mailboxRun .v4 idleA7iop.reset exchangeOps).1.mailbox .iop).underflow = false ∧
      ((mailboxRun .v4 idleA7iop.reset exchangeOps).1.mailbox .iop).inbox.length < 2 ^ 32 ∧
      let r := mailboxRun .v4 idleA7iop.reset exchangeOps
      let m := r.1.mailbox .iop
      let evs := inboxEvents .iop r.2
      m.count.toNat = m.inbox.length ∧
        fifoReplay countStamp evs [] = some m.inbox ∧
        (∃ sent, FifoEvent.pushed evs = sent ++ m.inbox ∧
          List.Forall₂ (fun b a => ∃ n, b = countStamp a n) (FifoEvent.popped evs) sent) ∧
        (mailboxGetCtrl .iop r.1 .ap &&& CTRL_EMPTY ≠ 0 ↔ m.inbox = []) ∧
        (mailboxGetCtrl .iop r.1 .ap &&& CTRL_FULL ≠ 0 ↔ 15 ≤ m.inbox.length) ∧
        (mailboxGetCtrl .iop r.1 .ap >>> CTRL_COUNT_SHIFT) &&& MAX_MESSAGE_COUNT =
          UInt32.ofNat (min m.inbox.length 15) := by
  have hunder : ((mailboxRun .v4 idleA7iop.reset exchangeOps).1.mailbox .iop).underflow = false := by
    decide
  have hlen : ((mailboxRun .v4 idleA7iop.reset exchangeOps).1.mailbox .iop).inbox.length < 2 ^ 32 := by
    decide
  exact ⟨hunder, hlen, a7iop_inbox_fifo .v4 idleA7iop exchangeOps .iop .ap hunder hlen⟩

/-- A send through an enabled direction leaves the caller's direction enabled. -/
theorem dirEn_appleA7iopMailboxSend (s : AppleA7IOP) (dir caller : Side) (msg : AppleA7IOPMessage) :
    ((appleA7iopMailboxSend s dir msg).state.mailbox caller).dirEn dir = (s.mailbox caller).dirEn dir := by
  simp only [appleA7iopMailboxSend]
  by_cases h : caller = dir
  · subst h
    rw [mailbox_setMailbox_self]
    cases caller <;> rfl
  · rw [mailbox_setMailbox_of_ne _ _ h]

/-- **Sends through an enabled direction, one after another**: each appends its message and
counts it, the count as a 32-bit value. By induction on the number of sends. -/
theorem mailboxRun_sends (v : AppleA7IOPVersion) (dir caller : Side) (msg : AppleA7IOPMessage) :
    ∀ (n : ℕ) (s : AppleA7IOP), (s.mailbox caller).dirEn dir = true →
      let m := (mailboxRun v s (List.replicate n (.send dir caller msg))).1.mailbox dir
      m.inbox = (s.mailbox dir).inbox ++ List.replicate n msg ∧
        m.count = (s.mailbox dir).count + UInt32.ofNat n ∧ m.underflow = (s.mailbox dir).underflow := by
  intro n
  induction n with
  | zero =>
    intro s _
    simp [mailboxRun]
  | succ n ih =>
    intro s hen
    have hstep : mailboxSendDir dir s caller msg = appleA7iopMailboxSend s dir msg := by
      rw [mailboxSendDir, if_pos hen]
    have hen' := (dirEn_appleA7iopMailboxSend s dir caller msg).trans hen
    obtain ⟨hin, hcount, hunder⟩ := ih _ hen'
    -- the first send, then the rest from the state it leaves
    have hfirst : (mailboxRun v s (List.replicate (n + 1) (.send dir caller msg))).1 =
        (mailboxRun v (appleA7iopMailboxSend s dir msg).state
          (List.replicate n (.send dir caller msg))).1 := by
      rw [List.replicate_succ, mailboxRun, mailboxStep, hstep]
    simp only [appleA7iopMailboxSend, mailbox_setMailbox_self] at hin hcount hunder
    dsimp only
    rw [hfirst]
    refine ⟨by rw [appleA7iopMailboxSend, hin, List.append_assoc, List.singleton_append,
      List.replicate_succ], ?_, hunder⟩
    rw [appleA7iopMailboxSend, hcount, UInt32.add_assoc]
    congr 1
    apply UInt32.toNat.inj
    simp [Nat.add_comm]

/-- **The count wraps**: after `2^32` sends to the IOP inbox from reset, with no receive, the
inbox holds `2^32` messages and its count is `0`.
Source: `hw/misc/apple-silicon/a7iop/mailbox/core.c` `apple_a7iop_mailbox_send` (`s->count++`)
Kind: P -/
theorem a7iop_count_wraps :
    let m := (mailboxRun .v4 idleA7iop.reset
      (List.replicate (2 ^ 32) (.send .iop .ap ⟨fun _ => 0⟩))).1.mailbox .iop
    m.underflow = false ∧ m.inbox.length = 2 ^ 32 ∧ m.count = 0 := by
  obtain ⟨hin, hcount, hunder⟩ := mailboxRun_sends .v4 .iop .ap ⟨fun _ => 0⟩ (2 ^ 32)
    idleA7iop.reset rfl
  refine ⟨hunder.trans rfl, ?_, hcount.trans (by decide)⟩
  rw [hin, List.length_append, List.length_replicate]
  rfl

end QemuAppleSilicon.A7iop
