import QemuAppleSilicon.A7iop.Rtkit

/-!
# What the AP learns from the rollcall

The AP reads a rollcall of protocol 11 as the endpoints `32 * block + i` for the bits `i` of each
message's mask, and one of protocol 10 as the bits of its 52-bit mask. `RollcallV11Spec E msgs`
says what the messages must be for the AP to learn exactly `E`: blocks strictly increasing, the
union of what they announce is `E`, and only the last is marked `end`.

* `walkInv_foldl` — the invariant of the walk of `apple_rtkit_rollcall_v11_foreach` over the
  endpoints in order, one endpoint at a time: the queued blocks are below the current one,
  increasing and not `end`, and the queue with the current mask announce the endpoints walked.
* `rollcallV11Msgs_spec` — so the walk over the endpoints of an RTKit meets the specification.
* `rtkitRun_rollcall_acks` — each `ROLLCALL` from the AP releases the next queued message; the one
  after the last sends `POWER_ACK`, returns to `EP0_IDLE` and calls `boot_done`.
* `testBit_rollcallV10Mask` — the mask of protocol 10 has bit `e` set exactly for the endpoints
  `e` below 52: the field is 52 bits wide, so endpoints from 52 on (user endpoints from 20 on)
  are not announced.
-/

namespace QemuAppleSilicon.A7iop

/-! ## What a message announces -/

/-- The endpoints a block mask announces to the AP: `32 * block + i` for each bit `i < 32` set.
Source: none: the AP's reading of `rollcall_v11`
Kind: D -/
def maskEndpoints (mask block : ℕ) : Finset ℕ :=
  ((Finset.range 32).filter fun i => mask.testBit i = true).image fun i => 32 * block + i

/-- An endpoint is announced by a block mask when it lies in the block and its bit is set. -/
theorem mem_maskEndpoints {mask block e : ℕ} :
    e ∈ maskEndpoints mask block ↔ e / 32 = block ∧ mask.testBit (e % 32) = true := by
  simp only [maskEndpoints, Finset.mem_image, Finset.mem_filter, Finset.mem_range]
  constructor
  · rintro ⟨i, ⟨hi, hbit⟩, rfl⟩
    have hmod : (32 * block + i) % 32 = i := by omega
    refine ⟨by omega, ?_⟩
    rw [hmod]
    exact hbit
  · rintro ⟨hblock, hbit⟩
    exact ⟨e % 32, ⟨Nat.mod_lt e (by decide), hbit⟩, by omega⟩

/-- The empty mask announces nothing. -/
@[simp] theorem maskEndpoints_zero (block : ℕ) : maskEndpoints 0 block = ∅ := by
  ext e
  simp [mem_maskEndpoints]

/-- Setting bit `i < 32` of a block mask announces one endpoint more, `32 * block + i`. -/
theorem mem_maskEndpoints_or_two_pow {mask block i e : ℕ} (hi : i < 32) :
    e ∈ maskEndpoints (mask ||| 2 ^ i) block ↔
      e ∈ maskEndpoints mask block ∨ e = 32 * block + i := by
  simp only [mem_maskEndpoints, Nat.testBit_or, Nat.testBit_two_pow, Bool.or_eq_true,
    decide_eq_true_eq]
  constructor
  · rintro ⟨hblock, hbit | rfl⟩
    · exact Or.inl ⟨hblock, hbit⟩
    · exact Or.inr (by omega)
  · rintro (⟨hblock, hbit⟩ | rfl)
    · exact ⟨hblock, Or.inl hbit⟩
    · exact ⟨by omega, Or.inr (by omega)⟩

/-- The endpoints a `rollcall_v11` message announces.
Source: none: the AP's reading of `rollcall_v11`
Kind: D -/
def RollcallV11.endpoints (r : RollcallV11) : Finset ℕ :=
  maskEndpoints r.mask.toNat r.block

/-- What the messages of a rollcall of protocol 11 must be for the AP to learn the endpoints `E`:
one message per block in increasing order, together announcing `E`, the last and only the last
marked `end`.
Source: none: the purpose of `apple_rtkit_rollcall_v11`
Kind: D -/
structure RollcallV11Spec (E : Finset ℕ) (msgs : List RollcallV11) : Prop where
  /-- The blocks strictly increase. -/
  sorted : msgs.Pairwise fun a b => a.block < b.block
  /-- The union of what the messages announce is `E`. -/
  covers : ∀ e, e ∈ E ↔ ∃ r ∈ msgs, e ∈ r.endpoints
  /-- Exactly the last message is marked `end`. -/
  endFlags : msgs.map RollcallV11.endFlag = List.replicate (msgs.length - 1) false ++ [true]

/-! ## One endpoint of the walk of protocol 11 -/

/-- The block of an endpoint as the walk computes it in 32 bits. -/
theorem toNat_epBlock {ep : ℕ} (hep : ep < 2 ^ 32) :
    (UInt32.ofNat ep / UInt32.ofNat EP_USER_START).toNat = ep / 32 := by
  rw [UInt32.toNat_div, UInt32.toNat_ofNat', Nat.mod_eq_of_lt hep]
  rfl

/-- The bit of an endpoint in its block's mask as the walk computes it in 32 bits. -/
theorem toNat_epBit {ep : ℕ} (hep : ep < 2 ^ 32) :
    ((1 : UInt32) <<< (UInt32.ofNat ep % UInt32.ofNat EP_USER_START)).toNat = 2 ^ (ep % 32) := by
  have hmod : (UInt32.ofNat ep % UInt32.ofNat EP_USER_START).toNat = ep % 32 := by
    rw [UInt32.toNat_mod, UInt32.toNat_ofNat', Nat.mod_eq_of_lt hep]
    rfl
  have hlt : 2 ^ (ep % 32) < 2 ^ 32 := Nat.pow_lt_pow_right (by decide) (Nat.mod_lt ep (by decide))
  rw [UInt32.toNat_shiftLeft, hmod, Nat.mod_mod_of_dvd _ (Nat.dvd_refl 32), UInt32.toNat_one,
    Nat.one_shiftLeft, Nat.mod_eq_of_lt hlt]

/-- The walk queues the current mask when the endpoint opens a new block and the mask is not
empty. -/
abbrev RollcallV11Data.Flushes (d : RollcallV11Data) (ep : ℕ) : Prop :=
  UInt32.ofNat ep / UInt32.ofNat EP_USER_START ≠ d.lastBlock ∧ d.mask ≠ 0

/-- The block after one endpoint is the endpoint's. -/
theorem lastBlock_rollcallV11Foreach (d : RollcallV11Data) (ep : ℕ) :
    (rollcallV11Foreach d ep).lastBlock = UInt32.ofNat ep / UInt32.ofNat EP_USER_START :=
  rfl

/-- The mask after one endpoint: the endpoint's bit, added to the mask unless it was queued. -/
theorem mask_rollcallV11Foreach (d : RollcallV11Data) (ep : ℕ) :
    (rollcallV11Foreach d ep).mask =
      (if d.Flushes ep then 0 else d.mask) |||
        (1 : UInt32) <<< (UInt32.ofNat ep % UInt32.ofNat EP_USER_START) := by
  by_cases h : d.Flushes ep
  · simp only [rollcallV11Foreach, if_pos h]
  · simp only [rollcallV11Foreach, if_neg h]

/-- The queue after one endpoint: the mask of the block it leaves, when that is queued. -/
theorem queue_rollcallV11Foreach (d : RollcallV11Data) (ep : ℕ) :
    (rollcallV11Foreach d ep).queue =
      if d.Flushes ep then d.queue ++ [⟨d.mask, d.lastBlock.toNat % 64, false⟩] else d.queue := by
  by_cases h : d.Flushes ep
  · simp only [rollcallV11Foreach, if_pos h]
  · simp only [rollcallV11Foreach, if_neg h]

/-- The endpoints the walk's state announces: those of the queued messages and those of the
current block's mask. -/
def RollcallV11Data.Announces (d : RollcallV11Data) (e : ℕ) : Prop :=
  (∃ r ∈ d.queue, e ∈ r.endpoints) ∨ e ∈ maskEndpoints d.mask.toNat d.lastBlock.toNat

/-- One endpoint of the walk announces that endpoint more and keeps what was announced: a mask
that is queued keeps its block, one that is not is either empty or of the endpoint's block. -/
theorem announces_rollcallV11Foreach {d : RollcallV11Data} {ep : ℕ} (hlast : d.lastBlock.toNat < 64)
    (hep : ep < 2 ^ 32) (e : ℕ) :
    (rollcallV11Foreach d ep).Announces e ↔ d.Announces e ∨ e = ep := by
  have hep' : ep = 32 * (ep / 32) + ep % 32 := (Nat.div_add_mod ep 32).symm
  unfold RollcallV11Data.Announces
  rw [queue_rollcallV11Foreach, mask_rollcallV11Foreach, lastBlock_rollcallV11Foreach,
    toNat_epBlock hep, UInt32.toNat_or, toNat_epBit hep]
  by_cases hflush : d.Flushes ep
  · -- the old mask leaves with its block; the new one holds the endpoint alone
    rw [if_pos hflush, if_pos hflush, UInt32.toNat_zero, Nat.zero_or, ← Nat.zero_or (2 ^ _),
      mem_maskEndpoints_or_two_pow (Nat.mod_lt ep (by decide)), maskEndpoints_zero,
      Nat.mod_eq_of_lt hlast, ← hep']
    simp only [List.mem_append, List.mem_singleton, Finset.notMem_empty, false_or]
    constructor
    · rintro (⟨r, hr | rfl, he⟩ | rfl)
      · exact Or.inl (Or.inl ⟨r, hr, he⟩)
      · exact Or.inl (Or.inr he)
      · exact Or.inr rfl
    · rintro ((⟨r, hr, he⟩ | he) | rfl)
      · exact Or.inl ⟨r, Or.inl hr, he⟩
      · exact Or.inl ⟨_, Or.inr rfl, he⟩
      · exact Or.inr rfl
  · -- the mask stays: either the endpoint's block is the current one, or the mask is empty
    rw [if_neg hflush, if_neg hflush,
      mem_maskEndpoints_or_two_pow (Nat.mod_lt ep (by decide)), ← hep']
    have hsame : d.mask.toNat = 0 ∨ ep / 32 = d.lastBlock.toNat := by
      unfold RollcallV11Data.Flushes at hflush
      rw [not_and_or, not_not, not_not, ← UInt32.toNat_inj, ← UInt32.toNat_inj,
        toNat_epBlock hep, UInt32.toNat_zero] at hflush
      exact hflush.symm
    rcases hsame with hzero | hblock
    · rw [hzero, maskEndpoints_zero, maskEndpoints_zero]
      simp only [Finset.notMem_empty, or_false, false_or]
    · rw [hblock, or_assoc]

/-! ## The walk of protocol 11 -/

/-- What the walk over a prefix `P` of the endpoints in order has built: the current block is
below 8 and is at most the block of any later endpoint; the queued messages are of lower blocks,
in increasing order, none marked `end`; and the queue with the current mask announce `P`. -/
structure WalkInv (P : List ℕ) (d : RollcallV11Data) : Prop where
  lastBlock_lt : d.lastBlock.toNat < 8
  lastBlock_le : ∀ ep, (∀ e ∈ P, e < ep) → d.lastBlock.toNat ≤ ep / 32
  queue_lt : ∀ r ∈ d.queue, r.block < d.lastBlock.toNat ∧ r.endFlag = false
  queue_sorted : d.queue.Pairwise fun a b => a.block < b.block
  announces : ∀ e, d.Announces e ↔ e ∈ P

/-- The walk starts from nothing queued, an empty mask and block zero. -/
theorem walkInv_nil : WalkInv [] ⟨[], 0, 0⟩ where
  lastBlock_lt := by decide
  lastBlock_le _ _ := Nat.zero_le _
  queue_lt _ h := absurd h List.not_mem_nil
  queue_sorted := List.Pairwise.nil
  announces e := by
    simp [RollcallV11Data.Announces]

/-- One endpoint above all those walked, and below 256, keeps the invariant. -/
theorem WalkInv.step {P : List ℕ} {d : RollcallV11Data} {ep : ℕ} (h : WalkInv P d)
    (habove : ∀ e ∈ P, e < ep) (hep : ep < 256) :
    WalkInv (P ++ [ep]) (rollcallV11Foreach d ep) := by
  have hep32 : ep < 2 ^ 32 := lt_trans hep (by decide)
  have hblock : (rollcallV11Foreach d ep).lastBlock.toNat = ep / 32 := by
    rw [lastBlock_rollcallV11Foreach, toNat_epBlock hep32]
  have hle := h.lastBlock_le ep habove
  refine ⟨?_, ?_, ?_, ?_, ?_⟩
  · rw [hblock]
    omega
  · intro ep' habove'
    have hlt : ep < ep' := habove' ep (List.mem_append_right P (List.mem_singleton_self ep))
    rw [hblock]
    omega
  · -- a queued mask is of the block left, which is below the endpoint's
    intro r hr
    rw [queue_rollcallV11Foreach] at hr
    rw [hblock]
    split_ifs at hr with hflush
    · rcases List.mem_append.mp hr with hr | hr
      · obtain ⟨hlt, hend⟩ := h.queue_lt r hr
        exact ⟨by omega, hend⟩
      · rw [List.mem_singleton.mp hr]
        have hne := hflush.1
        rw [Ne, ← UInt32.toNat_inj, toNat_epBlock hep32] at hne
        refine ⟨?_, rfl⟩
        show d.lastBlock.toNat % 64 < ep / 32
        have := h.lastBlock_lt
        omega
    · obtain ⟨hlt, hend⟩ := h.queue_lt r hr
      exact ⟨by omega, hend⟩
  · rw [queue_rollcallV11Foreach]
    split_ifs
    · refine List.pairwise_append.mpr ⟨h.queue_sorted, List.pairwise_singleton _ _, ?_⟩
      intro a ha b hb
      rw [List.mem_singleton.mp hb]
      have := h.lastBlock_lt
      show a.block < d.lastBlock.toNat % 64
      rw [Nat.mod_eq_of_lt (by omega)]
      exact (h.queue_lt a ha).1
    · exact h.queue_sorted
  · intro e
    rw [announces_rollcallV11Foreach (by have := h.lastBlock_lt; omega) hep32, h.announces,
      List.mem_append, List.mem_singleton]

/-- The walk over the rest of the endpoints, in increasing order and below 256, keeps the
invariant. By induction on the endpoints left. -/
theorem walkInv_foldl : ∀ (rest P : List ℕ) (d : RollcallV11Data), WalkInv P d →
    (P ++ rest).Pairwise (· < ·) → (∀ e ∈ rest, e < 256) →
      WalkInv (P ++ rest) (rest.foldl rollcallV11Foreach d)
  | [], P, d, h, _, _ => by simpa using h
  | ep :: rest, P, d, h, hsorted, hlt => by
    have habove : ∀ e ∈ P, e < ep :=
      fun e he => (List.pairwise_append.mp hsorted).2.2 e he ep List.mem_cons_self
    have hstep := h.step habove (hlt ep List.mem_cons_self)
    have hsorted' : (P ++ [ep] ++ rest).Pairwise (· < ·) := by
      rwa [List.append_assoc, List.singleton_append]
    have := walkInv_foldl rest (P ++ [ep]) _ hstep hsorted'
      (fun e he => hlt e (List.mem_cons_of_mem ep he))
    rwa [List.append_assoc, List.singleton_append] at this

/-- **The walk of protocol 11 meets the specification**: over endpoints in increasing order and
below 256, the queued messages and the last one, marked `end`, have increasing blocks, announce
exactly the endpoints, and only the last is `end`.
Source: `hw/misc/apple-silicon/a7iop/rtkit.c` `apple_rtkit_rollcall_v11`
Kind: L -/
theorem rollcallV11Msgs_spec {E : Finset ℕ} {eps : List ℕ} (hsorted : eps.Pairwise (· < ·))
    (hmem : ∀ e, e ∈ eps ↔ e ∈ E) (hlt : ∀ e ∈ eps, e < 256) :
    RollcallV11Spec E (rollcallV11Msgs eps) := by
  have h := walkInv_foldl eps [] ⟨[], 0, 0⟩ walkInv_nil hsorted hlt
  rw [List.nil_append] at h
  set d := eps.foldl rollcallV11Foreach ⟨[], 0, 0⟩
  have hlast : d.lastBlock.toNat % 64 = d.lastBlock.toNat :=
    Nat.mod_eq_of_lt (lt_trans h.lastBlock_lt (by decide))
  refine ⟨?_, ?_, ?_⟩
  · refine List.pairwise_append.mpr ⟨h.queue_sorted, List.pairwise_singleton _ _, ?_⟩
    intro a ha b hb
    rw [List.mem_singleton.mp hb]
    show a.block < d.lastBlock.toNat % 64
    rw [hlast]
    exact (h.queue_lt a ha).1
  · intro e
    rw [← hmem, ← h.announces]
    simp only [RollcallV11Data.Announces, rollcallV11Msgs, List.mem_append, List.mem_singleton]
    constructor
    · rintro (⟨r, hr, he⟩ | he)
      · exact ⟨r, Or.inl hr, he⟩
      · exact ⟨_, Or.inr rfl, by rw [RollcallV11.endpoints, hlast]; exact he⟩
    · rintro ⟨r, hr | rfl, he⟩
      · exact Or.inl ⟨r, hr, he⟩
      · exact Or.inr (by rw [RollcallV11.endpoints, hlast] at he; exact he)
  · have hfalse : d.queue.map RollcallV11.endFlag = List.replicate d.queue.length false :=
      List.eq_replicate_iff.mpr ⟨List.length_map _,
        fun b hb => by
          obtain ⟨r, hr, rfl⟩ := List.mem_map.mp hb
          exact (h.queue_lt r hr).2⟩
    simp only [rollcallV11Msgs, List.map_append, List.map_singleton, List.length_append,
      List.length_singleton, Nat.add_sub_cancel]
    rw [hfalse]

example : rollcallV11Msgs [0, 1, 52] = [⟨3, 0, false⟩, ⟨0x100000, 1, true⟩] := by
  decide

/-- The endpoints of an RTKit, walked in order, meet the specification when all are below 256.
Source: `hw/misc/apple-silicon/a7iop/rtkit.c` `apple_rtkit_rollcall_v11`
Kind: L -/
theorem rollcallV11Msgs_sort_spec {E : Finset ℕ} (hlt : ∀ e ∈ E, e < 256) :
    RollcallV11Spec E (rollcallV11Msgs E.sort) :=
  rollcallV11Msgs_spec (Finset.sortedLT_sort E).pairwise (fun _ => Finset.mem_sort _)
    (fun e he => hlt e ((Finset.mem_sort _).mp he))


/-! ## The management handler during a rollcall -/

/-- The management message types are distinct. -/
theorem mgmt_types_ne : MSG_TYPE_ROLLCALL ≠ MSG_HELLO_ACK ∧ MSG_TYPE_ROLLCALL ≠ MSG_TYPE_PING ∧
    MSG_TYPE_ROLLCALL ≠ MSG_TYPE_AP_POWER ∧ MSG_TYPE_ROLLCALL ≠ MSG_TYPE_REQ_POWER := by
  decide

/-- A `ROLLCALL` from the AP with messages queued sends the next one.
Source: `hw/misc/apple-silicon/a7iop/rtkit.c` `apple_rtkit_handle_mgmt_msg` (`MSG_TYPE_ROLLCALL`)
Kind: L -/
theorem appleRtkitHandleMgmtMsg_rollcall_cons {s : AppleRTKit} {raw : UInt64} {msg : MgmtOut}
    {rest : List MgmtOut} (hs : s.ep0Status = EP0_WAIT_ROLLCALL)
    (htype : mgmtType raw = MSG_TYPE_ROLLCALL) (hq : s.rollcall = msg :: rest) :
    appleRtkitHandleMgmtMsg s raw = some ({ s with rollcall := rest }, [.send msg]) := by
  obtain ⟨h1, h2, h3, h4⟩ := mgmt_types_ne
  simp only [appleRtkitHandleMgmtMsg, htype, if_neg h1, if_neg h2, if_neg h3, if_neg h4,
    if_true, hs, ne_eq, not_true_eq_false, if_false, hq]

/-- A `ROLLCALL` from the AP with nothing queued ends the rollcall: `POWER_ACK` is sent,
`boot_done` called if the RTKit has one, and the endpoint is idle again.
Source: `hw/misc/apple-silicon/a7iop/rtkit.c` `apple_rtkit_handle_mgmt_msg` (`MSG_TYPE_ROLLCALL`)
Kind: L -/
theorem appleRtkitHandleMgmtMsg_rollcall_nil {s : AppleRTKit} {raw : UInt64}
    (hs : s.ep0Status = EP0_WAIT_ROLLCALL) (htype : mgmtType raw = MSG_TYPE_ROLLCALL)
    (hq : s.rollcall = []) :
    appleRtkitHandleMgmtMsg s raw = some ({ s with ep0Status := EP0_IDLE },
      .send (.powerAck 32) :: if s.hasBootDone then [.bootDone] else []) := by
  obtain ⟨h1, h2, h3, h4⟩ := mgmt_types_ne
  simp only [appleRtkitHandleMgmtMsg, htype, if_neg h1, if_neg h2, if_neg h3, if_neg h4,
    if_true, hs, ne_eq, not_true_eq_false, if_false, hq]

/-- `HELLO_ACK` in `EP0_WAIT_HELLO` starts the rollcall of the RTKit's protocol.
Source: `hw/misc/apple-silicon/a7iop/rtkit.c` `apple_rtkit_handle_mgmt_msg` (`MSG_HELLO_ACK`)
Kind: L -/
theorem appleRtkitHandleMgmtMsg_helloAck {s : AppleRTKit} {raw : UInt64}
    (hs : s.ep0Status = EP0_WAIT_HELLO) (htype : mgmtType raw = MSG_HELLO_ACK) :
    appleRtkitHandleMgmtMsg s raw =
      some (if s.protocolVersion ≤ 10 then appleRtkitRollcallV10 s else appleRtkitRollcallV11 s) := by
  simp only [appleRtkitHandleMgmtMsg, htype, if_true, hs, ne_eq, not_true_eq_false, if_false]
  split_ifs <;> rfl

/-- The run after a message the handler accepts. -/
theorem rtkitRun_cons_of_eq {s : AppleRTKit} {raw : UInt64} {r : AppleRTKit × List RTKitEvent}
    (h : appleRtkitHandleMgmtMsg s raw = some r) (raws : List UInt64) :
    rtkitRun s (raw :: raws) = (rtkitRun r.1 raws).map fun r' => (r'.1, r.2 ++ r'.2) := by
  simp only [rtkitRun, h, Option.bind_eq_bind, Option.bind_some]
  cases rtkitRun r.1 raws <;> rfl

/-- **Each acknowledgement releases one message**: `k` `ROLLCALL`s, no more than the queue holds,
send its first `k` messages in order and leave the rest queued. By induction on the queue.
Source: `hw/misc/apple-silicon/a7iop/rtkit.c` `apple_rtkit_handle_mgmt_msg` (`MSG_TYPE_ROLLCALL`)
Kind: L -/
theorem rtkitRun_rollcall_releases : ∀ (q : List MgmtOut) (s : AppleRTKit) (acks : List UInt64),
    s.ep0Status = EP0_WAIT_ROLLCALL → s.rollcall = q →
    (∀ a ∈ acks, mgmtType a = MSG_TYPE_ROLLCALL) → acks.length ≤ q.length →
      rtkitRun s acks =
        some ({ s with rollcall := q.drop acks.length }, (q.take acks.length).map .send)
  | _, s, [], _, hq, _, _ => by
    rw [List.length_nil, List.drop_zero, ← hq]
    rfl
  | [], _, _ :: _, _, _, _, hlen => absurd hlen (by simp)
  | msg :: q, s, a :: acks, hs, hq, hacks, hlen => by
    have ha := appleRtkitHandleMgmtMsg_rollcall_cons hs (hacks a List.mem_cons_self) hq
    rw [rtkitRun_cons_of_eq ha, rtkitRun_rollcall_releases q { s with rollcall := q } acks hs rfl
      (fun a ha => hacks a (List.mem_cons_of_mem _ ha)) (by simpa using hlen)]
    simp

/-- **The acknowledgement after the last message ends the rollcall**: one `ROLLCALL` more than the
queue holds sends every queued message in order, then `POWER_ACK`, calls `boot_done` once if the
RTKit has one, and leaves the endpoint idle with nothing queued. By induction on the queue.
Source: `hw/misc/apple-silicon/a7iop/rtkit.c` `apple_rtkit_handle_mgmt_msg` (`MSG_TYPE_ROLLCALL`)
Kind: L -/
theorem rtkitRun_rollcall_acks : ∀ (q : List MgmtOut) (s : AppleRTKit) (acks : List UInt64),
    s.ep0Status = EP0_WAIT_ROLLCALL → s.rollcall = q →
    (∀ a ∈ acks, mgmtType a = MSG_TYPE_ROLLCALL) → acks.length = q.length + 1 →
      rtkitRun s acks = some ({ s with ep0Status := EP0_IDLE, rollcall := [] },
        q.map .send ++ .send (.powerAck 32) :: if s.hasBootDone then [.bootDone] else [])
  | _, _, [], _, _, _, hlen => absurd hlen (by simp)
  | [], s, [a], hs, hq, hacks, _ => by
    rw [rtkitRun_cons_of_eq (appleRtkitHandleMgmtMsg_rollcall_nil hs (hacks a List.mem_cons_self) hq)]
    cases s
    cases hq
    simp [rtkitRun]
  | [], _, _ :: _ :: _, _, _, _, hlen => absurd hlen (by simp)
  | msg :: q, s, a :: acks, hs, hq, hacks, hlen => by
    have ha := appleRtkitHandleMgmtMsg_rollcall_cons hs (hacks a List.mem_cons_self) hq
    rw [rtkitRun_cons_of_eq ha, rtkitRun_rollcall_acks q { s with rollcall := q } acks hs rfl
      (fun a ha => hacks a (List.mem_cons_of_mem _ ha)) (by simpa using hlen)]
    simp

/-- The rollcall of protocol 11 sends its first message and queues the others.
Source: `hw/misc/apple-silicon/a7iop/rtkit.c` `apple_rtkit_rollcall_v11`
Kind: L -/
theorem appleRtkitRollcallV11_eq (s : AppleRTKit) :
    ∃ m rest, rollcallV11Msgs s.endpoints.sort = m :: rest ∧
      appleRtkitRollcallV11 s =
        ({ s with ep0Status := EP0_WAIT_ROLLCALL, rollcall := rest.map .rollcallV11 },
          [.send (.rollcallV11 m)]) := by
  unfold appleRtkitRollcallV11
  -- the messages end with the last block's, so there is a first
  cases h : rollcallV11Msgs s.endpoints.sort with
  | nil => exact absurd h (by simp [rollcallV11Msgs])
  | cons m rest => exact ⟨m, rest, rfl, rfl⟩

/-! ## The mask of protocol 10 -/

/-- One endpoint of the walk of protocol 10 sets the bit of the endpoint modulo 64 and clears
every bit from 52 on. -/
theorem testBit_rollcallV10Foreach (mask : UInt64) (ep e : ℕ) :
    (rollcallV10Foreach mask ep).toNat.testBit e =
      ((mask.toNat.testBit e || decide (ep % 64 = e)) && decide (e < 52)) := by
  have hbit : ((1 : UInt64) <<< UInt64.ofNat ep).toNat = 2 ^ (ep % 64) := by
    have hlt : 2 ^ (ep % 64) < 2 ^ 64 :=
      Nat.pow_lt_pow_right (by decide) (Nat.mod_lt ep (by decide))
    rw [UInt64.toNat_shiftLeft, UInt64.toNat_ofNat', Nat.mod_mod_of_dvd _ (by decide),
      UInt64.toNat_one, Nat.one_shiftLeft, Nat.mod_eq_of_lt hlt]
  have hmask : ROLLCALL_V10_MASK.toNat = 2 ^ 52 - 1 := rfl
  rw [rollcallV10Foreach, UInt64.toNat_and, UInt64.toNat_or, hbit, hmask, Nat.testBit_and,
    Nat.testBit_or, Nat.testBit_two_pow, Nat.testBit_two_pow_sub_one]

/-- The walk of protocol 10 from a mask of the 52-bit field: bit `e` is set when it was, or some
endpoint is `e` modulo 64, and `e` is below 52. By induction on the endpoints. -/
theorem testBit_foldl_rollcallV10Foreach : ∀ (eps : List ℕ) (mask : UInt64),
    (∀ e, mask.toNat.testBit e = true → e < 52) → ∀ e,
      ((eps.foldl rollcallV10Foreach mask).toNat.testBit e = true ↔
        (mask.toNat.testBit e = true ∨ ∃ ep ∈ eps, ep % 64 = e) ∧ e < 52)
  | [], mask, hmask, e => by
    simp only [List.foldl_nil, List.not_mem_nil, false_and, exists_false, or_false]
    exact ⟨fun h => ⟨h, hmask e h⟩, fun h => h.1⟩
  | ep :: eps, mask, _, e => by
    have hstep : ∀ e, (rollcallV10Foreach mask ep).toNat.testBit e = true → e < 52 := by
      intro e he
      rw [testBit_rollcallV10Foreach, Bool.and_eq_true, decide_eq_true_eq] at he
      exact he.2
    rw [List.foldl_cons, testBit_foldl_rollcallV10Foreach eps _ hstep e,
      testBit_rollcallV10Foreach]
    simp only [Bool.and_eq_true, Bool.or_eq_true, decide_eq_true_eq, List.mem_cons,
      exists_eq_or_imp]
    tauto

/-- **The mask of protocol 10** has bit `e` set exactly when `e` is below 52 and is an endpoint
modulo 64.
Source: `hw/misc/apple-silicon/a7iop/rtkit.c` `apple_rtkit_rollcall_v10`
Kind: L -/
theorem testBit_rollcallV10Mask (eps : List ℕ) (e : ℕ) :
    (rollcallV10Mask eps).toNat.testBit e = true ↔ e < 52 ∧ ∃ ep ∈ eps, ep % 64 = e := by
  rw [rollcallV10Mask, testBit_foldl_rollcallV10Foreach eps 0 (fun e h => by simp at h) e]
  simp only [UInt64.toNat_zero, Nat.zero_testBit, Bool.false_eq_true, false_or]
  exact and_comm

/-! ## Registered endpoints -/

/-- Registering an endpoint below 256 keeps every endpoint below 256.
Source: `hw/misc/apple-silicon/a7iop/rtkit.c` `apple_rtkit_register_ep`
Kind: L -/
theorem endpoints_lt_of_registerEp {s s' : AppleRTKit} {ep : ℕ} (hep : ep < 256)
    (hs : ∀ e ∈ s.endpoints, e < 256) (h : appleRtkitRegisterEp s ep = some s') :
    ∀ e ∈ s'.endpoints, e < 256 := by
  unfold appleRtkitRegisterEp at h
  split_ifs at h
  cases h
  intro e he
  rcases Finset.mem_insert.mp he with rfl | he
  · exact hep
  · exact hs e he

/-- So does registering a control endpoint, and a user endpoint, which is at `32 + ep` for
`ep < 224`: the endpoints of an RTKit built by `apple_rtkit_init` and registrations are below 256.
Source: `hw/misc/apple-silicon/a7iop/rtkit.c` `apple_rtkit_register_control_ep`, `apple_rtkit_register_user_ep`
Kind: L -/
theorem endpoints_lt_of_register {s s' : AppleRTKit} {ep : ℕ} (hs : ∀ e ∈ s.endpoints, e < 256)
    (h : appleRtkitRegisterControlEp s ep = some s' ∨ appleRtkitRegisterUserEp s ep = some s') :
    ∀ e ∈ s'.endpoints, e < 256 := by
  rcases h with h | h
  · unfold appleRtkitRegisterControlEp at h
    split_ifs at h with hep
    exact endpoints_lt_of_registerEp (lt_trans hep (by decide)) hs h
  · unfold appleRtkitRegisterUserEp at h
    split_ifs at h with hep
    exact endpoints_lt_of_registerEp (by rw [EP_USER_START]; omega) hs h

/-! ## The rollcall after `HELLO_ACK` -/

/-- **The rollcall tells the AP the registered endpoints**, for an RTKit in `EP0_WAIT_HELLO` whose
endpoints are below 256 (as registration keeps them). Protocol 11: the messages meet
`RollcallV11Spec`, and `HELLO_ACK` followed by one `ROLLCALL` per message sends them in order, then
`POWER_ACK`, calls `boot_done` once if there is one and leaves the endpoint idle. Protocol 10, with
the endpoints below 64: one message whose mask has bit `e` set exactly for the endpoints below 52.
Source: `hw/misc/apple-silicon/a7iop/rtkit.c` `apple_rtkit_handle_mgmt_msg`,
`apple_rtkit_rollcall_v10`, `apple_rtkit_rollcall_v11`
Kind: P -/
theorem rtkit_rollcall_announces_endpoints (s : AppleRTKit) (hello : UInt64) (acks : List UInt64)
    (hwait : s.ep0Status = EP0_WAIT_HELLO) (hE : ∀ e ∈ s.endpoints, e < 256)
    (hhello : mgmtType hello = MSG_HELLO_ACK)
    (hacks : ∀ a ∈ acks, mgmtType a = MSG_TYPE_ROLLCALL) :
    (¬ s.protocolVersion ≤ 10 →
      RollcallV11Spec s.endpoints (rollcallV11Msgs s.endpoints.sort) ∧
      (acks.length = (rollcallV11Msgs s.endpoints.sort).length →
        rtkitRun s (hello :: acks) = some ({ s with ep0Status := EP0_IDLE, rollcall := [] },
          (rollcallV11Msgs s.endpoints.sort).map (fun r => .send (.rollcallV11 r)) ++
            .send (.powerAck 32) :: if s.hasBootDone then [.bootDone] else []))) ∧
    (s.protocolVersion ≤ 10 → (∀ e ∈ s.endpoints, e < 64) →
      ∃ mask, appleRtkitHandleMgmtMsg s hello =
          some ({ s with ep0Status := EP0_WAIT_ROLLCALL }, [.send (.rollcallV10 mask)]) ∧
        ∀ e, mask.toNat.testBit e = true ↔ e ∈ s.endpoints ∧ e < 52) := by
  refine ⟨fun hv => ⟨rollcallV11Msgs_sort_spec hE, fun hlen => ?_⟩, fun hv h64 => ?_⟩
  · -- protocol 11: the first message goes out with the answer, the acknowledgements do the rest
    obtain ⟨m, rest, hmsgs, hroll⟩ := appleRtkitRollcallV11_eq s
    have hh : appleRtkitHandleMgmtMsg s hello = some (appleRtkitRollcallV11 s) := by
      rw [appleRtkitHandleMgmtMsg_helloAck hwait hhello, if_neg hv]
    have hacks' : acks.length = (rest.map MgmtOut.rollcallV11).length + 1 := by
      rw [hlen, hmsgs, List.length_map, List.length_cons]
    rw [rtkitRun_cons_of_eq hh, hroll,
      rtkitRun_rollcall_acks (rest.map .rollcallV11) _ acks rfl rfl hacks hacks', hmsgs]
    simp
  · -- protocol 10: one mask, read bit by bit
    refine ⟨rollcallV10Mask s.endpoints.sort, ?_, fun e => ?_⟩
    · rw [appleRtkitHandleMgmtMsg_helloAck hwait hhello, if_pos hv]
      rfl
    · rw [testBit_rollcallV10Mask]
      constructor
      · rintro ⟨he, ep, hep, hmod⟩
        have hep' := (Finset.mem_sort _).mp hep
        rw [Nat.mod_eq_of_lt (h64 ep hep')] at hmod
        exact ⟨hmod ▸ hep', he⟩
      · rintro ⟨he, hlt⟩
        exact ⟨hlt, e, (Finset.mem_sort _).mpr he, Nat.mod_eq_of_lt (h64 e he)⟩

/-- An RTKit with a `boot_done` and the user endpoint 20 (endpoint 52) registered, after its
`HELLO`.
Source: none: a run of `apple_rtkit_init`, `apple_rtkit_register_user_ep` and `apple_rtkit_mgmt_send_hello`
Kind: D -/
def helloUserEp20 (protocolVersion : UInt32) : AppleRTKit :=
  (appleRtkitMgmtSendHello { appleRtkitInit protocolVersion true with endpoints := {0, 1, 52} }).1

example : (appleRtkitRegisterUserEp (appleRtkitInit 11 true) 20).map (·.endpoints) =
    some (helloUserEp20 11).endpoints := by
  decide

/-- The rollcall of an RTKit with user endpoint 20 registered, answered by two `ROLLCALL`s.
Source: `hw/misc/apple-silicon/a7iop/rtkit.c` `apple_rtkit_handle_mgmt_msg`
Kind: P -/
theorem rtkit_rollcall_announces_endpoints_user_ep :
    (helloUserEp20 11).ep0Status = EP0_WAIT_HELLO ∧
      (∀ e ∈ (helloUserEp20 11).endpoints, e < 256) ∧
      mgmtType (MSG_HELLO_ACK <<< 52) = MSG_HELLO_ACK ∧
      (∀ a ∈ [MSG_TYPE_ROLLCALL <<< 52, MSG_TYPE_ROLLCALL <<< 52], mgmtType a = MSG_TYPE_ROLLCALL) ∧
      let s := helloUserEp20 11
      let acks := [MSG_TYPE_ROLLCALL <<< 52, MSG_TYPE_ROLLCALL <<< 52]
      (¬ s.protocolVersion ≤ 10 →
        RollcallV11Spec s.endpoints (rollcallV11Msgs s.endpoints.sort) ∧
        (acks.length = (rollcallV11Msgs s.endpoints.sort).length →
          rtkitRun s ((MSG_HELLO_ACK <<< 52) :: acks) =
            some ({ s with ep0Status := EP0_IDLE, rollcall := [] },
              (rollcallV11Msgs s.endpoints.sort).map (fun r => .send (.rollcallV11 r)) ++
                .send (.powerAck 32) :: if s.hasBootDone then [.bootDone] else []))) ∧
      (s.protocolVersion ≤ 10 → (∀ e ∈ s.endpoints, e < 64) →
        ∃ mask, appleRtkitHandleMgmtMsg s (MSG_HELLO_ACK <<< 52) =
            some ({ s with ep0Status := EP0_WAIT_ROLLCALL }, [.send (.rollcallV10 mask)]) ∧
          ∀ e, mask.toNat.testBit e = true ↔ e ∈ s.endpoints ∧ e < 52) := by
  have hwait : (helloUserEp20 11).ep0Status = EP0_WAIT_HELLO := rfl
  have hE : ∀ e ∈ (helloUserEp20 11).endpoints, e < 256 := by decide
  have hhello : mgmtType (MSG_HELLO_ACK <<< 52) = MSG_HELLO_ACK := by decide
  have hacks : ∀ a ∈ [MSG_TYPE_ROLLCALL <<< 52, MSG_TYPE_ROLLCALL <<< 52],
      mgmtType a = MSG_TYPE_ROLLCALL := by
    intro a ha
    simp only [List.mem_cons, List.not_mem_nil, or_false, or_self] at ha
    subst ha
    decide
  exact ⟨hwait, hE, hhello, hacks,
    rtkit_rollcall_announces_endpoints _ _ _ hwait hE hhello hacks⟩

/-- The same RTKit at protocol 10 announces endpoints 0 and 1 only: endpoint 52 does not fit the
52-bit mask.
Source: `hw/misc/apple-silicon/a7iop/rtkit.c` `apple_rtkit_rollcall_v10`
Kind: L -/
theorem rtkit_rollcall_v10_drops_endpoint_52 :
    52 ∈ (helloUserEp20 10).endpoints ∧
      appleRtkitHandleMgmtMsg (helloUserEp20 10) (MSG_HELLO_ACK <<< 52) =
        some ({ helloUserEp20 10 with ep0Status := EP0_WAIT_ROLLCALL }, [.send (.rollcallV10 3)]) ∧
      (3 : UInt64).toNat.testBit 52 = false := by
  have hsort : (helloUserEp20 10).endpoints.sort = [0, 1, 52] := by
    show ({0, 1, 52} : Finset ℕ).sort = [0, 1, 52]
    rw [Finset.sort_insert _ (by decide) (by decide), Finset.sort_insert _ (by decide) (by decide),
      Finset.sort_singleton]
  refine ⟨by decide, ?_, by decide⟩
  rw [appleRtkitHandleMgmtMsg_helloAck rfl (by decide), if_pos (by decide), appleRtkitRollcallV10,
    hsort]
  rfl

end QemuAppleSilicon.A7iop
