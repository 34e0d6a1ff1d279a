import QemuAppleSilicon.I2c.AppleI2c

/-!
# What the Apple I2C controller asks of the bus

`I2CBus.recording` wraps the devices so that the bus state carries the list of calls the
controller has made (`i2c_start_transfer`, `i2c_send`, `i2c_recv`, `i2c_end_transfer`), each with
the answer it got. Running the controller over it gives the transcript of a command stream, and
the transcript can be held against what the commands ask for.

Much of it is what they ask for. A command only appends to the transcript, the bytes a `READ`
receives are the bytes it pushes onto the RX FIFO, in order, and `SMSTA`'s NAK bit is set exactly
when a call was refused (`appleI2cMtxfifo_nakFollows`, over whole streams
`appleI2cRun_nakFollows`).

The controller keeps no address between commands, though: it recomputes one from the low byte of
every command word. A change of direction within a transaction therefore restarts the bus at the
address in the command that asks for it, the length of a `READ` or the byte to be sent, whatever
device the `START` named; and a restart that is refused `break`s out before the `STOP` handling,
so the transfer stays open (`apple_i2c_turnaround_restarts_at_command_byte`).
-/

namespace QemuAppleSilicon.I2c

open QemuAppleSilicon.Lib

/-- A call the controller makes on the bus, with the answer: a start (`refused` when no device
answered), a byte sent (`nak` when it was not acknowledged), a byte received, the end of the
transfer.
Source: `include/hw/i2c/i2c.h` `i2c_start_transfer`, `i2c_send`, `i2c_recv`, `i2c_end_transfer`
Kind: D -/
inductive I2CCall
  | start (address : UInt8) (isRecv : Bool) (refused : Bool)
  | send (data : UInt8) (nak : Bool)
  | recv (data : UInt8)
  | finish
  deriving DecidableEq, Repr

/-- The call was a start no device answered or a byte the device did not acknowledge.
Source: `include/hw/i2c/i2c.h` `i2c_start_transfer`, `i2c_send`
Kind: D -/
def I2CCall.refused : I2CCall → Bool
  | .start _ _ refused => refused
  | .send _ nak => nak
  | _ => false

variable {σ : Type}

/-- The devices, with every call made on them appended to a log. -/
def I2CBus.recording (bus : I2CBus σ) : I2CBus (σ × List I2CCall) where
  startTransfer st address isRecv :=
    let (dev, err) := bus.startTransfer st.1 address isRecv
    ((dev, st.2 ++ [.start address isRecv err]), err)
  recv st :=
    let (dev, b) := bus.recv st.1
    ((dev, st.2 ++ [.recv b]), b)
  send st data :=
    let (dev, nak) := bus.send st.1 data
    ((dev, st.2 ++ [.send data nak]), nak)
  endTransfer st := (bus.endTransfer st.1, st.2 ++ [.finish])

section recording

variable (bus : I2CBus σ) (st : σ × List I2CCall)

@[simp] theorem I2CBus.recording_startTransfer (address : UInt8) (isRecv : Bool) :
    bus.recording.startTransfer st address isRecv =
      (((bus.startTransfer st.1 address isRecv).1,
          st.2 ++ [.start address isRecv (bus.startTransfer st.1 address isRecv).2]),
        (bus.startTransfer st.1 address isRecv).2) := rfl

@[simp] theorem I2CBus.recording_recv :
    bus.recording.recv st = (((bus.recv st.1).1, st.2 ++ [.recv (bus.recv st.1).2]),
      (bus.recv st.1).2) := rfl

@[simp] theorem I2CBus.recording_send (data : UInt8) :
    bus.recording.send st data =
      (((bus.send st.1 data).1, st.2 ++ [.send data (bus.send st.1 data).2]),
        (bus.send st.1 data).2) := rfl

@[simp] theorem I2CBus.recording_endTransfer :
    bus.recording.endTransfer st = (bus.endTransfer st.1, st.2 ++ [.finish]) := rfl

end recording

/-! ## The NAK bit of `SMSTA` -/

/-- Source: `hw/i2c/apple_i2c.c` `kSMSTAmtn`. Kind: L -/
theorem bit_kSMSTAmtn {k : ℕ} : Bit kSMSTAmtn k ↔ k = 21 := by
  rw [kSMSTAmtn, bit_shiftLeft (n := 21) (by decide), bit_one]
  simp only [UInt32.reduceToNat]
  omega

/-- Setting bits of `SMSTA`. -/
@[simp] theorem bit_orReg_smsta (s : AppleI2CState σ) (bits : UInt32) (k : ℕ) :
    Bit ((s.orReg REG_SMSTA bits).reg REG_SMSTA) k ↔ Bit (s.reg REG_SMSTA) k ∨ Bit bits k := by
  simp [AppleI2CState.orReg, AppleI2CState.setReg]

@[simp] theorem AppleI2CState.orReg_bus (s : AppleI2CState σ) (addr : ℕ) (bits : UInt32) :
    (s.orReg addr bits).bus = s.bus := rfl

@[simp] theorem AppleI2CState.orReg_xip (s : AppleI2CState σ) (addr : ℕ) (bits : UInt32) :
    (s.orReg addr bits).xip = s.xip := rfl

@[simp] theorem AppleI2CState.orReg_isRecv (s : AppleI2CState σ) (addr : ℕ) (bits : UInt32) :
    (s.orReg addr bits).isRecv = s.isRecv := rfl

/-- Source: `hw/i2c/apple_i2c.c` `apple_i2c_update_irq`. Kind: L -/
@[simp] theorem appleI2cUpdateIrq_reg (s : AppleI2CState σ) : (appleI2cUpdateIrq s).reg = s.reg := by
  simp only [appleI2cUpdateIrq]
  split <;> rfl

/-- Source: `hw/i2c/apple_i2c.c` `apple_i2c_update_irq`. Kind: L -/
@[simp] theorem appleI2cUpdateIrq_bus (s : AppleI2CState σ) : (appleI2cUpdateIrq s).bus = s.bus := by
  simp only [appleI2cUpdateIrq]
  split <;> rfl

/-- The other status bits a command sets are not the NAK bit.
Source: `hw/i2c/apple_i2c.c` `kSMSTAxip`, `kSMSTAxen`, `kSMSTAmrf`, `kSMSTAmrne`
Kind: L -/
theorem not_bit_status_21 :
    ¬ Bit kSMSTAxip 21 ∧ ¬ Bit kSMSTAxen 21 ∧ ¬ Bit kSMSTAmrf 21 ∧ ¬ Bit kSMSTAmrne 21 := by
  decide

/-- `s'` extends the transcript of `s` by `calls`, and has the NAK bit set iff `s` had it or one
of `calls` was refused.
Source: `hw/i2c/apple_i2c.c` `apple_i2c_reg_write`
Kind: D -/
def NakFollows (s s' : AppleI2CState (σ × List I2CCall)) (calls : List I2CCall) : Prop :=
  s'.bus.2 = s.bus.2 ++ calls ∧
    (Bit (s'.reg REG_SMSTA) 21 ↔ Bit (s.reg REG_SMSTA) 21 ∨ ∃ c ∈ calls, c.refused = true)

theorem NakFollows.refl (s : AppleI2CState (σ × List I2CCall)) : NakFollows s s [] := by
  simp [NakFollows]

theorem NakFollows.trans {s₁ s₂ s₃ : AppleI2CState (σ × List I2CCall)} {c₁ c₂ : List I2CCall}
    (h₁ : NakFollows s₁ s₂ c₁) (h₂ : NakFollows s₂ s₃ c₂) : NakFollows s₁ s₃ (c₁ ++ c₂) := by
  obtain ⟨hlog₁, hbit₁⟩ := h₁
  obtain ⟨hlog₂, hbit₂⟩ := h₂
  refine ⟨by rw [hlog₂, hlog₁, List.append_assoc], ?_⟩
  rw [hbit₂, hbit₁]
  simp only [List.mem_append, or_and_right, exists_or, or_assoc]

/-! ## What each piece of a command appends -/

section transcript

variable (bus : I2CBus σ)

/-- `STOP` in a transaction ends the transfer: one `finish`, and the NAK bit is left alone.
Source: `hw/i2c/apple_i2c.c` `apple_i2c_reg_write`
Kind: L -/
theorem appleI2cMtxfifoStop_nakFollows (s : AppleI2CState (σ × List I2CCall)) (value : UInt32) :
    NakFollows s (appleI2cMtxfifoStop bus.recording s value)
      (if value &&& kMTXFIFOStop ≠ 0 ∧ s.xip then [.finish] else []) := by
  unfold appleI2cMtxfifoStop
  split_ifs
  · simp [NakFollows, not_bit_status_21.2.1, I2CCall.refused]
  · exact NakFollows.refl s

/-- The bytes the loop of a `READ` receives are the bytes it pushes onto the FIFO, in order.
Source: `hw/i2c/apple_i2c.c` `apple_i2c_reg_write`
Kind: L -/
theorem appleI2cRecvLoop_recording {n : ℕ} {st st' : σ × List I2CCall} {fifo fifo' : List UInt8}
    (h : appleI2cRecvLoop bus.recording n st fifo = some (st', fifo')) :
    ∃ bs, fifo' = fifo ++ bs ∧ st'.2 = st.2 ++ bs.map .recv := by
  refine appleI2cRecvLoop_induction bus.recording
    (fun _ st₁ fifo₁ => ∃ bs, fifo₁ = fifo ++ bs ∧ st₁.2 = st.2 ++ bs.map .recv) ?_ h
    ⟨[], by simp, by simp⟩ (k := 0)
  rintro k st₁ fifo₁ - ⟨bs, rfl, hlog⟩
  exact ⟨bs ++ [(bus.recv st₁.1).2], by simp, by simp [hlog]⟩

/-- A start no device answered: the call is logged and the NAK bit set.
Source: `hw/i2c/apple_i2c.c` `apple_i2c_reg_write`
Kind: L -/
theorem nakFollows_start_refused (s : AppleI2CState (σ × List I2CCall)) (dev : σ)
    (address : UInt8) (isRecv : Bool) :
    NakFollows s
      ({ s with isRecv := isRecv, bus := (dev, s.bus.2 ++ [I2CCall.start address isRecv true]) }.orReg
        REG_SMSTA kSMSTAmtn) [.start address isRecv true] := by
  refine ⟨rfl, ?_⟩
  simp [I2CCall.refused, bit_kSMSTAmtn]

/-- A start a device answered: the call is logged and the NAK bit left alone, whether the
transaction is marked open here or was open already.
Source: `hw/i2c/apple_i2c.c` `apple_i2c_reg_write`
Kind: L -/
theorem nakFollows_start_answered (s : AppleI2CState (σ × List I2CCall)) (dev : σ)
    (address : UInt8) (isRecv : Bool) :
    NakFollows s
        { s with isRecv := isRecv, bus := (dev, s.bus.2 ++ [I2CCall.start address isRecv false]) }
        [.start address isRecv false] ∧
      NakFollows s
        ({ s with
            xip := true
            isRecv := isRecv
            bus := (dev, s.bus.2 ++ [I2CCall.start address isRecv false]) }.orReg
          REG_SMSTA kSMSTAxip)
        [.start address isRecv false] := by
  constructor <;> refine ⟨rfl, ?_⟩ <;> simp [I2CCall.refused, not_bit_status_21]

/-- A turnaround restarts the bus when the direction changes, and the NAK bit is set, as the
command sets it, when the restart is refused.
Source: `hw/i2c/apple_i2c.c` `apple_i2c_reg_write`
Kind: L -/
theorem appleI2cTurnaround_nakFollows (s : AppleI2CState (σ × List I2CCall)) (address : UInt8)
    (isRecv : Bool) :
    let t := appleI2cTurnaround bus.recording s address isRecv
    NakFollows s (if t.2 then t.1.orReg REG_SMSTA kSMSTAmtn else t.1)
      (if s.isRecv ≠ isRecv then [.start address isRecv t.2] else []) := by
  by_cases hdir : s.isRecv = isRecv
  · simp [appleI2cTurnaround_of_eq _ _ _ hdir, hdir, NakFollows.refl]
  · simp only [appleI2cTurnaround_of_ne _ _ _ hdir, I2CBus.recording_startTransfer, ne_eq, hdir,
      not_false_eq_true, if_true]
    cases (bus.startTransfer s.bus.1 address isRecv).2
    · exact (nakFollows_start_answered s _ address isRecv).1
    · exact nakFollows_start_refused s _ address isRecv

/-- What a command appends before its `STOP` handling, followed by that handling. -/
theorem exists_nakFollows_stop {s s₁ s₂ : AppleI2CState (σ × List I2CCall)} {c₁ : List I2CCall}
    (h₁ : NakFollows s s₁ c₁) (c₂ : List I2CCall) (h₂ : NakFollows s₁ s₂ c₂) (value : UInt32) :
    ∃ rest, NakFollows s (appleI2cMtxfifoStop bus.recording s₂ value) (c₁ ++ rest) := by
  refine ⟨c₂ ++ if value &&& kMTXFIFOStop ≠ 0 ∧ s₂.xip then [.finish] else [], ?_⟩
  rw [← List.append_assoc]
  exact (h₁.trans h₂).trans (appleI2cMtxfifoStop_nakFollows bus s₂ value)

/-! ## Commands and command streams -/

/-- In a transaction, a command without `START` first turns the transaction around to its
direction; everything it does after that extends the transcript, and the NAK bit follows.
Source: `hw/i2c/apple_i2c.c` `apple_i2c_reg_write`
Kind: L -/
theorem appleI2cMtxfifo_turnaround_nakFollows {s s' : AppleI2CState (σ × List I2CCall)}
    {value : UInt32} (hstart : value &&& kMTXFIFOStart = 0) (hxip : s.xip = true)
    (h : appleI2cMtxfifo bus.recording s value = some s') :
    let isRecv := decide (value &&& kMTXFIFORead ≠ 0)
    let address := (kMTXFIFOData value).toUInt8 >>> 1
    ∃ rest, NakFollows s s' ((if s.isRecv ≠ isRecv then
      [.start address isRecv (appleI2cTurnaround bus.recording s address isRecv).2] else []) ++ rest) := by
  intro isRecv address
  unfold appleI2cMtxfifo at h
  rw [if_neg (by simpa using hstart), if_pos hxip] at h
  have hturn := appleI2cTurnaround_nakFollows bus s address isRecv
  by_cases hread : value &&& kMTXFIFORead ≠ 0
  · -- READ turns the transaction around to receive, then runs the receive loop
    rw [if_pos hread] at h
    have hr : isRecv = true := decide_eq_true hread
    rw [hr] at hturn ⊢
    generalize appleI2cTurnaround bus.recording s address true = t at h hturn ⊢
    obtain ⟨s₁, err⟩ := t
    cases err <;> simp only [Bool.false_eq_true, if_true, if_false] at h hturn
    · obtain ⟨⟨st', fifo'⟩, hloop, rfl⟩ := Option.map_eq_some_iff.mp h
      obtain ⟨bs, rfl, hlog⟩ := appleI2cRecvLoop_recording bus hloop
      apply exists_nakFollows_stop bus hturn (bs.map .recv)
      -- the status bits a READ sets are not the NAK bit
      unfold NakFollows
      split_ifs <;> refine ⟨hlog, ?_⟩ <;> simp [I2CCall.refused, not_bit_status_21]
    · cases h
      exact ⟨[], by rw [List.append_nil]; exact hturn⟩
  · -- any other command turns it around to send, then sends its data byte
    rw [if_neg hread] at h
    have hr : isRecv = false := decide_eq_false hread
    rw [hr] at hturn ⊢
    generalize appleI2cTurnaround bus.recording s address false = t at h hturn ⊢
    obtain ⟨s₁, err⟩ := t
    cases err <;>
      simp only [Bool.false_eq_true, if_true, if_false, Option.some.injEq, I2CBus.recording_send]
        at h hturn
    · subst h
      apply exists_nakFollows_stop bus hturn
        [.send (kMTXFIFOData value).toUInt8 (bus.send s₁.bus.1 (kMTXFIFOData value).toUInt8).2]
      -- the NAK bit is set iff the byte was not acknowledged
      by_cases hnak : (bus.send s₁.bus.1 (kMTXFIFOData value).toUInt8).2 = true <;>
        simp [NakFollows, hnak, I2CCall.refused, bit_kSMSTAmtn]
    · subst h
      exact ⟨[], by rw [List.append_nil]; exact hturn⟩

/-- Every command appends to the transcript, and sets the NAK bit exactly when one of the calls
it made was refused.
Source: `hw/i2c/apple_i2c.c` `apple_i2c_reg_write`
Kind: L -/
theorem appleI2cMtxfifo_nakFollows {s s' : AppleI2CState (σ × List I2CCall)} {value : UInt32}
    (h : appleI2cMtxfifo bus.recording s value = some s') : ∃ calls, NakFollows s s' calls := by
  by_cases hstart : value &&& kMTXFIFOStart = 0
  swap
  · -- START addresses a device
    unfold appleI2cMtxfifo at h
    rw [if_pos hstart] at h
    cases hr : bus.startTransfer s.bus.1 ((kMTXFIFOData value).toUInt8 >>> 1)
      (decide (kMTXFIFOData value &&& 1 ≠ 0)) with
    | mk dev err =>
      simp only [I2CBus.recording_startTransfer, hr] at h
      cases err <;> simp only [Bool.false_eq_true, if_true, if_false, Option.some.injEq] at h <;>
        subst h
      · exact ⟨_, (nakFollows_start_answered s dev _ _).2.trans
          (appleI2cMtxfifoStop_nakFollows bus _ value)⟩
      · exact ⟨_, nakFollows_start_refused s dev _ _⟩
  by_cases hxip : s.xip = true
  · obtain ⟨rest, h⟩ := appleI2cMtxfifo_turnaround_nakFollows bus hstart hxip h
    exact ⟨_, h⟩
  · -- no transaction: only STOP is looked at
    unfold appleI2cMtxfifo at h
    rw [if_neg (by simpa using hstart), if_neg hxip] at h
    cases h
    exact ⟨_, appleI2cMtxfifoStop_nakFollows bus s value⟩

/-- A write to `MTXFIFO` appends what its command appends; storing the word and updating the
interrupt touch neither the bus nor `SMSTA`.
Source: `hw/i2c/apple_i2c.c` `apple_i2c_reg_write`
Kind: L -/
theorem appleI2cRegWrite_nakFollows {s s' : AppleI2CState (σ × List I2CCall)} {data : UInt64}
    (h : appleI2cRegWrite bus.recording s REG_MTXFIFO data = some s') :
    ∃ calls, NakFollows s s' calls := by
  simp only [appleI2cRegWrite, if_true] at h
  obtain ⟨s₁, h₁, rfl⟩ := Option.map_eq_some_iff.mp h
  obtain ⟨calls, hlog, hbit⟩ := appleI2cMtxfifo_nakFollows bus h₁
  have hreg : (s₁.setReg REG_MTXFIFO data.toUInt32).reg REG_SMSTA = s₁.reg REG_SMSTA :=
    Function.update_of_ne (show REG_SMSTA ≠ REG_MTXFIFO by decide) data.toUInt32 s₁.reg
  exact ⟨calls, by simpa [AppleI2CState.setReg] using hlog, by rw [appleI2cUpdateIrq_reg, hreg, hbit]⟩

/-- Over a whole stream of commands the transcript only grows, and `SMSTA`'s NAK bit ends up set
exactly when it was set before or some call of the stream was refused: a start no device
answered, or a byte no device acknowledged.
Source: `hw/i2c/apple_i2c.c` `apple_i2c_reg_write`
Kind: L -/
theorem appleI2cRun_nakFollows {s s' : AppleI2CState (σ × List I2CCall)} {cmds : List UInt64}
    (h : appleI2cRun bus.recording s (cmds.map (.write REG_MTXFIFO)) = some s') :
    ∃ calls, NakFollows s s' calls := by
  induction cmds generalizing s with
  | nil =>
    cases h
    exact ⟨[], NakFollows.refl _⟩
  | cons cmd cmds ih =>
    simp only [List.map_cons, appleI2cRun] at h
    obtain ⟨s₁, h₁, hrest⟩ := Option.bind_eq_some_iff.mp h
    obtain ⟨c₁, hc₁⟩ := appleI2cRegWrite_nakFollows bus h₁
    obtain ⟨c₂, hc₂⟩ := ih hrest
    exact ⟨c₁ ++ c₂, hc₁.trans hc₂⟩

end transcript

/-! ## The address of a restart -/

/-- A refused restart `break`s out of the command: the NAK bit is set and nothing else is done,
the command's `STOP` included.
Source: `hw/i2c/apple_i2c.c` `apple_i2c_reg_write`
Kind: L -/
theorem appleI2cMtxfifo_of_turnaround_refused (bus : I2CBus σ) {s : AppleI2CState σ}
    {value : UInt32} (hstart : value &&& kMTXFIFOStart = 0) (hxip : s.xip = true)
    (herr : (appleI2cTurnaround bus s ((kMTXFIFOData value).toUInt8 >>> 1)
      (decide (value &&& kMTXFIFORead ≠ 0))).2 = true) :
    appleI2cMtxfifo bus s value =
      some ((appleI2cTurnaround bus s ((kMTXFIFOData value).toUInt8 >>> 1)
        (decide (value &&& kMTXFIFORead ≠ 0))).1.orReg REG_SMSTA kSMSTAmtn) := by
  unfold appleI2cMtxfifo
  rw [if_neg (by simpa using hstart), if_pos hxip]
  by_cases hread : value &&& kMTXFIFORead ≠ 0
  · rw [decide_eq_true hread] at herr ⊢
    simp only [if_pos hread, herr, if_true]
  · rw [decide_eq_false hread] at herr ⊢
    simp only [if_neg hread, herr, if_true]

/-- An idle controller, its transcript empty. -/
def appleI2cIdle : AppleI2CState (Unit × List I2CCall) :=
  { reg := fun _ => 0, rxFifo := [], lastIrq := false, nak := false, xip := false,
    isRecv := false, bus := ((), []) }

/-- In a transaction, a command that changes its direction restarts the bus at the address in
its own low byte, shifted as a `START`'s address byte is: the length of a `READ`, or the byte a
write sends. The address the `START` named is kept nowhere and plays no part. A restart that is
refused `break`s out before the command's `STOP` is handled: the transfer stays open, and no
`finish` follows.
Source: `hw/i2c/apple_i2c.c` `apple_i2c_reg_write`
Kind: P -/
theorem apple_i2c_turnaround_restarts_at_command_byte (bus : I2CBus σ)
    (s : AppleI2CState (σ × List I2CCall)) (value : UInt32) (hxip : s.xip = true)
    (hstart : value &&& kMTXFIFOStart = 0)
    (hdir : s.isRecv ≠ decide (value &&& kMTXFIFORead ≠ 0)) :
    let isRecv := decide (value &&& kMTXFIFORead ≠ 0)
    let address := (kMTXFIFOData value).toUInt8 >>> 1
    let refused := (bus.startTransfer s.bus.1 address isRecv).2
    (∀ s', appleI2cMtxfifo bus.recording s value = some s' →
      ∃ rest, s'.bus.2 = s.bus.2 ++ I2CCall.start address isRecv refused :: rest) ∧
    (refused = true → ∃ s', appleI2cMtxfifo bus.recording s value = some s' ∧
      s'.xip = true ∧ s'.bus.2 = s.bus.2 ++ [I2CCall.start address isRecv true]) := by
  dsimp only
  have hturn := appleI2cTurnaround_of_ne bus.recording s ((kMTXFIFOData value).toUInt8 >>> 1) hdir
  simp only [I2CBus.recording_startTransfer] at hturn
  constructor
  · intro s' h
    obtain ⟨rest, hlog, -⟩ := appleI2cMtxfifo_turnaround_nakFollows bus hstart hxip h
    rw [if_pos hdir, hturn] at hlog
    exact ⟨rest, hlog⟩
  · intro hrefused
    have herr : (appleI2cTurnaround bus.recording s ((kMTXFIFOData value).toUInt8 >>> 1)
        (decide (value &&& kMTXFIFORead ≠ 0))).2 = true := by
      rw [hturn]
      exact hrefused
    refine ⟨_, appleI2cMtxfifo_of_turnaround_refused bus.recording hstart hxip herr, ?_⟩
    rw [hturn]
    simp only [AppleI2CState.orReg_xip, AppleI2CState.orReg_bus, hrefused, hxip, and_self]

theorem apple_i2c_turnaround_restarts_at_command_byte_read_one :
    ∃ s₂, appleI2cRun answeringBus.recording appleI2cIdle
        [.write REG_MTXFIFO (kMTXFIFOStart ||| 0xA0).toUInt64, .write REG_MTXFIFO 0x10] = some s₂ ∧
      s₂.bus.2 = [.start 0x50 false false, .send 0x10 false] ∧
      ∀ s₃, appleI2cMtxfifo answeringBus.recording s₂ (kMTXFIFORead ||| 1) = some s₃ →
        ∃ rest, s₃.bus.2 = s₂.bus.2 ++ .start 0x00 true false :: rest := by
  refine ⟨_, rfl, rfl, ?_⟩
  exact (apple_i2c_turnaround_restarts_at_command_byte answeringBus _ _ rfl (by decide)
    (by decide)).1

-- The whole transcript: the device named by `START` is 0x50, the restart goes to 0x00.
example :
    (appleI2cRun answeringBus.recording appleI2cIdle
        [.write REG_MTXFIFO (kMTXFIFOStart ||| 0xA0).toUInt64, .write REG_MTXFIFO 0x10,
          .write REG_MTXFIFO (kMTXFIFORead ||| 1).toUInt64]).map (·.bus.2) =
      some [.start 0x50 false false, .send 0x10 false, .start 0x00 true false, .recv 0xAA] := by
  decide

end QemuAppleSilicon.I2c
