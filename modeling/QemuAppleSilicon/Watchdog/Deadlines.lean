import QemuAppleSilicon.Watchdog.AppleWdt

/-!
# The deadlines of the Apple watchdog over whole runs

`wdt_update` keeps three deadlines, the chip reset, the system reset and the chip interrupt:
`WdtChannel` names each one's control bit and words. A channel that is armed and below its
counter reaches the counter in a tick of the virtual clock fixed in advance, its reach tick
(`reachTick`, the ticks left added to the current tick): time passing does not move it, and
neither does any event that leaves the channel's words alone. `Waiting R` is the invariant of a
run: the channel, while armed, is below its counter, reaches it in tick `R`, and the device's
timer is armed no later than tick `R`, so in a timely run no event comes after tick `R` before
the channel has fired.

* `Waiting.step`, `Waiting.run` — every event of a timely run keeps a channel waiting, unless it
  rewrites one of the channel's words; `wdtUpdate_waiting` is the case of the timer firing.
* `Waiting.fires_iff` — a waiting channel fires exactly in its reach tick.
* `wdtUpdate_action_iff`, `wdtUpdate_irq_of_fires`, `wdtRegWrite_ctl_ack` — what firing does.
* `wdtRegRead_timer_of_run` — a timer register reads the value last written plus the ticks
  since, as long as the watchdog has not acted: its action zeroes every register
  (`apple_wdt_timer_reads_clock_after_reset`).
-/

namespace QemuAppleSilicon.Watchdog

open QemuAppleSilicon.Lib AppleWDTState

/-! ## The deadlines of `wdt_update` -/

/-- One deadline `wdt_update` keeps: the control register and its enable bit, a bit that
silences it (`ACK_IRQ` for the interrupt, which marks it raised), and the counter and the timer
register it compares.
Source: `hw/watchdog/apple_wdt.c` `wdt_update`
Kind: D -/
structure WdtChannel where
  control : Fin 8
  enable : UInt32
  mute : UInt32
  counter : Fin 8
  timer : Fin 8
  deriving DecidableEq, Repr

/-- The chip reset: `EN_RESET` of `chip_control`, `chip_reset_counter`, `chip_timer`.
Source: `hw/watchdog/apple_wdt.c` `wdt_update`
Kind: D -/
def wdtChipReset : WdtChannel :=
  ⟨⟨3, by decide⟩, WDOG_CTL_EN_RESET, 0, ⟨1, by decide⟩, ⟨0, by decide⟩⟩

/-- The system reset: `EN_RESET` of `sys_control`, `sys_reset_counter`, `sys_timer`.
Source: `hw/watchdog/apple_wdt.c` `wdt_update`
Kind: D -/
def wdtSysReset : WdtChannel :=
  ⟨⟨7, by decide⟩, WDOG_CTL_EN_RESET, 0, ⟨5, by decide⟩, ⟨4, by decide⟩⟩

/-- The chip interrupt: `EN_IRQ` of `chip_control` until `ACK_IRQ` marks it raised,
`chip_interrupt_counter`, `chip_timer`.
Source: `hw/watchdog/apple_wdt.c` `wdt_update`
Kind: D -/
def wdtChipIrq : WdtChannel :=
  ⟨⟨3, by decide⟩, WDOG_CTL_EN_IRQ, WDOG_CTL_ACK_IRQ, ⟨2, by decide⟩, ⟨0, by decide⟩⟩

/-- The three deadlines.
Source: `hw/watchdog/apple_wdt.c` `wdt_update`
Kind: D -/
def wdtChannels : List WdtChannel := [wdtChipReset, wdtSysReset, wdtChipIrq]

namespace WdtChannel

variable (ch : WdtChannel)

/-- The timer value the channel compares at `now`, as `wdt_get_chip_timer` or
`wdt_get_sys_timer` computes it.
Source: `hw/watchdog/apple_wdt.c` `wdt_get_chip_timer`, `wdt_get_sys_timer`
Kind: D -/
def value (s : AppleWDTState) (now : ℕ) : UInt32 := wdtGetClock s now - s.reg ch.timer

/-- Enabled and not silenced.
Source: `hw/watchdog/apple_wdt.c` `wdt_update`
Kind: D -/
def Armed (s : AppleWDTState) : Prop :=
  s.reg ch.control &&& ch.enable ≠ 0 ∧ s.reg ch.control &&& ch.mute = 0

instance (s : AppleWDTState) : Decidable (ch.Armed s) := inferInstanceAs (Decidable (_ ∧ _))

/-- The check of `wdt_update` that fires the channel: armed, and the timer at or past the
counter.
Source: `hw/watchdog/apple_wdt.c` `wdt_update`
Kind: D -/
def Fires (s : AppleWDTState) (now : ℕ) : Prop := ch.Armed s ∧ ch.value s now ≥ s.reg ch.counter

/-- The ticks from `now` until the timer next equals the counter, modulo `2^32`: the `d` of
`wdt_update`.
Source: `hw/watchdog/apple_wdt.c` `wdt_update`
Kind: D -/
def ticksLeft (s : AppleWDTState) (now : ℕ) : ℕ := (s.reg ch.counter - ch.value s now).toNat

/-- The tick of the virtual clock at which the timer reaches the counter, seen from `now`.
Source: none: specification
Kind: D -/
def reachTick (s : AppleWDTState) (now : ℕ) : ℕ := now / s.cntPeriodNs + ch.ticksLeft s now

/-- The channel waits for tick `R`: while it is armed, its timer is not past the counter, it
reaches the counter in tick `R`, and a deadline is pending, not before `now` and no later than
tick `R`.
Source: none: specification
Kind: D -/
def Waiting (R : ℕ) (s : AppleWDTState) (now : ℕ) : Prop :=
  ch.Armed s → (ch.value s now).toNat ≤ (s.reg ch.counter).toNat ∧ ch.reachTick s now = R ∧
    ∃ D, s.timer = some D ∧ now ≤ D ∧ D / s.cntPeriodNs ≤ R

/-- A write to `addr` rewrites one of the channel's registers.
Source: `hw/watchdog/apple_wdt.c` `wdt_reg_write`
Kind: D -/
def Touches (addr : ℕ) : Prop :=
  addr < REG_SIZE ∧ (addr / 4 = ch.control ∨ addr / 4 = ch.counter ∨ addr / 4 = ch.timer)

/-- No event of the list writes one of the channel's registers.
Source: none: specification
Kind: D -/
def NoTouch (evs : List (ℕ × WdtEvent)) : Prop :=
  ∀ e ∈ evs, ∀ addr data, e.2 = .write addr data → ¬ ch.Touches addr

end WdtChannel

/-! ## The clock and the channels over time -/

/-- Between two times the clock moves by the ticks between them, modulo `2^32`.
Source: `hw/watchdog/apple_wdt.c` `wdt_get_clock`
Kind: L -/
theorem wdtGetClock_sub (s : AppleWDTState) {t t' : ℕ} (h : t ≤ t') :
    wdtGetClock s t' - wdtGetClock s t =
      UInt32.ofNat (t' / s.cntPeriodNs - t / s.cntPeriodNs) := by
  rw [wdtGetClock, wdtGetClock, UInt32.ofNat_sub (Nat.div_le_div_right h)]

namespace WdtChannel

variable {ch : WdtChannel}

/-- A timer value goes up by the ticks that pass.
Source: `hw/watchdog/apple_wdt.c` `wdt_get_chip_timer`
Kind: L -/
theorem value_later (s : AppleWDTState) {t t' : ℕ} (h : t ≤ t') :
    ch.value s t' = ch.value s t + UInt32.ofNat (t' / s.cntPeriodNs - t / s.cntPeriodNs) := by
  rw [← wdtGetClock_sub s h, value, value]
  exact (sub_add_sub_cancel' _ _ _).symm

/-- Below its counter, a timer reaches it after exactly the ticks left. -/
theorem ticksLeft_of_le {s : AppleWDTState} {t : ℕ}
    (h : (ch.value s t).toNat ≤ (s.reg ch.counter).toNat) :
    ch.ticksLeft s t = (s.reg ch.counter).toNat - (ch.value s t).toNat := by
  rw [ticksLeft, UInt32.toNat_sub_of_le _ _ (UInt32.le_iff_toNat_le.mpr h)]

/-- Over `δ` ticks that do not pass the counter, the value goes up by `δ` and the reach tick
stays. -/
theorem later_of_le_ticksLeft {s : AppleWDTState} {t t' : ℕ} (htt : t ≤ t')
    (hv : (ch.value s t).toNat ≤ (s.reg ch.counter).toNat)
    (hδ : t' / s.cntPeriodNs - t / s.cntPeriodNs ≤ ch.ticksLeft s t) :
    (ch.value s t').toNat = (ch.value s t).toNat + (t' / s.cntPeriodNs - t / s.cntPeriodNs) ∧
      ch.reachTick s t' = ch.reachTick s t := by
  have hleft := ticksLeft_of_le hv
  have hc := (s.reg ch.counter).toNat_lt
  have hsize : UInt32.size = 2 ^ 32 := rfl
  -- no wrap: the value stays at most the counter, below `2^32`
  have hval : (ch.value s t').toNat =
      (ch.value s t).toNat + (t' / s.cntPeriodNs - t / s.cntPeriodNs) := by
    rw [value_later s htt, UInt32.toNat_add, UInt32.toNat_ofNat_of_lt' (by omega)]
    exact Nat.mod_eq_of_lt (by omega)
  refine ⟨hval, ?_⟩
  have hdiv : t / s.cntPeriodNs ≤ t' / s.cntPeriodNs := Nat.div_le_div_right htt
  rw [reachTick, reachTick, ticksLeft_of_le (by omega), hleft, hval]
  omega

/-- While a channel waits, time passing up to the pending deadline keeps it waiting. -/
theorem Waiting.later {R : ℕ} {s : AppleWDTState} {t t' : ℕ} (hw : ch.Waiting R s t)
    (htt : t ≤ t') (hlate : ∀ D ∈ s.timer, t' ≤ D) : ch.Waiting R s t' := by
  intro harm
  obtain ⟨hv, hR, D, hD, -, hDR⟩ := hw harm
  have ht'D : t' ≤ D := hlate D hD
  have hδ : t' / s.cntPeriodNs - t / s.cntPeriodNs ≤ ch.ticksLeft s t := by
    have := Nat.div_le_div_right (c := s.cntPeriodNs) ht'D
    rw [reachTick] at hR
    omega
  obtain ⟨hval, hreach⟩ := later_of_le_ticksLeft htt hv hδ
  refine ⟨?_, hreach.trans hR, D, hD, ht'D, hDR⟩
  rw [ticksLeft_of_le hv] at hδ
  rw [hval]
  omega

end WdtChannel

/-! ## What `wdt_update` does to each channel -/

namespace WdtChannel

variable {ch : WdtChannel}

/-- After `apple_wdt_reset` no channel is armed.
Source: `hw/watchdog/apple_wdt.c` `apple_wdt_reset`
Kind: L -/
theorem not_armed_appleWdtReset (s : AppleWDTState) : ¬ ch.Armed (appleWdtReset s) := by
  rintro ⟨hen, -⟩
  exact hen UInt32.zero_and

end WdtChannel

open WdtChannel

/-- The chip reset fires exactly when its block of `wdt_update` answers `none`.
Source: `hw/watchdog/apple_wdt.c` `wdt_update`
Kind: L -/
theorem fires_chipReset_iff {s : AppleWDTState} {now expiry : ℕ} :
    wdtChipReset.Fires s now ↔
      wdtResetBlock s.chipControl s.chipResetCounter (wdtGetChipTimer s now) expiry = none := by
  rw [wdtResetBlock_eq_none_iff]
  exact ⟨fun ⟨⟨hen, _⟩, hge⟩ => ⟨hen, hge⟩, fun ⟨hen, hge⟩ => ⟨⟨hen, UInt32.and_zero⟩, hge⟩⟩

/-- The system reset fires exactly when its block of `wdt_update` answers `none`.
Source: `hw/watchdog/apple_wdt.c` `wdt_update`
Kind: L -/
theorem fires_sysReset_iff {s : AppleWDTState} {now expiry : ℕ} :
    wdtSysReset.Fires s now ↔
      wdtResetBlock s.sysControl s.sysResetCounter (wdtGetSysTimer s now) expiry = none := by
  rw [wdtResetBlock_eq_none_iff]
  exact ⟨fun ⟨⟨hen, _⟩, hge⟩ => ⟨hen, hge⟩, fun ⟨hen, hge⟩ => ⟨⟨hen, UInt32.and_zero⟩, hge⟩⟩

/-- **`wdt_update` runs `watchdog_perform_action` exactly when one of the two resets fires.**
Source: `hw/watchdog/apple_wdt.c` `wdt_update`
Kind: L -/
theorem wdtUpdate_action_iff (s : AppleWDTState) (now : ℕ) :
    (wdtUpdate s now).2 = true ↔ wdtChipReset.Fires s now ∨ wdtSysReset.Fires s now := by
  cases h₁ : wdtResetBlock s.chipControl s.chipResetCounter (wdtGetChipTimer s now) 0xffffffff with
  | none =>
    rw [wdtUpdate_of_fires (.inl h₁)]
    exact ⟨fun _ => .inl (fires_chipReset_iff.mpr h₁), fun _ => rfl⟩
  | some e₁ =>
    cases h₂ : wdtResetBlock s.sysControl s.sysResetCounter (wdtGetSysTimer s now) e₁ with
    | none =>
      rw [wdtUpdate_of_fires (.inr ⟨e₁, h₁, h₂⟩)]
      exact ⟨fun _ => .inr (fires_sysReset_iff.mpr h₂), fun _ => rfl⟩
    | some e₂ =>
      rw [wdtUpdate_of_some h₁ h₂, fires_chipReset_iff, fires_sysReset_iff, h₁, h₂]
      simp

/-- In the `EN_IRQ` block after two reset blocks that did not fire, a channel armed afterwards
was armed before, does not fire, keeps its counter and timer words, and the expiry left is at
most its ticks left.
Source: `hw/watchdog/apple_wdt.c` `wdt_update`
Kind: L -/
theorem wdtIrqBlock_armed {ch : WdtChannel} (hch : ch ∈ wdtChannels) {s : AppleWDTState}
    {now e₁ e₂ : ℕ}
    (h₁ : wdtResetBlock s.chipControl s.chipResetCounter (wdtGetChipTimer s now) 0xffffffff =
      some e₁)
    (h₂ : wdtResetBlock s.sysControl s.sysResetCounter (wdtGetSysTimer s now) e₁ = some e₂)
    (h : ch.Armed (wdtIrqBlock s (wdtGetChipTimer s now) e₂).1) :
    ch.Armed s ∧ ¬ ch.Fires s now ∧
      (wdtIrqBlock s (wdtGetChipTimer s now) e₂).1.reg ch.counter = s.reg ch.counter ∧
      (wdtIrqBlock s (wdtGetChipTimer s now) e₂).1.reg ch.timer = s.reg ch.timer ∧
      (wdtIrqBlock s (wdtGetChipTimer s now) e₂).2 ≤ ch.ticksLeft s now := by
  obtain ⟨he₂, hchip⟩ := wdtResetBlock_eq_some h₁
  obtain ⟨he₁₂, hsys⟩ := wdtResetBlock_eq_some h₂
  obtain ⟨-, -, hframe⟩ := wdtIrqBlock_frame s (wdtGetChipTimer s now) e₂
  -- the expiry the `EN_IRQ` block leaves is at most `e₂`
  have hle : (wdtIrqBlock s (wdtGetChipTimer s now) e₂).2 ≤ e₂ := by
    rcases wdtIrqBlock_cases s (wdtGetChipTimer s now) e₂ with
      ⟨-, -, -, hr⟩ | ⟨-, -, hr⟩ | ⟨-, hr⟩ <;> rw [hr]
    · exact Nat.min_le_left _ _
  simp only [wdtChannels, List.mem_cons, List.not_mem_nil, or_false] at hch
  rcases hch with rfl | rfl | rfl
  · -- the chip reset: setting `ACK_IRQ` leaves `EN_RESET`
    have hctl : (wdtIrqBlock s (wdtGetChipTimer s now) e₂).1.reg 3 &&& WDOG_CTL_EN_RESET =
        s.reg 3 &&& WDOG_CTL_EN_RESET := by
      rcases wdtIrqBlock_cases s (wdtGetChipTimer s now) e₂ with
        ⟨-, -, -, hr⟩ | ⟨-, -, hr⟩ | ⟨-, hr⟩ <;> rw [hr]
      exact or_ACK_IRQ_and_EN_RESET _
    have harm : wdtChipReset.Armed s := ⟨hctl ▸ h.1, UInt32.and_zero⟩
    refine ⟨harm, fun hf => ?_, hframe 1 (by decide), hframe 0 (by decide), ?_⟩
    · rw [fires_chipReset_iff, h₁] at hf
      cases hf
    · exact hle.trans (he₁₂.trans (hchip harm.1))
  · -- the system reset: its words are not the chip control register
    have harm : wdtSysReset.Armed s := ⟨hframe 7 (by decide) ▸ h.1, UInt32.and_zero⟩
    refine ⟨harm, fun hf => ?_, hframe 5 (by decide), hframe 4 (by decide), ?_⟩
    · rw [fires_sysReset_iff, h₂] at hf
      cases hf
    · exact hle.trans (hsys harm.1)
  · -- the chip interrupt: armed afterwards only if the block was still counting
    rcases wdtIrqBlock_cases s (wdtGetChipTimer s now) e₂ with
      ⟨-, -, -, hr⟩ | ⟨hen, hlt, hr⟩ | ⟨hoff, hr⟩
    · rw [hr] at h
      have hmark := or_ACK_IRQ_and_ACK_IRQ_ne_zero s.chipControl
      rw [← Function.update_self 3 (s.chipControl ||| WDOG_CTL_ACK_IRQ) s.reg] at hmark
      exact absurd h.2 hmark
    · rw [hr] at h ⊢
      exact ⟨h, fun hf => absurd hf.2 (UInt32.not_le.mpr hlt), rfl, rfl, Nat.min_le_right _ _⟩
    · rw [hr] at h
      rcases hoff with hoff | ⟨-, hack⟩
      · exact absurd hoff h.1
      · exact absurd h.2 hack

namespace WdtChannel

variable {ch : WdtChannel}

/-- A channel reads the same value from two states with the same tick and timer word. -/
theorem value_congr {s s' : AppleWDTState} (hP : s'.cntPeriodNs = s.cntPeriodNs)
    (hT : s'.reg ch.timer = s.reg ch.timer) (t : ℕ) : ch.value s' t = ch.value s t := by
  rw [value, value, wdtGetClock, wdtGetClock, hP, hT]

/-- ... and, with the same counter word, the same reach tick. -/
theorem reachTick_congr {s s' : AppleWDTState} (hP : s'.cntPeriodNs = s.cntPeriodNs)
    (hT : s'.reg ch.timer = s.reg ch.timer) (hC : s'.reg ch.counter = s.reg ch.counter)
    (t : ℕ) : ch.reachTick s' t = ch.reachTick s t := by
  rw [reachTick, reachTick, ticksLeft, ticksLeft, value_congr hP hT, hC, hP]

/-- While a channel waits, its reach tick is at least the current one. -/
theorem Waiting.div_le {R : ℕ} {s : AppleWDTState} {t : ℕ} (hw : ch.Waiting R s t)
    (harm : ch.Armed s) : t / s.cntPeriodNs ≤ R := by
  obtain ⟨-, -, D, -, htD, hDR⟩ := hw harm
  exact (Nat.div_le_div_right htD).trans hDR

end WdtChannel

open WdtChannel

/-- After `wdt_update` every channel of the device waits for the tick it waited for before: a
channel still armed did not fire, and the timer is armed no later than its reach tick.
Source: `hw/watchdog/apple_wdt.c` `wdt_update`
Kind: L -/
theorem wdtUpdate_waiting {ch : WdtChannel} (hch : ch ∈ wdtChannels) {R : ℕ} {s : AppleWDTState}
    {t : ℕ}
    (hc : ch.Armed s → (ch.value s t).toNat ≤ (s.reg ch.counter).toNat ∧ ch.reachTick s t = R) :
    ch.Waiting R (wdtUpdate s t).1 t := by
  intro harm'
  cases h₁ : wdtResetBlock s.chipControl s.chipResetCounter (wdtGetChipTimer s t) 0xffffffff with
  | none =>
    rw [wdtUpdate_of_fires (.inl h₁)] at harm'
    exact absurd harm' (not_armed_appleWdtReset s)
  | some e₁ =>
    cases h₂ : wdtResetBlock s.sysControl s.sysResetCounter (wdtGetSysTimer s t) e₁ with
    | none =>
      rw [wdtUpdate_of_fires (.inr ⟨e₁, h₁, h₂⟩)] at harm'
      exact absurd harm' (not_armed_appleWdtReset s)
    | some e₂ =>
      have hupd := wdtUpdate_of_some h₁ h₂
      obtain ⟨harm, -, hC, hT, hleft⟩ :=
        wdtIrqBlock_armed hch h₁ h₂ (by rw [hupd] at harm'; exact harm')
      obtain ⟨hv, hR⟩ := hc harm
      have hP := (wdtIrqBlock_frame s (wdtGetChipTimer s t) e₂).1
      -- the state after the update, field by field
      have hP' : (wdtUpdate s t).1.cntPeriodNs = s.cntPeriodNs := by rw [hupd]; exact hP
      have hT' : (wdtUpdate s t).1.reg ch.timer = s.reg ch.timer := by rw [hupd]; exact hT
      have hC' : (wdtUpdate s t).1.reg ch.counter = s.reg ch.counter := by rw [hupd]; exact hC
      have htimer : (wdtUpdate s t).1.timer =
          some (t + (wdtIrqBlock s (wdtGetChipTimer s t) e₂).2 * s.cntPeriodNs) := by
        rw [hupd]
      refine ⟨by rw [value_congr hP' hT', hC']; exact hv,
        by rw [reachTick_congr hP' hT' hC']; exact hR, _, htimer, Nat.le_add_right _ _, ?_⟩
      -- the timer is armed `expiry` whole ticks on
      rw [hP', Nat.add_mul_div_right _ _ s.cntPeriodNs_pos, ← hR, reachTick]
      omega

/-- A write that leaves a waiting channel's words alone keeps it waiting: the timer is armed for
the time of the write, before the reach tick.
Source: `hw/watchdog/apple_wdt.c` `wdt_reg_write`
Kind: L -/
theorem Waiting.write {ch : WdtChannel} {R : ℕ} {s : AppleWDTState} {t addr : ℕ} {data : UInt64}
    (hw : ch.Waiting R s t) (hno : ¬ ch.Touches addr) :
    ch.Waiting R (wdtRegWrite s t addr data) t := by
  by_cases hsize : REG_SIZE ≤ addr
  · rw [wdtRegWrite_of_le hsize]
    exact hw
  · have hlt := Nat.lt_of_not_le hsize
    obtain ⟨hP, hregs, htimer⟩ := wdtRegWrite_of_lt s t data hlt
    -- the write is to none of the channel's three words
    have hne : ∀ i : Fin 8, (addr / 4 = i.val → ch.Touches addr) → i.val ≠ addr / 4 :=
      fun i hi he => hno (hi he.symm)
    have hK := hregs ch.control (hne _ fun he => ⟨hlt, .inl he⟩)
    have hC := hregs ch.counter (hne _ fun he => ⟨hlt, .inr (.inl he)⟩)
    have hT := hregs ch.timer (hne _ fun he => ⟨hlt, .inr (.inr he)⟩)
    intro harm'
    have harm : ch.Armed s := by rwa [Armed, hK] at harm'
    obtain ⟨hv, hR, -⟩ := hw harm
    refine ⟨by rw [value_congr hP hT, hC]; exact hv, by rw [reachTick_congr hP hT hC]; exact hR,
      t, htimer, le_rfl, ?_⟩
    rw [hP, ← hR, reachTick]
    exact Nat.le_add_right _ _

/-- A channel below its counter, with the timer armed for `now`, waits for its reach tick: so
after every register write.
Source: `hw/watchdog/apple_wdt.c` `wdt_reg_write`
Kind: L -/
theorem waiting_of_timer {ch : WdtChannel} {s : AppleWDTState} {t : ℕ} (htimer : s.timer = some t)
    (hv : (ch.value s t).toNat ≤ (s.reg ch.counter).toNat) :
    ch.Waiting (ch.reachTick s t) s t :=
  fun _ => ⟨hv, rfl, t, htimer, le_rfl, Nat.le_add_right _ _⟩

/-- **One event of a timely run keeps a channel waiting for its tick**, unless it rewrites one
of the channel's words.
Source: `hw/watchdog/apple_wdt.c` `wdt_reg_write`, `wdt_reg_read`, `wdt_update`
Kind: L -/
theorem Waiting.step {ch : WdtChannel} (hch : ch ∈ wdtChannels) {R : ℕ} {s : AppleWDTState}
    {t now : ℕ} {e : WdtEvent} (hw : ch.Waiting R s t) (htt : t ≤ now)
    (hlate : ∀ D ∈ s.timer, now ≤ D) (hno : ∀ addr data, e = .write addr data → ¬ ch.Touches addr) :
    ch.Waiting R (wdtStep s now e).1 now := by
  have hw' := hw.later htt hlate
  cases e with
  | write addr data => exact Waiting.write hw' (hno addr data rfl)
  | read addr => exact hw'
  | expire => exact wdtUpdate_waiting hch fun harm => ⟨(hw' harm).1, (hw' harm).2.1⟩

/-- The time of the last event of a list, `t` for none. -/
def wdtEndTime : ℕ → List (ℕ × WdtEvent) → ℕ
  | t, [] => t
  | _, (now, _) :: evs => wdtEndTime now evs

/-- **A timely run that rewrites none of a channel's words keeps it waiting for its tick**, by
induction on the run.
Source: `hw/watchdog/apple_wdt.c` `wdt_reg_write`, `wdt_reg_read`, `wdt_update`
Kind: L -/
theorem Waiting.run {ch : WdtChannel} (hch : ch ∈ wdtChannels) {R : ℕ} :
    ∀ (evs : List (ℕ × WdtEvent)) (s : AppleWDTState) (t : ℕ), ch.Waiting R s t →
      WdtTimely s t evs → ch.NoTouch evs → ch.Waiting R (wdtRun s evs).1 (wdtEndTime t evs)
  | [], _, _, hw, _, _ => hw
  | (now, _) :: evs, _, _, hw, ⟨htt, hlate, _, hrest⟩, hno =>
    Waiting.run hch evs _ now
      (Waiting.step hch hw htt hlate fun a d he => hno _ List.mem_cons_self a d he) hrest
      fun e' he' => hno e' (List.mem_cons_of_mem _ he')

/-- **A waiting channel fires exactly in its reach tick.**
Source: `hw/watchdog/apple_wdt.c` `wdt_update`
Kind: L -/
theorem Waiting.fires_iff {ch : WdtChannel} {R : ℕ} {s : AppleWDTState} {t : ℕ}
    (hw : ch.Waiting R s t) (harm : ch.Armed s) : ch.Fires s t ↔ t / s.cntPeriodNs = R := by
  obtain ⟨hv, hR, -⟩ := hw harm
  rw [reachTick, ticksLeft_of_le hv] at hR
  rw [Fires, ge_iff_le, UInt32.le_iff_toNat_le]
  constructor
  · rintro ⟨-, hge⟩
    omega
  · intro ht
    exact ⟨harm, by omega⟩

/-! ## The interrupt line -/

/-- **An update that fires the chip interrupt and no reset raises the line.**
Source: `hw/watchdog/apple_wdt.c` `wdt_update`
Kind: L -/
theorem wdtUpdate_irq_of_fires {s : AppleWDTState} {t : ℕ} (hquiet : (wdtUpdate s t).2 = false)
    (hf : wdtChipIrq.Fires s t) : (wdtUpdate s t).1.irq = true := by
  cases h₁ : wdtResetBlock s.chipControl s.chipResetCounter (wdtGetChipTimer s t) 0xffffffff with
  | none => rw [wdtUpdate_of_fires (.inl h₁)] at hquiet; cases hquiet
  | some e₁ =>
    cases h₂ : wdtResetBlock s.sysControl s.sysResetCounter (wdtGetSysTimer s t) e₁ with
    | none => rw [wdtUpdate_of_fires (.inr ⟨e₁, h₁, h₂⟩)] at hquiet; cases hquiet
    | some e₂ =>
      rw [wdtUpdate_of_some h₁ h₂]
      obtain ⟨⟨hen, hack⟩, hge⟩ := hf
      rcases wdtIrqBlock_cases s (wdtGetChipTimer s t) e₂ with
        ⟨-, -, -, hr⟩ | ⟨-, hlt, -⟩ | ⟨hoff, -⟩
      · rw [hr]
      · exact absurd hge (UInt32.not_le.mpr hlt)
      · rcases hoff with hoff | ⟨-, hack'⟩
        · exact absurd hoff hen
        · exact absurd hack hack'

/-- **A write to `CHIP_WDOG_CTL` that carries `ACK_IRQ` lowers the line.**
Source: `hw/watchdog/apple_wdt.c` `wdt_reg_write`
Kind: L -/
theorem wdtRegWrite_ctl_ack {s : AppleWDTState} {now : ℕ} {data : UInt64}
    (hack : data.toUInt32 &&& WDOG_CTL_ACK_IRQ ≠ 0) :
    (wdtRegWrite s now REG_CHIP_WDOG_CTL data).irq = false := by
  simp [wdtRegWrite, REG_SIZE, REG_CHIP_WDOG_CTL, REG_CHIP_WDOG_TMR, hack]

/-! ## What the timer registers read -/

/-- `wdt_update` keeps the tick, and without the action every word but the chip control one.
Source: `hw/watchdog/apple_wdt.c` `wdt_update`
Kind: L -/
theorem wdtUpdate_frame (s : AppleWDTState) (t : ℕ) :
    (wdtUpdate s t).1.cntPeriodNs = s.cntPeriodNs ∧
      ((wdtUpdate s t).2 = false → ∀ i : Fin 8, i ≠ 3 → (wdtUpdate s t).1.reg i = s.reg i) := by
  cases h₁ : wdtResetBlock s.chipControl s.chipResetCounter (wdtGetChipTimer s t) 0xffffffff with
  | none =>
    rw [wdtUpdate_of_fires (.inl h₁)]
    exact ⟨rfl, fun h => Bool.noConfusion h⟩
  | some e₁ =>
    cases h₂ : wdtResetBlock s.sysControl s.sysResetCounter (wdtGetSysTimer s t) e₁ with
    | none =>
      rw [wdtUpdate_of_fires (.inr ⟨e₁, h₁, h₂⟩)]
      exact ⟨rfl, fun h => Bool.noConfusion h⟩
    | some e₂ =>
      rw [wdtUpdate_of_some h₁ h₂]
      obtain ⟨hP, -, hregs⟩ := wdtIrqBlock_frame s (wdtGetChipTimer s t) e₂
      exact ⟨hP, fun _ => hregs⟩

/-- An event keeps the tick.
Source: `hw/watchdog/apple_wdt.c` `wdt_reg_write`, `wdt_reg_read`, `wdt_update`
Kind: L -/
theorem wdtStep_cntPeriodNs (s : AppleWDTState) (now : ℕ) (e : WdtEvent) :
    (wdtStep s now e).1.cntPeriodNs = s.cntPeriodNs := by
  cases e with
  | write addr data =>
    by_cases hsize : REG_SIZE ≤ addr
    · rw [wdtStep, wdtRegWrite_of_le hsize]
    · exact (wdtRegWrite_of_lt s now data (Nat.lt_of_not_le hsize)).1
  | read addr => rfl
  | expire => exact (wdtUpdate_frame _ now).1

/-- A run keeps the tick.
Source: `hw/watchdog/apple_wdt.c` `wdt_reg_write`, `wdt_reg_read`, `wdt_update`
Kind: L -/
theorem wdtRun_cntPeriodNs :
    ∀ (evs : List (ℕ × WdtEvent)) (s : AppleWDTState), (wdtRun s evs).1.cntPeriodNs = s.cntPeriodNs
  | [], _ => rfl
  | (now, e) :: evs, s => (wdtRun_cntPeriodNs evs _).trans (wdtStep_cntPeriodNs s now e)

/-- An event that is neither a write to word `i` nor the action keeps that word, when it is not
the chip control word.
Source: `hw/watchdog/apple_wdt.c` `wdt_reg_write`, `wdt_reg_read`, `wdt_update`
Kind: L -/
theorem wdtStep_reg (s : AppleWDTState) (now : ℕ) (e : WdtEvent) {i : Fin 8} (hi : i ≠ 3)
    (hno : ∀ addr data, e = .write addr data → addr / 4 ≠ i.val)
    (ha : (wdtStep s now e).2 ≠ .action) : (wdtStep s now e).1.reg i = s.reg i := by
  cases e with
  | write addr data =>
    by_cases hsize : REG_SIZE ≤ addr
    · rw [wdtStep, wdtRegWrite_of_le hsize]
    · exact (wdtRegWrite_of_lt s now data (Nat.lt_of_not_le hsize)).2.1 i (hno addr data rfl).symm
  | read addr => rfl
  | expire =>
    refine (wdtUpdate_frame { s with timer := none } now).2 ?_ i hi
    -- the step shows the action exactly when the update ran it
    cases hupd : (wdtUpdate { s with timer := none } now).2
    · rfl
    · simp [wdtStep, hupd] at ha

/-- A run with no write to word `i` and no action keeps that word.
Source: `hw/watchdog/apple_wdt.c` `wdt_reg_write`, `wdt_reg_read`, `wdt_update`
Kind: L -/
theorem wdtRun_reg {i : Fin 8} (hi : i ≠ 3) :
    ∀ (evs : List (ℕ × WdtEvent)) (s : AppleWDTState),
      (∀ e ∈ evs, ∀ addr data, e.2 = .write addr data → addr / 4 ≠ i.val) →
      WdtObs.action ∉ (wdtRun s evs).2 → (wdtRun s evs).1.reg i = s.reg i
  | [], _, _, _ => rfl
  | (now, e) :: evs, s, hno, hact => by
    have hact' : WdtObs.action ∉ (wdtStep s now e).2 :: (wdtRun (wdtStep s now e).1 evs).2 := hact
    rw [List.mem_cons, not_or] at hact'
    show (wdtRun (wdtStep s now e).1 evs).1.reg i = s.reg i
    rw [wdtRun_reg hi evs _ (fun e' he' => hno e' (List.mem_cons_of_mem _ he')) hact'.2,
      wdtStep_reg s now e hi (fun a d he => hno _ List.mem_cons_self a d he) (Ne.symm hact'.1)]

/-- Running two lists one after the other is running the first, then the second. -/
theorem wdtRun_append (s : AppleWDTState) :
    ∀ pre post : List (ℕ × WdtEvent),
      (wdtRun s (pre ++ post)).1 = (wdtRun (wdtRun s pre).1 post).1
  | [], _ => rfl
  | (now, e) :: pre, post => wdtRun_append (wdtStep s now e).1 pre post

/-- The two timer registers: the word each names, what a read returns and what a write stores.
Source: `hw/watchdog/apple_wdt.c` `wdt_reg_write`, `wdt_reg_read`
Kind: L -/
theorem timer_register {addr : ℕ} (haddr : addr = REG_CHIP_WDOG_TMR ∨ addr = REG_SYS_WDOG_TMR) :
    ∃ i : Fin 8, i ≠ 3 ∧ i.val = addr / 4 ∧
      (∀ s t, wdtRegRead s t addr = wdtGetClock s t - s.reg i) ∧
      ∀ s t data, (wdtRegWrite s t addr data).reg i = wdtGetClock s t - data.toUInt32 := by
  rcases haddr with rfl | rfl
  · refine ⟨0, by decide, rfl, fun s t => rfl, fun s t data => ?_⟩
    simp [wdtRegWrite, REG_SIZE, REG_CHIP_WDOG_TMR]
  · refine ⟨4, by decide, rfl, fun s t => rfl, fun s t data => ?_⟩
    simp [wdtRegWrite, REG_SIZE, REG_SYS_WDOG_TMR, REG_CHIP_WDOG_TMR, REG_CHIP_WDOG_CTL]

/-- **A timer register reads the value last written to it plus the ticks since, modulo `2^32`,
until the watchdog acts.**
Source: `hw/watchdog/apple_wdt.c` `wdt_reg_write`, `wdt_reg_read`, `wdt_get_clock`
Kind: L -/
theorem wdtRegRead_timer_of_run (s : AppleWDTState) (pre post : List (ℕ × WdtEvent))
    {tw t addr : ℕ} (data : UInt64) (haddr : addr = REG_CHIP_WDOG_TMR ∨ addr = REG_SYS_WDOG_TMR)
    (htw : tw ≤ t) (hno : ∀ e ∈ post, ∀ a d, e.2 = .write a d → a / 4 ≠ addr / 4)
    (hact : WdtObs.action ∉ (wdtRun (wdtRegWrite (wdtRun s pre).1 tw addr data) post).2) :
    wdtRegRead (wdtRun s (pre ++ (tw, .write addr data) :: post)).1 t addr =
      data.toUInt32 + UInt32.ofNat (t / s.cntPeriodNs - tw / s.cntPeriodNs) := by
  obtain ⟨i, hi, hidx, hread, hwrite⟩ := timer_register haddr
  -- the tick never changes
  have hP₁ := wdtRun_cntPeriodNs pre s
  have hP₂ : (wdtRegWrite (wdtRun s pre).1 tw addr data).cntPeriodNs = s.cntPeriodNs :=
    (wdtStep_cntPeriodNs _ tw (.write addr data)).trans hP₁
  have hP₃ := wdtRun_cntPeriodNs post (wdtRegWrite (wdtRun s pre).1 tw addr data)
  have hreg := wdtRun_reg hi post (wdtRegWrite (wdtRun s pre).1 tw addr data)
    (fun e he a d hed => hidx ▸ hno e he a d hed) hact
  rw [wdtRun_append]
  show wdtRegRead (wdtRun (wdtRegWrite (wdtRun s pre).1 tw addr data) post).1 t addr = _
  -- `clock(t) - (clock(tw) - v)` is `v` plus the clock's move
  rw [hread, hreg, hwrite, wdtGetClock, wdtGetClock, hP₃, hP₂, hP₁, sub_sub_eq_add_sub, add_comm,
    add_sub_assoc, ← wdtGetClock, ← wdtGetClock, wdtGetClock_sub s htw]

/-! ## The watchdog's timers and deadlines -/

/-- **The watchdog's timers and deadlines.** A timer register reads the value last written to it
plus the ticks since, modulo `2^32`, as long as the watchdog has not acted since; a deadline (a
reset or the chip interrupt) below its counter, from a write on, waits for the tick in which its
timer reaches the counter through every timely run that leaves its words alone, and fires
exactly in that tick; the action runs exactly when a reset fires, the interrupt rises when it
fires and no reset does, and a control write carrying `ACK_IRQ` lowers it.
Source: `hw/watchdog/apple_wdt.c` `wdt_update`, `wdt_reg_write`, `wdt_reg_read`
Kind: P -/
theorem apple_wdt_timers_and_deadlines :
    (∀ (s : AppleWDTState) (pre post : List (ℕ × WdtEvent)) (tw t addr : ℕ) (data : UInt64),
      (addr = REG_CHIP_WDOG_TMR ∨ addr = REG_SYS_WDOG_TMR) → tw ≤ t →
      (∀ e ∈ post, ∀ a d, e.2 = .write a d → a / 4 ≠ addr / 4) →
      WdtObs.action ∉ (wdtRun (wdtRegWrite (wdtRun s pre).1 tw addr data) post).2 →
      wdtRegRead (wdtRun s (pre ++ (tw, .write addr data) :: post)).1 t addr =
        data.toUInt32 + UInt32.ofNat (t / s.cntPeriodNs - tw / s.cntPeriodNs)) ∧
    (∀ ch ∈ wdtChannels, ∀ (s : AppleWDTState) (t : ℕ) (evs : List (ℕ × WdtEvent)),
      s.timer = some t → (ch.value s t).toNat ≤ (s.reg ch.counter).toNat →
      WdtTimely s t evs → ch.NoTouch evs →
      ch.Waiting (ch.reachTick s t) (wdtRun s evs).1 (wdtEndTime t evs)) ∧
    (∀ ch ∈ wdtChannels, ∀ (R : ℕ) (s : AppleWDTState) (t : ℕ),
      ch.Waiting R s t → ch.Armed s → (ch.Fires s t ↔ t / s.cntPeriodNs = R)) ∧
    (∀ (s : AppleWDTState) (t : ℕ),
      (wdtUpdate s t).2 = true ↔ wdtChipReset.Fires s t ∨ wdtSysReset.Fires s t) ∧
    (∀ (s : AppleWDTState) (t : ℕ),
      (wdtUpdate s t).2 = false → wdtChipIrq.Fires s t → (wdtUpdate s t).1.irq = true) ∧
    (∀ (s : AppleWDTState) (now : ℕ) (data : UInt64),
      data.toUInt32 &&& WDOG_CTL_ACK_IRQ ≠ 0 →
        (wdtRegWrite s now REG_CHIP_WDOG_CTL data).irq = false) := by
  refine ⟨?_, ?_, ?_, wdtUpdate_action_iff, ?_, ?_⟩
  · intro s pre post tw t addr data haddr htw hno hact
    exact wdtRegRead_timer_of_run s pre post data haddr htw hno hact
  · intro ch hch s t evs htimer hv htimely hno
    exact Waiting.run hch evs s t (waiting_of_timer htimer hv) htimely hno
  · intro ch _ R s t hw harm
    exact Waiting.fires_iff hw harm
  · intro s t hquiet hf
    exact wdtUpdate_irq_of_fires hquiet hf
  · intro s now data hack
    exact wdtRegWrite_ctl_ack hack

/-- The chip reset armed at time 0: reset counter 6, chip timer 5, then `EN_RESET`.
Source: none: fixture
Kind: D -/
def wdtChipResetArmed : AppleWDTState :=
  (wdtRun appleWdtRealize [(0, .write REG_CHIP_WDOG_RST_CNT 6), (0, .write REG_CHIP_WDOG_TMR 5),
    (0, .write REG_CHIP_WDOG_CTL 4)]).1

/-- The chip interrupt armed at time 0: interrupt counter 6, chip timer 5, then `EN_IRQ`.
Source: none: fixture
Kind: D -/
def wdtChipIrqArmed : AppleWDTState :=
  (wdtRun appleWdtRealize [(0, .write REG_CHIP_WDOG_INTR_CNT 6), (0, .write REG_CHIP_WDOG_TMR 5),
    (0, .write REG_CHIP_WDOG_CTL 1)]).1

/-- The chip's deadlines from time 0, one tick being 41 ns: the chip timer written 5 reads 7
two ticks on; the armed chip reset waits through the first expiry and a read at 41 ns for
tick 1, fires then and runs the action; the armed interrupt rises at 41 ns, and a control write
of `ACK_IRQ` lowers it. -/
theorem apple_wdt_timers_and_deadlines_chip :
    wdtRegRead (wdtRun appleWdtRealize ([] ++ [(0, .write REG_CHIP_WDOG_TMR 5)])).1 82
        REG_CHIP_WDOG_TMR =
      (5 : UInt64).toUInt32 +
        UInt32.ofNat (82 / appleWdtRealize.cntPeriodNs - 0 / appleWdtRealize.cntPeriodNs) ∧
    wdtChipReset.Waiting 1
      (wdtRun wdtChipResetArmed [(0, .expire), (41, .read REG_CHIP_WDOG_TMR)]).1 41 ∧
    wdtChipReset.Fires
      (wdtRun wdtChipResetArmed [(0, .expire), (41, .read REG_CHIP_WDOG_TMR)]).1 41 ∧
    (wdtUpdate (wdtRun wdtChipResetArmed [(0, .expire), (41, .read REG_CHIP_WDOG_TMR)]).1 41).2 =
      true ∧
    (wdtUpdate wdtChipIrqArmed 41).1.irq = true ∧
    (wdtRegWrite (wdtUpdate wdtChipIrqArmed 41).1 82 REG_CHIP_WDOG_CTL 2).irq = false := by
  obtain ⟨htimer, hrun, hfires, haction, hirq, hack⟩ := apple_wdt_timers_and_deadlines
  have hR : wdtChipReset.reachTick wdtChipResetArmed 0 = 1 := by decide
  have hw := hrun wdtChipReset (by decide) wdtChipResetArmed 0
    [(0, .expire), (41, .read REG_CHIP_WDOG_TMR)] (by decide) (by decide) (by decide)
    (fun e he a d h => by rcases List.mem_pair.mp he with rfl | rfl <;> cases h)
  rw [hR] at hw
  have hf := (hfires wdtChipReset (by decide) 1 _ 41 hw (by decide)).mpr (by decide)
  exact ⟨htimer appleWdtRealize [] [] 0 82 REG_CHIP_WDOG_TMR 5 (.inl rfl) (by decide)
      (fun _ he => absurd he List.not_mem_nil) (by decide),
    hw, hf, (haction _ 41).mpr (.inl hf), hirq _ 41 (by decide) ⟨by decide, by decide⟩,
    hack _ 82 2 (by decide)⟩

/-- With the reset counter 6, the chip timer written 5 and `EN_RESET` set at time 0, the reset
fires one tick later, at 41 ns, and zeroes the registers: at 82 ns the chip timer reads the
raw tick count 2, not 5 plus the two ticks since the write.
Source: `hw/watchdog/apple_wdt.c` `wdt_update`, `apple_wdt_reset`, `wdt_reg_read`
Kind: P -/
theorem apple_wdt_timer_reads_clock_after_reset :
    WdtTimely appleWdtRealize 0
        [(0, .write REG_CHIP_WDOG_RST_CNT 6), (0, .write REG_CHIP_WDOG_TMR 5),
          (0, .write REG_CHIP_WDOG_CTL 4), (0, .expire), (41, .expire),
          (82, .read REG_CHIP_WDOG_TMR)] ∧
      (wdtRun appleWdtRealize
        [(0, .write REG_CHIP_WDOG_RST_CNT 6), (0, .write REG_CHIP_WDOG_TMR 5),
          (0, .write REG_CHIP_WDOG_CTL 4), (0, .expire), (41, .expire),
          (82, .read REG_CHIP_WDOG_TMR)]).2 =
        [.quiet, .quiet, .quiet, .quiet, .action, .value 2] ∧
      (2 : UInt32) ≠
        5 + UInt32.ofNat (82 / appleWdtRealize.cntPeriodNs - 0 / appleWdtRealize.cntPeriodNs) := by
  decide

end QemuAppleSilicon.Watchdog
