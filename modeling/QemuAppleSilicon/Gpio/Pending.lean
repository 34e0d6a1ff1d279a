import QemuAppleSilicon.Gpio.AppleGpio

/-!
# The GPIO pending bitmaps and the group lines (`hw/gpio/apple_gpio.c`)

Two laws a level-triggered interrupt controller is expected to keep:

* the level law (`LevelInv`): a pin whose configuration names a group and whose level trigger
  holds for its input (`configFires`: high for `CFG_INT_LVL_HI`, low for `CFG_INT_LVL_LO`) has its
  bit set in that group's bitmap;
* the line law (`LineInv`): group `g`'s line is high exactly when its bitmap has a bit set
  below `pin_count` (what `find_first_bit32` looks at).

Each handler is described once by its effect on the configurations, the inputs, the bits and the
lines (`*_spec` lemmas below), and the laws are derived from those.

* `levelInv_gpioRun` — every run without a write to the `REG_GPIOINT` windows keeps the level law:
  configuration writes, input changes and resets all do.
* `lineInv_gpioRun` — with at least 16 pins every run without a reset keeps the line law.
* `gpio_pending_laws_broken` — neither law holds over all reachable states: from any state, after
  a reset, a level-high configuration of pin 0 in group 0 and input 1 on it, a write of one to the
  window clears the bit while the input stays 1 and nothing sets it again; and a second reset
  clears the bitmap but leaves the line high.
-/

namespace QemuAppleSilicon.Gpio

open QemuAppleSilicon.Lib QemuAppleSilicon.Qemu AppleGPIOState

/-! ## Bits of the bitmaps -/

/-- Bit `pin` of group `g`'s bitmap is set.
Source: `hw/gpio/apple_gpio.c` (`&s->int_config[g * s->pin_count]`)
Kind: D -/
def PendingBit (s : AppleGPIOState) (g pin : ℕ) : Prop :=
  testBit32 (s.pendingNr g pin) s.intConfig = true

/-- Group `g`'s bitmap has a bit set below `pin_count`.
Source: `hw/gpio/apple_gpio.c` (`find_first_bit32(..., s->pin_count)`)
Kind: D -/
def GroupPending (s : AppleGPIOState) (g : ℕ) : Prop :=
  ∃ k < s.pinCount, PendingBit s g k

/-- Bits of pins below `pin_count` name their group and pin: the groups' bitmaps are disjoint. -/
theorem pendingNr_eq_iff (s : AppleGPIOState) {g g' p p' : ℕ} (hp : p < s.pinCount)
    (hp' : p' < s.pinCount) : s.pendingNr g p = s.pendingNr g' p' ↔ g = g' ∧ p = p' := by
  constructor
  · intro h
    have hm : 0 < s.pinCount * 32 := by omega
    have hcancel : ∀ x q, q < s.pinCount → (x * s.pinCount * 32 + q) / (s.pinCount * 32) = x := by
      intro x q hq
      rw [Nat.mul_assoc, Nat.mul_comm x, Nat.mul_add_div hm, Nat.div_eq_of_lt (by omega),
        Nat.add_zero]
    have hg : g = g' := by
      have := congrArg (· / (s.pinCount * 32)) h
      simpa only [pendingNr, hcancel _ _ hp, hcancel _ _ hp'] using this
    subst hg
    exact ⟨rfl, by simpa only [pendingNr, Nat.add_left_cancel_iff] using h⟩
  · rintro ⟨rfl, rfl⟩
    rfl

/-- **`find_first_bit32` over a group's bitmap finds a bit exactly when one below `pin_count` is
set.**
Source: `hw/gpio/apple_gpio.c` `apple_gpio_update_pincfg`, `apple_gpio_set`
Kind: L -/
theorem groupLevel_eq_true_iff (s : AppleGPIOState) (g : ℕ) :
    s.groupLevel g = true ↔ GroupPending s g := by
  rw [groupLevel, bne_iff_ne, findFirstBit32_ne_size_iff]
  unfold groupBits
  simp only [testBit32_shift]
  rfl

/-- Clearing bits only removes pending bits. -/
theorem groupPending_mono {s t : AppleGPIOState} {g : ℕ} (hpc : t.pinCount = s.pinCount)
    (hbits : ∀ k < s.pinCount, PendingBit t g k → PendingBit s g k) (h : GroupPending t g) :
    GroupPending s g := by
  obtain ⟨k, hk, hbit⟩ := h
  rw [hpc] at hk
  exact ⟨k, hk, hbits k hk (by simpa only [PendingBit, pendingNr, hpc] using hbit)⟩

/-! ## The configuration word -/

/-- The bits `apple_gpio_update_pincfg` adjusts with `DATA_1` lie outside a mask without bit 0.
Source: `hw/gpio/apple_gpio.c` `apple_gpio_update_pincfg`
Kind: L -/
theorem and_data1_mask {M : UInt32} (hM : ¬ Bit M 0) (v : UInt32) :
    (v &&& ~~~DATA_1) &&& M = v &&& M ∧ (v ||| DATA_1) &&& M = v &&& M := by
  have hdata : ∀ k, Bit DATA_1 k ↔ k = 0 := fun k => bit_one_shiftLeft (n := 0) (by decide)
  have hM0 : ∀ k, Bit M k → k ≠ 0 := by
    rintro k hk rfl
    exact hM hk
  constructor
  · apply ext_bit
    intro k
    simp only [bit_and, bit_not, hdata]
    constructor
    · rintro ⟨⟨hv, _⟩, hk⟩
      exact ⟨hv, hk⟩
    · rintro ⟨hv, hk⟩
      exact ⟨⟨hv, lt_of_bit hk, hM0 k hk⟩, hk⟩
  · apply ext_bit
    intro k
    simp only [bit_and, bit_or, hdata]
    constructor
    · rintro ⟨hv | rfl, hk⟩
      · exact ⟨hv, hk⟩
      · exact absurd hk hM
    · rintro ⟨hv, hk⟩
      exact ⟨Or.inl hv, hk⟩

/-- The configuration `apple_gpio_update_pincfg` stores agrees with the value written on every
mask without bit 0: on the group and on the trigger.
Source: `hw/gpio/apple_gpio.c` `apple_gpio_update_pincfg`
Kind: L -/
theorem storePincfg_gpioCfg_mask (s : AppleGPIOState) (pin : ℕ) (v : UInt32) {M : UInt32}
    (hM : ¬ Bit M 0) : (storePincfg s pin v).gpioCfg pin &&& M = v &&& M := by
  have hd := and_data1_mask hM v
  unfold storePincfg
  dsimp only
  split_ifs <;> simp only [Function.update_self, hd]

theorem storePincfg_gpioCfg_of_ne (s : AppleGPIOState) {pin p : ℕ} (v : UInt32) (h : p ≠ pin) :
    (storePincfg s pin v).gpioCfg p = s.gpioCfg p := by
  unfold storePincfg
  dsimp only
  split_ifs <;> exact Function.update_of_ne h _ _

@[simp] theorem intConfig_storePincfg (s : AppleGPIOState) (pin : ℕ) (v : UInt32) :
    (storePincfg s pin v).intConfig = s.intConfig := by
  unfold storePincfg
  split_ifs <;> rfl

@[simp] theorem inBits_storePincfg (s : AppleGPIOState) (pin : ℕ) (v : UInt32) :
    (storePincfg s pin v).inBits = s.inBits := by
  unfold storePincfg
  split_ifs <;> rfl

@[simp] theorem irqs_storePincfg (s : AppleGPIOState) (pin : ℕ) (v : UInt32) :
    (storePincfg s pin v).irqs = s.irqs := by
  unfold storePincfg
  split_ifs <;> rfl

theorem not_bit_intMasked_zero : ¬ Bit INT_MASKED 0 := by decide

theorem not_bit_cfgMask_zero : ¬ Bit CFG_MASK 0 := by decide

theorem mul_add_eq_mul_add_iff {n a b x y : ℕ} (ha : a < n) (hb : b < n) :
    x * n + a = y * n + b ↔ x = y ∧ a = b := by
  constructor
  · intro h
    have hdiv : ∀ z c, c < n → (z * n + c) / n = z := by
      intro z c hc
      rw [Nat.mul_comm z n, Nat.mul_add_div (by omega), Nat.div_eq_of_lt hc, Nat.add_zero]
    have hxy : x = y := by rw [← hdiv x a ha, h, hdiv y b hb]
    subst hxy
    exact ⟨rfl, by omega⟩
  · rintro ⟨rfl, rfl⟩
    rfl

theorem pendingNr_of_pinCount {s t : AppleGPIOState} (h : t.pinCount = s.pinCount) :
    t.pendingNr = s.pendingNr := by
  funext g pin
  rw [pendingNr, pendingNr, h]

/-- A word of group `g'`'s region `g' * pin_count + j` holds no bit of another group. -/
theorem pendingNr_div_ne (s : AppleGPIOState) {g g' k j : ℕ} (hk : k < s.pinCount)
    (hj : j < s.pinCount) (hg : g ≠ g') : s.pendingNr g k / 32 ≠ g' * s.pinCount + j := by
  have hdiv : s.pendingNr g k / 32 = g * s.pinCount + k / 32 := by
    rw [pendingNr]
    omega
  rw [hdiv, Ne, mul_add_eq_mul_add_iff (by omega) hj]
  exact fun h => hg h.1

/-! ## What each handler does to the configurations, the inputs, the bits and the lines -/

section Handlers

variable (s : AppleGPIOState)

@[simp] theorem gpioCfg_updatePincfgIrq (pin : ℕ) (v : UInt32) :
    (updatePincfgIrq s pin v).1.gpioCfg = s.gpioCfg := by
  unfold updatePincfgIrq
  dsimp only
  split_ifs <;> rfl

@[simp] theorem inBits_updatePincfgIrq (pin : ℕ) (v : UInt32) :
    (updatePincfgIrq s pin v).1.inBits = s.inBits := by
  unfold updatePincfgIrq
  dsimp only
  split_ifs <;> rfl

theorem intConfig_updatePincfgIrq (pin : ℕ) (v : UInt32) :
    (updatePincfgIrq s pin v).1.intConfig =
      if configFires (v &&& CFG_MASK) (testBit32 pin s.inBits) then
        setBit32 (s.pendingNr (intGroup v) pin) (clearBit32 (s.pendingNr (intGroup v) pin) s.intConfig)
      else clearBit32 (s.pendingNr (intGroup v) pin) s.intConfig := by
  unfold updatePincfgIrq
  dsimp only
  split_ifs <;> rfl

/-- **The bits after the interrupt half of `apple_gpio_update_pincfg`**: the pin's bit in the
group the value names is whether the level trigger holds; every other bit is kept.
Source: `hw/gpio/apple_gpio.c` `apple_gpio_update_pincfg`
Kind: L -/
theorem testBit32_updatePincfgIrq (pin : ℕ) (v : UInt32) (n : ℕ) :
    testBit32 n (updatePincfgIrq s pin v).1.intConfig =
      if n = s.pendingNr (intGroup v) pin then configFires (v &&& CFG_MASK) (testBit32 pin s.inBits)
      else testBit32 n s.intConfig := by
  rw [intConfig_updatePincfgIrq]
  by_cases hn : n = s.pendingNr (intGroup v) pin
  · split_ifs with hf <;> simp [testBit32_setBit32_eq, testBit32_clearBit32_eq, hn, hf]
  · split_ifs <;> simp [testBit32_setBit32_eq, testBit32_clearBit32_eq, hn]

/-- The line of the group the value names is set from that group's bitmap; the others are kept.
Source: `hw/gpio/apple_gpio.c` `apple_gpio_update_pincfg`
Kind: L -/
theorem irqs_updatePincfgIrq (pin : ℕ) (v : UInt32) :
    (updatePincfgIrq s pin v).1.irqs =
      Function.update s.irqs (intGroup v) ((updatePincfgIrq s pin v).1.groupLevel (intGroup v)) := by
  unfold updatePincfgIrq
  dsimp only
  split_ifs <;> rfl

@[simp] theorem gpioCfg_appleGpioSet (pin : ℕ) (level : Bool) :
    (appleGpioSet s pin level).1.gpioCfg = s.gpioCfg := by
  unfold appleGpioSet
  dsimp only
  split_ifs <;> rfl

@[simp] theorem pinCount_appleGpioSet (pin : ℕ) (level : Bool) :
    (appleGpioSet s pin level).1.pinCount = s.pinCount := by
  unfold appleGpioSet
  dsimp only
  split_ifs <;> rfl

@[simp] theorem irqGroupCount_appleGpioSet (pin : ℕ) (level : Bool) :
    (appleGpioSet s pin level).1.irqGroupCount = s.irqGroupCount := by
  unfold appleGpioSet
  dsimp only
  split_ifs <;> rfl

/-- An input change on a pin below `pin_count` sets or clears that input bit.
Source: `hw/gpio/apple_gpio.c` `apple_gpio_set`
Kind: L -/
theorem inBits_appleGpioSet {pin : ℕ} (hpin : pin < s.pinCount) (level : Bool) :
    (appleGpioSet s pin level).1.inBits =
      if level then setBit32 pin s.inBits else clearBit32 pin s.inBits := by
  unfold appleGpioSet
  dsimp only
  rw [if_neg (by omega)]
  split_ifs <;> rfl

/-- **The bits after `apple_gpio_set`**: the pin's bit in its group is set when the pin names a
group and its trigger fires on the change from `in_old`; nothing is cleared.
Source: `hw/gpio/apple_gpio.c` `apple_gpio_set`
Kind: L -/
theorem intConfig_appleGpioSet (pin : ℕ) (level : Bool) :
    (appleGpioSet s pin level).1.intConfig =
      if pin < s.pinCount ∧ s.gpioCfg pin &&& INT_MASKED ≠ INT_MASKED ∧
          inputFires (s.gpioCfg pin &&& CFG_MASK) (testBit32 pin s.inOld) level = true then
        setBit32 (s.pendingNr (intGroup (s.gpioCfg pin)) pin) s.intConfig
      else s.intConfig := by
  unfold appleGpioSet
  dsimp only
  by_cases hpin : s.pinCount ≤ pin
  · rw [if_pos hpin, if_neg (by omega)]
  · rw [if_neg hpin]
    by_cases hun : s.gpioCfg pin &&& INT_MASKED ≠ INT_MASKED
    · by_cases hf : inputFires (s.gpioCfg pin &&& CFG_MASK) (testBit32 pin s.inOld) level = true
      · have hc : pin < s.pinCount ∧ s.gpioCfg pin &&& INT_MASKED ≠ INT_MASKED ∧
            inputFires (s.gpioCfg pin &&& CFG_MASK) (testBit32 pin s.inOld) level = true :=
          ⟨by omega, hun, hf⟩
        rw [if_pos hun, if_pos hf, if_pos hc]
        rfl
      · have hc : ¬ (pin < s.pinCount ∧ s.gpioCfg pin &&& INT_MASKED ≠ INT_MASKED ∧
            inputFires (s.gpioCfg pin &&& CFG_MASK) (testBit32 pin s.inOld) level = true) :=
          fun h => hf h.2.2
        rw [if_pos hun, if_neg hf, if_neg hc]
        rfl
    · have hc : ¬ (pin < s.pinCount ∧ s.gpioCfg pin &&& INT_MASKED ≠ INT_MASKED ∧
          inputFires (s.gpioCfg pin &&& CFG_MASK) (testBit32 pin s.inOld) level = true) :=
        fun h => hun h.2.1
      rw [if_neg hun, if_neg hc]

/-- An input change on a pin that names a group sets that group's line from its bitmap.
Source: `hw/gpio/apple_gpio.c` `apple_gpio_set`
Kind: L -/
theorem irqs_appleGpioSet (pin : ℕ) (level : Bool) :
    (appleGpioSet s pin level).1.irqs =
      if pin < s.pinCount ∧ s.gpioCfg pin &&& INT_MASKED ≠ INT_MASKED then
        Function.update s.irqs (intGroup (s.gpioCfg pin))
          ((appleGpioSet s pin level).1.groupLevel (intGroup (s.gpioCfg pin)))
      else s.irqs := by
  unfold appleGpioSet
  dsimp only
  by_cases hpin : s.pinCount ≤ pin
  · rw [if_pos hpin, if_neg (by omega)]
  · rw [if_neg hpin]
    by_cases hun : s.gpioCfg pin &&& INT_MASKED ≠ INT_MASKED
    · have hc : pin < s.pinCount ∧ s.gpioCfg pin &&& INT_MASKED ≠ INT_MASKED := ⟨by omega, hun⟩
      rw [if_pos hun, if_pos hc]
      split_ifs <;> rfl
    · have hc : ¬ (pin < s.pinCount ∧ s.gpioCfg pin &&& INT_MASKED ≠ INT_MASKED) := fun h => hun h.2
      rw [if_neg hun, if_neg hc]

@[simp] theorem gpioCfg_appleGpioIntWrite (group addr : ℕ) (v : UInt32) :
    (appleGpioIntWrite s group addr v).1.gpioCfg = s.gpioCfg := by
  unfold appleGpioIntWrite
  dsimp only
  split_ifs <;> rfl

@[simp] theorem inBits_appleGpioIntWrite (group addr : ℕ) (v : UInt32) :
    (appleGpioIntWrite s group addr v).1.inBits = s.inBits := by
  unfold appleGpioIntWrite
  dsimp only
  split_ifs <;> rfl

/-- **The bits after a write to a group's window**: the word named loses the bits written.
Source: `hw/gpio/apple_gpio.c` `apple_gpio_int_write`
Kind: L -/
theorem intConfig_appleGpioIntWrite {group : ℕ} (hg : group < s.irqGroupCount) (addr : ℕ)
    (v : UInt32) :
    (appleGpioIntWrite s group addr v).1.intConfig =
      Function.update s.intConfig (s.intWord group addr)
        (s.intConfig (s.intWord group addr) &&& ~~~v) := by
  unfold appleGpioIntWrite
  dsimp only
  rw [if_neg (by omega)]
  split_ifs <;> rfl

/-- The write lowers the group's line when its bitmap is left empty, and keeps the lines otherwise.
Source: `hw/gpio/apple_gpio.c` `apple_gpio_int_write`
Kind: L -/
theorem irqs_appleGpioIntWrite {group : ℕ} (hg : group < s.irqGroupCount) (addr : ℕ) (v : UInt32) :
    (appleGpioIntWrite s group addr v).1.irqs =
      if (appleGpioIntWrite s group addr v).1.groupLevel group then s.irqs
      else Function.update s.irqs group false := by
  unfold appleGpioIntWrite
  dsimp only
  rw [if_neg (by omega)]
  -- the line is read back from the state the write returns, which has the same bitmaps
  split_ifs with h1 h2 <;> first | rfl | exact absurd h1 h2 | exact absurd h2 h1

/-- A write outside the groups changes nothing.
Source: `hw/gpio/apple_gpio.c` `apple_gpio_int_write`
Kind: L -/
theorem appleGpioIntWrite_of_le {group : ℕ} (hg : s.irqGroupCount ≤ group) (addr : ℕ)
    (v : UInt32) : (appleGpioIntWrite s group addr v).1 = s := by
  unfold appleGpioIntWrite
  rw [if_pos hg]

/-- A configuration write to a pin at or above `pin_count` changes nothing.
Source: `hw/gpio/apple_gpio.c` `apple_gpio_cfg_write`
Kind: L -/
theorem appleGpioCfgWrite_of_le {pin : ℕ} (hpin : s.pinCount ≤ pin) (v : UInt32) :
    (appleGpioCfgWrite s pin v).1 = s := by
  unfold appleGpioCfgWrite
  rw [if_pos hpin]

/-- A configuration write to a pin below `pin_count` stores the configuration after the
interrupt half, which runs when the value names a group.
Source: `hw/gpio/apple_gpio.c` `apple_gpio_cfg_write`, `apple_gpio_update_pincfg`
Kind: L -/
theorem appleGpioCfgWrite_of_lt {pin : ℕ} (hpin : pin < s.pinCount) (v : UInt32) :
    (appleGpioCfgWrite s pin v).1 =
      storePincfg (if v &&& INT_MASKED ≠ INT_MASKED then (updatePincfgIrq s pin v).1 else s)
        pin v := by
  unfold appleGpioCfgWrite appleGpioUpdatePincfg
  rw [if_neg (by omega)]
  dsimp only
  split_ifs <;> rfl

end Handlers

/-! ## Register dispatch -/

/-- The configuration registers go to `apple_gpio_cfg_write` of their pin.
Source: `hw/gpio/apple_gpio.c` `apple_gpio_reg_write`
Kind: L -/
theorem appleGpioRegWrite_cfg (s : AppleGPIOState) {pin : ℕ} (hpin : pin < GPIO_MAX_PIN_NR)
    (data : UInt64) : appleGpioRegWrite s (REG_GPIOCFG pin) data = appleGpioCfgWrite s pin data.toUInt32 := by
  have hreg : REG_GPIOCFG 0 ≤ REG_GPIOCFG pin ∧ REG_GPIOCFG pin ≤ REG_GPIOCFG (GPIO_MAX_PIN_NR - 1) := by
    simp only [REG_GPIOCFG, GPIO_MAX_PIN_NR] at hpin ⊢
    omega
  have hpin' : (REG_GPIOCFG pin - REG_GPIOCFG 0) >>> 2 = pin := by
    simp only [REG_GPIOCFG, Nat.shiftRight_eq_div_pow]
    omega
  rw [appleGpioRegWrite, if_pos hreg, hpin']

/-- The first register of group `g`'s window goes to `apple_gpio_int_write` of group `g`.
Source: `hw/gpio/apple_gpio.c` `apple_gpio_reg_write`
Kind: L -/
theorem appleGpioRegWrite_int (s : AppleGPIOState) {g : ℕ} (hg : g ≤ GPIO_MAX_INT_GRP_NR)
    (data : UInt64) :
    appleGpioRegWrite s (REG_GPIOINT g 0) data =
      appleGpioIntWrite s g (REG_GPIOINT g 0) data.toUInt32 := by
  have hcfg : ¬ (REG_GPIOCFG 0 ≤ REG_GPIOINT g 0 ∧
      REG_GPIOINT g 0 ≤ REG_GPIOCFG (GPIO_MAX_PIN_NR - 1)) := by
    simp only [REG_GPIOINT_zero, REG_GPIOCFG, GPIO_MAX_PIN_NR]
    omega
  have hint : REG_GPIOINT 0 0 ≤ REG_GPIOINT g 0 ∧
      REG_GPIOINT g 0 ≤ REG_GPIOINT GPIO_MAX_INT_GRP_NR (GPIO_MAX_PIN_NR - 1) := by
    simp only [REG_GPIOINT, GPIO_MAX_INT_GRP_NR, GPIO_MAX_PIN_NR, Nat.shiftRight_eq_div_pow] at hg ⊢
    omega
  have hgrp : (REG_GPIOINT g 0 - REG_GPIOINT 0 0) >>> 6 = g := by
    simp only [REG_GPIOINT_zero, Nat.shiftRight_eq_div_pow]
    omega
  rw [appleGpioRegWrite, if_neg hcfg, if_pos hint, hgrp]

/-- The line a group computes depends only on the counts and the bitmaps. -/
theorem groupLevel_congr {s t : AppleGPIOState} (hpc : t.pinCount = s.pinCount)
    (hic : t.intConfig = s.intConfig) (g : ℕ) : t.groupLevel g = s.groupLevel g := by
  unfold groupLevel groupBits
  rw [hpc, hic]

theorem intGroup_congr {x y : UInt32} (h : x &&& INT_MASKED = y &&& INT_MASKED) :
    intGroup x = intGroup y := by
  unfold intGroup
  rw [h]

/-! ## One spec for each handler -/

/-- What a configuration write of `v` to a pin below `pin_count` leaves: the inputs kept, the
pin's configuration agreeing with `v` on the group and the trigger, the pin's bit in the group
`v` names set to whether the level trigger holds, and that group's line read from its bitmap.
Source: `hw/gpio/apple_gpio.c` `apple_gpio_cfg_write`, `apple_gpio_update_pincfg`
Kind: D -/
structure CfgWriteSpec (s t : AppleGPIOState) (pin : ℕ) (v : UInt32) : Prop where
  pinCount : t.pinCount = s.pinCount
  irqGroupCount : t.irqGroupCount = s.irqGroupCount
  inBits : t.inBits = s.inBits
  gpioCfg_ne : ∀ p ≠ pin, t.gpioCfg p = s.gpioCfg p
  intMasked : t.gpioCfg pin &&& INT_MASKED = v &&& INT_MASKED
  cfgMask : t.gpioCfg pin &&& CFG_MASK = v &&& CFG_MASK
  bits : ∀ n, testBit32 n t.intConfig =
    if v &&& INT_MASKED ≠ INT_MASKED ∧ n = s.pendingNr (intGroup v) pin then
      configFires (v &&& CFG_MASK) (testBit32 pin s.inBits)
    else testBit32 n s.intConfig
  irqs : t.irqs =
    if v &&& INT_MASKED ≠ INT_MASKED then
      Function.update s.irqs (intGroup v) (t.groupLevel (intGroup v))
    else s.irqs

/-- **`apple_gpio_cfg_write` meets its spec.**
Source: `hw/gpio/apple_gpio.c` `apple_gpio_cfg_write`, `apple_gpio_update_pincfg`
Kind: L -/
theorem appleGpioCfgWrite_spec (s : AppleGPIOState) {pin : ℕ} (hpin : pin < s.pinCount)
    (v : UInt32) : CfgWriteSpec s (appleGpioCfgWrite s pin v).1 pin v := by
  rw [appleGpioCfgWrite_of_lt s hpin]
  by_cases hv : v &&& INT_MASKED ≠ INT_MASKED
  · rw [if_pos hv]
    exact {
      pinCount := by simp
      irqGroupCount := by simp
      inBits := by simp
      gpioCfg_ne := fun p hp => by rw [storePincfg_gpioCfg_of_ne _ v hp, gpioCfg_updatePincfgIrq]
      intMasked := storePincfg_gpioCfg_mask _ pin v not_bit_intMasked_zero
      cfgMask := storePincfg_gpioCfg_mask _ pin v not_bit_cfgMask_zero
      bits := fun n => by
        rw [intConfig_storePincfg, testBit32_updatePincfgIrq]
        simp only [ne_eq, hv, not_false_eq_true, true_and]
      irqs := by
        rw [irqs_storePincfg, irqs_updatePincfgIrq, if_pos hv,
          groupLevel_congr (by simp) (intConfig_storePincfg _ pin v)] }
  · rw [if_neg hv]
    exact {
      pinCount := by simp
      irqGroupCount := by simp
      inBits := by simp
      gpioCfg_ne := fun p hp => storePincfg_gpioCfg_of_ne _ v hp
      intMasked := storePincfg_gpioCfg_mask _ pin v not_bit_intMasked_zero
      cfgMask := storePincfg_gpioCfg_mask _ pin v not_bit_cfgMask_zero
      bits := fun n => by
        rw [intConfig_storePincfg]
        simp only [hv, false_and, if_false]
      irqs := by rw [irqs_storePincfg, if_neg hv] }

/-- What an input change on a pin below `pin_count` leaves: the configurations kept, the pin's
input bit set to the level, the pin's bit in its group set when its trigger fires, and that
group's line read from its bitmap.
Source: `hw/gpio/apple_gpio.c` `apple_gpio_set`
Kind: D -/
structure SetSpec (s t : AppleGPIOState) (pin : ℕ) (level : Bool) : Prop where
  pinCount : t.pinCount = s.pinCount
  irqGroupCount : t.irqGroupCount = s.irqGroupCount
  gpioCfg : t.gpioCfg = s.gpioCfg
  inBits : ∀ p, testBit32 p t.inBits = if p = pin then level else testBit32 p s.inBits
  bits : ∀ n, testBit32 n t.intConfig =
    (testBit32 n s.intConfig || decide (s.gpioCfg pin &&& INT_MASKED ≠ INT_MASKED ∧
      inputFires (s.gpioCfg pin &&& CFG_MASK) (testBit32 pin s.inOld) level = true ∧
      n = s.pendingNr (intGroup (s.gpioCfg pin)) pin))
  irqs : t.irqs =
    if s.gpioCfg pin &&& INT_MASKED ≠ INT_MASKED then
      Function.update s.irqs (intGroup (s.gpioCfg pin)) (t.groupLevel (intGroup (s.gpioCfg pin)))
    else s.irqs

/-- **`apple_gpio_set` meets its spec.**
Source: `hw/gpio/apple_gpio.c` `apple_gpio_set`
Kind: L -/
theorem appleGpioSet_spec (s : AppleGPIOState) {pin : ℕ} (hpin : pin < s.pinCount)
    (level : Bool) : SetSpec s (appleGpioSet s pin level).1 pin level where
  pinCount := pinCount_appleGpioSet s pin level
  irqGroupCount := irqGroupCount_appleGpioSet s pin level
  gpioCfg := gpioCfg_appleGpioSet s pin level
  inBits p := by
    rw [inBits_appleGpioSet s hpin]
    by_cases hp : p = pin <;> cases level <;>
      simp [testBit32_setBit32_eq, testBit32_clearBit32_eq, hp]
  bits n := by
    rw [intConfig_appleGpioSet]
    split_ifs with hc
    · simp [testBit32_setBit32_eq, hc.2.1, hc.2.2]
    · have hfalse : decide (s.gpioCfg pin &&& INT_MASKED ≠ INT_MASKED ∧
          inputFires (s.gpioCfg pin &&& CFG_MASK) (testBit32 pin s.inOld) level = true ∧
          n = s.pendingNr (intGroup (s.gpioCfg pin)) pin) = false :=
        decide_eq_false fun h => hc ⟨hpin, h.1, h.2.1⟩
      rw [hfalse, Bool.or_false]
  irqs := by
    rw [irqs_appleGpioSet]
    simp only [hpin, true_and]

/-- What a write to the window of a group below `irq_group_count` leaves: the configurations and
inputs kept, the bits written cleared from the word named, and the group's line lowered when
its bitmap is left empty.
Source: `hw/gpio/apple_gpio.c` `apple_gpio_int_write`
Kind: D -/
structure IntWriteSpec (s t : AppleGPIOState) (group addr : ℕ) (v : UInt32) : Prop where
  pinCount : t.pinCount = s.pinCount
  irqGroupCount : t.irqGroupCount = s.irqGroupCount
  gpioCfg : t.gpioCfg = s.gpioCfg
  inBits : t.inBits = s.inBits
  bits : ∀ n, testBit32 n t.intConfig = true ↔
    testBit32 n s.intConfig = true ∧ (n / 32 = s.intWord group addr → ¬ Bit v (n % 32))
  irqs : t.irqs = if t.groupLevel group then s.irqs else Function.update s.irqs group false

/-- **`apple_gpio_int_write` meets its spec.**
Source: `hw/gpio/apple_gpio.c` `apple_gpio_int_write`
Kind: L -/
theorem appleGpioIntWrite_spec (s : AppleGPIOState) {group : ℕ} (hg : group < s.irqGroupCount)
    (addr : ℕ) (v : UInt32) : IntWriteSpec s (appleGpioIntWrite s group addr v).1 group addr v where
  pinCount := pinCount_appleGpioIntWrite s group addr v
  irqGroupCount := irqGroupCount_appleGpioIntWrite s group addr v
  gpioCfg := gpioCfg_appleGpioIntWrite s group addr v
  inBits := inBits_appleGpioIntWrite s group addr v
  bits n := by
    rw [intConfig_appleGpioIntWrite s hg]
    exact testBit32_update_and_not _ n v s.intConfig
  irqs := irqs_appleGpioIntWrite s hg addr v

/-- An input change on a pin at or above `pin_count` changes nothing.
Source: `hw/gpio/apple_gpio.c` `apple_gpio_set`
Kind: L -/
theorem appleGpioSet_of_le (s : AppleGPIOState) {pin : ℕ} (hpin : s.pinCount ≤ pin)
    (level : Bool) : (appleGpioSet s pin level).1 = s := by
  unfold appleGpioSet
  rw [if_pos hpin]

/-- Reset disables every pin below `pin_count`.
Source: `hw/gpio/apple_gpio.c` `apple_gpio_reset`
Kind: L -/
theorem gpioCfg_appleGpioReset (s : AppleGPIOState) {p : ℕ} (hp : p < s.pinCount) :
    (appleGpioReset s).gpioCfg p = CFG_DISABLED :=
  if_pos hp

/-- Reset clears the inputs of the pins below `pin_count`.
Source: `hw/gpio/apple_gpio.c` `apple_gpio_reset`
Kind: L -/
theorem testBit32_inBits_appleGpioReset (s : AppleGPIOState) {p : ℕ} (hp : p < s.pinCount) :
    testBit32 p (appleGpioReset s).inBits = false := by
  have hword : (appleGpioReset s).inBits (p / 32) = 0 := if_pos (by omega)
  rw [Bool.eq_false_iff, Ne, testBit32_iff, hword]
  exact bit_zero _

/-- Reset clears every bitmap of the groups below `irq_group_count`.
Source: `hw/gpio/apple_gpio.c` `apple_gpio_reset`
Kind: L -/
theorem not_pendingBit_appleGpioReset (s : AppleGPIOState) {g k : ℕ} (hg : g < s.irqGroupCount)
    (hk : k < s.pinCount) : ¬ PendingBit (appleGpioReset s) g k := by
  -- bit `k` of group `g` lies in word `g * pin_count + k / 32`, inside the array
  have hrow : (g + 1) * s.pinCount ≤ s.irqGroupCount * s.pinCount := Nat.mul_le_mul_right _ hg
  have hsucc : (g + 1) * s.pinCount = g * s.pinCount + s.pinCount := Nat.succ_mul g s.pinCount
  have hcomm : s.irqGroupCount * s.pinCount = s.pinCount * s.irqGroupCount := Nat.mul_comm _ _
  have hdiv : s.pendingNr g k / 32 = g * s.pinCount + k / 32 := by
    rw [pendingNr]
    omega
  have hword : (appleGpioReset s).intConfig (s.pendingNr g k / 32) = 0 := if_pos (by omega)
  rw [PendingBit, testBit32_iff]
  change ¬ Bit ((appleGpioReset s).intConfig (s.pendingNr g k / 32)) _
  rw [hword]
  exact bit_zero _

/-! ## The level law -/

/-- **The level law**: every pin below `pin_count` whose configuration names a group and whose
level trigger holds for its input has its bit set in that group's bitmap.
Source: `hw/gpio/apple_gpio.c` `apple_gpio_update_pincfg`, `apple_gpio_set`
Kind: D -/
def LevelInv (s : AppleGPIOState) : Prop :=
  ∀ p < s.pinCount, s.gpioCfg p &&& INT_MASKED ≠ INT_MASKED →
    configFires (s.gpioCfg p &&& CFG_MASK) (testBit32 p s.inBits) = true →
    PendingBit s (intGroup (s.gpioCfg p)) p

/-- A level trigger that holds for the new input fires on the change to it.
Source: `hw/gpio/apple_gpio.c` `apple_gpio_update_pincfg`, `apple_gpio_set`
Kind: L -/
theorem inputFires_of_configFires {mode : UInt32} {level : Bool} (old : Bool)
    (h : configFires mode level = true) : inputFires mode old level = true := by
  unfold configFires at h
  unfold inputFires
  split_ifs at h ⊢ <;> simp_all

/-- A configuration write keeps the level law: the pin written gets its bit from the trigger it
now has, and every other pin's bit lies elsewhere.
Source: `hw/gpio/apple_gpio.c` `apple_gpio_cfg_write`
Kind: L -/
theorem levelInv_appleGpioCfgWrite {s : AppleGPIOState} (h : LevelInv s) (pin : ℕ) (v : UInt32) :
    LevelInv (appleGpioCfgWrite s pin v).1 := by
  by_cases hpin : s.pinCount ≤ pin
  · rw [appleGpioCfgWrite_of_le s hpin]
    exact h
  have hs := appleGpioCfgWrite_spec s (by omega : pin < s.pinCount) v
  intro p hp hun hfire
  rw [hs.pinCount] at hp
  rw [hs.inBits] at hfire
  rw [PendingBit, hs.bits, pendingNr_of_pinCount hs.pinCount]
  by_cases hpq : p = pin
  · subst hpq
    rw [hs.intMasked] at hun
    rw [hs.cfgMask] at hfire
    have hc : v &&& INT_MASKED ≠ INT_MASKED ∧ s.pendingNr (intGroup v) p = s.pendingNr (intGroup v) p :=
      ⟨hun, rfl⟩
    rw [intGroup_congr hs.intMasked, if_pos hc]
    exact hfire
  · rw [hs.gpioCfg_ne p hpq] at hun hfire ⊢
    rw [if_neg fun hc => hpq ((pendingNr_eq_iff s hp (by omega)).mp hc.2).2]
    exact h p hp hun hfire

/-- An input change keeps the level law: a level trigger that holds for the new input fires on
the change and sets the bit, and the other pins' inputs and bits are kept.
Source: `hw/gpio/apple_gpio.c` `apple_gpio_set`
Kind: L -/
theorem levelInv_appleGpioSet {s : AppleGPIOState} (h : LevelInv s) (pin : ℕ) (level : Bool) :
    LevelInv (appleGpioSet s pin level).1 := by
  by_cases hpin : s.pinCount ≤ pin
  · rw [appleGpioSet_of_le s hpin]
    exact h
  have hs := appleGpioSet_spec s (by omega : pin < s.pinCount) level
  intro p hp hun hfire
  rw [hs.pinCount] at hp
  rw [hs.gpioCfg] at hun hfire ⊢
  rw [hs.inBits] at hfire
  rw [PendingBit, hs.bits, pendingNr_of_pinCount hs.pinCount, Bool.or_eq_true, decide_eq_true_eq]
  by_cases hpq : p = pin
  · subst hpq
    rw [if_pos rfl] at hfire
    exact Or.inr ⟨hun, inputFires_of_configFires _ hfire, rfl⟩
  · rw [if_neg hpq] at hfire
    exact Or.inl (h p hp hun hfire)

/-- Reset establishes the level law: it disables every pin.
Source: `hw/gpio/apple_gpio.c` `apple_gpio_reset`
Kind: L -/
theorem levelInv_appleGpioReset (s : AppleGPIOState) : LevelInv (appleGpioReset s) := by
  intro p hp hun
  rw [gpioCfg_appleGpioReset s hp] at hun
  exact absurd (by decide) hun

/-- An MMIO write the dispatch sends to a group's window: the only operation that clears bits.
Source: `hw/gpio/apple_gpio.c` `apple_gpio_reg_write`
Kind: D -/
def GpioOp.isIntWrite : GpioOp → Bool
  | .write addr _ =>
    decide (REG_GPIOINT 0 0 ≤ addr ∧ addr ≤ REG_GPIOINT GPIO_MAX_INT_GRP_NR (GPIO_MAX_PIN_NR - 1))
  | _ => false

/-- **The step lemma of the level law**: every operation other than a window write keeps it.
Source: `hw/gpio/apple_gpio.c`
Kind: L -/
theorem levelInv_gpioStep {op : GpioOp} {s : AppleGPIOState} {r : AppleGPIOState × List GpioAccess}
    (h : LevelInv s) (hop : op.isIntWrite = false) (hr : gpioStep op s = some r) : LevelInv r.1 := by
  cases hr
  cases op with
  | write addr data =>
    dsimp only
    unfold appleGpioRegWrite
    split_ifs with hc hi
    · exact levelInv_appleGpioCfgWrite h _ _
    · simp [GpioOp.isIntWrite, hi] at hop
    · exact h
    · exact h
  | read addr => exact h
  | set pin level => exact levelInv_appleGpioSet h pin level
  | reset => exact levelInv_appleGpioReset s

/-- **The run lemma of the level law**: every run without a window write keeps it.
Source: `hw/gpio/apple_gpio.c`
Kind: L -/
theorem levelInv_gpioRun (ops : List GpioOp) (hops : ∀ op ∈ ops, op.isIntWrite = false)
    {s : AppleGPIOState} (hs : LevelInv s) {r : AppleGPIOState × List GpioAccess}
    (hr : gpioRun ops s = some r) : LevelInv r.1 :=
  (tracedRun_invariant LevelInv (fun _ => True)
    (fun op hop _ _ ht h => ⟨levelInv_gpioStep ht (hops op hop) h, fun _ _ => trivial⟩) s r hs hr).1

/-! ## The line law -/

/-- **The line law**: the line of every group below `irq_group_count` is high exactly when its
bitmap has a bit set below `pin_count`.
Source: `hw/gpio/apple_gpio.c` `apple_gpio_update_pincfg`, `apple_gpio_set`, `apple_gpio_int_write`
Kind: D -/
def LineInv (s : AppleGPIOState) : Prop :=
  ∀ g < s.irqGroupCount, s.irqs g = true ↔ GroupPending s g

/-- A group whose bits are kept keeps whether it is pending. -/
theorem groupPending_congr {s t : AppleGPIOState} {g : ℕ} (hpc : t.pinCount = s.pinCount)
    (hbits : ∀ k < s.pinCount,
      testBit32 (s.pendingNr g k) t.intConfig = testBit32 (s.pendingNr g k) s.intConfig) :
    GroupPending t g ↔ GroupPending s g := by
  unfold GroupPending PendingBit
  rw [pendingNr_of_pinCount hpc, hpc]
  constructor
  · rintro ⟨k, hk, hb⟩
    exact ⟨k, hk, (hbits k hk) ▸ hb⟩
  · rintro ⟨k, hk, hb⟩
    exact ⟨k, hk, (hbits k hk).symm ▸ hb⟩

/-- A handler that keeps the bits of every group but `g₀` and sets `g₀`'s line from its bitmap
keeps the line law. -/
theorem lineInv_of_touch {s t : AppleGPIOState} {g₀ : ℕ} (h : LineInv s)
    (hpc : t.pinCount = s.pinCount) (higc : t.irqGroupCount = s.irqGroupCount)
    (hbits : ∀ g ≠ g₀, ∀ k < s.pinCount,
      testBit32 (s.pendingNr g k) t.intConfig = testBit32 (s.pendingNr g k) s.intConfig)
    (hirqs : t.irqs = Function.update s.irqs g₀ (t.groupLevel g₀)) : LineInv t := by
  intro g hg
  rw [higc] at hg
  rw [hirqs]
  by_cases hgg : g = g₀
  · subst hgg
    rw [Function.update_self, groupLevel_eq_true_iff]
  · rw [Function.update_of_ne hgg, groupPending_congr hpc (hbits g hgg)]
    exact h g hg

/-- A handler that keeps every bit and every line keeps the line law. -/
theorem lineInv_of_frame {s t : AppleGPIOState} (h : LineInv s)
    (hpc : t.pinCount = s.pinCount) (higc : t.irqGroupCount = s.irqGroupCount)
    (hbits : ∀ n, testBit32 n t.intConfig = testBit32 n s.intConfig) (hirqs : t.irqs = s.irqs) :
    LineInv t := by
  intro g hg
  rw [higc] at hg
  rw [hirqs, groupPending_congr hpc fun k _ => hbits _]
  exact h g hg

/-- A configuration write keeps the line law.
Source: `hw/gpio/apple_gpio.c` `apple_gpio_cfg_write`
Kind: L -/
theorem lineInv_appleGpioCfgWrite {s : AppleGPIOState} (h : LineInv s) (pin : ℕ) (v : UInt32) :
    LineInv (appleGpioCfgWrite s pin v).1 := by
  by_cases hpin : s.pinCount ≤ pin
  · rw [appleGpioCfgWrite_of_le s hpin]
    exact h
  have hs := appleGpioCfgWrite_spec s (by omega : pin < s.pinCount) v
  by_cases hv : v &&& INT_MASKED ≠ INT_MASKED
  · apply @lineInv_of_touch _ _ (intGroup v) h hs.pinCount hs.irqGroupCount
    · intro g hg k hk
      rw [hs.bits, if_neg fun hc => hg ((pendingNr_eq_iff s hk (by omega)).mp hc.2).1]
    · rw [hs.irqs, if_pos hv]
  · apply lineInv_of_frame h hs.pinCount hs.irqGroupCount
    · intro n
      rw [hs.bits, if_neg fun hc => hv hc.1]
    · rw [hs.irqs, if_neg hv]

/-- An input change keeps the line law.
Source: `hw/gpio/apple_gpio.c` `apple_gpio_set`
Kind: L -/
theorem lineInv_appleGpioSet {s : AppleGPIOState} (h : LineInv s) (pin : ℕ) (level : Bool) :
    LineInv (appleGpioSet s pin level).1 := by
  by_cases hpin : s.pinCount ≤ pin
  · rw [appleGpioSet_of_le s hpin]
    exact h
  have hs := appleGpioSet_spec s (by omega : pin < s.pinCount) level
  by_cases hv : s.gpioCfg pin &&& INT_MASKED ≠ INT_MASKED
  · apply @lineInv_of_touch _ _ (intGroup (s.gpioCfg pin)) h hs.pinCount hs.irqGroupCount
    · intro g hg k hk
      have hne : s.pendingNr g k ≠ s.pendingNr (intGroup (s.gpioCfg pin)) pin :=
        fun hc => hg ((pendingNr_eq_iff s hk (by omega)).mp hc).1
      rw [hs.bits, decide_eq_false fun hc => hne hc.2.2, Bool.or_false]
    · rw [hs.irqs, if_pos hv]
  · apply lineInv_of_frame h hs.pinCount hs.irqGroupCount
    · intro n
      rw [hs.bits, decide_eq_false fun hc => hv hc.1, Bool.or_false]
    · rw [hs.irqs, if_neg hv]

/-- With at least 16 pins a window write keeps the line law: the word it names lies in the
group's own region, it only clears bits, and it lowers the line exactly when the bitmap is left
empty.
Source: `hw/gpio/apple_gpio.c` `apple_gpio_int_write`
Kind: L -/
theorem lineInv_appleGpioIntWrite {s : AppleGPIOState} (h : LineInv s) (h16 : 16 ≤ s.pinCount)
    {group addr : ℕ} (hw : ∃ j < 16, s.intWord group addr = group * s.pinCount + j) (v : UInt32) :
    LineInv (appleGpioIntWrite s group addr v).1 := by
  by_cases hg : s.irqGroupCount ≤ group
  · rw [appleGpioIntWrite_of_le s hg]
    exact h
  have hs := appleGpioIntWrite_spec s (by omega : group < s.irqGroupCount) addr v
  obtain ⟨j, hj, hword⟩ := hw
  have hmono : ∀ k < s.pinCount, PendingBit (appleGpioIntWrite s group addr v).1 group k →
      PendingBit s group k := by
    intro k _ hk
    rw [PendingBit, pendingNr_of_pinCount hs.pinCount, hs.bits] at hk
    exact hk.1
  have hother : ∀ g ≠ group, ∀ k < s.pinCount,
      testBit32 (s.pendingNr g k) (appleGpioIntWrite s group addr v).1.intConfig =
        testBit32 (s.pendingNr g k) s.intConfig := by
    intro g hg k hk
    rw [Bool.eq_iff_iff, hs.bits, hword]
    exact ⟨fun hb => hb.1, fun hb => ⟨hb, fun hc => absurd hc (pendingNr_div_ne s hk (by omega) hg)⟩⟩
  intro g hgc
  rw [hs.irqGroupCount] at hgc
  rw [hs.irqs]
  by_cases hgg : g = group
  · subst hgg
    split_ifs with hl
    · -- the bitmap is still not empty, so it was not before and the line stays high
      have hpend := (groupLevel_eq_true_iff _ _).mp hl
      rw [h g hgc]
      exact ⟨fun _ => hpend, fun _ => groupPending_mono hs.pinCount hmono hpend⟩
    · rw [Function.update_self, ← groupLevel_eq_true_iff]
      exact iff_of_false Bool.false_ne_true hl
  · have hirq : (if (appleGpioIntWrite s group addr v).1.groupLevel group then s.irqs
        else Function.update s.irqs group false) g = s.irqs g := by
      split_ifs
      · rfl
      · exact Function.update_of_ne hgg _ _
    rw [hirq, h g hgc, groupPending_congr hs.pinCount (hother g hgg)]

/-- **The step lemma of the line law**: with at least 16 pins every operation but a reset keeps it.
Source: `hw/gpio/apple_gpio.c`
Kind: L -/
theorem lineInv_gpioStep {op : GpioOp} {s : AppleGPIOState} {r : AppleGPIOState × List GpioAccess}
    (h : LineInv s) (h16 : 16 ≤ s.pinCount) (hop : op ≠ .reset) (hr : gpioStep op s = some r) :
    LineInv r.1 := by
  cases hr
  cases op with
  | write addr data =>
    dsimp only
    unfold appleGpioRegWrite
    split_ifs with hc hi
    · exact lineInv_appleGpioCfgWrite h _ _
    · exact lineInv_appleGpioIntWrite h h16 (intWord_window s hi.1) _
    · exact h
    · exact h
  | read addr => exact h
  | set pin level => exact lineInv_appleGpioSet h pin level
  | reset => exact absurd rfl hop

/-- **The run lemma of the line law**: with at least 16 pins every run without a reset keeps it.
Source: `hw/gpio/apple_gpio.c`
Kind: L -/
theorem lineInv_gpioRun (ops : List GpioOp) (hops : ∀ op ∈ ops, op ≠ .reset)
    {s : AppleGPIOState} (h16 : 16 ≤ s.pinCount) (hs : LineInv s)
    {r : AppleGPIOState × List GpioAccess} (hr : gpioRun ops s = some r) : LineInv r.1 := by
  have hstep : ∀ op ∈ ops, ∀ (t : AppleGPIOState) (r' : AppleGPIOState × List GpioAccess),
      LineInv t ∧ 16 ≤ t.pinCount → gpioStep op t = some r' →
        (LineInv r'.1 ∧ 16 ≤ r'.1.pinCount) ∧ ∀ _ ∈ r'.2, True := by
    intro op hop t r' ⟨ht, ht16⟩ h
    exact ⟨⟨lineInv_gpioStep ht ht16 (hops op hop) h, (gpioStep_counts h).1 ▸ ht16⟩,
      fun _ _ => trivial⟩
  exact (tracedRun_invariant (fun t => LineInv t ∧ 16 ≤ t.pinCount) (fun _ => True) hstep s r
    ⟨hs, h16⟩ hr).1.1

/-! ## Neither law holds over every run -/

/-- From any state, a reset, the level-high configuration `0x204` of pin 0 (group 0, GPIO
function, input enabled) and input 1 on it leave pin 0 pending with its line high.
Source: `hw/gpio/apple_gpio.c` `apple_gpio_reset`, `apple_gpio_update_pincfg`, `apple_gpio_set`
Kind: L -/
theorem levelHigh_pending (s : AppleGPIOState) (hpc : 0 < s.pinCount) :
    let t := (appleGpioSet (appleGpioRegWrite (appleGpioReset s) (REG_GPIOCFG 0) 0x204).1 0 true).1
    t.pinCount = s.pinCount ∧ t.irqGroupCount = s.irqGroupCount ∧
      t.gpioCfg 0 &&& INT_MASKED ≠ INT_MASKED ∧ intGroup (t.gpioCfg 0) = 0 ∧
      t.gpioCfg 0 &&& CFG_MASK = CFG_INT_LVL_HI ∧ testBit32 0 t.inBits = true ∧
      PendingBit t 0 0 ∧ t.irqs 0 = true := by
  intro t
  have h₁ := appleGpioCfgWrite_spec (appleGpioReset s) hpc (0x204 : UInt64).toUInt32
  rw [← appleGpioRegWrite_cfg _ (by decide)] at h₁
  have h₂ := appleGpioSet_spec (appleGpioRegWrite (appleGpioReset s) (REG_GPIOCFG 0) 0x204).1
    (h₁.pinCount ▸ hpc) true
  have hun : t.gpioCfg 0 &&& INT_MASKED ≠ INT_MASKED := by
    rw [h₂.gpioCfg, h₁.intMasked]
    decide
  have hgrp : intGroup (t.gpioCfg 0) = 0 := by
    rw [h₂.gpioCfg, intGroup_congr h₁.intMasked]
    decide
  have hmode : t.gpioCfg 0 &&& CFG_MASK = CFG_INT_LVL_HI := by
    rw [h₂.gpioCfg, h₁.cfgMask]
    decide
  have hpend : PendingBit t 0 0 := by
    rw [h₂.gpioCfg] at hun hgrp hmode
    rw [PendingBit, h₂.bits, pendingNr_of_pinCount h₂.pinCount, hgrp, hmode, Bool.or_eq_true,
      decide_eq_true_eq]
    exact Or.inr ⟨hun, inputFires_of_configFires _ (by decide), rfl⟩
  have hline : t.irqs 0 = true := by
    have hirqs := h₂.irqs
    rw [← h₂.gpioCfg, if_pos hun, hgrp] at hirqs
    rw [hirqs, Function.update_self, groupLevel_eq_true_iff]
    exact ⟨0, h₂.pinCount ▸ h₁.pinCount ▸ hpc, hpend⟩
  refine ⟨h₂.pinCount.trans h₁.pinCount, h₂.irqGroupCount.trans h₁.irqGroupCount, hun, hgrp, hmode,
    ?_, hpend, hline⟩
  rw [h₂.inBits, if_pos rfl]

/-- **Both pending laws fail on reachable states.** After a reset, pin `0` set level-high in
group `0` and driven high, a write of one to its `REG_GPIOINT` window clears its pending bit
while the input stays high; a second reset instead leaves group `0`'s line raised with no bit
pending.
Source: `hw/gpio/apple_gpio.c` `apple_gpio_int_write`, `apple_gpio_reset`
Kind: P -/
theorem gpio_pending_laws_broken (s : AppleGPIOState) (hpc : 0 < s.pinCount)
    (higc : 0 < s.irqGroupCount) :
    (∃ r, gpioRun [.reset, .write (REG_GPIOCFG 0) 0x204, .set 0 true,
        .write (REG_GPIOINT 0 0) 1] s = some r ∧ ¬ LevelInv r.1) ∧
      (∃ r, gpioRun [.reset, .write (REG_GPIOCFG 0) 0x204, .set 0 true, .reset] s = some r ∧
        ¬ LineInv r.1) := by
  obtain ⟨hpc', higc', hun, hgrp, hmode, hin, _, hline⟩ := levelHigh_pending s hpc
  constructor
  · refine ⟨_, rfl, ?_⟩
    -- the write of one to the window clears bit 0 of group 0 while the input stays 1
    dsimp only
    rw [appleGpioRegWrite_int _ (by decide)]
    have h₃ := appleGpioIntWrite_spec _ (higc'.symm ▸ higc) (REG_GPIOINT 0 0) (1 : UInt64).toUInt32
    intro hinv
    have hp := hinv 0 (h₃.pinCount.symm ▸ hpc'.symm ▸ hpc)
    rw [h₃.gpioCfg, h₃.inBits, hmode, hgrp] at hp
    have hbit := hp hun (by rw [hin]; decide)
    rw [PendingBit, h₃.bits] at hbit
    have hnr : ∀ t : AppleGPIOState, t.pendingNr 0 0 = 0 := fun t => by simp [pendingNr]
    rw [hnr] at hbit
    exact hbit.2 (by simp [AppleGPIOState.intWord]) (by decide)
  · refine ⟨_, rfl, ?_⟩
    -- the second reset empties group 0's bitmap and leaves its line high
    dsimp only
    intro hinv
    have hg : 0 < (appleGpioSet (appleGpioRegWrite (appleGpioReset s) (REG_GPIOCFG 0) 0x204).1 0
        true).1.irqGroupCount := by
      rw [higc']
      exact higc
    obtain ⟨k, hk, hbit⟩ := (hinv 0 hg).mp hline
    exact not_pendingBit_appleGpioReset _ hg hk hbit

/-- Both runs on the eight-pin controller with one group. -/
theorem gpio_pending_laws_broken_small :
    0 < smallGpio.pinCount ∧ 0 < smallGpio.irqGroupCount ∧
      (∃ r, gpioRun [.reset, .write (REG_GPIOCFG 0) 0x204, .set 0 true,
          .write (REG_GPIOINT 0 0) 1] smallGpio = some r ∧ ¬ LevelInv r.1) ∧
        (∃ r, gpioRun [.reset, .write (REG_GPIOCFG 0) 0x204, .set 0 true, .reset] smallGpio =
          some r ∧ ¬ LineInv r.1) :=
  ⟨by decide, by decide, gpio_pending_laws_broken smallGpio (by decide) (by decide)⟩

end QemuAppleSilicon.Gpio
