import QemuAppleSilicon.Qemu.Bitops
import QemuAppleSilicon.Lib.TracedRun

/-!
# The GPIO controller (`hw/gpio/apple_gpio.c`)

The controller has `pin_count` pins, each with a configuration word (`gpio_cfg`) and an input bit
(`in`, with `in_old` for edge detection), and `irq_group_count` interrupt groups. Group `g`'s
pending bitmap is the bit array at `&int_config[g * pin_count]`: the groups are laid out with a
stride of `pin_count` words although a bitmap of `pin_count` bits needs only `(pin_count + 31) /
32` of them. A pin whose configuration names a group (bits 16 to 18 other than `7`) sets its bit
there on a configuration write or an input change; the guest clears bits by writing ones to the
group's sixteen-word window at `REG_GPIOINT(g, 0)`.

Every handler returns the words of `int_config` it touches (`GpioAccess`), and a run collects them.

* `gpioRun_inBounds` — with at least 16 pins and 7 groups every access of every run stays in the
  array and in the region of the group it addresses.
* `gpio_int_config_access_escapes` — otherwise some does: with fewer than 16 pins a write to the
  window's word `pin_count` of group `g` reaches word `(g + 1) * pin_count`, outside the group and,
  for the last group, outside the array; with fewer than 7 groups a configuration write naming
  group `irq_group_count` reaches past the array, since `apple_gpio_update_pincfg` never checks the
  group against `irq_group_count`.
-/

namespace QemuAppleSilicon.Gpio

open QemuAppleSilicon.Lib QemuAppleSilicon.Qemu

/-! ## Registers and configuration bits -/

/-- Source: `hw/gpio/apple_gpio.c` `GPIO_MAX_PIN_NR`. Kind: D -/
def GPIO_MAX_PIN_NR : ℕ := 512
/-- Source: `hw/gpio/apple_gpio.c` `GPIO_MAX_INT_GRP_NR`. Kind: D -/
def GPIO_MAX_INT_GRP_NR : ℕ := 7
/-- Source: `hw/gpio/apple_gpio.c` `REG_GPIOCFG`. Kind: D -/
def REG_GPIOCFG (n : ℕ) : ℕ := 0x000 + n * 4
/-- Source: `hw/gpio/apple_gpio.c` `REG_GPIOINT`. Kind: D -/
def REG_GPIOINT (g n : ℕ) : ℕ := 0x800 + g * 0x40 + ((n + 31) >>> 5) * 4
/-- Source: `hw/gpio/apple_gpio.c` `REG_GPIO_NPL_IN_EN`. Kind: D -/
def REG_GPIO_NPL_IN_EN : ℕ := 0xC48

/-- Source: `hw/gpio/apple_gpio.c` `DATA_1`. Kind: D -/
def DATA_1 : UInt32 := (1 : UInt32) <<< 0
/-- Source: `hw/gpio/apple_gpio.c` `CFG_GP_OUT`. Kind: D -/
def CFG_GP_OUT : UInt32 := (1 : UInt32) <<< 1
/-- Source: `hw/gpio/apple_gpio.c` `CFG_INT_LVL_HI`. Kind: D -/
def CFG_INT_LVL_HI : UInt32 := (2 : UInt32) <<< 1
/-- Source: `hw/gpio/apple_gpio.c` `CFG_INT_LVL_LO`. Kind: D -/
def CFG_INT_LVL_LO : UInt32 := (3 : UInt32) <<< 1
/-- Source: `hw/gpio/apple_gpio.c` `CFG_INT_EDG_RIS`. Kind: D -/
def CFG_INT_EDG_RIS : UInt32 := (4 : UInt32) <<< 1
/-- Source: `hw/gpio/apple_gpio.c` `CFG_INT_EDG_FAL`. Kind: D -/
def CFG_INT_EDG_FAL : UInt32 := (5 : UInt32) <<< 1
/-- Source: `hw/gpio/apple_gpio.c` `CFG_INT_EDG_ANY`. Kind: D -/
def CFG_INT_EDG_ANY : UInt32 := (6 : UInt32) <<< 1
/-- Source: `hw/gpio/apple_gpio.c` `CFG_DISABLE`. Kind: D -/
def CFG_DISABLE : UInt32 := (7 : UInt32) <<< 1
/-- Source: `hw/gpio/apple_gpio.c` `CFG_MASK`. Kind: D -/
def CFG_MASK : UInt32 := (7 : UInt32) <<< 1
/-- Source: `hw/gpio/apple_gpio.c` `FUNC_SHIFT`. Kind: D -/
def FUNC_SHIFT : UInt32 := 5
/-- Source: `hw/gpio/apple_gpio.c` `FUNC_GPIO`. Kind: D -/
def FUNC_GPIO : UInt32 := (0 : UInt32) <<< FUNC_SHIFT
/-- Source: `hw/gpio/apple_gpio.c` `FUNC_ALT0`. Kind: D -/
def FUNC_ALT0 : UInt32 := (1 : UInt32) <<< FUNC_SHIFT
/-- Source: `hw/gpio/apple_gpio.c` `FUNC_MASK`. Kind: D -/
def FUNC_MASK : UInt32 := (3 : UInt32) <<< FUNC_SHIFT
/-- Source: `hw/gpio/apple_gpio.c` `INPUT_ENABLE`. Kind: D -/
def INPUT_ENABLE : UInt32 := (1 : UInt32) <<< 9
/-- Source: `hw/gpio/apple_gpio.c` `INTR_GRP_SHIFT`. Kind: D -/
def INTR_GRP_SHIFT : UInt32 := 16
/-- Source: `hw/gpio/apple_gpio.c` `INT_MASKED`. Kind: D -/
def INT_MASKED : UInt32 := (7 : UInt32) <<< INTR_GRP_SHIFT
/-- Source: `hw/gpio/apple_gpio.c` `CFG_DISABLED`. Kind: D -/
def CFG_DISABLED : UInt32 := FUNC_GPIO ||| CFG_DISABLE ||| INT_MASKED
/-- Source: `hw/gpio/apple_gpio.c` `CFG_FUNC0`. Kind: D -/
def CFG_FUNC0 : UInt32 := INPUT_ENABLE ||| FUNC_ALT0 ||| INT_MASKED

/-- The interrupt group a configuration names: `(value & INT_MASKED) >> INTR_GRP_SHIFT`, `7`
for none.
Source: `hw/gpio/apple_gpio.c` `apple_gpio_update_pincfg`, `apple_gpio_set`
Kind: D -/
def intGroup (value : UInt32) : ℕ := ((value &&& INT_MASKED) >>> INTR_GRP_SHIFT).toNat

/-! ## The state -/

/-- The controller. `apple_gpio_create` asserts `pin_count < GPIO_MAX_PIN_NR`; `irq_group_count`
is the device tree's `#gpio-int-groups`, unchecked.
Source: `include/hw/gpio/apple_gpio.h` `AppleGPIOState`, `hw/gpio/apple_gpio.c` `apple_gpio_create`
Kind: D -/
structure AppleGPIOState where
  pinCount : ℕ
  pinCount_lt : pinCount < GPIO_MAX_PIN_NR
  irqGroupCount : ℕ
  /-- `gpio_cfg`, by pin. -/
  gpioCfg : ℕ → UInt32
  /-- `int_config`, by word. -/
  intConfig : ℕ → UInt32
  /-- `in`, by word. -/
  inBits : ℕ → UInt32
  /-- `in_old`, by word. -/
  inOld : ℕ → UInt32
  /-- The level last set on `irqs[g]`. -/
  irqs : ℕ → Bool
  /-- The level last set on `out[pin]`. -/
  out : ℕ → Bool
  npl : UInt32

/-- A word of `int_config` a handler touches, and the group it addresses. -/
structure GpioAccess where
  group : ℕ
  word : ℕ
  deriving DecidableEq, Repr

/-- An access inside the array of `irq_group_count * pin_count` words and inside its group's
region `[group * pin_count, (group + 1) * pin_count)`.
Source: `hw/gpio/apple_gpio.c` `apple_gpio_create` (`int_config_len`)
Kind: D -/
def GpioAccess.InBounds (pinCount irqGroupCount : ℕ) (a : GpioAccess) : Prop :=
  a.word < irqGroupCount * pinCount ∧ a.group * pinCount ≤ a.word ∧
    a.word < (a.group + 1) * pinCount

instance (pinCount irqGroupCount : ℕ) (a : GpioAccess) :
    Decidable (a.InBounds pinCount irqGroupCount) :=
  inferInstanceAs (Decidable (_ ∧ _ ∧ _))

namespace AppleGPIOState

/-- Bit `pin` of group `g`'s bitmap `&int_config[g * pin_count]`, as a bit of `int_config`.
Source: `hw/gpio/apple_gpio.c` (`&s->int_config[irqgrp * s->pin_count]`)
Kind: D -/
def pendingNr (s : AppleGPIOState) (g pin : ℕ) : ℕ := g * s.pinCount * 32 + pin

/-- `set_bit32(pin, &s->int_config[g * s->pin_count])`.
Source: `hw/gpio/apple_gpio.c` `apple_gpio_update_pincfg`, `apple_gpio_set`
Kind: D -/
def setPending (s : AppleGPIOState) (g pin : ℕ) : AppleGPIOState :=
  { s with intConfig := setBit32 (s.pendingNr g pin) s.intConfig }

/-- `clear_bit32(pin, &s->int_config[g * s->pin_count])`.
Source: `hw/gpio/apple_gpio.c` `apple_gpio_update_pincfg`
Kind: D -/
def clearPending (s : AppleGPIOState) (g pin : ℕ) : AppleGPIOState :=
  { s with intConfig := clearBit32 (s.pendingNr g pin) s.intConfig }

/-- Group `g`'s bitmap as a bit array.
Source: `hw/gpio/apple_gpio.c` (`&s->int_config[g * s->pin_count]`)
Kind: D -/
def groupBits (s : AppleGPIOState) (g : ℕ) : ℕ → UInt32 :=
  fun w => s.intConfig (g * s.pinCount + w)

/-- `find_first_bit32(&s->int_config[g * s->pin_count], s->pin_count) != s->pin_count`.
Source: `hw/gpio/apple_gpio.c` `apple_gpio_update_pincfg`, `apple_gpio_set`
Kind: D -/
def groupLevel (s : AppleGPIOState) (g : ℕ) : Bool :=
  findFirstBit32 (s.groupBits g) s.pinCount != s.pinCount

/-- `qemu_set_irq(s->irqs[g], level)`.
Source: `hw/gpio/apple_gpio.c`
Kind: D -/
def setIrq (s : AppleGPIOState) (g : ℕ) (level : Bool) : AppleGPIOState :=
  { s with irqs := Function.update s.irqs g level }

/-- The word of `int_config` that holds bit `pin` of group `g`. -/
def pendingWord (s : AppleGPIOState) (g pin : ℕ) : GpioAccess := ⟨g, g * s.pinCount + pin / 32⟩

/-- The words `find_first_bit32` may read from group `g`'s bitmap.
Source: `include/qemu/bitops.h` `find_first_bit32`
Kind: D -/
def scanWords (s : AppleGPIOState) (g : ℕ) : List GpioAccess :=
  (List.range ((s.pinCount + 31) / 32)).map fun w => ⟨g, g * s.pinCount + w⟩

end AppleGPIOState

open AppleGPIOState

/-! ## The handlers -/

/-- The `switch` of `apple_gpio_update_pincfg`: whether a level trigger holds for the input.
Source: `hw/gpio/apple_gpio.c` `apple_gpio_update_pincfg`
Kind: D -/
def configFires (mode : UInt32) (input : Bool) : Bool :=
  if mode = CFG_INT_LVL_HI then input
  else if mode = CFG_INT_LVL_LO then !input
  else false

/-- The `switch` of `apple_gpio_set`: whether the new level `level`, after `old`, sets the
pending bit.
Source: `hw/gpio/apple_gpio.c` `apple_gpio_set`
Kind: D -/
def inputFires (mode : UInt32) (old level : Bool) : Bool :=
  if mode = CFG_INT_LVL_HI then level
  else if mode = CFG_INT_LVL_LO then !level
  else if mode = CFG_INT_EDG_RIS then !old && level
  else if mode = CFG_INT_EDG_FAL then old && !level
  else if mode = CFG_INT_EDG_ANY then old != level
  else false

/-- The interrupt half of `apple_gpio_update_pincfg` for a value that names a group: the pin's bit
cleared, set again when a level trigger holds, and the group's line set.
Source: `hw/gpio/apple_gpio.c` `apple_gpio_update_pincfg`
Kind: D -/
def updatePincfgIrq (s : AppleGPIOState) (pin : ℕ) (value : UInt32) :
    AppleGPIOState × List GpioAccess :=
  let g := intGroup value
  let fire := configFires (value &&& CFG_MASK) (testBit32 pin s.inBits)
  let s₁ := s.clearPending g pin
  let s₂ := if fire then s₁.setPending g pin else s₁
  (s₂.setIrq g (s₂.groupLevel g),
    s.pendingWord g pin :: (if fire then [s.pendingWord g pin] else []) ++ s.scanWords g)

/-- The rest of `apple_gpio_update_pincfg`: `gpio_cfg[pin]` stored, with `DATA_1` adjusted for
`FUNC_ALT0`, and the output line set.
Source: `hw/gpio/apple_gpio.c` `apple_gpio_update_pincfg`
Kind: D -/
def storePincfg (s : AppleGPIOState) (pin : ℕ) (value : UInt32) : AppleGPIOState :=
  if value &&& FUNC_MASK ≠ 0 then
    if value &&& FUNC_MASK = FUNC_ALT0 then
      if value &&& CFG_MASK = CFG_DISABLE then { s with gpioCfg := Function.update s.gpioCfg pin value }
      else
        let cfg := if value &&& CFG_MASK = CFG_GP_OUT then value &&& ~~~DATA_1 else value ||| DATA_1
        { s with gpioCfg := Function.update s.gpioCfg pin cfg, out := Function.update s.out pin true }
    else { s with gpioCfg := Function.update s.gpioCfg pin value }
  else
    { s with
      gpioCfg := Function.update s.gpioCfg pin value
      out := Function.update s.out pin
        (if value &&& CFG_MASK = CFG_GP_OUT then value &&& DATA_1 ≠ 0 else true) }

@[simp] theorem pinCount_updatePincfgIrq (s : AppleGPIOState) (pin : ℕ) (value : UInt32) :
    (updatePincfgIrq s pin value).1.pinCount = s.pinCount := by
  unfold updatePincfgIrq
  dsimp only
  split_ifs <;> rfl

@[simp] theorem irqGroupCount_updatePincfgIrq (s : AppleGPIOState) (pin : ℕ) (value : UInt32) :
    (updatePincfgIrq s pin value).1.irqGroupCount = s.irqGroupCount := by
  unfold updatePincfgIrq
  dsimp only
  split_ifs <;> rfl

@[simp] theorem pinCount_storePincfg (s : AppleGPIOState) (pin : ℕ) (value : UInt32) :
    (storePincfg s pin value).pinCount = s.pinCount := by
  unfold storePincfg
  split_ifs <;> rfl

@[simp] theorem irqGroupCount_storePincfg (s : AppleGPIOState) (pin : ℕ) (value : UInt32) :
    (storePincfg s pin value).irqGroupCount = s.irqGroupCount := by
  unfold storePincfg
  split_ifs <;> rfl

/-- `apple_gpio_update_pincfg(s, pin, value)`.
Source: `hw/gpio/apple_gpio.c` `apple_gpio_update_pincfg`
Kind: D -/
def appleGpioUpdatePincfg (s : AppleGPIOState) (pin : ℕ) (value : UInt32) :
    AppleGPIOState × List GpioAccess :=
  let r := if value &&& INT_MASKED ≠ INT_MASKED then updatePincfgIrq s pin value else (s, [])
  (storePincfg r.1 pin value, r.2)

/-- `apple_gpio_set(s, pin, level)`: an input change.
Source: `hw/gpio/apple_gpio.c` `apple_gpio_set`
Kind: D -/
def appleGpioSet (s : AppleGPIOState) (pin : ℕ) (level : Bool) :
    AppleGPIOState × List GpioAccess :=
  if s.pinCount ≤ pin then (s, [])
  else
    let inBits := if level then setBit32 pin s.inBits else clearBit32 pin s.inBits
    let s₁ := { s with inBits := inBits }
    let grp := pin >>> 5
    let cfg := s.gpioCfg pin
    if cfg &&& INT_MASKED ≠ INT_MASKED then
      let g := intGroup cfg
      let fire := inputFires (cfg &&& CFG_MASK) (testBit32 pin s.inOld) level
      let s₂ := if fire then s₁.setPending g pin else s₁
      let s₃ := { s₂ with inOld := Function.update s₂.inOld grp (inBits grp) }
      (s₃.setIrq g (s₃.groupLevel g), (if fire then [s.pendingWord g pin] else []) ++ s.scanWords g)
    else ({ s₁ with inOld := Function.update s.inOld grp (inBits grp) }, [])

/-- The word of `int_config` a register of group `group`'s window at `addr` names:
`(group * s->pin_count) + (offset / sizeof(uint32_t))`.
Source: `hw/gpio/apple_gpio.c` `apple_gpio_int_write`, `apple_gpio_int_read`
Kind: D -/
def AppleGPIOState.intWord (s : AppleGPIOState) (group addr : ℕ) : ℕ :=
  group * s.pinCount + (addr - REG_GPIOINT group 0) / 4

/-- `apple_gpio_int_write(s, group, addr, value)`: write-one-to-clear, and the line lowered when
the group's bitmap is empty.
Source: `hw/gpio/apple_gpio.c` `apple_gpio_int_write`
Kind: D -/
def appleGpioIntWrite (s : AppleGPIOState) (group addr : ℕ) (value : UInt32) :
    AppleGPIOState × List GpioAccess :=
  if s.irqGroupCount ≤ group then (s, [])
  else
    let w := s.intWord group addr
    let s₁ := { s with intConfig := Function.update s.intConfig w (s.intConfig w &&& ~~~value) }
    (if s₁.groupLevel group then s₁ else s₁.setIrq group false, ⟨group, w⟩ :: s.scanWords group)

@[simp] theorem pinCount_appleGpioIntWrite (s : AppleGPIOState) (group addr : ℕ) (value : UInt32) :
    (appleGpioIntWrite s group addr value).1.pinCount = s.pinCount := by
  unfold appleGpioIntWrite
  dsimp only
  split_ifs <;> rfl

@[simp] theorem irqGroupCount_appleGpioIntWrite (s : AppleGPIOState) (group addr : ℕ)
    (value : UInt32) :
    (appleGpioIntWrite s group addr value).1.irqGroupCount = s.irqGroupCount := by
  unfold appleGpioIntWrite
  dsimp only
  split_ifs <;> rfl

/-- `apple_gpio_int_read(s, group, addr)`.
Source: `hw/gpio/apple_gpio.c` `apple_gpio_int_read`
Kind: D -/
def appleGpioIntRead (s : AppleGPIOState) (group addr : ℕ) : UInt32 × List GpioAccess :=
  if s.irqGroupCount ≤ group then (0, [])
  else (s.intConfig (s.intWord group addr), [⟨group, s.intWord group addr⟩])

/-- `apple_gpio_cfg_write(s, pin, addr, value)`.
Source: `hw/gpio/apple_gpio.c` `apple_gpio_cfg_write`
Kind: D -/
def appleGpioCfgWrite (s : AppleGPIOState) (pin : ℕ) (value : UInt32) :
    AppleGPIOState × List GpioAccess :=
  if s.pinCount ≤ pin then (s, []) else appleGpioUpdatePincfg s pin value

/-- `apple_gpio_cfg_read(s, pin, addr)`: a GPIO-function pin reads its input in `DATA_1`.
Source: `hw/gpio/apple_gpio.c` `apple_gpio_cfg_read`
Kind: D -/
def appleGpioCfgRead (s : AppleGPIOState) (pin : ℕ) : UInt32 :=
  if s.pinCount ≤ pin then 0
  else
    let input : UInt32 := if testBit32 pin s.inBits then 1 else 0
    let val := s.gpioCfg pin
    let val := if val &&& FUNC_MASK = FUNC_GPIO then (val &&& ~~~DATA_1) ||| input else val
    if val &&& CFG_FUNC0 = CFG_FUNC0 ∧ val &&& CFG_MASK = CFG_DISABLE then
      (val ||| DATA_1) &&& ~~~input
    else val

/-- `apple_gpio_reg_write(s, addr, data, size)`.
Source: `hw/gpio/apple_gpio.c` `apple_gpio_reg_write`
Kind: D -/
def appleGpioRegWrite (s : AppleGPIOState) (addr : ℕ) (data : UInt64) :
    AppleGPIOState × List GpioAccess :=
  if REG_GPIOCFG 0 ≤ addr ∧ addr ≤ REG_GPIOCFG (GPIO_MAX_PIN_NR - 1) then
    appleGpioCfgWrite s ((addr - REG_GPIOCFG 0) >>> 2) data.toUInt32
  else if REG_GPIOINT 0 0 ≤ addr ∧ addr ≤ REG_GPIOINT GPIO_MAX_INT_GRP_NR (GPIO_MAX_PIN_NR - 1) then
    appleGpioIntWrite s ((addr - REG_GPIOINT 0 0) >>> 6) addr data.toUInt32
  else if addr = REG_GPIO_NPL_IN_EN then ({ s with npl := data.toUInt32 }, [])
  else (s, [])

/-- `apple_gpio_reg_read(s, addr, size)`: the value, and the words of `int_config` read.
Source: `hw/gpio/apple_gpio.c` `apple_gpio_reg_read`
Kind: D -/
def appleGpioRegRead (s : AppleGPIOState) (addr : ℕ) : UInt64 × List GpioAccess :=
  if REG_GPIOCFG 0 ≤ addr ∧ addr ≤ REG_GPIOCFG (GPIO_MAX_PIN_NR - 1) then
    ((appleGpioCfgRead s ((addr - REG_GPIOCFG 0) >>> 2)).toUInt64, [])
  else if REG_GPIOINT 0 0 ≤ addr ∧ addr ≤ REG_GPIOINT GPIO_MAX_INT_GRP_NR (GPIO_MAX_PIN_NR - 1) then
    let r := appleGpioIntRead s ((addr - REG_GPIOINT 0 0) >>> 6) addr
    (r.1.toUInt64, r.2)
  else if addr = REG_GPIO_NPL_IN_EN then (s.npl.toUInt64, [])
  else if addr = 0xC4C then (0xFF, [])
  else (0, [])

/-- `apple_gpio_reset`: every pin disabled, the bitmaps and the inputs cleared; the lines are
left as they are.
Source: `hw/gpio/apple_gpio.c` `apple_gpio_reset`
Kind: D -/
def appleGpioReset (s : AppleGPIOState) : AppleGPIOState :=
  { s with
    gpioCfg := fun i => if i < s.pinCount then CFG_DISABLED else s.gpioCfg i
    intConfig := fun w => if w < s.pinCount * s.irqGroupCount then 0 else s.intConfig w
    inOld := fun w => if w < (s.pinCount + 31) / 32 then 0 else s.inOld w
    inBits := fun w => if w < (s.pinCount + 31) / 32 then 0 else s.inBits w }

/-- What can happen to the controller: an MMIO write or read, an input change, a reset.
Source: `hw/gpio/apple_gpio.c` `gpio_reg_ops`, `apple_gpio_set`, `apple_gpio_reset`
Kind: D -/
inductive GpioOp where
  | write (addr : ℕ) (data : UInt64)
  | read (addr : ℕ)
  | set (pin : ℕ) (level : Bool)
  | reset

/-- One operation, with the words of `int_config` it touches. -/
def gpioStep (op : GpioOp) (s : AppleGPIOState) : Option (AppleGPIOState × List GpioAccess) :=
  some <| match op with
    | .write addr data => appleGpioRegWrite s addr data
    | .read addr => (s, (appleGpioRegRead s addr).2)
    | .set pin level => appleGpioSet s pin level
    | .reset => (appleGpioReset s, [])

/-- A run of operations. -/
def gpioRun (ops : List GpioOp) (s : AppleGPIOState) : Option (AppleGPIOState × List GpioAccess) :=
  tracedRun gpioStep ops s

/-! ## The group a configuration names -/

/-- The bits of `7`: the three below `3`. -/
theorem testBit_seven (j : ℕ) : Nat.testBit 7 j = decide (j < 3) := by
  by_cases hj : j < 3
  · rcases (by omega : j = 0 ∨ j = 1 ∨ j = 2) with rfl | rfl | rfl <;> rfl
  · rw [Nat.testBit_lt_two_pow (lt_of_lt_of_le (by decide : 7 < 2 ^ 3)
      (Nat.pow_le_pow_right (by decide) (by omega))), decide_eq_false hj]

/-- `value & INT_MASKED` keeps bits 16 to 18. -/
theorem testBit_toNat_and_intMasked (v : UInt32) (i : ℕ) :
    (v &&& INT_MASKED).toNat.testBit i = (decide (16 ≤ i ∧ i < 19) && v.toNat.testBit i) := by
  have hm : INT_MASKED.toNat = 7 * 2 ^ 16 := rfl
  rw [UInt32.toNat_and, hm, Nat.testBit_and, Nat.testBit_mul_two_pow, testBit_seven]
  by_cases hlo : 16 ≤ i <;> by_cases hhi : i < 19 <;> simp [hlo, hhi, Bool.and_comm] <;> omega

/-- The group is bits 16 to 18 of the value. -/
theorem intGroup_eq (v : UInt32) : intGroup v = v.toNat / 2 ^ 16 % 2 ^ 3 := by
  rw [intGroup, UInt32.toNat_shiftRight, show INTR_GRP_SHIFT.toNat % 32 = 16 from rfl,
    Nat.shiftRight_eq_div_pow]
  apply Nat.eq_of_testBit_eq
  intro i
  rw [Nat.testBit_div_two_pow, testBit_toNat_and_intMasked, Nat.testBit_mod_two_pow,
    Nat.testBit_div_two_pow]
  by_cases hi : i < 3 <;> simp [hi] <;> omega

/-- A value is masked (`(value & INT_MASKED) == INT_MASKED`) exactly when it names group `7`. -/
theorem and_intMasked_eq_iff (v : UInt32) : v &&& INT_MASKED = INT_MASKED ↔ intGroup v = 7 := by
  constructor
  · intro h
    rw [intGroup, h]
    rfl
  · intro h
    apply UInt32.toNat_inj.mp
    apply Nat.eq_of_testBit_eq
    intro i
    have hm : INT_MASKED.toNat = 7 * 2 ^ 16 := rfl
    rw [testBit_toNat_and_intMasked, hm, Nat.testBit_mul_two_pow, testBit_seven]
    by_cases hlo : 16 ≤ i
    · -- bits 16 to 18 of the value are those of the group, which is `7`
      have hv := congrArg (Nat.testBit · (i - 16)) ((intGroup_eq v).symm.trans h)
      simp only [Nat.testBit_mod_two_pow, Nat.testBit_div_two_pow, Nat.sub_add_cancel hlo,
        testBit_seven] at hv
      by_cases hhi : i < 19
      · simp only [show i - 16 < 3 by omega, decide_true, Bool.true_and] at hv
        simp [hlo, hhi, hv, show i - 16 < 3 by omega]
      · simp only [hhi, and_false, decide_false, Bool.false_and, hlo, decide_true, Bool.true_and]
        exact (decide_eq_false (by omega)).symm
    · simp [hlo]

/-- An unmasked value names a group below `GPIO_MAX_INT_GRP_NR`. -/
theorem intGroup_lt {v : UInt32} (h : v &&& INT_MASKED ≠ INT_MASKED) :
    intGroup v < GPIO_MAX_INT_GRP_NR := by
  have hne : intGroup v ≠ 7 := fun h7 => h ((and_intMasked_eq_iff v).mpr h7)
  have hlt : intGroup v < 8 := by
    rw [intGroup_eq]
    exact Nat.mod_lt _ (by decide)
  unfold GPIO_MAX_INT_GRP_NR
  omega

/-- The value naming group `g < 7` with nothing else set: `g << INTR_GRP_SHIFT`. -/
theorem intGroup_shift {g : ℕ} (hg : g < GPIO_MAX_INT_GRP_NR) :
    intGroup (UInt32.ofNat (g * 2 ^ 16)) = g ∧
      UInt32.ofNat (g * 2 ^ 16) &&& INT_MASKED ≠ INT_MASKED := by
  unfold GPIO_MAX_INT_GRP_NR at hg
  have hval : (UInt32.ofNat (g * 2 ^ 16)).toNat = g * 2 ^ 16 := by
    rw [UInt32.toNat_ofNat', Nat.mod_eq_of_lt (by omega)]
  have hgrp : intGroup (UInt32.ofNat (g * 2 ^ 16)) = g := by
    rw [intGroup_eq, hval, Nat.mul_div_cancel _ (by decide), Nat.mod_eq_of_lt (by omega)]
  refine ⟨hgrp, fun h => ?_⟩
  rw [and_intMasked_eq_iff, hgrp] at h
  omega

/-! ## What each handler touches -/

section Access

variable {pc igc g w : ℕ}

/-- A word of group `g`'s region, for a group that exists. -/
theorem inBounds_of_lt (hg : g < igc) (hw : w < pc) :
    GpioAccess.InBounds pc igc ⟨g, g * pc + w⟩ := by
  have hmul : (g + 1) * pc ≤ igc * pc := Nat.mul_le_mul_right pc hg
  rw [Nat.add_mul, Nat.one_mul] at hmul
  refine ⟨?_, ?_, ?_⟩
  · show g * pc + w < igc * pc
    omega
  · show g * pc ≤ g * pc + w
    omega
  · show g * pc + w < (g + 1) * pc
    rw [Nat.add_mul, Nat.one_mul]
    omega

/-- The words `find_first_bit32` reads lie in the group's region. -/
theorem scanWords_inBounds (s : AppleGPIOState) (hg : g < s.irqGroupCount) :
    ∀ a ∈ s.scanWords g, a.InBounds s.pinCount s.irqGroupCount := by
  intro a ha
  obtain ⟨w, hw, rfl⟩ := List.mem_map.mp ha
  exact inBounds_of_lt hg (by rw [List.mem_range] at hw; omega)

/-- The word of a pin's bit lies in the group's region. -/
theorem pendingWord_inBounds (s : AppleGPIOState) {pin : ℕ} (hg : g < s.irqGroupCount)
    (hpin : pin < s.pinCount) : (s.pendingWord g pin).InBounds s.pinCount s.irqGroupCount :=
  inBounds_of_lt hg (lt_of_le_of_lt (Nat.div_le_self pin 32) hpin)

end Access

/-- A configuration write touches, for a pin that exists and a value that names a group, the
word of the pin's bit and the words of the group's bitmap.
Source: `hw/gpio/apple_gpio.c` `apple_gpio_cfg_write`, `apple_gpio_update_pincfg`
Kind: L -/
theorem mem_appleGpioCfgWrite {s : AppleGPIOState} {pin : ℕ} {v : UInt32} {a : GpioAccess}
    (h : a ∈ (appleGpioCfgWrite s pin v).2) :
    pin < s.pinCount ∧ v &&& INT_MASKED ≠ INT_MASKED ∧
      (a = s.pendingWord (intGroup v) pin ∨ a ∈ s.scanWords (intGroup v)) := by
  unfold appleGpioCfgWrite at h
  split_ifs at h with hpin
  · cases h
  · unfold appleGpioUpdatePincfg at h
    split_ifs at h with hm
    · refine ⟨by omega, hm, ?_⟩
      unfold updatePincfgIrq at h
      dsimp only at h
      split_ifs at h <;> simp_all
    · cases h

/-- An input change touches, for a pin that exists and is configured with a group, the word of
the pin's bit and the words of the group's bitmap.
Source: `hw/gpio/apple_gpio.c` `apple_gpio_set`
Kind: L -/
theorem mem_appleGpioSet {s : AppleGPIOState} {pin : ℕ} {level : Bool} {a : GpioAccess}
    (h : a ∈ (appleGpioSet s pin level).2) :
    pin < s.pinCount ∧ s.gpioCfg pin &&& INT_MASKED ≠ INT_MASKED ∧
      (a = s.pendingWord (intGroup (s.gpioCfg pin)) pin ∨
        a ∈ s.scanWords (intGroup (s.gpioCfg pin))) := by
  unfold appleGpioSet at h
  by_cases hpin : s.pinCount ≤ pin
  · rw [if_pos hpin] at h
    cases h
  rw [if_neg hpin] at h
  dsimp only at h
  by_cases hm : s.gpioCfg pin &&& INT_MASKED ≠ INT_MASKED
  · rw [if_pos hm] at h
    refine ⟨by omega, hm, ?_⟩
    split_ifs at h <;> simp_all
  · rw [if_neg hm] at h
    cases h

/-- A write to group `group`'s window touches the word it names and the words of the group's
bitmap, for a group that exists.
Source: `hw/gpio/apple_gpio.c` `apple_gpio_int_write`
Kind: L -/
theorem mem_appleGpioIntWrite {s : AppleGPIOState} {group addr : ℕ} {v : UInt32} {a : GpioAccess}
    (h : a ∈ (appleGpioIntWrite s group addr v).2) :
    group < s.irqGroupCount ∧ (a = ⟨group, s.intWord group addr⟩ ∨ a ∈ s.scanWords group) := by
  unfold appleGpioIntWrite at h
  split_ifs at h with hg
  · cases h
  · exact ⟨by omega, List.mem_cons.mp h⟩

/-- A read of group `group`'s window touches the word it names, for a group that exists.
Source: `hw/gpio/apple_gpio.c` `apple_gpio_int_read`
Kind: L -/
theorem mem_appleGpioIntRead {s : AppleGPIOState} {group addr : ℕ} {a : GpioAccess}
    (h : a ∈ (appleGpioIntRead s group addr).2) :
    group < s.irqGroupCount ∧ a = ⟨group, s.intWord group addr⟩ := by
  unfold appleGpioIntRead at h
  split_ifs at h with hg
  · cases h
  · exact ⟨by omega, List.mem_singleton.mp h⟩

/-- `REG_GPIOINT(g, 0)` is `0x800 + 0x40 * g`. -/
theorem REG_GPIOINT_zero (g : ℕ) : REG_GPIOINT g 0 = 0x800 + g * 0x40 := by
  simp [REG_GPIOINT]

/-- The word the window names at an address that the dispatch sends to group
`(addr - REG_GPIOINT(0, 0)) >> 6` is one of its sixteen.
Source: `hw/gpio/apple_gpio.c` `apple_gpio_reg_write`, `apple_gpio_reg_read`
Kind: L -/
theorem intWord_window (s : AppleGPIOState) {addr : ℕ} (h : REG_GPIOINT 0 0 ≤ addr) :
    ∃ w < 16, s.intWord ((addr - REG_GPIOINT 0 0) >>> 6) addr =
      (addr - REG_GPIOINT 0 0) >>> 6 * s.pinCount + w := by
  rw [REG_GPIOINT_zero] at h
  refine ⟨(addr - REG_GPIOINT ((addr - REG_GPIOINT 0 0) >>> 6) 0) / 4, ?_, rfl⟩
  rw [REG_GPIOINT_zero, REG_GPIOINT_zero, Nat.shiftRight_eq_div_pow]
  omega

/-- The counts of pins and groups never change. -/
theorem gpioStep_counts {op : GpioOp} {s : AppleGPIOState} {r : AppleGPIOState × List GpioAccess}
    (h : gpioStep op s = some r) :
    r.1.pinCount = s.pinCount ∧ r.1.irqGroupCount = s.irqGroupCount := by
  cases h
  cases op with
  | write addr data =>
    dsimp only
    unfold appleGpioRegWrite appleGpioCfgWrite appleGpioUpdatePincfg
    split_ifs <;> simp
  | read addr => exact ⟨rfl, rfl⟩
  | set pin level =>
    dsimp only
    unfold appleGpioSet
    dsimp only
    split_ifs <;> exact ⟨rfl, rfl⟩
  | reset => exact ⟨rfl, rfl⟩

/-- **With at least 16 pins and 7 groups, one operation touches only words inside the array and
inside the region of the group it addresses.**
Source: `hw/gpio/apple_gpio.c` `apple_gpio_reg_write`, `apple_gpio_reg_read`, `apple_gpio_set`
Kind: L -/
theorem gpioStep_inBounds {op : GpioOp} {s : AppleGPIOState} {r : AppleGPIOState × List GpioAccess}
    (h16 : 16 ≤ s.pinCount) (h7 : GPIO_MAX_INT_GRP_NR ≤ s.irqGroupCount)
    (h : gpioStep op s = some r) : ∀ a ∈ r.2, a.InBounds s.pinCount s.irqGroupCount := by
  cases h
  intro a ha
  -- a configuration names a group below 7, and a window word is one of sixteen
  have hcfg : ∀ {pin v}, a ∈ (appleGpioCfgWrite s pin v).2 →
      a.InBounds s.pinCount s.irqGroupCount := by
    intro pin v hm
    obtain ⟨hpin, hun, hw | hw⟩ := mem_appleGpioCfgWrite hm
    · exact hw ▸ pendingWord_inBounds s (lt_of_lt_of_le (intGroup_lt hun) h7) hpin
    · exact scanWords_inBounds s (lt_of_lt_of_le (intGroup_lt hun) h7) a hw
  have hwin : ∀ {addr}, REG_GPIOINT 0 0 ≤ addr → (addr - REG_GPIOINT 0 0) >>> 6 < s.irqGroupCount →
      GpioAccess.InBounds s.pinCount s.irqGroupCount
        ⟨(addr - REG_GPIOINT 0 0) >>> 6, s.intWord ((addr - REG_GPIOINT 0 0) >>> 6) addr⟩ := by
    intro addr haddr hg
    obtain ⟨w, hw, heq⟩ := intWord_window s haddr
    rw [heq]
    exact inBounds_of_lt hg (by omega)
  cases op with
  | write addr data =>
    dsimp only at ha
    unfold appleGpioRegWrite at ha
    split_ifs at ha with hc hi
    · exact hcfg ha
    · obtain ⟨hg, hw | hw⟩ := mem_appleGpioIntWrite ha
      · exact hw ▸ hwin hi.1 hg
      · exact scanWords_inBounds s hg a hw
    · cases ha
    · cases ha
  | read addr =>
    change a ∈ (appleGpioRegRead s addr).2 at ha
    unfold appleGpioRegRead at ha
    split_ifs at ha with hc hi
    · cases ha
    · obtain ⟨hg, rfl⟩ := mem_appleGpioIntRead ha
      exact hwin hi.1 hg
    · cases ha
    · cases ha
    · cases ha
  | set pin level =>
    dsimp only at ha
    obtain ⟨hpin, hun, hw | hw⟩ := mem_appleGpioSet ha
    · exact hw ▸ pendingWord_inBounds s (lt_of_lt_of_le (intGroup_lt hun) h7) hpin
    · exact scanWords_inBounds s (lt_of_lt_of_le (intGroup_lt hun) h7) a hw
  | reset => cases ha

/-- **The run lemma of the accesses**: with at least 16 pins and 7 groups every access of every
run stays inside the array and inside its group's region. By `tracedRun_invariant`, with the
counts as the invariant.
Source: `hw/gpio/apple_gpio.c`
Kind: L -/
theorem gpioRun_inBounds (ops : List GpioOp) (s : AppleGPIOState) (h16 : 16 ≤ s.pinCount)
    (h7 : GPIO_MAX_INT_GRP_NR ≤ s.irqGroupCount) {r : AppleGPIOState × List GpioAccess}
    (hr : gpioRun ops s = some r) : ∀ a ∈ r.2, a.InBounds s.pinCount s.irqGroupCount := by
  have hstep : ∀ op ∈ ops, ∀ (t : AppleGPIOState) (r' : AppleGPIOState × List GpioAccess),
      (t.pinCount = s.pinCount ∧ t.irqGroupCount = s.irqGroupCount) → gpioStep op t = some r' →
      (r'.1.pinCount = s.pinCount ∧ r'.1.irqGroupCount = s.irqGroupCount) ∧
        ∀ a ∈ r'.2, a.InBounds s.pinCount s.irqGroupCount := by
    intro op _ t r' ⟨hp, hg⟩ h
    have hc := gpioStep_counts h
    refine ⟨⟨hc.1.trans hp, hc.2.trans hg⟩, ?_⟩
    rw [← hp, ← hg]
    exact gpioStep_inBounds (hp ▸ h16) (hg ▸ h7) h
  exact (tracedRun_invariant (fun t => t.pinCount = s.pinCount ∧ t.irqGroupCount = s.irqGroupCount)
    (GpioAccess.InBounds s.pinCount s.irqGroupCount) hstep s r ⟨rfl, rfl⟩ hr).2

/-! ## Accesses that escape -/

/-- The write to word `pin_count` of group `g`'s window, for fewer than 16 pins and a group
whose window the dispatch decodes, reaches word `(g + 1) * pin_count`.
Source: `hw/gpio/apple_gpio.c` `apple_gpio_reg_write`, `apple_gpio_int_write`
Kind: L -/
theorem mem_appleGpioRegWrite_window (s : AppleGPIOState) {g : ℕ} (hpc : s.pinCount < 16)
    (hg : g < s.irqGroupCount) (hg7 : g ≤ GPIO_MAX_INT_GRP_NR) (data : UInt64) :
    (⟨g, (g + 1) * s.pinCount⟩ : GpioAccess) ∈
      (appleGpioRegWrite s (REG_GPIOINT g 0 + 4 * s.pinCount) data).2 := by
  unfold GPIO_MAX_INT_GRP_NR at hg7
  have hcfg : ¬ (REG_GPIOCFG 0 ≤ REG_GPIOINT g 0 + 4 * s.pinCount ∧
      REG_GPIOINT g 0 + 4 * s.pinCount ≤ REG_GPIOCFG (GPIO_MAX_PIN_NR - 1)) := by
    simp only [REG_GPIOINT_zero, REG_GPIOCFG, GPIO_MAX_PIN_NR]
    omega
  have hint : REG_GPIOINT 0 0 ≤ REG_GPIOINT g 0 + 4 * s.pinCount ∧
      REG_GPIOINT g 0 + 4 * s.pinCount ≤ REG_GPIOINT GPIO_MAX_INT_GRP_NR (GPIO_MAX_PIN_NR - 1) := by
    simp only [REG_GPIOINT, GPIO_MAX_INT_GRP_NR, GPIO_MAX_PIN_NR]
    omega
  -- the dispatch decodes group `g`, and the word is `g * pin_count + pin_count`
  have hgroup : (REG_GPIOINT g 0 + 4 * s.pinCount - REG_GPIOINT 0 0) >>> 6 = g := by
    rw [REG_GPIOINT_zero, REG_GPIOINT_zero, Nat.shiftRight_eq_div_pow]
    omega
  have hword : s.intWord g (REG_GPIOINT g 0 + 4 * s.pinCount) = (g + 1) * s.pinCount := by
    rw [AppleGPIOState.intWord, Nat.add_sub_cancel_left, Nat.add_mul, Nat.one_mul]
    omega
  rw [appleGpioRegWrite, if_neg hcfg, if_pos hint, hgroup, appleGpioIntWrite,
    if_neg (Nat.not_le.mpr hg)]
  dsimp only
  rw [hword]
  exact List.mem_cons_self

/-- A configuration with its interrupt unmasked touches the pending word of its group.
Source: `hw/gpio/apple_gpio.c` `apple_gpio_update_pincfg`
Kind: L -/
theorem pendingWord_mem_appleGpioUpdatePincfg (s : AppleGPIOState) (pin : ℕ) {v : UInt32}
    (hun : v &&& INT_MASKED ≠ INT_MASKED) :
    s.pendingWord (intGroup v) pin ∈ (appleGpioUpdatePincfg s pin v).2 := by
  simp only [appleGpioUpdatePincfg, if_pos hun]
  exact List.mem_cons_self

/-- The configuration write of pin `0` naming group `irq_group_count` touches word
`irq_group_count * pin_count`.
Source: `hw/gpio/apple_gpio.c` `apple_gpio_cfg_write`, `apple_gpio_update_pincfg`
Kind: L -/
theorem mem_appleGpioRegWrite_cfg (s : AppleGPIOState) (hpc : 0 < s.pinCount)
    (higc : s.irqGroupCount < GPIO_MAX_INT_GRP_NR) :
    (⟨s.irqGroupCount, s.irqGroupCount * s.pinCount⟩ : GpioAccess) ∈
      (appleGpioRegWrite s (REG_GPIOCFG 0) (UInt64.ofNat (s.irqGroupCount * 2 ^ 16))).2 := by
  obtain ⟨hgrp, hun⟩ := intGroup_shift higc
  have hcfg : REG_GPIOCFG 0 ≤ REG_GPIOCFG 0 ∧ REG_GPIOCFG 0 ≤ REG_GPIOCFG (GPIO_MAX_PIN_NR - 1) := by
    decide
  rw [appleGpioRegWrite, if_pos hcfg, Nat.sub_self, Nat.zero_shiftRight, UInt64.toUInt32_ofNat',
    appleGpioCfgWrite, if_neg (Nat.not_le.mpr hpc)]
  have h := pendingWord_mem_appleGpioUpdatePincfg s 0 hun
  rw [hgrp] at h
  exact h

/-- **Some accesses to `int_config` leave their group or the array**: with fewer than 16 pins
the write to word `pin_count` of any group's window touches the next group's first word, and with
fewer than 7 groups a configuration write naming group `irq_group_count` touches the word after
the array.
Source: `hw/gpio/apple_gpio.c` `apple_gpio_int_write`, `apple_gpio_update_pincfg`
Kind: P -/
theorem gpio_int_config_access_escapes (s : AppleGPIOState) (hpc : 0 < s.pinCount) (data : UInt64) :
    (s.pinCount < 16 → ∀ g < s.irqGroupCount, g ≤ GPIO_MAX_INT_GRP_NR →
      (⟨g, (g + 1) * s.pinCount⟩ : GpioAccess) ∈
          (appleGpioRegWrite s (REG_GPIOINT g 0 + 4 * s.pinCount) data).2 ∧
        ¬ (⟨g, (g + 1) * s.pinCount⟩ : GpioAccess).InBounds s.pinCount s.irqGroupCount) ∧
    (s.irqGroupCount < GPIO_MAX_INT_GRP_NR →
      (⟨s.irqGroupCount, s.irqGroupCount * s.pinCount⟩ : GpioAccess) ∈
          (appleGpioRegWrite s (REG_GPIOCFG 0) (UInt64.ofNat (s.irqGroupCount * 2 ^ 16))).2 ∧
        ¬ (⟨s.irqGroupCount, s.irqGroupCount * s.pinCount⟩ : GpioAccess).InBounds
          s.pinCount s.irqGroupCount) := by
  refine ⟨fun h16 g hg hg7 => ⟨mem_appleGpioRegWrite_window s h16 hg hg7 data, ?_⟩,
    fun higc => ⟨mem_appleGpioRegWrite_cfg s hpc higc, ?_⟩⟩
  · -- the word is the first of group `g + 1`
    rintro ⟨_, _, hlt⟩
    exact Nat.lt_irrefl _ hlt
  · rintro ⟨hlt, _, _⟩
    exact Nat.lt_irrefl _ hlt

/-- A controller of 8 pins and one interrupt group, all registers zero.
Source: `hw/gpio/apple_gpio.c` `apple_gpio_create`
Kind: D -/
def smallGpio : AppleGPIOState where
  pinCount := 8
  pinCount_lt := by decide
  irqGroupCount := 1
  gpioCfg := fun _ => 0
  intConfig := fun _ => 0
  inBits := fun _ => 0
  inOld := fun _ => 0
  irqs := fun _ => false
  out := fun _ => false
  npl := 0

/-- On `smallGpio` the window write at `0x820` reaches word 8 and the configuration of pin 0 with
group 1 reaches word 8, past the 8 words of the array. -/
theorem gpio_int_config_access_escapes_small :
    0 < smallGpio.pinCount ∧
      (smallGpio.pinCount < 16 → ∀ g < smallGpio.irqGroupCount, g ≤ GPIO_MAX_INT_GRP_NR →
        (⟨g, (g + 1) * smallGpio.pinCount⟩ : GpioAccess) ∈
            (appleGpioRegWrite smallGpio (REG_GPIOINT g 0 + 4 * smallGpio.pinCount) 0).2 ∧
          ¬ (⟨g, (g + 1) * smallGpio.pinCount⟩ : GpioAccess).InBounds
            smallGpio.pinCount smallGpio.irqGroupCount) ∧
      (smallGpio.irqGroupCount < GPIO_MAX_INT_GRP_NR →
        (⟨smallGpio.irqGroupCount, smallGpio.irqGroupCount * smallGpio.pinCount⟩ : GpioAccess) ∈
            (appleGpioRegWrite smallGpio (REG_GPIOCFG 0)
              (UInt64.ofNat (smallGpio.irqGroupCount * 2 ^ 16))).2 ∧
          ¬ (⟨smallGpio.irqGroupCount, smallGpio.irqGroupCount * smallGpio.pinCount⟩ :
            GpioAccess).InBounds smallGpio.pinCount smallGpio.irqGroupCount) :=
  ⟨by decide, gpio_int_config_access_escapes smallGpio (by decide) 0⟩

end QemuAppleSilicon.Gpio
