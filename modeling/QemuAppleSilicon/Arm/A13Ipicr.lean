import QemuAppleSilicon.Arm.A13

/-!
# The deferred-IPI period `ARM64_REG_IPI_CR` (`hw/arm/apple-silicon/a13.c`)

The deferred IPIs of all clusters are delivered by one global timer, `ipicr_timer`, which
`apple_a13_cluster_ipicr_tick` sets again `ipi_cr` nanoseconds after each time it fires. Software
sees the period through `ARM64_REG_IPI_CR` in ticks of the 24 MHz time base: a write converts
the value to nanoseconds (`absolutetime_to_nanoseconds`), sets the timer to the last multiple of
the old period plus the new one, and stores the nanoseconds; a read converts back
(`nanoseconds_to_absolutetime`).

Both conversions split the value into whole seconds and the rest so that no product leaves 64
bits before its division (`scaleSplit`); below the overflow bound each is the exact floor
`v · 10^9 / 24·10^6` or `n · 24·10^6 / 10^9` (`absolutetimeToNanoseconds_toNat`,
`nanosecondsToAbsolutetime_toNat`). The two floors do not cancel: reading back a value gives
it back only when it is a multiple of `3`, and one tick less otherwise
(`nanosecondsToAbsolutetime_absolutetimeToNanoseconds`).

`apple_a13_ipi_write_cr` replaces a written `0` by `kDeferredIPITimerDefault` in `value` after
it has converted `value`, and never reads `value` again, so a written `0` stores the period `0`.
From then on every write divides by zero in `ct / ipi_cr` and every tick sets the timer to the
very time it fires at. Writes of values that convert to a positive period keep the period
positive over any run (`ipiCrRun_pos`), and then each tick sets the timer after the time it fires
at (`appleA13IpicrRearm_expireTime`).
-/

namespace QemuAppleSilicon.Arm

/-! ## The two clocks -/

/-- Source: `hw/arm/apple-silicon/a13.c` `RTCLOCK_SEC_DIVISOR`. Kind: D -/
def RTCLOCK_SEC_DIVISOR : UInt64 := 24000000

/-- Source: `hw/arm/apple-silicon/a13.c` `NSEC_PER_SEC`. Kind: D -/
def NSEC_PER_SEC : UInt64 := 1000000000

/-- Source: `include/hw/arm/apple-silicon/a13.h` `kDeferredIPITimerDefault`. Kind: D -/
def kDeferredIPITimerDefault : UInt64 := 64000

@[simp] theorem toNat_RTCLOCK_SEC_DIVISOR : RTCLOCK_SEC_DIVISOR.toNat = 24000000 := rfl

@[simp] theorem toNat_NSEC_PER_SEC : NSEC_PER_SEC.toNat = 1000000000 := rfl

/-- What both conversions compute, from units of `divisor` per second to units of `factor` per
second: the whole seconds `t64` scaled, plus the rest scaled and divided, in 64-bit arithmetic.
Source: `hw/arm/apple-silicon/a13.c` `absolutetime_to_nanoseconds`, `nanoseconds_to_absolutetime`
Kind: D -/
def scaleSplit (divisor factor x : UInt64) : UInt64 :=
  let t64 := x / divisor
  let result := t64 * factor
  let x := x - t64 * divisor
  result + x * factor / divisor

/-- Source: `hw/arm/apple-silicon/a13.c` `absolutetime_to_nanoseconds`. Kind: D -/
def absolutetimeToNanoseconds (abstime : UInt64) : UInt64 :=
  scaleSplit RTCLOCK_SEC_DIVISOR NSEC_PER_SEC abstime

/-- Source: `hw/arm/apple-silicon/a13.c` `nanoseconds_to_absolutetime`. Kind: D -/
def nanosecondsToAbsolutetime (nanosecs : UInt64) : UInt64 :=
  scaleSplit NSEC_PER_SEC RTCLOCK_SEC_DIVISOR nanosecs

/-- Scaling by `f / d` is scaling the whole `d`s and the rest apart. -/
theorem mul_div_eq_div_mul_add_mod_mul_div (x d f : ℕ) (hd : 0 < d) :
    x * f / d = x / d * f + x % d * f / d := by
  conv_lhs => rw [← Nat.div_add_mod x d]
  rw [Nat.add_mul, Nat.mul_assoc, Nat.add_comm, Nat.add_mul_div_left _ _ hd, Nat.add_comm]

/-- While the rest scaled and the result fit in 64 bits, `scaleSplit` is the exact floor of
`x · f / d`.
Source: `hw/arm/apple-silicon/a13.c` `absolutetime_to_nanoseconds`
Kind: L -/
theorem scaleSplit_toNat (d f x : UInt64) (hd : 0 < d.toNat)
    (hr : x.toNat % d.toNat * f.toNat < 2 ^ 64) (h : x.toNat * f.toNat / d.toNat < 2 ^ 64) :
    (scaleSplit d f x).toNat = x.toNat * f.toNat / d.toNat := by
  have hx := x.toNat_lt
  have hqd : x.toNat / d.toNat * d.toNat ≤ x.toNat := Nat.div_mul_le_self _ _
  have hq : (x / d * d).toNat = x.toNat / d.toNat * d.toNat := by
    rw [UInt64.toNat_mul, UInt64.toNat_div, Nat.mod_eq_of_lt (by omega)]
  -- the subtraction is the remainder: the whole `d`s lie below `x`
  have hrem : (x - x / d * d).toNat = x.toNat % d.toNat := by
    rw [UInt64.toNat_sub_of_le _ _ (UInt64.le_iff_toNat_le.mpr (hq ▸ hqd)), hq, Nat.mod_def,
      Nat.mul_comm]
  have hsplit := mul_div_eq_div_mul_add_mod_mul_div x.toNat d.toNat f.toNat hd
  have hqf : x.toNat / d.toNat * f.toNat < 2 ^ 64 :=
    Nat.lt_of_le_of_lt (Nat.le_add_right _ _) (hsplit ▸ h)
  simp only [scaleSplit, UInt64.toNat_add, UInt64.toNat_mul, UInt64.toNat_div, hrem,
    Nat.mod_eq_of_lt hqf, Nat.mod_eq_of_lt hr]
  rw [Nat.mod_eq_of_lt (by omega), hsplit]

/-- A value in ticks whose nanoseconds fit in 64 bits converts to the floor of `v · 10^9 / 24·10^6`.
Source: `hw/arm/apple-silicon/a13.c` `absolutetime_to_nanoseconds`
Kind: L -/
theorem absolutetimeToNanoseconds_toNat (v : UInt64)
    (h : v.toNat * 1000000000 / 24000000 < 2 ^ 64) :
    (absolutetimeToNanoseconds v).toNat = v.toNat * 1000000000 / 24000000 :=
  scaleSplit_toNat _ _ v (by decide)
    (by simp only [toNat_RTCLOCK_SEC_DIVISOR, toNat_NSEC_PER_SEC]; omega) h

/-- Nanoseconds always convert to the floor of `n · 24·10^6 / 10^9`.
Source: `hw/arm/apple-silicon/a13.c` `nanoseconds_to_absolutetime`
Kind: L -/
theorem nanosecondsToAbsolutetime_toNat (n : UInt64) :
    (nanosecondsToAbsolutetime n).toNat = n.toNat * 24000000 / 1000000000 := by
  have hn := n.toNat_lt
  exact scaleSplit_toNat _ _ n (by decide)
    (by simp only [toNat_RTCLOCK_SEC_DIVISOR, toNat_NSEC_PER_SEC]; omega)
    (by simp only [toNat_RTCLOCK_SEC_DIVISOR, toNat_NSEC_PER_SEC]; omega)

/-- Only `0` converts to `0` nanoseconds.
Source: `hw/arm/apple-silicon/a13.c` `absolutetime_to_nanoseconds`
Kind: L -/
theorem absolutetimeToNanoseconds_pos (v : UInt64) (hv : 0 < v.toNat)
    (h : v.toNat * 1000000000 / 24000000 < 2 ^ 64) : 0 < (absolutetimeToNanoseconds v).toNat := by
  rw [absolutetimeToNanoseconds_toNat v h]
  omega

/-- The ticks back from the nanoseconds of `v`: `v` for a multiple of `3`, `v - 1` otherwise.
The floor of `v · 125 / 3` loses a third of a nanosecond or two, and the floor of its `· 3 / 125`
then a whole tick.
Source: `hw/arm/apple-silicon/a13.c` `absolutetime_to_nanoseconds`, `nanoseconds_to_absolutetime`
Kind: L -/
theorem nanosecondsToAbsolutetime_absolutetimeToNanoseconds (v : UInt64)
    (h : v.toNat * 1000000000 / 24000000 < 2 ^ 64) :
    (nanosecondsToAbsolutetime (absolutetimeToNanoseconds v)).toNat =
      if v.toNat % 3 = 0 then v.toNat else v.toNat - 1 := by
  rw [nanosecondsToAbsolutetime_toNat, absolutetimeToNanoseconds_toNat v h]
  have hns : v.toNat * 1000000000 / 24000000 = v.toNat * 125 / 3 := by
    rw [show v.toNat * 1000000000 = v.toNat * 125 * 8000000 by omega,
      show (24000000 : ℕ) = 3 * 8000000 from rfl, Nat.mul_div_mul_right _ _ (by decide)]
  have hticks : ∀ m : ℕ, m * 24000000 / 1000000000 = m * 3 / 125 := by
    intro m
    rw [show m * 24000000 = m * 3 * 8000000 by omega,
      show (1000000000 : ℕ) = 125 * 8000000 from rfl, Nat.mul_div_mul_right _ _ (by decide)]
  rw [hns, hticks]
  -- `omega` needs the residue of `v` mod 3 named to see through the two floors
  split
  · omega
  · rcases (by omega : v.toNat % 3 = 1 ∨ v.toNat % 3 = 2) with h3 | h3 <;> omega

/-! ## The timer and the register -/

/-- `timer_mod_ns(ts, expire_time)`: the argument is an `int64_t`, and a negative one is taken as
`0`, a time already past.
Source: `util/qemu-timer.c` `timer_mod_ns`, `timer_mod_ns_locked`
Kind: D -/
def timerModNs (expireTime : UInt64) : ℕ :=
  if expireTime.toNat < 2 ^ 63 then expireTime.toNat else 0

/-- The globals `ipi_cr` and `ipicr_timer` of `a13.c`.
Source: `hw/arm/apple-silicon/a13.c` `ipi_cr`, `ipicr_timer`
Kind: D -/
structure AppleA13IpiCr where
  /-- `ipi_cr`: the deferred-IPI period, in nanoseconds. -/
  ipiCr : UInt64
  /-- When `ipicr_timer` fires next, on `QEMU_CLOCK_VIRTUAL`. -/
  expireTime : ℕ
  deriving DecidableEq, Repr

/-- `apple_a13_cluster_reset_handler` at the `QEMU_CLOCK_VIRTUAL` reading `now`: the timer is
made again and set `kDeferredIPITimerDefault` nanoseconds on; `ipi_cr` keeps its value.
Source: `hw/arm/apple-silicon/a13.c` `apple_a13_cluster_reset_handler`
Kind: D -/
def appleA13ClusterResetHandler (s : AppleA13IpiCr) (now : UInt64) : AppleA13IpiCr :=
  { s with expireTime := timerModNs (now + kDeferredIPITimerDefault) }

@[simp] theorem appleA13ClusterResetHandler_ipiCr (s : AppleA13IpiCr) (now : UInt64) :
    (appleA13ClusterResetHandler s now).ipiCr = s.ipiCr := by
  -- unfolded first, so that the kernel projects out of the structure and never compares the
  -- timer's `now + kDeferredIPITimerDefault`, which it would unfold one successor at a time
  unfold appleA13ClusterResetHandler
  rfl

/-- The globals after the reset handler first ran at `now`, `ipi_cr` at its initial value.
Source: `hw/arm/apple-silicon/a13.c` `ipi_cr`, `apple_a13_cluster_reset_handler`
Kind: D -/
def appleA13IpiCrInit (now : UInt64) : AppleA13IpiCr :=
  appleA13ClusterResetHandler ⟨kDeferredIPITimerDefault, 0⟩ now

/-- `apple_a13_ipi_read_cr`: the period in ticks of the time base.
Source: `hw/arm/apple-silicon/a13.c` `apple_a13_ipi_read_cr`
Kind: D -/
def appleA13IpiReadCr (s : AppleA13IpiCr) : UInt64 := nanosecondsToAbsolutetime s.ipiCr

/-- `apple_a13_ipi_write_cr(value)` at the `QEMU_CLOCK_VIRTUAL` reading `ct`: the timer is set to
the last multiple of the old period plus the new one, which becomes the period. `none` when the
old period is `0`: `ct / ipi_cr` divides by zero, which C leaves undefined.
Source: `hw/arm/apple-silicon/a13.c` `apple_a13_ipi_write_cr`
Kind: D -/
def appleA13IpiWriteCr (s : AppleA13IpiCr) (ct value : UInt64) : Option AppleA13IpiCr :=
  let nanosec := absolutetimeToNanoseconds value
  -- `if (value == 0) value = kDeferredIPITimerDefault;` stores into `value` after its conversion,
  -- and nothing reads `value` after it: a written `0` is the period `0`
  if s.ipiCr = 0 then none
  else some { ipiCr := nanosec, expireTime := timerModNs (ct / s.ipiCr * s.ipiCr + nanosec) }

/-- The last line of `apple_a13_cluster_ipicr_tick`: the timer is set `ipi_cr` nanoseconds after
the `QEMU_CLOCK_VIRTUAL` reading `now`.
Source: `hw/arm/apple-silicon/a13.c` `apple_a13_cluster_ipicr_tick`
Kind: D -/
def appleA13IpicrRearm (s : AppleA13IpiCr) (now : UInt64) : AppleA13IpiCr :=
  { s with expireTime := timerModNs (now + s.ipiCr) }

@[simp] theorem appleA13IpicrRearm_ipiCr (s : AppleA13IpiCr) (now : UInt64) :
    (appleA13IpicrRearm s now).ipiCr = s.ipiCr := rfl

/-- `apple_a13_cluster_ipicr_tick` whole: every cluster ticks, then the timer is set again.
Source: `hw/arm/apple-silicon/a13.c` `apple_a13_cluster_ipicr_tick`
Kind: D -/
def appleA13ClusterIpicrTickRearm (cs : List AppleA13Cluster) (s : AppleA13IpiCr) (now : UInt64) :
    Option ((List AppleA13Cluster × List A13Access) × AppleA13IpiCr) :=
  (appleA13ClusterIpicrTick cs).map fun r => (r, appleA13IpicrRearm s now)

/-- What touches the period and the timer: a write of `IPI_CR` at a clock reading, the timer
firing at one, or a machine reset at one. Reads of `IPI_CR` change nothing.
Source: `hw/arm/apple-silicon/a13.c`
Kind: D -/
inductive IpiCrEvent where
  | writeCr (ct value : UInt64)
  | tick (now : UInt64)
  | reset (now : UInt64)
  deriving DecidableEq, Repr

/-- One event on the period and the timer; the clusters' part of a tick is `a13Step .tick`.
Source: `hw/arm/apple-silicon/a13.c`
Kind: D -/
def ipiCrStep (s : AppleA13IpiCr) : IpiCrEvent → Option AppleA13IpiCr
  | .writeCr ct value => appleA13IpiWriteCr s ct value
  | .tick now => some (appleA13IpicrRearm s now)
  | .reset now => some (appleA13ClusterResetHandler s now)

/-- A run of events, stopping at the first undefined division.
Source: `hw/arm/apple-silicon/a13.c`
Kind: D -/
def ipiCrRun : AppleA13IpiCr → List IpiCrEvent → Option AppleA13IpiCr
  | s, [] => some s
  | s, e :: es => (ipiCrStep s e).bind fun s => ipiCrRun s es

/-! ## What each event does to the period -/

/-- Source: `util/qemu-timer.c` `timer_mod_ns`. Kind: L -/
theorem timerModNs_of_lt {t : UInt64} (h : t.toNat < 2 ^ 63) : timerModNs t = t.toNat :=
  if_pos h

/-- Source: `hw/arm/apple-silicon/a13.c` `apple_a13_ipi_write_cr`. Kind: L -/
theorem appleA13IpiWriteCr_of_ne_zero {s : AppleA13IpiCr} (hs : s.ipiCr ≠ 0) (ct value : UInt64) :
    appleA13IpiWriteCr s ct value = some ⟨absolutetimeToNanoseconds value,
      timerModNs (ct / s.ipiCr * s.ipiCr + absolutetimeToNanoseconds value)⟩ :=
  if_neg hs

/-- Source: `hw/arm/apple-silicon/a13.c` `apple_a13_ipi_write_cr`. Kind: L -/
theorem appleA13IpiWriteCr_of_eq_zero {s : AppleA13IpiCr} (hs : s.ipiCr = 0) (ct value : UInt64) :
    appleA13IpiWriteCr s ct value = none :=
  if_pos hs

/-- A tick sets the timer `ipi_cr` after the reading it fires at, while that sum stays below
`2^63`.
Source: `hw/arm/apple-silicon/a13.c` `apple_a13_cluster_ipicr_tick`
Kind: L -/
theorem appleA13IpicrRearm_expireTime (s : AppleA13IpiCr) {now : UInt64}
    (h : now.toNat + s.ipiCr.toNat < 2 ^ 63) :
    (appleA13IpicrRearm s now).expireTime = now.toNat + s.ipiCr.toNat := by
  have hsum : (now + s.ipiCr).toNat = now.toNat + s.ipiCr.toNat := by
    rw [UInt64.toNat_add]
    exact Nat.mod_eq_of_lt (by omega)
  rw [appleA13IpicrRearm, timerModNs_of_lt (hsum ▸ h), hsum]

/-- A write whose value converts to a positive period without overflow; the other events impose
nothing.
Source: `hw/arm/apple-silicon/a13.c` `apple_a13_ipi_write_cr`
Kind: D -/
def IpiCrEvent.WritesPositive : IpiCrEvent → Prop
  | .writeCr _ value => 0 < value.toNat ∧ value.toNat * 1000000000 / 24000000 < 2 ^ 64
  | _ => True

/-- Every event from a positive period succeeds, and keeps the period positive unless it writes a
value that converts to `0`.
Source: `hw/arm/apple-silicon/a13.c`
Kind: L -/
theorem ipiCrStep_pos {s : AppleA13IpiCr} (hs : s.ipiCr ≠ 0) {e : IpiCrEvent}
    (he : e.WritesPositive) : ∃ s', ipiCrStep s e = some s' ∧ s'.ipiCr ≠ 0 := by
  cases e with
  | writeCr ct value =>
    refine ⟨_, appleA13IpiWriteCr_of_ne_zero hs ct value, fun h0 => ?_⟩
    have hpos := absolutetimeToNanoseconds_pos value he.1 he.2
    rw [show absolutetimeToNanoseconds value = 0 from h0] at hpos
    exact absurd hpos (by decide)
  | tick now => exact ⟨appleA13IpicrRearm s now, rfl, by rwa [appleA13IpicrRearm_ipiCr]⟩
  | reset now =>
    exact ⟨appleA13ClusterResetHandler s now, rfl, by rwa [appleA13ClusterResetHandler_ipiCr]⟩

/-- Over any run whose writes convert to positive periods, no write divides by zero and the period
stays positive, so each tick sets the timer after the time it fires at.
Source: `hw/arm/apple-silicon/a13.c`
Kind: P -/
theorem ipiCrRun_pos (s : AppleA13IpiCr) (hs : s.ipiCr ≠ 0) (es : List IpiCrEvent)
    (he : ∀ e ∈ es, e.WritesPositive) : ∃ s', ipiCrRun s es = some s' ∧ s'.ipiCr ≠ 0 := by
  induction es generalizing s with
  | nil => exact ⟨s, rfl, hs⟩
  | cons e es ih =>
    obtain ⟨s₁, h₁, hs₁⟩ := ipiCrStep_pos hs (he e List.mem_cons_self)
    obtain ⟨s', h', hs'⟩ := ih s₁ hs₁ fun e' he' => he e' (List.mem_cons_of_mem e he')
    exact ⟨s', by rw [ipiCrRun, h₁, Option.bind_some, h'], hs'⟩

/-! ## A written `0`, and reading back -/

/-- From any period that is not `0`, writing `0` stores the period `0`. After it every write of
`IPI_CR` divides by zero, and the timer's tick sets it to the reading it fires at, so it fires
again at once. Besides, a value `v` read back after its write is `v` only when `3` divides it,
and `v - 1` otherwise.
Source: `hw/arm/apple-silicon/a13.c` `apple_a13_ipi_write_cr`, `apple_a13_ipi_read_cr`,
`apple_a13_cluster_ipicr_tick`
Kind: P -/
theorem apple_a13_ipi_cr_zero_period_and_read_back (s : AppleA13IpiCr) (hs : s.ipiCr ≠ 0)
    (cs : List AppleA13Cluster) (ct ct' now value : UInt64) (hnow : now.toNat < 2 ^ 63) :
    (∃ s', appleA13IpiWriteCr s ct 0 = some s' ∧ s'.ipiCr = 0 ∧
      appleA13IpiWriteCr s' ct' value = none ∧
      ∃ r, appleA13ClusterIpicrTickRearm cs s' now = some r ∧ r.2.expireTime = now.toNat) ∧
    (value.toNat * 1000000000 / 24000000 < 2 ^ 64 →
      ∃ s', appleA13IpiWriteCr s ct value = some s' ∧
        (appleA13IpiReadCr s').toNat = if value.toNat % 3 = 0 then value.toNat else value.toNat - 1) := by
  have h0 : absolutetimeToNanoseconds 0 = 0 := by decide
  obtain ⟨r, hr⟩ := Option.isSome_iff_exists.mp (appleA13ClusterIpicrTick_isSome cs)
  refine ⟨⟨_, appleA13IpiWriteCr_of_ne_zero hs ct 0, h0, appleA13IpiWriteCr_of_eq_zero h0 ct' value,
    (r, appleA13IpicrRearm _ now), by rw [appleA13ClusterIpicrTickRearm, hr, Option.map_some], ?_⟩,
    fun hv => ⟨_, appleA13IpiWriteCr_of_ne_zero hs ct value,
      nanosecondsToAbsolutetime_absolutetimeToNanoseconds value hv⟩⟩
  -- the period is `0`, so the tick's sum is the reading itself
  have hlt : now.toNat + (absolutetimeToNanoseconds 0).toNat < 2 ^ 63 := by
    rw [h0, UInt64.toNat_zero, Nat.add_zero]
    exact hnow
  rw [appleA13IpicrRearm_expireTime _ hlt, h0, UInt64.toNat_zero, Nat.add_zero]

/-- From the period at its initial value, writing `0` and then anything divides by zero, and
writing `1` tick reads back `0`.
Source: `hw/arm/apple-silicon/a13.c` `apple_a13_ipi_write_cr`
Kind: P -/
theorem apple_a13_ipi_cr_zero_period_and_read_back_one :
    (appleA13IpiCrInit 0).ipiCr ≠ 0 ∧ (0 : UInt64).toNat < 2 ^ 63 ∧
      (1 : UInt64).toNat * 1000000000 / 24000000 < 2 ^ 64 ∧
      (∃ s', appleA13IpiWriteCr (appleA13IpiCrInit 0) 0 0 = some s' ∧ s'.ipiCr = 0 ∧
        appleA13IpiWriteCr s' 0 1 = none ∧
        ∃ r, appleA13ClusterIpicrTickRearm [] s' 0 = some r ∧ r.2.expireTime = 0) ∧
      ∃ s', appleA13IpiWriteCr (appleA13IpiCrInit 0) 0 1 = some s' ∧ (appleA13IpiReadCr s').toNat = 0 := by
  have h := apple_a13_ipi_cr_zero_period_and_read_back (appleA13IpiCrInit 0) (by decide) [] 0 0 0 1
    (by decide)
  exact ⟨by decide, by decide, by decide, h.1, h.2 (by decide)⟩

end QemuAppleSilicon.Arm
