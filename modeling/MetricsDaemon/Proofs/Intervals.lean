import Mathlib.Algebra.Order.Field.Basic
import Mathlib.Algebra.Order.Field.Rat
import Mathlib.Algebra.Ring.Parity
import Mathlib.Tactic.FieldSimp
import Mathlib.Tactic.Linarith
import Mathlib.Tactic.NormNum
import Mathlib.Tactic.Positivity
import MetricsDaemon.Daemon
import MetricsDaemon.Settings.Reader

/-!
# The interval between ticks

A configured number of seconds is rounded to nanoseconds, a tie to the even one. A number
that is not finite and positive stands for one second. A positive one keeps the scheduler
running unless it is rounded to nothing, which it is up to half a nanosecond, or is too long
to count, which it is from half a nanosecond below `2 ^ 64` seconds on.
-/

namespace MetricsDaemon

namespace Number

/-! ## Rounding -/

/-- The natural number nearest to a rational one; of two that are equally near, the even one. -/
structure IsNearestEven (x : ℚ) (n : ℕ) : Prop where
  near : |x - n| ≤ 1 / 2
  even : |x - n| = 1 / 2 → Even n

variable {x : ℚ} {n k num den : ℕ}

/-- A whole number that is less than a half away is the nearest. -/
theorem IsNearestEven.of_lt (hnear : |x - n| < 1 / 2) : IsNearestEven x n :=
  ⟨hnear.le, fun htie => absurd htie hnear.ne⟩

/-- A quotient is its whole part and a fraction. -/
theorem div_eq_add_fraction (num : ℕ) (hden : 0 < den) :
    (num : ℚ) / den = (num / den : ℕ) + ((num % den : ℕ) : ℚ) / den := by
  have hne : (den : ℚ) ≠ 0 := by exact_mod_cast hden.ne'
  have hnum : (num : ℚ) = den * (num / den : ℕ) + (num % den : ℕ) := by
    exact_mod_cast (Nat.div_add_mod num den).symm
  conv_lhs => rw [hnum]
  field_simp

/-- A fraction is less than a half when twice its numerator is less than its denominator. -/
theorem fraction_lt_half_iff {rest : ℕ} (hden : 0 < den) :
    (rest : ℚ) / den < 1 / 2 ↔ 2 * rest < den := by
  have hpositive : (0 : ℚ) < den := by exact_mod_cast hden
  rw [div_lt_div_iff₀ hpositive two_pos, one_mul, mul_comm]
  exact_mod_cast Iff.rfl

/-- A fraction is more than a half when twice its numerator is more than its denominator. -/
theorem half_lt_fraction_iff {rest : ℕ} (hden : 0 < den) :
    1 / 2 < (rest : ℚ) / den ↔ den < 2 * rest := by
  have hpositive : (0 : ℚ) < den := by exact_mod_cast hden
  rw [div_lt_div_iff₀ two_pos hpositive, one_mul, mul_comm]
  exact_mod_cast Iff.rfl

/-- Rounding a quotient to even gives the nearest whole number, the even one of two that are equally
near. -/
theorem isNearestEven_roundQuotient (num : ℕ) (hden : 0 < den) :
    IsNearestEven (num / den) (roundQuotient .toEven num den) := by
  have hpositive : (0 : ℚ) < den := by exact_mod_cast hden
  have hfraction : (0 : ℚ) ≤ ((num % den : ℕ) : ℚ) / den := by positivity
  have hless : ((num % den : ℕ) : ℚ) / den < 1 :=
    (div_lt_one hpositive).mpr (by exact_mod_cast Nat.mod_lt num hden)
  rw [div_eq_add_fraction num hden]
  simp only [roundQuotient]
  split
  · next hdown =>
    have hhalf := (fraction_lt_half_iff hden).mpr hdown
    exact .of_lt (abs_lt.mpr ⟨by linarith, by linarith⟩)
  · next hdown =>
    split
    · next hup =>
      have hhalf := (half_lt_fraction_iff hden).mpr hup
      refine .of_lt (abs_lt.mpr ⟨?_, ?_⟩)
      · push_cast
        linarith
      · push_cast
        linarith
    · next hup =>
      have hhalf : ((num % den : ℕ) : ℚ) / den = 1 / 2 :=
        le_antisymm (not_lt.mp fun h => hup ((half_lt_fraction_iff hden).mp h))
          (not_lt.mp fun h => hdown ((fraction_lt_half_iff hden).mp h))
      rw [hhalf]
      split
      · next heven =>
        refine ⟨?_, fun _ => Nat.even_iff.mpr heven.2⟩
        rw [add_sub_cancel_left, abs_of_pos one_half_pos]
      · next hodd =>
        refine ⟨?_, fun _ => ?_⟩
        · push_cast
          rw [abs_le]
          constructor <;> linarith
        · rw [Nat.even_add_one, Nat.even_iff]
          exact fun heven => hodd ⟨trivial, heven⟩

/-- What is rounded to an even number or less. -/
theorem IsNearestEven.le_iff (hnearest : IsNearestEven x n) (hk : Even k) :
    n ≤ k ↔ x ≤ k + 1 / 2 := by
  obtain ⟨hlow, hhigh⟩ := abs_le.mp hnearest.near
  constructor
  · intro hle
    have hcast : (n : ℚ) ≤ k := by exact_mod_cast hle
    linarith
  · intro hx
    by_contra hlt
    have hcast : (k : ℚ) + 1 ≤ n := by exact_mod_cast Nat.not_le.mp hlt
    have hnext : n = k + 1 := by
      have hcast' : (n : ℚ) ≤ k + 1 := by linarith
      exact_mod_cast le_antisymm hcast' hcast
    subst hnext
    push_cast at hlow
    have htie : x = k + 1 / 2 := by linarith
    have heven := hnearest.even (by rw [htie]; push_cast; norm_num [abs_of_nonpos])
    exact Nat.even_add_one.mp heven hk

/-- What is rounded to an even number or more. -/
theorem IsNearestEven.ge_iff (hnearest : IsNearestEven x n) (hk : Even k) :
    k ≤ n ↔ k - 1 / 2 ≤ x := by
  obtain ⟨hlow, hhigh⟩ := abs_le.mp hnearest.near
  constructor
  · intro hle
    have hcast : (k : ℚ) ≤ n := by exact_mod_cast hle
    linarith
  · intro hx
    by_contra hlt
    have hcast : (n : ℚ) + 1 ≤ k := by exact_mod_cast Nat.not_le.mp hlt
    have hnext : k = n + 1 := by
      have hcast' : (k : ℚ) ≤ n + 1 := by linarith
      exact_mod_cast le_antisymm hcast' hcast
    subst hnext
    push_cast at hx
    have htie : x = n + 1 / 2 := by linarith
    have heven := hnearest.even (by rw [htie]; norm_num)
    exact Nat.even_add_one.mp hk heven

/-! ## Seconds -/

/-- The number itself, if it is finite. -/
def Binary.toRat? : Binary → Option ℚ
  | .finite false significand exponent => some (significand * 2 ^ exponent)
  | .finite true significand exponent => some (-(significand * 2 ^ exponent))
  | _ => none

/-- The magnitude of a binary number is not negative. -/
theorem Binary.magnitude_nonneg (significand : ℕ) (exponent : ℤ) :
    (0 : ℚ) ≤ significand * 2 ^ exponent :=
  mul_nonneg (Nat.cast_nonneg significand) (zpow_nonneg two_pos.le exponent)

/-- The quotient that a binary number is written as has a positive denominator. -/
theorem Binary.quotient_snd_pos (significand : ℕ) (exponent : ℤ) :
    0 < (Binary.quotient significand exponent).2 := by
  unfold quotient
  split
  · exact Nat.one_pos
  · exact Nat.pow_pos (by decide)

/-- The quotient that a binary number is written as has its value. -/
theorem Binary.quotient_eq (significand : ℕ) (exponent : ℤ) :
    ((Binary.quotient significand exponent).1 : ℚ) / (Binary.quotient significand exponent).2 =
      significand * 2 ^ exponent := by
  unfold quotient
  split
  · next hexponent =>
    obtain ⟨places, rfl⟩ := Int.eq_ofNat_of_zero_le hexponent
    simp
  · next hexponent =>
    obtain ⟨places, hplaces⟩ := Int.eq_ofNat_of_zero_le (by omega : 0 ≤ -exponent)
    obtain rfl : exponent = -places := by omega
    simp [div_eq_mul_inv]

end Number

namespace Settings

open Number (IsNearestEven roundQuotient)
open Number.Binary (toRat?)

variable {settings : Settings} {interval : Number.Binary} {v : ℚ}

/-- An interval is used as it is exactly if it is finite and positive. -/
theorem isUsableInterval_iff :
    isUsableInterval interval = true ↔ ∃ v, toRat? interval = some v ∧ 0 < v := by
  cases interval with
  | finite negative significand exponent =>
    have hpower : (0 : ℚ) < 2 ^ exponent := zpow_pos two_pos exponent
    cases negative with
    | false =>
      have hpositive : 0 < (significand : ℚ) * 2 ^ exponent ↔ significand ≠ 0 := by
        rw [mul_pos_iff_of_pos_right hpower, Nat.cast_pos, Nat.pos_iff_ne_zero]
      simp [isUsableInterval, Number.Binary.isFinite, Number.Binary.isNegative,
        Number.Binary.isZero, toRat?, hpositive]
    | true =>
      simpa [isUsableInterval, Number.Binary.isNegative, toRat?] using
        Number.Binary.magnitude_nonneg significand exponent
  | infinite negative => simp [isUsableInterval, Number.Binary.isFinite, toRat?]
  | nan => simp [isUsableInterval, Number.Binary.isFinite, toRat?]

/-- A positive number of seconds is rounded, and refused from `2 ^ 64` seconds on. -/
theorem exists_secondsToNanos? (hv : toRat? interval = some v) (hpositive : 0 < v) :
    ∃ nanos, IsNearestEven (v * Nanos.perSecond) nanos ∧
      secondsToNanos? interval = if nanos < 2 ^ 64 * Nanos.perSecond then some nanos else none := by
  obtain ⟨significand, exponent, rfl⟩ :
      ∃ significand exponent, interval = .finite false significand exponent := by
    cases interval with
    | finite negative significand exponent =>
      cases negative with
      | false => exact ⟨significand, exponent, rfl⟩
      | true =>
        cases hv
        exact absurd hpositive
          (not_lt.mpr (neg_nonpos.mpr (Number.Binary.magnitude_nonneg significand exponent)))
    | infinite negative => cases hv
    | nan => cases hv
  cases hv
  have hnearest := Number.isNearestEven_roundQuotient
    ((Number.Binary.quotient significand exponent).1 * Nanos.perSecond)
    (Number.Binary.quotient_snd_pos significand exponent)
  rw [Nat.cast_mul, mul_div_right_comm, Number.Binary.quotient_eq] at hnearest
  refine ⟨_, hnearest, ?_⟩
  simp only [secondsToNanos?, Number.greatestUInt64]
  refine if_congr ?_ rfl rfl
  rw [Nat.div_le_iff_le_mul_add_pred (by decide), Nanos.perSecond]
  omega

/-- Half a nanosecond, in seconds. -/
def halfNano : ℚ := 1 / (2 * Nanos.perSecond)

/-- What comes of a configured interval. -/
structure Schedules (settings : Settings) : Prop where
  /-- Anything but a positive number stands for one second. -/
  unfit : (∀ v, toRat? settings.interval = some v → v ≤ 0) →
    settings.tickPeriod = some Nanos.perSecond
  /-- A positive number is rounded to nanoseconds. -/
  nearest : ∀ v period, toRat? settings.interval = some v → 0 < v →
    settings.tickPeriod = some period → IsNearestEven (v * Nanos.perSecond) period
  /-- It cannot be counted exactly from half a nanosecond below `2 ^ 64` seconds on. -/
  endless : ∀ v, toRat? settings.interval = some v → 0 < v →
    (settings.tickPeriod = none ↔ 2 ^ 64 - halfNano ≤ v)
  /-- Nothing is left of it exactly up to half a nanosecond. -/
  empty : ∀ v, toRat? settings.interval = some v → 0 < v →
    (settings.tickPeriod = some 0 ↔ v ≤ halfNano)
  /-- So there is a schedule exactly for what lies between. -/
  runs : ∀ now, (∃ schedule, settings.tickPeriod.bind (Schedule.begin? now) = some schedule) ↔
    ∀ v, toRat? settings.interval = some v → 0 < v → halfNano < v ∧ v < 2 ^ 64 - halfNano
  /-- A daemon with an interval of which nothing is left serves, and never ticks. -/
  idle : ∀ world v, settings.listen.isListenable = true → toRat? settings.interval = some v →
    0 < v → v ≤ halfNano → ∃ running, Daemon.start world settings = .ok running ∧
      ∀ waits : List ℕ, waits.foldl LiveDaemon.advance running =
        ⟨waits.foldl World.advance world, none⟩
  /-- One whose interval cannot be counted does not start. -/
  fails : ∀ world v, settings.listen.isListenable = true → toRat? settings.interval = some v →
    0 < v → 2 ^ 64 - halfNano ≤ v → Daemon.start world settings = .error .endlessInterval

/-- An interval that is no positive number gives a period of one second. -/
theorem tickPeriod_of_unfit (hunfit : ∀ v, toRat? settings.interval = some v → v ≤ 0) :
    settings.tickPeriod = some Nanos.perSecond := by
  have hunusable : ¬isUsableInterval settings.interval = true := by
    rw [isUsableInterval_iff]
    rintro ⟨v, hv, hpositive⟩
    exact absurd (hunfit v hv) (not_le.mpr hpositive)
  rw [tickPeriod, if_neg hunusable]
  decide

/-- A positive interval gives its nearest number of nanoseconds, or no period when these are too
many seconds to be counted in 64 bits. -/
theorem exists_tickPeriod (hv : toRat? settings.interval = some v) (hpositive : 0 < v) :
    ∃ nanos, IsNearestEven (v * Nanos.perSecond) nanos ∧
      settings.tickPeriod = if nanos < 2 ^ 64 * Nanos.perSecond then some nanos else none := by
  rw [tickPeriod, if_pos (isUsableInterval_iff.mpr ⟨v, hv, hpositive⟩)]
  exact exists_secondsToNanos? hv hpositive

/-- A positive interval gives no period exactly from half a nanosecond below 2 ^ 64 seconds on. -/
theorem tickPeriod_eq_none_iff (hv : toRat? settings.interval = some v) (hpositive : 0 < v) :
    settings.tickPeriod = none ↔ 2 ^ 64 - halfNano ≤ v := by
  obtain ⟨nanos, hnearest, hperiod⟩ := exists_tickPeriod hv hpositive
  have hlimit : Even (2 ^ 64 * Nanos.perSecond) := by decide
  have hnone : settings.tickPeriod = none ↔ 2 ^ 64 * Nanos.perSecond ≤ nanos := by
    rw [hperiod, ← not_lt]
    split <;> simp_all
  rw [hnone, hnearest.ge_iff hlimit, halfNano]
  simp only [Nanos.perSecond]
  push_cast
  constructor <;> intro h <;> linarith

/-- A positive interval gives a period of zero exactly up to half a nanosecond. -/
theorem tickPeriod_eq_zero_iff (hv : toRat? settings.interval = some v) (hpositive : 0 < v) :
    settings.tickPeriod = some 0 ↔ v ≤ halfNano := by
  obtain ⟨nanos, hnearest, hperiod⟩ := exists_tickPeriod hv hpositive
  have hzero : settings.tickPeriod = some 0 ↔ nanos ≤ 0 := by
    rw [hperiod, Nat.le_zero]
    split
    · exact Option.some_inj
    · next hlong =>
      simp only [reduceCtorEq, false_iff]
      rintro rfl
      exact hlong (by decide)
  rw [hzero, hnearest.le_iff Even.zero, halfNano]
  simp only [Nanos.perSecond]
  push_cast
  constructor <;> intro h <;> linarith

/-- A schedule needs a period. -/
theorem exists_begin?_iff {period : Option ℕ} (now : ℕ) :
    (∃ schedule, period.bind (Schedule.begin? now) = some schedule) ↔
      period ≠ none ∧ period ≠ some 0 := by
  cases period with
  | none => simp
  | some period =>
    simp only [Option.bind_some, Schedule.begin?]
    split <;> simp_all

/-- The daemon does not start with an interval that is too long. -/
theorem start_of_endless {world : World} (hlisten : settings.listen.isListenable = true)
    (hendless : settings.tickPeriod = none) :
    Daemon.start world settings = .error .endlessInterval := by
  rw [Daemon.start, if_pos hlisten, hendless]

/-- The daemon starts, but makes no ticks, with an interval that is too short. -/
theorem start_of_empty {world : World} (hlisten : settings.listen.isListenable = true)
    (hempty : settings.tickPeriod = some 0) : Daemon.start world settings = .ok ⟨world, none⟩ := by
  rw [Daemon.start, if_pos hlisten, hempty]
  rfl

/-- Without a schedule time passes, and nothing else happens. -/
theorem foldl_advance_idle (world : World) (waits : List ℕ) :
    waits.foldl LiveDaemon.advance ⟨world, none⟩ = ⟨waits.foldl World.advance world, none⟩ := by
  induction waits generalizing world with
  | nil => rfl
  | cons millis waits ih => exact ih (world.advance millis)

/-- A configured interval gives the scheduler a schedule exactly if it is not positive, which stands
for one second, or lies between half a nanosecond and `2 ^ 64` seconds. -/
theorem schedule_iff_interval_fits (settings : Settings) : settings.Schedules where
  unfit := tickPeriod_of_unfit
  nearest := by
    intro v period hv hpositive hperiod
    obtain ⟨nanos, hnearest, hnanos⟩ := exists_tickPeriod hv hpositive
    rw [hnanos] at hperiod
    split at hperiod
    · cases hperiod
      exact hnearest
    · cases hperiod
  endless := fun v => tickPeriod_eq_none_iff
  empty := fun v => tickPeriod_eq_zero_iff
  runs := by
    intro now
    rw [exists_begin?_iff]
    constructor
    · rintro ⟨hnone, hzero⟩ v hv hpositive
      rw [Ne, tickPeriod_eq_none_iff hv hpositive, not_le] at hnone
      rw [Ne, tickPeriod_eq_zero_iff hv hpositive, not_le] at hzero
      exact ⟨hzero, hnone⟩
    · intro hbetween
      by_cases hunfit : ∀ v, toRat? settings.interval = some v → v ≤ 0
      · rw [tickPeriod_of_unfit hunfit]
        decide
      · push Not at hunfit
        obtain ⟨v, hv, hpositive⟩ := hunfit
        obtain ⟨hzero, hnone⟩ := hbetween v hv hpositive
        rw [Ne, tickPeriod_eq_none_iff hv hpositive, not_le, Ne,
          tickPeriod_eq_zero_iff hv hpositive, not_le]
        exact ⟨hnone, hzero⟩
  idle := fun world v hlisten hv hpositive hsmall =>
    ⟨_, start_of_empty hlisten ((tickPeriod_eq_zero_iff hv hpositive).mpr hsmall),
      foldl_advance_idle world⟩
  fails := fun world v hlisten hv hpositive hlarge =>
    start_of_endless hlisten ((tickPeriod_eq_none_iff hv hpositive).mpr hlarge)

end Settings

/-- A positive interval can leave the scheduler without a schedule: of a tenth of a nanosecond
nothing is left. -/
theorem idle_though_positive :
    ¬∀ (text : String) (settings : Settings), Settings.parse? text = some settings →
      ∃ period, settings.tickPeriod = some period ∧ 0 < period := by
  intro hpositive
  have hzero : (Settings.parse? "\x7b\"interval\":1e-10\x7d").map Settings.tickPeriod =
      some (some 0) := by decide +kernel
  obtain ⟨settings, hparse, hempty⟩ := Option.map_eq_some_iff.mp hzero
  obtain ⟨period, hperiod, hlong⟩ := hpositive _ settings hparse
  rw [hempty] at hperiod
  cases hperiod
  exact Nat.lt_irrefl 0 hlong

/-- The other end: so many seconds cannot be counted. -/
example : (Settings.parse? "\x7b\"interval\":1e300\x7d").map Settings.tickPeriod = some none := by
  decide +kernel

end MetricsDaemon
