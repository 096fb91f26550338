import Mathlib.Data.Rat.Floor

/-!
# Instants and durations

A `datetime` is a number of microseconds of the epoch in UTC and a `timedelta` a number of microseconds. A product or a quotient
of a duration is rounded to the nearest microsecond.
-/

namespace TradingPlatform

/-- `now.date()`: the day of an instant. -/
def utcDate (now : ℤ) : ℤ := now / 86400000000

/-- `total_seconds()`. -/
def totalSeconds (microseconds : ℤ) : ℚ := microseconds / 1000000

/-- The nearest whole number, a tie to the even one. -/
def roundHalfEven (x : ℚ) : ℤ :=
  let below := ⌊x⌋
  if x - below < 1 / 2 ∨ x - below = 1 / 2 ∧ below % 2 = 0 then below else below + 1

/-- `timedelta * float`. -/
def timedeltaMul (d : ℤ) (factor : ℚ) : ℤ := roundHalfEven (d * factor)

/-- `timedelta / int`. -/
def timedeltaDiv (d n : ℤ) : ℤ := roundHalfEven (d / n)

theorem utcDate_mono {t t' : ℤ} (h : t ≤ t') : utcDate t ≤ utcDate t' := by
  unfold utcDate
  omega

theorem totalSeconds_mono {d d' : ℤ} (h : d ≤ d') : totalSeconds d ≤ totalSeconds d' := by
  have hcast : (d : ℚ) ≤ d' := by exact_mod_cast h
  unfold totalSeconds
  linarith

theorem roundHalfEven_nonneg {x : ℚ} (h : 0 ≤ x) : 0 ≤ roundHalfEven x := by
  have hfloor : 0 ≤ ⌊x⌋ := Int.floor_nonneg.mpr h
  unfold roundHalfEven
  dsimp only
  split <;> omega

theorem timedeltaDiv_nonneg {d n : ℤ} (hd : 0 ≤ d) (hn : 0 ≤ n) : 0 ≤ timedeltaDiv d n :=
  roundHalfEven_nonneg (div_nonneg (by exact_mod_cast hd) (by exact_mod_cast hn))

end TradingPlatform
