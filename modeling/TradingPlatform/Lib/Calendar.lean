import Mathlib.Tactic.Linarith

/-!
# The Gregorian calendar

Months are numbered on from the year zero, twelve a year. A month begins as the one before it ends, so that the instants of a
calendar are in the order of their month, then of their day, then of their time of day.
-/

namespace TradingPlatform.Calendar

/-! ## Months -/

def IsLeap (year : ℤ) : Prop := year % 4 = 0 ∧ (year % 100 ≠ 0 ∨ year % 400 = 0)

instance (year : ℤ) : Decidable (IsLeap year) := inferInstanceAs (Decidable (_ ∧ (_ ∨ _)))

/-- The length of a month of a year. -/
def daysInMonth (year month : ℤ) : ℤ :=
  if month = 2 then if IsLeap year then 29 else 28
  else if month = 4 ∨ month = 6 ∨ month = 9 ∨ month = 11 then 30
  else 31

/-- The days before a year, from the first of January of the year one. -/
def daysBeforeYear (year : ℤ) : ℤ := (year - 1) * 365 + (year - 1) / 4 - (year - 1) / 100 + (year - 1) / 400

/-- The days of a common year before a month. -/
def daysBeforeCommonMonth (month : ℤ) : ℤ :=
  if month = 1 then 0
  else if month = 2 then 31
  else if month = 3 then 59
  else if month = 4 then 90
  else if month = 5 then 120
  else if month = 6 then 151
  else if month = 7 then 181
  else if month = 8 then 212
  else if month = 9 then 243
  else if month = 10 then 273
  else if month = 11 then 304
  else 334

/-- The days of a year before a month. -/
def daysBeforeMonth (year month : ℤ) : ℤ := daysBeforeCommonMonth month + if 2 < month ∧ IsLeap year then 1 else 0

/-- The length of a month by its number. -/
def monthLength (index : ℤ) : ℤ := daysInMonth (index / 12) (index % 12 + 1)

/-- The days before a month by its number. -/
def monthStart (index : ℤ) : ℤ := daysBeforeYear (index / 12) + daysBeforeMonth (index / 12) (index % 12 + 1)

theorem daysInMonth_ge (year month : ℤ) : 28 ≤ daysInMonth year month := by
  unfold daysInMonth
  split_ifs <;> omega

theorem daysInMonth_le (year month : ℤ) : daysInMonth year month ≤ 31 := by
  unfold daysInMonth
  split_ifs <;> omega

theorem monthLength_ge (index : ℤ) : 28 ≤ monthLength index := daysInMonth_ge _ _

theorem daysBeforeYear_succ (year : ℤ) : daysBeforeYear (year + 1) = daysBeforeYear year + 365 + if IsLeap year then 1 else 0 := by
  unfold daysBeforeYear IsLeap
  split_ifs <;> omega

/-- Within a year a month begins as the one before it ends. -/
theorem daysBeforeMonth_succ (year : ℤ) {month : ℤ} (h : 1 ≤ month) (h' : month ≤ 11) :
    daysBeforeMonth year (month + 1) = daysBeforeMonth year month + daysInMonth year month := by
  obtain rfl | rfl | rfl | rfl | rfl | rfl | rfl | rfl | rfl | rfl | rfl : month = 1 ∨ month = 2 ∨ month = 3 ∨ month = 4 ∨
    month = 5 ∨ month = 6 ∨ month = 7 ∨ month = 8 ∨ month = 9 ∨ month = 10 ∨ month = 11 := by omega
  all_goals
    by_cases hleap : IsLeap year <;> simp [daysBeforeMonth, daysBeforeCommonMonth, daysInMonth, hleap]

theorem daysBeforeMonth_december (year : ℤ) :
    daysBeforeMonth year 12 + daysInMonth year 12 = 365 + if IsLeap year then 1 else 0 := by
  by_cases hleap : IsLeap year <;> simp [daysBeforeMonth, daysBeforeCommonMonth, daysInMonth, hleap]

theorem monthStart_succ (index : ℤ) : monthStart (index + 1) = monthStart index + monthLength index := by
  unfold monthStart monthLength
  by_cases hdecember : index % 12 = 11
  · have hyear : (index + 1) / 12 = index / 12 + 1 := by omega
    have hmonth : (index + 1) % 12 = 0 := by omega
    have hlast := daysBeforeMonth_december (index / 12)
    have hfirst : daysBeforeMonth (index / 12 + 1) (0 + 1) = 0 := by simp [daysBeforeMonth, daysBeforeCommonMonth]
    have hnext := daysBeforeYear_succ (index / 12)
    rw [hyear, hmonth, hdecember, hfirst, hnext]
    norm_num at hlast ⊢
    omega
  · have hyear : (index + 1) / 12 = index / 12 := by omega
    have hmonth : (index + 1) % 12 = index % 12 + 1 := by omega
    have hnext := daysBeforeMonth_succ (index / 12) (by omega : 1 ≤ index % 12 + 1) (by omega)
    rw [hyear, hmonth, hnext]
    omega

/-- A month has ended when a later one begins. -/
theorem monthStart_add_length_le {index index' : ℤ} (h : index < index') : monthStart index + monthLength index ≤ monthStart index' := by
  induction index', h using Int.leInduction with
  | base => exact (monthStart_succ index).ge
  | succ later hlater ih =>
    have hlength := monthLength_ge later
    rw [monthStart_succ]
    omega

theorem monthStart_nonneg {index : ℤ} (h : 12 ≤ index) : 0 ≤ monthStart index := by
  have hfirst : monthStart 12 = 0 := by decide
  rcases h.eq_or_lt with rfl | hlt
  · exact hfirst.ge
  · have hlength := monthLength_ge 12
    have hlater := monthStart_add_length_le hlt
    omega

/-- The calendar ends with the year 9999. -/
theorem monthStart_add_length_le_end {index : ℤ} (h : index < 120000) : monthStart index + monthLength index ≤ 3652059 := by
  have hend : monthStart 120000 = 3652059 := by decide
  rw [← hend]
  exact monthStart_add_length_le h

/-! ## Points of time -/

/-- The microseconds of a day. -/
def day : ℤ := 86400000000

/-- A day of the calendar and a time of day, in microseconds. -/
@[ext]
structure CivilTime where
  year : ℤ
  month : ℤ
  dayOfMonth : ℤ
  timeOfDay : ℤ
  year_mem : 1 ≤ year ∧ year ≤ 9999
  month_mem : 1 ≤ month ∧ month ≤ 12
  dayOfMonth_mem : 1 ≤ dayOfMonth ∧ dayOfMonth ≤ daysInMonth year month
  timeOfDay_mem : 0 ≤ timeOfDay ∧ timeOfDay < day

namespace CivilTime

variable {t t' : CivilTime}

/-- The number of the month. -/
def monthIndex (t : CivilTime) : ℤ := t.year * 12 + t.month - 1

/-- The microseconds of the epoch, which begins 719163 days into the calendar. -/
def instant (t : CivilTime) : ℤ := (monthStart t.monthIndex + t.dayOfMonth - 719163) * day + t.timeOfDay

theorem monthIndex_div (t : CivilTime) : t.monthIndex / 12 = t.year := by
  have hmonth := t.month_mem
  unfold monthIndex
  omega

theorem monthIndex_mod (t : CivilTime) : t.monthIndex % 12 + 1 = t.month := by
  have hmonth := t.month_mem
  unfold monthIndex
  omega

theorem dayOfMonth_le (t : CivilTime) : t.dayOfMonth ≤ monthLength t.monthIndex := by
  unfold monthLength
  rw [monthIndex_div, monthIndex_mod]
  exact t.dayOfMonth_mem.2

/-- A point of time is its month, its day and its time of day. -/
theorem eq_of_monthIndex (hmonth : t.monthIndex = t'.monthIndex) (hday : t.dayOfMonth = t'.dayOfMonth)
    (htime : t.timeOfDay = t'.timeOfDay) : t = t' := by
  refine CivilTime.ext ?_ ?_ hday htime
  · rw [← monthIndex_div t, ← monthIndex_div t', hmonth]
  · rw [← monthIndex_mod t, ← monthIndex_mod t', hmonth]

/-- A later month is later. -/
theorem instant_lt_of_monthIndex_lt (h : t.monthIndex < t'.monthIndex) : t.instant < t'.instant := by
  have hmonths := monthStart_add_length_le h
  have hday := t.dayOfMonth_le
  have hday' := t'.dayOfMonth_mem.1
  have htime := t.timeOfDay_mem
  have htime' := t'.timeOfDay_mem
  unfold instant
  unfold day at htime htime' ⊢
  omega

theorem instant_le_iff (hmonth : t.monthIndex = t'.monthIndex) (htime : t.timeOfDay = t'.timeOfDay) :
    t.instant ≤ t'.instant ↔ t.dayOfMonth ≤ t'.dayOfMonth := by
  unfold instant day
  rw [hmonth, htime]
  omega

theorem instant_injective : Function.Injective instant := by
  intro t t' heq
  have hmonth : t.monthIndex = t'.monthIndex := by
    rcases lt_trichotomy t.monthIndex t'.monthIndex with hlt | hsame | hgt
    · exact absurd heq (instant_lt_of_monthIndex_lt hlt).ne
    · exact hsame
    · exact absurd heq (instant_lt_of_monthIndex_lt hgt).ne'
  have htime := t.timeOfDay_mem
  have htime' := t'.timeOfDay_mem
  unfold instant at heq
  rw [hmonth] at heq
  unfold day at htime htime' heq
  exact eq_of_monthIndex hmonth (by omega) (by omega)

end CivilTime

/-! ## Months later -/

/-- The point of time some months later, on the last day of the month where the month is too short; there is none after the year
9999 or before the year one. -/
def addMonths? (t : CivilTime) (months : ℤ) : Option CivilTime :=
  let monthIndex := t.year * 12 + t.month - 1 + months
  let year := monthIndex / 12
  let month := monthIndex % 12 + 1
  if h : 1 ≤ year ∧ year ≤ 9999 then
    some
      { year, month, dayOfMonth := min t.dayOfMonth (daysInMonth year month), timeOfDay := t.timeOfDay
        year_mem := h
        month_mem := by omega
        dayOfMonth_mem := by
          have hlength := daysInMonth_ge year month
          have hday := t.dayOfMonth_mem
          omega
        timeOfDay_mem := t.timeOfDay_mem }
  else none

/-- What is known of a point of time some months later. -/
theorem addMonths?_eq_some {t t' : CivilTime} {months : ℤ} (h : addMonths? t months = some t') :
    t'.monthIndex = t.monthIndex + months ∧ t'.dayOfMonth = min t.dayOfMonth (monthLength t'.monthIndex) ∧
      t'.timeOfDay = t.timeOfDay := by
  unfold addMonths? at h
  dsimp only at h
  split at h
  · cases h
    have hindex : ∀ index : ℤ, index / 12 * 12 + (index % 12 + 1) - 1 = index := by
      intro index
      omega
    refine ⟨hindex _, ?_, rfl⟩
    unfold monthLength CivilTime.monthIndex
    dsimp only
    rw [hindex]
  · nomatch h

theorem addMonths?_isSome {t : CivilTime} {months : ℤ} (h : 12 ≤ t.monthIndex + months) (h' : t.monthIndex + months < 120000) :
    ∃ t', addMonths? t months = some t' := by
  unfold CivilTime.monthIndex at h h'
  unfold addMonths?
  dsimp only
  rw [dif_pos (by omega)]
  exact ⟨_, rfl⟩

theorem monthIndex_mem (t : CivilTime) : 12 ≤ t.monthIndex ∧ t.monthIndex < 120000 := by
  have hyear := t.year_mem
  have hmonth := t.month_mem
  unfold CivilTime.monthIndex
  omega

end TradingPlatform.Calendar
