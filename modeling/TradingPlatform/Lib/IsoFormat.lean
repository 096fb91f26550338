import TradingPlatform.Lib.Calendar

/-!
# The ISO texts of dates and times

Numbers of a fixed width one after the other, with separators that tell which parts are there: the text determines the point of
time and the offset of its zone.
-/

namespace TradingPlatform.Calendar

/-- A day of the calendar. -/
@[ext]
structure CivilDate where
  year : ℤ
  month : ℤ
  dayOfMonth : ℤ
  year_mem : 1 ≤ year ∧ year ≤ 9999
  month_mem : 1 ≤ month ∧ month ≤ 12
  dayOfMonth_mem : 1 ≤ dayOfMonth ∧ dayOfMonth ≤ daysInMonth year month

/-- A point of time on a clock, and the microseconds that clock is ahead of UTC where its zone is known. -/
@[ext]
structure OffsetTime where
  civil : CivilTime
  offset : Option ℤ
  offset_mem : ∀ o ∈ offset, -day < o ∧ o < day

/-! ## Numbers of a fixed width -/

/-- The last `width` digits of a number. -/
def fixed : ℕ → ℕ → List Char
  | 0, _ => []
  | width + 1, n => fixed width (n / 10) ++ [(n % 10).digitChar]

@[simp] theorem length_fixed (width n : ℕ) : (fixed width n).length = width := by
  induction width generalizing n with
  | zero => rfl
  | succ width ih => simp [fixed, ih]

theorem digitChar_injective {n m : ℕ} (hn : n < 10) (hm : m < 10) (h : n.digitChar = m.digitChar) : n = m := by
  have hcode := congrArg Char.toNat h
  rw [Nat.toNat_digitChar_of_lt_ten hn, Nat.toNat_digitChar_of_lt_ten hm] at hcode
  omega

theorem fixed_injective {width n m : ℕ} (hn : n < 10 ^ width) (hm : m < 10 ^ width) (h : fixed width n = fixed width m) :
    n = m := by
  induction width generalizing n m with
  | zero => omega
  | succ width ih =>
    rw [fixed, fixed] at h
    obtain ⟨hinit, hlast⟩ := List.append_inj h (by simp)
    have hdiv := ih (by omega) (by omega) hinit
    have hmod := digitChar_injective (Nat.mod_lt n (by decide)) (Nat.mod_lt m (by decide)) (List.singleton_inj.mp hlast)
    omega

theorem fixed_append_inj {width n m : ℕ} {rest rest' : List Char} (hn : n < 10 ^ width) (hm : m < 10 ^ width)
    (h : fixed width n ++ rest = fixed width m ++ rest') : n = m ∧ rest = rest' := by
  obtain ⟨hfixed, hrest⟩ := List.append_inj h (by simp)
  exact ⟨fixed_injective hn hm hfixed, hrest⟩

/-! ## Texts -/

/-- `YYYY-MM-DD`. -/
def isoDate (year month dayOfMonth : ℤ) : List Char :=
  fixed 4 year.toNat ++ '-' :: (fixed 2 month.toNat ++ '-' :: fixed 2 dayOfMonth.toNat)

/-- `HH:MM` of some microseconds. -/
def isoMinutes (t : ℕ) : List Char := fixed 2 (t / 3600000000) ++ ':' :: fixed 2 (t / 60000000 % 60)

/-- The seconds. -/
def isoSeconds (t : ℕ) : List Char := ':' :: fixed 2 (t / 1000000 % 60)

/-- The microseconds, left out where there are none. -/
def isoFraction (t : ℕ) : List Char := if t % 1000000 = 0 then [] else '.' :: fixed 6 (t % 1000000)

/-- The offset of a zone; its seconds are left out where there are none. -/
def isoOffset : Option ℤ → List Char
  | none => []
  | some o => (if o < 0 then '-' else '+') ::
    (isoMinutes o.natAbs ++ if o.natAbs % 60000000 = 0 then [] else isoSeconds o.natAbs ++ isoFraction o.natAbs)

/-- `date.isoformat`. -/
def CivilDate.isoformat (d : CivilDate) : String := String.ofList (isoDate d.year d.month d.dayOfMonth)

/-- `datetime.isoformat`. -/
def OffsetTime.isoformat (t : OffsetTime) : String :=
  let time := t.civil.timeOfDay.toNat
  String.ofList (isoDate t.civil.year t.civil.month t.civil.dayOfMonth ++
    'T' :: (isoMinutes time ++ (isoSeconds time ++ (isoFraction time ++ isoOffset t.offset))))

/-! ## The texts determine the values -/

theorem isoDate_append_inj {y m d y' m' d' : ℤ} {rest rest' : List Char} (hy : 1 ≤ y ∧ y ≤ 9999) (hm : 1 ≤ m ∧ m ≤ 12)
    (hd : 1 ≤ d ∧ d ≤ daysInMonth y m) (hy' : 1 ≤ y' ∧ y' ≤ 9999) (hm' : 1 ≤ m' ∧ m' ≤ 12)
    (hd' : 1 ≤ d' ∧ d' ≤ daysInMonth y' m') (h : isoDate y m d ++ rest = isoDate y' m' d' ++ rest') :
    (y = y' ∧ m = m' ∧ d = d') ∧ rest = rest' := by
  have hlast := daysInMonth_le y m
  have hlast' := daysInMonth_le y' m'
  simp only [isoDate, List.append_assoc, List.cons_append] at h
  obtain ⟨hyear, h⟩ := fixed_append_inj (by omega) (by omega) h
  obtain ⟨hmonth, h⟩ := fixed_append_inj (by omega) (by omega) (List.cons.inj h).2
  obtain ⟨hday, h⟩ := fixed_append_inj (by omega) (by omega) (List.cons.inj h).2
  exact ⟨⟨by omega, by omega, by omega⟩, h⟩

theorem isoMinutes_append_inj {t t' : ℕ} {rest rest' : List Char} (ht : t < 86400000000) (ht' : t' < 86400000000)
    (h : isoMinutes t ++ rest = isoMinutes t' ++ rest') : t / 60000000 = t' / 60000000 ∧ rest = rest' := by
  simp only [isoMinutes, List.append_assoc, List.cons_append] at h
  obtain ⟨hhours, h⟩ := fixed_append_inj (by omega) (by omega) h
  obtain ⟨hminutes, h⟩ := fixed_append_inj (by omega) (by omega) (List.cons.inj h).2
  exact ⟨by omega, h⟩

theorem isoSeconds_append_inj {t t' : ℕ} {rest rest' : List Char} (h : isoSeconds t ++ rest = isoSeconds t' ++ rest') :
    t / 1000000 % 60 = t' / 1000000 % 60 ∧ rest = rest' :=
  fixed_append_inj (by omega) (by omega) (List.cons.inj h).2

/-- What follows a fraction does not start as one does. -/
theorem isoFraction_append_inj {t t' : ℕ} {rest rest' : List Char} (hrest : rest.head? ≠ some '.')
    (hrest' : rest'.head? ≠ some '.') (h : isoFraction t ++ rest = isoFraction t' ++ rest') :
    t % 1000000 = t' % 1000000 ∧ rest = rest' := by
  unfold isoFraction at h
  split_ifs at h with hzero hzero' hzero'
  · exact ⟨hzero.trans hzero'.symm, h⟩
  · rw [List.nil_append] at h
    rw [h] at hrest
    simp at hrest
  · rw [List.nil_append] at h
    rw [← h] at hrest'
    simp at hrest'
  · exact fixed_append_inj (by omega) (by omega) (List.cons.inj h).2

theorem head_isoOffset (o : Option ℤ) : (isoOffset o).head? ≠ some '.' := by
  cases o with
  | none => simp [isoOffset]
  | some o =>
    by_cases h : o < 0
    · simp [isoOffset, h]
    · simp [isoOffset, h]

/-- The seconds and the fraction of an offset, or that it has neither. -/
theorem offsetSeconds_inj {t t' : ℕ}
    (h : (if t % 60000000 = 0 then [] else isoSeconds t ++ isoFraction t) =
      if t' % 60000000 = 0 then [] else isoSeconds t' ++ isoFraction t') : t % 60000000 = t' % 60000000 := by
  split_ifs at h with hzero hzero' hzero'
  · omega
  · simp [isoSeconds] at h
  · simp [isoSeconds] at h
  · obtain ⟨hseconds, h⟩ := isoSeconds_append_inj h
    rw [← List.append_nil (isoFraction t), ← List.append_nil (isoFraction t')] at h
    obtain ⟨hmicros, -⟩ := isoFraction_append_inj (by simp) (by simp) h
    omega

theorem isoOffset_injective {o o' : Option ℤ} (ho : ∀ x ∈ o, -day < x ∧ x < day) (ho' : ∀ x ∈ o', -day < x ∧ x < day)
    (h : isoOffset o = isoOffset o') : o = o' := by
  unfold day at ho ho'
  cases o with
  | none =>
    cases o' with
    | none => rfl
    | some o' => simp [isoOffset] at h
  | some o =>
    cases o' with
    | none => simp [isoOffset] at h
    | some o' =>
      have hbound := ho o rfl
      have hbound' := ho' o' rfl
      rw [isoOffset, isoOffset, List.cons.injEq] at h
      obtain ⟨hsign, h⟩ := h
      obtain ⟨hminutes, h⟩ := isoMinutes_append_inj (by omega) (by omega) h
      have hrest := offsetSeconds_inj h
      have habs : o.natAbs = o'.natAbs := by omega
      have hneg : o < 0 ↔ o' < 0 := by
        by_cases hneg : o < 0 <;> by_cases hneg' : o' < 0 <;> simp [hneg, hneg'] at hsign ⊢
      exact congrArg some (by omega)

theorem CivilDate.isoformat_injective : Function.Injective CivilDate.isoformat := by
  intro d d' h
  have htext : isoDate d.year d.month d.dayOfMonth ++ [] = isoDate d'.year d'.month d'.dayOfMonth ++ [] := by
    rw [List.append_nil, List.append_nil]
    exact String.ofList_injective h
  obtain ⟨⟨hyear, hmonth, hday⟩, -⟩ := isoDate_append_inj d.year_mem d.month_mem d.dayOfMonth_mem d'.year_mem d'.month_mem
    d'.dayOfMonth_mem htext
  exact CivilDate.ext hyear hmonth hday

theorem OffsetTime.isoformat_injective : Function.Injective OffsetTime.isoformat := by
  intro t t' h
  have htext := String.ofList_injective h
  obtain ⟨⟨hyear, hmonth, hday⟩, htext⟩ := isoDate_append_inj t.civil.year_mem t.civil.month_mem t.civil.dayOfMonth_mem
    t'.civil.year_mem t'.civil.month_mem t'.civil.dayOfMonth_mem htext
  have htime := t.civil.timeOfDay_mem
  have htime' := t'.civil.timeOfDay_mem
  unfold Calendar.day at htime htime'
  obtain ⟨hminutes, htext⟩ := isoMinutes_append_inj (by omega) (by omega) (List.cons.inj htext).2
  obtain ⟨hseconds, htext⟩ := isoSeconds_append_inj htext
  obtain ⟨hmicros, htext⟩ := isoFraction_append_inj (head_isoOffset _) (head_isoOffset _) htext
  exact OffsetTime.ext (CivilTime.ext hyear hmonth hday (by omega)) (isoOffset_injective t.offset_mem t'.offset_mem htext)

end TradingPlatform.Calendar
