import TradingPlatform.Engine.ReplayWindows
import TradingPlatform.Lib.Loops

/-!
# Walk-forward windows

The shape of the windows, and the one pass that replays them.
-/

namespace TradingPlatform

/-!
## The walk-forward windows

Each window begins some months after the first one does and ends three months after it begins. Where the months have no such day, the
one is counted from the other and the windows come apart; where the range is too short, the last window is cut.
-/

open Calendar

/-! ## The statement -/

/-- The second instant is three calendar months after the first. -/
def ThreeMonths (start stop : ℤ) : Prop :=
  ∃ s e : CivilTime, s.instant = start ∧ addMonths? s 3 = some e ∧ e.instant = stop

/-- The windows of a development range. -/
structure SoundWindows (developmentStart developmentEnd purge : ℤ) (windows : List ProposalWalkForwardWindow) : Prop where
  eight : windows.length = 8
  threeMonths : ∀ w ∈ windows, ThreeMonths w.oosStart w.oosEnd
  consecutive : ∀ i (h : i + 1 < windows.length), windows[i].oosEnd = windows[i + 1].oosStart
  disjoint : windows.Pairwise fun w w' => w.oosEnd ≤ w'.oosStart
  inside : ∀ w ∈ windows, developmentStart ≤ w.oosStart ∧ w.oosEnd ≤ developmentEnd
  trained : ∀ w ∈ windows, w.trainStart < w.trainEnd
  purged : ∀ w ∈ windows, w.trainEnd + purge ≤ w.oosStart
  apart : ∀ w ∈ windows, ∀ t, w.trainStart ≤ t → t < w.trainEnd → t < w.oosStart ∨ w.oosEnd ≤ t

/-- The length of the purge. -/
def WalkForwardArguments.purge (args : WalkForwardArguments) : ℤ := args.barInterval * (args.maxLookbackBars + args.maxHoldingBars)

/-- The range is complete: the months of the windows have the day on which the first of them begins, as far as the month three months
on has it; three months after the last window begins, the range has not ended; and the purge is not negative. -/
structure CompleteRange (args : WalkForwardArguments) (developmentStart developmentEnd : CivilTime) : Prop where
  days : ∀ first, addMonths? developmentStart 12 = some first → ∀ i : ℕ, i < 7 →
    min first.dayOfMonth (monthLength (first.monthIndex + (i + 1) * 3)) ≤ monthLength (first.monthIndex + i * 3)
  months : ∀ first last complete, addMonths? developmentStart 12 = some first → addMonths? first 21 = some last →
    addMonths? last 3 = some complete → complete.instant ≤ developmentEnd.instant
  purge : 0 ≤ args.purge

namespace WalkForwardAux

variable {args : WalkForwardArguments} {start stop first : CivilTime} {purge : ℤ} {i : ℕ} {w : ProposalWalkForwardWindow}

theorem addMonths_eq_ok {t t' : CivilTime} {months : ℤ} : addMonths t months = .ok t' ↔ addMonths? t months = some t' := by
  unfold addMonths
  cases addMonths? t months with
  | none => simp
  | some later => simp

theorem checkedInstant_eq_ok {t t' : ℤ} : checkedInstant t = .ok t' ↔ (-719162 * day ≤ t ∧ t < 2932897 * day) ∧ t' = t := by
  unfold checkedInstant
  split_ifs with h
  · exact ⟨fun heq => ⟨h, (Except.ok.inj heq).symm⟩, fun heq => heq.2 ▸ rfl⟩
  · exact ⟨fun heq => (nomatch heq), fun heq => absurd heq.1 h⟩

/-- A loop over the first numbers collects one result for each of them. -/
theorem mapM_range_eq_ok {ε α : Type} {f : ℕ → Except ε α} {n : ℕ} {l : List α} (h : (List.range n).mapM f = .ok l) :
    l.length = n ∧ ∀ i (hi : i < l.length), f i = .ok l[i] := by
  have hall := Loops.mapM_eq_ok.mp h
  have hlength := hall.length_eq
  rw [List.length_range] at hlength
  refine ⟨hlength.symm, fun i hi => ?_⟩
  have hone := hall.get (i := i) (by rw [List.length_range]; omega) hi
  simpa using hone

/-- What a window is, and when there is one. -/
structure IsWindow (args : WalkForwardArguments) (start stop first : CivilTime) (purge : ℤ) (i : ℕ) (w : ProposalWalkForwardWindow)
    (oosStart complete trainStart : CivilTime) : Prop where
  begins : addMonths? first (i * args.oosMonths) = some oosStart
  completes : addMonths? oosStart args.oosMonths = some complete
  trains : addMonths? oosStart (-args.trainMonths) = some trainStart
  open_ : oosStart.instant < min complete.instant stop.instant
  within : start.instant ≤ trainStart.instant
  long : trainStart.instant < oosStart.instant - purge
  oosStart_eq : w.oosStart = oosStart.instant
  oosEnd_eq : w.oosEnd = min complete.instant stop.instant
  trainStart_eq : w.trainStart = trainStart.instant
  trainEnd_eq : w.trainEnd = oosStart.instant - purge

theorem isWindow_of_ok (h : walkForwardWindow args start stop first purge i = .ok w) :
    ∃ oosStart complete trainStart, IsWindow args start stop first purge i w oosStart complete trainStart := by
  unfold walkForwardWindow at h
  obtain ⟨oosStart, hbegins, h⟩ := Loops.bind_eq_ok.mp h
  obtain ⟨complete, hcompletes, h⟩ := Loops.bind_eq_ok.mp h
  dsimp only at h
  obtain ⟨hopen, h⟩ := Loops.guard_eq_ok.mp h
  obtain ⟨trainStart, htrains, h⟩ := Loops.bind_eq_ok.mp h
  obtain ⟨purgeStart, hpurge, h⟩ := Loops.bind_eq_ok.mp h
  obtain ⟨hshort, h⟩ := Loops.guard_eq_ok.mp h
  obtain ⟨-, h⟩ := Loops.guard_eq_ok.mp h
  obtain ⟨embargoEnd, -, h⟩ := Loops.bind_eq_ok.mp h
  cases h
  obtain ⟨-, rfl⟩ := checkedInstant_eq_ok.mp hpurge
  rw [not_or, not_lt, not_le] at hshort
  exact ⟨oosStart, complete, trainStart,
    { begins := addMonths_eq_ok.mp hbegins, completes := addMonths_eq_ok.mp hcompletes, trains := addMonths_eq_ok.mp htrains,
      open_ := not_le.mp hopen, within := hshort.1, long := hshort.2, oosStart_eq := rfl, oosEnd_eq := rfl, trainStart_eq := rfl,
      trainEnd_eq := rfl }⟩

/-- Windows that are returned are eight, each of them built from the first one's beginning. -/
theorem windows_of_ok (hstart : args.developmentStart = .aware start) (hstop : args.developmentEnd = .aware stop)
    {windows : List ProposalWalkForwardWindow} (h : buildProposalWalkForwardWindows args = .ok windows) :
    args.trainMonths = 12 ∧ args.oosMonths = 3 ∧ windows.length = 8 ∧ ∃ first, addMonths? start 12 = some first ∧
      ∀ i (hi : i < windows.length), ∃ s c t, IsWindow args start stop first args.purge i windows[i] s c t := by
  unfold buildProposalWalkForwardWindows at h
  rw [hstart, hstop] at h
  obtain ⟨hphase, h⟩ := Loops.guard_eq_ok.mp h
  obtain ⟨-, h⟩ := Loops.guard_eq_ok.mp h
  obtain ⟨purge, hpurge, h⟩ := Loops.bind_eq_ok.mp h
  obtain ⟨first, hfirst, h⟩ := Loops.bind_eq_ok.mp h
  simp only [not_or, not_not] at hphase
  obtain ⟨hcount, htrain, hoos⟩ := hphase
  have hpurge' : purge = args.purge := by
    unfold checkedDuration at hpurge
    split at hpurge
    · exact (Except.ok.inj hpurge).symm
    · nomatch hpurge
  rw [hcount] at h
  obtain ⟨hlength, hwindows⟩ := mapM_range_eq_ok h
  rw [htrain, addMonths_eq_ok] at hfirst
  refine ⟨htrain, hoos, hlength, first, hfirst, fun i hi => ?_⟩
  rw [← hpurge']
  exact isWindow_of_ok (hwindows i hi)

/-! ## Months of a window -/

variable {s c t s' c' t' : CivilTime} {w' : ProposalWalkForwardWindow}

/-- The beginning of a window, by its month and day. -/
theorem IsWindow.begins_spec (h : IsWindow args start stop first purge i w s c t) (hoos : args.oosMonths = 3) :
    s.monthIndex = first.monthIndex + i * 3 ∧ s.dayOfMonth = min first.dayOfMonth (monthLength (first.monthIndex + i * 3)) ∧
      s.timeOfDay = first.timeOfDay := by
  have hbegins := h.begins
  rw [hoos] at hbegins
  obtain ⟨hmonth, hday, htime⟩ := addMonths?_eq_some hbegins
  rw [hmonth] at hday
  exact ⟨hmonth, hday, htime⟩

theorem IsWindow.completes_spec (h : IsWindow args start stop first purge i w s c t) (hoos : args.oosMonths = 3) :
    c.monthIndex = s.monthIndex + 3 ∧ c.dayOfMonth = min s.dayOfMonth (monthLength (s.monthIndex + 3)) ∧
      c.timeOfDay = s.timeOfDay := by
  have hcompletes := h.completes
  rw [hoos] at hcompletes
  obtain ⟨hmonth, hday, htime⟩ := addMonths?_eq_some hcompletes
  rw [hmonth] at hday
  exact ⟨hmonth, hday, htime⟩

/-- The end of a window and the beginning of the next one are in one month. -/
theorem IsWindow.next (h : IsWindow args start stop first purge i w s c t)
    (h' : IsWindow args start stop first purge (i + 1) w' s' c' t') (hoos : args.oosMonths = 3) :
    c.instant ≤ s'.instant ∧ (c.instant = s'.instant ↔
      min first.dayOfMonth (monthLength (first.monthIndex + (i + 1) * 3)) ≤ monthLength (first.monthIndex + i * 3)) := by
  obtain ⟨hmonth, hday, htime⟩ := h.begins_spec hoos
  obtain ⟨hmonthC, hdayC, htimeC⟩ := h.completes_spec hoos
  obtain ⟨hmonth', hday', htime'⟩ := h'.begins_spec hoos
  have hindex : c.monthIndex = s'.monthIndex := by
    rw [hmonthC, hmonth, hmonth', Nat.cast_add, Nat.cast_one]
    ring
  have hnext : s.monthIndex + 3 = first.monthIndex + (i + 1) * 3 := by
    rw [hmonth]
    ring
  have hclock : c.timeOfDay = s'.timeOfDay := by rw [htimeC, htime, htime']
  rw [hnext, hday] at hdayC
  rw [Nat.cast_add, Nat.cast_one] at hday'
  have hle : c.dayOfMonth ≤ s'.dayOfMonth := by
    rw [hdayC, hday']
    omega
  refine ⟨(CivilTime.instant_le_iff hindex hclock).mpr hle, ?_⟩
  have heq : c.instant = s'.instant ↔ s'.dayOfMonth ≤ c.dayOfMonth := by
    rw [← CivilTime.instant_le_iff hindex.symm hclock.symm]
    have hinstant := (CivilTime.instant_le_iff hindex hclock).mpr hle
    omega
  rw [heq, hdayC, hday']
  omega

/-- A window that is followed by another one is complete. -/
theorem IsWindow.oosEnd_of_next (h : IsWindow args start stop first purge i w s c t)
    (h' : IsWindow args start stop first purge (i + 1) w' s' c' t') (hoos : args.oosMonths = 3) : w.oosEnd = c.instant := by
  have hnext := (h.next h' hoos).1
  have hopen := h'.open_
  rw [h.oosEnd_eq]
  omega

/-- The beginnings of the windows are in order. -/
theorem IsWindow.oosStart_lt {j : ℕ} (h : IsWindow args start stop first purge i w s c t)
    (h' : IsWindow args start stop first purge j w' s' c' t') (hoos : args.oosMonths = 3) (hij : i < j) :
    c.instant ≤ s'.instant := by
  obtain ⟨hmonth, hday, htime⟩ := h.begins_spec hoos
  obtain ⟨hmonthC, hdayC, htimeC⟩ := h.completes_spec hoos
  obtain ⟨hmonth', hday', htime'⟩ := h'.begins_spec hoos
  rcases Nat.lt_or_ge (i + 1) j with hlater | hnext
  · refine (CivilTime.instant_lt_of_monthIndex_lt ?_).le
    rw [hmonthC, hmonth, hmonth']
    omega
  · obtain rfl : j = i + 1 := by omega
    exact (h.next h' hoos).1

/-- A window is three months long exactly if the range does not end before. -/
theorem IsWindow.threeMonths_iff (h : IsWindow args start stop first purge i w s c t) (hoos : args.oosMonths = 3) :
    ThreeMonths w.oosStart w.oosEnd ↔ c.instant ≤ stop.instant := by
  have hcompletes := h.completes
  rw [hoos] at hcompletes
  rw [h.oosStart_eq, h.oosEnd_eq]
  constructor
  · rintro ⟨s', e, hs', he, hend⟩
    obtain rfl := CivilTime.instant_injective hs'
    cases he.symm.trans hcompletes
    omega
  · intro hle
    exact ⟨s, c, rfl, hcompletes, (min_eq_left hle).symm⟩

/-- The windows of a complete range are sound, and only those. -/
theorem sound_iff (hoos : args.oosMonths = 3) (htrain : args.trainMonths = 12) (hfirst : addMonths? start 12 = some first)
    {windows : List ProposalWalkForwardWindow} (hlength : windows.length = 8)
    (hwindows : ∀ i (hi : i < windows.length), ∃ s c t, IsWindow args start stop first args.purge i windows[i] s c t) :
    SoundWindows start.instant stop.instant args.purge windows ↔ CompleteRange args start stop := by
  constructor
  · intro hsound
    refine ⟨fun first' hfirst' i hi => ?_, fun first' last complete hfirst' hlast hcomplete => ?_, ?_⟩
    · cases hfirst'.symm.trans hfirst
      obtain ⟨s, c, t, h⟩ := hwindows i (by omega)
      obtain ⟨s', c', t', h'⟩ := hwindows (i + 1) (by omega)
      have hconsecutive := hsound.consecutive i (by omega)
      rw [h.oosEnd_of_next h' hoos, h'.oosStart_eq] at hconsecutive
      exact (h.next h' hoos).2.mp hconsecutive
    · cases hfirst'.symm.trans hfirst
      obtain ⟨s, c, t, h⟩ := hwindows 7 (by omega)
      have hbegins := h.begins
      have hcompletes := h.completes
      rw [hoos] at hbegins hcompletes
      cases hlast.symm.trans hbegins
      cases hcomplete.symm.trans hcompletes
      exact (h.threeMonths_iff hoos).mp (hsound.threeMonths _ (List.getElem_mem _))
    · obtain ⟨s, c, t, h⟩ := hwindows 0 (by omega)
      have htrains := h.trains
      rw [htrain] at htrains
      have hearlier : t.instant < s.instant := by
        refine CivilTime.instant_lt_of_monthIndex_lt ?_
        rw [(addMonths?_eq_some htrains).1]
        omega
      -- a training range that is longer than up to its window holds the instant at which the window begins
      have hapart := hsound.apart _ (List.getElem_mem (by omega : 0 < windows.length)) s.instant
      rw [h.trainStart_eq, h.trainEnd_eq, h.oosStart_eq, h.oosEnd_eq] at hapart
      have hopen := h.open_
      by_contra hnegative
      rcases hapart hearlier.le (by omega) with hbefore | hafter
      · exact absurd hbefore (lt_irrefl _)
      · omega
  · intro hcomplete
    have hpurge := hcomplete.purge
    have heach : ∀ w ∈ windows, ∃ i s c t, i < 8 ∧ IsWindow args start stop first args.purge i w s c t := by
      intro w hw
      obtain ⟨i, hi, rfl⟩ := List.mem_iff_getElem.mp hw
      obtain ⟨s, c, t, h⟩ := hwindows i hi
      exact ⟨i, s, c, t, by omega, h⟩
    refine ⟨hlength, ?_, ?_, ?_, ?_, ?_, ?_, ?_⟩
    · intro w hw
      obtain ⟨i, s, c, t, hi, h⟩ := heach w hw
      rw [h.threeMonths_iff hoos]
      rcases Nat.lt_or_ge i 7 with hlt | hge
      · obtain ⟨s', c', t', h'⟩ := hwindows (i + 1) (by omega)
        have hnext := (h.next h' hoos).1
        have hopen := h'.open_
        omega
      · obtain rfl : i = 7 := by omega
        have hbegins := h.begins
        have hcompletes := h.completes
        rw [hoos] at hbegins hcompletes
        exact hcomplete.months first s c hfirst hbegins hcompletes
    · intro i hi
      obtain ⟨s, c, t, h⟩ := hwindows i (by omega)
      obtain ⟨s', c', t', h'⟩ := hwindows (i + 1) hi
      rw [h.oosEnd_of_next h' hoos, h'.oosStart_eq]
      exact (h.next h' hoos).2.mpr (hcomplete.days first hfirst i (by omega))
    · rw [List.pairwise_iff_getElem]
      intro i j hi hj hij
      obtain ⟨s, c, t, h⟩ := hwindows i hi
      obtain ⟨s', c', t', h'⟩ := hwindows j hj
      have hlt := h.oosStart_lt h' hoos hij
      rw [h.oosEnd_eq, h'.oosStart_eq]
      omega
    · intro w hw
      obtain ⟨i, s, c, t, hi, h⟩ := heach w hw
      have hwithin := h.within
      have hlong := h.long
      rw [h.oosStart_eq, h.oosEnd_eq]
      omega
    · intro w hw
      obtain ⟨i, s, c, t, hi, h⟩ := heach w hw
      rw [h.trainStart_eq, h.trainEnd_eq]
      exact h.long
    · intro w hw
      obtain ⟨i, s, c, t, hi, h⟩ := heach w hw
      rw [h.trainEnd_eq, h.oosStart_eq]
      omega
    · intro w hw instant _ htrained
      obtain ⟨i, s, c, t, hi, h⟩ := heach w hw
      rw [h.trainEnd_eq] at htrained
      rw [h.oosStart_eq]
      omega

/-! ## Ranges that are long enough -/

/-- A loop returns if each of its turns does. -/
theorem mapM_returns {ε α β : Type} {f : α → Except ε β} {l : List α} (h : ∀ x ∈ l, ∃ y, f x = .ok y) : ∃ l', l.mapM f = .ok l' := by
  induction l with
  | nil => exact ⟨[], rfl⟩
  | cons x l ih =>
    obtain ⟨y, hy⟩ := h x List.mem_cons_self
    obtain ⟨l', hl'⟩ := ih fun z hz => h z (List.mem_cons_of_mem x hz)
    exact ⟨y :: l', by rw [List.mapM_cons, hy, hl']; rfl⟩

/-- An early day of a month is in every month. -/
theorem addMonths?_early {t : CivilTime} (months : ℤ) (hearly : t.dayOfMonth ≤ 28) (h : 12 ≤ t.monthIndex + months)
    (h' : t.monthIndex + months < 120000) :
    ∃ t', addMonths? t months = some t' ∧ t'.monthIndex = t.monthIndex + months ∧ t'.dayOfMonth = t.dayOfMonth ∧
      t'.timeOfDay = t.timeOfDay := by
  obtain ⟨t', ht'⟩ := addMonths?_isSome h h'
  obtain ⟨hmonth, hday, htime⟩ := addMonths?_eq_some ht'
  have hlength := monthLength_ge t'.monthIndex
  exact ⟨t', ht', hmonth, by omega, htime⟩

/-- Of two points of time on one day of the month, the one of the later month is not earlier. -/
theorem instant_le_of_monthIndex_le {t t' : CivilTime} (hmonth : t.monthIndex ≤ t'.monthIndex) (hday : t.dayOfMonth = t'.dayOfMonth)
    (htime : t.timeOfDay = t'.timeOfDay) : t.instant ≤ t'.instant := by
  rcases hmonth.lt_or_eq with hlt | heq
  · exact (CivilTime.instant_lt_of_monthIndex_lt hlt).le
  · exact (CivilTime.instant_le_iff heq htime).mpr hday.le

/-- With the default arguments, each window of a range of three years from an early day of a month can be built. -/
theorem walkForwardWindow_returns {e : CivilTime} (hearly : start.dayOfMonth ≤ 28) (he : addMonths? start 36 = some e)
    (hstop : e.instant ≤ stop.instant) (hfirst : addMonths? start 12 = some first) {i : ℕ} (hi : i < 8) :
    ∃ w, walkForwardWindow { developmentStart := .aware start, developmentEnd := .aware stop } start stop first 72000000000 i = .ok w := by
  have hstart := monthIndex_mem start
  have hend := monthIndex_mem e
  obtain ⟨hmonthE, hdayE, htimeE⟩ := addMonths?_eq_some he
  obtain ⟨hmonthF, hdayF, htimeF⟩ := addMonths?_eq_some hfirst
  have hlengthE := monthLength_ge e.monthIndex
  have hlengthF := monthLength_ge first.monthIndex
  have hearlyF : first.dayOfMonth ≤ 28 := by omega
  obtain ⟨s, hs, hmonthS, hdayS, htimeS⟩ := addMonths?_early (i * 3) hearlyF (by omega) (by omega)
  obtain ⟨c, hc, hmonthC, hdayC, htimeC⟩ := addMonths?_early 3 (by omega : s.dayOfMonth ≤ 28) (by omega) (by omega)
  obtain ⟨t, ht, hmonthT, hdayT, htimeT⟩ := addMonths?_early (-12) (by omega : s.dayOfMonth ≤ 28) (by omega) (by omega)
  have hcomplete : c.instant ≤ stop.instant := by
    refine le_trans (instant_le_of_monthIndex_le ?_ ?_ ?_) hstop <;> omega
  have hwithin : start.instant ≤ t.instant := by
    refine instant_le_of_monthIndex_le ?_ ?_ ?_ <;> omega
  have hopen : s.instant < c.instant := CivilTime.instant_lt_of_monthIndex_lt (by omega)
  -- a month is longer than the purge, and the day after an early day is still in the calendar
  have hyear := monthStart_add_length_le (by omega : t.monthIndex < s.monthIndex)
  have hlengthT := monthLength_ge t.monthIndex
  have hlengthC := monthLength_ge c.monthIndex
  have hfirstDay := monthStart_nonneg (by omega : 12 ≤ t.monthIndex)
  have hlastDay := monthStart_add_length_le_end (by omega : c.monthIndex < 120000)
  have hdayMem := start.dayOfMonth_mem.1
  have htimeMem := start.timeOfDay_mem
  have hlong : t.instant < s.instant - 72000000000 := by
    unfold CivilTime.instant day
    omega
  have hlow : -719162 * day ≤ t.instant := by
    unfold CivilTime.instant day
    omega
  have hbeforeEnd : monthStart c.monthIndex + c.dayOfMonth < 3652059 := by
    rcases (by omega : c.monthIndex < 119999 ∨ c.monthIndex = 119999) with hearlier | hlast
    · have hlater := monthStart_add_length_le_end (by omega : c.monthIndex + 1 < 120000)
      have hnext := monthStart_succ c.monthIndex
      have hlengthNext := monthLength_ge (c.monthIndex + 1)
      omega
    · have hdecember : monthLength 119999 = 31 := by decide
      rw [hlast] at hlastDay ⊢
      omega
  have hhigh : c.instant < 2932896 * day := by
    unfold CivilTime.instant
    unfold day at htimeMem ⊢
    omega
  refine ⟨_, Loops.bind_eq_ok.mpr ⟨s, addMonths_eq_ok.mpr hs, Loops.bind_eq_ok.mpr ⟨c, addMonths_eq_ok.mpr hc,
    Loops.guard_eq_ok.mpr ⟨?_, Loops.bind_eq_ok.mpr ⟨t, addMonths_eq_ok.mpr ht,
      Loops.bind_eq_ok.mpr ⟨_, checkedInstant_eq_ok.mpr ⟨?_, rfl⟩, Loops.guard_eq_ok.mpr ⟨?_, Loops.guard_eq_ok.mpr ⟨?_,
        Loops.bind_eq_ok.mpr ⟨_, checkedInstant_eq_ok.mpr ⟨?_, rfl⟩, rfl⟩⟩⟩⟩⟩⟩⟩⟩⟩
  · omega
  · unfold day at hlow hhigh ⊢
    omega
  · omega
  · omega
  · rw [min_eq_left hcomplete]
    unfold day at hlow hhigh ⊢
    dsimp only
    omega

theorem build_returns {e : CivilTime} (hearly : start.dayOfMonth ≤ 28) (he : addMonths? start 36 = some e)
    (hstop : e.instant ≤ stop.instant) :
    ∃ windows, buildProposalWalkForwardWindows { developmentStart := .aware start, developmentEnd := .aware stop } = .ok windows := by
  have hend := monthIndex_mem e
  have hstart := monthIndex_mem start
  obtain ⟨hmonthE, -, -⟩ := addMonths?_eq_some he
  obtain ⟨first, hfirst, -⟩ := addMonths?_early 12 hearly (by omega) (by omega)
  obtain ⟨windows, hwindows⟩ := mapM_returns fun i hi =>
    walkForwardWindow_returns hearly he hstop hfirst (List.mem_range.mp hi : i < 8)
  refine ⟨windows, ?_⟩
  unfold buildProposalWalkForwardWindows
  dsimp only
  refine Loops.guard_eq_ok.mpr ⟨by decide, Loops.guard_eq_ok.mpr ⟨by decide, Loops.bind_eq_ok.mpr ⟨72000000000, ?_, ?_⟩⟩⟩
  · decide
  · exact Loops.bind_eq_ok.mpr ⟨first, addMonths_eq_ok.mpr hfirst, hwindows⟩

/-- A range of three years from an early day of a month is complete. -/
theorem completeRange_of_early {e : CivilTime} (hearly : start.dayOfMonth ≤ 28) (he : addMonths? start 36 = some e)
    (hstop : e.instant ≤ stop.instant) (hpurge : 0 ≤ args.purge) : CompleteRange args start stop := by
  obtain ⟨hmonthE, hdayE, htimeE⟩ := addMonths?_eq_some he
  have hlengthE := monthLength_ge e.monthIndex
  refine ⟨fun first hfirst i _ => ?_, fun first last complete hfirst hlast hcomplete => ?_, hpurge⟩
  · obtain ⟨-, hday, -⟩ := addMonths?_eq_some hfirst
    have hlength := monthLength_ge (first.monthIndex + i * 3)
    omega
  · obtain ⟨hmonthF, hdayF, htimeF⟩ := addMonths?_eq_some hfirst
    obtain ⟨hmonthL, hdayL, htimeL⟩ := addMonths?_eq_some hlast
    obtain ⟨hmonthC, hdayC, htimeC⟩ := addMonths?_eq_some hcomplete
    have hlengthF := monthLength_ge first.monthIndex
    have hlengthL := monthLength_ge last.monthIndex
    have hlengthC := monthLength_ge complete.monthIndex
    refine le_trans (instant_le_of_monthIndex_le ?_ ?_ ?_) hstop <;> omega

end WalkForwardAux

open WalkForwardAux

/-- Windows that are returned are sound exactly if the range is complete, and a range of three years from an early day of a month
has windows. -/
theorem walkForward_sound (args : WalkForwardArguments) (start stop : CivilTime) (hstart : args.developmentStart = .aware start)
    (hstop : args.developmentEnd = .aware stop) :
    (∀ windows, buildProposalWalkForwardWindows args = .ok windows →
      (SoundWindows start.instant stop.instant args.purge windows ↔ CompleteRange args start stop)) ∧
    (start.dayOfMonth ≤ 28 → (∃ e, addMonths? start 36 = some e ∧ e.instant ≤ stop.instant) →
      ∃ windows, buildProposalWalkForwardWindows { developmentStart := .aware start, developmentEnd := .aware stop } = .ok windows) := by
  constructor
  · intro windows hbuild
    obtain ⟨htrain, hoos, hlength, first, hfirst, hwindows⟩ := windows_of_ok hstart hstop hbuild
    exact sound_iff hoos htrain hfirst hlength hwindows
  · rintro hearly ⟨e, he, hle⟩
    exact build_returns hearly he hle

namespace WalkForwardAux

def newYear2022 : CivilTime :=
  { year := 2022, month := 1, dayOfMonth := 1, timeOfDay := 0, year_mem := by decide, month_mem := by decide,
    dayOfMonth_mem := by decide, timeOfDay_mem := by decide }

def newYear2025 : CivilTime :=
  { year := 2025, month := 1, dayOfMonth := 1, timeOfDay := 0, year_mem := by decide, month_mem := by decide,
    dayOfMonth_mem := by decide, timeOfDay_mem := by decide }

def october2024 : CivilTime :=
  { year := 2024, month := 10, dayOfMonth := 1, timeOfDay := 0, year_mem := by decide, month_mem := by decide,
    dayOfMonth_mem := by decide, timeOfDay_mem := by decide }

/-- The middle of the last of the 36 months. -/
def december2024 : CivilTime :=
  { year := 2024, month := 12, dayOfMonth := 15, timeOfDay := 0, year_mem := by decide, month_mem := by decide,
    dayOfMonth_mem := by decide, timeOfDay_mem := by decide }

def rangeUntil (stop : CivilTime) : WalkForwardArguments := { developmentStart := .aware newYear2022, developmentEnd := .aware stop }

def windowsUntil (stop : CivilTime) : List ProposalWalkForwardWindow :=
  (buildProposalWalkForwardWindows (rangeUntil stop)).toOption.getD []

end WalkForwardAux

theorem walkForward_sound_threeYears :
    SoundWindows newYear2022.instant newYear2025.instant (rangeUntil newYear2025).purge (windowsUntil newYear2025) := by
  have hend : addMonths? newYear2022 36 = some newYear2025 := by rfl
  refine ((walkForward_sound (rangeUntil newYear2025) newYear2022 newYear2025 rfl rfl).1 _ ?_).mpr
    (completeRange_of_early ?_ hend (le_refl _) ?_)
  · decide +kernel
  · decide
  · decide

/-- Of a range that ends in the last of the 36 months, the last window ends with the range. -/
theorem walkForward_sound_cut :
    buildProposalWalkForwardWindows (rangeUntil december2024) = .ok (windowsUntil december2024) ∧
      ¬SoundWindows newYear2022.instant december2024.instant (rangeUntil december2024).purge (windowsUntil december2024) := by
  refine ⟨by decide +kernel, fun hsound => ?_⟩
  have hlast : ∃ w ∈ windowsUntil december2024, w.oosStart = october2024.instant ∧ w.oosEnd = december2024.instant := by
    decide +kernel
  obtain ⟨w, hw, hbegin, hend⟩ := hlast
  obtain ⟨s, e, hs, he, hstop⟩ := hsound.threeMonths w hw
  obtain rfl := CivilTime.instant_injective (hs.trans hbegin)
  have hthree : (addMonths? october2024 3).map CivilTime.instant = some newYear2025.instant := by decide +kernel
  have hcut : some december2024.instant = some newYear2025.instant := by
    rw [← hthree, he, ← hend, ← hstop]
    rfl
  exact absurd hcut (by decide +kernel)

/-!
## Replay by window

The one pass over the stream replays each window once, on the pairs that are decided in it. The replay may have any effect, so that
the equality is one of effects too: no window is replayed twice, and none is left out.
-/

variable {m : Type → Type} [Monad m] {Pair Metrics : Type}

/-! ## The statement -/

/-- The pair is decided in the window. -/
def ProposalWalkForwardWindow.decides (window : ProposalWalkForwardWindow) (decisionTime : Pair → ℤ) (pair : Pair) : Bool :=
  decide (window.oosStart ≤ decisionTime pair ∧ decisionTime pair < window.oosEnd)

/-- Each window is replayed on the pairs that are decided in it. -/
def replayByWindow (replay : List Pair → m Metrics) (decisionTime : Pair → ℤ) (windows : List ProposalWalkForwardWindow)
    (stream : List Pair) : m (List (ProposalWalkForwardWindow × Option Metrics)) :=
  windows.mapM fun window => do
    let metrics ← replay (stream.filter (window.decides decisionTime))
    return (window, some metrics)

/-- The windows are in order and do not overlap. -/
structure InOrder (windows : List ProposalWalkForwardWindow) : Prop where
  nonempty : ∀ w ∈ windows, w.oosStart < w.oosEnd
  disjoint : windows.Pairwise fun w w' => w.oosEnd ≤ w'.oosStart

namespace WindowRunsAux

variable {replay : List Pair → m Metrics} {decisionTime : Pair → ℤ} {window : ProposalWalkForwardWindow}
  {windows rest : List ProposalWalkForwardWindow} {pair : Pair} {pairs pending : List Pair}

theorem InOrder.tail (h : InOrder (window :: rest)) : InOrder rest :=
  ⟨fun w hw => h.nonempty w (List.mem_cons_of_mem window hw), (List.pairwise_cons.mp h.disjoint).2⟩

theorem decides_iff : window.decides decisionTime pair = true ↔ window.oosStart ≤ decisionTime pair ∧ decisionTime pair < window.oosEnd :=
  decide_eq_true_iff

/-! ## Buckets -/

/-- What the windows are left to be replayed on: the first one on the pending pairs as well. -/
def buckets (decisionTime : Pair → ℤ) (pending pairs : List Pair) : List ProposalWalkForwardWindow → List (List Pair)
  | [] => []
  | window :: rest =>
    (pending ++ pairs.filter (window.decides decisionTime)) :: rest.map fun w => pairs.filter (w.decides decisionTime)

theorem buckets_nil_pending (decisionTime : Pair → ℤ) (pairs : List Pair) (windows : List ProposalWalkForwardWindow) :
    buckets decisionTime [] pairs windows = windows.map fun w => pairs.filter (w.decides decisionTime) := by
  cases windows with
  | nil => rfl
  | cons window rest => rfl

/-- The pairs from an instant on are in no window that has ended by then. -/
theorem filter_ended (h : window.oosEnd ≤ decisionTime pair) (hsorted : (pair :: pairs).Pairwise fun a b => decisionTime a < decisionTime b) :
    (pair :: pairs).filter (window.decides decisionTime) = [] := by
  refine List.filter_eq_nil_iff.mpr fun later hlater hdecides => ?_
  have hbefore := (decides_iff.mp hdecides).2
  rcases List.mem_cons.mp hlater with rfl | hmem
  · omega
  · have hlt := (List.pairwise_cons.mp hsorted).1 later hmem
    omega

/-- A pair that is decided before the end of the first window is in no later window. -/
theorem not_decides_later (hopen : decisionTime pair < window.oosEnd) (horder : InOrder (window :: rest)) {w : ProposalWalkForwardWindow}
    (hw : w ∈ rest) : ¬w.decides decisionTime pair = true := by
  intro hdecides
  have hstart := (decides_iff.mp hdecides).1
  have hafter := (List.pairwise_cons.mp horder.disjoint).1 w hw
  omega

/-- A pair that is decided before the end of the first window is pending of it, or in no window. -/
theorem buckets_cons (hopen : decisionTime pair < window.oosEnd) (horder : InOrder (window :: rest)) :
    buckets decisionTime pending (pair :: pairs) (window :: rest) =
      buckets decisionTime (if window.oosStart ≤ decisionTime pair then pending ++ [pair] else pending) pairs (window :: rest) := by
  have hrest : (rest.map fun w => (pair :: pairs).filter (w.decides decisionTime)) =
      rest.map fun w => pairs.filter (w.decides decisionTime) := by
    refine List.map_congr_left fun w hw => ?_
    rw [List.filter_cons_of_neg (not_decides_later hopen horder hw)]
  unfold buckets
  dsimp only
  rw [hrest]
  by_cases hstart : window.oosStart ≤ decisionTime pair
  · rw [if_pos hstart, List.filter_cons_of_pos (decides_iff.mpr ⟨hstart, hopen⟩), List.append_assoc]
    rfl
  · rw [if_neg hstart, List.filter_cons_of_neg fun hdecides => hstart (decides_iff.mp hdecides).1]

/-! ## Metrics -/

/-- The buckets are replayed one by one, and their metrics are stored from a number on. -/
@[grind =] def storeAll (replay : List Pair → m Metrics) : ℕ → (ℕ → Option Metrics) → List (List Pair) → m (ℕ → Option Metrics)
  | _, metricsByWindow, [] => return metricsByWindow
  | cursor, metricsByWindow, bucket :: rest => do
    let metrics ← replay bucket
    storeAll replay (cursor + 1) (Function.update metricsByWindow cursor (some metrics)) rest

/-- Metrics from a number on. -/
@[grind =] def place : ℕ → (ℕ → Option Metrics) → List Metrics → ℕ → Option Metrics
  | _, metricsByWindow, [] => metricsByWindow
  | cursor, metricsByWindow, metrics :: rest => place (cursor + 1) (Function.update metricsByWindow cursor (some metrics)) rest

theorem place_of_lt {cursor j : ℕ} (h : j < cursor) (metricsByWindow : ℕ → Option Metrics) (l : List Metrics) :
    place cursor metricsByWindow l j = metricsByWindow j := by
  induction l generalizing cursor metricsByWindow with
  | nil => rfl
  | cons metrics rest ih =>
    rw [place, ih (by omega), Function.update_of_ne (by omega)]

theorem storeAll_eq [LawfulMonad m] (replay : List Pair → m Metrics) (cursor : ℕ) (metricsByWindow : ℕ → Option Metrics)
    (l : List (List Pair)) :
    storeAll replay cursor metricsByWindow l = do return place cursor metricsByWindow (← l.mapM replay) := by
  induction l generalizing cursor metricsByWindow with
  | nil => simp [storeAll, place]
  | cons bucket rest ih => simp [storeAll, place, ih]

/-! ## The pass -/

/-- The windows that have ended are replayed on what is pending, and on nothing of the stream that is left. -/
theorem flushEnded_eq [LawfulMonad m] (c : WindowCursor Pair Metrics) (horder : InOrder c.remaining)
    (hsorted : (pair :: pairs).Pairwise fun a b => decisionTime a < decisionTime b)
    (k : WindowCursor Pair Metrics → m (ℕ → Option Metrics))
    (hk : ∀ c : WindowCursor Pair Metrics, InOrder c.remaining →
      (∀ window rest, c.remaining = window :: rest → decisionTime pair < window.oosEnd) →
      k c = storeAll replay c.cursor c.metricsByWindow (buckets decisionTime c.pending (pair :: pairs) c.remaining)) :
    (flushEnded replay (decisionTime pair) c.remaining c >>= k) =
      storeAll replay c.cursor c.metricsByWindow (buckets decisionTime c.pending (pair :: pairs) c.remaining) := by
  generalize hwindows : c.remaining = windows at *
  induction windows generalizing c with
  | nil =>
    rw [flushEnded, pure_bind, ← hwindows]
    exact hk c (hwindows ▸ horder) (by simp [hwindows])
  | cons window rest ih =>
    unfold flushEnded
    split
    · rename_i hended
      rw [buckets, filter_ended hended hsorted, List.append_nil, storeAll, bind_assoc, flushWindow, bind_assoc]
      refine bind_congr fun metrics => ?_
      rw [pure_bind, ← buckets_nil_pending]
      exact ih _ rfl (InOrder.tail horder)
    · rename_i hopen
      rw [pure_bind, ← hwindows]
      refine hk c (hwindows ▸ horder) fun w rest' hw => ?_
      rw [hwindows] at hw
      obtain ⟨rfl, -⟩ := List.cons.inj hw
      exact not_le.mp hopen

theorem flushRemaining_eq [LawfulMonad m] (c : WindowCursor Pair Metrics) (windows : List ProposalWalkForwardWindow) :
    (flushRemaining replay windows c >>= fun c => pure c.metricsByWindow) =
      storeAll replay c.cursor c.metricsByWindow (buckets decisionTime c.pending [] windows) := by
  induction windows generalizing c with
  | nil => simp [flushRemaining, buckets, storeAll]
  | cons window rest ih =>
    rw [flushRemaining, bind_assoc, flushWindow, bind_assoc, buckets, List.filter_nil, List.append_nil, storeAll]
    refine bind_congr fun metrics => ?_
    rw [pure_bind, ih, buckets_nil_pending]

/-- The whole pass from a cursor: the buckets of the remaining windows are replayed one by one. -/
theorem pass_eq [LawfulMonad m] (c : WindowCursor Pair Metrics) (horder : InOrder c.remaining)
    (hsorted : pairs.Pairwise fun a b => decisionTime a < decisionTime b) :
    (do let c ← bucketStream replay decisionTime c pairs
        let c ← flushRemaining replay c.remaining c
        pure c.metricsByWindow) =
      storeAll replay c.cursor c.metricsByWindow (buckets decisionTime c.pending pairs c.remaining) := by
  induction pairs generalizing c with
  | nil =>
    rw [bucketStream, pure_bind]
    exact flushRemaining_eq c c.remaining
  | cons pair pairs ih =>
    rw [bucketStream, bind_assoc]
    refine flushEnded_eq c horder hsorted _ fun c' horder' hopen => ?_
    cases hremaining : c'.remaining with
    | nil => simp [hremaining, flushRemaining, buckets, storeAll]
    | cons window rest =>
      rw [buckets_cons (hopen window rest hremaining) (hremaining ▸ horder')]
      have hrest := (List.pairwise_cons.mp hsorted).2
      dsimp only
      by_cases hstart : window.oosStart ≤ decisionTime pair
      · rw [if_pos hstart, if_pos hstart, ← hremaining]
        exact ih { c' with pending := c'.pending ++ [pair] } horder' hrest
      · rw [if_neg hstart, if_neg hstart, ← hremaining]
        exact ih c' horder' hrest

/-- What is stored is read window by window. -/
theorem windowRuns_place [LawfulMonad m] (f : ProposalWalkForwardWindow → m Metrics) (windows : List ProposalWalkForwardWindow) (cursor : ℕ)
    (metricsByWindow : ℕ → Option Metrics) :
    (do let l ← windows.mapM f
        pure (windowRuns (place cursor metricsByWindow l) cursor windows)) =
      windows.mapM (fun window => do
        let metrics ← f window
        pure (window, some metrics)) := by
  induction windows generalizing cursor metricsByWindow with
  | nil => simp [windowRuns]
  | cons window rest ih =>
    have hread : ∀ (metrics : Metrics) (l : List Metrics),
        windowRuns (place cursor metricsByWindow (metrics :: l)) cursor (window :: rest) =
          (window, some metrics) ::
            windowRuns (place (cursor + 1) (Function.update metricsByWindow cursor (some metrics)) l) (cursor + 1) rest := by
      intro metrics l
      unfold windowRuns
      rw [List.zipIdx_cons, List.map_cons, place]
      dsimp only
      rw [place_of_lt (by omega), Function.update_self]
    simp only [List.mapM_cons, bind_assoc, pure_bind, hread]
    refine bind_congr fun metrics => ?_
    rw [← ih (cursor + 1) (Function.update metricsByWindow cursor (some metrics))]
    simp only [bind_assoc, pure_bind]

end WindowRunsAux

open WindowRunsAux

/-- The one pass replays each window once, on the pairs that are decided in it. -/
theorem buildWindowRuns_eq [LawfulMonad m] (replay : List Pair → m Metrics) (decisionTime : Pair → ℤ)
    {windows : List ProposalWalkForwardWindow} (horder : InOrder windows) {stream : List Pair}
    (hstream : stream.Pairwise fun a b => decisionTime a < decisionTime b) :
    buildWindowRuns replay decisionTime windows stream = replayByWindow replay decisionTime windows stream := by
  have hpass := @pass_eq m _ Pair Metrics replay decisionTime stream _
    { cursor := 0, remaining := windows, pending := [], metricsByWindow := fun _ => none } horder hstream
  have hread := congrArg (fun x => x >>= fun metricsByWindow => pure (windowRuns metricsByWindow 0 windows)) hpass
  simp only [bind_assoc, pure_bind] at hread
  unfold buildWindowRuns replayByWindow
  rw [hread, buckets_nil_pending, storeAll_eq, List.mapM_map, ← windowRuns_place _ windows 0 fun _ => none]
  simp only [bind_assoc, pure_bind, Function.comp_def]

namespace WindowRunsAux

def windowOf (oosStart oosEnd : ℤ) : ProposalWalkForwardWindow :=
  { windowId := "oos", trainStart := 0, trainEnd := 0, purgeStart := 0, purgeEnd := oosStart, oosStart, oosEnd, embargoStart := oosEnd,
    embargoEnd := oosEnd }

/-- A replay that leaves a record of what it was called with. -/
def recordedReplay (pairs : List ℤ) : StateM (List (List ℤ)) ℕ := do
  modify fun calls => calls ++ [pairs]
  return pairs.length

end WindowRunsAux

theorem buildWindowRuns_eq_recorded :
    buildWindowRuns recordedReplay id [windowOf 0 10, windowOf 10 20, windowOf 30 40] [3, 5, 12, 25, 35] =
      replayByWindow recordedReplay id [windowOf 0 10, windowOf 10 20, windowOf 30 40] [3, 5, 12, 25, 35] :=
  buildWindowRuns_eq recordedReplay id ⟨by decide, by decide⟩ (by decide)

/-- Each of the three windows is replayed once, on the pairs between its bounds. -/
example :
    ((buildWindowRuns recordedReplay id [windowOf 0 10, windowOf 10 20, windowOf 30 40] [3, 5, 12, 25]).run []).2 = [[3, 5], [12], []] :=
  rfl

end TradingPlatform
