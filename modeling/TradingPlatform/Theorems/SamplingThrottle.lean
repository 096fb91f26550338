import TradingPlatform.Engine.SamplingThrottle

/-!
# The limits of the sampling lane

What was recorded stays within the daily caps and the cooldown, and a symbol is refused exactly when one more entry of it would
not.
-/

namespace TradingPlatform

/-- An entry of a symbol on a day. -/
def SamplingEntry.isOf (symbol : String) (day : ℤ) (e : SamplingEntry) : Bool :=
  decide (e.symbol = symbol) && decide (utcDate e.enteredAt = day)

/-- An entry of a day. -/
def SamplingEntry.isOn (day : ℤ) (e : SamplingEntry) : Bool := decide (utcDate e.enteredAt = day)

/-- What was recorded is within the limits. -/
structure WithinLimits (limits : SamplingLimits) (entries : List SamplingEntry) : Prop where
  perSymbol : ∀ symbol day, entries.countP (SamplingEntry.isOf symbol day) ≤ limits.maxDailyTradesPerSymbol
  total : ∀ day, entries.countP (SamplingEntry.isOn day) ≤ limits.maxDailyTradesTotal
  cooldown : entries.Pairwise fun e e' =>
    e.symbol = e'.symbol → limits.cooldownSeconds ≤ totalSeconds (e'.enteredAt - e.enteredAt)

namespace SamplingAux

variable {limits : SamplingLimits} {s : SamplingState} {w : SamplingWorld} {entries : List SamplingEntry} {clock now : ℤ}
  {symbol : String}

/-! ### The reset -/

theorem symbolCount_maybeReset (s : SamplingState) (now : ℤ) (symbol : String) :
    (s.maybeReset now).symbolCount symbol =
      if s.lastResetDate.map utcDate = some (utcDate now) then s.symbolCount symbol else 0 := by
  unfold SamplingState.maybeReset
  split <;> rfl

theorem dailyTotalCount_maybeReset (s : SamplingState) (now : ℤ) :
    (s.maybeReset now).dailyTotalCount =
      if s.lastResetDate.map utcDate = some (utcDate now) then s.dailyTotalCount else 0 := by
  unfold SamplingState.maybeReset
  split <;> rfl

@[simp] theorem lastEntryAt_maybeReset (s : SamplingState) (now : ℤ) : (s.maybeReset now).lastEntryAt = s.lastEntryAt := by
  unfold SamplingState.maybeReset
  split <;> rfl

@[simp] theorem resetDate_maybeReset (s : SamplingState) (now : ℤ) :
    (s.maybeReset now).lastResetDate.map utcDate = some (utcDate now) := by
  unfold SamplingState.maybeReset
  split
  · assumption
  · rfl

/-- The check returns the state it reset. -/
theorem checkSamplingThrottle_state (symbol : String) (now : ℤ) (s : SamplingState) (limits : SamplingLimits) :
    (checkSamplingThrottle symbol now s limits).2 = s.maybeReset now := by
  unfold checkSamplingThrottle
  dsimp only
  repeat' split
  all_goals rfl

/-- What the check tests. -/
theorem checkSamplingThrottle_allowed_iff :
    (checkSamplingThrottle symbol now s limits).1.allowed = true ↔
      (s.maybeReset now).symbolCount symbol < limits.maxDailyTradesPerSymbol ∧
      (s.maybeReset now).dailyTotalCount < limits.maxDailyTradesTotal ∧
      ∀ lastAt, s.lastEntryAt symbol = some lastAt → limits.cooldownSeconds ≤ totalSeconds (now - lastAt) := by
  unfold checkSamplingThrottle
  dsimp only
  rw [lastEntryAt_maybeReset]
  split
  · rename_i h
    simp only [Bool.false_eq_true, false_iff, not_and]
    intro hlt
    omega
  split
  · rename_i h
    simp only [Bool.false_eq_true, false_iff, not_and]
    intro _ hlt
    omega
  rename_i hsymbol htotal
  have hcaps := And.intro (Nat.lt_of_not_le hsymbol) (Nat.lt_of_not_le htotal)
  cases hlast : s.lastEntryAt symbol with
  | none => simp [hcaps.1, hcaps.2]
  | some lastAt =>
    simp only [Option.some.injEq, forall_eq', hcaps.1, hcaps.2, true_and]
    split
    · rename_i h
      simp only [Bool.false_eq_true, false_iff, not_le]
      exact h
    · rename_i h
      simp only [true_iff]
      exact not_lt.mp h

/-! ### The state keeps what was recorded -/

/-- The counters, once reset, are the counts of the day, and the last entries are the last ones. -/
structure Tracks (s : SamplingState) (entries : List SamplingEntry) (clock : ℤ) : Prop where
  recorded_le : ∀ e ∈ entries, e.enteredAt ≤ clock
  reset_le : ∀ day, s.lastResetDate.map utcDate = some day → day ≤ utcDate clock
  symbolCount : ∀ now, clock ≤ now → ∀ symbol,
    (s.maybeReset now).symbolCount symbol = entries.countP (SamplingEntry.isOf symbol (utcDate now))
  totalCount : ∀ now, clock ≤ now → (s.maybeReset now).dailyTotalCount = entries.countP (SamplingEntry.isOn (utcDate now))
  last_mem : ∀ symbol lastAt, s.lastEntryAt symbol = some lastAt → ∃ e ∈ entries, e.symbol = symbol ∧ e.enteredAt = lastAt
  last_max : ∀ e ∈ entries, ∃ lastAt, s.lastEntryAt e.symbol = some lastAt ∧ e.enteredAt ≤ lastAt

theorem tracks_start (clock : ℤ) : Tracks {} [] clock where
  recorded_le := fun _ h => absurd h List.not_mem_nil
  reset_le := fun _ h => nomatch h
  symbolCount := fun _ _ _ => by rw [symbolCount_maybeReset]; rfl
  totalCount := fun _ _ => by rw [dailyTotalCount_maybeReset]; rfl
  last_mem := fun _ _ h => nomatch h
  last_max := fun _ h => absurd h List.not_mem_nil

/-- Resetting twice is resetting at the later instant. -/
theorem counts_maybeReset_maybeReset (hs : ∀ day, s.lastResetDate.map utcDate = some day → day ≤ utcDate clock)
    (hnow : clock ≤ now) {later : ℤ} (hlater : now ≤ later) :
    (∀ symbol, ((s.maybeReset now).maybeReset later).symbolCount symbol = (s.maybeReset later).symbolCount symbol) ∧
      ((s.maybeReset now).maybeReset later).dailyTotalCount = (s.maybeReset later).dailyTotalCount := by
  have h₁ := utcDate_mono hnow
  have h₂ := utcDate_mono hlater
  simp only [symbolCount_maybeReset, dailyTotalCount_maybeReset, resetDate_maybeReset, Option.some.injEq]
  by_cases hday : utcDate now = utcDate later
  · simp [hday]
  · -- a later day: the state was not reset on it yet
    have hstale : s.lastResetDate.map utcDate ≠ some (utcDate later) := by
      intro h
      have := hs _ h
      omega
    simp [hday, hstale]

theorem Tracks.reset (h : Tracks s entries clock) (hnow : clock ≤ now) : Tracks (s.maybeReset now) entries now where
  recorded_le := fun e he => (h.recorded_le e he).trans hnow
  reset_le := by
    intro day hday
    rw [resetDate_maybeReset, Option.some.injEq] at hday
    exact hday.ge
  symbolCount := by
    intro later hlater symbol
    rw [(counts_maybeReset_maybeReset h.reset_le hnow hlater).1, h.symbolCount later (hnow.trans hlater)]
  totalCount := by
    intro later hlater
    rw [(counts_maybeReset_maybeReset h.reset_le hnow hlater).2, h.totalCount later (hnow.trans hlater)]
  last_mem := by simpa using h.last_mem
  last_max := by simpa using h.last_max

/-- On a later day nothing is recorded yet. -/
theorem countP_later {p : SamplingEntry → Bool} {day : ℤ} (hp : ∀ e, p e = true → utcDate e.enteredAt = day)
    (hle : ∀ e ∈ entries, e.enteredAt ≤ clock) (hday : utcDate clock < day) : entries.countP p = 0 := by
  rw [List.countP_eq_zero]
  intro e he hpe
  have h₁ := utcDate_mono (hle e he)
  have h₂ := hp e hpe
  omega

theorem isOf_day {day : ℤ} (e : SamplingEntry) (h : e.isOf symbol day = true) : utcDate e.enteredAt = day := by
  simp only [SamplingEntry.isOf, Bool.and_eq_true, decide_eq_true_eq] at h
  exact h.2

theorem isOn_day {day : ℤ} (e : SamplingEntry) (h : e.isOn day = true) : utcDate e.enteredAt = day := by
  simpa [SamplingEntry.isOn] using h

theorem recordEntry_resetDate (s : SamplingState) (symbol : String) (now : ℤ) :
    (s.recordEntry symbol now).lastResetDate.map utcDate = some (utcDate now) :=
  resetDate_maybeReset s now

theorem recordEntry_symbolCount (s : SamplingState) (symbol symbol' : String) (now : ℤ) :
    (s.recordEntry symbol now).symbolCount symbol' =
      (s.maybeReset now).symbolCount symbol' + if symbol' = symbol then 1 else 0 := by
  unfold SamplingState.recordEntry SamplingState.symbolCount setItem
  dsimp only
  by_cases h : symbol' = symbol
  · simp [h]
  · simp [h]

theorem Tracks.record (h : Tracks s entries clock) (hnow : clock ≤ now) :
    Tracks (s.recordEntry symbol now) (entries ++ [⟨symbol, now⟩]) now where
  recorded_le := by
    intro e he
    rcases List.mem_append.mp he with he | he
    · exact (h.recorded_le e he).trans hnow
    · rw [List.mem_singleton.mp he]
  reset_le := by
    intro day hday
    rw [recordEntry_resetDate, Option.some.injEq] at hday
    exact hday.ge
  symbolCount := by
    intro later hlater symbol'
    rw [symbolCount_maybeReset, recordEntry_resetDate, List.countP_append, List.countP_singleton]
    by_cases hday : utcDate now = utcDate later
    · rw [if_pos (congrArg some hday), recordEntry_symbolCount, h.symbolCount now hnow, hday]
      simp [SamplingEntry.isOf, hday, eq_comm]
    · have hlt := (utcDate_mono hlater).lt_of_ne hday
      rw [if_neg (by simpa using hday), countP_later isOf_day h.recorded_le ((utcDate_mono hnow).trans_lt hlt)]
      simp [SamplingEntry.isOf, hday]
  totalCount := by
    intro later hlater
    rw [dailyTotalCount_maybeReset, recordEntry_resetDate, List.countP_append, List.countP_singleton]
    by_cases hday : utcDate now = utcDate later
    · rw [if_pos (congrArg some hday), show (s.recordEntry symbol now).dailyTotalCount = _ + 1 from rfl,
        h.totalCount now hnow, hday]
      simp [SamplingEntry.isOn, hday]
    · have hlt := (utcDate_mono hlater).lt_of_ne hday
      rw [if_neg (by simpa using hday), countP_later isOn_day h.recorded_le ((utcDate_mono hnow).trans_lt hlt)]
      simp [SamplingEntry.isOn, hday]
  last_mem := by
    intro symbol' lastAt hlast
    simp only [SamplingState.recordEntry, setItem, lastEntryAt_maybeReset] at hlast
    by_cases hs : symbol' = symbol
    · rw [if_pos hs, Option.some.injEq] at hlast
      exact ⟨_, List.mem_concat_self, hs.symm, hlast⟩
    · rw [if_neg hs] at hlast
      obtain ⟨e, he, hes⟩ := h.last_mem symbol' lastAt hlast
      exact ⟨e, List.mem_append_left _ he, hes⟩
  last_max := by
    intro e he
    simp only [SamplingState.recordEntry, setItem, lastEntryAt_maybeReset]
    by_cases hs : e.symbol = symbol
    · rw [if_pos hs]
      refine ⟨now, rfl, ?_⟩
      rcases List.mem_append.mp he with he | he
      · exact (h.recorded_le e he).trans hnow
      · rw [List.mem_singleton.mp he]
    · rw [if_neg hs]
      rcases List.mem_append.mp he with he | he
      · exact h.last_max e he
      · rw [List.mem_singleton.mp he] at hs
        exact absurd rfl hs

/-! ### One more entry -/

/-- One more entry keeps the limits when there is room for it on its day and its symbol is cold. -/
theorem within_append_iff (e : SamplingEntry) :
    WithinLimits limits (entries ++ [e]) ↔ WithinLimits limits entries ∧
      entries.countP (SamplingEntry.isOf e.symbol (utcDate e.enteredAt)) < limits.maxDailyTradesPerSymbol ∧
      entries.countP (SamplingEntry.isOn (utcDate e.enteredAt)) < limits.maxDailyTradesTotal ∧
      ∀ e' ∈ entries, e'.symbol = e.symbol → limits.cooldownSeconds ≤ totalSeconds (e.enteredAt - e'.enteredAt) := by
  constructor
  · rintro ⟨hsymbol, htotal, hcool⟩
    simp only [List.countP_append, List.countP_singleton] at hsymbol htotal
    rw [List.pairwise_append] at hcool
    refine ⟨⟨fun symbol day => ?_, fun day => ?_, hcool.1⟩, ?_, ?_, fun e' he' => hcool.2.2 e' he' e (List.mem_singleton_self e)⟩
    · have := hsymbol symbol day
      omega
    · have := htotal day
      omega
    · have := hsymbol e.symbol (utcDate e.enteredAt)
      simp only [SamplingEntry.isOf, decide_true, Bool.and_self, if_true] at this
      omega
    · have := htotal (utcDate e.enteredAt)
      simp only [SamplingEntry.isOn, decide_true, if_true] at this
      omega
  · rintro ⟨⟨hsymbol, htotal, hcool⟩, hroom, hroomTotal, hcold⟩
    refine ⟨fun symbol day => ?_, fun day => ?_, ?_⟩
    · rw [List.countP_append, List.countP_singleton]
      split
      · rename_i he
        simp only [SamplingEntry.isOf, Bool.and_eq_true, decide_eq_true_eq] at he
        rw [← he.1, ← he.2]
        omega
      · exact hsymbol symbol day
    · rw [List.countP_append, List.countP_singleton]
      split
      · rename_i he
        rw [← isOn_day e he]
        omega
      · exact htotal day
    · rw [List.pairwise_append]
      refine ⟨hcool, List.pairwise_singleton _ _, fun e' he' e'' he'' => ?_⟩
      rw [List.mem_singleton.mp he'']
      exact hcold e' he'

/-- The check allows an entry exactly when the limits hold with it. -/
theorem allowed_iff_within (h : Tracks s entries clock) (hwithin : WithinLimits limits entries) (hnow : clock ≤ now) :
    (checkSamplingThrottle symbol now s limits).1.allowed = true ↔ WithinLimits limits (entries ++ [⟨symbol, now⟩]) := by
  rw [checkSamplingThrottle_allowed_iff, within_append_iff, h.symbolCount now hnow, h.totalCount now hnow]
  have hcold : (∀ lastAt, s.lastEntryAt symbol = some lastAt → limits.cooldownSeconds ≤ totalSeconds (now - lastAt)) ↔
      ∀ e ∈ entries, e.symbol = symbol → limits.cooldownSeconds ≤ totalSeconds (now - e.enteredAt) := by
    constructor
    · intro hlast e he hes
      obtain ⟨lastAt, hl, hle⟩ := h.last_max e he
      exact (hlast lastAt (hes ▸ hl)).trans (totalSeconds_mono (by omega))
    · intro hall lastAt hl
      obtain ⟨e, he, hes, hat⟩ := h.last_mem symbol lastAt hl
      exact hat ▸ hall e he hes
  rw [hcold]
  exact ⟨fun h => ⟨hwithin, h⟩, fun h => h.2⟩

/-- What is within the limits now is so at any later instant. -/
theorem within_later (hle : ∀ e ∈ entries, e.enteredAt ≤ now) (h : WithinLimits limits (entries ++ [⟨symbol, now⟩])) {later : ℤ}
    (hlater : now ≤ later) : WithinLimits limits (entries ++ [⟨symbol, later⟩]) := by
  rw [within_append_iff] at h ⊢
  obtain ⟨hwithin, hroom, hroomTotal, hcold⟩ := h
  dsimp only at hroom hroomTotal hcold ⊢
  refine ⟨hwithin, ?_, ?_, fun e he hes => (hcold e he hes).trans (totalSeconds_mono (by omega))⟩
  all_goals rcases (utcDate_mono hlater).eq_or_lt with hday | hday
  · exact hday ▸ hroom
  · rw [countP_later isOf_day hle hday]
    omega
  · exact hday ▸ hroomTotal
  · rw [countP_later isOn_day hle hday]
    omega

/-! ### The run -/

/-- What holds after every call: the state tracks the records, they are within the limits, and a symbol that was allowed may
still be recorded. -/
structure Kept (limits : SamplingLimits) (w : SamplingWorld) : Prop where
  tracks : Tracks w.state w.entries w.clock
  within : WithinLimits limits w.entries
  allowed : ∀ symbol ∈ w.allowed, ∀ now, w.clock ≤ now → WithinLimits limits (w.entries ++ [⟨symbol, now⟩])

theorem kept_start (limits : SamplingLimits) (clock : ℤ) : Kept limits { clock } where
  tracks := tracks_start clock
  within := ⟨fun _ _ => Nat.zero_le _, fun _ => Nat.zero_le _, List.Pairwise.nil⟩
  allowed := fun _ h => absurd h List.not_mem_nil

theorem Kept.check (h : Kept limits w) (symbol : String) (hnow : w.clock ≤ now) : Kept limits (w.check limits symbol now) := by
  have hstate : (w.check limits symbol now).state = w.state.maybeReset now := checkSamplingThrottle_state symbol now w.state limits
  refine ⟨?_, h.within, ?_⟩
  · rw [hstate]
    exact h.tracks.reset hnow
  · intro symbol' hmem later hlater
    have hold : symbol' ∈ w.allowed → WithinLimits limits (w.entries ++ [⟨symbol', later⟩]) :=
      fun hm => h.allowed symbol' hm later (hnow.trans hlater)
    simp only [SamplingWorld.check] at hmem
    split at hmem
    · rename_i hallowed
      rcases List.mem_cons.mp hmem with rfl | hm
      · have hle := fun e he => (h.tracks.recorded_le e he).trans hnow
        exact within_later hle ((allowed_iff_within h.tracks h.within hnow).mp hallowed) hlater
      · exact hold hm
    · exact hold hmem

theorem Kept.record (h : Kept limits w) (hnow : w.clock ≤ now) (hmem : symbol ∈ w.allowed) : Kept limits (w.record symbol now) where
  tracks := h.tracks.record hnow
  within := h.allowed symbol hmem now hnow
  allowed := fun _ hm => absurd hm List.not_mem_nil

theorem kept_of_run (h : SamplingRun limits w) : Kept limits w := by
  induction h with
  | start clock => exact kept_start limits clock
  | check symbol _ hnow ih => exact ih.check symbol hnow
  | record _ hnow hmem ih => exact ih.record hnow hmem

end SamplingAux

open SamplingAux in
/-- In every run the records are within the limits, and a check refuses a symbol exactly when one more entry of it would break
one of them. -/
theorem sampling_within_limits {limits : SamplingLimits} {w : SamplingWorld} (h : SamplingRun limits w) :
    WithinLimits limits w.entries ∧ ∀ symbol now, w.clock ≤ now →
      ((checkSamplingThrottle symbol now w.state limits).1.allowed = true ↔
        WithinLimits limits (w.entries ++ [⟨symbol, now⟩])) :=
  ⟨(kept_of_run h).within, fun _ _ hnow => allowed_iff_within (kept_of_run h).tracks (kept_of_run h).within hnow⟩

/-- Two entries of one symbol, the second one after midnight. -/
theorem sampling_within_limits_midnight :
    let w := ((((SamplingWorld.mk {} [] 86399000000 []).check {} "BTC/USDT" 86399000000).record "BTC/USDT" 86399000000).check {}
      "BTC/USDT" 87299000000).record "BTC/USDT" 87299000000
    WithinLimits {} w.entries ∧ ∀ symbol now, w.clock ≤ now →
      ((checkSamplingThrottle symbol now w.state {}).1.allowed = true ↔ WithinLimits {} (w.entries ++ [⟨symbol, now⟩])) :=
  sampling_within_limits (.record (.check "BTC/USDT" (.record (.check "BTC/USDT" (.start 86399000000) (by decide)) (by decide)
    (by decide +kernel)) (by decide)) (by decide) (by decide +kernel))

end TradingPlatform
