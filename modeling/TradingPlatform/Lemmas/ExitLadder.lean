import TradingPlatform.Domain.Gain
import TradingPlatform.Engine.ReplayPosition
import TradingPlatform.Lib.Loops

/-!
# A position on the exit ladder

What one bar can do to it: the stop closes it, the next level fills, or nothing happens. The levels that filled are the first ones,
and their number fixes the stop.
-/

namespace TradingPlatform

namespace LadderAux

open Loops

/-! ### The levels -/

/-- The first `k` levels of a ladder filled at their triggers. -/
@[grind =] def marked (trigger : LadderLevel → ℚ) : ℕ → List LadderLevel → List LadderLevel
  | 0, levels => levels
  | _ + 1, [] => []
  | k + 1, l :: levels => { l with executed := true, triggerPrice := some (trigger l) } :: marked trigger k levels

variable {trigger : LadderLevel → ℚ} {levels : List LadderLevel} {k : ℕ} {level : LadderLevel}

/-- The next pending level is the one after the marked ones. -/
theorem find?_marked (hfresh : ∀ l ∈ levels, l.executed = false) :
    (marked trigger k levels).find? (fun l => !l.executed) = levels[k]? := by
  induction levels generalizing k with
  | nil => cases k <;> rfl
  | cons l levels ih =>
    rw [List.forall_mem_cons] at hfresh
    cases k with
    | zero => simp [marked, hfresh.1]
    | succ k => simpa [marked] using ih hfresh.2

/-- Filling it marks it. -/
theorem markLevel_marked (hfresh : ∀ l ∈ levels, l.executed = false) (hk : levels[k]? = some level) :
    markLevel level (trigger level) (marked trigger k levels) = some (marked trigger (k + 1) levels, k) := by
  induction levels generalizing k with
  | nil => simp at hk
  | cons l levels ih =>
    rw [List.forall_mem_cons] at hfresh
    cases k with
    | zero =>
      obtain rfl : l = level := by simpa using hk
      simp [marked, markLevel, hfresh.1]
    | succ k =>
      have hrest := ih hfresh.2 (by simpa using hk)
      simp [marked, markLevel, hrest]

theorem all_executed_marked (hfresh : ∀ l ∈ levels, l.executed = false) :
    (marked trigger k levels).all (·.executed) = true ↔ levels.length ≤ k := by
  induction levels generalizing k with
  | nil => cases k <;> simp [marked]
  | cons l levels ih =>
    rw [List.forall_mem_cons] at hfresh
    cases k with
    | zero => simp [marked, hfresh.1]
    | succ k => simpa [marked] using ih hfresh.2

theorem head?_marked_succ : (marked trigger (k + 1) levels).head?.bind (·.triggerPrice) = levels.head?.map trigger := by
  cases levels <;> rfl

/-- A level of the ladder is filled exactly when it is among the first `k`. -/
theorem executed_marked_iff (hfresh : ∀ l ∈ levels, l.executed = false) {i : ℕ} {l : LadderLevel}
    (hi : (marked trigger k levels)[i]? = some l) : l.executed = true ↔ i < k := by
  induction levels generalizing k i with
  | nil => cases k <;> simp [marked] at hi
  | cons l' levels ih =>
    rw [List.forall_mem_cons] at hfresh
    cases k with
    | zero =>
      have hl : l.executed = false := by
        rcases List.mem_cons.mp (List.mem_of_getElem? hi) with rfl | hmem
        · exact hfresh.1
        · exact hfresh.2 l hmem
      simp [hl]
    | succ k =>
      cases i with
      | zero =>
        have hl : { l' with executed := true, triggerPrice := some (trigger l') } = l := by simpa [marked] using hi
        simp [← hl]
      | succ i =>
        rw [ih hfresh.2 (by simpa [marked] using hi)]
        omega

/-! ### The configuration -/

/-- A level the rules accept. -/
structure Accepted (l : LadderLevel) : Prop where
  rMultiple_pos : 0 < l.rMultiple
  closeFraction_pos : 0 < l.closeFraction
  closeFraction_lt : l.closeFraction < 1
  executed : l.executed = false

theorem config_accepted {item : LadderItem} (h : item.config = .ok (some level)) : Accepted level := by
  rcases item with ⟨_ | r, _ | c⟩ | _ <;> simp only [LadderItem.config] at h
  · nomatch h
  · nomatch h
  · nomatch h
  · split at h
    · nomatch h
    · rename_i hrange
      rw [not_or, not_not] at hrange
      cases h
      exact ⟨lt_of_not_ge hrange.1, hrange.2.1, hrange.2.2, rfl⟩
  · nomatch h

/-- What the rules configure is a non-empty list of accepted levels. -/
theorem ladderConfig_accepted {rules : TakeprofitRules} (h : ladderConfigFromRules rules = .ok (some levels)) :
    levels ≠ [] ∧ ∀ l ∈ levels, Accepted l := by
  unfold ladderConfigFromRules at h
  split at h
  · nomatch h
  · rename_i raw _
    obtain ⟨configured, hmap, hsome⟩ := bind_eq_ok.mp h
    have haccepted : ∀ o ∈ configured, ∀ l, o = some l → Accepted l := by
      have hitems := mapM_eq_ok.mp hmap
      clear * - hitems
      induction hitems with
      | nil => exact fun o ho => absurd ho List.not_mem_nil
      | cons hitem _ ih =>
        rw [List.forall_mem_cons]
        exact ⟨fun l hl => config_accepted (hl ▸ hitem), ih⟩
    split at hsome
    · nomatch hsome
    · rename_i hne
      cases hsome
      refine ⟨hne, fun l hl => ?_⟩
      obtain ⟨o, ho, hol⟩ := List.mem_filterMap.mp hl
      exact haccepted o ho l hol

/-! ### The frame of a bar -/

section Excursion

variable (p : OpenPosition) (bar : OHLCVBar) (e : Option (ℚ × ReplayExitReason))

/-- A bar is recorded in the excursions only. -/
theorem recordExcursion_eq : ∃ maeR mfeR barsToMfe barsHeld,
    p.recordExcursion bar e = { p with maeR := maeR, mfeR := mfeR, barsToMfe := barsToMfe, barsHeld := barsHeld } := by
  unfold OpenPosition.recordExcursion
  dsimp only
  split
  · exact ⟨p.maeR, p.mfeR, p.barsToMfe, p.barsHeld, rfl⟩
  · exact ⟨_, _, _, _, rfl⟩

@[simp] theorem recordExcursion_side : (p.recordExcursion bar e).side = p.side := by
  obtain ⟨_, _, _, _, h⟩ := recordExcursion_eq p bar e
  rw [h]

@[simp] theorem recordExcursion_entryPrice : (p.recordExcursion bar e).entryPrice = p.entryPrice := by
  obtain ⟨_, _, _, _, h⟩ := recordExcursion_eq p bar e
  rw [h]

@[simp] theorem recordExcursion_originalStop : (p.recordExcursion bar e).originalStop = p.originalStop := by
  obtain ⟨_, _, _, _, h⟩ := recordExcursion_eq p bar e
  rw [h]

@[simp] theorem recordExcursion_remainingFraction : (p.recordExcursion bar e).remainingFraction = p.remainingFraction := by
  obtain ⟨_, _, _, _, h⟩ := recordExcursion_eq p bar e
  rw [h]

@[simp] theorem recordExcursion_ladder : (p.recordExcursion bar e).ladder = p.ladder := by
  obtain ⟨_, _, _, _, h⟩ := recordExcursion_eq p bar e
  rw [h]

end Excursion

/-! ### What the levels fix -/

/-- The stop once `k` levels filled. -/
def stopAfter (start : ExitLadderState) : ℕ → ℚ
  | 0 => start.initialStopPrice
  | 1 => start.entryPrice
  | _ + 2 => (start.levels.head?.map (levelTriggerPrice start)).getD start.entryPrice

/-- A ladder as it is opened, of quantity one. -/
structure Opened (start : ExitLadderState) : Prop where
  levels_ne : start.levels ≠ []
  accepted : ∀ l ∈ start.levels, Accepted l
  original : start.originalQuantity = 1
  risk_pos : 0 < start.riskDistance

/-- The ladder once `k` levels filled. -/
def climbed (start : ExitLadderState) (k : ℕ) (remaining : ℚ) (locked : Option ℚ) : ExitLadderState :=
  { start with
    remainingQuantity := remaining
    currentStopPrice := stopAfter start k
    levels := marked (levelTriggerPrice start) k start.levels
    lockedLevel1Price := locked }

/-- A position of the ladder `start` once `k` levels filled. -/
structure Climbing (start : ExitLadderState) (k : ℕ) (p : OpenPosition) : Prop where
  ladder : ∃ locked, p.ladder = some (climbed start k p.remainingFraction locked)
  bound : k ≤ start.levels.length
  side : p.side = start.side
  entry : p.entryPrice = start.entryPrice
  originalStop : p.originalStop = start.initialStopPrice
  remaining_pos : 0 < p.remainingFraction
  remaining_le : p.remainingFraction ≤ 1

variable {start s : ExitLadderState} {remaining : ℚ} {locked : Option ℚ} {p q : OpenPosition} {bar : OHLCVBar}

theorem Opened.fresh (h : Opened start) : ∀ l ∈ start.levels, l.executed = false := fun l hl => (h.accepted l hl).executed

@[simp] theorem climbed_side : (climbed start k remaining locked).side = start.side := rfl
@[simp] theorem climbed_entryPrice : (climbed start k remaining locked).entryPrice = start.entryPrice := rfl
@[simp] theorem climbed_originalQuantity : (climbed start k remaining locked).originalQuantity = start.originalQuantity := rfl
@[simp] theorem climbed_remainingQuantity : (climbed start k remaining locked).remainingQuantity = remaining := rfl
@[simp] theorem climbed_initialStopPrice : (climbed start k remaining locked).initialStopPrice = start.initialStopPrice := rfl
@[simp] theorem climbed_currentStopPrice : (climbed start k remaining locked).currentStopPrice = stopAfter start k := rfl
@[simp] theorem climbed_levels :
    (climbed start k remaining locked).levels = marked (levelTriggerPrice start) k start.levels := rfl
@[simp] theorem levelTriggerPrice_climbed (l : LadderLevel) :
    levelTriggerPrice (climbed start k remaining locked) l = levelTriggerPrice start l := rfl
@[simp] theorem levelHit_climbed (l : LadderLevel) (high low : ℚ) :
    levelHit (climbed start k remaining locked) l high low = levelHit start l high low := rfl

theorem nextPendingLevel_climbed (h : Opened start) :
    nextPendingLevel (climbed start k remaining locked) = start.levels[k]? :=
  find?_marked h.fresh

/-- The trigger of a level lies `r` times the risk ahead of the entry. -/
theorem levelTriggerPrice_eq (s : ExitLadderState) (l : LadderLevel) :
    levelTriggerPrice s l = s.side.ahead s.entryPrice (s.riskDistance * l.rMultiple) := by
  unfold levelTriggerPrice Direction.ahead
  cases s.side <;> rfl

theorem gain_trigger (s : ExitLadderState) (l : LadderLevel) :
    s.side.gain s.entryPrice (levelTriggerPrice s l) = s.riskDistance * l.rMultiple := by
  rw [levelTriggerPrice_eq, Direction.gain_ahead]

/-- The move to the stop: nothing after one level, that of the first level after two. -/
theorem gain_stopAfter_succ (first : LadderLevel) (hfirst : start.levels.head? = some first) (k : ℕ) :
    start.side.gain start.entryPrice (stopAfter start (k + 1)) = if k = 0 then 0 else start.riskDistance * first.rMultiple := by
  cases k with
  | zero => simp [stopAfter]
  | succ k => simp [stopAfter, hfirst, gain_trigger]

theorem exists_first (h : Opened start) : ∃ first, start.levels.head? = some first ∧ Accepted first := by
  cases hl : start.levels with
  | nil => exact absurd hl h.levels_ne
  | cons first rest => exact ⟨first, rfl, h.accepted first (hl ▸ List.mem_cons_self)⟩

/-- Once a level filled the stop is not behind the entry. -/
theorem gain_stopAfter_nonneg (h : Opened start) (k : ℕ) :
    0 ≤ start.side.gain start.entryPrice (stopAfter start (k + 1)) := by
  obtain ⟨first, hfirst, hacc⟩ := exists_first h
  rw [gain_stopAfter_succ first hfirst]
  split
  · exact le_rfl
  · exact mul_nonneg h.risk_pos.le hacc.rMultiple_pos.le

/-- A trail never moves a stop that is not behind the entry. -/
theorem nextTrailedStopPrice_none {side : Direction} {entry stop distance after high low : ℚ}
    (h : 0 ≤ side.gain entry stop) : nextTrailedStopPrice side entry stop distance after high low = none := by
  unfold nextTrailedStopPrice
  cases side with
  | long =>
    have hle : entry ≤ stop := by simpa [Direction.gain] using h
    simp [hle]
  | short =>
    have hle : stop ≤ entry := by simpa [Direction.gain] using h
    simp [hle]

/-- So what remains is held with its stop. -/
theorem trailRemainder_climbed (h : Opened start) (hp : p.ladder = some (climbed start k remaining locked))
    (hside : p.side = start.side) (hentry : p.entryPrice = start.entryPrice) :
    p.trailRemainder (climbed start k remaining locked) bar = p := by
  unfold OpenPosition.trailRemainder
  split
  · rfl
  · split
    · rename_i hall
      have hlen : start.levels.length ≤ k := (all_executed_marked h.fresh).mp hall
      have hk : k ≠ 0 := by
        intro hk
        rw [hk] at hlen
        exact h.levels_ne (List.length_eq_zero_iff.mp (by omega))
      obtain ⟨k, rfl⟩ := Nat.exists_eq_succ_of_ne_zero hk
      have hstop := gain_stopAfter_nonneg h k
      rw [nextTrailedStopPrice_none (by rw [hside, hentry]; exact hstop)]
    · rfl

/-! ### One bar -/

/-- What a bar does to a position of which `k` levels filled. -/
inductive LadderStep (start : ExitLadderState) (k : ℕ) (p : OpenPosition) (bar : OHLCVBar) :
    List ReplayTrade × Option OpenPosition → Prop where
  /-- The stop closes what remains. -/
  | stopped : stopReached start.side (stopAfter start k) bar = true →
      LadderStep start k p bar ([(p.recordExcursion bar).close bar.timestamp (stopAfter start k) .stoploss p.remainingFraction
        (some (stopAfter start k))], none)
  /-- The next level fills, and next to nothing remains. -/
  | finished {level : LadderLevel} : stopReached start.side (stopAfter start k) bar = false → start.levels[k]? = some level →
      p.remainingFraction - min p.remainingFraction level.closeFraction ≤ 1 / 10 ^ 12 →
      LadderStep start k p bar ([(p.recordExcursion bar).close bar.timestamp (levelTriggerPrice start level)
        (.exitLadder level.rMultiple) (min p.remainingFraction level.closeFraction) (some start.initialStopPrice)
        (some (levelTriggerPrice start level)) (some level.rMultiple)], none)
  /-- The next level fills. -/
  | filled {level : LadderLevel} {q : OpenPosition} : stopReached start.side (stopAfter start k) bar = false →
      start.levels[k]? = some level → Climbing start (k + 1) q →
      q.remainingFraction = p.remainingFraction - min p.remainingFraction level.closeFraction →
      LadderStep start k p bar ([(p.recordExcursion bar).close bar.timestamp (levelTriggerPrice start level)
        (.exitLadder level.rMultiple) (min p.remainingFraction level.closeFraction) (some start.initialStopPrice)
        (some (levelTriggerPrice start level)) (some level.rMultiple)], some q)
  /-- The position is held. -/
  | held {q : OpenPosition} : stopReached start.side (stopAfter start k) bar = false → Climbing start k q →
      q.remainingFraction = p.remainingFraction → q.ladder = p.ladder → LadderStep start k p bar ([], some q)

theorem Climbing.recordExcursion (h : Climbing start k p) (bar : OHLCVBar) : Climbing start k (p.recordExcursion bar) where
  ladder := by simpa using h.ladder
  bound := h.bound
  side := by simpa using h.side
  entry := by simpa using h.entry
  originalStop := by simpa using h.originalStop
  remaining_pos := by simpa using h.remaining_pos
  remaining_le := by simpa using h.remaining_le

/-- The ladder after the next level filled. -/
theorem applyLevelFill_climbed (h : Opened start) (locked : Option ℚ) (hk : start.levels[k]? = some level) {closed : ℚ}
    (hrest : 0 ≤ remaining - closed) :
    ∃ locked', applyLevelFill (climbed start k remaining locked) level (levelTriggerPrice start level) closed =
      .ok (climbed start (k + 1) (remaining - closed) locked') := by
  have hmark : markLevel level (levelTriggerPrice start level) (marked (levelTriggerPrice start) k start.levels) =
      some (marked (levelTriggerPrice start) (k + 1) start.levels, k) := markLevel_marked h.fresh hk
  unfold applyLevelFill
  rw [climbed_levels, hmark]
  cases k with
  | zero => exact ⟨_, by simp [climbed, stopAfter, max_eq_right hrest]; rfl⟩
  | succ k =>
    refine ⟨start.levels.head?.map (levelTriggerPrice start), congrArg Except.ok ?_⟩
    simp only [climbed, stopAfter, head?_marked_succ, max_eq_right hrest, Nat.succ_ne_zero, if_false]

/-- The level that fills is one of the ladder. -/
theorem fillLevel_step (h : Opened start) (hp : Climbing start k p) (hk : start.levels[k]? = some level)
    (hstop : stopReached start.side (stopAfter start k) bar = false) :
    ∃ out, (p.recordExcursion bar).fillLevel (climbed start k p.remainingFraction locked) level bar = .ok out ∧
      LadderStep start k p bar out := by
  have hrest : 0 ≤ p.remainingFraction - min p.remainingFraction level.closeFraction := sub_nonneg.mpr (min_le_left _ _)
  have hacc := h.accepted level (List.mem_of_getElem? hk)
  have hpos : 0 < min p.remainingFraction level.closeFraction := lt_min hp.remaining_pos hacc.closeFraction_pos
  have hbound : k + 1 ≤ start.levels.length := (List.getElem?_eq_some_iff.mp hk).1
  obtain ⟨locked', hfill⟩ := applyLevelFill_climbed h locked hk hrest
  unfold OpenPosition.fillLevel closeQuantityForLevel
  simp only [climbed_originalQuantity, climbed_remainingQuantity, climbed_initialStopPrice, levelTriggerPrice_climbed,
    h.original, one_ne_zero, if_false, one_mul, div_one, recordExcursion_remainingFraction, max_eq_right hrest, hfill,
    bind, Except.bind]
  split
  · rename_i hle
    refine ⟨_, rfl, .finished hstop hk ?_⟩
    rcases hle with hle | hle
    · exact hle
    · exact hle.trans (by norm_num)
  · rename_i hgt
    rw [not_or, not_le, not_le] at hgt
    have hr := hp.recordExcursion bar
    refine ⟨_, rfl, .filled hstop hk ⟨⟨locked', rfl⟩, hbound, hr.side, hr.entry, rfl, hgt.2, ?_⟩ rfl⟩
    have := hp.remaining_le
    dsimp only
    linarith

/-- A bar closes the position, fills its next level or leaves it as it is. -/
theorem advanceLadder_step (h : Opened start) (hp : Climbing start k p) (bar : OHLCVBar) :
    ∃ out, p.advance .exitLadder bar = .ok out ∧ LadderStep start k p bar out := by
  obtain ⟨locked, hladder⟩ := hp.ladder
  unfold OpenPosition.advance
  rw [hladder]
  dsimp only
  unfold OpenPosition.advanceLadder
  dsimp only
  rw [recordExcursion_side, recordExcursion_remainingFraction, hp.side, climbed_currentStopPrice, nextPendingLevel_climbed h]
  have hr : Climbing start k (p.recordExcursion bar) := hp.recordExcursion bar
  have hheld : (p.recordExcursion bar).trailRemainder (climbed start k p.remainingFraction locked) bar = p.recordExcursion bar :=
    trailRemainder_climbed h ((recordExcursion_ladder p bar none).trans hladder) hr.side hr.entry
  rw [hheld]
  split
  · rename_i hstop
    exact ⟨_, rfl, .stopped hstop⟩
  · rename_i hstop
    rw [Bool.not_eq_true] at hstop
    have hkeep : LadderStep start k p bar ([], some (p.recordExcursion bar)) :=
      .held hstop hr (recordExcursion_remainingFraction p bar none) (recordExcursion_ladder p bar none)
    split
    · rename_i pending hpending
      split
      · exact fillLevel_step h hp hpending hstop
      · exact ⟨_, rfl, hkeep⟩
    · exact ⟨_, rfl, hkeep⟩

/-! ### Positions as they are opened -/

variable {e : ReplayEntry} {exitMode : ExitMode}

/-- The ladder of an entry of quantity one. -/
def entryLadder (e : ReplayEntry) (levels : List LadderLevel) : ExitLadderState where
  symbol := e.symbol
  side := e.side
  entryPrice := e.entryPrice
  originalQuantity := 1
  remainingQuantity := 1
  initialStopPrice := e.stopPrice
  currentStopPrice := e.stopPrice
  levels := levels
  remainderTrailAfterR := e.rules.remainderTrailAfterR.getD (5 / 2)

/-- A ladder is opened exactly when levels are configured and the stop is not the entry. -/
theorem initializeExitLadder_eq_some : initializeExitLadder e.symbol e.side e.entryPrice 1 e.stopPrice e.rules = .ok (some s) ↔
    ∃ levels, ladderConfigFromRules e.rules = .ok (some levels) ∧ e.entryPrice ≠ e.stopPrice ∧ s = entryLadder e levels := by
  unfold initializeExitLadder
  rw [bind_eq_ok]
  constructor
  · rintro ⟨config, hconfig, h⟩
    cases config with
    | none => nomatch h
    | some levels =>
      dsimp only at h
      split at h
      · nomatch h
      · rename_i hrisk
        rw [not_or, not_le, abs_pos, sub_ne_zero] at hrisk
        cases h
        exact ⟨levels, hconfig, hrisk.1, by simp [entryLadder]⟩
  · rintro ⟨levels, hconfig, hne, rfl⟩
    have hpos : 0 < |e.entryPrice - e.stopPrice| := abs_pos.mpr (sub_ne_zero.mpr hne)
    refine ⟨_, hconfig, ?_⟩
    simp [hpos.not_ge, entryLadder, pure, Except.pure]

theorem opened_entryLadder (hconfig : ladderConfigFromRules e.rules = .ok (some levels)) (hne : e.entryPrice ≠ e.stopPrice) :
    Opened (entryLadder e levels) where
  levels_ne := (ladderConfig_accepted hconfig).1
  accepted := (ladderConfig_accepted hconfig).2
  original := rfl
  risk_pos := abs_pos.mpr (sub_ne_zero.mpr hne)

/-- A position is opened whole, with its ladder if it has one. -/
theorem openPosition_spec (h : e.openPosition exitMode = .ok p) :
    p.side = e.side ∧ p.entryPrice = e.entryPrice ∧ p.originalStop = e.stopPrice ∧ p.remainingFraction = 1 ∧
      (p.ladder = none ∨ exitMode = .exitLadder ∧ ∃ levels, ladderConfigFromRules e.rules = .ok (some levels) ∧
        e.entryPrice ≠ e.stopPrice ∧ p.ladder = some (entryLadder e levels)) := by
  unfold ReplayEntry.openPosition at h
  obtain ⟨ladder, hladder, hp⟩ := bind_eq_ok.mp h
  cases hp
  refine ⟨rfl, rfl, rfl, rfl, ?_⟩
  cases ladder with
  | none => exact Or.inl rfl
  | some s =>
    cases exitMode with
    | fixed2r => nomatch hladder
    | exitLadder =>
      obtain ⟨levels, hconfig, hne, rfl⟩ := initializeExitLadder_eq_some.mp hladder
      exact Or.inr ⟨rfl, levels, hconfig, hne, rfl⟩

/-- An entry with levels is opened on its ladder. -/
theorem openPosition_ladder (hconfig : ladderConfigFromRules e.rules = .ok (some levels)) (hne : e.entryPrice ≠ e.stopPrice) :
    ∃ p₀, e.openPosition .exitLadder = .ok p₀ ∧ p₀.ladder = some (entryLadder e levels) :=
  ⟨_, bind_eq_ok.mpr ⟨_, initializeExitLadder_eq_some.mpr ⟨levels, hconfig, hne, rfl⟩, rfl⟩, rfl⟩

/-- With a ladder no level is filled yet. -/
theorem climbing_open (h : e.openPosition exitMode = .ok p) (hladder : p.ladder = some (entryLadder e levels)) :
    Climbing (entryLadder e levels) 0 p := by
  obtain ⟨hside, hentry, hstop, hone, _⟩ := openPosition_spec h
  refine ⟨⟨none, ?_⟩, Nat.zero_le _, hside, hentry, hstop, ?_, hone.le⟩
  · rw [hladder, hone]
    rfl
  · rw [hone]
    exact one_pos

end LadderAux
end TradingPlatform
