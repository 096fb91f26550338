import Mathlib.Algebra.Order.BigOperators.Group.List
import TradingPlatform.Lemmas.ExitLadder

/-!
# Runs on the exit ladder

Through every sequence of bars the levels fill in order, what was closed and what remains make up the position, and the stop never
gives ground.
-/

namespace TradingPlatform

/-- The fraction of a position that trades closed. -/
def closedFraction (trades : List ReplayTrade) : ℚ := (trades.map (·.quantityFraction)).sum

/-- A position on the ladder, after trades: the first levels filled, and nothing is lost in either of the two accounts. -/
structure OnLadder (trades : List ReplayTrade) (p : OpenPosition) (ladder : ExitLadderState) : Prop where
  filledFirst : ∃ k, ∀ (i : ℕ) (level : LadderLevel), ladder.levels[i]? = some level → (level.executed = true ↔ i < k)
  quantity : ladder.remainingQuantity + (trades.map fun t => ladder.originalQuantity * t.quantityFraction).sum =
    ladder.originalQuantity
  fraction : p.remainingFraction + closedFraction trades = 1

/-- A bar that leaves the position open: the stop gives no ground, and it stands behind the trigger of a level that filled
exactly when that level is the first or lies beyond the first. -/
structure KeepsStop (side : Direction) (ladder : ExitLadderState) (closed : List ReplayTrade) (ladder' : ExitLadderState) :
    Prop where
  notAway : 0 ≤ side.gain ladder.currentStopPrice ladder'.currentStopPrice
  behind : ∀ t ∈ closed, ∃ level, nextPendingLevel ladder = some level ∧ t.exitPrice = levelTriggerPrice ladder level ∧
    (side.gain t.exitPrice ladder'.currentStopPrice < 0 ↔
      ladder.levels.head? = some level ∨ ∃ first, ladder.levels.head? = some first ∧ first.rMultiple < level.rMultiple)

namespace LadderRunAux

open LadderAux Loops

variable {start : ExitLadderState} {k : ℕ} {p q : OpenPosition} {bar : OHLCVBar} {closed : List ReplayTrade}

theorem closedFraction_append (l l' : List ReplayTrade) :
    closedFraction (l ++ l') = closedFraction l + closedFraction l' := by
  simp [closedFraction]

/-- The fraction of a trade is the one it was closed with, when that is one. -/
theorem closedFraction_close (p : OpenPosition) (at' : ℤ) (price : ℚ) (reason : ReplayExitReason) {f : ℚ}
    (stop take r : Option ℚ) (h₀ : 0 ≤ f) (h₁ : f ≤ 1) : closedFraction [p.close at' price reason f stop take r] = f := by
  change max 0 (min 1 f) + 0 = f
  rw [min_eq_right h₁, max_eq_right h₀, add_zero]

/-- The level that fills closes no more than remains. -/
theorem fill_bounds (h : Opened start) (hp : Climbing start k p) {level : LadderLevel} (hk : start.levels[k]? = some level) :
    0 < min p.remainingFraction level.closeFraction ∧ min p.remainingFraction level.closeFraction ≤ 1 :=
  ⟨lt_min hp.remaining_pos (h.accepted level (List.mem_of_getElem? hk)).closeFraction_pos,
    (min_le_left _ _).trans hp.remaining_le⟩

/-! ### The run -/

/-- How a run on the ladder ends: still open, or closed with next to nothing dropped, and nothing at all when the stop closed
it. -/
structure LadderEnd (start : ExitLadderState) (remaining : ℚ) (trades : List ReplayTrade) (left : Option OpenPosition) : Prop where
  still : ∀ q, left = some q → (∃ k, Climbing start k q) ∧ q.remainingFraction + closedFraction trades = remaining
  closed : left = none → ∃ dropped, 0 ≤ dropped ∧ dropped ≤ 1 / 10 ^ 12 ∧ closedFraction trades + dropped = remaining ∧
    ∃ t, trades.getLast? = some t ∧ (t.exitReason = .stoploss → dropped = 0)

/-- A trade before a run. -/
theorem LadderEnd.cons {remaining f : ℚ} {trades : List ReplayTrade} {left : Option OpenPosition}
    (h : LadderEnd start (remaining - f) trades left) (hf : closedFraction closed = f) :
    LadderEnd start remaining (closed ++ trades) left where
  still := by
    intro q hq
    obtain ⟨hk, hsum⟩ := h.still q hq
    refine ⟨hk, ?_⟩
    rw [closedFraction_append]
    linarith
  closed := by
    intro hnone
    obtain ⟨dropped, h₀, h₁, hsum, t, hlast, hstop⟩ := h.closed hnone
    refine ⟨dropped, h₀, h₁, ?_, t, ?_, hstop⟩
    · rw [closedFraction_append]
      linarith
    · rw [List.getLast?_append, hlast]
      rfl

theorem drive_ends (h : Opened start) (bars : List OHLCVBar) : ∀ {k : ℕ} {p : OpenPosition}, Climbing start k p →
    ∃ trades left, p.drive .exitLadder bars = .ok (trades, left) ∧ LadderEnd start p.remainingFraction trades left := by
  induction bars with
  | nil =>
    intro k p hp
    refine ⟨[], some p, rfl, fun q hq => ?_, fun hnone => (nomatch hnone)⟩
    cases hq
    exact ⟨⟨k, hp⟩, by simp [closedFraction]⟩
  | cons bar bars ih =>
    intro k p hp
    obtain ⟨out, hadvance, hstep⟩ := advanceLadder_step h hp bar
    -- a bar that leaves a position open is followed by the run of what is left
    have hopen : ∀ {closed : List ReplayTrade} {q : OpenPosition} {k' : ℕ}, out = (closed, some q) → Climbing start k' q →
        q.remainingFraction = p.remainingFraction - closedFraction closed →
        ∃ trades left, p.drive .exitLadder (bar :: bars) = .ok (trades, left) ∧
          LadderEnd start p.remainingFraction trades left := by
      intro closed q k' hout hq hrest
      obtain ⟨later, left, hdrive, hend⟩ := ih hq
      rw [hrest] at hend
      exact ⟨closed ++ later, left, bind_eq_ok.mpr ⟨out, hadvance, by simp only [hout, hdrive, bind, Except.bind, pure, Except.pure]⟩,
        hend.cons rfl⟩
    have hshut : ∀ {closed : List ReplayTrade}, out = (closed, none) →
        p.drive .exitLadder (bar :: bars) = .ok (closed, none) := by
      intro closed hout
      exact bind_eq_ok.mpr ⟨out, hadvance, by rw [hout]; rfl⟩
    cases hstep with
    | stopped _ =>
      refine ⟨_, none, hshut rfl, fun q hq => (nomatch hq), fun _ => ⟨0, le_rfl, by norm_num, ?_, _, rfl, fun _ => rfl⟩⟩
      rw [add_zero]
      exact closedFraction_close _ _ _ _ _ _ _ hp.remaining_pos.le hp.remaining_le
    | @finished level _ hk hle =>
      obtain ⟨hpos, hone⟩ := fill_bounds h hp hk
      refine ⟨_, none, hshut rfl, fun q hq => (nomatch hq), fun _ =>
        ⟨_, sub_nonneg.mpr (min_le_left _ _), hle, ?_, _, rfl, fun hreason => (nomatch hreason)⟩⟩
      rw [closedFraction_close _ _ _ _ _ _ _ hpos.le hone]
      linarith
    | @filled level q _ hk hq hrest =>
      obtain ⟨hpos, hone⟩ := fill_bounds h hp hk
      refine hopen rfl hq ?_
      rw [closedFraction_close _ _ _ _ _ _ _ hpos.le hone]
      exact hrest
    | held _ hq hrest _ => exact hopen rfl hq (by rw [hrest]; simp [closedFraction])

/-! ### One more bar -/

/-- The stop of `k` levels gives no ground to that of `k + 1`. -/
theorem gain_stopAfter (h : Opened start) (hlosing : start.side.gain start.entryPrice start.initialStopPrice < 0) (k : ℕ) :
    0 ≤ start.side.gain (stopAfter start k) (stopAfter start (k + 1)) := by
  obtain ⟨first, hfirst, hacc⟩ := exists_first h
  rw [Direction.gain_eq_sub _ start.entryPrice]
  cases k with
  | zero =>
    have hstop := gain_stopAfter_nonneg h 0
    change 0 ≤ _ - start.side.gain start.entryPrice start.initialStopPrice
    linarith
  | succ k =>
    rw [gain_stopAfter_succ first hfirst, gain_stopAfter_succ first hfirst, if_neg k.succ_ne_zero]
    have hpos := mul_nonneg h.risk_pos.le hacc.rMultiple_pos.le
    split <;> linarith

/-- Where the stop stands to the trigger of the level that filled. -/
theorem behind_iff (h : Opened start) {level : LadderLevel} (hk : start.levels[k]? = some level) :
    start.side.gain (levelTriggerPrice start level) (stopAfter start (k + 1)) < 0 ↔
      k = 0 ∨ ∃ first, start.levels.head? = some first ∧ first.rMultiple < level.rMultiple := by
  obtain ⟨first, hfirst, _⟩ := exists_first h
  have hacc := h.accepted level (List.mem_of_getElem? hk)
  have hmul : start.riskDistance * first.rMultiple < start.riskDistance * level.rMultiple ↔ first.rMultiple < level.rMultiple :=
    mul_lt_mul_iff_right₀ h.risk_pos
  rw [Direction.gain_eq_sub _ start.entryPrice, gain_trigger, gain_stopAfter_succ first hfirst]
  by_cases hz : k = 0
  · have hpos := mul_pos h.risk_pos hacc.rMultiple_pos
    simp only [hz, if_true, true_or, iff_true]
    linarith
  · simp only [hz, if_false, false_or, hfirst, Option.some.injEq, exists_eq_left', sub_neg]
    exact hmul

/-- The pending level is the head exactly when none filled. -/
theorem head_iff (h : Opened start) {remaining : ℚ} {locked : Option ℚ} {level : LadderLevel} (hk : start.levels[k]? = some level) :
    ((climbed start k remaining locked).levels.head? = some level ∨ ∃ first,
        (climbed start k remaining locked).levels.head? = some first ∧ first.rMultiple < level.rMultiple) ↔
      k = 0 ∨ ∃ first, start.levels.head? = some first ∧ first.rMultiple < level.rMultiple := by
  have hacc := h.accepted level (List.mem_of_getElem? hk)
  rw [climbed_levels]
  cases k with
  | zero =>
    rw [← List.head?_eq_getElem?] at hk
    simp [marked, hk]
  | succ k =>
    cases hl : start.levels with
    | nil => simp [hl] at hk
    | cons first rest =>
      have hne : { first with executed := true, triggerPrice := some (levelTriggerPrice start first) } ≠ level := by
        intro heq
        have := hacc.executed
        rw [← heq] at this
        cases this
      simp [marked, hne]

/-- A bar that leaves a position open keeps its stop. -/
theorem keepsStop (h : Opened start) (hlosing : start.side.gain start.entryPrice start.initialStopPrice < 0)
    (hp : Climbing start k p) (hadvance : p.advance .exitLadder bar = .ok (closed, some q)) :
    ∃ ladder ladder', p.ladder = some ladder ∧ q.ladder = some ladder' ∧ KeepsStop start.side ladder closed ladder' := by
  obtain ⟨locked, hladder⟩ := hp.ladder
  obtain ⟨out, hout, hstep⟩ := advanceLadder_step h hp bar
  rw [hadvance] at hout
  cases hout
  cases hstep with
  | @filled level _ _ hk hq _ =>
    obtain ⟨locked', hladder'⟩ := hq.ladder
    refine ⟨_, _, hladder, hladder', gain_stopAfter h hlosing k, fun t ht => ⟨level, ?_, ?_, ?_⟩⟩
    · rw [nextPendingLevel_climbed h, hk]
    · rw [List.mem_singleton.mp ht]
      rfl
    · rw [List.mem_singleton.mp ht, head_iff h hk]
      exact behind_iff h hk
  | held _ _ _ hsame =>
    rw [← hsame] at hladder
    refine ⟨_, _, hsame ▸ hladder, hladder, ?_, fun t ht => absurd ht List.not_mem_nil⟩
    rw [Direction.gain_self]

theorem onLadder {trades : List ReplayTrade} (h : Opened start) (hp : Climbing start k p)
    (hsum : p.remainingFraction + closedFraction trades = 1) :
    ∃ ladder, p.ladder = some ladder ∧ OnLadder trades p ladder := by
  obtain ⟨locked, hladder⟩ := hp.ladder
  refine ⟨_, hladder, ⟨k, fun i level hi => executed_marked_iff h.fresh hi⟩, ?_, hsum⟩
  simpa [h.original, closedFraction] using hsum

end LadderRunAux

open LadderAux LadderRunAux in
/-- A position opened with levels that the rules accept and a stop on its losing side, driven through any bars. -/
theorem ladder_run {e : ReplayEntry} {levels : List LadderLevel} (hconfig : ladderConfigFromRules e.rules = .ok (some levels))
    (hlosing : e.side.gain e.entryPrice e.stopPrice < 0) :
    ∃ p₀, e.openPosition .exitLadder = .ok p₀ ∧ ∀ bars, ∃ trades left, p₀.drive .exitLadder bars = .ok (trades, left) ∧
      (∀ p, left = some p → (∃ ladder, p.ladder = some ladder ∧ OnLadder trades p ladder) ∧
        (∀ bar closed q, p.advance .exitLadder bar = .ok (closed, some q) →
          ∃ ladder ladder', p.ladder = some ladder ∧ q.ladder = some ladder' ∧ KeepsStop e.side ladder closed ladder') ∧
        ∀ latest, closedFraction (trades ++ [p.closeAtEnd latest]) = 1) ∧
      (left = none → ∃ dropped, 0 ≤ dropped ∧ dropped ≤ 1 / 10 ^ 12 ∧ closedFraction trades + dropped = 1 ∧
        ∃ t, trades.getLast? = some t ∧ (t.exitReason = .stoploss → dropped = 0)) := by
  have hne : e.entryPrice ≠ e.stopPrice := by
    intro heq
    rw [heq, Direction.gain_self] at hlosing
    exact lt_irrefl 0 hlosing
  have hopened := opened_entryLadder hconfig hne
  obtain ⟨p₀, hopen, hladder⟩ := openPosition_ladder hconfig hne
  have hp₀ := climbing_open hopen hladder
  have hone : p₀.remainingFraction = 1 := (openPosition_spec hopen).2.2.2.1
  refine ⟨p₀, hopen, fun bars => ?_⟩
  obtain ⟨trades, left, hdrive, hend⟩ := drive_ends hopened bars hp₀
  rw [hone] at hend
  refine ⟨trades, left, hdrive, fun p hleft => ?_, hend.closed⟩
  obtain ⟨⟨k, hp⟩, hsum⟩ := hend.still p hleft
  refine ⟨onLadder hopened hp hsum, fun bar closed q hadvance => keepsStop hopened hlosing hp hadvance, fun latest => ?_⟩
  have hrest : closedFraction [p.closeAtEnd latest] = p.remainingFraction :=
    closedFraction_close _ _ _ _ _ _ _ hp.remaining_pos.le hp.remaining_le
  rw [closedFraction_append, hrest, add_comm]
  exact hsum

/-- A long of 100 with its stop at 90, and levels at two multiples of the risk. -/
def twoLevels (first second : ℚ × ℚ) : ReplayEntry where
  symbol := "BTC/USDT"
  side := .long
  openedAt := 0
  entryPrice := 100
  stopPrice := 90
  takePrice := 120
  feeBps := 10
  slippageBps := 12
  rules := { exitLadder := some [.level (some first.1) (some first.2), .level (some second.1) (some second.2)] }

/-- A bar that opens and closes at 100. -/
def barBetween (timestamp : ℤ) (low high : ℚ) : OHLCVBar :=
  { timestamp, openPrice := 100, high, low, close := 100, volume := 1 }

theorem ladder_run_twoLevels :
    ∃ p₀, (twoLevels (1, 2 / 5) (3 / 2, 3 / 10)).openPosition .exitLadder = .ok p₀ ∧ ∀ bars, ∃ trades left,
      p₀.drive .exitLadder bars = .ok (trades, left) ∧
      (∀ p, left = some p → (∃ ladder, p.ladder = some ladder ∧ OnLadder trades p ladder) ∧
        (∀ bar closed q, p.advance .exitLadder bar = .ok (closed, some q) → ∃ ladder ladder', p.ladder = some ladder ∧
          q.ladder = some ladder' ∧ KeepsStop (twoLevels (1, 2 / 5) (3 / 2, 3 / 10)).side ladder closed ladder') ∧
        ∀ latest, closedFraction (trades ++ [p.closeAtEnd latest]) = 1) ∧
      (left = none → ∃ dropped, 0 ≤ dropped ∧ dropped ≤ 1 / 10 ^ 12 ∧ closedFraction trades + dropped = 1 ∧
        ∃ t, trades.getLast? = some t ∧ (t.exitReason = .stoploss → dropped = 0)) :=
  ladder_run (show ladderConfigFromRules (twoLevels (1, 2 / 5) (3 / 2, 3 / 10)).rules =
    .ok (some [⟨1, 2 / 5, false, none⟩, ⟨3 / 2, 3 / 10, false, none⟩]) by decide +kernel) (by decide +kernel)

/-- The trades of an entry on the ladder, as level and price, the last stop, and the fraction closed. -/
def ladderOutcome (e : ReplayEntry) (bars : List OHLCVBar) : Option (List (Option ℚ × ℚ) × Option ℚ × ℚ) :=
  match (e.openPosition .exitLadder).bind fun p => p.drive .exitLadder bars with
  | .error _ => none
  | .ok (trades, left) =>
    some (trades.map fun t => (t.ladderR, t.exitPrice), (left.bind (·.ladder)).map (·.currentStopPrice), closedFraction trades)

/-- With the farther level first, the nearer one fills at 110 and the stop is put beyond it, at 120; and a position that levels
close may leave a remainder that no trade closes. -/
theorem ladder_run_unordered :
    (ladderOutcome (twoLevels (2, 1 / 4) (1, 1 / 4)) [barBetween 1 95 120, barBetween 2 105 115] =
        some ([(some 2, 120), (some 1, 110)], some 120, 1 / 2) ∧ ¬Direction.long.gain 110 120 < 0) ∧
      ladderOutcome (twoLevels (1, 1 / 2) (2, 1 / 2 - 1 / 10 ^ 13)) [barBetween 1 95 110, barBetween 2 105 120] =
        some ([(some 1, 110), (some 2, 120)], none, 1 - 1 / 10 ^ 13) := by
  decide +kernel

end TradingPlatform
