import Mathlib.Tactic.Linarith
import Mathlib.Data.Rat.Star
import Mathlib.Algebra.Order.Ring.Star
import TradingPlatform.Domain.Gain
import TradingPlatform.Engine.OrderNormalizer
import TradingPlatform.Lemmas.CycleExit

/-!
# Normalized orders

An order the normalizer returns keeps every limit of the market. Its stop is rounded down for either side: that widens the risk of a
long, and can carry the stop of a short to the reference price or past it.
-/

namespace TradingPlatform

/-- A price on the losing side of a reference. -/
def PositionSide.Losing (side : PositionSide) (reference price : ℚ) : Prop :=
  match side with
  | .long => price < reference
  | .short => reference < price
  | .flat => False

/-- A sound order: within the limits of the market and of the intent, with a stop that protects no worse than the intent's. -/
structure NormalizedOrder.Sound (order : NormalizedOrder) (intent : TradeIntent) (rules : MarketRulesSnapshot)
    (confirmedPositionQuantity : Option ℚ) : Prop where
  onStep : Grid.OnGrid rules.stepSize order.quantity
  quantity : rules.minQuantity ≤ order.quantity ∧ ∀ maximum ∈ rules.maxQuantity, order.quantity ≤ maximum
  requested : order.quantity ≤ intent.targetQuantity
  confirmed : rules.positionMode = "HEDGE" → intent.closing = true → ∃ held ∈ confirmedPositionQuantity, order.quantity ≤ held
  notional : rules.minNotional ≤ order.quantity * intent.signalReferencePrice ∧
    ∀ maximum ∈ rules.maxNotional, order.quantity * intent.signalReferencePrice ≤ maximum
  reduceOnly : order.reduceOnly = some true ↔ rules.positionMode = "ONE_WAY" ∧ intent.closing = true
  stopOnTick : 0 < order.stopPrice ∧ Grid.OnGrid rules.tickSize order.stopPrice
  stopLosing : intent.positionSide.Losing intent.signalReferencePrice order.stopPrice
  stopRisk : |intent.signalReferencePrice - order.stopPrice| ≤ |intent.signalReferencePrice - intent.protection.stopPrice|

/-- Rounding down keeps the stop: that of a long is a multiple of the tick already, and some multiple lies between the reference of a
short and its stop. -/
def TradeIntent.StopKept (intent : TradeIntent) (rules : MarketRulesSnapshot) : Prop :=
  match intent.positionSide with
  | .long => Grid.OnGrid rules.tickSize intent.protection.stopPrice
  | .short => ∃ price, Grid.OnGrid rules.tickSize price ∧ intent.signalReferencePrice < price ∧ price ≤ intent.protection.stopPrice
  | .flat => False

namespace NormalizedStopAux

variable {intent : TradeIntent} {rules : MarketRulesSnapshot} {hexdigest : String → String} {confirmed : Option ℚ}
  {order : NormalizedOrder}

theorem floorToIncrement_of_nonneg {value increment : ℚ} (hvalue : 0 ≤ value) (hincrement : 0 < increment) :
    floorToIncrement value increment = Grid.down increment value := by
  unfold floorToIncrement Grid.down
  rw [truncate_of_nonneg (div_nonneg hvalue hincrement.le)]

/-- The quantity an order asks for is at most the target and, for a close in hedge mode, the confirmed position. -/
theorem requestedQuantity_ok {quantity : ℚ} (h : intent.requestedQuantity rules confirmed = .ok quantity) :
    0 < quantity ∧ quantity ≤ intent.targetQuantity ∧
      (rules.positionMode = "HEDGE" → intent.closing = true → ∃ held ∈ confirmed, quantity ≤ held) := by
  unfold TradeIntent.requestedQuantity at h
  by_cases hclose : rules.positionMode = "HEDGE" ∧ intent.closing = true
  · rw [if_pos hclose] at h
    cases confirmed with
    | none => nomatch h
    | some held =>
      by_cases hheld : held ≤ 0
      · simp [hheld] at h
      · simp only [if_neg hheld] at h
        cases h
        exact ⟨lt_min intent.quantity_pos (not_le.mp hheld), min_le_left _ _, fun _ _ => ⟨held, rfl, min_le_right _ _⟩⟩
  · rw [if_neg hclose] at h
    cases h
    exact ⟨intent.quantity_pos, le_rfl, fun hmode hclosing => absurd ⟨hmode, hclosing⟩ hclose⟩

/-- The parts of an order that the normalizer returned. -/
theorem normalizedOrder_ok {quantity stopPrice : ℚ} (h : intent.normalizedOrder rules hexdigest quantity stopPrice = .ok order) :
    order.quantity = quantity ∧ order.stopPrice = stopPrice ∧
      order.reduceOnly = if rules.positionMode = "ONE_WAY" then some intent.closing else none := by
  unfold TradeIntent.normalizedOrder at h
  split at h
  · split at h
    · cases h
      exact ⟨rfl, rfl, rfl⟩
    · nomatch h
  · nomatch h

/-- What the normalizer checked of an order it returned. -/
theorem normalize_ok (h : intent.normalize rules hexdigest confirmed = .ok order) :
    ∃ quantity, intent.requestedQuantity rules confirmed = .ok quantity ∧
      order.quantity = floorToIncrement quantity rules.stepSize ∧
      order.stopPrice = floorToIncrement intent.protection.stopPrice rules.tickSize ∧
      (order.reduceOnly = if rules.positionMode = "ONE_WAY" then some intent.closing else none) ∧
      (rules.minQuantity ≤ order.quantity ∧ ∀ maximum ∈ rules.maxQuantity, order.quantity ≤ maximum) ∧
      rules.minNotional ≤ order.quantity * intent.signalReferencePrice ∧
      ∀ maximum ∈ rules.maxNotional, order.quantity * intent.signalReferencePrice ≤ maximum := by
  unfold TradeIntent.normalize at h
  simp only [Loops.guard_eq_ok, Loops.bind_eq_ok] at h
  obtain ⟨-, -, -, -, -, side, -, -, quantity, hquantity, hmin, hmax, hminNotional, hmaxNotional, horder⟩ := h
  obtain ⟨hq, hstop, hreduce⟩ := normalizedOrder_ok horder
  rw [← hq] at hmin hmax hminNotional hmaxNotional
  exact ⟨quantity, hquantity, hq, hstop, hreduce, ⟨not_lt.mp hmin, fun m hm => not_lt.mp fun hlt => hmax ⟨m, hm, hlt⟩⟩,
    not_lt.mp hminNotional, fun m hm => not_lt.mp fun hlt => hmaxNotional ⟨m, hm, hlt⟩⟩

/-- A long stop rounded down does not widen the risk exactly if it is on the tick. -/
theorem down_risk_long_iff {tick stop reference : ℚ} (htick : 0 < tick) (hlosing : stop < reference) :
    |reference - Grid.down tick stop| ≤ |reference - stop| ↔ Grid.OnGrid tick stop := by
  have hle : Grid.down tick stop ≤ stop := Grid.down_le htick
  rw [abs_of_pos (by linarith), abs_of_pos (by linarith)]
  constructor
  · intro hrisk
    have heq : Grid.down tick stop = stop := le_antisymm hle (by linarith)
    rw [← heq]
    exact Grid.onGrid_down
  · intro hgrid
    have hge : stop ≤ Grid.down tick stop := Grid.le_down htick hgrid le_rfl
    linarith

/-- A short stop rounded down does not widen the risk as long as it stays above the reference. -/
theorem down_risk_short {tick stop reference : ℚ} (htick : 0 < tick) (hlosing : reference < Grid.down tick stop) :
    |reference - Grid.down tick stop| ≤ |reference - stop| := by
  have hle : Grid.down tick stop ≤ stop := Grid.down_le htick
  rw [abs_of_neg (by linarith), abs_of_neg (by linarith)]
  linarith

/-- What rounding down does to the stop of either side. -/
theorem stop_kept_iff (hlosing : intent.positionSide.Losing intent.signalReferencePrice intent.protection.stopPrice) :
    (intent.positionSide.Losing intent.signalReferencePrice (Grid.down rules.tickSize intent.protection.stopPrice) ∧
      |intent.signalReferencePrice - Grid.down rules.tickSize intent.protection.stopPrice| ≤
        |intent.signalReferencePrice - intent.protection.stopPrice|) ↔ intent.StopKept rules := by
  unfold TradeIntent.StopKept
  unfold PositionSide.Losing at hlosing ⊢
  cases hside : intent.positionSide with
  | long =>
    simp only [hside] at hlosing ⊢
    rw [down_risk_long_iff rules.tick_pos hlosing]
    exact and_iff_right ((Grid.down_le rules.tick_pos).trans_lt hlosing)
  | short =>
    simp only [hside] at hlosing ⊢
    rw [← Grid.lt_down_iff rules.tick_pos]
    exact and_iff_left_of_imp fun h => down_risk_short rules.tick_pos h
  | flat => simp [hside] at hlosing

end NormalizedStopAux

open NormalizedStopAux

/-- An order the normalizer returns is sound exactly if rounding down keeps the stop. -/
theorem normalize_sound (intent : TradeIntent) (rules : MarketRulesSnapshot) (hexdigest : String → String) (confirmed : Option ℚ)
    {order : NormalizedOrder} (hlosing : intent.positionSide.Losing intent.signalReferencePrice intent.protection.stopPrice)
    (h : intent.normalize rules hexdigest confirmed = .ok order) :
    order.Sound intent rules confirmed ↔ intent.StopKept rules := by
  obtain ⟨quantity, hrequested, hquantity, hstop, hreduce, hbounds, hnotional⟩ := normalize_ok h
  obtain ⟨hpos, htarget, hconfirmed⟩ := requestedQuantity_ok hrequested
  rw [floorToIncrement_of_nonneg hpos.le rules.step_pos] at hquantity
  rw [floorToIncrement_of_nonneg intent.protection.stop_pos.le rules.tick_pos] at hstop
  have hle : order.quantity ≤ quantity := hquantity ▸ Grid.down_le rules.step_pos
  rw [← stop_kept_iff hlosing, ← hstop]
  constructor
  · intro hsound
    exact ⟨hsound.stopLosing, hsound.stopRisk⟩
  · rintro ⟨hstopLosing, hstopRisk⟩
    refine ⟨hquantity ▸ Grid.onGrid_down, hbounds, hle.trans htarget, fun hmode hclosing => ?_, hnotional, ?_,
      ⟨order.stop_pos, hstop ▸ Grid.onGrid_down⟩, hstopLosing, hstopRisk⟩
    · obtain ⟨held, hheld, hcap⟩ := hconfirmed hmode hclosing
      exact ⟨held, hheld, hle.trans hcap⟩
    · rw [hreduce]
      by_cases hmode : rules.positionMode = "ONE_WAY" <;> simp [hmode]

/-- The rules of a market with a tick of 0.1 and a step of 0.001. -/
def sampleRules : MarketRulesSnapshot where
  rulesSnapshotId := "rules-1"
  symbol := "BTC/USDT:USDT"
  marketStatus := "TRADING"
  positionMode := "ONE_WAY"
  marginMode := "CROSS"
  tickSize := 1 / 10
  stepSize := 1 / 1000
  minQuantity := 1 / 1000
  maxQuantity := some 100
  minNotional := 20
  maxNotional := none
  marketActive := true
  tick_pos := by norm_num
  step_pos := SampleLevels.thousandth_pos
  minQuantity_pos := SampleLevels.thousandth_pos
  maxQuantity_pos := by simp
  minNotional_pos := SampleLevels.twenty_pos
  maxNotional_pos := SampleLevels.none_pos

/-- An opening short at 65000.17 with a stop. -/
def sampleShort (stopPrice : ℚ) (hstop : 0 < stopPrice) : TradeIntent where
  intentId := "intent-1"
  symbol := "BTC/USDT:USDT"
  action := .openPosition
  positionSide := .short
  exchangeSide := .sell
  targetQuantity := 39 / 10000
  signalReferencePrice := 6500017 / 100
  protection := { stopPrice, stop_pos := hstop, target_pos := SampleLevels.none_pos }
  quantity_pos := by norm_num
  reference_pos := by norm_num

theorem normalize_sound_wideStop :
    ∃ order, (sampleShort 66000 (by norm_num)).normalize sampleRules id none = .ok order ∧
      order.Sound (sampleShort 66000 (by norm_num)) sampleRules none := by
  have hstop : ((sampleShort 66000 (by norm_num)).normalize sampleRules id none).map (·.stopPrice) = .ok 66000 := by decide +kernel
  obtain ⟨order, horder, -⟩ := Loops.map_eq_ok.mp hstop
  have hlosing : (sampleShort 66000 (by norm_num)).positionSide.Losing (6500017 / 100) 66000 := by
    change (6500017 / 100 : ℚ) < 66000
    norm_num
  refine ⟨order, horder, (normalize_sound _ sampleRules id none hlosing horder).mpr ?_⟩
  change ∃ price, Grid.OnGrid (1 / 10 : ℚ) price ∧ (6500017 / 100 : ℚ) < price ∧ price ≤ 66000
  exact ⟨66000, ⟨660000, by norm_num⟩, by norm_num, le_rfl⟩

/-- A short stop at 65000.19, 0.02 above the reference, is rounded down to 65000.1, below it. -/
theorem normalize_sound_shortStop :
    ∃ order, (sampleShort (6500019 / 100) (by norm_num)).normalize sampleRules id none = .ok order ∧
      (sampleShort (6500019 / 100) (by norm_num)).positionSide.Losing (6500017 / 100) (6500019 / 100) ∧
      ¬order.Sound (sampleShort (6500019 / 100) (by norm_num)) sampleRules none := by
  have hstop : ((sampleShort (6500019 / 100) (by norm_num)).normalize sampleRules id none).map (·.stopPrice) =
      .ok (650001 / 10) := by decide +kernel
  obtain ⟨order, horder, hprice⟩ := Loops.map_eq_ok.mp hstop
  refine ⟨order, horder, ?_, fun hsound => ?_⟩
  · change (6500017 / 100 : ℚ) < 6500019 / 100
    norm_num
  · have hlosing : (6500017 / 100 : ℚ) < order.stopPrice := hsound.stopLosing
    rw [hprice] at hlosing
    norm_num at hlosing

end TradingPlatform
