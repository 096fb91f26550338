import Mathlib.Tactic.Ring
import TradingPlatform.Domain.Gain
import TradingPlatform.Engine.ExitModels

/-!
# The geometry of exit plans

A plan is sound when its stop is positive and on the losing side of the entry, and its targets lie one behind the other on the
winning side. The models with a fixed multiple always plan so. A breakout does if the entry lies beyond the structure its stop is
drawn to, and a mean reversion if the frame is long enough and the mean lies ahead of the entry.
-/

namespace TradingPlatform

/-- The stop and the targets are where they belong. -/
structure ExitPlan.Sound (plan : ExitPlan) (side : Direction) (entryPrice : ℚ) : Prop where
  stop_pos : 0 < plan.initialStop
  stop_losing : side.gain entryPrice plan.initialStop < 0
  target_winning : ∃ t ∈ plan.target1, 0 < side.gain entryPrice t
  targets_ordered : ∀ t ∈ plan.target1, ∃ t' ∈ plan.target2, side.gain entryPrice t ≤ side.gain entryPrice t'

/-- The extreme of the structure that the stop of a breakout is drawn to. -/
def structureExtreme (frame : List OHLCVBar) : Direction → ℚ
  | .long => structureLow frame
  | .short => structureHigh frame

/-- The entry lies right to what the model of the family reads from the frame. -/
def FrameFits (family : StrategyFamily) (side : Direction) (entryPrice : ℚ) (frame : List OHLCVBar) : Prop :=
  match family with
  | .trendPullback | .momentumContinuation => True
  | .breakout | .unknown => frame.length < 20 ∨ side.gain entryPrice (structureExtreme frame side) < 0
  | .rangeMeanReversion => 22 ≤ frame.length ∧ 0 < side.gain entryPrice (recentMean 20 frame)

namespace ExitGeometryAux

variable {side : Direction} {entryPrice atr share : ℚ} {frame : List OHLCVBar} {plan : ExitPlan} {m : MultipleParams}

/-! ## Targets that are multiples of the risk -/

/-- When the targets are growing multiples of the distance to the stop, the stop decides. -/
theorem sound_iff_of_multiples {t₁ t₂ r₁ r₂ : ℚ} (htarget₁ : plan.target1 = some t₁) (htarget₂ : plan.target2 = some t₂)
    (hgain₁ : side.gain entryPrice t₁ = -side.gain entryPrice plan.initialStop * r₁)
    (hgain₂ : side.gain entryPrice t₂ = -side.gain entryPrice plan.initialStop * r₂) (hr : 0 < r₁) (hle : r₁ ≤ r₂) :
    plan.Sound side entryPrice ↔ 0 < plan.initialStop ∧ side.gain entryPrice plan.initialStop < 0 := by
  constructor
  · exact fun h => ⟨h.stop_pos, h.stop_losing⟩
  · rintro ⟨hpos, hlosing⟩
    have hrisk : 0 < -side.gain entryPrice plan.initialStop := neg_pos.mpr hlosing
    refine ⟨hpos, hlosing, ⟨t₁, htarget₁, ?_⟩, fun t ht => ⟨t₂, htarget₂, ?_⟩⟩
    · rw [hgain₁]
      exact mul_pos hrisk hr
    · obtain rfl : t₁ = t := Option.some.inj (htarget₁.symm.trans ht)
      rw [hgain₁, hgain₂]
      exact mul_le_mul_of_nonneg_left hle hrisk.le

/-- The distance of the stop is positive and less than the entry price. -/
theorem stopDistance_bounds (hentry : 0 < entryPrice) (hatr : 0 < atr) (hsmall : atr < entryPrice / 2) (hshare : 0 < share)
    (hone : share < 1) (hmultiple : 0 < m.stopAtrMultiple) (htwo : m.stopAtrMultiple ≤ 2) :
    0 < m.stopDistance share atr frame entryPrice ∧ m.stopDistance share atr frame entryPrice < entryPrice := by
  unfold MultipleParams.stopDistance
  split
  · exact ⟨mul_pos hentry hshare, mul_lt_of_lt_one_right hentry hone⟩
  · have hle : atr * m.stopAtrMultiple ≤ atr * 2 := mul_le_mul_of_nonneg_left htwo hatr.le
    refine ⟨mul_pos hatr hmultiple, ?_⟩
    linarith

/-- A fixed multiple of the risk makes a sound plan. -/
theorem plan_sound (exitReason : String) (hr : 0 < m.target1R) (hle : m.target1R ≤ m.target2R)
    (hbounds : 0 < m.stopDistance share atr frame entryPrice ∧ m.stopDistance share atr frame entryPrice < entryPrice) :
    (m.plan share exitReason atr frame side entryPrice).Sound side entryPrice := by
  obtain ⟨hpos, hlt⟩ := hbounds
  cases side with
  | long =>
    refine (sound_iff_of_multiples rfl rfl ?_ ?_ hr hle).mpr ⟨?_, ?_⟩
    all_goals simp only [MultipleParams.plan, Direction.gain]
    · ring
    · ring
    · exact sub_pos.mpr hlt
    · linarith
  | short =>
    refine (sound_iff_of_multiples rfl rfl ?_ ?_ hr hle).mpr ⟨?_, ?_⟩
    all_goals simp only [MultipleParams.plan, Direction.gain]
    · ring
    · ring
    · linarith
    · linarith

/-! ## The breakout -/

/-- The stop of a breakout is sound exactly if the structure lies on its side of the entry. -/
theorem breakoutStop_iff
    (hbounds : 0 < m.stopDistance (15 / 1000) atr frame entryPrice ∧
      m.stopDistance (15 / 1000) atr frame entryPrice < entryPrice) :
    (0 < m.breakoutStop atr frame side entryPrice ∧ side.gain entryPrice (m.breakoutStop atr frame side entryPrice) < 0) ↔
      (frame.length < 20 ∨ side.gain entryPrice (structureExtreme frame side) < 0) := by
  obtain ⟨hpos, hlt⟩ := hbounds
  unfold MultipleParams.breakoutStop structureExtreme
  cases side with
  | long =>
    simp only [Direction.gain]
    by_cases hlength : 20 ≤ frame.length
    · rw [if_pos hlength, sub_neg, sub_neg, max_lt_iff]
      constructor
      · rintro ⟨-, hlow, -⟩
        exact .inr hlow
      · rintro (hshort | hlow)
        · omega
        · exact ⟨lt_max_of_lt_right (sub_pos.mpr hlt), hlow, by linarith⟩
    · rw [if_neg hlength]
      exact iff_of_true ⟨sub_pos.mpr hlt, by linarith⟩ (.inl (Nat.not_le.mp hlength))
  | short =>
    simp only [Direction.gain]
    by_cases hlength : 20 ≤ frame.length
    · rw [if_pos hlength, sub_neg, sub_neg]
      constructor
      · rintro ⟨-, hlosing⟩
        exact .inr (lt_min_iff.mp hlosing).1
      · rintro (hshort | hhigh)
        · omega
        · exact ⟨lt_min (by linarith) (by linarith), lt_min hhigh (by linarith)⟩
    · rw [if_neg hlength]
      exact iff_of_true ⟨by linarith, by linarith⟩ (.inl (Nat.not_le.mp hlength))

theorem breakoutPlan_sound_iff (hr : 0 < m.target1R) (hle : m.target1R ≤ m.target2R)
    (hbounds : 0 < m.stopDistance (15 / 1000) atr frame entryPrice ∧
      m.stopDistance (15 / 1000) atr frame entryPrice < entryPrice) :
    (m.breakoutPlan atr frame side entryPrice).Sound side entryPrice ↔
      (frame.length < 20 ∨ side.gain entryPrice (structureExtreme frame side) < 0) := by
  rw [← breakoutStop_iff hbounds]
  cases side with
  | long =>
    refine sound_iff_of_multiples rfl rfl ?_ ?_ hr hle
    all_goals
      simp only [MultipleParams.breakoutPlan, Direction.gain]
      ring
  | short =>
    refine sound_iff_of_multiples rfl rfl ?_ ?_ hr hle
    all_goals
      simp only [MultipleParams.breakoutPlan, Direction.gain]
      ring

/-! ## The mean reversion -/

/-- Around a middle the plan is sound exactly if the middle lies ahead of the entry. -/
theorem rangePlan_sound_iff {m : RangeMeanReversionExit} {stopDistance mid : ℚ}
    (hlevels : m.levels atr frame entryPrice = (stopDistance, mid)) (hpos : 0 < stopDistance) (hlt : stopDistance < entryPrice) :
    (m.plan atr frame side entryPrice).Sound side entryPrice ↔ 0 < side.gain entryPrice mid := by
  have htarget : (m.plan atr frame side entryPrice).target1 = some mid := by simp [RangeMeanReversionExit.plan, hlevels]
  constructor
  · intro h
    obtain ⟨t, ht, hwins⟩ := h.target_winning
    obtain rfl : mid = t := Option.some.inj (htarget.symm.trans ht)
    exact hwins
  · intro hahead
    cases side with
    | long =>
      simp only [Direction.gain] at hahead
      refine ⟨?_, ?_, ⟨mid, htarget, hahead⟩, fun t ht => ⟨mid + (mid - entryPrice), ?_, ?_⟩⟩
      · simp only [RangeMeanReversionExit.plan, hlevels]
        exact sub_pos.mpr hlt
      · simp only [RangeMeanReversionExit.plan, hlevels, Direction.gain]
        linarith
      · simp [RangeMeanReversionExit.plan, hlevels]
      · obtain rfl : mid = t := Option.some.inj (htarget.symm.trans ht)
        simp only [Direction.gain]
        linarith
    | short =>
      simp only [Direction.gain] at hahead
      refine ⟨?_, ?_, ⟨mid, htarget, hahead⟩, fun t ht => ⟨mid - (entryPrice - mid), ?_, ?_⟩⟩
      · simp only [RangeMeanReversionExit.plan, hlevels]
        linarith
      · simp only [RangeMeanReversionExit.plan, hlevels, Direction.gain]
        linarith
      · simp [RangeMeanReversionExit.plan, hlevels]
      · obtain rfl : mid = t := Option.some.inj (htarget.symm.trans ht)
        simp only [Direction.gain]
        linarith

/-- The mean of a frame that is too short is taken to be the entry itself. -/
theorem rangePlan_default_iff (hatr : 0 < atr) (hsmall : atr < entryPrice / 2) :
    ((({} : RangeMeanReversionExit).plan atr frame side entryPrice).Sound side entryPrice) ↔
      (22 ≤ frame.length ∧ 0 < side.gain entryPrice (recentMean 20 frame)) := by
  have hlevels : ({} : RangeMeanReversionExit).levels atr frame entryPrice =
      if frame.length < 22 then (entryPrice * (2 / 100), entryPrice) else (atr * (15 / 10), recentMean 20 frame) := rfl
  by_cases hshort : frame.length < 22
  · rw [if_pos hshort] at hlevels
    rw [rangePlan_sound_iff hlevels (by linarith) (by linarith), Direction.gain_self]
    exact iff_of_false (lt_irrefl 0) fun h => Nat.not_le.mpr hshort h.1
  · rw [if_neg hshort] at hlevels
    rw [rangePlan_sound_iff hlevels (by linarith) (by linarith)]
    exact (and_iff_right (Nat.not_lt.mp hshort)).symm

/-! ## Every family -/

theorem planAt_sound_iff (family : StrategyFamily) (side : Direction) (hentry : 0 < entryPrice) (hatr : 0 < atr)
    (hsmall : atr < entryPrice / 2) (frame : List OHLCVBar) :
    ((getExitModel family).planAt atr frame side entryPrice).Sound side entryPrice ↔
      FrameFits family side entryPrice frame := by
  have hbounds : ∀ (m : MultipleParams) (share : ℚ), 0 < share → share < 1 → 0 < m.stopAtrMultiple → m.stopAtrMultiple ≤ 2 →
      0 < m.stopDistance share atr frame entryPrice ∧ m.stopDistance share atr frame entryPrice < entryPrice :=
    fun _ _ hshare hone => stopDistance_bounds hentry hatr hsmall hshare hone
  cases family with
  | trendPullback =>
    refine iff_of_true (plan_sound _ ?_ ?_ (hbounds trendPullbackExit _ ?_ ?_ ?_ ?_)) trivial
    all_goals norm_num [trendPullbackExit]
  | momentumContinuation =>
    refine iff_of_true (plan_sound _ ?_ ?_ (hbounds momentumContinuationExit _ ?_ ?_ ?_ ?_)) trivial
    all_goals norm_num [momentumContinuationExit]
  | rangeMeanReversion => exact rangePlan_default_iff hatr hsmall
  | breakout =>
    refine breakoutPlan_sound_iff ?_ ?_ (hbounds breakoutExit _ ?_ ?_ ?_ ?_)
    all_goals norm_num [breakoutExit]
  | unknown =>
    refine breakoutPlan_sound_iff ?_ ?_ (hbounds breakoutExit _ ?_ ?_ ?_ ?_)
    all_goals norm_num [breakoutExit]

end ExitGeometryAux

open ExitGeometryAux

/-- For every average true range below half of the entry price, the plan of a family is sound exactly if the entry lies right to
what its model reads from the frame. -/
theorem exitPlan_sound_iff (family : StrategyFamily) (side : Direction) {entryPrice atr : ℚ} (hentry : 0 < entryPrice)
    (hatr : 0 < atr) (hsmall : atr < entryPrice / 2) (frame : List OHLCVBar) :
    ((getExitModel family).planAt atr frame side entryPrice).Sound side entryPrice ↔
      FrameFits family side entryPrice frame :=
  planAt_sound_iff family side hentry hatr hsmall frame

/-- The same for the average true range of the frame. -/
theorem generateExitPlan_sound_iff (family : StrategyFamily) (side : Direction) {entryPrice atr : ℚ} (hentry : 0 < entryPrice)
    {frame : List OHLCVBar} (hread : calculateAtr (getExitModel family).atrPeriod frame = some atr) (hatr : 0 < atr)
    (hsmall : atr < entryPrice / 2) :
    ((getExitModel family).generateExitPlan frame side entryPrice).Sound side entryPrice ↔
      FrameFits family side entryPrice frame := by
  unfold ExitModel.generateExitPlan
  rw [hread]
  exact planAt_sound_iff family side hentry hatr hsmall frame

/-! ## Plans that are not sound -/

namespace ExitGeometryAux

/-- A bar between 101 and 103. -/
def quietBar : OHLCVBar := { timestamp := 0, openPrice := 102, high := 103, low := 101, close := 102, volume := 1 }

end ExitGeometryAux

/-- A breakout bought at 100 under twenty bars that held 101 has its stop at 101, and a reversion bought on a short frame has its
target at the entry. -/
theorem exitPlan_unsound :
    (∃ plan, plan = (getExitModel .breakout).planAt 2 (List.replicate 20 quietBar) .long 100 ∧ plan.initialStop = 101 ∧
      ¬plan.Sound .long 100) ∧
    (∃ plan, plan = (getExitModel .rangeMeanReversion).planAt 2 [] .long 100 ∧ plan.target1 = some 100 ∧
      ¬plan.Sound .long 100) := by
  have hstop : ((getExitModel .breakout).planAt 2 (List.replicate 20 quietBar) .long 100).initialStop = 101 := by
    decide +kernel
  have htarget : ((getExitModel .rangeMeanReversion).planAt 2 [] .long 100).target1 = some 100 := by decide +kernel
  refine ⟨⟨_, rfl, hstop, fun h => ?_⟩, ⟨_, rfl, htarget, fun h => ?_⟩⟩
  · have hlosing := h.stop_losing
    rw [hstop] at hlosing
    norm_num [Direction.gain] at hlosing
  · obtain ⟨t, ht, hwins⟩ := h.target_winning
    obtain rfl : 100 = t := Option.some.inj (htarget.symm.trans ht)
    rw [Direction.gain_self] at hwins
    exact lt_irrefl 0 hwins

/-- A breakout bought at 104 over those bars is planned soundly. -/
theorem exitPlan_sound_iff_breakout :
    ((getExitModel .breakout).planAt 2 (List.replicate 20 quietBar) .long 104).Sound .long 104 := by
  refine (exitPlan_sound_iff .breakout .long (by norm_num) (by norm_num) (by norm_num) _).mpr (.inr ?_)
  decide +kernel

end TradingPlatform
