import Mathlib.Tactic.FieldSimp
import Mathlib.Tactic.Linarith
import Mathlib.Tactic.Ring
import TradingPlatform.Engine.EntrySizing

/-!
# The cost gate over the whole range of funding

The payoff is a quotient whose denominator is the stop distance with the costs added. Funding that is received may make it zero
or negative: the gate raises there, and beyond it a cheaper trade has the lower payoff.
-/

namespace TradingPlatform

/-! ## The statement -/

/-- What the gate is asked about a trade. -/
structure CostedTrade where
  entryPrice : ℚ
  stopDistance : ℚ
  takeProfitDistance : Option ℚ
  commissionBps : ℚ
  rawFundingBps : ℚ
  side : Direction
  slippageBps : ℚ
  entryPrice_pos : 0 < entryPrice
  stopDistance_pos : 0 < stopDistance

/-- The funding of the trade, after its side. -/
def CostedTrade.effectiveFundingBps (t : CostedTrade) : ℚ := resolveEffectiveFundingBps t.rawFundingBps t.side

/-- `resolve_effective_funding_bps` followed by `calculate_cost_gate`. -/
def CostedTrade.gate (t : CostedTrade) : Except PyError CostGateResult :=
  calculateCostGate
    { entryPrice := t.entryPrice, stopDistance := t.stopDistance, takeProfitDistance := t.takeProfitDistance,
      commissionBps := t.commissionBps, effectiveFundingBps := some t.effectiveFundingBps, slippageBps := t.slippageBps }

/-- One cost component is lowered or the target is raised, and all else is equal. -/
inductive CostedTrade.Improved (t : CostedTrade) : CostedTrade → Prop
  | commission (bps : ℚ) (h : bps ≤ t.commissionBps) : t.Improved { t with commissionBps := bps }
  | slippage (bps : ℚ) (h : bps ≤ t.slippageBps) : t.Improved { t with slippageBps := bps }
  | funding (raw : ℚ) (h : resolveEffectiveFundingBps raw t.side ≤ t.effectiveFundingBps) :
      t.Improved { t with rawFundingBps := raw }
  | target (d d' : ℚ) (h : t.takeProfitDistance = some d) (hd : d ≤ d') : t.Improved { t with takeProfitDistance := some d' }

/-- Both trades get a result, a trade that passed still passes, and a planned target above -1 has no lower payoff. -/
structure GateMonotone (t t' : CostedTrade) : Prop where
  total : ∃ r, t.gate = .ok r
  total' : ∃ r, t'.gate = .ok r
  passed : ∀ r r', t.gate = .ok r → t'.gate = .ok r' → r.passed = true → r'.passed = true
  payoff : ∀ r r', t.gate = .ok r → t'.gate = .ok r' → -1 < r.plannedTargetR →
    r.theoreticalNetPayoff ≤ r'.theoreticalNetPayoff

/-- The stop distance with all costs added, in price. -/
def CostedTrade.costedStop (t : CostedTrade) : ℚ :=
  t.stopDistance + (t.commissionBps + t.effectiveFundingBps + t.slippageBps) / 10000 * t.entryPrice

/-- The stop distance with the target distance added. -/
def CostedTrade.reward (t : CostedTrade) : ℚ := t.stopDistance + t.takeProfitDistance.getD 0

/-- The improved trade looks worse to the gate: costs went below the stop distance, or were below it and the target was raised;
or, of a target that loses more than the stop, the quotient of two negatives fell under the minimum. -/
def GateInverted (t t' : CostedTrade) : Prop :=
  (0 < t.reward ∧ t'.costedStop < 0 ∧ (0 < t.costedStop ∨ t.reward < t'.reward)) ∨
    (t.reward ≤ 0 ∧ t.costedStop < 0 ∧ t.reward ≤ (1 + r2MinTheoreticalNetPayoff) * t.costedStop ∧
      (1 + r2MinTheoreticalNetPayoff) * t'.costedStop < t'.reward)

namespace CostGateAux

variable {t t' : CostedTrade}

/-- The costs of a trade in units of its stop distance. -/
def costR (t : CostedTrade) : ℚ :=
  t.commissionBps / 10000 * t.entryPrice / t.stopDistance + t.effectiveFundingBps / 10000 * t.entryPrice / t.stopDistance +
    t.slippageBps / 10000 * t.entryPrice / t.stopDistance

/-- The target of a trade in units of its stop distance. -/
def targetR (t : CostedTrade) : ℚ :=
  match t.takeProfitDistance with
  | some d => d / t.stopDistance
  | none => 0

theorem one_add_costR (t : CostedTrade) : 1 + costR t = t.costedStop / t.stopDistance := by
  have hstop := t.stopDistance_pos.ne'
  unfold costR CostedTrade.costedStop
  field_simp

theorem one_add_targetR (t : CostedTrade) : 1 + targetR t = t.reward / t.stopDistance := by
  have hstop := t.stopDistance_pos.ne'
  unfold targetR CostedTrade.reward
  cases t.takeProfitDistance with
  | none => simp [hstop]
  | some d =>
    change 1 + d / t.stopDistance = (t.stopDistance + d) / t.stopDistance
    rw [add_div, div_self hstop]

/-- The gate divides by the costed stop. -/
theorem gate_eq (t : CostedTrade) : t.gate =
    (decimalDiv (targetR t - costR t) (1 + costR t)).map fun payoff =>
      { costR := costR t, theoreticalNetPayoff := payoff, plannedTargetR := targetR t,
        commissionR := t.commissionBps / 10000 * t.entryPrice / t.stopDistance,
        fundingR := t.effectiveFundingBps / 10000 * t.entryPrice / t.stopDistance,
        slippageR := t.slippageBps / 10000 * t.entryPrice / t.stopDistance,
        passed := decide (r2MinTheoreticalNetPayoff ≤ payoff),
        reason := if decide (r2MinTheoreticalNetPayoff ≤ payoff) then "OK" else "NO_TRADE_COST_INEFFICIENT" } := by
  have hlegal : ¬(t.entryPrice ≤ 0 ∨ t.stopDistance ≤ 0) :=
    not_or.mpr ⟨not_le.mpr t.entryPrice_pos, not_le.mpr t.stopDistance_pos⟩
  unfold CostedTrade.gate calculateCostGate
  rw [if_neg hlegal, if_neg (by simp)]
  change (decimalDiv (targetR t - costR t) (1 + costR t) >>= _) = _
  cases decimalDiv (targetR t - costR t) (1 + costR t) <;> rfl

theorem decimalDiv_payoff (h : t.costedStop ≠ 0) :
    decimalDiv (targetR t - costR t) (1 + costR t) = .ok (t.reward / t.costedStop - 1) := by
  have hstop := t.stopDistance_pos.ne'
  have hne : 1 + costR t ≠ 0 := by
    rw [one_add_costR]
    exact div_ne_zero h hstop
  have hsplit : targetR t - costR t = (1 + targetR t) - (1 + costR t) := by ring
  unfold decimalDiv
  rw [if_neg hne, hsplit, one_add_targetR, one_add_costR, sub_div, div_div_div_cancel_right₀ hstop,
    div_self (div_ne_zero h hstop)]

theorem gate_isOk_iff : (∃ r, t.gate = .ok r) ↔ t.costedStop ≠ 0 := by
  rw [gate_eq]
  constructor
  · rintro ⟨r, hr⟩ hzero
    have hpole : 1 + costR t = 0 := by rw [one_add_costR, hzero, zero_div]
    unfold decimalDiv at hr
    rw [if_pos hpole] at hr
    nomatch hr
  · intro h
    rw [decimalDiv_payoff h]
    exact ⟨_, rfl⟩

/-- The result of a trade: the quotient of its reward and its costed stop, less one. -/
theorem gate_ok {r : CostGateResult} (h : t.gate = .ok r) :
    t.costedStop ≠ 0 ∧ r.theoreticalNetPayoff = t.reward / t.costedStop - 1 ∧
      (r.passed = true ↔ 1 + r2MinTheoreticalNetPayoff ≤ t.reward / t.costedStop) ∧
      (-1 < r.plannedTargetR ↔ 0 < t.reward) := by
  have hne := gate_isOk_iff.mp ⟨r, h⟩
  rw [gate_eq, decimalDiv_payoff hne] at h
  cases h
  refine ⟨hne, rfl, ?_, ?_⟩
  · change decide (r2MinTheoreticalNetPayoff ≤ t.reward / t.costedStop - 1) = true ↔ _
    rw [decide_eq_true_eq]
    constructor <;> intro _ <;> linarith
  · change -1 < targetR t ↔ _
    have hdiv : 0 < 1 + targetR t ↔ 0 < t.reward := by
      rw [one_add_targetR]
      exact div_pos_iff_of_pos_right t.stopDistance_pos
    rw [← hdiv]
    constructor <;> intro _ <;> linarith

/-- An improved trade has no higher costed stop and no lower reward, and one of the two is the same. -/
theorem improved_terms (h : t.Improved t') :
    (t'.costedStop ≤ t.costedStop ∧ t'.reward = t.reward) ∨ (t'.costedStop = t.costedStop ∧ t.reward ≤ t'.reward) := by
  have hprice := t.entryPrice_pos
  cases h with
  | commission bps h =>
    refine .inl ⟨?_, rfl⟩
    unfold CostedTrade.costedStop
    have hle : (bps + t.effectiveFundingBps + t.slippageBps) / 10000 * t.entryPrice ≤
        (t.commissionBps + t.effectiveFundingBps + t.slippageBps) / 10000 * t.entryPrice := by gcongr
    exact add_le_add_right hle _
  | slippage bps h =>
    refine .inl ⟨?_, rfl⟩
    unfold CostedTrade.costedStop
    have hle : (t.commissionBps + t.effectiveFundingBps + bps) / 10000 * t.entryPrice ≤
        (t.commissionBps + t.effectiveFundingBps + t.slippageBps) / 10000 * t.entryPrice := by gcongr
    exact add_le_add_right hle _
  | funding raw h =>
    refine .inl ⟨?_, rfl⟩
    unfold CostedTrade.costedStop
    have hle : (t.commissionBps + resolveEffectiveFundingBps raw t.side + t.slippageBps) / 10000 * t.entryPrice ≤
        (t.commissionBps + t.effectiveFundingBps + t.slippageBps) / 10000 * t.entryPrice := by gcongr
    exact add_le_add_right hle _
  | target d d' h hd =>
    refine .inr ⟨rfl, ?_⟩
    unfold CostedTrade.reward
    rw [h]
    exact add_le_add_right hd _

/-- A quotient of positive terms grows with its numerator and falls with its denominator. Where a term is negative the sign of
the new denominator decides. -/
theorem quotient_kept_iff {g g' d d' m : ℚ} (hd : d ≠ 0) (hd' : d' ≠ 0) (hm : 0 < m)
    (h : (d' ≤ d ∧ g' = g) ∨ (d' = d ∧ g ≤ g')) :
    ((m ≤ g / d → m ≤ g' / d') ∧ (0 < g → g / d ≤ g' / d')) ↔
      ¬((0 < g ∧ d' < 0 ∧ (0 < d ∨ g < g')) ∨ (g ≤ 0 ∧ d < 0 ∧ g ≤ m * d ∧ m * d' < g')) := by
  have hdle : d' ≤ d := by rcases h with h | h <;> linarith [h.1]
  have hgle : g ≤ g' := by rcases h with h | h <;> linarith [h.2]
  rcases lt_or_ge 0 g with hg | hg
  · rcases lt_or_gt_of_ne hd' with hneg' | hpos'
    · rcases lt_or_gt_of_ne hd with hneg | hpos
      · by_cases hraised : g < g'
        · -- both negative and the target raised: the denominator is the same
          have hsame : d' = d := by
            rcases h with h | h
            · exact absurd h.2 hraised.ne'
            · exact h.1
          have hfalls : g' / d' < g / d := by
            rw [hsame]
            exact (div_lt_div_right_of_neg hneg).mpr hraised
          refine ⟨fun hkept => absurd (hkept.2 hg) (not_le.mpr hfalls), fun hnot => absurd (.inl ⟨hg, hneg', .inr hraised⟩) hnot⟩
        · have hsame : g' = g := le_antisymm (not_lt.mp hraised) hgle
          have hrises : g / d ≤ g' / d' := by
            rw [hsame, div_eq_mul_one_div g d, div_eq_mul_one_div g d']
            exact mul_le_mul_of_nonneg_left (one_div_le_one_div_of_neg_of_le hneg hdle) hg.le
          refine iff_of_true ⟨fun hpass => hpass.trans hrises, fun _ => hrises⟩ ?_
          rintro (⟨-, -, hpos | hlt⟩ | ⟨hle, -⟩)
          · exact absurd hpos (not_lt.mpr hneg.le)
          · exact hraised hlt
          · exact absurd hg (not_lt.mpr hle)
      · -- the denominator changed its sign
        have hfalls : g' / d' < g / d :=
          (div_neg_of_pos_of_neg (hg.trans_le hgle) hneg').trans (div_pos hg hpos)
        refine ⟨fun hkept => absurd (hkept.2 hg) (not_le.mpr hfalls), fun hnot => absurd (.inl ⟨hg, hneg', .inl hpos⟩) hnot⟩
    · have hrises : g / d ≤ g' / d' := div_le_div₀ (hg.le.trans hgle) hgle hpos' hdle
      refine iff_of_true ⟨fun hpass => hpass.trans hrises, fun _ => hrises⟩ ?_
      rintro (⟨-, hneg, -⟩ | ⟨hle, -⟩)
      · exact absurd hpos' (not_lt.mpr hneg.le)
      · exact absurd hg (not_lt.mpr hle)
  · rcases lt_or_gt_of_ne hd with hneg | hpos
    · rw [le_div_iff_of_neg hneg, le_div_iff_of_neg (hdle.trans_lt hneg)]
      constructor
      · rintro ⟨hpass, -⟩ (⟨hpos, -⟩ | ⟨-, -, hwas, hnow⟩)
        · exact absurd hpos (not_lt.mpr hg)
        · exact absurd (hpass hwas) (not_le.mpr hnow)
      · intro hnot
        refine ⟨fun hwas => ?_, fun hpos => absurd hpos (not_lt.mpr hg)⟩
        by_contra hnow
        exact hnot (.inr ⟨hg, hneg, hwas, not_le.mp hnow⟩)
    · have hfail : g / d < m := (div_nonpos_of_nonpos_of_nonneg hg hpos.le).trans_lt hm
      refine iff_of_true ⟨fun hpass => absurd hpass (not_le.mpr hfail), fun hpos' => absurd hpos' (not_lt.mpr hg)⟩ ?_
      rintro (⟨hpos', -⟩ | ⟨-, hneg, -⟩)
      · exact absurd hpos' (not_lt.mpr hg)
      · exact absurd hpos (not_lt.mpr hneg.le)

/-- The gate keeps its verdict and its payoff exactly if the quotients are kept. -/
theorem gateMonotone_iff_quotients : GateMonotone t t' ↔ (t.costedStop ≠ 0 ∧ t'.costedStop ≠ 0) ∧
    (1 + r2MinTheoreticalNetPayoff ≤ t.reward / t.costedStop → 1 + r2MinTheoreticalNetPayoff ≤ t'.reward / t'.costedStop) ∧
      (0 < t.reward → t.reward / t.costedStop ≤ t'.reward / t'.costedStop) := by
  constructor
  · intro hmono
    obtain ⟨r, hr⟩ := hmono.total
    obtain ⟨r', hr'⟩ := hmono.total'
    obtain ⟨hd, hpayoff, hpassed, htarget⟩ := gate_ok hr
    obtain ⟨hd', hpayoff', hpassed', -⟩ := gate_ok hr'
    refine ⟨⟨hd, hd'⟩, fun hpass => hpassed'.mp (hmono.passed r r' hr hr' (hpassed.mpr hpass)), fun hpos => ?_⟩
    have hle := hmono.payoff r r' hr hr' (htarget.mpr hpos)
    rw [hpayoff, hpayoff'] at hle
    linarith
  · rintro ⟨⟨hd, hd'⟩, hpass, hrises⟩
    refine ⟨gate_isOk_iff.mpr hd, gate_isOk_iff.mpr hd', fun r r' hr hr' hp => ?_, fun r r' hr hr' hp => ?_⟩
    · obtain ⟨-, -, hpassed, -⟩ := gate_ok hr
      obtain ⟨-, -, hpassed', -⟩ := gate_ok hr'
      exact hpassed'.mpr (hpass (hpassed.mp hp))
    · obtain ⟨-, hpayoff, -, htarget⟩ := gate_ok hr
      obtain ⟨-, hpayoff', -, -⟩ := gate_ok hr'
      rw [hpayoff, hpayoff']
      linarith [hrises (htarget.mp hp)]

theorem minimum_pos : (0 : ℚ) < 1 + r2MinTheoreticalNetPayoff := by norm_num [r2MinTheoreticalNetPayoff]

end CostGateAux

open CostGateAux

/-- A long at 100 with a stop of one and a target of three, under the given funding. -/
def longTrade (rawFundingBps : ℚ) : CostedTrade where
  entryPrice := 100
  stopDistance := 1
  takeProfitDistance := some 3
  commissionBps := 10
  rawFundingBps := rawFundingBps
  side := .long
  slippageBps := 6
  entryPrice_pos := by norm_num
  stopDistance_pos := by norm_num

end TradingPlatform
