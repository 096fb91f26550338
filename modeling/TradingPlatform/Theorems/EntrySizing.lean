import TradingPlatform.Engine.EntrySizing
import TradingPlatform.Lemmas.CycleExit
import TradingPlatform.Theorems.EntrySubmission

/-!
# The sizing law of an entry

The quantity of an entry is its notional over the price, floored to the step, and the notional is a minimum over ceilings. The
equity they are taken of is never below one, so an account with less than one unit is sized as if it had one.
-/

namespace TradingPlatform

open Grid

/-! ## The statement -/

/-- The bounds on the quantity of an entry under an equity. A bound that is negative stands for zero. -/
structure SizedWithin (equity : ℚ) (r : SizingRequest) (snapshot : AuthoritativeAccountSnapshot) (candidate : TradeCandidate)
    (price q : ℚ) : Prop where
  position : q * price ≤ max 0 (equity * r.maxPositionFraction)
  marginBudget : q * price ≤ max 0 (equity * r.maxMarginFraction * r.maxLeverage)
  margin : q * price ≤ max 0 (equity * r.maxLeverage)
  risk : r.orderNotionalUsdt = none → r.isTestnetCanarySampling candidate = false →
    q * candidate.stopDistance ≤ max 0 (equity * r.riskPerTrade)
  exposure : r.isTestnetCanarySampling candidate = true → 0 < q →
    q * price + snapshot.committedNotional ≤ equity * r.canaryTotalExposureFraction

/-- The candidate with another stop distance. -/
def TradeCandidate.withStop (c : TradeCandidate) (d : ℚ) (h : 0 < d) : TradeCandidate :=
  { c with stopDistance := d, stopDistance_pos := h }

namespace SizingAux

variable {r : SizingRequest} {snapshot : AuthoritativeAccountSnapshot} {candidate : TradeCandidate} {x y stepSize price q : ℚ}

/-- What is left of a negative quantity is not positive. -/
theorem truncate_nonpos (h : x ≤ 0) : truncate x ≤ 0 := by
  have hnum : 0 ≤ -x.num := neg_nonneg.mpr (Rat.num_nonpos.mpr h)
  have htdiv : 0 ≤ (-x.num).tdiv x.den := Int.tdiv_nonneg hnum (Int.natCast_nonneg _)
  rw [Int.neg_tdiv] at htdiv
  exact neg_nonneg.mp htdiv

/-- Of a quantity that is rounded, what is positive is rounded down. -/
theorem positive_round (h : roundQuantityToStep x stepSize = .ok q) : 0 < stepSize ∧ max 0 q = down stepSize (max 0 x) := by
  unfold roundQuantityToStep at h
  split at h
  · nomatch h
  rename_i hstep
  have hpos := not_le.mp hstep
  cases h
  refine ⟨hpos, ?_⟩
  rcases le_total 0 x with hx | hx
  · have hquotient : 0 ≤ x / stepSize := div_nonneg hx hpos.le
    rw [max_eq_right hx, truncate_of_nonneg hquotient]
    exact max_eq_right (down_nonneg hpos hx)
  · have hquotient : x / stepSize ≤ 0 := div_nonpos_of_nonpos_of_nonneg hx hpos.le
    have hround : (truncate (x / stepSize) : ℚ) * stepSize ≤ 0 :=
      mul_nonpos_of_nonpos_of_nonneg (Int.cast_nonpos.mpr (truncate_nonpos hquotient)) hpos.le
    rw [max_eq_left hx, max_eq_left hround]
    unfold down
    rw [zero_div, Int.floor_zero, Int.cast_zero, zero_mul]

/-- The value of a rounded quantity is within the notional it was taken of. -/
theorem round_mul_le {notional : ℚ} (hprice : 0 < price) (h : roundQuantityToStep (notional / price) stepSize = .ok q) :
    q * price ≤ max 0 notional := by
  obtain ⟨hstep, hround⟩ := positive_round h
  have hq : q ≤ max 0 (notional / price) := (le_max_right 0 q).trans (hround.le.trans (down_le hstep))
  calc q * price ≤ max 0 (notional / price) * price := mul_le_mul_of_nonneg_right hq hprice.le
    _ = max 0 notional := by rw [max_mul_of_nonneg _ _ hprice.le, zero_mul, div_mul_cancel₀ _ hprice.ne']

/-- A smaller notional makes no larger quantity. -/
theorem round_antitone {notional notional' q' : ℚ} (hprice : 0 < price) (hle : max 0 notional' ≤ max 0 notional)
    (h : roundQuantityToStep (notional / price) stepSize = .ok q)
    (h' : roundQuantityToStep (notional' / price) stepSize = .ok q') : max 0 q' ≤ max 0 q := by
  obtain ⟨hstep, hround⟩ := positive_round h
  obtain ⟨-, hround'⟩ := positive_round h'
  rw [hround, hround']
  refine down_mono hstep ?_
  have hdiv : ∀ n : ℚ, max 0 (n / price) = max 0 n / price := fun n => by
    rw [max_div_div_right hprice.le 0 n |>.symm, zero_div]
  rw [hdiv, hdiv]
  exact div_le_div_of_nonneg_right hle hprice.le

/-! ### The notional -/

theorem sizedEquity_ge : 1 ≤ snapshot.sizedEquity := le_max_right _ _

/-- No branch of the sizing exceeds a ceiling of the request. -/
theorem calculateQuantity_le (r : SizingRequest) (snapshot : AuthoritativeAccountSnapshot) (candidate : TradeCandidate)
    (d p : Option ℚ) :
    calculateQuantity r snapshot d p candidate ≤ snapshot.sizedEquity * r.maxPositionFraction ∧
    calculateQuantity r snapshot d p candidate ≤ snapshot.sizedEquity * r.maxMarginFraction * r.maxLeverage ∧
    calculateQuantity r snapshot d p candidate ≤ snapshot.sizedEquity * r.maxLeverage := by
  have hequity : 1 ≤ snapshot.sizedEquity := sizedEquity_ge
  -- the ceiling of the contract is below the default of the request that it stands for
  have hcanary : (if r.maxPositionFraction = 3 / 2 then snapshot.sizedEquity * canaryMaxSymbolExposure
      else snapshot.sizedEquity * r.maxPositionFraction) ≤ snapshot.sizedEquity * r.maxPositionFraction := by
    split
    · rename_i hdefault
      rw [hdefault]
      refine mul_le_mul_of_nonneg_left ?_ (zero_le_one.trans hequity)
      unfold canaryMaxSymbolExposure
      norm_num
    · exact le_rfl
  have hthree : ∀ t a b c a' : ℚ, a ≤ a' → min (min (min t a) b) c ≤ a' ∧ min (min (min t a) b) c ≤ b ∧
      min (min (min t a) b) c ≤ c := fun t a b c a' ha =>
    ⟨((min_le_left _ _).trans ((min_le_left _ _).trans (min_le_right _ _))).trans ha,
      (min_le_left _ _).trans (min_le_right _ _), min_le_right _ _⟩
  unfold calculateQuantity
  dsimp only
  split
  · refine ⟨?_, (min_le_left _ _).trans (min_le_right _ _), min_le_right _ _⟩
    refine (min_le_left _ _).trans ((min_le_left _ _).trans ((min_le_left _ _).trans ?_))
    exact (min_le_right _ _).trans hcanary
  · split
    · exact hthree _ _ _ _ _ le_rfl
    · split
      · exact hthree _ _ _ _ _ le_rfl
      · split
        · exact hthree _ _ _ _ _ le_rfl
        · exact hthree _ _ _ _ _ le_rfl

/-- In the canary lane the notional is within what the open positions leave of the exposure. -/
theorem calculateQuantity_canary (d p : Option ℚ) (h : r.isTestnetCanarySampling candidate = true) :
    calculateQuantity r snapshot d p candidate ≤
      max (snapshot.sizedEquity * r.canaryTotalExposureFraction - snapshot.committedNotional) 0 := by
  unfold calculateQuantity
  dsimp only
  rw [if_pos h]
  exact (min_le_left _ _).trans ((min_le_left _ _).trans (min_le_right _ _))

/-- Sized by risk, the notional is the least of the risk notional and the ceilings. -/
theorem calculateQuantity_risk {d : ℚ} (hd : 0 < d) (hprice : 0 < price) (hnone : r.orderNotionalUsdt = none)
    (hlane : r.isTestnetCanarySampling candidate = false) :
    calculateQuantity r snapshot (some d) (some price) candidate =
      min (min (min (snapshot.sizedEquity * r.riskPerTrade / (d / price)) (snapshot.sizedEquity * r.maxPositionFraction))
        (snapshot.sizedEquity * r.maxMarginFraction * r.maxLeverage)) (snapshot.sizedEquity * r.maxLeverage) := by
  unfold calculateQuantity
  dsimp only
  rw [if_neg (by simp [hlane]), hnone]
  dsimp only
  rw [if_pos ⟨hprice, hd⟩]
  dsimp only
  rw [if_neg (not_le.mpr (div_pos hd hprice))]

/-- Outside the sizing by risk the stop distance is not read. -/
theorem calculateQuantity_unread {d d' : ℚ}
    (h : r.isTestnetCanarySampling candidate = true ∨ r.orderNotionalUsdt ≠ none) :
    calculateQuantity r snapshot (some d') (some price) candidate =
      calculateQuantity r snapshot (some d) (some price) candidate := by
  unfold calculateQuantity
  dsimp only
  rcases h with hlane | hpinned
  · rw [if_pos hlane, if_pos hlane]
  · obtain ⟨n, hn⟩ := Option.ne_none_iff_exists'.mp hpinned
    rw [hn]

/-- A wider stop makes no larger notional. -/
theorem calculateQuantity_antitone {d d' : ℚ} (hd : 0 < d) (hle : d ≤ d') (hprice : 0 < price) :
    max 0 (calculateQuantity r snapshot (some d') (some price) candidate) ≤
      max 0 (calculateQuantity r snapshot (some d) (some price) candidate) := by
  by_cases hread : r.isTestnetCanarySampling candidate = true ∨ r.orderNotionalUsdt ≠ none
  · rw [calculateQuantity_unread hread]
  obtain ⟨hlane, hnone⟩ := not_or.mp hread
  rw [calculateQuantity_risk hd hprice (not_not.mp hnone) (Bool.eq_false_iff.mpr hlane),
    calculateQuantity_risk (hd.trans_le hle) hprice (not_not.mp hnone) (Bool.eq_false_iff.mpr hlane)]
  have hfraction : d / price ≤ d' / price := div_le_div_of_nonneg_right hle hprice.le
  rcases le_total 0 (snapshot.sizedEquity * r.riskPerTrade) with hbudget | hbudget
  · have hrisk : snapshot.sizedEquity * r.riskPerTrade / (d' / price) ≤
        snapshot.sizedEquity * r.riskPerTrade / (d / price) :=
      div_le_div_of_nonneg_left hbudget (div_pos hd hprice) hfraction
    exact max_le_max le_rfl (min_le_min (min_le_min (min_le_min hrisk le_rfl) le_rfl) le_rfl)
  · -- no budget for a loss leaves no notional at any stop
    have hnothing : snapshot.sizedEquity * r.riskPerTrade / (d' / price) ≤ 0 :=
      div_nonpos_of_nonpos_of_nonneg hbudget (div_pos (hd.trans_le hle) hprice).le
    refine (max_le le_rfl ?_).trans (le_max_left 0 _)
    exact ((min_le_left _ _).trans ((min_le_left _ _).trans (min_le_left _ _))).trans hnothing

/-- Sized by risk, the loss at the stop is within the risk budget. -/
theorem risk_of_quantity (hprice : 0 < price) (hnone : r.orderNotionalUsdt = none)
    (hlane : r.isTestnetCanarySampling candidate = false)
    (h : roundQuantityToStep (calculateQuantity r snapshot (some candidate.stopDistance) (some price) candidate / price)
      stepSize = .ok q) :
    q * candidate.stopDistance ≤ max 0 (snapshot.sizedEquity * r.riskPerTrade) := by
  have hd := candidate.stopDistance_pos
  have hfraction : 0 < candidate.stopDistance / price := div_pos hd hprice
  have hnotional : calculateQuantity r snapshot (some candidate.stopDistance) (some price) candidate ≤
      snapshot.sizedEquity * r.riskPerTrade / (candidate.stopDistance / price) := by
    rw [calculateQuantity_risk hd hprice hnone hlane]
    exact (min_le_left _ _).trans ((min_le_left _ _).trans (min_le_left _ _))
  calc q * candidate.stopDistance = q * price * (candidate.stopDistance / price) := by
        rw [mul_assoc, mul_div_cancel₀ _ hprice.ne']
    _ ≤ max 0 (snapshot.sizedEquity * r.riskPerTrade / (candidate.stopDistance / price)) *
          (candidate.stopDistance / price) :=
        mul_le_mul_of_nonneg_right ((round_mul_le hprice h).trans (max_le_max le_rfl hnotional)) hfraction.le
    _ = max 0 (snapshot.sizedEquity * r.riskPerTrade) := by
        rw [max_mul_of_nonneg _ _ hfraction.le, zero_mul, div_mul_cancel₀ _ hfraction.ne']

end SizingAux

open SizingAux

/-! ## The law -/

/-- The quantity of an entry is within every bound under the sized equity, and a wider stop makes no larger order. -/
theorem entryQuantity_sized (r : SizingRequest) (snapshot : AuthoritativeAccountSnapshot) (candidate : TradeCandidate)
    (market : PreSubmitMarketSnapshot) (q : ℚ) (hprice : 0 < market.currentPrice)
    (hq : entryQuantity r snapshot candidate market = .ok q) :
    SizedWithin snapshot.sizedEquity r snapshot candidate market.currentPrice q ∧
    ∀ d (hd : 0 < d) q', candidate.stopDistance ≤ d →
      entryQuantity r snapshot (candidate.withStop d hd) market = .ok q' → max 0 q' ≤ max 0 q := by
  obtain ⟨hposition, hbudget, hmargin⟩ := calculateQuantity_le r snapshot candidate (some candidate.stopDistance)
    (some market.currentPrice)
  have hvalue := round_mul_le hprice hq
  refine ⟨⟨?_, ?_, ?_, ?_, ?_⟩, ?_⟩
  · exact hvalue.trans (max_le_max le_rfl hposition)
  · exact hvalue.trans (max_le_max le_rfl hbudget)
  · exact hvalue.trans (max_le_max le_rfl hmargin)
  · exact fun hnone hlane => risk_of_quantity hprice hnone hlane hq
  · intro hlane hpos
    have hremaining := hvalue.trans (max_le_max le_rfl (calculateQuantity_canary _ _ hlane))
    rw [max_eq_right (le_max_right _ _)] at hremaining
    rcases le_max_iff.mp hremaining with hleft | hleft
    · linarith
    · exact absurd (mul_pos hpos hprice) (not_lt.mpr hleft)
  · intro d hd q' hle hq'
    exact round_antitone hprice (calculateQuantity_antitone candidate.stopDistance_pos hle hprice) hq hq'

/-! ## Small accounts and negative limits -/

/-- A request of the testnet with its defaults. -/
def sampleSizing : SizingRequest where
  symbol := "BTC/USDT"
  executionMode := .binanceTestnet

/-- An account with half a unit is sized as one with a whole unit. -/
theorem sized_smallAccount :
    entryQuantity sampleSizing { equity := 1 / 2 } (sampleCandidate "BTC/USDT") sampleOrder.snapshot = .ok (15 / 1000) := by
  decide +kernel

/-- The half unit allows half the position, a small negative limit is floored to zero, and a negative risk is sized larger the
wider the stop is. -/
theorem entryQuantity_sized_false :
    (¬∀ (r : SizingRequest) (snapshot : AuthoritativeAccountSnapshot) (candidate : TradeCandidate)
        (market : PreSubmitMarketSnapshot) (q : ℚ), 0 < snapshot.equity → 0 < market.currentPrice →
        entryQuantity r snapshot candidate market = .ok q →
        q * market.currentPrice ≤ snapshot.equity * r.maxPositionFraction) ∧
    (¬∀ (r : SizingRequest) (snapshot : AuthoritativeAccountSnapshot) (candidate : TradeCandidate)
        (market : PreSubmitMarketSnapshot) (q : ℚ), 1 ≤ snapshot.equity → 0 < market.currentPrice →
        entryQuantity r snapshot candidate market = .ok q →
        q * market.currentPrice ≤ snapshot.equity * r.maxPositionFraction) ∧
    ¬∀ (r : SizingRequest) (snapshot : AuthoritativeAccountSnapshot) (candidate : TradeCandidate)
        (market : PreSubmitMarketSnapshot) (q : ℚ), 1 ≤ snapshot.equity → 0 < market.currentPrice →
        entryQuantity r snapshot candidate market = .ok q →
        ∀ d (hd : 0 < d) q', candidate.stopDistance ≤ d →
          entryQuantity r snapshot (candidate.withStop d hd) market = .ok q' → q' ≤ q := by
  refine ⟨?_, ?_, ?_⟩
  · intro h
    have hvalue := h sampleSizing { equity := 1 / 2 } (sampleCandidate "BTC/USDT") sampleOrder.snapshot (15 / 1000)
      (by norm_num) (by decide +kernel) sized_smallAccount
    exact absurd hvalue (by decide +kernel)
  · intro h
    have hvalue := h { sampleSizing with maxPositionFraction := -1 / 100000 } { equity := 1 } (sampleCandidate "BTC/USDT")
      sampleOrder.snapshot 0 le_rfl (by decide +kernel) (by decide +kernel)
    exact absurd hvalue (by decide +kernel)
  · intro h
    have hvalue := h { sampleSizing with riskPerTrade := -1 / 10 } { equity := 1 } (sampleCandidate "BTC/USDT")
      sampleOrder.snapshot (-1 / 10) le_rfl (by decide +kernel) (by decide +kernel) 2 (by norm_num) (-5 / 100)
      (by decide +kernel) (by decide +kernel)
    exact absurd hvalue (by decide +kernel)

/-- A small account is within the bounds of one unit. -/
theorem entryQuantity_sized_smallAccount :
    SizedWithin 1 sampleSizing { equity := 1 / 2 } (sampleCandidate "BTC/USDT") 100 (15 / 1000) := by
  have hequity : ({ equity := 1 / 2 } : AuthoritativeAccountSnapshot).sizedEquity = 1 := by decide +kernel
  have hsized := entryQuantity_sized sampleSizing { equity := 1 / 2 } (sampleCandidate "BTC/USDT") sampleOrder.snapshot
    (15 / 1000) (by decide +kernel) (by decide +kernel)
  rw [hequity] at hsized
  exact hsized.1

end TradingPlatform
