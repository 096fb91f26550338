import Mathlib.Algebra.Order.Ring.Rat
import TradingPlatform.Domain.State

/-!
# Trade candidates

`domain/candidates.py`: the output of a strategy, a risk plan relative to a reference price. What `__post_init__` checks is a
field of the structure, so a candidate that fails a check cannot be built. Instants are natural numbers.
-/

namespace TradingPlatform

/-- `CandidateLane`. -/
inductive CandidateLane where
  | production | testnetSampling | shadow
  deriving DecidableEq, Repr

/-- `TradeCandidate`. The side of a candidate is its direction. -/
structure TradeCandidate where
  candidateId : String
  cycleId : String
  strategyId : String
  strategyVersion : String
  lane : CandidateLane
  candidateType : V2CandidateType
  symbol : String
  side : Direction
  signalCandleCloseTime : ℕ
  signalReferencePrice : ℚ
  stopDistance : ℚ
  takeProfitDistance : Option ℚ
  maxEntryDriftBps : ℚ
  expiresAt : ℕ
  nonPromotable : Bool
  referencePrice_pos : 0 < signalReferencePrice
  stopDistance_pos : 0 < stopDistance
  takeProfitDistance_pos : ∀ d ∈ takeProfitDistance, 0 < d
  maxEntryDriftBps_pos : 0 < maxEntryDriftBps
  expires_after_close : signalCandleCloseTime < expiresAt
  sampling_nonPromotable : candidateType = .sampling ∨ lane = .testnetSampling → nonPromotable = true
  research_iff_shadow : candidateType = .research ↔ lane = .shadow
  research_nonPromotable : candidateType = .research → nonPromotable = true

/-- A sampling candidate is no research. -/
theorem sampling_iff_shadow : V2CandidateType.sampling = .research ↔ CandidateLane.testnetSampling = .shadow := by decide

/-- `is_expired`. -/
def TradeCandidate.isExpired (c : TradeCandidate) (now : ℕ) : Bool := decide (c.expiresAt ≤ now)

/-- `resolve_protection_prices`: the stop and the target from a real fill price. -/
def TradeCandidate.resolveProtectionPrices (c : TradeCandidate) (averageFillPrice : ℚ) : Except PyError (ℚ × Option ℚ) :=
  if averageFillPrice ≤ 0 then .error (.valueError "average_fill_price must be > 0")
  else
    let away : ℚ := match c.side with
      | .long => 1
      | .short => -1
    let stop := averageFillPrice - away * c.stopDistance
    let take := c.takeProfitDistance.map fun d => averageFillPrice + away * d
    if stop ≤ 0 then .error (.valueError "resolved stop price must be > 0")
    else if ∃ t ∈ take, t ≤ 0 then .error (.valueError "resolved take-profit price must be > 0")
    else .ok (stop, take)

/-- `drift_bps_from`: the drift of a live price from the reference price, in basis points. -/
def TradeCandidate.driftBpsFrom (c : TradeCandidate) (preSubmitPrice : ℚ) : Except PyError ℚ :=
  if preSubmitPrice ≤ 0 then .error (.valueError "pre_submit_price must be > 0")
  else .ok (|preSubmitPrice - c.signalReferencePrice| / c.signalReferencePrice * 10000)

end TradingPlatform
