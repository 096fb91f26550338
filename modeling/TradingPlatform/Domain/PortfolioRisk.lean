import Mathlib.Algebra.Order.Field.Rat
import TradingPlatform.Domain.State

/-!
# Portfolio risk budget

`domain/portfolio_risk.py`: may new exposure be opened right now. The answer is in initial stop-loss risk, against the whole
account and against the crypto cluster in one direction.
-/

namespace TradingPlatform

/-- `MAX_TOTAL_INITIAL_RISK_FRACTION`. -/
def maxTotalInitialRiskFraction : ℚ := 125 / 10000

/-- `MAX_SAME_DIRECTION_CLUSTER_RISK_FRACTION`. -/
def maxSameDirectionClusterRiskFraction : ℚ := 80 / 10000

/-- `MAX_OPEN_POSITIONS`. -/
def maxOpenPositionsDefault : ℕ := 2

/-- `CRYPTO_BETA_CLUSTER`. -/
def cryptoBetaCluster : List String := ["BTC/USDT", "ETH/USDT", "SOL/USDT", "XRP/USDT", "BNB/USDT"]

/-- `in_cluster`. -/
def inCluster (symbol : String) : Bool := decide (symbol ∈ cryptoBetaCluster)

/-- The record an exposure comes from: a position, or an intent in flight. -/
inductive RiskSource where
  | position | intent
  deriving DecidableEq, Repr

/-- `RiskExposure`. -/
structure RiskExposure where
  symbol : String
  direction : Direction
  initialRiskUsdt : ℚ
  source : RiskSource := .position
  deriving DecidableEq

/-- `PortfolioRiskDecision`. A decision without a reason code allows. -/
structure PortfolioRiskDecision where
  reasonCode : Option String
  equity : ℚ
  candidateRiskUsdt : ℚ
  committedTotalRiskUsdt : ℚ := 0
  committedClusterRiskUsdt : ℚ := 0
  projectedTotalRiskFraction : ℚ := 0
  projectedClusterRiskFraction : ℚ := 0
  openPositionCount : ℕ := 0
  deriving DecidableEq

/-- `allowed`. -/
def PortfolioRiskDecision.allowed (d : PortfolioRiskDecision) : Bool := d.reasonCode.isNone

/-- `portfolio_risk_blocks`: in diagnostic mode only the cap on open positions blocks. -/
def portfolioRiskBlocks (decision : PortfolioRiskDecision) (diagnostic : Bool) : Bool :=
  decision.reasonCode.isSome && (!diagnostic || decide (decision.reasonCode = some "MAX_OPEN_EXPOSURES"))

/-- `_sum_risk`. -/
def sumRisk (exposures : List RiskExposure) : ℚ := (exposures.map (·.initialRiskUsdt)).sum

/-- The exposures of one direction on the cluster. -/
def clusterExposures (exposures : List RiskExposure) (direction : Direction) : List RiskExposure :=
  exposures.filter fun e => inCluster e.symbol && decide (e.direction = direction)

/-- `evaluate_portfolio_risk`. -/
def evaluatePortfolioRisk (equity : ℚ) (candidateSymbol : String) (candidateDirection : Direction)
    (candidateInitialRiskUsdt : ℚ) (committed : List RiskExposure)
    (maxTotalFraction : ℚ := maxTotalInitialRiskFraction) (maxClusterFraction : ℚ := maxSameDirectionClusterRiskFraction)
    (maxOpenPositions : ℕ := maxOpenPositionsDefault) : PortfolioRiskDecision :=
  if equity ≤ 0 then
    { reasonCode := some "PORTFOLIO_EQUITY_UNAVAILABLE", equity, candidateRiskUsdt := candidateInitialRiskUsdt }
  else
    let committedTotal := sumRisk committed
    let committedCluster := sumRisk (clusterExposures committed candidateDirection)
    let projectedTotal := committedTotal + candidateInitialRiskUsdt
    let projectedCluster := committedCluster + if inCluster candidateSymbol then candidateInitialRiskUsdt else 0
    let openPositions := committed.filter fun e => decide (e.source = .position)
    let verdict (reasonCode : Option String) : PortfolioRiskDecision :=
      { reasonCode, equity, candidateRiskUsdt := candidateInitialRiskUsdt, committedTotalRiskUsdt := committedTotal,
        committedClusterRiskUsdt := committedCluster, projectedTotalRiskFraction := projectedTotal / equity,
        projectedClusterRiskFraction := projectedCluster / equity, openPositionCount := openPositions.length }
    if candidateInitialRiskUsdt ≤ 0 then verdict (some "PORTFOLIO_RISK_UNMEASURABLE")
    else if maxOpenPositions ≤ openPositions.length then verdict (some "MAX_OPEN_EXPOSURES")
    else if maxTotalFraction < projectedTotal / equity then verdict (some "PORTFOLIO_TOTAL_RISK_LIMIT")
    else if maxClusterFraction < projectedCluster / equity then verdict (some "CRYPTO_CLUSTER_RISK_LIMIT")
    else verdict none

/-- What an allowed candidate leaves within the budget. -/
theorem evaluatePortfolioRisk_allowed {equity risk : ℚ} {symbol : String} {direction : Direction}
    {committed : List RiskExposure} {totalFraction clusterFraction : ℚ} {maxOpen : ℕ}
    (h : (evaluatePortfolioRisk equity symbol direction risk committed totalFraction clusterFraction maxOpen).reasonCode =
      none) :
    0 < equity ∧ 0 < risk ∧ (committed.filter fun e => decide (e.source = .position)).length < maxOpen ∧
      sumRisk committed + risk ≤ totalFraction * equity ∧
      sumRisk (clusterExposures committed direction) + (if inCluster symbol then risk else 0) ≤ clusterFraction * equity := by
  unfold evaluatePortfolioRisk at h
  split at h
  · nomatch h
  · rename_i hequity
    have hpos : 0 < equity := not_le.mp hequity
    simp only at h
    split at h
    · nomatch h
    · rename_i hrisk
      split at h
      · nomatch h
      · rename_i hopen
        split at h
        · nomatch h
        · rename_i htotal
          by_cases hcluster : clusterFraction <
              (sumRisk (clusterExposures committed direction) + if inCluster symbol then risk else 0) / equity
          · rw [if_pos hcluster] at h
            nomatch h
          · exact ⟨hpos, not_le.mp hrisk, not_le.mp hopen, (div_le_iff₀ hpos).mp (not_lt.mp htotal),
              (div_le_iff₀ hpos).mp (not_lt.mp hcluster)⟩

end TradingPlatform
