import TradingPlatform.Engine.EntryDecision

/-!
# The size and the cost of an entry

The notional and the quantity of an entry, and the cost gate it passes. The values are exact decimals.
-/

namespace TradingPlatform

/-!
## Entry sizing

`_calculate_quantity` of `application/cycle_service.py`: the notional of an entry, and the quantity the cycle makes of it.
The values of the contract are exact decimals.
-/

/-- `TESTNET_CANARY_SYMBOLS`. -/
def testnetCanarySymbols : List String := ["BTC/USDT", "ETH/USDT", "SOL/USDT", "XRP/USDT", "BNB/USDT"]

/-- `TESTNET_CANARY_RUNTIME_CONTRACT["strategy_id"]`. -/
def canaryStrategyId : String := "testnet_sampling_v2"

/-- `TESTNET_CANARY_RUNTIME_CONTRACT["max_symbol_exposure"]`. -/
def canaryMaxSymbolExposure : ℚ := 1 / 100

/-- `TESTNET_CANARY_RUNTIME_CONTRACT["max_total_exposure"]`. -/
def canaryMaxTotalExposure : ℚ := 2 / 100

/-- `TESTNET_CANARY_RUNTIME_CONTRACT["max_notional_usdt"]`. -/
def canaryMaxNotionalUsdt : ℚ := 50

/-- The fields of `CycleRequest` that the sizing reads. -/
structure SizingRequest where
  symbol : String
  executionMode : V2ExecutionMode
  entryAuthority : EntryAuthority := .none
  riskPerTrade : ℚ := 1 / 10
  maxLeverage : ℤ := 30
  maxMarginFraction : ℚ := 5 / 100
  orderNotionalUsdt : Option ℚ := none
  maxPositionFraction : ℚ := 3 / 2
  maxTotalExposure : ℚ := 15 / 2

/-- `_is_testnet_canary_sampling`. -/
def SizingRequest.isTestnetCanarySampling (r : SizingRequest) (candidate : TradeCandidate) : Bool :=
  decide (r.executionMode = .binanceTestnet ∧ r.entryAuthority = .testnetCanary ∧ r.symbol ∈ testnetCanarySymbols ∧
    candidate.lane = .testnetSampling ∧ candidate.strategyId = canaryStrategyId)

/-- The equity that is sized: never below one. -/
def AuthoritativeAccountSnapshot.sizedEquity (s : AuthoritativeAccountSnapshot) : ℚ := max s.equity 1

/-- The mark value of the open positions. -/
def AuthoritativeAccountSnapshot.committedNotional (s : AuthoritativeAccountSnapshot) : ℚ :=
  (s.positions.map fun p => |p.quantity| * p.markPrice).sum

/-- The fraction of the equity that bounds the exposure of the canary lane: the default of the request stands for the contract's. -/
def SizingRequest.canaryTotalExposureFraction (r : SizingRequest) : ℚ :=
  if r.maxTotalExposure = 15 / 2 then canaryMaxTotalExposure else r.maxTotalExposure

/-- `_calculate_quantity`: the notional of an entry. -/
def calculateQuantity (r : SizingRequest) (snapshot : AuthoritativeAccountSnapshot) (stopDistance referencePrice : Option ℚ)
    (candidate : TradeCandidate) : ℚ :=
  let equity := snapshot.sizedEquity
  let exposureCeiling := equity * r.maxPositionFraction
  let marginBudgetCeiling := equity * r.maxMarginFraction * r.maxLeverage
  let marginCeiling := equity * r.maxLeverage
  if r.isTestnetCanarySampling candidate then
    let canaryExposureCeiling :=
      if r.maxPositionFraction = 3 / 2 then equity * canaryMaxSymbolExposure else exposureCeiling
    let canaryTotalExposureCeiling := equity * r.canaryTotalExposureFraction
    let remainingTotalExposure := max (canaryTotalExposureCeiling - snapshot.committedNotional) 0
    -- a pinned notional of zero is none
    let pinned := match r.orderNotionalUsdt with
      | some n => if n = 0 then equity * r.maxMarginFraction * r.maxLeverage else n
      | none => equity * r.maxMarginFraction * r.maxLeverage
    let targetNotional := min pinned canaryMaxNotionalUsdt
    min (min (min (min targetNotional canaryExposureCeiling) remainingTotalExposure) marginBudgetCeiling) marginCeiling
  else
    match r.orderNotionalUsdt with
    | some n => min (min (min n exposureCeiling) marginBudgetCeiling) marginCeiling
    | none =>
      let riskBudget := equity * r.riskPerTrade
      let stopFraction : Option ℚ := match stopDistance, referencePrice with
        | some d, some p => if 0 < p ∧ 0 < d then some (d / p) else none
        | _, _ => none
      match stopFraction with
      | none => min (min (min riskBudget exposureCeiling) marginBudgetCeiling) marginCeiling
      | some f =>
        if f ≤ 0 then min (min (min riskBudget exposureCeiling) marginBudgetCeiling) marginCeiling
        else min (min (min (riskBudget / f) exposureCeiling) marginBudgetCeiling) marginCeiling

/-- The quantity of an entry in `run_automated_trading_cycle`. -/
def entryQuantity (r : SizingRequest) (snapshot : AuthoritativeAccountSnapshot) (candidate : TradeCandidate)
    (market : PreSubmitMarketSnapshot) : Except PyError ℚ :=
  let notional := calculateQuantity r snapshot (some candidate.stopDistance) (some market.currentPrice) candidate
  roundQuantityToStep (notional / market.currentPrice) market.stepSize

/-!
## The cost gate

`application/risk_controls.py`: the cost of an entry in units of its stop distance, and the payoff that is left after it. The
arithmetic is exact.
-/

/-- `R2_MIN_THEORETICAL_NET_PAYOFF`. -/
def r2MinTheoreticalNetPayoff : ℚ := 115 / 100

/-- `DEFAULT_TAKER_FEE_BPS`. -/
def defaultTakerFeeBps : ℚ := 5

/-- `DEFAULT_ROUND_TRIP_SLIPPAGE_BPS`. -/
def defaultRoundTripSlippageBps : ℚ := 6

/-- `resolve_effective_funding_bps`: positive funding is paid by longs and received by shorts. -/
def resolveEffectiveFundingBps (rawFundingBps : ℚ) (side : Direction) : ℚ :=
  match side with
  | .long => rawFundingBps
  | .short => -rawFundingBps

/-- `CostGateResult`. -/
structure CostGateResult where
  costR : ℚ
  theoreticalNetPayoff : ℚ
  plannedTargetR : ℚ
  commissionR : ℚ
  fundingR : ℚ
  slippageR : ℚ
  passed : Bool
  reason : String
  deriving DecidableEq

/-- The arguments of `calculate_cost_gate`. -/
structure CostGateInput where
  entryPrice : ℚ
  stopDistance : ℚ
  takeProfitDistance : Option ℚ
  commissionBps : ℚ := defaultTakerFeeBps * 2
  effectiveFundingBps : Option ℚ := none
  fundingBps : Option ℚ := none
  slippageBps : ℚ := defaultRoundTripSlippageBps
  minimumNetPayoff : ℚ := r2MinTheoreticalNetPayoff

/-- Basis points of the entry price in units of the stop distance. -/
def CostGateInput.inR (i : CostGateInput) (bps : ℚ) : ℚ := bps / 10000 * i.entryPrice / i.stopDistance

/-- `a / b` of decimals. -/
def decimalDiv (a b : ℚ) : Except PyError ℚ :=
  if b = 0 then .error (.arithmeticError "division by zero") else .ok (a / b)

/-- `calculate_cost_gate`. -/
def calculateCostGate (i : CostGateInput) : Except PyError CostGateResult :=
  if i.entryPrice ≤ 0 ∨ i.stopDistance ≤ 0 then
    .error (.valueError "entry_price and stop_distance must be positive")
  else if i.effectiveFundingBps.isSome ∧ i.fundingBps.isSome then
    .error (.valueError "provide only effective_funding_bps or funding_bps")
  else do
    let effectiveFunding := i.effectiveFundingBps.getD (i.fundingBps.getD 0)
    let plannedTargetR := match i.takeProfitDistance with
      | some d => d / i.stopDistance
      | none => 0
    let commissionR := i.inR i.commissionBps
    let fundingR := i.inR effectiveFunding
    let slippageR := i.inR i.slippageBps
    let costR := commissionR + fundingR + slippageR
    -- nothing keeps the denominator away from zero
    let theoreticalNetPayoff ← decimalDiv (plannedTargetR - costR) (1 + costR)
    let passed := decide (i.minimumNetPayoff ≤ theoreticalNetPayoff)
    return { costR, theoreticalNetPayoff, plannedTargetR, commissionR, fundingR, slippageR, passed,
             reason := if passed then "OK" else "NO_TRADE_COST_INEFFICIENT" }

example : (calculateCostGate { entryPrice := 100, stopDistance := 1, takeProfitDistance := some 3 }).toOption.map
    (fun r => (r.costR, r.passed)) = some (16 / 100, true) := by decide +kernel

end TradingPlatform
