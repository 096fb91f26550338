import TradingPlatform.Domain.Candidate
import TradingPlatform.Engine.Reconciliation

/-!
# Entry gate and entry execution

`application/entry_service.py`. `evaluateEntry` says whether opening risk is permitted and makes no call; `executeEntry`
submits and reports every failure of the exchange as a status. The texts beside a block's reason code and the `detail` of a
result are left out.
-/

namespace TradingPlatform

/-! ## The gate -/

/-- `EngineActivation`. -/
inductive EngineActivation where
  | disabled | shadow | active
  deriving DecidableEq, Repr

/-- The members of `DecisionReasonCode` that the gate and the execution use. -/
inductive DecisionReasonCode where
  | ok | shadowModeNoSubmit | entryKillSwitchActive | reconciliationUnavailable | recoveryRequired
  | unmanagedExternalPosition | positionAlreadyOpen | symbolCooldownActive | dailyTradeLimitReached | manifestNotEligible
  | netEdgeAfterCostNegative | noTradeCostInefficient | riskLimitExceeded | aiAdvisoryVeto | candidateExpired
  | priceDriftExceeded | exchangeUnknown | exchangeUnavailable
  deriving DecidableEq, Repr

/-- `EntryGateResult`: every failed check, in order. -/
structure EntryGateResult where
  approved : Bool
  reasonCode : DecisionReasonCode
  blocks : List DecisionReasonCode := []
  driftBps : Option ℚ := none
  driftCeilingBps : Option ℚ := none
  deriving DecidableEq

/-- `EntryRuntimeContext`. -/
structure EntryRuntimeContext where
  engineActivation : EngineActivation
  executionMode : V2ExecutionMode
  reconciliationStatus : ReconciliationStatus
  entryBlockedSymbols : List String := []
  entryKillSwitchActive : Bool := false
  recoveryEntryBlocked : Bool := false
  openPositionSymbols : List String := []
  symbolCooldownActive : Bool := false
  dailyTradeLimitReached : Bool := false
  manifestEligible : Bool := true
  netEdgeAfterCostBps : Option ℚ := none
  theoreticalNetPayoff : Option ℚ := none
  riskBudgetAvailable : Bool := true
  aiAdvisoryVeto : Bool := false
  now : Option ℕ := none

/-- `PreSubmitMarketSnapshot`. -/
structure PreSubmitMarketSnapshot where
  symbol : String
  currentPrice : ℚ
  atr : ℚ
  tickSize : ℚ
  stepSize : ℚ
  minNotional : ℚ

/-- `MIN_DRIFT_CEILING_BPS`. -/
def minDriftCeilingBps : ℚ := 20

/-- `ATR_DRIFT_FRACTION`. -/
def atrDriftFraction : ℚ := 1 / 4

/-- `drift_ceiling_bps`: a volatile market widens the ceiling, the tolerance of the candidate bounds it. -/
def driftCeilingBps (candidate : TradeCandidate) (snapshot : PreSubmitMarketSnapshot) : ℚ :=
  let atrComponent :=
    if 0 < snapshot.atr ∧ 0 < candidate.signalReferencePrice then
      atrDriftFraction * snapshot.atr / candidate.signalReferencePrice * 10000
    else 0
  let ceiling := max minDriftCeilingBps atrComponent
  if 0 < candidate.maxEntryDriftBps then min ceiling candidate.maxEntryDriftBps else ceiling

/-- The blocks of `evaluate_entry` that do not need a market snapshot, in the order of the source. -/
def entryBlocks (candidate : TradeCandidate) (runtime : EntryRuntimeContext) : List DecisionReasonCode :=
  let block (c : Bool) (code : DecisionReasonCode) : List DecisionReasonCode := if c then [code] else []
  block (decide (candidate.lane = .shadow ∨ candidate.candidateType = .research)) .shadowModeNoSubmit ++
  block (decide (runtime.engineActivation = .disabled)) .shadowModeNoSubmit ++
  block runtime.entryKillSwitchActive .entryKillSwitchActive ++
  -- a degraded result is not a block: the symbols it names are blocked below
  (match runtime.reconciliationStatus with
    | .unavailable => [.reconciliationUnavailable]
    | .recoveryRequired => [.recoveryRequired]
    | _ => []) ++
  block runtime.recoveryEntryBlocked .recoveryRequired ++
  block (decide (candidate.symbol ∈ runtime.entryBlockedSymbols)) .unmanagedExternalPosition ++
  block (decide (candidate.symbol ∈ runtime.openPositionSymbols)) .positionAlreadyOpen ++
  block runtime.symbolCooldownActive .symbolCooldownActive ++
  block runtime.dailyTradeLimitReached .dailyTradeLimitReached ++
  block (!runtime.manifestEligible) .manifestNotEligible ++
  block (runtime.netEdgeAfterCostBps.any fun e => decide (e ≤ 0)) .netEdgeAfterCostNegative ++
  block (runtime.theoreticalNetPayoff.any fun p => decide (p < 115 / 100)) .noTradeCostInefficient ++
  block (!runtime.riskBudgetAvailable) .riskLimitExceeded ++
  block runtime.aiAdvisoryVeto .aiAdvisoryVeto ++
  block (runtime.now.any fun now => candidate.isExpired now) .candidateExpired

/-- `evaluate_entry`. -/
def evaluateEntry (candidate : TradeCandidate) (runtime : EntryRuntimeContext)
    (snapshot : Option PreSubmitMarketSnapshot := none) : Except PyError EntryGateResult := do
  let verdict (blocks : List DecisionReasonCode) (drift ceiling : Option ℚ) : EntryGateResult :=
    { approved := decide (blocks = []), reasonCode := blocks.headD .ok, blocks, driftBps := drift,
      driftCeilingBps := ceiling }
  match snapshot with
  | none => return verdict (entryBlocks candidate runtime) none none
  | some snapshot =>
    let drift ← candidate.driftBpsFrom snapshot.currentPrice
    let ceiling := driftCeilingBps candidate snapshot
    return verdict (entryBlocks candidate runtime ++ if ceiling < drift then [.priceDriftExceeded] else [])
      (some drift) (some ceiling)

/-! ## The execution -/

/-- `EntryExecutionStatus`. -/
inductive EntryExecutionStatus where
  | notAttempted | shadowRehearsed | filled | partiallyFilled | acknowledgedUnfilled | rejected | unknown
  deriving DecidableEq, Repr

/-- `EntryExecutionResult`. -/
structure EntryExecutionResult where
  status : EntryExecutionStatus
  intentState : V2IntentState
  clientOrderId : String
  reasonCode : DecisionReasonCode := .ok
  exchangeOrderId : Option String := none
  tradeIds : List String := []
  filledQuantity : ℚ := 0
  averageFillPrice : Option ℚ := none
  totalFee : ℚ := 0
  fillTimestamp : Option ℕ := none
  fillSource : String := "BINANCE_USER_TRADE"
  requestedQuantity : ℚ := 0
  guardExchangeOrderId : Option String := none
  guardClientOrderId : Option String := none
  deriving DecidableEq

/-- The truth value of an optional text: neither absent nor empty. -/
def given (text : Option String) : Bool :=
  match text with
  | none => false
  | some t => decide (t ≠ "")

/-- `position_projectable`: the only authority on whether a local position may be created. -/
def EntryExecutionResult.positionProjectable (r : EntryExecutionResult) : Bool :=
  decide (r.status = .filled ∨ r.status = .partiallyFilled) && given r.exchangeOrderId &&
    (decide (r.tradeIds ≠ []) || decide (r.fillSource = "BINANCE_ORDER_STATUS_RECOVERY")) &&
    decide (0 < r.filledQuantity) && r.averageFillPrice.any fun p => decide (0 < p)

/-- `to_integral_value(rounding=ROUND_DOWN)`. -/
def truncate (q : ℚ) : ℤ := q.num.tdiv q.den

/-- `round_quantity_to_step`: a quantity is floored to the step, never rounded up. -/
def roundQuantityToStep (quantity stepSize : ℚ) : Except PyError ℚ :=
  if stepSize ≤ 0 then .error (.valueError "step_size must be > 0")
  else .ok (truncate (quantity / stepSize) * stepSize)

/-- What `_aggregate_fills` returns: quantity, price, fee, trade ids and the last instant. -/
structure FillAggregate where
  quantity : ℚ
  vwap : Option ℚ
  fee : ℚ
  tradeIds : List String
  lastTimestamp : Option ℕ

/-- `_aggregate_fills`. -/
def aggregateFills (fills : List ExchangeFillReceipt) : FillAggregate :=
  let quantity := (fills.map (·.filledQuantity)).sum
  let notional := (fills.map fun f => f.filledQuantity * f.fillPrice).sum
  { quantity
    vwap := if 0 < quantity then some (notional / quantity) else none
    fee := (fills.map (·.fee)).sum
    tradeIds := fills.map (·.tradeId)
    lastTimestamp := (fills.map (·.fillTimestamp)).max? }

/-- The inputs of `execute_entry` beside the exchange. -/
structure EntryOrder where
  candidate : TradeCandidate
  gateResult : EntryGateResult
  snapshot : PreSubmitMarketSnapshot
  intentId : String
  quantity : ℚ
  leverage : ℤ
  engineActivation : EngineActivation
  marginEquity : Option ℚ := none
  maxMarginFraction : Option ℚ := none
  enforceMarginCeiling : Bool := false

/-- The side of the entry order. -/
def EntryOrder.side (o : EntryOrder) : String :=
  match o.candidate.side with
  | .long => "buy"
  | .short => "sell"

/-- The side of the order that unwinds it. -/
def EntryOrder.unwindSide (o : EntryOrder) : String :=
  match o.candidate.side with
  | .long => "sell"
  | .short => "buy"

/-- The margin ceiling is enforced and its bound is known. -/
def EntryOrder.marginCeiling (o : EntryOrder) : Option ℚ :=
  match o.enforceMarginCeiling, o.marginEquity, o.maxMarginFraction with
  | true, some equity, some fraction => if 0 < equity then some (equity * fraction) else none
  | _, _, _ => none

/-- The filled margin is above the ceiling. A leverage of zero raises. -/
def EntryOrder.exceedsMarginCeiling (o : EntryOrder) (filledQuantity vwap : ℚ) : Except PyError Bool :=
  match o.marginCeiling with
  | none => .ok false
  | some ceiling =>
    if o.leverage = 0 then .error (.arithmeticError "division by zero")
    else .ok (decide (ceiling < filledQuantity * vwap / o.leverage))

/-- The command that unwinds a fill above the margin ceiling. -/
def EntryOrder.unwindCommand (o : EntryOrder) (guardClientOrderId : String) (filledQuantity : ℚ) : SubmitReduceOnlyExit :=
  { positionId := "margin-guard:" ++ o.intentId, exitReason := "CANARY_MARGIN_CEILING", reduceQuantity := filledQuantity,
    clientOrderId := guardClientOrderId, isEmergency := true }

/-- The reduce-only order that unwinds a fill above the margin ceiling. Its failure is recorded, not raised. -/
def unwindOverMargin (x : Exchange) (o : EntryOrder) (guardClientOrderId : String) (filledQuantity : ℚ) :
    Option String × Exchange :=
  match submitReduceOnlyExit x (o.unwindCommand guardClientOrderId filledQuantity) o.candidate.symbol o.unwindSide with
  | (.ok receipt, x) => (some receipt.exchangeOrderId, x)
  | (.error _, x) => (none, x)

/-- The part of `execute_entry` after an acknowledged order: its fills decide the status. -/
def settleEntry (x : Exchange) (o : EntryOrder) (clientOrderId : String) (normalizedQuantity : ℚ)
    (receipt : ExchangeOrderReceipt) : Except PyError EntryExecutionResult × Exchange :=
  let acknowledged (reasonCode : DecisionReasonCode) : EntryExecutionResult :=
    { status := .acknowledgedUnfilled, intentState := .exchangeAcknowledged, clientOrderId, reasonCode,
      exchangeOrderId := some receipt.exchangeOrderId, requestedQuantity := normalizedQuantity }
  match fetchFills x receipt.exchangeOrderId with
  | .error _ => (.ok (acknowledged .exchangeUnknown), x)
  | .ok fills =>
    let total := aggregateFills fills
    match total.vwap with
    | none => (.ok (acknowledged .ok), x)
    | some vwap =>
      if total.tradeIds = [] ∨ total.quantity ≤ 0 then (.ok (acknowledged .ok), x)
      else
        let result : EntryExecutionResult :=
          { status := if total.quantity < normalizedQuantity then .partiallyFilled else .filled, intentState := .filled,
            clientOrderId, exchangeOrderId := some receipt.exchangeOrderId, tradeIds := total.tradeIds,
            filledQuantity := total.quantity, averageFillPrice := some vwap, totalFee := total.fee,
            fillTimestamp := total.lastTimestamp, requestedQuantity := normalizedQuantity }
        match o.exceedsMarginCeiling total.quantity vwap with
        | .error e => (.error e, x)
        | .ok false => (.ok result, x)
        | .ok true =>
          -- the fill is unwound and never projected
          match exitClientOrderId ("margin-guard:" ++ o.intentId) with
          | .error e => (.error e, x)
          | .ok guardClientOrderId =>
            let (guardExchangeOrderId, x) := unwindOverMargin x o guardClientOrderId total.quantity
            (.ok { result with status := .rejected, intentState := .rejected, reasonCode := .riskLimitExceeded,
                               guardExchangeOrderId, guardClientOrderId := some guardClientOrderId }, x)

/-- The result of a submission that the adapter reports as unavailable: "No request was sent", says the source. -/
def rejectedUnavailable (clientOrderId : String) (normalizedQuantity : ℚ) : EntryExecutionResult :=
  { status := .rejected, intentState := .rejected, clientOrderId, reasonCode := .exchangeUnavailable,
    requestedQuantity := normalizedQuantity }

/-- The part of `execute_entry` that reaches the exchange. -/
def submitEntry (x : Exchange) (o : EntryOrder) (clientOrderId : String) (normalizedQuantity : ℚ) :
    Except PyError EntryExecutionResult × Exchange :=
  let command : SubmitEntryToExchange :=
    { intentId := o.intentId, quantity := normalizedQuantity, leverage := o.leverage, clientOrderId }
  match submitMarketOrder x command o.candidate.symbol o.side with
  | (.error (.exchangeTimeout _), x) =>
    (.ok { status := .unknown, intentState := .exchangeUnknown, clientOrderId, reasonCode := .exchangeUnknown,
           requestedQuantity := normalizedQuantity }, x)
  | (.error (.adapterUnavailable _), x) => (.ok (rejectedUnavailable clientOrderId normalizedQuantity), x)
  | (.error e, x) => (.error e, x)
  | (.ok receipt, x) => settleEntry x o clientOrderId normalizedQuantity receipt

/-- `execute_entry`. -/
def executeEntry (x : Exchange) (o : EntryOrder) : Except PyError EntryExecutionResult × Exchange :=
  match entryClientOrderId o.intentId with
  | .error e => (.error e, x)
  | .ok clientOrderId =>
    let stopped (status : EntryExecutionStatus) (reasonCode : DecisionReasonCode) (requestedQuantity : ℚ) :
        EntryExecutionResult :=
      { status, intentState := .intentCreated, clientOrderId, reasonCode, requestedQuantity }
    if o.candidate.lane = .shadow ∨ o.candidate.candidateType = .research then
      (.ok (stopped .notAttempted .shadowModeNoSubmit o.quantity), x)
    else if !o.gateResult.approved then (.ok (stopped .notAttempted o.gateResult.reasonCode o.quantity), x)
    else
      match roundQuantityToStep o.quantity o.snapshot.stepSize with
      | .error e => (.error e, x)
      | .ok normalizedQuantity =>
        if normalizedQuantity ≤ 0 then (.ok (stopped .notAttempted .riskLimitExceeded o.quantity), x)
        else if normalizedQuantity * o.snapshot.currentPrice < o.snapshot.minNotional then
          (.ok (stopped .notAttempted .riskLimitExceeded normalizedQuantity), x)
        else if o.engineActivation ≠ .active then
          (.ok (stopped .shadowRehearsed .shadowModeNoSubmit normalizedQuantity), x)
        else submitEntry x o clientOrderId normalizedQuantity

end TradingPlatform
