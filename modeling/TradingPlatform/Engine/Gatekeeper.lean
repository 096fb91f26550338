import Mathlib.Algebra.Order.Ring.Rat
import TradingPlatform.Domain.State
import TradingPlatform.Lib.Sessions
import TradingPlatform.Lib.Table

/-!
# The execution gatekeeper

`services/execution/gatekeeper.py`, with the costs of `net_edge.py`, the halt of `kill_switch.py` and the orders of the
`ExecutionRepository`: a request is checked, its order is stored once under its intent identity, and `submit_live_order` sends
an accepted one to the gateway. The floats of the code are rational numbers, and their operations exact; a text that `float` reads
is its number.
-/

namespace TradingPlatform

/-! ## Requests -/

/-- `RiskProfile`, its limits. -/
structure RiskProfile where
  singleTradeRiskLimit : ℚ := 1 / 100
  maxSymbolExposure : ℚ := 1 / 10
  maxTotalExposure : ℚ := 1 / 2
  maxOpenPositions : ℤ := 3
  maxLeverage : ℚ := 3
  dailyLossLimit : ℚ := 3 / 100
  weeklyLossLimit : ℚ := 8 / 100
  drawdownLimit : ℚ := 1 / 10
  hardStopDrawdownLimit : ℚ := 1 / 5
  consecutiveLossLimit : ℤ := 4
  apiFailureLimit : ℤ := 3

/-- `ExecutionRiskState`. -/
structure ExecutionRiskState where
  accountEquity : ℚ
  equityPeak : ℚ
  dailyRealizedPnl : ℚ := 0
  weeklyRealizedPnl : ℚ := 0
  consecutiveLosses : ℤ := 0
  apiFailuresWindow : ℤ := 0
  openPositions : ℤ := 0
  symbolExposure : ℚ := 0
  totalExposure : ℚ := 0
  requestedNotional : ℚ := 0
  requestedLeverage : ℚ := 1
  correlatedClusterExposure : ℚ := 0
  highCorrelationPeerCount : ℤ := 0
  netDirectionalExposure : ℚ := 0
  portfolioCorrelationAvailable : Bool := true
  requestedStopRiskFraction : ℚ := 0
  portfolioInitialRiskFraction : ℚ := 0

/-- The keys of an entry context that the gates read, each with the default of its read. -/
structure EntryContext where
  entryEnabled : Option Bool := none
  closeOnlyMode : Bool := false
  reduceOnly : Bool := false
  timeframe : String := "1h"
  isHedgeLeg : Bool := false
  correlatedPeerCountLimit : ℤ := 2
  correlatedClusterExposureLimit : ℚ := 35 / 100
  netDirectionalExposureLimit : ℚ := 40 / 100
  maxPortfolioInitialRiskFraction : ℚ := 5 / 100
  observationOnlyMode : Bool := false
  testnetSamplingMode : Bool := false
  decisionVariant : Option String := none
  strategyLane : Option String := none
  executionScopeHash : Option String := none
  validatedEdgeRequired : Bool := false
  validatedEdgeNetExpectancy : Option ℚ := none
  metaLabelWinRate : Option ℚ := none
  metaLabelAverageWin : Option ℚ := none
  metaLabelAverageLoss : Option ℚ := none
  roundTripFeeRate : Option ℚ := none
  roundTripSlippageRate : Option ℚ := none
  decisionPipeline : Option String := none
  quantity : Option ℚ := none
  authoritativePositionQuantity : Option ℚ := none
  authoritativePositionSide : Option String := none
  exchangeAvailable : Option Bool := none
  estimatedNetEdgeAfterCost : Option ℚ := none

/-- The columns of a `TradeIntent` that an order takes over. -/
structure GatedIntent where
  action : String
  signalCandleCloseTime : ℤ

/-- `ExecutionOrderRequest`. The protection plan is its keys. -/
structure ExecutionOrderRequest where
  strategyId : String
  symbol : String
  direction : Direction
  entryContext : EntryContext := {}
  stoplossPlan : List String := []
  validationBacktestRunId : Option String := none
  riskProfileId : Option String := none
  riskState : Option ExecutionRiskState := none
  veto : Option Bool := none
  tradeIntent : Option GatedIntent := none
  cycleSource : Option String := none
  schedulerInstanceId : Option String := none
  fencingToken : Option ℤ := none

/-- The settings that the gates read. -/
structure GateSettings where
  binanceUseTestnet : Bool
  binanceAutoExecute : Bool
  liveTradingEnabled : Bool
  executionScopeHash : String
  killSwitchEnabled : Bool := true

/-- What the gates read elsewhere: the halt, the validation run with its result, the stored profile, the candles and the risk
events. -/
structure GateFacts where
  killSwitchTriggered : Bool := false
  backtest : Option (Option Bool) := none
  storedProfile : Option RiskProfile := none
  isFresh : Bool := true
  blockingRiskEvent : Bool := false

/-! ## Gates -/

/-- A code that is given where a condition is met. -/
def codeIf (c : Prop) [Decidable c] (code : String) : List String := if c then [code] else []

@[simp] theorem codeIf_eq_nil {c : Prop} [Decidable c] {code : String} : codeIf c code = [] ↔ ¬c := by
  unfold codeIf
  split <;> simp [*]

@[simp] theorem mem_codeIf {c : Prop} [Decidable c] {code x : String} : x ∈ codeIf c code ↔ c ∧ x = code := by
  unfold codeIf
  split <;> simp [*]

/-- `net_edge_after_cost`. -/
def netEdgeAfterCost (winRate averageWin averageLoss roundTripFeeRate roundTripSlippageRate : ℚ) : ℚ :=
  winRate * averageWin - (1 - winRate) * averageLoss - roundTripFeeRate - roundTripSlippageRate

/-- The sampling fallback, which the expectancy gate lets through. -/
def EntryContext.sampling (c : EntryContext) (settings : GateSettings) : Bool :=
  c.testnetSamplingMode && (decide (c.decisionVariant = some "simulation_sampling_fallback") &&
    decide (c.strategyLane = some "directional") && decide (c.executionScopeHash = some settings.executionScopeHash) &&
    settings.binanceUseTestnet && settings.binanceAutoExecute && !settings.liveTradingEnabled)

/-- `net_edge_rejection_codes`, with the context it leaves. -/
def netEdgeRejectionCodes (settings : GateSettings) (c : EntryContext) : List String × EntryContext :=
  if c.closeOnlyMode || c.observationOnlyMode || c.sampling settings then ([], c)
  else if c.validatedEdgeRequired then
    match c.validatedEdgeNetExpectancy with
    | none => (["validated_edge_stats_missing_or_stale"], c)
    | some edge => (codeIf (edge ≤ 0) "net_edge_after_cost_negative", { c with estimatedNetEdgeAfterCost := some edge })
  else
    match c.metaLabelWinRate, c.metaLabelAverageWin, c.metaLabelAverageLoss, c.roundTripFeeRate, c.roundTripSlippageRate with
    | some winRate, some averageWin, some averageLoss, some fee, some slippage =>
      let edge := netEdgeAfterCost winRate averageWin averageLoss fee slippage
      (codeIf (edge ≤ 0) "net_edge_after_cost_negative", { c with estimatedNetEdgeAfterCost := some edge })
    | _, _, _, _, _ => (codeIf (c.decisionPipeline ≠ none) "missing_meta_edge_stats", c)

/-- The share of the equity that a request asks for. -/
def ExecutionRiskState.requestedFraction (st : ExecutionRiskState) : ℚ := st.requestedNotional / st.accountEquity

/-- The drawdown of an account. -/
def ExecutionRiskState.drawdown (st : ExecutionRiskState) : ℚ := max 0 ((st.equityPeak - st.accountEquity) / st.equityPeak)

/-- The codes of a state that the equity can be divided by. -/
def numericRiskCodes (profile : RiskProfile) (direction : Direction) (c : EntryContext) (st : ExecutionRiskState) : List String :=
  let requested := st.requestedFraction
  let signed := if direction = .long then requested else -requested
  codeIf (profile.maxSymbolExposure < st.symbolExposure + requested) "max_symbol_exposure_exceeded" ++
  codeIf (profile.maxTotalExposure < st.totalExposure + requested) "max_total_exposure_exceeded" ++
  (if st.portfolioCorrelationAvailable = false then ["portfolio_correlation_unavailable"]
    else if c.correlatedPeerCountLimit ≤ st.highCorrelationPeerCount then ["correlated_exposure_limit_exceeded"]
    else codeIf (c.correlatedClusterExposureLimit < st.correlatedClusterExposure + requested)
      "correlated_cluster_exposure_exceeded") ++
  codeIf (c.isHedgeLeg = false ∧ c.netDirectionalExposureLimit < |st.netDirectionalExposure + signed|)
    "net_directional_exposure_exceeded" ++
  codeIf (profile.maxOpenPositions ≤ st.openPositions) "max_open_positions_exceeded" ++
  codeIf (profile.maxLeverage < st.requestedLeverage) "max_leverage_exceeded" ++
  codeIf (profile.singleTradeRiskLimit < st.requestedStopRiskFraction) "single_trade_stop_risk_exceeded" ++
  codeIf (c.maxPortfolioInitialRiskFraction < st.portfolioInitialRiskFraction + st.requestedStopRiskFraction)
    "portfolio_initial_risk_exceeded" ++
  codeIf (st.accountEquity * profile.dailyLossLimit ≤ |min st.dailyRealizedPnl 0|) "daily_loss_limit_breached" ++
  codeIf (st.accountEquity * profile.weeklyLossLimit ≤ |min st.weeklyRealizedPnl 0|) "weekly_loss_limit_breached" ++
  (if profile.hardStopDrawdownLimit ≤ st.drawdown then ["hard_stop_drawdown_breached"]
    else codeIf (profile.drawdownLimit ≤ st.drawdown) "drawdown_limit_breached") ++
  codeIf (profile.consecutiveLossLimit ≤ st.consecutiveLosses) "consecutive_loss_limit_breached" ++
  codeIf (0 < st.consecutiveLosses ∧ 0 < st.symbolExposure ∧ st.symbolExposure * 2 < requested) "martingale_detected" ++
  codeIf (profile.apiFailureLimit ≤ st.apiFailuresWindow) "api_failure_limit_breached"

/-- `_evaluate_numeric_risk`. -/
def evaluateNumericRisk (profile : RiskProfile) (r : ExecutionOrderRequest) : List String :=
  match r.riskState with
  | none => []
  | some st =>
    if r.entryContext.closeOnlyMode then []
    else if st.accountEquity ≤ 0 ∨ st.equityPeak ≤ 0 then ["invalid_risk_state"]
    else numericRiskCodes profile r.direction r.entryContext st

/-- The codes of the validation run of a request. -/
def ExecutionOrderRequest.validationRejections (r : ExecutionOrderRequest) (facts : GateFacts) : List String :=
  if r.validationBacktestRunId.any (· != "") then
    match facts.backtest with
    | none => ["validation_run_not_found"]
    | some result => codeIf (result ≠ some true) "validation_gate_rejected"
  else ["missing_validation_run"]

/-- The codes of `validate_entry`, in the order of its checks. -/
def ExecutionOrderRequest.entryRejections (r : ExecutionOrderRequest) (settings : GateSettings) (facts : GateFacts) :
    List String :=
  let c := r.entryContext
  let profile := if r.riskProfileId.any (· != "") then facts.storedProfile.getD {} else {}
  codeIf (c.entryEnabled = some false) "manifest_entry_disabled" ++
  codeIf (facts.killSwitchTriggered = true) "kill_switch_active" ++
  codeIf (r.stoplossPlan = [] ∧ c.closeOnlyMode = false) "missing_stoploss" ++
  codeIf (r.veto = some true) "llm_veto" ++
  r.validationRejections facts ++
  codeIf (r.riskProfileId.any (· != "") = true ∧ facts.storedProfile.isNone = true) "risk_profile_not_found" ++
  (if r.riskState.isNone && !c.closeOnlyMode then ["missing_risk_state"] else evaluateNumericRisk profile r) ++
  codeIf (facts.isFresh = false) "data_not_fresh" ++
  codeIf (facts.blockingRiskEvent = true) "blocking_risk_event" ++
  (netEdgeRejectionCodes settings c).1

/-- `_positive_number`. -/
def positiveNumber (value : Option ℚ) : Option ℚ := value.filter fun x => decide (0 < x)

/-- The codes of `validate_reduce_risk_exit`. -/
def ExecutionOrderRequest.exitRejections (r : ExecutionOrderRequest) : List String :=
  let c := r.entryContext
  let side := (c.authoritativePositionSide.getD "").toLower
  codeIf (¬(c.closeOnlyMode = true ∧ c.reduceOnly = true)) "reduce_risk_semantics_required" ++
  (match positiveNumber c.authoritativePositionQuantity, positiveNumber c.quantity with
    | none, _ => ["authoritative_exchange_position_required"]
    | some _, none => ["reduce_quantity_required"]
    | some authoritative, some quantity => codeIf (authoritative < quantity) "reduce_quantity_exceeds_exchange_position") ++
  (if side ≠ "long" ∧ side ≠ "short" then ["authoritative_position_side_required"]
    else codeIf (r.direction.value ≠ side) "reduce_direction_mismatch") ++
  codeIf (r.cycleSource = some "runtime_scheduler" ∧ (r.schedulerInstanceId = none ∨ r.fencingToken = none))
    "scheduler_fence_required" ++
  codeIf (c.exchangeAvailable = some false) "exchange_unavailable"

/-! ## Orders -/

/-- The columns of `uq_order_strategy_symbol_candle_intent`. -/
structure IntentIdentity where
  strategyId : String
  symbol : String
  timeframe : Option String
  signalCandleCloseTime : Option ℤ
  intentType : Option String
  deriving DecidableEq, Repr

/-- No column is null, so the unique constraint applies. -/
def IntentIdentity.keyed (k : IntentIdentity) : Bool :=
  k.timeframe.isSome && k.signalCandleCloseTime.isSome && k.intentType.isSome

/-- Every column is truthy, so the identity is looked for. -/
def IntentIdentity.complete (k : IntentIdentity) : Bool :=
  k.strategyId != "" && k.symbol != "" && k.timeframe.any (· != "") && k.signalCandleCloseTime.isSome &&
    k.intentType.any (· != "")

/-- `OrderExecution`: an order, and its row. -/
structure OrderExecution where
  orderExecutionId : String
  identity : IntentIdentity
  executionStatus : String
  closeOnlyMode : Bool
  stoplossPresent : Bool
  rejectionReason : Option String
  rejectionCodes : List String
  gatewayOrderId : Option String := none
  gatewayStatus : Option String := none
  deriving DecidableEq, Repr

/-- The reason that codes are stored as. -/
def rejectionReason (codes : List String) : Option String := if codes = [] then none else some (";".intercalate codes)

/-- The order of `validate_entry`. -/
def ExecutionOrderRequest.entryOrder (r : ExecutionOrderRequest) (settings : GateSettings) (facts : GateFacts) (uuid : String) :
    OrderExecution where
  orderExecutionId := uuid
  identity :=
    { strategyId := r.strategyId
      symbol := r.symbol
      timeframe := some r.entryContext.timeframe
      signalCandleCloseTime := r.tradeIntent.map GatedIntent.signalCandleCloseTime
      intentType := r.tradeIntent.map GatedIntent.action }
  executionStatus := if r.entryRejections settings facts = [] then "accepted" else "rejected"
  closeOnlyMode := r.entryContext.closeOnlyMode
  stoplossPresent := !r.stoplossPlan.isEmpty
  rejectionReason := rejectionReason (r.entryRejections settings facts)
  rejectionCodes := r.entryRejections settings facts

/-- The order of `validate_reduce_risk_exit`. -/
def ExecutionOrderRequest.exitOrder (r : ExecutionOrderRequest) (uuid : String) : OrderExecution where
  orderExecutionId := uuid
  identity :=
    { strategyId := r.strategyId
      symbol := r.symbol
      timeframe := some r.entryContext.timeframe
      signalCandleCloseTime := r.tradeIntent.map GatedIntent.signalCandleCloseTime
      intentType := some ((r.tradeIntent.map GatedIntent.action).getD "REDUCE") }
  executionStatus := if r.exitRejections = [] then "PRETRADE_APPROVED" else "PRETRADE_REJECTED"
  closeOnlyMode := true
  stoplossPresent := false
  rejectionReason := rejectionReason r.exitRejections
  rejectionCodes := r.exitRejections

/-- The orders, and what went to the gateway: the order and its identity. `rewritten` are the orders whose status a duplicate
wrote, and `refused` those that `_ensure_validation_admitted` refused. -/
structure OrderStore where
  orders : List OrderExecution := []
  sent : List (String × IntentIdentity) := []
  rewritten : List String := []
  refused : List String := []
  deriving DecidableEq, Repr

/-- `find_order_by_intent_identity`. -/
def OrderStore.findOrderByIntentIdentity (s : OrderStore) (k : IntentIdentity) : Option OrderExecution :=
  if k.complete then s.orders.find? fun o => decide (o.identity = k) else none

/-- The constraints of the table. `broken` stands for a reference that does not exist. -/
def OrderStore.admits (s : OrderStore) (order : OrderExecution) (broken : Bool) : Bool :=
  !broken && s.orders.all fun o =>
    decide (o.orderExecutionId ≠ order.orderExecutionId ∧ (order.identity.keyed = true → o.identity ≠ order.identity))

/-- `update_order`. -/
def OrderStore.updateOrder (s : OrderStore) (id : String) (f : OrderExecution → OrderExecution) : OrderStore :=
  { s with orders := Table.modify OrderExecution.orderExecutionId s.orders id f }

/-- The answer for an order whose identity is stored already. -/
def OrderExecution.duplicate (o : OrderExecution) : OrderExecution :=
  { o with
    executionStatus := "duplicate_skipped"
    rejectionReason := some "duplicate_candle_intent"
    rejectionCodes := ["duplicate_candle_intent"] }

/-! ## Calls -/

/-- Where a `submit_live_order` stands. -/
inductive LiveSubmission where
  /-- Before the gates. -/
  | submit (request : ExecutionOrderRequest)
  /-- `create_order_once`: before its search, its insertion, and its search after a conflict. -/
  | find (order : OrderExecution) (reduces : Bool)
  | insert (order : OrderExecution) (reduces : Bool)
  | refind (order : OrderExecution) (reduces : Bool)
  /-- Before the status of an exit is written. -/
  | settle (result : OrderExecution)
  /-- An accepted order, before it is sent, and before the gateway's answer is written. -/
  | send (result : OrderExecution)
  | record (result : OrderExecution) (gatewayOrderId gatewayStatus : Option String)

/-- How `_ensure_validation_admitted` ends: it passes, it raises where the validation run is missing, or the assessment of the run
fails. -/
inductive ValidationAdmission where
  | passed
  | missing
  | failed (reason : Option String) (failedThresholds : List String)

/-- What a statement reads elsewhere: the facts of the gates, the id of the order, whether an insertion breaks another
constraint, how the validation of an accepted order ends, and the gateway's answer, or that it raises. -/
structure SubmissionInput where
  settings : GateSettings
  facts : GateFacts := {}
  uuid : String := ""
  broken : Bool := false
  admission : ValidationAdmission := .passed
  gateway : Option (Option String × Option String) := none

/-- How a call goes on with the gatekeeper's answer. -/
def LiveSubmission.answered (result : OrderExecution) (reduces : Bool) : Option LiveSubmission :=
  if reduces then some (.settle result) else if result.executionStatus = "accepted" then some (.send result) else none

/-- The status that the compatibility entry point gives an exit. -/
def compatibilityStatus (executionStatus : String) : String :=
  if executionStatus = "PRETRADE_APPROVED" then "accepted" else "rejected"

/-- The next statement of a call. A call that returns or raises is gone. -/
@[grind =] def LiveSubmission.next (input : SubmissionInput) : LiveSubmission → OrderStore → Option LiveSubmission × OrderStore
  | .submit r, s =>
    (some (if r.entryContext.closeOnlyMode then .find (r.exitOrder input.uuid) true
      else .find (r.entryOrder input.settings input.facts input.uuid) false), s)
  | .find order reduces, s =>
    match s.findOrderByIntentIdentity order.identity with
    | some existing => (answered existing.duplicate reduces, s)
    | none => (some (.insert order reduces), s)
  | .insert order reduces, s =>
    if s.admits order input.broken then (answered order reduces, { s with orders := s.orders ++ [order] })
    else (some (.refind order reduces), s)
  | .refind order reduces, s =>
    match s.findOrderByIntentIdentity order.identity with
    | some existing => (answered existing.duplicate reduces, s)
    | none => (none, s)
  | .settle result, s =>
    let status := compatibilityStatus result.executionStatus
    (if status = "accepted" then some (.send { result with executionStatus := status }) else none,
      { s.updateOrder result.orderExecutionId fun o => { o with executionStatus := status } with
        rewritten := if result.executionStatus = "duplicate_skipped" then s.rewritten ++ [result.orderExecutionId]
          else s.rewritten })
  | .send result, s =>
    match input.admission with
    | .passed =>
      (input.gateway.map fun answer => .record result answer.1 answer.2,
        { s with sent := s.sent ++ [(result.orderExecutionId, result.identity)] })
    | .missing => (none, s)
    | .failed reason failedThresholds =>
      (none,
        { s.updateOrder result.orderExecutionId fun o =>
            { o with
              executionStatus := "rejected"
              rejectionReason := reason
              rejectionCodes := result.rejectionCodes ++ failedThresholds } with
          refused := s.refused ++ [result.orderExecutionId] })
  | .record result gatewayOrderId gatewayStatus, s =>
    (none, s.updateOrder result.orderExecutionId fun o => { o with gatewayOrderId, gatewayStatus })

/-- The calls that begin. -/
def LiveSubmission.Starts : LiveSubmission → Prop
  | .submit _ => True
  | _ => False

/-- The store after statements in an order. -/
def OrderStore.runSubmissions (s : OrderStore) (ops : List (Sessions.Op LiveSubmission SubmissionInput)) : OrderStore :=
  (Sessions.World.run LiveSubmission.next { stored := s } ops).stored

/-! ## The halt -/

/-- `KillSwitch`, of one process. -/
structure KillSwitch where
  hasClient : Bool := false
  memoryFlag : Bool := false
  triggeredReason : Option String := none

/-- The key of the halt, and the switches of the processes. -/
structure KillSwitches where
  stored : Option String := none
  process : ℕ → KillSwitch := fun _ => {}

/-- What happens to the halt. `reachable` tells whether the process reaches the store; a process that restarts forgets its
flag; an operator may write the key. -/
inductive KillOp where
  | activate (p : ℕ) (reachable : Bool) (reason : String)
  | deactivate (p : ℕ) (reachable : Bool)
  | restart (p : ℕ)
  | write (value : Option String)

/-- A step of the halt. -/
@[grind =] def KillSwitches.step (k : KillSwitches) : KillOp → KillSwitches
  | .activate p reachable reason =>
    { stored := if (k.process p).hasClient && reachable then some "1" else k.stored
      process := Function.update k.process p { k.process p with memoryFlag := true, triggeredReason := some reason } }
  | .deactivate p reachable =>
    { stored := if (k.process p).hasClient && reachable then none else k.stored
      process := Function.update k.process p { k.process p with memoryFlag := false, triggeredReason := none } }
  | .restart p => { k with process := Function.update k.process p { hasClient := (k.process p).hasClient } }
  | .write value => { k with stored := value }

/-- `is_triggered`. -/
def KillSwitches.isTriggered (k : KillSwitches) (settings : GateSettings) (p : ℕ) (reachable : Bool) : Bool :=
  settings.killSwitchEnabled && ((k.process p).memoryFlag ||
    ((k.process p).hasClient && reachable && k.stored.any (· != "0")))

/-- The halt after steps. -/
def KillSwitches.run (k : KillSwitches) (ops : List KillOp) : KillSwitches := ops.foldl KillSwitches.step k

end TradingPlatform
