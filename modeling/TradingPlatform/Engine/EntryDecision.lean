import TradingPlatform.Engine.DecisionService
import TradingPlatform.Engine.Entry

/-!
# The decision of a cycle

The part of `run_automated_trading_cycle` (`application/cycle_service.py`) from the entry data to the candidate, and what
`v2_scheduler_entry.py` makes of it: the payload of the decision, its row, and the bars that count as evaluated. Of a payload
there is what the scheduler reads of it.
-/

namespace TradingPlatform

/-- The text of a lane. -/
def CandidateLane.value : CandidateLane → String
  | .production => "PRODUCTION"
  | .testnetSampling => "TESTNET_SAMPLING"
  | .shadow => "SHADOW"

/-- `EntryAuthority`: the only writer that may open new exposure in a cycle. -/
inductive EntryAuthority where
  | production | testnetForward | testnetCanary | none
  deriving DecidableEq, Repr

/-! ## The request -/

/-- `CycleRequest` of the cycle service, as far as the decision reads it. -/
structure DecisionRequest where
  cycleId : String
  symbol : String
  timeframe : String
  entryTimeframe : TimeframeView
  directionTimeframe : Option TimeframeView := none
  stateTimeframe : Option TimeframeView := none
  executionMode : V2ExecutionMode
  engineActivation : EngineActivation
  now : ℕ
  alreadyEvaluatedBars : List ℕ := []
  entryDataReady : Bool := true
  entryDataReason : Option String := none
  samplingFallbackEnabled : Bool := false
  samplingStrategyVersion : String := "2.0.0"
  strictSamplingAlignment : Bool := false
  samplingConfirmationBars : ℤ := 0
  entryAuthority : EntryAuthority := .none
  entryAuthorityReason : String := "NO_AUTHORIZED_PRODUCTION_STRATEGY"
  productionCandidate : Option TradeCandidate := none
  productionAuthorized : Bool := false
  productionDecisionReason : String := "NO_AUTHORIZED_PRODUCTION_STRATEGY"

/-- The sampling context of a cycle. Every other field has its default. -/
def DecisionRequest.samplingContext (r : DecisionRequest) (candidateId : String) : DecisionContext where
  cycleId := r.cycleId
  symbol := r.symbol
  lane := .testnetSampling
  strategyId := "testnet_sampling_v2"
  strategyVersion := r.samplingStrategyVersion
  entryTimeframe := r.entryTimeframe
  directionTimeframe := r.directionTimeframe
  stateTimeframe := r.stateTimeframe
  strictSamplingAlignment := r.strictSamplingAlignment
  samplingConfirmationBars := r.samplingConfirmationBars
  now := r.now
  alreadyEvaluatedBars := r.alreadyEvaluatedBars
  candidateId := candidateId

/-! ## The payload -/

/-- The funnel payload of a cycle. An entry that is missing or `None` is `none`. -/
structure FunnelPayload where
  lane : Option String := none
  terminalStage : Option String := none
  reasonCode : Option String := none
  strategyTerminalReason : Option String := none
  systemFailureReason : Option String := none
  executionBlocker : Option String := none
  entryBarRetryable : Bool := false
  deriving DecidableEq, Repr

/-- `_append_funnel_stage`, as far as it moves the end of the funnel. -/
def FunnelPayload.appendStage (p : FunnelPayload) (stage reasonCode : String) : FunnelPayload :=
  { p with terminalStage := some stage, reasonCode := some reasonCode }

/-- `a or b` of two texts that may be missing or empty. -/
def orElseText (a b : Option String) : Option String :=
  match a with
  | none => b
  | some t => if t = "" then b else some t

/-- `_apply_runtime_entry_pause`. -/
def FunnelPayload.pause (p : FunnelPayload) (entryEnabled : Bool) : FunnelPayload :=
  if entryEnabled then p
  else
    { p with
      strategyTerminalReason := orElseText p.strategyTerminalReason p.reasonCode
      executionBlocker := some "ENTRY_KILL_SWITCH_ACTIVE" }

/-- `_sampling_execution_allowed`. -/
def DecisionRequest.samplingExecutionAllowed (r : DecisionRequest) (candidate : TradeCandidate) : Bool :=
  decide (r.entryAuthority = .testnetCanary ∧ r.executionMode = .binanceTestnet ∧ r.engineActivation = .active ∧
    candidate.lane = .testnetSampling) && r.samplingFallbackEnabled && candidate.nonPromotable

/-- A candidate of the production lane that may write. -/
def DecisionRequest.productionCandidateReady (r : DecisionRequest) : Option TradeCandidate :=
  r.productionCandidate.filter fun candidate =>
    r.productionAuthorized && decide (candidate.lane = .production ∧ candidate.candidateType = .primary) &&
      !candidate.nonPromotable

/-- What the decision of a cycle ends in: its payload, what the evaluation returned, and the candidate it goes on with. -/
structure CycleDecision where
  payload : FunnelPayload
  outcome : Option DecisionOutcome := none
  candidate : Option TradeCandidate := none

/-- The payload of a candidate. Its lane is the production lane, whoever wrote the candidate. -/
def candidatePayloadOf (entryEnabled : Bool) : FunnelPayload :=
  { lane := some CandidateLane.production.value, terminalStage := some "MANIFEST_EVALUATED",
    reasonCode := some "CANDIDATE_READY" : FunnelPayload }.pause entryEnabled

/-- The decision under the sampling authority. -/
def DecisionRequest.decideCanary (r : DecisionRequest) (entryEnabled : Bool) (candidateId : String) :
    Except PyError CycleDecision := do
  let sampling ← evaluateSymbol (r.samplingContext candidateId)
  match sampling.candidate with
  | none =>
    return { payload :=
              { lane := some CandidateLane.testnetSampling.value, terminalStage := some sampling.terminalStage.value,
                reasonCode := some sampling.reasonCode.value : FunnelPayload }.pause entryEnabled,
             outcome := some sampling }
  | some candidate =>
    if r.samplingExecutionAllowed candidate then
      return { payload := candidatePayloadOf entryEnabled, outcome := some sampling, candidate := some candidate }
    else .error (.clientError "TESTNET_CANARY candidate bypassed its authority contract")

/-- The decision without an authority: the sampling evaluation is only observed. -/
def DecisionRequest.decidePaused (r : DecisionRequest) (entryEnabled : Bool) (candidateId : String) :
    Except PyError CycleDecision := do
  let sampling ← evaluateSymbol (r.samplingContext candidateId)
  let reason :=
    if r.productionAuthorized then r.productionDecisionReason
    else textOr (some r.entryAuthorityReason) "NO_AUTHORIZED_PRODUCTION_STRATEGY"
  return { payload :=
            { lane := some CandidateLane.production.value, terminalStage := some "RISK_APPROVED", reasonCode := some reason,
              executionBlocker := some reason : FunnelPayload }.pause entryEnabled,
           outcome := some sampling }

/-- The decision under a production or a forward authority. -/
def DecisionRequest.decideProduction (r : DecisionRequest) (entryEnabled : Bool) : CycleDecision :=
  if r.productionAuthorized ∧ r.productionCandidate.isNone then
    { payload :=
        { lane := some CandidateLane.production.value, terminalStage := some "MANIFEST_EVALUATED",
          reasonCode := some r.productionDecisionReason : FunnelPayload }.pause entryEnabled }
  else
    match r.productionCandidateReady with
    | none =>
      { payload :=
          { lane := some CandidateLane.production.value, terminalStage := some "RISK_APPROVED",
            reasonCode := some "NO_AUTHORIZED_PRODUCTION_STRATEGY" : FunnelPayload }.pause entryEnabled }
    | some candidate => { payload := candidatePayloadOf entryEnabled, candidate := some candidate }

/-- The part of `run_automated_trading_cycle` that decides. -/
def DecisionRequest.decide (r : DecisionRequest) (entryEnabled : Bool) (candidateId : String) : Except PyError CycleDecision :=
  if r.entryDataReady = false then
    let reason := textOr r.entryDataReason "ENTRY_DATA_NOT_READY"
    .ok { payload :=
            { lane := some CandidateLane.production.value, terminalStage := some "ENTRY_DATA_NOT_READY",
              reasonCode := some reason, systemFailureReason := some reason, entryBarRetryable := true } }
  else
    match r.entryAuthority with
    | .none => r.decidePaused entryEnabled candidateId
    | .testnetCanary => r.decideCanary entryEnabled candidateId
    | .production | .testnetForward => .ok (r.decideProduction entryEnabled)

/-! ## The row of a decision -/

/-- `_STRATEGY_TERMINAL_REASONS`. -/
def strategyTerminalReasons : List String :=
  ["NO_ENTRY_SIGNAL", "MACD_DIRECTION_MISMATCH", "RSI_OUTSIDE_RANGE", "MULTI_TIMEFRAME_DISAGREEMENT", "INSUFFICIENT_HISTORY",
    "ATR_NOT_POSITIVE", "DUPLICATE_DECISION"]

/-- `_EXECUTION_BLOCKER_REASONS`. -/
def executionBlockerReasons : List String :=
  ["ENTRY_KILL_SWITCH_ACTIVE", "POSITION_ALREADY_OPEN", "MAX_OPEN_EXPOSURES", "DAILY_TRADE_LIMIT_REACHED",
    "SYMBOL_COOLDOWN_ACTIVE", "PRICE_DRIFT_EXCEEDED", "NO_TRADE_COST_INEFFICIENT", "MANUAL_POSITION_DIRECTION_CONFLICT",
    "NO_AUTHORIZED_PRODUCTION_STRATEGY", "NO_FORWARD_VALIDATION_CANDIDATE"]

/-- The reasons of a payload that has none yet, from its single reason code. -/
def FunnelPayload.spreadReason (p : FunnelPayload) : FunnelPayload :=
  match orElseText p.reasonCode none with
  | none => { p with systemFailureReason := some "DECISION_REASON_MISSING" }
  | some reason =>
    if reason ∈ strategyTerminalReasons then { p with strategyTerminalReason := some reason }
    else if reason ∈ executionBlockerReasons then { p with executionBlocker := some reason }
    else { p with systemFailureReason := some reason }

/-- The first reason that a payload gives. -/
def FunnelPayload.terminalReason (p : FunnelPayload) : Option String :=
  orElseText p.strategyTerminalReason (orElseText p.systemFailureReason (orElseText p.executionBlocker none))

/-- `_normalize_reason_dimensions`. -/
def FunnelPayload.normalizeReasons (p : FunnelPayload) : FunnelPayload :=
  let p := if p.terminalReason.isNone then p.spreadReason else p
  match p.terminalReason with
  | some reason => { p with reasonCode := some reason }
  | none => { p with systemFailureReason := some "DECISION_PAYLOAD_INVALID", reasonCode := some "DECISION_PAYLOAD_INVALID" }

/-- A `V2ExecutionDecision` and the `V2ExecutionCycle` it belongs to. A payload that is no mapping is `none`. -/
structure DecisionRow where
  symbol : String
  timeframe : String
  executionMode : V2ExecutionMode
  barTimestamp : ℕ
  decisionTerminal : Option String
  payload : Option FunnelPayload
  deriving DecidableEq

/-- A row counts as a terminal decision of the lane. -/
def DecisionRow.countsFor (row : DecisionRow) (symbol timeframe : String) (mode : V2ExecutionMode) (lane : CandidateLane) :
    Bool :=
  Decidable.decide (row.symbol = symbol ∧ row.timeframe = timeframe ∧ row.executionMode = mode) &&
    row.decisionTerminal.isSome &&
      row.payload.any fun payload =>
        Decidable.decide (payload.lane.getD "" = lane.value) &&
          Decidable.decide (payload.systemFailureReason ≠ some "ENTRY_DATA_NOT_READY") && !payload.entryBarRetryable

/-- `_load_already_evaluated_bars`. -/
def loadAlreadyEvaluatedBars (rows : List DecisionRow) (symbol timeframe : String) (mode : V2ExecutionMode)
    (lane : CandidateLane) : List ℕ :=
  (rows.filter fun row => row.countsFor symbol timeframe mode lane).map (·.barTimestamp)

/-! ## One cycle of the scheduler for a symbol -/

/-- `_latest_closed_timestamp`: when the last bar that takes `seconds` closed. -/
def latestClosedTimestamp (now seconds : ℕ) : ℕ :=
  let timestamp := now / 1000000
  (timestamp - timestamp % seconds) * 1000000

/-- The last bar of a timeframe is the one that closed last. -/
def TimeframeView.upToDate (t : Option TimeframeView) (now seconds : ℕ) : Bool :=
  (t.bind TimeframeView.lastClosed).any fun bar => Decidable.decide (latestClosedTimestamp now seconds ≤ bar.timestamp)

/-- `_entry_data_readiness`. -/
def entryDataReadiness (now : ℕ) (entry : TimeframeView) (direction state : Option TimeframeView) : Bool :=
  TimeframeView.upToDate (some entry) now 900 && TimeframeView.upToDate direction now 3600 &&
    TimeframeView.upToDate state now 14400

/-- What a cycle of the scheduler finds for a symbol. -/
structure SymbolCycle where
  cycleId : String
  now : ℕ
  barSlot : ℕ
  entryTimeframe : TimeframeView
  directionTimeframe : Option TimeframeView
  stateTimeframe : Option TimeframeView
  engineActivation : EngineActivation
  samplingFallbackEnabled : Bool
  entryAuthority : EntryAuthority
  entryAuthorityReason : String
  productionCandidate : Option TradeCandidate := none
  productionAuthorized : Bool := false
  productionDecisionReason : String := "NO_AUTHORIZED_PRODUCTION_STRATEGY"
  entryEnabled : Bool := true
  /-- The id that a candidate of this cycle gets. -/
  candidateId : String
  /-- The cycle before the decision: it raises, returns without a payload, or goes on. -/
  management : Except PyError Bool := .ok true
  /-- The stages after the candidate with their reasons, or what is raised there. -/
  later : Except PyError (List (String × String)) := .ok []
  /-- `_finalize_v2_cycle_decision` commits. -/
  finalizes : Bool := true

namespace SymbolCycle

variable (k : SymbolCycle)

/-- The bar of the row. -/
def barTimestamp : ℕ := k.entryTimeframe.lastClosed.elim k.barSlot (·.timestamp)

/-- The lane whose decisions the scheduler loads. -/
def lane : CandidateLane := if k.entryAuthority = .testnetCanary then .testnetSampling else .production

/-- The request of the scheduler. -/
def request (symbol timeframe : String) (mode : V2ExecutionMode) (alreadyEvaluatedBars : List ℕ) : DecisionRequest :=
  let canary := Decidable.decide (k.entryAuthority = .testnetCanary)
  let ready := entryDataReadiness k.now k.entryTimeframe k.directionTimeframe k.stateTimeframe
  { cycleId := k.cycleId, symbol, timeframe, entryTimeframe := k.entryTimeframe, directionTimeframe := k.directionTimeframe,
    stateTimeframe := k.stateTimeframe, executionMode := mode, engineActivation := k.engineActivation, now := k.now,
    alreadyEvaluatedBars, entryDataReady := ready, entryDataReason := if ready then none else some "ENTRY_DATA_NOT_READY",
    samplingFallbackEnabled := k.samplingFallbackEnabled, samplingStrategyVersion := if canary then "2.1.0" else "2.0.0",
    strictSamplingAlignment := canary, samplingConfirmationBars := if canary then 2 else 0,
    entryAuthority := k.entryAuthority, entryAuthorityReason := k.entryAuthorityReason,
    productionCandidate := k.productionCandidate, productionAuthorized := k.productionAuthorized,
    productionDecisionReason := k.productionDecisionReason }

/-- What is left of a cycle once it has decided: the payload with the stages after a candidate. -/
def finishPayload (decision : CycleDecision) : Except PyError FunnelPayload :=
  match decision.candidate with
  | none => .ok decision.payload
  | some _ => k.later.map fun stages => stages.foldl (fun p stage => p.appendStage stage.1 stage.2) decision.payload

end SymbolCycle

/-- What is known of a cycle afterwards. -/
structure SymbolCycleLog where
  /-- What `evaluate_symbol` returned, if it was called and returned. -/
  outcome : Option DecisionOutcome := none
  /-- The payload was persisted as terminal. -/
  persisted : Bool := false

/-- The bar of the candidate that `evaluate_symbol` returned. -/
def SymbolCycleLog.candidateBar (log : SymbolCycleLog) : Option ℕ :=
  (log.outcome.bind (·.candidate)).map (·.signalCandleCloseTime)

/-- `_finalize_v2_cycle_decision` for a payload. -/
def finalizeDecision (rows : List DecisionRow) (symbol timeframe : String) (mode : V2ExecutionMode) (barTimestamp : ℕ)
    (payload : FunnelPayload) : List DecisionRow :=
  rows ++ [{ symbol, timeframe, executionMode := mode, barTimestamp,
             decisionTerminal := some (textOr payload.terminalStage "DECISION_PAYLOAD_INVALID"),
             payload := some payload.normalizeReasons }]

section Run

variable (symbol timeframe : String) (mode : V2ExecutionMode) (rows : List DecisionRow) (k : SymbolCycle)

/-- A cycle that has its payload. -/
def finalizeCycle (outcome : Option DecisionOutcome) (payload : FunnelPayload) : SymbolCycleLog × List DecisionRow :=
  if k.finalizes then
    ({ outcome, persisted := true }, finalizeDecision rows symbol timeframe mode k.barTimestamp payload)
  else ({ outcome }, rows)

/-- A cycle that has decided. -/
def concludeCycle (decision : CycleDecision) : SymbolCycleLog × List DecisionRow :=
  match k.finishPayload decision with
  | .error _ => ({ outcome := decision.outcome }, rows)
  | .ok payload => finalizeCycle symbol timeframe mode rows k decision.outcome payload

/-- One cycle of the scheduler for a symbol: what is known of it, and the rows after it. -/
def runDecisionCycle : SymbolCycleLog × List DecisionRow :=
  match k.management with
  | .error _ => ({}, rows)
  | .ok false => finalizeCycle symbol timeframe mode rows k none {}
  | .ok true =>
    let r := k.request symbol timeframe mode (loadAlreadyEvaluatedBars rows symbol timeframe mode k.lane)
    match r.decide k.entryEnabled k.candidateId with
    | .error _ =>
      -- the evaluation raised, or returned a candidate that the contract refuses
      ({ outcome := (evaluateSymbol (r.samplingContext k.candidateId)).toOption }, rows)
    | .ok decision => concludeCycle symbol timeframe mode rows k decision

end Run

/-- The cycles of the scheduler for a symbol, one after the other. -/
def runDecisionCycles (symbol timeframe : String) (mode : V2ExecutionMode) :
    List DecisionRow → List SymbolCycle → List SymbolCycleLog × List DecisionRow
  | rows, [] => ([], rows)
  | rows, k :: ks =>
    let (log, rows') := runDecisionCycle symbol timeframe mode rows k
    let (logs, rows'') := runDecisionCycles symbol timeframe mode rows' ks
    (log :: logs, rows'')

end TradingPlatform
