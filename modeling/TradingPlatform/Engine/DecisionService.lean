import Mathlib.Data.Finmap
import Mathlib.Tactic.Positivity
import TradingPlatform.Domain.Candidate

/-!
# Decisions

`application/decision_service.py` and the records of `observability/decision_funnel.py`: one evaluation of a closed bar ends in
one outcome, with every stage it went through. Instants are in microseconds. The arithmetic is exact.
-/

namespace TradingPlatform

/-! ## Bars -/

/-- `BarView`: a bar and the instant at which it closed. -/
structure BarView where
  timestamp : ℕ
  openPrice : ℚ
  high : ℚ
  low : ℚ
  close : ℚ
  volume : ℚ
  deriving DecidableEq, Repr

/-- `TimeframeView`: closed bars, oldest first. -/
structure TimeframeView where
  timeframe : String
  bars : List BarView
  deriving DecidableEq, Repr

/-- `last_closed`. -/
def TimeframeView.lastClosed (t : TimeframeView) : Option BarView := t.bars.getLast?

/-! ## The funnel -/

/-- The members of `FunnelStage` that an evaluation reaches. -/
inductive FunnelStage where
  | cycleStarted | dataAvailable | candleClosed | dataFresh | timeframesAligned | regimeEvaluated | entrySignalEvaluated
  | candidateCreated | metaLabelEvaluated | manifestEvaluated
  deriving DecidableEq, Repr

/-- The text of a stage. -/
def FunnelStage.value : FunnelStage → String
  | .cycleStarted => "CYCLE_STARTED"
  | .dataAvailable => "DATA_AVAILABLE"
  | .candleClosed => "CANDLE_CLOSED"
  | .dataFresh => "DATA_FRESH"
  | .timeframesAligned => "TIMEFRAMES_ALIGNED"
  | .regimeEvaluated => "REGIME_EVALUATED"
  | .entrySignalEvaluated => "ENTRY_SIGNAL_EVALUATED"
  | .candidateCreated => "CANDIDATE_CREATED"
  | .metaLabelEvaluated => "META_LABEL_EVALUATED"
  | .manifestEvaluated => "MANIFEST_EVALUATED"

/-- `order`: the position of a stage in the pipeline. -/
def FunnelStage.order : FunnelStage → ℕ
  | .cycleStarted => 0
  | .dataAvailable => 1
  | .candleClosed => 2
  | .dataFresh => 3
  | .timeframesAligned => 4
  | .regimeEvaluated => 5
  | .entrySignalEvaluated => 6
  | .candidateCreated => 7
  | .metaLabelEvaluated => 8
  | .manifestEvaluated => 9

/-- The members of `StageOutcome` that an evaluation records. -/
inductive StageOutcome where
  | passed | skipped | rejected
  deriving DecidableEq, Repr

/-- The members of `DecisionReasonCode` that an evaluation ends with or records. -/
inductive EvaluationReason where
  | ok | candidateReady | noMarketData | duplicateDecision | marketDataStale | insufficientHistory | singleTimeframeLane
  | multiTimeframeDisagreement | noEntrySignal | rsiOutsideRange | macdDirectionMismatch | atrNotPositive
  | metaLabelBetSkipped | metaLabelNotConfigured | manifestNotEligible
  deriving DecidableEq, Repr

/-- The text of a reason. -/
def EvaluationReason.value : EvaluationReason → String
  | .ok => "OK"
  | .candidateReady => "CANDIDATE_READY"
  | .noMarketData => "NO_MARKET_DATA"
  | .duplicateDecision => "DUPLICATE_DECISION"
  | .marketDataStale => "MARKET_DATA_STALE"
  | .insufficientHistory => "INSUFFICIENT_HISTORY"
  | .singleTimeframeLane => "SINGLE_TIMEFRAME_LANE"
  | .multiTimeframeDisagreement => "MULTI_TIMEFRAME_DISAGREEMENT"
  | .noEntrySignal => "NO_ENTRY_SIGNAL"
  | .rsiOutsideRange => "RSI_OUTSIDE_RANGE"
  | .macdDirectionMismatch => "MACD_DIRECTION_MISMATCH"
  | .atrNotPositive => "ATR_NOT_POSITIVE"
  | .metaLabelBetSkipped => "META_LABEL_BET_SKIPPED"
  | .metaLabelNotConfigured => "META_LABEL_NOT_CONFIGURED"
  | .manifestNotEligible => "MANIFEST_NOT_ELIGIBLE"

/-- A metric before it becomes text. The values a key takes have distinct texts. -/
inductive MetricValue where
  | missing
  | text (value : String)
  | texts (values : List String)
  | number (value : ℤ)
  | decimal (value : ℚ)
  | flag (value : Bool)
  deriving DecidableEq, Repr

/-- An optional decimal as a metric. -/
def MetricValue.ofDecimal : Option ℚ → MetricValue
  | none => .missing
  | some value => .decimal value

/-- The metrics of a stage: a dictionary, of which the last entry of a key counts. -/
abbrev Metrics := List (String × MetricValue)

/-- `FunnelStageRecord`. -/
structure FunnelStageRecord where
  stage : FunnelStage
  outcome : StageOutcome
  reasonCode : EvaluationReason := .ok
  metrics : Metrics := []
  deriving DecidableEq, Repr

/-- `DecisionFunnelRecord`, and the builder of one: its stages are those recorded so far. -/
structure DecisionFunnelRecord where
  strategyId : String
  strategyVersion : String
  stages : List FunnelStageRecord
  barTimestamp : Option ℕ := none
  candidateId : Option String := none
  deriving DecidableEq, Repr

/-- `record`. -/
def DecisionFunnelRecord.record (funnel : DecisionFunnelRecord) (stage : FunnelStage) (outcome : StageOutcome)
    (metrics : Metrics := []) (reasonCode : EvaluationReason := .ok) : DecisionFunnelRecord :=
  { funnel with stages := funnel.stages ++ [{ stage, outcome, reasonCode, metrics }] }

/-! ## Contexts and outcomes -/

/-- `DecisionContext`. The id is the one its factory gives to a candidate. -/
structure DecisionContext where
  cycleId : String
  symbol : String
  lane : CandidateLane
  strategyId : String
  strategyVersion : String
  entryTimeframe : TimeframeView
  directionTimeframe : Option TimeframeView := none
  stateTimeframe : Option TimeframeView := none
  strictSamplingAlignment : Bool := false
  samplingConfirmationBars : ℤ := 0
  now : ℕ
  dataStaleAfterSeconds : ℕ := 120
  alreadyEvaluatedBars : List ℕ := []
  maxEntryDriftBps : ℚ := 20
  candidateTtlSeconds : ℕ := 75
  metaLabelMinWinRate : Option ℚ := none
  metaLabelPredictor : Option (TradeCandidate → ℚ) := none
  manifestEligible : Bool := true
  manifestReason : Option EvaluationReason := none
  candidateId : String

/-- `DecisionOutcome`. -/
structure DecisionOutcome where
  cycleId : String
  symbol : String
  lane : CandidateLane
  terminalStage : FunnelStage
  reasonCode : EvaluationReason
  funnel : DecisionFunnelRecord
  candidate : Option TradeCandidate := none

/-! ## Indicators -/

/-- `ema`. -/
def ema (values : List ℚ) (period : ℕ) : Option ℚ :=
  if values.length < period then none
  else
    let multiplier : ℚ := 2 / (period + 1)
    let seed := (values.take period).sum / period
    some ((values.drop period).foldl (fun current value => (value - current) * multiplier + current) seed)

/-- The last `n` of a list and the ones before each of them. -/
def trailingPairs {α : Type} (values : List α) (n : ℕ) : List (α × α) :=
  let window := values.drop (values.length - (n + 1))
  window.zip window.tail

/-- `rsi`. -/
def rsi (values : List ℚ) (period : ℕ := 14) : Option ℚ :=
  if values.length < period + 1 then none
  else
    let deltas := (trailingPairs values period).map fun p => p.2 - p.1
    let gains := (deltas.filter fun d => decide (0 ≤ d)).sum
    let losses := ((deltas.filter fun d => decide (d < 0)).map fun d => -d).sum
    if losses = 0 then some 100
    else some (100 - 100 / (1 + gains / period / (losses / period)))

/-- `macd_histogram`. -/
def macdHistogram (values : List ℚ) (fast : ℕ := 12) (slow : ℕ := 26) (signal : ℕ := 9) : Option ℚ :=
  if values.length < slow + signal then none
  else do
    let series ← ((List.range (values.length + 1)).drop slow).mapM fun stop => do
      let fastEma ← ema (values.take stop) fast
      let slowEma ← ema (values.take stop) slow
      return fastEma - slowEma
    let signalLine ← ema series signal
    let last ← series.getLast?
    return last - signalLine

/-- The range of a bar, the close before it included. -/
def trueRange (previous current : BarView) : ℚ :=
  max (max (current.high - current.low) |current.high - previous.close|) |current.low - previous.close|

/-- `atr`. -/
def atr (bars : List BarView) (period : ℕ := 14) : Option ℚ :=
  if bars.length < period + 1 then none
  else some (((trailingPairs bars period).map fun p => trueRange p.1 p.2).sum / period)

/-! ## Signals -/

/-- `SignalEvaluation`. -/
structure SignalEvaluation where
  side : Option Direction
  reasonCode : Option EvaluationReason
  metrics : Metrics := []

/-- The side of the sampling rules, or why there is none. -/
def samplingSide (close ema50 hist rsi14 : ℚ) : Except EvaluationReason Direction :=
  if close > ema50 ∧ hist > 0 ∧ 50 ≤ rsi14 ∧ rsi14 ≤ 72 then .ok .long
  else if close < ema50 ∧ hist < 0 ∧ 28 ≤ rsi14 ∧ rsi14 ≤ 50 then .ok .short
  else if (close > ema50 ∧ hist ≤ 0) ∨ (close < ema50 ∧ hist ≥ 0) then .error .macdDirectionMismatch
  else if 72 < rsi14 ∨ rsi14 < 28 then .error .rsiOutsideRange
  else .error .noEntrySignal

/-- `evaluate_sampling_signal`. -/
def evaluateSamplingSignal (entry : TimeframeView) : SignalEvaluation :=
  match entry.lastClosed with
  | none => { side := none, reasonCode := some .noEntrySignal }
  | some last =>
    let closes := entry.bars.map (·.close)
    let metrics : Metrics :=
      [("close", .decimal last.close), ("ema50", .ofDecimal (ema closes 50)),
        ("macd_histogram", .ofDecimal (macdHistogram closes)), ("rsi14", .ofDecimal (rsi closes)),
        ("atr14", .ofDecimal (atr entry.bars))]
    match ema closes 50, macdHistogram closes, rsi closes, atr entry.bars with
    | some ema50, some hist, some rsi14, some atr14 =>
      if atr14 ≤ 0 then { side := none, reasonCode := some .atrNotPositive, metrics }
      else
        match samplingSide last.close ema50 hist rsi14 with
        | .ok side => { side := some side, reasonCode := none, metrics }
        | .error reason => { side := none, reasonCode := some reason, metrics }
    | _, _, _, _ => { side := none, reasonCode := some .insufficientHistory, metrics }

/-- `sampling_stop_distance`. -/
def samplingStopDistance (atr14 referencePrice : ℚ) : ℚ := max (6 / 5 * atr14) (referencePrice * (35 / 10000))

/-- `sampling_trend_aligned`. -/
def samplingTrendAligned (side : Direction) (timeframe : TimeframeView) : Bool :=
  let closes := timeframe.bars.map (·.close)
  match ema closes 20, ema closes 50, timeframe.lastClosed with
  | some fast, some slow, some last =>
    match side with
    | .long => decide (last.close > slow ∧ fast ≥ slow)
    | .short => decide (last.close < slow ∧ fast ≤ slow)
  | _, _, _ => false

/-! ## The evaluation -/

/-- `_candidate_type_for_lane`. -/
def candidateTypeForLane : CandidateLane → V2CandidateType
  | .testnetSampling => .sampling
  | _ => .primary

/-- A funnel that ends in a stage, and the outcome without a candidate: `_terminate`. -/
def DecisionContext.terminate (c : DecisionContext) (funnel : DecisionFunnelRecord) (stage : FunnelStage)
    (reason : EvaluationReason) (metrics : Metrics := []) (outcome : StageOutcome := .rejected) : DecisionOutcome where
  cycleId := c.cycleId
  symbol := c.symbol
  lane := c.lane
  terminalStage := stage
  reasonCode := reason
  funnel := funnel.record stage outcome metrics reason

/-- The bar is older than the context allows. -/
def DecisionContext.stale (c : DecisionContext) (bar : BarView) : Bool :=
  decide (bar.timestamp + c.dataStaleAfterSeconds * 1000000 < c.now)

/-- The age of a bar, in microseconds. -/
def DecisionContext.age (c : DecisionContext) (bar : BarView) : ℤ := (c.now : ℤ) - bar.timestamp

/-- The record of the aligned timeframes, or the metrics of what is missing. -/
def DecisionContext.alignment (c : DecisionContext) : Except Metrics FunnelStageRecord :=
  if c.strictSamplingAlignment ∧ (c.directionTimeframe.isNone ∨ c.stateTimeframe.isNone) then
    .error [("required_timeframes", .texts ["1h", "4h"])]
  else
    match c.directionTimeframe with
    | none => .ok { stage := .timeframesAligned, outcome := .skipped, reasonCode := .singleTimeframeLane }
    | some direction =>
      match direction.lastClosed with
      | none => .error [("missing_timeframe", .text direction.timeframe)]
      | some _ =>
        .ok { stage := .timeframesAligned, outcome := .passed,
              metrics := [("direction_timeframe", .text direction.timeframe)] }

/-- How many earlier bars must confirm a side. -/
def DecisionContext.confirmations (c : DecisionContext) : ℕ := c.samplingConfirmationBars.toNat

/-- The bars without the last `offset` of them. -/
def TimeframeView.without (t : TimeframeView) (offset : ℕ) : TimeframeView :=
  { t with bars := t.bars.take (t.bars.length - offset) }

/-- The first earlier bar that does not confirm the side. -/
def DecisionContext.failedConfirmation (c : DecisionContext) (side : Direction) : Option ℕ :=
  ((List.range c.confirmations).map (· + 1)).find? fun offset =>
    decide ((evaluateSamplingSignal (c.entryTimeframe.without offset)).side ≠ some side)

/-- The text of a side. -/
def sideValue : Direction → String
  | .long => "LONG"
  | .short => "SHORT"

/-- Why a strict context refuses a side, if it does. Both timeframes are there: the alignment saw them. -/
def DecisionContext.strictRefusal (c : DecisionContext) (side : Direction) (signalMetrics : Metrics) : Option Metrics :=
  if c.strictSamplingAlignment = false then none
  else if ¬(c.directionTimeframe.any (samplingTrendAligned side) ∧ c.stateTimeframe.any (samplingTrendAligned side)) then
    some (signalMetrics ++ [("side", .text (sideValue side)), ("mtf_alignment_passed", .flag false),
      ("strict_alignment", .flag false)])
  else
    (c.failedConfirmation side).map fun offset =>
      signalMetrics ++ [("side", .text (sideValue side)), ("mtf_alignment_passed", .flag true),
        ("confirmation_bars_passed", .flag false), ("strict_alignment", .flag true),
        ("confirmation_bars", .number c.confirmations), ("failed_confirmation_offset", .number offset)]

/-- The candidate of a signal, if its checks pass. The number an error text ends with is left out. -/
def DecisionContext.createCandidate (c : DecisionContext) (bar : BarView) (side : Direction) (atr14 : ℚ) (hatr : 0 < atr14) :
    Except PyError TradeCandidate :=
  let stopDistance := samplingStopDistance atr14 bar.close
  have hstop : 0 < stopDistance := lt_max_of_lt_left (by positivity)
  if hprice : 0 < bar.close then
    if hdrift : 0 < c.maxEntryDriftBps then
      if hexpiry : bar.timestamp < c.now + c.candidateTtlSeconds * 1000000 then
        if hlane : c.lane ≠ .shadow then
          .ok
            { candidateId := c.candidateId, cycleId := c.cycleId, strategyId := c.strategyId,
              strategyVersion := c.strategyVersion, lane := c.lane, candidateType := candidateTypeForLane c.lane,
              symbol := c.symbol, side, signalCandleCloseTime := bar.timestamp, signalReferencePrice := bar.close,
              stopDistance, takeProfitDistance := some (3 / 2 * stopDistance), maxEntryDriftBps := c.maxEntryDriftBps,
              expiresAt := c.now + c.candidateTtlSeconds * 1000000,
              nonPromotable := decide (c.lane = .testnetSampling), referencePrice_pos := hprice, stopDistance_pos := hstop,
              takeProfitDistance_pos := fun d hd => by
                rw [← Option.some.inj hd]
                positivity
              maxEntryDriftBps_pos := hdrift, expires_after_close := hexpiry
              sampling_nonPromotable := by cases c.lane <;> simp [candidateTypeForLane]
              research_iff_shadow := by cases hl : c.lane <;> simp_all [candidateTypeForLane]
              research_nonPromotable := by cases c.lane <;> simp [candidateTypeForLane] }
        else .error (.valueError "SHADOW lane is reserved for RESEARCH candidates")
      else .error (.valueError "expires_at must be after signal_candle_close_time")
    else .error (.valueError "max_entry_drift_bps must be > 0")
  else .error (.valueError "signal_reference_price must be > 0")

/-- The stages after the candidate was created. -/
def DecisionContext.gateCandidate (c : DecisionContext) (funnel : DecisionFunnelRecord) (candidate : TradeCandidate) :
    DecisionOutcome :=
  let manifest (funnel : DecisionFunnelRecord) : DecisionOutcome :=
    if c.manifestEligible then
      { cycleId := c.cycleId, symbol := c.symbol, lane := c.lane, terminalStage := .manifestEvaluated,
        reasonCode := .candidateReady, funnel := funnel.record .manifestEvaluated .passed, candidate := some candidate }
    else c.terminate funnel .manifestEvaluated (c.manifestReason.getD .manifestNotEligible)
  match c.metaLabelPredictor, c.metaLabelMinWinRate with
  | some predictor, some minimum =>
    if predictor candidate < minimum then
      c.terminate funnel .metaLabelEvaluated .metaLabelBetSkipped
        [("predicted_win_rate", .decimal (predictor candidate)), ("min_win_rate", .decimal minimum)]
    else manifest (funnel.record .metaLabelEvaluated .passed [("predicted_win_rate", .decimal (predictor candidate))])
  | _, _ => manifest (funnel.record .metaLabelEvaluated .skipped [] .metaLabelNotConfigured)

/-- The stages from the candidate on. -/
def DecisionContext.evaluateCandidate (c : DecisionContext) (funnel : DecisionFunnelRecord) (bar : BarView) (side : Direction)
    (atr14 : ℚ) (hatr : 0 < atr14) : Except PyError DecisionOutcome := do
  let candidate ← c.createCandidate bar side atr14 hatr
  let funnel := { funnel with candidateId := some candidate.candidateId }
  return c.gateCandidate (funnel.record .candidateCreated .passed
    [("candidate_id", .text candidate.candidateId), ("side", .text (sideValue candidate.side)),
      ("stop_distance", .decimal candidate.stopDistance),
      ("take_profit_distance", .ofDecimal candidate.takeProfitDistance),
      ("non_promotable", .flag candidate.nonPromotable)]) candidate

/-- The metrics of a signal with the keys a later stage fills in. -/
def SignalEvaluation.signalMetrics (e : SignalEvaluation) : Metrics :=
  e.metrics ++ [("base_signal_detected", .flag e.side.isSome),
    ("base_signal_side", e.side.elim .missing fun side => .text (sideValue side)), ("mtf_alignment_passed", .missing),
    ("confirmation_bars_passed", .missing)]

/-- The stages from the signal on. -/
def DecisionContext.evaluateSignal (c : DecisionContext) (funnel : DecisionFunnelRecord) (bar : BarView) (atr14 : ℚ)
    (hatr : 0 < atr14) : Except PyError DecisionOutcome :=
  let evaluation := evaluateSamplingSignal c.entryTimeframe
  match evaluation.side with
  | none =>
    .ok (c.terminate funnel .entrySignalEvaluated (evaluation.reasonCode.getD .noEntrySignal) evaluation.signalMetrics)
  | some side =>
    match c.strictRefusal side evaluation.signalMetrics with
    | some metrics => .ok (c.terminate funnel .entrySignalEvaluated .multiTimeframeDisagreement metrics)
    | none =>
      c.evaluateCandidate (funnel.record .entrySignalEvaluated .passed (evaluation.signalMetrics ++
        [("side", .text (sideValue side)), ("mtf_alignment_passed", .flag true), ("confirmation_bars_passed", .flag true),
          ("strict_alignment", .flag c.strictSamplingAlignment),
          ("confirmation_bars", .number c.samplingConfirmationBars)])) bar side atr14 hatr

/-- The stages from the regime on. -/
def DecisionContext.evaluateRegime (c : DecisionContext) (funnel : DecisionFunnelRecord) (bar : BarView) :
    Except PyError DecisionOutcome :=
  match atr c.entryTimeframe.bars with
  | none =>
    .ok (c.terminate funnel .regimeEvaluated .insufficientHistory [("entry_bar_count", .number c.entryTimeframe.bars.length)])
  | some atr14 =>
    if hatr : 0 < atr14 then
      c.evaluateSignal (funnel.record .regimeEvaluated .passed [("atr14", .decimal atr14)]) bar atr14 hatr
    else .ok (c.terminate funnel .regimeEvaluated .atrNotPositive [("atr14", .decimal atr14)])

/-- The stages from the timeframes on. -/
def DecisionContext.evaluateTimeframes (c : DecisionContext) (funnel : DecisionFunnelRecord) (bar : BarView) :
    Except PyError DecisionOutcome :=
  match c.alignment with
  | .error metrics => .ok (c.terminate funnel .timeframesAligned .noMarketData metrics)
  | .ok record => c.evaluateRegime { funnel with stages := funnel.stages ++ [record] } bar

/-- The stages of a bar: one that was evaluated before, and one that is too old, end here. -/
def DecisionContext.evaluateBar (c : DecisionContext) (funnel : DecisionFunnelRecord) (bar : BarView) :
    Except PyError DecisionOutcome :=
  let closed : Metrics := [("bar_timestamp", .number bar.timestamp)]
  if bar.timestamp ∈ c.alreadyEvaluatedBars then
    .ok (c.terminate funnel .candleClosed .duplicateDecision closed .skipped)
  else
    let funnel := funnel.record .candleClosed .passed closed
    if c.stale bar then
      .ok (c.terminate funnel .dataFresh .marketDataStale
        [("bar_age_seconds", .number (c.age bar)), ("stale_after_seconds", .number c.dataStaleAfterSeconds)])
    else c.evaluateTimeframes (funnel.record .dataFresh .passed [("bar_age_seconds", .number (c.age bar))]) bar

/-- `evaluate_symbol`. -/
def evaluateSymbol (c : DecisionContext) : Except PyError DecisionOutcome :=
  let funnel : DecisionFunnelRecord :=
    { strategyId := c.strategyId, strategyVersion := c.strategyVersion,
      stages := [{ stage := .cycleStarted, outcome := .passed }] }
  match c.entryTimeframe.lastClosed with
  | none => .ok (c.terminate funnel .dataAvailable .noMarketData)
  | some bar =>
    c.evaluateBar ({ funnel with barTimestamp := some bar.timestamp }.record .dataAvailable .passed
      [("entry_bar_count", .number c.entryTimeframe.bars.length)]) bar

end TradingPlatform
