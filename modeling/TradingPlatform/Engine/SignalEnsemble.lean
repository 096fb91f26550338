import TradingPlatform.Engine.MultiTimeframe
import TradingPlatform.Lib.Json

/-!
# Ensembles of signals

The vote of the signal ensemble and the weights of the families. The arithmetic is exact.
-/

namespace TradingPlatform

/-!
## The signal ensemble

`SignalEnsembleService` (`strategy_library/ensemble/service.py`), from the candidate signals to the fused direction. The arithmetic is
exact, and the correlation of two series is given.
-/

/-! ## Signals -/

/-- `DIRECTION_SOURCES`. -/
def directionSources : List String := ["technical_dow_trend", "technical_ema_trend", "technical_adx", "technical_mtf_ma"]

/-- `ENTRY_SOURCES`. -/
def entrySources : List String := ["technical_macd", "technical_rsi", "technical_fvg", "market_intelligence"]

/-- `RANGE_SOURCES`. -/
def rangeSources : List String := ["technical_vwap", "technical_bollinger"]

/-- `LAYERED_FUSION_METHOD`. -/
def layeredFusionMethod : String := "layered_regime_entry"

/-- `LAYERED_RELAXED_FUSION_METHOD`. -/
def layeredRelaxedFusionMethod : String := "layered_regime_entry_relaxed"

/-- `MIN_DIRECTION_SOURCE_QUORUM`. -/
def minDirectionSourceQuorum : ℤ := 3

/-- `RELAXED_DIRECTION_SOURCE_QUORUM`. -/
def relaxedDirectionSourceQuorum : ℤ := 2

/-- `CandidateSignalSeries`. -/
structure CandidateSignalSeries where
  strategyId : String
  direction : Direction
  weight : ℚ := 1
  confidence : Option ℚ := none
  validationScore : Option ℚ := none
  series : List ℚ := []
  deriving DecidableEq

/-- `SignalEnsembleRequest`. -/
structure SignalEnsembleRequest where
  signals : List CandidateSignalSeries
  correlationThreshold : ℚ := 75 / 100
  minHistory : ℤ := 200
  fusionMethod : String := "weighted_vote"

/-- `SignalVote`. -/
structure SignalVote where
  strategyId : String
  direction : Direction
  weight : ℚ
  confidence : Option ℚ
  deriving DecidableEq

/-- `EnsembleStatus`. -/
inductive EnsembleStatus where
  | formed | passedToMetaLabel | discardedLowConfidence
  deriving DecidableEq, Repr

/-- `SignalEnsemble`, without its identifier, its time and the text of the audit. -/
structure SignalEnsemble where
  strategyRefs : List String
  fusionMethod : String
  rawVotes : List SignalVote
  fusedDirection : Option Direction := none
  fusedConfidence : Option ℚ := none
  ensembleStatus : EnsembleStatus
  deriving DecidableEq

/-- What `_signal_layer` tells of a signal. -/
inductive SignalLayer where
  | direction | range | entry
  deriving DecidableEq, Repr

namespace SignalEnsembleService

/-- `_signal_source`: what precedes the first colon. -/
def signalSource (strategyId : String) : String := String.ofList (strategyId.toList.takeWhile (· ≠ ':'))

/-- `_signal_layer`. -/
def signalLayer (strategyId : String) : SignalLayer :=
  let source := signalSource strategyId
  if source ∈ directionSources then .direction
  else if source ∈ rangeSources then .range
  else if source ∈ entrySources ∨ source.startsWith "price_action" then .entry
  else .entry

/-! ## The allowed direction -/

/-- The confidence of a direction signal, where none counts in full. -/
def directionConfidence (signal : CandidateSignalSeries) : ℚ := signal.confidence.getD 1

/-- One turn of the loop of `_resolve_allowed_direction`. -/
def addDirection (weights : ℚ × ℚ) (signal : CandidateSignalSeries) : ℚ × ℚ :=
  if signal.direction = .long then (weights.1 + directionConfidence signal, weights.2)
  else (weights.1, weights.2 + directionConfidence signal)

/-- `_resolve_allowed_direction`. -/
def resolveAllowedDirection (signals : List CandidateSignalSeries) (minDirectionSources : ℤ) : Option Direction :=
  if signals = [] then none
  else
    let directionSignals := signals.filter fun s => decide (signalSource s.strategyId ∈ directionSources)
    if (directionSignals.length : ℤ) < minDirectionSources then none
    else
      let (longWeight, shortWeight) := directionSignals.foldl addDirection (0, 0)
      let totalWeight := longWeight + shortWeight
      if totalWeight = 0 then none
      else
        let weightedScore := (longWeight - shortWeight) / totalWeight
        if 0 < weightedScore then some .long
        else if weightedScore < 0 then some .short
        else none

/-- Whether a signal may vote. In a range the range and the entry signals do, on either side; elsewhere the range signals do where no
direction is allowed, and the entry signals of the allowed direction where one is. -/
def mayVote (allowedDirection : Option Direction) (regime : Option MarketRegime) (signal : CandidateSignalSeries) : Bool :=
  let layer := signalLayer signal.strategyId
  if regime = some .range then decide (layer = .range ∨ layer = .entry)
  else if layer = .direction then false
  else
    match allowedDirection with
    | none => decide (layer = .range)
    | some direction => decide (layer = .entry ∧ signal.direction = direction)

/-- `_eligible_layered_signals`. -/
def eligibleLayeredSignals (signals : List CandidateSignalSeries) (allowedDirection : Option Direction) (regime : Option MarketRegime) :
    List CandidateSignalSeries :=
  signals.filter (mayVote allowedDirection regime)

/-! ## The correlation filter -/

section Correlation

variable (pearson : List ℚ → List ℚ → ℚ) (threshold : ℚ) (minHistory : ℤ)

/-- The score of a signal in the filter. -/
def filterScore (signal : CandidateSignalSeries) : ℚ := signal.validationScore.getD signal.weight

/-- Whether two signals have the history and the correlation by which the filter compares them. -/
def comparable (left right : CandidateSignalSeries) : Bool :=
  decide (minHistory ≤ (left.series.length : ℤ) ∧ minHistory ≤ (right.series.length : ℤ) ∧ threshold ≤ |pearson left.series right.series|)

/-- The weaker of two signals: of equals, the right one. -/
def weaker (left right : CandidateSignalSeries) : CandidateSignalSeries :=
  if filterScore right ≤ filterScore left then right else left

/-- `weights[strategy_id] *= 0.25`. -/
def quarter (strategyId : String) (weights : List (String × ℚ)) : List (String × ℚ) :=
  weights.map fun e => if e.1 = strategyId then (e.1, e.2 * (1 / 4)) else e

/-- The comparison of two signals. -/
def compareWith (left : CandidateSignalSeries) (weights : List (String × ℚ)) (right : CandidateSignalSeries) : List (String × ℚ) :=
  if comparable pearson threshold minHistory left right then quarter (weaker left right).strategyId weights else weights

/-- The comparisons of every signal with those behind it. -/
def compareAll (weights : List (String × ℚ)) : List CandidateSignalSeries → List (String × ℚ)
  | [] => weights
  | left :: rest => compareAll (rest.foldl (compareWith pearson threshold minHistory left) weights) rest

/-- The weights the filter starts from, by identifier. -/
def initialWeights (signals : List CandidateSignalSeries) : List (String × ℚ) :=
  signals.foldl (fun weights signal => Json.set signal.strategyId signal.weight weights) []

/-- `_correlation_filter`. -/
def correlationFilter (signals : List CandidateSignalSeries) : List (CandidateSignalSeries × ℚ) :=
  let weights := compareAll pearson threshold minHistory (initialWeights signals) signals
  signals.map fun signal => (signal, (Json.get signal.strategyId weights).getD 0)

end Correlation

/-! ## Votes -/

/-- The vote of a signal with its weight in the filter. -/
def voteOf (entry : CandidateSignalSeries × ℚ) : SignalVote :=
  { strategyId := entry.1.strategyId, direction := entry.1.direction, weight := entry.2, confidence := entry.1.confidence }

/-- The votes of the signals that keep a weight. -/
def votesOf (adjusted : List (CandidateSignalSeries × ℚ)) : List SignalVote :=
  (adjusted.filter fun entry => decide (0 < entry.2)).map voteOf

/-- `v.confidence or 1.0`: no confidence counts in full, and so does none at all. -/
def voteConfidence (vote : SignalVote) : ℚ :=
  match vote.confidence with
  | none => 1
  | some confidence => if confidence = 0 then 1 else confidence

/-- `long_score` and `short_score`. -/
def sideScore (votes : List SignalVote) (side : Direction) : ℚ :=
  ((votes.filter fun v => decide (v.direction = side)).map fun v => v.weight * voteConfidence v).sum

/-- `_finalize_votes`. -/
def finalizeVotes (request : SignalEnsembleRequest) (votes : List SignalVote) : SignalEnsemble :=
  if votes = [] then
    { strategyRefs := request.signals.map CandidateSignalSeries.strategyId, fusionMethod := request.fusionMethod, rawVotes := [],
      ensembleStatus := .discardedLowConfidence }
  else
    let longScore := sideScore votes .long
    let shortScore := sideScore votes .short
    let totalScore := longScore + shortScore
    let (direction, confidence) :=
      if shortScore ≤ longScore then (Direction.long, if totalScore ≠ 0 then longScore / totalScore else 0)
      else (Direction.short, if totalScore ≠ 0 then shortScore / totalScore else 0)
    { strategyRefs := votes.map SignalVote.strategyId, fusionMethod := request.fusionMethod, rawVotes := votes,
      fusedDirection := some direction, fusedConfidence := some confidence, ensembleStatus := .passedToMetaLabel }

/-! ## Ensembles -/

section Ensembles

variable (pearson : List ℚ → List ℚ → ℚ)

/-- `_create_weighted_ensemble`. -/
def createWeightedEnsemble (request : SignalEnsembleRequest) : SignalEnsemble :=
  finalizeVotes request (votesOf (correlationFilter pearson request.correlationThreshold request.minHistory request.signals))

/-- `_create_layered_ensemble`. -/
def createLayeredEnsemble (request : SignalEnsembleRequest) (minDirectionSources : ℤ) (regime : Option MarketRegime) : SignalEnsemble :=
  let allowedDirection := resolveAllowedDirection request.signals minDirectionSources
  let eligible := eligibleLayeredSignals request.signals allowedDirection regime
  finalizeVotes request (votesOf (correlationFilter pearson request.correlationThreshold request.minHistory eligible))

/-- `create_ensemble`. -/
def createEnsemble (request : SignalEnsembleRequest) (regime : Option MarketRegime) : Except PyError SignalEnsemble :=
  if request.signals = [] then .error (.valueError "at least one signal is required")
  else if request.fusionMethod = layeredFusionMethod then .ok (createLayeredEnsemble pearson request minDirectionSourceQuorum regime)
  else if request.fusionMethod = layeredRelaxedFusionMethod then
    .ok (createLayeredEnsemble pearson request relaxedDirectionSourceQuorum regime)
  else .ok (createWeightedEnsemble pearson request)

end Ensembles

end SignalEnsembleService

/-!
## The weighted ensemble

`strategy_library/family/selector.py` weighs the signals by their family, and `strategy_library/ensemble/weighted.py` adds them up. The
arithmetic is exact.
-/

/-! ## Families -/

/-- `StrategyFamily`. -/
inductive StrategyFamily where
  | trendPullback | breakout | rangeMeanReversion | momentumContinuation | unknown
  deriving DecidableEq, Repr

/-- `SIGNAL_TO_FAMILY`. -/
def signalToFamily : List (String × StrategyFamily) :=
  [("technical_dow_trend", .trendPullback), ("technical_ema_trend", .trendPullback), ("technical_mtf_ma", .trendPullback),
   ("technical_fvg", .breakout), ("technical_chan_theory", .breakout), ("technical_bollinger", .rangeMeanReversion),
   ("technical_rsi", .rangeMeanReversion), ("technical_vwap", .rangeMeanReversion), ("technical_macd", .momentumContinuation),
   ("technical_adx", .momentumContinuation)]

/-- `RegimeWeight`. -/
structure RegimeWeight where
  trendPullback : ℚ
  breakout : ℚ
  rangeMeanReversion : ℚ
  momentumContinuation : ℚ

/-- `WeightedSignal`. -/
structure WeightedSignal where
  signal : TradeSignal
  family : StrategyFamily
  baseWeight : ℚ
  regimeWeight : ℚ
  finalWeight : ℚ
  directionScore : ℚ
  deriving DecidableEq

/-- `StrategyFamilySelector`, with the base weights it was given. -/
structure StrategyFamilySelector where
  baseWeights : StrategyFamily → Option ℚ := fun family => some (if family = .unknown then 1 / 2 else 1)

namespace StrategyFamilySelector

/-- `_classify_signal`. -/
def classifySignal (signal : TradeSignal) : StrategyFamily := (Json.get signal.source signalToFamily).getD .unknown

/-- `_get_regime_multiplier`. -/
def getRegimeMultiplier (family : StrategyFamily) (regimeWeight : RegimeWeight) : ℚ :=
  match family with
  | .trendPullback => regimeWeight.trendPullback
  | .breakout => regimeWeight.breakout
  | .rangeMeanReversion => regimeWeight.rangeMeanReversion
  | .momentumContinuation => regimeWeight.momentumContinuation
  | .unknown => 1 / 2

/-- One turn of the loop of `classify_and_weight`. -/
def weigh (selector : StrategyFamilySelector) (regimeWeight : RegimeWeight) (signal : TradeSignal) : WeightedSignal :=
  let family := classifySignal signal
  let baseWeight := (selector.baseWeights family).getD (1 / 2)
  let regimeMult := getRegimeMultiplier family regimeWeight
  { signal, family, baseWeight, regimeWeight := regimeMult, finalWeight := baseWeight * regimeMult * signal.confidence.getD 0,
    directionScore := if signal.side = .long then 1 else -1 }

/-- `classify_and_weight`. -/
def classifyAndWeight (selector : StrategyFamilySelector) (signals : List TradeSignal) (regimeWeight : RegimeWeight) :
    List WeightedSignal :=
  signals.map (selector.weigh regimeWeight)

end StrategyFamilySelector

/-! ## Aggregation -/

/-- `EnsembleResult`. -/
structure EnsembleResult where
  finalSide : Option Direction
  finalScore : ℚ
  confidence : ℚ
  selectedFamily : Option StrategyFamily
  contributors : List (String × ℚ)
  longWeight : ℚ
  shortWeight : ℚ
  totalWeight : ℚ
  deriving DecidableEq

/-- `weighted_score`. -/
def WeightedSignal.weightedScore (ws : WeightedSignal) : ℚ := ws.directionScore * ws.finalWeight

/-- `weighted_scores`, by source: a later score takes the place of an earlier one. -/
def weightedScores (signals : List WeightedSignal) : List (String × ℚ) :=
  signals.foldl (fun scores ws => Json.set ws.signal.source ws.weightedScore scores) []

/-- The weight of the signals of one side. -/
def sideWeight (signals : List WeightedSignal) (side : Direction) : ℚ :=
  ((signals.filter fun ws => decide (ws.signal.side = side)).map WeightedSignal.finalWeight).sum

/-- The weight of all signals. -/
def totalWeight (signals : List WeightedSignal) : ℚ := (signals.map WeightedSignal.finalWeight).sum

/-- `family_weights[family] = family_weights.get(family, 0.0) + weight`. -/
@[grind =] def addFamilyWeight (family : StrategyFamily) (weight : ℚ) : List (StrategyFamily × ℚ) → List (StrategyFamily × ℚ)
  | [] => [(family, weight)]
  | (f, w) :: rest => if f = family then (f, w + weight) :: rest else (f, w) :: addFamilyWeight family weight rest

/-- `max`, by weight: the first of the heaviest. -/
@[grind =] def heaviest : List (StrategyFamily × ℚ) → Option (StrategyFamily × ℚ)
  | [] => none
  | entry :: rest =>
    match heaviest rest with
    | none => some entry
    | some best => if entry.2 < best.2 then some best else some entry

/-- `_select_dominant_family`. -/
def selectDominantFamily (signals : List WeightedSignal) (finalSide : Option Direction) : Option StrategyFamily :=
  match finalSide with
  | none => none
  | some side =>
    let familyWeights := (signals.filter fun ws => decide (ws.signal.side = side)).foldl
      (fun weights ws => addFamilyWeight ws.family ws.finalWeight weights) []
    (heaviest familyWeights).map Prod.fst

/-- `WeightedEnsembleService`. -/
structure WeightedEnsembleService where
  longThreshold : ℚ := 35 / 100
  shortThreshold : ℚ := -35 / 100
  minTotalWeight : ℚ := 1 / 2

namespace WeightedEnsembleService

variable (service : WeightedEnsembleService)

/-- The side of a score. -/
def sideOf (finalScore : ℚ) : Option Direction :=
  if service.longThreshold ≤ finalScore then some .long
  else if finalScore ≤ service.shortThreshold then some .short
  else none

/-- The confidence of a score, by how far it is beyond the threshold of its side. -/
def confidenceOf (finalScore : ℚ) : Option Direction → ℚ
  | some .long => min ((finalScore - service.longThreshold) / (1 - service.longThreshold)) 1
  | some .short => min ((service.shortThreshold - finalScore) / (service.shortThreshold - -1)) 1
  | none => 0

/-- `aggregate`. -/
def aggregate (signals : List WeightedSignal) : EnsembleResult :=
  if signals = [] then
    { finalSide := none, finalScore := 0, confidence := 0, selectedFamily := none, contributors := [], longWeight := 0, shortWeight := 0,
      totalWeight := 0 }
  else
    let contributors := weightedScores signals
    let longWeight := sideWeight signals .long
    let shortWeight := sideWeight signals .short
    let total := totalWeight signals
    if total < service.minTotalWeight then
      { finalSide := none, finalScore := 0, confidence := 0, selectedFamily := none, contributors, longWeight, shortWeight,
        totalWeight := total }
    else
      let finalScore := (contributors.map Prod.snd).sum / total
      let finalSide := service.sideOf finalScore
      { finalSide, finalScore, confidence := service.confidenceOf finalScore finalSide,
        selectedFamily := selectDominantFamily signals finalSide, contributors, longWeight, shortWeight, totalWeight := total }

end WeightedEnsembleService

end TradingPlatform
