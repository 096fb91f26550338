import TradingPlatform.Engine.EntryDecision

/-!
# Forward snapshots

`audit/forward_baseline.py`: the snapshot of one decision, and its replay. A decimal and an instant stand for their texts, which
the replay reads back exactly. The hash of a content is a parameter.
-/

namespace TradingPlatform

/-- `SNAPSHOT_SCHEMA_VERSION`. -/
def snapshotSchemaVersion : String := "forward-decision-snapshot-v1"

/-- `_candidate_payload` of a candidate. -/
structure CandidatePayload where
  candidateId : String
  cycleId : String
  strategyId : String
  strategyVersion : String
  lane : CandidateLane
  candidateType : V2CandidateType
  symbol : String
  side : Direction
  signalCandleCloseTime : ℕ
  signalReferencePrice : ℚ
  stopDistance : ℚ
  takeProfitDistance : Option ℚ
  stopReferencePrice : ℚ
  takeProfitReferencePrice : Option ℚ
  maxEntryDriftBps : ℚ
  expiresAt : ℕ
  nonPromotable : Bool
  deriving DecidableEq

/-- The price `distance` before the reference on a side, or beyond it. -/
def awayFrom (side : Direction) (reference distance : ℚ) : ℚ :=
  match side with
  | .long => reference - distance
  | .short => reference + distance

/-- `_candidate_payload`. -/
def candidatePayload (c : TradeCandidate) : CandidatePayload where
  candidateId := c.candidateId
  cycleId := c.cycleId
  strategyId := c.strategyId
  strategyVersion := c.strategyVersion
  lane := c.lane
  candidateType := c.candidateType
  symbol := c.symbol
  side := c.side
  signalCandleCloseTime := c.signalCandleCloseTime
  signalReferencePrice := c.signalReferencePrice
  stopDistance := c.stopDistance
  takeProfitDistance := c.takeProfitDistance
  stopReferencePrice := awayFrom c.side c.signalReferencePrice c.stopDistance
  takeProfitReferencePrice := c.takeProfitDistance.map fun d => awayFrom c.side c.signalReferencePrice (-d)
  maxEntryDriftBps := c.maxEntryDriftBps
  expiresAt := c.expiresAt
  nonPromotable := c.nonPromotable

/-- The features of an outcome: a dictionary. -/
abbrev Features := Finmap fun _ : String => MetricValue

/-- `_features`: the metrics of all stages, a later one over an earlier one. -/
def featuresOf (metrics : Metrics) : Features := metrics.foldl (fun features m => features.insert m.1 m.2) ∅

/-- `_features`. -/
def DecisionOutcome.features (o : DecisionOutcome) : Features := featuresOf (o.funnel.stages.flatMap (·.metrics))

/-- The `decision` of a snapshot. -/
structure SnapshotDecision where
  lane : CandidateLane
  strategyId : String
  strategyVersion : String
  terminalStage : FunnelStage
  reasonCode : EvaluationReason
  funnel : DecisionFunnelRecord

/-- A snapshot without its hash. -/
structure SnapshotContent where
  schemaVersion : String
  cycleId : String
  decisionId : String
  symbol : String
  decisionTime : ℕ
  strategyCommit : String
  strategyVersion : String
  configSnapshotId : Option String
  configHash : String
  executionMode : Option String
  engineActivation : Option String
  marketDataSource : String
  timeframe : String
  closedBarBoundary : ℕ
  warmupStart : ℕ
  warmupCount : ℕ
  inputBars : List BarView
  /-- The order of these is not read. -/
  alreadyEvaluatedBars : List ℕ
  decision : SnapshotDecision
  features : Features
  tradeCandidatePayload : Option CandidatePayload
  initialRiskInputs : List (String × String)
  costInputs : List (String × String)

/-- A snapshot. -/
structure DecisionSnapshot where
  content : SnapshotContent
  snapshotHash : String

/-- What `build_decision_snapshot` is given beside the outcome. -/
structure SnapshotInputs where
  cycleId : String
  decisionId : String
  symbol : String
  decisionTime : ℕ
  strategyCommit : String
  strategyVersion : String
  configHash : String
  marketDataSource : String
  entryTimeframe : TimeframeView
  initialRiskInputs : List (String × String)
  costInputs : List (String × String)
  configSnapshotId : Option String := none
  alreadyEvaluatedBars : List ℕ := []
  executionMode : Option String := none
  engineActivation : Option String := none

section Snapshot

variable (canonicalHash : SnapshotContent → String)

/-- `build_decision_snapshot`. -/
def buildDecisionSnapshot (a : SnapshotInputs) (outcome : DecisionOutcome) : Except PyError DecisionSnapshot :=
  if outcome.symbol ≠ a.symbol ∨ outcome.cycleId ≠ a.cycleId then
    .error (.valueError "decision outcome identity does not match snapshot identity")
  else
    match a.entryTimeframe.bars.head?, a.entryTimeframe.lastClosed with
    | some first, some last =>
      let content : SnapshotContent :=
        { schemaVersion := snapshotSchemaVersion, cycleId := a.cycleId, decisionId := a.decisionId, symbol := a.symbol,
          decisionTime := a.decisionTime, strategyCommit := a.strategyCommit, strategyVersion := a.strategyVersion,
          configSnapshotId := a.configSnapshotId, configHash := a.configHash, executionMode := a.executionMode,
          engineActivation := a.engineActivation, marketDataSource := a.marketDataSource,
          timeframe := a.entryTimeframe.timeframe, closedBarBoundary := last.timestamp, warmupStart := first.timestamp,
          warmupCount := a.entryTimeframe.bars.length, inputBars := a.entryTimeframe.bars,
          alreadyEvaluatedBars := a.alreadyEvaluatedBars,
          decision :=
            { lane := outcome.lane, strategyId := outcome.funnel.strategyId, strategyVersion := outcome.funnel.strategyVersion,
              terminalStage := outcome.terminalStage, reasonCode := outcome.reasonCode, funnel := outcome.funnel },
          features := outcome.features, tradeCandidatePayload := outcome.candidate.map candidatePayload,
          initialRiskInputs := a.initialRiskInputs, costInputs := a.costInputs }
      .ok { content, snapshotHash := canonicalHash content }
    | _, _ => .error (.valueError "forward snapshot requires at least one closed bar")

/-- The context of a replay: the snapshot carries no other timeframe, no alignment and no confirmation count. A candidate gets
the recorded id, and without one a fresh id. -/
def SnapshotContent.replayContext (s : SnapshotContent) (freshId : String) : DecisionContext where
  cycleId := s.cycleId
  symbol := s.symbol
  lane := s.decision.lane
  strategyId := s.decision.strategyId
  strategyVersion := s.decision.strategyVersion
  entryTimeframe := { timeframe := s.timeframe, bars := s.inputBars }
  now := s.decisionTime
  alreadyEvaluatedBars := s.alreadyEvaluatedBars
  candidateId := textOr (s.tradeCandidatePayload.map (·.candidateId)) freshId

/-- `replay_decision_snapshot`. -/
def replayDecisionSnapshot (freshId : String) (s : DecisionSnapshot) : Except PyError DecisionOutcome :=
  if s.content.schemaVersion ≠ snapshotSchemaVersion then .error (.valueError "unsupported forward snapshot schema")
  else if s.snapshotHash ≠ canonicalHash s.content then .error (.valueError "FORWARD_SNAPSHOT_HASH_MISMATCH")
  else if s.content.decision.lane ≠ .testnetSampling then .error (.valueError "FORWARD_REPLAY_UNSUPPORTED_LANE")
  else evaluateSymbol (s.content.replayContext freshId)

end Snapshot

/-- A mismatch of a replay. -/
inductive ReplayMismatch where
  | raised (message : String)
  | terminalStage | reasonCode | features | tradeCandidatePayload
  deriving DecidableEq, Repr

/-- The text of a mismatch. Everything a replay raises is a `ValueError`. -/
def ReplayMismatch.value : ReplayMismatch → String
  | .raised message => "FIRST_DIVERGENCE_POINT:ValueError:" ++ message
  | .terminalStage => "FIRST_DIVERGENCE_POINT:decision.terminal_stage"
  | .reasonCode => "decision.reason_code"
  | .features => "features"
  | .tradeCandidatePayload => "trade_candidate_payload"

/-- `ReplayComparison`. -/
structure ReplayComparison where
  decisionMatch : Bool
  featureMatch : Bool
  tradeCandidateMatch : Bool
  mismatches : List ReplayMismatch := []
  deriving DecidableEq, Repr

/-- `reproducible`. -/
def ReplayComparison.reproducible (r : ReplayComparison) : Bool :=
  r.decisionMatch && r.featureMatch && r.tradeCandidateMatch

/-- The comparison of a snapshot with what its replay returned. -/
def compareOutcome (s : SnapshotContent) (replay : DecisionOutcome) : ReplayComparison :=
  let decisionMismatches :=
    (if replay.terminalStage ≠ s.decision.terminalStage then [.terminalStage] else []) ++
      (if replay.reasonCode ≠ s.decision.reasonCode then [ReplayMismatch.reasonCode] else [])
  let featureMatch := decide (replay.features = s.features)
  let candidateMatch := decide (replay.candidate.map candidatePayload = s.tradeCandidatePayload)
  { decisionMatch := decisionMismatches.isEmpty, featureMatch, tradeCandidateMatch := candidateMatch,
    mismatches := decisionMismatches ++ (if featureMatch then [] else [.features]) ++
      (if candidateMatch then [] else [.tradeCandidatePayload]) }

/-- `compare_decision_snapshot`. -/
def compareDecisionSnapshot (canonicalHash : SnapshotContent → String) (freshId : String) (s : DecisionSnapshot) :
    ReplayComparison :=
  match replayDecisionSnapshot canonicalHash freshId s with
  | .error e => { decisionMatch := false, featureMatch := false, tradeCandidateMatch := false, mismatches := [.raised e.message] }
  | .ok replay => compareOutcome s.content replay

/-! ## The snapshot of a cycle -/

/-- What the scheduler adds to a request for a snapshot. -/
structure SnapshotProvenance where
  decisionId : String
  strategyCommit : String
  strategyVersion : String
  configHash : String
  initialRiskInputs : List (String × String)
  costInputs : List (String × String)
  executionMode : Option String
  engineActivation : Option String

/-- The arguments of the snapshot of a cycle. -/
def DecisionRequest.snapshotInputs (r : DecisionRequest) (p : SnapshotProvenance) : SnapshotInputs where
  cycleId := r.cycleId
  decisionId := p.decisionId
  symbol := r.symbol
  decisionTime := r.now
  strategyCommit := p.strategyCommit
  strategyVersion := p.strategyVersion
  configHash := p.configHash
  marketDataSource := "runtime_data_repository"
  entryTimeframe := r.entryTimeframe
  initialRiskInputs := p.initialRiskInputs
  costInputs := p.costInputs
  alreadyEvaluatedBars := r.alreadyEvaluatedBars
  executionMode := p.executionMode
  engineActivation := p.engineActivation

end TradingPlatform
