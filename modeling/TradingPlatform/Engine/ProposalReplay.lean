import TradingPlatform.Domain.Clock
import TradingPlatform.Domain.Gain
import TradingPlatform.Engine.ReplayPosition

/-!
# The proposal replay

`validation/proposal_replay.py`: immutable strategy proposals are replayed against the bars that follow their contexts, with partial
fills, partial targets and costs. The arithmetic is exact. A position also carries the slices it has closed; the source keeps their
sums only.
-/

namespace TradingPlatform

/-- `TargetRule`. -/
structure TargetRule where
  label : String
  price : ℚ
  quantityFraction : ℚ
  deriving DecidableEq

/-- `StrategyProposal`, with what its validators demand. -/
structure StrategyProposal where
  proposalId : String
  strategyId : String
  symbol : String
  side : Direction
  signalBarTime : ℤ
  expiresAt : ℤ
  referencePrice : ℚ
  maxPriceDriftBps : ℚ
  stopPrice : ℚ
  targets : List TargetRule
  reference_pos : 0 < referencePrice
  drift_nonneg : 0 ≤ maxPriceDriftBps
  stop_pos : 0 < stopPrice
  target_bounds : ∀ t ∈ targets, 0 < t.price ∧ 0 < t.quantityFraction ∧ t.quantityFraction ≤ 1
  expires : signalBarTime < expiresAt
  allocated : (targets.map (·.quantityFraction)).sum = 1
  stop_behind : side.gain referencePrice stopPrice < 0
  targets_ahead : ∀ t ∈ targets, 0 < side.gain referencePrice t.price

/-- `CostProvenance`. -/
inductive CostProvenance where
  | observed | configured | assumed | unavailable
  deriving DecidableEq

/-- `ReplayCostModel` after its `__post_init__`. -/
structure ReplayCostModel where
  takerFeeBpsPerSide : ℚ := 5
  spreadBpsPerSide : ℚ := 1
  latencySlippageBpsPerSide : ℚ := 1
  partialFillFraction : ℚ := 85 / 100
  fundingRatePerInterval : ℚ := 0
  fundingIntervalHours : ℚ := 8
  fundingRateAvailable : Bool := false
  fundingProvenance : CostProvenance := .unavailable
  fundingPoints : List (ℤ × ℚ) := []
  fundingObservationsComplete : Bool := true
  costs_nonneg : 0 ≤ takerFeeBpsPerSide ∧ 0 ≤ spreadBpsPerSide ∧ 0 ≤ latencySlippageBpsPerSide
  partial_pos : 0 < partialFillFraction
  partial_le : partialFillFraction ≤ 1
  interval_pos : 0 < fundingIntervalHours

namespace ReplayCostModel

variable (cost : ReplayCostModel)

/-- `entry_impact_bps`. -/
def entryImpactBps : ℚ := cost.spreadBpsPerSide + cost.latencySlippageBpsPerSide

/-- `explicit_round_trip_cost_bps`. -/
def explicitRoundTripCostBps : ℚ := 2 * (cost.takerFeeBpsPerSide + cost.spreadBpsPerSide + cost.latencySlippageBpsPerSide)

/-- `funding_cost_between`. -/
def fundingCostBetween (openedAt closedAt : ℤ) (side : Direction) (filledFraction : ℚ) : Option ℚ :=
  if cost.fundingProvenance = .unavailable then none
  else if cost.fundingPoints ≠ [] ∧ cost.fundingObservationsComplete then
    if cost.fundingPoints.any fun p => decide (p.1 ≤ openedAt) then
      let signed : ℚ := match side with
        | .long => 1
        | .short => -1
      let settled := cost.fundingPoints.filter fun p => decide (openedAt < p.1) && decide (p.1 ≤ closedAt)
      some (settled.map fun p => p.2 * signed * filledFraction).sum
    else none
  else if cost.fundingRateAvailable = false then none
  else
    let holdHours := totalSeconds (closedAt - openedAt) / 3600
    let signedRate := match side with
      | .long => cost.fundingRatePerInterval
      | .short => -cost.fundingRatePerInterval
    some (signedRate * max 0 (holdHours / cost.fundingIntervalHours) * filledFraction)

/-- A price after the impact of selling a long, or buying back a short. -/
def exitPrice (side : Direction) (price : ℚ) : ℚ :=
  let impact := cost.entryImpactBps / 10000
  match side with
  | .long => price * (1 - impact)
  | .short => price * (1 + impact)

/-- A price after the impact of buying a long, or selling a short. -/
def entryPrice (side : Direction) (price : ℚ) : ℚ :=
  let impact := cost.entryImpactBps / 10000
  match side with
  | .long => price * (1 + impact)
  | .short => price * (1 - impact)

/-- The taker fee of one side, as a fraction. -/
def feePerSide : ℚ := cost.takerFeeBpsPerSide / 10000

end ReplayCostModel

/-! ## Exit plans -/

/-- A target with its price. -/
structure ExitTarget where
  label : String
  price : ℚ
  quantityFraction : ℚ
  deriving DecidableEq

/-- The bar reaches a target. -/
def ExitTarget.hitBy (t : ExitTarget) (side : Direction) (bar : OHLCVBar) : Bool :=
  match side with
  | .long => decide (t.price ≤ bar.high)
  | .short => decide (bar.low ≤ t.price)

/-- `AdaptiveExitPlan`, what the replay reads of it. -/
structure AdaptiveExitPlan where
  initialStop : ℚ
  targets : List ExitTarget
  timeExitBars : ℕ

/-- `build_adaptive_exit`: the targets keep their distances in units of the risk of the fill. -/
def buildAdaptiveExit (p : StrategyProposal) (filledPrice atr : ℚ) : Except PyError AdaptiveExitPlan := do
  if atr ≤ 0 then throw (.valueError "atr must be positive")
  if p.side = .long ∧ filledPrice ≤ p.stopPrice then throw (.valueError "actual fill must stay above the long stop")
  if p.side = .short ∧ p.stopPrice ≤ filledPrice then throw (.valueError "actual fill must stay below the short stop")
  let proposedRisk := |p.referencePrice - p.stopPrice|
  let actualRisk := |filledPrice - p.stopPrice|
  if proposedRisk ≤ 0 then throw (.valueError "proposal entry must stay on the valid side of its stop")
  let targets := p.targets.map fun t => ExitTarget.mk t.label
    (p.side.ahead filledPrice (actualRisk * (|t.price - p.referencePrice| / proposedRisk))) t.quantityFraction
  -- the field constraint of a target's price
  if targets.any fun t => decide (t.price ≤ 0) then throw (.valueError "price")
  return { initialStop := p.stopPrice, targets, timeExitBars := 8 }

/-- `_target_key`. -/
def targetKey (entry : ℚ) (t : TargetRule) : ℚ × ℚ := (t.quantityFraction, |t.price - entry|)

/-- A key exceeds another. -/
def keyLt (a b : ℚ × ℚ) : Prop := a.1 < b.1 ∨ a.1 = b.1 ∧ a.2 < b.2

instance (a b : ℚ × ℚ) : Decidable (keyLt a b) := inferInstanceAs (Decidable (_ ∨ _))

/-- `max(targets, key=...)`: the first of the greatest. -/
def maxTarget (entry : ℚ) : List TargetRule → Option TargetRule
  | [] => none
  | t :: rest => some (rest.foldl (fun best t => if keyLt (targetKey entry best) (targetKey entry t) then t else best) t)

/-- `V2SingleTargetProjection`, what the replay reads of it. -/
structure V2SingleTargetProjection where
  stopDistance : ℚ
  takeProfitDistance : ℚ
  targetLabel : String

/-- `project_single_target`. -/
def projectSingleTarget (p : StrategyProposal) : Except PyError V2SingleTargetProjection := do
  match maxTarget p.referencePrice p.targets with
  | none => throw (.valueError "max() arg is an empty sequence")
  | some target =>
    let stopDistance := |p.referencePrice - p.stopPrice|
    let takeDistance := |target.price - p.referencePrice|
    if stopDistance ≤ 0 ∨ takeDistance ≤ 0 then
      throw (.valueError "proposal geometry must have positive stop and target distances")
    if p.side = .long ∧ (p.referencePrice ≤ p.stopPrice ∨ target.price ≤ p.referencePrice) then
      throw (.valueError "long proposal geometry is not directional")
    if p.side = .short ∧ (p.stopPrice ≤ p.referencePrice ∨ p.referencePrice ≤ target.price) then
      throw (.valueError "short proposal geometry is not directional")
    return { stopDistance, takeProfitDistance := takeDistance, targetLabel := target.label }

/-! ## Positions -/

/-- The mode of the exits. -/
inductive ProposalExitMode where
  | adaptiveExit | v2SingleTarget
  deriving DecidableEq

/-- A part of a position, closed at a price. -/
structure ReplaySlice where
  fraction : ℚ
  exitPrice : ℚ
  deriving DecidableEq

/-- `ProposalReplayTrade`. -/
structure ProposalReplayTrade where
  proposalId : String
  strategyId : String
  symbol : String
  side : Direction
  signalTime : ℤ
  openedAt : ℤ
  closedAt : ℤ
  entryPrice : ℚ
  exitPrice : ℚ
  stopPrice : ℚ
  exitReason : String
  filledFraction : ℚ
  grossReturn : ℚ
  netReturn : ℚ
  feesAndImpactBps : ℚ
  fundingCost : Option ℚ
  targetLabelsHit : List String
  slices : List ReplaySlice
  deriving DecidableEq

/-- `_OpenProposalPosition`. -/
structure OpenProposalPosition where
  proposal : StrategyProposal
  openedAt : ℤ
  entryPrice : ℚ
  filledFraction : ℚ
  initialStop : ℚ
  targets : List ExitTarget
  remainingFraction : ℚ
  realizedGross : ℚ := 0
  realizedCost : ℚ := 0
  targetLabelsHit : List String := []
  lastExitPrice : Option ℚ := none
  barsHeld : ℕ := 0
  mode : ProposalExitMode := .adaptiveExit
  slices : List ReplaySlice := []

/-- `_directional_return`. -/
def directionalReturn (side : Direction) (entry exitPrice : ℚ) : ℚ :=
  let raw := (exitPrice - entry) / entry
  match side with
  | .long => raw
  | .short => -raw

/-- What a bar makes of a position. -/
inductive Advanced where
  | still (position : OpenProposalPosition)
  | closed (trade : ProposalReplayTrade)

namespace ReplayCostModel

variable (cost : ReplayCostModel)

/-- `_open`: no position where the bar has drifted too far from the proposal, or past its stop. -/
def openProposal (proposal : StrategyProposal) (bar : OHLCVBar) (mode : ProposalExitMode) :
    Except PyError (Option OpenProposalPosition) := do
  let expected := proposal.referencePrice
  let driftBps := |bar.openPrice - expected| / expected * 10000
  if proposal.maxPriceDriftBps < driftBps then return none
  let filledPrice := cost.entryPrice proposal.side bar.openPrice
  if proposal.side = .long ∧ filledPrice ≤ proposal.stopPrice then return none
  if proposal.side = .short ∧ proposal.stopPrice ≤ filledPrice then return none
  let atr := |expected - proposal.stopPrice|
  let (initialStop, targets) ← match mode with
    | .v2SingleTarget => do
      let projected ← projectSingleTarget proposal
      pure (proposal.side.ahead filledPrice (-projected.stopDistance),
        [ExitTarget.mk projected.targetLabel (proposal.side.ahead filledPrice projected.takeProfitDistance) 1])
    | .adaptiveExit => do
      let plan ← buildAdaptiveExit proposal filledPrice (max atr (1 / 100000000))
      pure (plan.initialStop, plan.targets)
  return some {
    proposal, openedAt := bar.timestamp, entryPrice := filledPrice, filledFraction := cost.partialFillFraction, initialStop, targets
    remainingFraction := cost.partialFillFraction
    realizedCost := cost.feePerSide * cost.partialFillFraction
    mode }

/-- `_close`. -/
def closeProposal (p : OpenProposalPosition) (closedAt : ℤ) (price : ℚ) (reason : String) : ProposalReplayTrade :=
  let realizedExit := match p.lastExitPrice with
    | some last => if p.remainingFraction ≤ 0 then last else cost.exitPrice p.proposal.side price
    | none => cost.exitPrice p.proposal.side price
  let remainingGross := directionalReturn p.proposal.side p.entryPrice realizedExit * p.remainingFraction
  let exitCost := cost.feePerSide * p.remainingFraction
  let funding := cost.fundingCostBetween p.openedAt closedAt p.proposal.side p.filledFraction
  let gross := p.realizedGross + remainingGross
  let total := p.realizedCost + exitCost + funding.getD 0
  { proposalId := p.proposal.proposalId
    strategyId := p.proposal.strategyId
    symbol := p.proposal.symbol
    side := p.proposal.side
    signalTime := p.proposal.signalBarTime
    openedAt := p.openedAt
    closedAt := closedAt
    entryPrice := p.entryPrice
    exitPrice := realizedExit
    stopPrice := p.initialStop
    exitReason := reason
    filledFraction := p.filledFraction
    grossReturn := gross
    netReturn := gross - total
    feesAndImpactBps := cost.explicitRoundTripCostBps
    fundingCost := funding
    targetLabelsHit := p.targetLabelsHit
    slices := p.slices ++ [⟨p.remainingFraction, realizedExit⟩] }

/-- One target of the loop of `_advance`. -/
def hitTarget (bar : OHLCVBar) (p : OpenProposalPosition) (target : ExitTarget) : OpenProposalPosition :=
  if target.label ∈ p.targetLabelsHit then p
  else if target.hitBy p.proposal.side bar then
    let closedFraction := min p.remainingFraction (target.quantityFraction * p.filledFraction)
    let realizedTarget := cost.exitPrice p.proposal.side target.price
    { p with
      realizedGross := p.realizedGross + directionalReturn p.proposal.side p.entryPrice realizedTarget * closedFraction
      realizedCost := p.realizedCost + cost.feePerSide * closedFraction
      remainingFraction := p.remainingFraction - closedFraction
      targetLabelsHit := p.targetLabelsHit ++ [target.label]
      lastExitPrice := some realizedTarget
      slices := p.slices ++ [⟨closedFraction, realizedTarget⟩] }
  else p

/-- `_advance`: the stop first, then the targets, then the time exit. -/
def advanceProposal (p : OpenProposalPosition) (bar : OHLCVBar) : Except PyError Advanced := do
  let p := { p with barsHeld := p.barsHeld + 1 }
  if stopReached p.proposal.side p.initialStop bar then return .closed (cost.closeProposal p bar.timestamp p.initialStop "stop_loss")
  let p := p.targets.foldl (cost.hitTarget bar) p
  if p.remainingFraction ≤ 0 then return .closed (cost.closeProposal p bar.timestamp bar.close "all_targets")
  match p.mode with
  | .v2SingleTarget => return .still p
  | .adaptiveExit =>
    let plan ← buildAdaptiveExit p.proposal p.entryPrice (max |p.entryPrice - p.initialStop| (1 / 100000000))
    if plan.timeExitBars ≤ p.barsHeld then return .closed (cost.closeProposal p bar.timestamp bar.close "time_exit")
    return .still p

end ReplayCostModel

/-! ## The replay -/

/-- `dict[key] = dict.get(key, 0) + 1`. -/
def bump (counts : List (String × ℕ)) (key : String) : List (String × ℕ) :=
  if counts.any fun c => decide (c.1 = key) then counts.map fun c => if c.1 = key then (key, c.2 + 1) else c
  else counts ++ [(key, 1)]

/-- Where the proposals of a replay come from: a generator, or what a pipeline selects, for one strategy or for all. -/
inductive ProposalSource (Context : Type) where
  | generator (propose : Context → Option StrategyProposal)
  | pipeline (strategyId : String) (selected : Context → Option StrategyProposal)

/-- The proposal of a context. -/
def ProposalSource.proposal {Context : Type} (source : ProposalSource Context) (context : Context) : Option StrategyProposal :=
  match source with
  | .generator propose => propose context
  | .pipeline strategyId selected =>
    (selected context).filter fun p => decide (strategyId = "proposal_pipeline") || decide (p.strategyId = strategyId)

/-- `ProposalReplayRunner` with the arguments of a replay. -/
structure ProposalReplayRunner (Context : Type) where
  cost : ReplayCostModel
  source : ProposalSource Context
  mode : ProposalExitMode := .adaptiveExit

/-- The locals of `replay`. -/
structure ProposalReplayState where
  position : Option OpenProposalPosition := none
  trades : List ProposalReplayTrade := []
  totalProposals : ℕ := 0
  expired : ℕ := 0
  driftRejected : ℕ := 0
  proposalCounts : List (String × ℕ) := []
  expiredCounts : List (String × ℕ) := []
  driftCounts : List (String × ℕ) := []

namespace ProposalReplayRunner

variable {Context : Type} (runner : ProposalReplayRunner Context)

/-- The bar applied to the open position. -/
def settle (s : ProposalReplayState) (bar : OHLCVBar) : Except PyError ProposalReplayState :=
  match s.position with
  | none => .ok s
  | some p => do
    match ← runner.cost.advanceProposal p bar with
    | .still p => return { s with position := some p }
    | .closed trade => return { s with position := none, trades := s.trades ++ [trade] }

/-- The proposal of the context, while no position is open: filled at the open of the bar, the rest of which applies to it. -/
def enter (s : ProposalReplayState) (context : Context) (bar : OHLCVBar) : Except PyError ProposalReplayState :=
  match s.position with
  | some _ => .ok s
  | none =>
    match runner.source.proposal context with
    | none => .ok s
    | some proposal => do
      let s := { s with totalProposals := s.totalProposals + 1, proposalCounts := bump s.proposalCounts proposal.strategyId }
      if proposal.expiresAt ≤ bar.timestamp then
        return { s with expired := s.expired + 1, expiredCounts := bump s.expiredCounts proposal.strategyId }
      else
        match ← runner.cost.openProposal proposal bar runner.mode with
        | none => return { s with driftRejected := s.driftRejected + 1, driftCounts := bump s.driftCounts proposal.strategyId }
        | some p => runner.settle { s with position := some p } bar

/-- The body of the loop of `replay`. -/
def step (s : ProposalReplayState) (context : Context) (bar : OHLCVBar) : Except PyError ProposalReplayState := do
  let s ← runner.settle s bar
  runner.enter s context bar

/-- The loop of `replay`; the state it leaves and the last bar. -/
def run (s : ProposalReplayState) (lastBar : Option OHLCVBar) :
    List Context → List OHLCVBar → Except PyError (ProposalReplayState × Option OHLCVBar)
  | [], [] => .ok (s, lastBar)
  | context :: contexts, bar :: bars => do
    let s ← runner.step s context bar
    run s (some bar) contexts bars
  | _, _ => .error (.valueError "contexts and next_entry_bars must have the same length")

/-- The end of `replay`: what is still open is closed at the last bar. -/
def finish (s : ProposalReplayState) (lastBar : Option OHLCVBar) : List ProposalReplayTrade :=
  match s.position, lastBar with
  | some p, some bar => s.trades ++ [runner.cost.closeProposal p bar.timestamp bar.close "end_of_window"]
  | _, _ => s.trades

/-- The trades of `replay`. -/
def replay (contexts : List Context) (nextEntryBars : List OHLCVBar) : Except PyError (List ProposalReplayTrade) := do
  let (s, lastBar) ← runner.run {} none contexts nextEntryBars
  return runner.finish s lastBar

end ProposalReplayRunner

end TradingPlatform
