import Mathlib.Algebra.Order.Ring.Rat
import TradingPlatform.Domain.State

/-!
# Carry execution

`services/execution/carry_execution.py`: a spot buy hedged by a short of the perpetual. A gateway is what an order meets at its venue:
it fills any quantity and then returns or raises. The venues report what is truly open. Floats are exact.
-/

namespace TradingPlatform

/-- `CarryExecutionRequest`. -/
structure CarryExecutionRequest where
  symbol : String := "BTC/USDT"
  perpSymbol : String := "BTC/USDT:USDT"
  notionalUsdt : ℚ := 1000
  minNetEdgeBps : ℚ := 10
  closeImmediately : Bool := true
  idempotencyKey : Option String := none
  notional_pos : 0 < notionalUsdt
  edge_nonneg : 0 ≤ minNetEdgeBps

/-- `FundingArbitrageSignal`, what the execution reads of it. -/
structure FundingArbitrageSignal where
  fundingBps : Option ℚ := none
  basisBps : Option ℚ := none
  estimatedNetEdgeBps : Option ℚ := none
  shouldEnterPaper : Bool := false
  rejectionReasons : List String := []

/-- `_admitted`. -/
def FundingArbitrageSignal.admitted (signal : FundingArbitrageSignal) (request : CarryExecutionRequest) : Bool :=
  signal.shouldEnterPaper && decide (0 < signal.fundingBps.getD 0) &&
    decide (request.minNetEdgeBps ≤ signal.estimatedNetEdgeBps.getD 0) && signal.basisBps.isSome

/-- The order of one leg, as a gateway receives it. -/
structure CarryOrder where
  symbol : String
  side : String
  notionalUsdt : ℚ
  quantity : Option ℚ
  reduceOnly : Bool := false
  idempotencyKey : String
  deriving DecidableEq

/-- What a gateway returns for an order. -/
structure RawCarryLeg where
  gatewayOrderId : String := ""
  gatewayStatus : String := "unknown"
  symbol : String := ""
  side : String := ""
  quantity : Option ℚ := none
  notionalUsdt : Option ℚ := none
  requestedNotional : Option ℚ := none
  deriving DecidableEq

/-- What becomes of an order: the quantity its venue fills, whether orders rest there afterwards, and what the call returns. -/
structure CarrySubmission where
  filled : ℚ
  restingOrders : Bool := false
  result : Except PyError RawCarryLeg
  filled_nonneg : 0 ≤ filled

/-- The gateways, as what becomes of the orders they receive. -/
structure CarryGateways where
  spot : CarryOrder → CarrySubmission
  perp : CarryOrder → CarrySubmission

/-- The truth of the venues: the spot held above the baseline, the position in the perpetual, and whether orders rest. -/
structure CarryVenues where
  spot : ℚ := 0
  perp : ℚ := 0
  spotOrders : Bool := false
  perpOrders : Bool := false
  deriving DecidableEq

/-- Some order or position is open, as `preflight` and `final_state` report it. -/
def CarryVenues.anyOpen (v : CarryVenues) : Bool := v.spotOrders || decide (v.spot ≠ 0) || v.perpOrders || decide (v.perp ≠ 0)

/-- `submit_market_order` of the spot gateway. -/
def CarryGateways.submitSpot (g : CarryGateways) (order : CarryOrder) (v : CarryVenues) : Except PyError RawCarryLeg × CarryVenues :=
  let submission := g.spot order
  (submission.result, { v with
    spot := if order.side = "buy" then v.spot + submission.filled else v.spot - submission.filled
    spotOrders := submission.restingOrders })

/-- `submit_carry_order` of the perpetual gateway. -/
def CarryGateways.submitPerp (g : CarryGateways) (order : CarryOrder) (v : CarryVenues) : Except PyError RawCarryLeg × CarryVenues :=
  let submission := g.perp order
  (submission.result, { v with
    perp := if order.side = "buy" then v.perp + submission.filled else v.perp - submission.filled
    perpOrders := submission.restingOrders })

/-- `CarryExecutionLegResult`. -/
structure CarryExecutionLegResult where
  venue : String
  gatewayOrderId : String
  gatewayStatus : String
  symbol : String
  side : String
  quantity : ℚ
  notionalUsdt : ℚ
  reduceOnly : Bool
  deriving DecidableEq

/-- `x or y` of optional numbers: a zero counts as missing. -/
def numberOr (x y : Option ℚ) : Option ℚ := if x.getD 0 = 0 then y else x

/-- `_leg`. -/
def RawCarryLeg.leg (raw : RawCarryLeg) (venue : String) (reduceOnly : Bool) : CarryExecutionLegResult where
  venue := venue
  gatewayOrderId := raw.gatewayOrderId
  gatewayStatus := raw.gatewayStatus
  symbol := raw.symbol
  side := raw.side
  quantity := raw.quantity.getD 0
  notionalUsdt := (numberOr raw.notionalUsdt raw.requestedNotional).getD 0
  reduceOnly := reduceOnly

/-- `run_status`. -/
inductive CarryRunStatus where
  | rejected | failed | running | completed
  deriving DecidableEq, Repr

/-- `carry_state`. -/
inductive CarryState where
  | planned | firstLegFilled | hedged | compensated | closing | closed
  deriving DecidableEq, Repr

/-- `CarryExecutionStatus`, without the signal it repeats. -/
structure CarryExecutionStatus where
  runId : String
  runStatus : CarryRunStatus
  carryState : CarryState
  stateHistory : List CarryState
  legs : List CarryExecutionLegResult := []
  finalNetExposureUsdt : ℚ := 0
  errorSummary : Option String := none
  deriving DecidableEq

/-- `_net_exposure`: from what the venues report as open. -/
def CarryVenues.netExposure (v : CarryVenues) (notional : ℚ) : ℚ :=
  if v.spot ≠ 0 ∧ v.perp ≠ 0 then 0
  else if v.spot ≠ 0 then notional
  else if v.perp ≠ 0 then -notional
  else 0

/-- The locals of `run` and the venues. -/
structure CarryProgress where
  spotQuantity : ℚ := 0
  states : List CarryState := [.planned]
  legs : List CarryExecutionLegResult := []
  venues : CarryVenues

namespace CarryExecutionRequest

variable (request : CarryExecutionRequest) (g : CarryGateways) (runId : String)

/-- The buy of the spot leg. -/
def spotEntryOrder : CarryOrder :=
  { symbol := request.symbol, side := "buy", notionalUsdt := request.notionalUsdt, quantity := none,
    idempotencyKey := runId ++ "-spot-entry" }

/-- The short of the perpetual. -/
def perpEntryOrder (spotQuantity : ℚ) : CarryOrder :=
  { symbol := request.perpSymbol, side := "sell", notionalUsdt := request.notionalUsdt, quantity := some spotQuantity,
    idempotencyKey := runId ++ "-perp-entry" }

/-- The sale that compensates the spot leg. -/
def spotCompensateOrder (spotQuantity : ℚ) : CarryOrder :=
  { symbol := request.symbol, side := "sell", notionalUsdt := request.notionalUsdt, quantity := some spotQuantity,
    idempotencyKey := runId ++ "-spot-compensate" }

/-- The buy that closes the short. -/
def perpExitOrder (spotQuantity : ℚ) : CarryOrder :=
  { symbol := request.perpSymbol, side := "buy", notionalUsdt := request.notionalUsdt, quantity := some spotQuantity, reduceOnly := true,
    idempotencyKey := runId ++ "-perp-exit" }

/-- The sale that closes the spot leg. -/
def spotExitOrder (spotQuantity : ℚ) : CarryOrder :=
  { symbol := request.symbol, side := "sell", notionalUsdt := request.notionalUsdt, quantity := some spotQuantity,
    idempotencyKey := runId ++ "-spot-exit" }

/-- The first `try`: the spot leg, then its hedge. -/
def enter (p : CarryProgress) : Except PyError Unit × CarryProgress :=
  let (result, venues) := g.submitSpot (request.spotEntryOrder runId) p.venues
  let p := { p with venues }
  match result with
  | .error e => (.error e, p)
  | .ok spotEntry =>
    let p := { p with spotQuantity := spotEntry.quantity.getD 0 }
    if p.spotQuantity ≤ 0 then (.error (.valueError "spot entry returned no filled quantity"), p)
    else
      let p := { p with legs := p.legs ++ [spotEntry.leg "spot" false], states := p.states ++ [CarryState.firstLegFilled] }
      let (result, venues) := g.submitPerp (request.perpEntryOrder runId p.spotQuantity) p.venues
      let p := { p with venues }
      match result with
      | .error e => (.error e, p)
      | .ok perpEntry => (.ok (), { p with legs := p.legs ++ [perpEntry.leg "futures" false], states := p.states ++ [CarryState.hedged] })

/-- The status of a run that failed. -/
def failed (p : CarryProgress) (carryState : CarryState) (errorSummary : String) : CarryExecutionStatus :=
  { runId, runStatus := .failed, carryState, stateHistory := p.states, legs := p.legs
    finalNetExposureUsdt := p.venues.netExposure request.notionalUsdt, errorSummary := some errorSummary }

/-- The handler of the first `try`: a spot leg that reported a quantity is compensated. -/
def compensate (p : CarryProgress) (e : PyError) : Except PyError CarryExecutionStatus × CarryVenues :=
  if 0 < p.spotQuantity then
    let (result, venues) := g.submitSpot (request.spotCompensateOrder runId p.spotQuantity) p.venues
    let p := { p with venues }
    match result with
    | .error raised => (.error raised, p.venues)
    | .ok compensated =>
      let p := { p with legs := p.legs ++ [compensated.leg "spot" true], states := p.states ++ [CarryState.compensated] }
      (.ok (request.failed runId p (p.states.getLastD .planned) e.message), p.venues)
  else (.ok (request.failed runId p (p.states.getLastD .planned) e.message), p.venues)

/-- The second `try`: the short is closed, then the spot leg. -/
def close (p : CarryProgress) : Except PyError Unit × CarryProgress :=
  let (result, venues) := g.submitPerp (request.perpExitOrder runId p.spotQuantity) p.venues
  let p := { p with venues }
  match result with
  | .error e => (.error e, p)
  | .ok perpExit =>
    let p := { p with legs := p.legs ++ [perpExit.leg "futures" true] }
    let (result, venues) := g.submitSpot (request.spotExitOrder runId p.spotQuantity) p.venues
    let p := { p with venues }
    match result with
    | .error e => (.error e, p)
    | .ok spotExit => (.ok (), { p with legs := p.legs ++ [spotExit.leg "spot" true] })

/-- The status after both exits: completed if the venues report nothing open. -/
def verifyFlat (p : CarryProgress) : CarryExecutionStatus :=
  if p.venues.anyOpen then request.failed runId p .closing "carry exit left residual orders or positions"
  else { runId, runStatus := .completed, carryState := .closed, stateHistory := p.states ++ [.closed], legs := p.legs }

/-- What follows the hedge. -/
def settle (p : CarryProgress) : CarryExecutionStatus × CarryVenues :=
  if request.closeImmediately = false then
    ({ runId, runStatus := .running, carryState := .hedged, stateHistory := p.states, legs := p.legs }, p.venues)
  else
    let p := { p with states := p.states ++ [CarryState.closing] }
    match request.close g runId p with
    | (.error e, p) => (request.failed runId p .closing ("carry exit failed: " ++ e.message), p.venues)
    | (.ok (), p) => (request.verifyFlat runId p, p.venues)

end CarryExecutionRequest

/-- `run_id`: the key of the request, if it has one. -/
def CarryExecutionRequest.runId (request : CarryExecutionRequest) (freshId : String) : String :=
  match request.idempotencyKey with
  | some key => if key = "" then freshId else key
  | none => freshId

/-- `CarryExecutionService.run`, from the venues as they stand. -/
def CarryGateways.run (g : CarryGateways) (freshId : String) (request : CarryExecutionRequest) (signal : FundingArbitrageSignal)
    (v : CarryVenues) : Except PyError CarryExecutionStatus × CarryVenues :=
  let runId := request.runId freshId
  if signal.admitted request = false then
    (.ok
      { runId, runStatus := .rejected, carryState := .planned, stateHistory := [.planned]
        errorSummary := some (if "; ".intercalate signal.rejectionReasons = "" then "funding signal did not pass carry admission"
          else "; ".intercalate signal.rejectionReasons) }, v)
  else if v.anyOpen then (.error (.valueError "carry acceptance requires clean Spot and Futures testnet accounts"), v)
  else
    match request.enter g runId { venues := v } with
    | (.error e, p) => request.compensate g runId p e
    | (.ok (), p) =>
      let (status, venues) := request.settle g runId p
      (.ok status, venues)

end TradingPlatform
