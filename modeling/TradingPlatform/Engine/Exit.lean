import TradingPlatform.Engine.Entry

/-!
# Exit gate and exit execution

`application/exit_service.py`. The exit gate checks only what makes a reduce-only order safe; the execution reconciles against
what the exchange confirms. The `detail` texts are left out.
-/

namespace TradingPlatform

/-- `ExitReason`. -/
inductive ExitReason where
  | hardStop | takeProfit | timeExit | strategyInvalidation | oppositeSignalClose | protectionFailureEmergency
  | canaryMarginCeiling | manualReduceOnly
  deriving DecidableEq, Repr

/-- The text of an exit reason. -/
def ExitReason.value : ExitReason → String
  | .hardStop => "HARD_STOP"
  | .takeProfit => "TAKE_PROFIT"
  | .timeExit => "TIME_EXIT"
  | .strategyInvalidation => "STRATEGY_INVALIDATION"
  | .oppositeSignalClose => "OPPOSITE_SIGNAL_CLOSE"
  | .protectionFailureEmergency => "PROTECTION_FAILURE_EMERGENCY"
  | .canaryMarginCeiling => "CANARY_MARGIN_CEILING"
  | .manualReduceOnly => "MANUAL_REDUCE_ONLY"

/-- `is_hard_exit`: an exit that no condition of the entry side may stop. -/
def ExitReason.isHardExit : ExitReason → Bool
  | .hardStop | .protectionFailureEmergency | .canaryMarginCeiling | .strategyInvalidation => true
  | _ => false

/-! ## The gate -/

/-- `ExitBlockReason`. -/
inductive ExitBlockReason where
  | noAuthoritativePosition | quantityNotPositive | quantityRoundsToZero | sideWouldNotReduce | invalidFencingToken
  | gatewayUnavailable
  deriving DecidableEq, Repr

/-- `ExitVerdict`. -/
inductive ExitVerdict where
  | approved | blocked | alreadyFlat
  deriving DecidableEq, Repr

/-- `ExitDecision`. It is reduce-only by construction. -/
structure ExitDecision where
  verdict : ExitVerdict
  positionId : String
  symbol : String
  direction : Direction
  reason : ExitReason
  quantity : ℚ
  clientOrderId : String
  blockReason : Option ExitBlockReason := none
  deriving DecidableEq

/-- `exchange_side`: the side that reduces the position. -/
def ExitDecision.exchangeSide (d : ExitDecision) : String :=
  match d.direction with
  | .long => "sell"
  | .short => "buy"

/-- The inputs of `evaluate_exit`. -/
structure ExitRequest where
  positionId : String
  symbol : String
  direction : Direction
  reason : ExitReason
  requestedQuantity : ℚ
  authoritativePosition : Option ExchangePositionSnapshot
  stepSize : ℚ
  attempt : ℕ := 1
  fencingTokenValid : Bool := false
  gatewayAvailable : Bool := true

/-- A decision of the request. -/
def ExitRequest.decision (r : ExitRequest) (clientOrderId : String) (verdict : ExitVerdict) (quantity : ℚ := 0)
    (blockReason : Option ExitBlockReason := none) : ExitDecision :=
  { verdict, positionId := r.positionId, symbol := r.symbol, direction := r.direction, reason := r.reason, quantity,
    clientOrderId, blockReason }

/-- `evaluate_exit`: the quantity is clamped to what the exchange holds and floored to the step, never raised. -/
def evaluateExit (r : ExitRequest) : Except PyError ExitDecision := do
  let clientOrderId ← exitClientOrderId r.positionId r.attempt
  let blocked (reason : ExitBlockReason) : ExitDecision := r.decision clientOrderId .blocked 0 (some reason)
  if !r.fencingTokenValid then return blocked .invalidFencingToken
  else if !r.gatewayAvailable then return blocked .gatewayUnavailable
  else
    match r.authoritativePosition with
    | none => return r.decision clientOrderId .alreadyFlat
    | some position =>
      if position.quantity ≤ 0 then return r.decision clientOrderId .alreadyFlat
      else if position.direction ≠ r.direction then return blocked .sideWouldNotReduce
      else if r.requestedQuantity ≤ 0 then return blocked .quantityNotPositive
      else
        -- `floor_to_step` is `round_quantity_to_step` under another name
        let quantity ← roundQuantityToStep (min r.requestedQuantity position.quantity) r.stepSize
        return if quantity ≤ 0 then blocked .quantityRoundsToZero else r.decision clientOrderId .approved quantity

/-! ## The execution -/

/-- `ExitExecutionStatus`. -/
inductive ExitExecutionStatus where
  | notAttempted | closed | partiallyReduced | alreadyFlatReconciled | submittedUnconfirmed | unknown | failed
  deriving DecidableEq, Repr

/-- `ExitExecutionResult`. -/
structure ExitExecutionResult where
  status : ExitExecutionStatus
  positionState : V2PositionState
  clientOrderId : String
  exchangeOrderId : Option String := none
  tradeIds : List String := []
  reducedQuantity : ℚ := 0
  averageFillPrice : Option ℚ := none
  totalFee : ℚ := 0
  remainingQuantity : Option ℚ := none
  fillTimestamp : Option ℕ := none
  residualProtectionCancelled : List String := []
  deriving DecidableEq

/-- `_cancel_protection`: each order is cancelled if it can be; a failure is logged. -/
def cancelProtection (x : Exchange) (orderIds : List String) : Exchange :=
  orderIds.foldl (fun x id => (cancelOrder x id).2) x

/-- The position still shows open at the exchange; a read that fails counts as flat. -/
def stillOpen (x : Exchange) (symbol : String) (direction : Direction) : Bool × Exchange :=
  match fetchAuthoritativeSnapshot x with
  | (.error _, x) => (false, x)
  | (.ok snapshot, x) =>
    (snapshot.positions.any fun p => decide (p.symbol = symbol ∧ p.direction = direction ∧ 0 < p.quantity), x)

/-- The part of `execute_reduce_only_exit` after an acknowledged order: its fills decide the status. -/
def settleExit (x : Exchange) (decision : ExitDecision) (receipt : ExchangeOrderReceipt) (authoritativeQuantity stepSize : ℚ)
    (openProtectionOrderIds : List String) : Except PyError ExitExecutionResult × Exchange :=
  let unconfirmed : ExitExecutionResult :=
    { status := .submittedUnconfirmed, positionState := .reducing, clientOrderId := decision.clientOrderId,
      exchangeOrderId := some receipt.exchangeOrderId }
  match fetchFills x receipt.exchangeOrderId with
  | .error _ => (.ok unconfirmed, x)
  | .ok fills =>
    let total := aggregateFills fills
    if total.tradeIds = [] ∨ total.quantity ≤ 0 then (.ok unconfirmed, x)
    else
      match roundQuantityToStep (max 0 (authoritativeQuantity - total.quantity)) stepSize with
      | .error e => (.error e, x)
      | .ok remaining =>
        let reduced : ExitExecutionResult :=
          { status := .partiallyReduced, positionState := .reducing, clientOrderId := decision.clientOrderId,
            exchangeOrderId := some receipt.exchangeOrderId, tradeIds := total.tradeIds, reducedQuantity := total.quantity,
            averageFillPrice := total.vwap, totalFee := total.fee, remainingQuantity := some remaining,
            fillTimestamp := total.lastTimestamp }
        if remaining ≤ 0 then
          (.ok { reduced with status := .closed, positionState := .closed, remainingQuantity := some 0,
                              residualProtectionCancelled := openProtectionOrderIds },
            cancelProtection x openProtectionOrderIds)
        else (.ok reduced, x)

/-- The exchange refused the order because nothing is open: the account decides. -/
def reconcileAlreadyFlat (x : Exchange) (decision : ExitDecision) (openProtectionOrderIds : List String) :
    ExitExecutionResult × Exchange :=
  match stillOpen x decision.symbol decision.direction with
  | (false, x) =>
    ({ status := .alreadyFlatReconciled, positionState := .closed, clientOrderId := decision.clientOrderId,
       residualProtectionCancelled := openProtectionOrderIds }, cancelProtection x openProtectionOrderIds)
  | (true, x) =>
    ({ status := .submittedUnconfirmed, positionState := .reducing, clientOrderId := decision.clientOrderId }, x)

/-- `execute_reduce_only_exit`. -/
def executeReduceOnlyExit (x : Exchange) (decision : ExitDecision) (authoritativeQuantity stepSize : ℚ)
    (openProtectionOrderIds : List String := []) : Except PyError ExitExecutionResult × Exchange :=
  let ended (status : ExitExecutionStatus) (positionState : V2PositionState) : ExitExecutionResult :=
    { status, positionState, clientOrderId := decision.clientOrderId }
  match decision.verdict with
  | .blocked => (.ok (ended .notAttempted .reducing), x)
  | .alreadyFlat => (.ok (ended .alreadyFlatReconciled .closed), x)
  | .approved =>
    let command : SubmitReduceOnlyExit :=
      { positionId := decision.positionId, exitReason := decision.reason.value, reduceQuantity := decision.quantity,
        clientOrderId := decision.clientOrderId, isEmergency := decision.reason.isHardExit }
    match submitReduceOnlyExit x command decision.symbol decision.exchangeSide with
    | (.error (.reduceOnlyAlreadyFlat _), x) =>
      let (result, x) := reconcileAlreadyFlat x decision openProtectionOrderIds
      (.ok result, x)
    | (.error (.exitTimeout _), x) => (.ok (ended .unknown .reducing), x)
    | (.error (.adapterUnavailable _), x) => (.ok (ended .failed .reducing), x)
    | (.error e, x) => (.error e, x)
    | (.ok receipt, x) => settleExit x decision receipt authoritativeQuantity stepSize openProtectionOrderIds

end TradingPlatform
