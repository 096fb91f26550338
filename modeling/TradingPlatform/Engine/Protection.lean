import Mathlib.Data.Rat.Floor
import TradingPlatform.Domain.Candidate
import TradingPlatform.Engine.Exchange

/-!
# Protection

`application/protection_service.py`: the absolute stop and target of a fill, and the ladder that submits them. A failed
submission is retried under a new revision of the client ids, then the position is closed by an emergency order.
-/

namespace TradingPlatform

/-! ## Plans -/

/-- `a` is on the losing side of `b` for a position of the direction. -/
def Direction.Worse (d : Direction) (a b : ℚ) : Prop :=
  match d with
  | .long => a < b
  | .short => b < a

instance (d : Direction) (a b : ℚ) : Decidable (d.Worse a b) :=
  match d with
  | .long => inferInstanceAs (Decidable (a < b))
  | .short => inferInstanceAs (Decidable (b < a))

theorem long_worse_below : Direction.long.Worse 99 100 := by decide +kernel

theorem long_worse_above : ∀ p ∈ some (102 : ℚ), Direction.long.Worse 100 p := by decide +kernel

/-- `ProtectionPlan`. What `__post_init__` checks is part of the plan: a quantity, and a stop and a target on their sides of
the fill. -/
structure ProtectionPlan where
  positionId : String
  symbol : String
  direction : Direction
  quantity : ℚ
  averageFillPrice : ℚ
  stopPrice : ℚ
  takeProfitPrice : Option ℚ
  stopClientOrderId : String
  tpClientOrderId : Option String
  attempt : ℕ
  quantity_pos : 0 < quantity
  stopPrice_pos : 0 < stopPrice
  stop_worse : direction.Worse stopPrice averageFillPrice
  target_better : ∀ p ∈ takeProfitPrice, direction.Worse averageFillPrice p

instance : DecidableEq ProtectionPlan := fun a b =>
  decidable_of_iff (a.positionId = b.positionId ∧ a.symbol = b.symbol ∧ a.direction = b.direction ∧
      a.quantity = b.quantity ∧ a.averageFillPrice = b.averageFillPrice ∧ a.stopPrice = b.stopPrice ∧
      a.takeProfitPrice = b.takeProfitPrice ∧ a.stopClientOrderId = b.stopClientOrderId ∧
      a.tpClientOrderId = b.tpClientOrderId ∧ a.attempt = b.attempt)
    (by cases a; cases b; simp)

/-- `protection_side`: the side that reduces the position. -/
def ProtectionPlan.protectionSide (plan : ProtectionPlan) : String :=
  match plan.direction with
  | .long => "sell"
  | .short => "buy"

/-- The leg a price belongs to. -/
inductive ProtectionLeg where
  | stop | target
  deriving DecidableEq

/-- `round_to_tick`: a stop is rounded towards the entry, a target too. -/
def roundToTick (price tickSize : ℚ) (direction : Direction) (leg : ProtectionLeg) : Except PyError ℚ :=
  if tickSize ≤ 0 then .error (.valueError "tick_size must be > 0")
  else
    match leg, direction with
    | .stop, .long | .target, .short => .ok ((price / tickSize).ceil * tickSize)
    | .stop, .short | .target, .long => .ok ((price / tickSize).floor * tickSize)

/-- The client id of the target leg: a target that is absent or zero has none. -/
def targetIdFor (positionId : String) (takeProfitPrice : Option ℚ) (revision : ℕ) : Except PyError (Option String) :=
  match takeProfitPrice with
  | none => .ok none
  | some p => if p = 0 then .ok none else (targetClientOrderId positionId revision).map some

/-- The prices and ids of a plan before they are checked. -/
structure ProtectionDraftPlan where
  positionId : String
  symbol : String
  direction : Direction
  quantity : ℚ
  averageFillPrice : ℚ
  stopPrice : ℚ
  takeProfitPrice : Option ℚ
  stopClientOrderId : String
  tpClientOrderId : Option String
  attempt : ℕ

/-- `__post_init__`: a plan is made only if its geometry holds. -/
def ProtectionDraftPlan.check (p : ProtectionDraftPlan) : Except PyError ProtectionPlan :=
  if hq : p.quantity ≤ 0 then .error (.valueError "protection quantity must be > 0")
  else if hs : p.stopPrice ≤ 0 then .error (.valueError "stop price must be > 0")
  else if hw : p.direction.Worse p.stopPrice p.averageFillPrice then
    if ht : ∀ t ∈ p.takeProfitPrice, p.direction.Worse p.averageFillPrice t then
      .ok { positionId := p.positionId, symbol := p.symbol, direction := p.direction, quantity := p.quantity,
            averageFillPrice := p.averageFillPrice, stopPrice := p.stopPrice, takeProfitPrice := p.takeProfitPrice,
            stopClientOrderId := p.stopClientOrderId, tpClientOrderId := p.tpClientOrderId, attempt := p.attempt,
            quantity_pos := not_le.mp hq, stopPrice_pos := not_le.mp hs, stop_worse := hw, target_better := ht }
    else .error (.valueError "take-profit must be on the winning side of fill")
  else .error (.valueError "stop must be on the losing side of fill")

/-- The target rounded to the tick, if there is one. -/
def roundTarget (target : Option ℚ) (tickSize : ℚ) (direction : Direction) : Except PyError (Option ℚ) :=
  match target with
  | none => .ok none
  | some t => (roundToTick t tickSize direction .target).map some

/-- `build_protection_plan`. -/
def buildProtectionPlan (positionId : String) (candidate : TradeCandidate) (averageFillPrice filledQuantity tickSize : ℚ)
    (attempt : ℕ := 1) : Except PyError ProtectionPlan :=
  if averageFillPrice ≤ 0 then .error (.valueError "average_fill_price must be > 0")
  else if filledQuantity ≤ 0 then .error (.valueError "filled_quantity must be > 0")
  else do
    let (rawStop, rawTarget) ← candidate.resolveProtectionPrices averageFillPrice
    let stopPrice ← roundToTick rawStop tickSize candidate.side .stop
    let takeProfitPrice ← roundTarget rawTarget tickSize candidate.side
    let stopClientOrderId ← stopClientOrderId positionId attempt
    let tpClientOrderId ← targetIdFor positionId takeProfitPrice attempt
    ProtectionDraftPlan.check
      { positionId, symbol := candidate.symbol, direction := candidate.side, quantity := filledQuantity, averageFillPrice,
        stopPrice, takeProfitPrice, stopClientOrderId, tpClientOrderId, attempt }

/-! ## The escalation ladder -/

/-- `ProtectionOutcome`. -/
inductive ProtectionOutcome where
  | active | alreadyFlat | unknown | emergencyClosed | emergencyClosePending
  deriving DecidableEq, Repr

/-- `ProtectionFailureAction`. -/
inductive ProtectionFailureAction where
  | retriedSubmission | emergencyReduceOnlyClose | accountEntryBlock | highPriorityAlert
  deriving DecidableEq, Repr

/-- `ProtectionResult`. -/
structure ProtectionResult where
  outcome : ProtectionOutcome
  state : V2ProtectionState
  stopExchangeOrderId : Option String := none
  tpExchangeOrderId : Option String := none
  actions : List ProtectionFailureAction := []
  accountEntryBlocked : Bool := false
  attempts : ℕ := 1
  deriving DecidableEq, Repr

/-- `is_active`: an active protection has a real exchange order id. -/
def ProtectionResult.isActive (r : ProtectionResult) : Bool :=
  decide (r.state = .protectionActive) &&
    match r.stopExchangeOrderId with
    | none => false
    | some id => decide (id ≠ "")

/-- `_exchange_quantity_for`: the quantity of one side at the exchange, zero if it reports none. -/
def exchangeQuantityFor (x : Exchange) (symbol : String) (direction : Direction) : Except PyError ℚ × Exchange :=
  match fetchAuthoritativeSnapshot x with
  | (.error e, x) => (.error e, x)
  | (.ok snapshot, x) =>
    match snapshot.positions.find? fun p => decide (p.symbol = symbol ∧ p.direction = direction) with
    | none => (.ok 0, x)
    | some p => (.ok p.quantity, x)

/-- The command of the emergency close. -/
def ProtectionPlan.emergencyCommand (plan : ProtectionPlan) (clientOrderId : String) : SubmitReduceOnlyExit :=
  { positionId := plan.positionId, exitReason := "PROTECTION_FAILED_EMERGENCY_CLOSE", reduceQuantity := plan.quantity,
    clientOrderId, isEmergency := true }

/-- What `_escalate_emergency` reports after the close was sent: the exchange decides, not the reply. -/
def verifyEmergencyClose (x : Exchange) (plan : ProtectionPlan) (actions : List ProtectionFailureAction) (attempts : ℕ) :
    ProtectionResult × Exchange :=
  let pending : ProtectionResult :=
    { outcome := .emergencyClosePending, state := .protectionFailed,
      actions := actions ++ [.accountEntryBlock, .highPriorityAlert], accountEntryBlocked := true, attempts }
  match exchangeQuantityFor x plan.symbol plan.direction with
  | (.error _, x) => (pending, x)
  | (.ok liveQuantity, x) =>
    if liveQuantity ≤ 0 then
      ({ outcome := .emergencyClosed, state := .protectionCancelled, actions, attempts }, x)
    else (pending, x)

/-- `_escalate_emergency`. -/
def escalateEmergency (x : Exchange) (plan : ProtectionPlan) (actions : List ProtectionFailureAction) (attempts : ℕ) :
    Except PyError ProtectionResult × Exchange :=
  match exitClientOrderId plan.positionId plan.attempt with
  | .error e => (.error e, x)
  | .ok clientOrderId =>
    match submitReduceOnlyExit x (plan.emergencyCommand clientOrderId) plan.symbol plan.protectionSide with
    | (.error (.accountWriterFence detail), x) => (.error (.accountWriterFence detail), x)
    | (_, x) =>
      let (result, x) := verifyEmergencyClose x plan (actions ++ [.emergencyReduceOnlyClose]) attempts
      (.ok result, x)

/-- The command of a plan. -/
def ProtectionPlan.command (plan : ProtectionPlan) : SubmitProtectionOrders :=
  { positionId := plan.positionId, stopLossPrice := plan.stopPrice, takeProfitPrice := plan.takeProfitPrice,
    stopClientOrderId := plan.stopClientOrderId, tpClientOrderId := plan.tpClientOrderId }

/-- The plan of a retry: the live quantity and the client ids of the next attempt's revision. -/
def ProtectionPlan.retry (plan : ProtectionPlan) (liveQuantity : ℚ) (hq : 0 < liveQuantity) (attempt : ℕ) :
    Except PyError ProtectionPlan := do
  let stopClientOrderId ← TradingPlatform.stopClientOrderId plan.positionId attempt
  let tpClientOrderId ← targetIdFor plan.positionId plan.takeProfitPrice attempt
  return { plan with quantity := liveQuantity, quantity_pos := hq, stopClientOrderId, tpClientOrderId, attempt }

/-- `except ProtectionTimeout`. -/
def PyError.isProtectionTimeout : PyError → Bool
  | .protectionTimeout _ => true
  | _ => false

/-- `except (ProtectionSubmissionError, BinanceAdapterUnavailable)`. -/
def PyError.isSubmissionFailure : PyError → Bool
  | .protectionSubmissionError _ => true
  | .adapterUnavailable _ => true
  | _ => false

/-- The loop of `ensure_protection`, with `n` attempts left of `maxAttempts`. -/
def protectionAttempts (maxAttempts : ℕ) :
    ℕ → ProtectionPlan → List ProtectionFailureAction → Exchange → Except PyError ProtectionResult × Exchange
  | 0, plan, actions, x => escalateEmergency x plan actions maxAttempts
  | n + 1, plan, actions, x =>
    let attempt := maxAttempts - n
    match submitProtection x plan.command plan.symbol plan.protectionSide plan.quantity with
    | (.error e, x) =>
      if e.isProtectionTimeout then
        (.ok { outcome := .unknown, state := .protectionUnknown, actions, attempts := attempt }, x)
      else if e.isSubmissionFailure then
        -- re-read the true position before deciding anything
        match exchangeQuantityFor x plan.symbol plan.direction with
        | (.error _, x) => escalateEmergency x plan actions attempt
        | (.ok liveQuantity, x) =>
          if hq : 0 < liveQuantity then
            if n = 0 then escalateEmergency x plan actions attempt
            else
              match plan.retry liveQuantity hq (attempt + 1) with
              | .error e => (.error e, x)
              | .ok plan => protectionAttempts maxAttempts n plan (actions ++ [.retriedSubmission]) x
          else (.ok { outcome := .alreadyFlat, state := .protectionCancelled, actions, attempts := attempt }, x)
      else (.error e, x)
    | (.ok (stopReceipt, tpReceipt), x) =>
      -- an acknowledged stop without an id cannot be active
      if stopReceipt.exchangeOrderId = "" then escalateEmergency x plan actions attempt
      else
        (.ok { outcome := .active, state := .protectionActive, stopExchangeOrderId := some stopReceipt.exchangeOrderId,
               tpExchangeOrderId := tpReceipt.map (·.exchangeOrderId), actions, attempts := attempt }, x)

/-- `ensure_protection`. -/
def ensureProtection (x : Exchange) (plan : ProtectionPlan) (maxAttempts : ℕ := 2) :
    Except PyError ProtectionResult × Exchange :=
  protectionAttempts maxAttempts maxAttempts plan [] x

end TradingPlatform
