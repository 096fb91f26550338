import Mathlib.Algebra.Order.Ring.Rat
import TradingPlatform.Domain.State

/-!
# The execution state machine

`services/execution/state_machine.py`: the lifecycle of one order and the reducer of its exchange events. A call that raises
leaves the machine as far as it had been changed. Instants are natural numbers.
-/

namespace TradingPlatform

/-- `ExecutionState`. -/
inductive ExecutionState where
  | intentCreated | normalized | submitting | submitted | partiallyFilled | filled | protectionPending | protected_ | canceled
  | rejected | unknown | recoveryRequired | closed
  deriving DecidableEq, Repr

/-- The text of a state. -/
def ExecutionState.value : ExecutionState → String
  | .intentCreated => "INTENT_CREATED"
  | .normalized => "NORMALIZED"
  | .submitting => "SUBMITTING"
  | .submitted => "SUBMITTED"
  | .partiallyFilled => "PARTIALLY_FILLED"
  | .filled => "FILLED"
  | .protectionPending => "PROTECTION_PENDING"
  | .protected_ => "PROTECTED"
  | .canceled => "CANCELED"
  | .rejected => "REJECTED"
  | .unknown => "UNKNOWN"
  | .recoveryRequired => "RECOVERY_REQUIRED"
  | .closed => "CLOSED"

/-- `ExchangeOrderEvent`. -/
structure ExchangeOrderEvent where
  eventId : String
  clientOrderId : String
  state : ExecutionState
  filledQuantity : ℚ
  exchangeUpdateTime : ℕ
  deriving DecidableEq

/-- `_ALLOWED_TRANSITIONS`. -/
def allowedTransitions : ExecutionState → List ExecutionState
  | .intentCreated => [.normalized, .rejected]
  | .normalized => [.submitting, .rejected]
  | .submitting => [.submitted, .unknown, .rejected]
  | .submitted => [.partiallyFilled, .filled, .canceled, .rejected, .unknown]
  | .partiallyFilled => [.partiallyFilled, .filled, .canceled, .unknown]
  | .filled => [.protectionPending, .protected_, .recoveryRequired]
  | .protectionPending => [.protected_, .recoveryRequired]
  | .protected_ => [.closed, .recoveryRequired]
  | .unknown => [.submitted, .partiallyFilled, .filled, .canceled, .rejected, .recoveryRequired]
  | .recoveryRequired => [.protected_, .closed, .canceled]
  | .canceled | .rejected | .closed => []

/-- `_STATE_PRIORITY`. -/
def statePriority : ExecutionState → ℕ
  | .intentCreated => 0
  | .normalized => 1
  | .submitting => 2
  | .submitted => 3
  | .partiallyFilled => 4
  | .filled => 5
  | .protectionPending => 6
  | .protected_ => 7
  | .canceled | .rejected => 8
  | .unknown => 9
  | .recoveryRequired => 10
  | .closed => 11

/-- `ExecutionStateMachine`. -/
structure ExecutionStateMachine where
  state : ExecutionState := .intentCreated
  filledQuantity : ℚ := 0
  lastExchangeUpdateTime : Option ℕ := none
  eventIds : List String := []
  deriving DecidableEq

namespace ExecutionStateMachine

variable (m : ExecutionStateMachine)

/-- `transition`. -/
def transition (target : ExecutionState) : Except PyError Unit × ExecutionStateMachine :=
  if target = m.state then (.ok (), m)
  else if target ∉ allowedTransitions m.state then
    (.error (.valueError ("invalid execution transition: " ++ m.state.value ++ " -> " ++ target.value)), m)
  else (.ok (), { m with state := target })

/-- The time test: an event that is older, or of the same instant and no higher priority, is dropped. -/
def outdated (event : ExchangeOrderEvent) : Bool :=
  match m.lastExchangeUpdateTime with
  | none => false
  | some last =>
    decide (event.exchangeUpdateTime < last) ||
      decide (event.exchangeUpdateTime = last ∧ statePriority event.state ≤ statePriority m.state)

/-- `apply_exchange_event`: whether the event was applied. -/
def applyExchangeEvent (event : ExchangeOrderEvent) : Except PyError Bool × ExecutionStateMachine :=
  if event.eventId ∈ m.eventIds then (.ok false, m)
  else if m.outdated event then (.ok false, m)
  else
    match m.transition event.state with
    | (.error e, m) => (.error e, m)
    | (.ok _, m) =>
      (.ok true, { m with eventIds := m.eventIds ++ [event.eventId], lastExchangeUpdateTime := some event.exchangeUpdateTime,
                          filledQuantity := max m.filledQuantity event.filledQuantity })

/-- The machine after events were delivered one after another. A call that raises is followed by the next one. -/
def run (events : List ExchangeOrderEvent) : ExecutionStateMachine :=
  events.foldl (fun m event => (m.applyExchangeEvent event).2) m

end ExecutionStateMachine

end TradingPlatform
