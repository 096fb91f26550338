import Mathlib.Algebra.Order.Ring.Rat
import TradingPlatform.Domain.State

/-!
# The contracts of the execution service

`shared/models/execution_truth.py` and `services/execution/exchange_order_transitions.py`: the states of an order that was
mirrored to the exchange, with their legal transitions, and the receipt of what the exchange filled of it so far.
-/

namespace TradingPlatform

/-- `ExchangeOrderState`. -/
inductive ExchangeOrderState where
  | intentCreated | pretradeApproved | exchangeSubmitting | exchangeAcknowledged | partiallyFilled | filled | positionProjected
  | protectionSubmitting | isProtected | pretradeRejected | exchangeRejected | exchangeUnknown | protectionFailed
  | emergencyClosePending | dustRemains | closed
  deriving DecidableEq, Repr

/-- The text of a state. -/
def ExchangeOrderState.value : ExchangeOrderState → String
  | .intentCreated => "INTENT_CREATED"
  | .pretradeApproved => "PRETRADE_APPROVED"
  | .exchangeSubmitting => "EXCHANGE_SUBMITTING"
  | .exchangeAcknowledged => "EXCHANGE_ACKNOWLEDGED"
  | .partiallyFilled => "PARTIALLY_FILLED"
  | .filled => "FILLED"
  | .positionProjected => "POSITION_PROJECTED"
  | .protectionSubmitting => "PROTECTION_SUBMITTING"
  | .isProtected => "PROTECTED"
  | .pretradeRejected => "PRETRADE_REJECTED"
  | .exchangeRejected => "EXCHANGE_REJECTED"
  | .exchangeUnknown => "EXCHANGE_UNKNOWN"
  | .protectionFailed => "PROTECTION_FAILED"
  | .emergencyClosePending => "EMERGENCY_CLOSE_PENDING"
  | .dustRemains => "DUST_REMAINS"
  | .closed => "CLOSED"

/-- `ALLOWED_EXCHANGE_ORDER_TRANSITIONS`. -/
def allowedExchangeOrderTransitions : ExchangeOrderState → List ExchangeOrderState
  | .intentCreated => [.pretradeApproved, .pretradeRejected]
  | .pretradeApproved => [.exchangeSubmitting, .pretradeRejected]
  | .exchangeSubmitting =>
    [.exchangeAcknowledged, .partiallyFilled, .filled, .exchangeRejected, .exchangeUnknown, .emergencyClosePending]
  | .exchangeAcknowledged => [.partiallyFilled, .filled, .exchangeRejected, .exchangeUnknown]
  | .partiallyFilled => [.partiallyFilled, .filled, .exchangeUnknown, .exchangeRejected]
  | .filled => [.positionProjected, .exchangeUnknown, .dustRemains, .closed]
  | .positionProjected => [.protectionSubmitting, .isProtected, .protectionFailed, .exchangeUnknown, .closed]
  | .protectionSubmitting => [.isProtected, .protectionFailed, .exchangeUnknown]
  | .isProtected => [.closed, .emergencyClosePending, .exchangeUnknown, .dustRemains]
  | .pretradeRejected => []
  | .exchangeRejected => []
  | .protectionFailed => [.emergencyClosePending, .exchangeUnknown, .closed]
  | .exchangeUnknown =>
    [.exchangeAcknowledged, .partiallyFilled, .filled, .positionProjected, .isProtected, .exchangeRejected,
     .emergencyClosePending, .dustRemains, .closed]
  | .emergencyClosePending => [.closed, .exchangeUnknown, .dustRemains]
  | .dustRemains => [.closed, .emergencyClosePending, .exchangeUnknown]
  | .closed => []

/-- `validate_exchange_order_transition`. -/
def validateExchangeOrderTransition (current nextState : ExchangeOrderState) : Except PyError Unit :=
  if nextState = current then .ok ()
  else if nextState ∈ allowedExchangeOrderTransitions current then .ok ()
  else .error (.valueError ("illegal exchange order transition: " ++ current.value ++ " -> " ++ nextState.value))

/-- `Literal["buy", "sell"]`. -/
inductive OrderSide where
  | buy | sell
  deriving DecidableEq, Repr

/-- `ExchangeFillReceipt` of the execution service: the fills of an order so far. Its trade ids are stripped, not empty and
unique. -/
structure CumulativeFillReceipt where
  receiptId : String
  exchangeAccount : String
  exchangeOrderId : String
  clientOrderId : String
  tradeIds : List String
  symbol : String
  side : OrderSide
  reduceOnly : Bool
  filledQuantity : ℚ
  averageFillPrice : ℚ
  /-- Assets with their amounts. -/
  commissions : List (String × ℚ) := []
  eventTime : ℕ
  projectedQuantity : ℚ := 0
  tradeIds_ne_nil : tradeIds ≠ []
  tradeIds_nodup : tradeIds.Nodup
  tradeIds_nonempty : ∀ t ∈ tradeIds, t ≠ ""
  filledQuantity_pos : 0 < filledQuantity
  averageFillPrice_pos : 0 < averageFillPrice

end TradingPlatform
