import Mathlib.Data.List.Infix
import TradingPlatform.Store.ExecutionRepository

/-!
# Mirrored orders

`ensure_binance_execution` of `services/execution/paper_exchange_execution.py` from its submission on, with
`update_exchange_order` and `update_order` of the execution repository. What follows the `try` block is a parameter. The values an
order carries in its context are given as they convert, or with the exception their conversion raises.
-/

namespace TradingPlatform

/-! ## Exceptions -/

/-- An exception: `str(exc)`, and whether it is a `TimeoutError` or a `ConnectionError`. -/
structure PyException where
  text : String
  isConnection : Bool := false
  deriving DecidableEq, Repr

/-- `needle in text`. -/
def textContains (needle : String) (text : List Char) : Bool := decide (needle.toList <:+: text)

/-- `str.lower` as far as an ASCII text can be found in the result. -/
def lowerText (text : String) : List Char :=
  text.toList.flatMap fun c =>
    if c = Char.ofNat 0x212A then ['k'] else if c = Char.ofNat 0x130 then ['i', Char.ofNat 0x307] else [c.toLower]

/-- The text says that an emergency close failed. -/
def PyException.emergencyCloseFailed (e : PyException) : Bool := textContains "emergency_close_failed" e.text.toList

/-- The outcome of the call is not known. -/
def PyException.uncertain (e : PyException) : Bool :=
  e.isConnection || ["timeout", "timed out", "connection reset", "network"].any fun marker => textContains marker (lowerText e.text)

/-- `_is_reduce_only_already_flat`. -/
def PyException.alreadyFlat (e : PyException) : Bool :=
  textContains "-2022" (lowerText e.text) || textContains "reduceonly order is rejected" (lowerText e.text)

/-- The state that is requested after an exception. -/
def PyException.failureState (e : PyException) : ExchangeOrderState :=
  if e.emergencyCloseFailed then .emergencyClosePending else if e.uncertain then .exchangeUnknown else .exchangeRejected

/-! ## The repository -/

/-- A row of `exchange_orders`. -/
structure ExchangeOrderRow where
  exchangeOrderRecordId : String
  exchangeAccount : String
  exchangeOrderId : Option String := none
  state : ExchangeOrderState
  deriving DecidableEq

/-- A row of `order_executions`. -/
structure OrderExecutionRow where
  orderExecutionId : String
  closeOnlyMode : Bool
  executionStatus : String
  rejectionReason : Option String := none
  rejectionCodes : List String := []
  gatewayStatus : Option String := none
  protectionOrderRefs : List String := []
  deriving DecidableEq

/-- The two tables, and whether the session waits for a rollback. -/
structure ExecutionStore where
  exchangeOrders : List ExchangeOrderRow := []
  orders : List OrderExecutionRow := []
  needsRollback : Bool := false
  /-- `_entry_kill_switch_active` of the service. -/
  entryKillSwitchActive : Bool := false

/-- The row of a mirrored order. -/
def ExecutionStore.exchangeOrder (s : ExecutionStore) (id : String) : Option ExchangeOrderRow :=
  Table.get ExchangeOrderRow.exchangeOrderRecordId s.exchangeOrders id

/-- The row of a local order. -/
def ExecutionStore.order (s : ExecutionStore) (id : String) : Option OrderExecutionRow :=
  Table.get OrderExecutionRow.orderExecutionId s.orders id

/-- Where the store fails in an update: when the row is read, when the change is committed, or when the row is read again. -/
inductive UpdateFailure where
  | onRead (e : PyException)
  | onCommit (e : PyException)
  | onRefresh (e : PyException)
  deriving DecidableEq, Repr

/-- No other order of the account has the exchange id that is assigned (`uq_exchange_orders_account_order`). -/
def ExecutionStore.admitsOrderId (s : ExecutionStore) (row : ExchangeOrderRow) (assigned : Option (Option String)) : Bool :=
  match assigned with
  | none => true
  | some none => true
  | some (some id) =>
    s.exchangeOrders.all fun r =>
      decide (r.exchangeOrderRecordId = row.exchangeOrderRecordId ∨ r.exchangeAccount ≠ row.exchangeAccount ∨
        r.exchangeOrderId ≠ some id)

/-- `update_exchange_order`: a change that the transition table permits. A commit that fails leaves a session that raises until it
is rolled back. -/
def updateExchangeOrder (s : ExecutionStore) (id : String) (nextState : ExchangeOrderState)
    (exchangeOrderId : Option (Option String) := none) (failure : Option UpdateFailure := none) :
    Except PyException Unit × ExecutionStore :=
  if s.needsRollback then (.error { text := "This Session's transaction has been rolled back" }, s)
  else
    match failure, s.exchangeOrder id with
    | some (.onRead e), _ => (.error e, s)
    | _, none => (.ok (), s)
    | failure, some row =>
      match validateExchangeOrderTransition row.state nextState with
      | .error e => (.error { text := e.message }, s)
      | .ok _ =>
        if !s.admitsOrderId row exchangeOrderId then
          (.error { text := "uq_exchange_orders_account_order" }, { s with needsRollback := true })
        else
          let stored := { s with exchangeOrders := Table.modify ExchangeOrderRow.exchangeOrderRecordId s.exchangeOrders id fun r =>
            { r with state := nextState, exchangeOrderId := exchangeOrderId.getD r.exchangeOrderId } }
          match failure with
          | some (.onCommit e) => (.error e, { s with needsRollback := true })
          | some (.onRefresh e) => (.error e, stored)
          | _ => (.ok (), stored)

/-- `update_order`: the row after the change, or the order as it was given if there is no row. -/
def updateOrder (s : ExecutionStore) (order : OrderExecutionRow) (change : OrderExecutionRow → OrderExecutionRow) :
    OrderExecutionRow × ExecutionStore :=
  match s.order order.orderExecutionId with
  | none => (order, s)
  | some row =>
    (change row, { s with orders := Table.modify OrderExecutionRow.orderExecutionId s.orders order.orderExecutionId change })

/-! ## The call -/

/-- What the gateway says of a submission. -/
structure GatewayResult where
  gatewayOrderId : Option String
  gatewayStatus : Option String
  protectionOrderRefs : List String := []
  deriving DecidableEq

/-- The position that a close reduces. -/
structure MirroredPosition where
  side : Direction
  /-- The reference price of the order, or the mark price. -/
  referencePrice : Except PyException ℚ

/-- What a protection refresh is asked for. -/
structure RefreshRequest where
  stopPrice : ℚ
  quantity : ℚ
  previousRefs : List String

/-- What `ensure_binance_execution` works with once the request is made: the record of the mirrored order, if the execution mode
is the testnet, and the answers of the gateway and of the store. -/
structure MirrorCall where
  repository : Bool
  record : Option String
  order : OrderExecutionRow
  submitOrder : Except PyException GatewayResult
  acknowledgement : Option UpdateFailure := none
  /-- Recording the events, and the rollback after it failed. -/
  events : Except PyException Unit := .ok ()
  eventsRollback : Except PyException Unit := .ok ()
  refreshProtection : Bool := false
  remainingQuantity : Except PyException ℚ := .ok 0
  stopPrice : Option (Except PyException ℚ) := none
  position : Option MirroredPosition := none
  /-- None for a gateway without `refresh_protection_orders`. -/
  refreshProtectionOrders : Option (RefreshRequest → Except PyException (List String)) := none
  /-- `_exchange_position_present`. -/
  exchangePositionPresent : Bool := false
  record_repository : record.isSome → repository = true

/-- The state of an acknowledged order. -/
def GatewayResult.acknowledgedState (r : GatewayResult) : ExchangeOrderState :=
  let status := lowerText (r.gatewayStatus.getD "")
  if status = "filled".toList ∨ status = "closed".toList then .filled
  else if status = "partially_filled".toList then .partiallyFilled
  else .exchangeAcknowledged

/-- `protection_geometry_valid` without a target. -/
def protectionGeometryValid (side : Direction) (referencePrice : ℚ) (stopPrice : Option ℚ) : Bool :=
  match stopPrice with
  | none => false
  | some stop =>
    decide (0 < referencePrice) &&
      match side with
      | .long => decide (stop < referencePrice)
      | .short => decide (referencePrice < stop)

/-- The geometry of the refreshed stop is checked against the position, if there is one. -/
def MirrorCall.checkGeometry (c : MirrorCall) (stop : Except PyException ℚ) : Except PyException Unit :=
  match c.position with
  | none => .ok ()
  | some position =>
    match position.referencePrice with
    | .error e => .error e
    | .ok reference =>
      if protectionGeometryValid position.side reference stop.toOption then .ok ()
      else .error { text := "INVALID_PROTECTION_GEOMETRY" }

/-- The refresh of the protection orders. -/
def MirrorCall.refresh (c : MirrorCall) (result : GatewayResult) : Except PyException Unit :=
  if !c.refreshProtection then .ok ()
  else do
    let remaining ← c.remainingQuantity
    match c.refreshProtectionOrders, c.stopPrice with
    | none, _ => .error { text := "gateway_protection_refresh_unsupported" }
    | some _, none => .error { text := "gateway_protection_refresh_missing_levels" }
    | some refresh, some stop =>
      if remaining ≤ 0 then .error { text := "gateway_protection_refresh_missing_levels" }
      else do
        c.checkGeometry stop
        let stopPrice ← stop
        let previousRefs := if c.order.protectionOrderRefs = [] then result.protectionOrderRefs else c.order.protectionOrderRefs
        let refreshed ← refresh { stopPrice, quantity := remaining, previousRefs }
        if refreshed = [] then .error { text := "gateway_protection_refresh_failed" } else .ok ()

/-- The events of a submission: a failure is rolled back and noted. -/
def MirrorCall.recordEvents (c : MirrorCall) : Except PyException Unit :=
  if c.repository then
    match c.events with
    | .ok _ => .ok ()
    | .error _ => c.eventsRollback
  else .ok ()

/-- The update of the record after the submission. -/
def MirrorCall.acknowledge (s : ExecutionStore) (c : MirrorCall) (result : GatewayResult) :
    Except PyException Unit × ExecutionStore :=
  match c.record with
  | none => (.ok (), s)
  | some id => updateExchangeOrder s id result.acknowledgedState (some result.gatewayOrderId) c.acknowledgement

/-- The `try` block after `submit_order` returned. -/
def afterSubmission (s : ExecutionStore) (c : MirrorCall) (result : GatewayResult) : Except PyException Unit × ExecutionStore :=
  match c.acknowledge s result with
  | (.error e, s) => (.error e, s)
  | (.ok _, s) =>
    match c.recordEvents with
    | .error e => (.error e, s)
    | .ok _ => (c.refresh result, s)

/-- What a failure makes of the row of the local order. -/
def failedOrder (e : PyException) (order row : OrderExecutionRow) : OrderExecutionRow :=
  { row with
    executionStatus := e.failureState.value, gatewayStatus := some e.failureState.value,
    rejectionReason := some ("binance_auto_execute_failed: " ++ e.text),
    rejectionCodes := order.rejectionCodes ++ ["binance_auto_execute_failed"] }

/-- What a close makes of the row of the local order when the exchange is flat already. -/
def flatOrder (order row : OrderExecutionRow) : OrderExecutionRow :=
  { row with
    executionStatus := "accepted", gatewayStatus := some "exchange_already_flat", rejectionReason := none,
    rejectionCodes := order.rejectionCodes.filter fun code => decide (code ≠ "binance_auto_execute_failed") }

/-- The update of the record after a failure. -/
def MirrorCall.recordFailure (s : ExecutionStore) (c : MirrorCall) (e : PyException) : Except PyException Unit × ExecutionStore :=
  match c.record with
  | none => (.ok (), s)
  | some id => updateExchangeOrder s id e.failureState

/-- The close found the exchange flat already. -/
def MirrorCall.foundFlat (c : MirrorCall) (e : PyException) : Bool :=
  c.order.closeOnlyMode && e.alreadyFlat && !c.exchangePositionPresent

/-- The handler of the `try` block: the record first, then the local order. -/
def handleFailure (s : ExecutionStore) (c : MirrorCall) (e : PyException) : Except PyException OrderExecutionRow × ExecutionStore :=
  let s := { s with entryKillSwitchActive := s.entryKillSwitchActive || e.emergencyCloseFailed }
  match c.recordFailure s e with
  | (.error raised, s) => (.error raised, s)
  | (.ok _, s) =>
    if !c.repository then (.ok c.order, s)
    else
      let (order, s) := updateOrder s c.order (if c.foundFlat e then flatOrder c.order else failedOrder e c.order)
      (.ok order, s)

/-- `ensure_binance_execution` from the submission on. -/
def ensureFromSubmission (finish : GatewayResult → ExecutionStore → Except PyException OrderExecutionRow × ExecutionStore)
    (s : ExecutionStore) (c : MirrorCall) : Except PyException OrderExecutionRow × ExecutionStore :=
  match c.submitOrder with
  | .error e => handleFailure s c e
  | .ok result =>
    match afterSubmission s c result with
    | (.error e, s) => handleFailure s c e
    | (.ok _, s) => finish result s

end TradingPlatform
