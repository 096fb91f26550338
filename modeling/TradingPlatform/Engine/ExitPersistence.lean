import TradingPlatform.Engine.Exit
import TradingPlatform.Engine.FactPersistence

/-!
# Persistence of exits

The exit half of `application/fact_persistence.py`, over the results of `Exit`. An exit intent has an id
derived from the client order id and a candidate key that opens with `exit:`.
-/

namespace TradingPlatform

/-- `_exit_intent_id`. -/
def exitIntentId (clientOrderId : String) : String :=
  Digest.uuid5 Digest.namespaceUrl ("automated-trading-v2:exit:" ++ clientOrderId)

/-! ## The exit intent -/

/-- The arguments of `persist_exit_intent_before_submission`. -/
structure ExitIdentity where
  cycleId : String
  positionId : String
  executionMode : V2ExecutionMode
  reason : ExitReason
  clientOrderId : String
  requestedQuantity : ℚ
  fencingToken : String
  deriving DecidableEq

/-- The intent row of an exit. It carries no risk. -/
def ExitIdentity.intentRow (a : ExitIdentity) (position : PositionRow) (candidateType : V2CandidateType) : IntentRow :=
  { intentId := exitIntentId a.clientOrderId, cycleId := a.cycleId, decisionId := none, symbol := position.symbol,
    direction := position.direction, candidateKey := "exit:" ++ a.positionId ++ ":" ++ a.reason.value, candidateType,
    executionMode := a.executionMode, initialRiskUsdt := none, state := .intentCreated }

/-- The intent of an exit, written if it is missing. -/
def ensureExitIntent (db : Database) (a : ExitIdentity) (position : PositionRow) (candidateType : V2CandidateType) :
    Except PyError Database :=
  match db.intent (exitIntentId a.clientOrderId) with
  | none => createSubmittingIntent db (a.intentRow position candidateType) "ExitSubmitting"
  | some _ => .ok db

/-- The order of an exit, written if it is missing. -/
def ensureExitOrder (db : Database) (a : ExitIdentity) (leverage : ℤ) : Except PyError Database :=
  match db.orderOfClientId a.clientOrderId with
  | none => do
    let (_, db) ← saveOrderSubmission db (exitIntentId a.clientOrderId) a.clientOrderId a.requestedQuantity leverage
    return db
  | some order =>
    if order.intentId ≠ exitIntentId a.clientOrderId then
      .error (.valueError ("Exit client order id '" ++ a.clientOrderId ++ "' belongs to intent '" ++ order.intentId ++
        "', expected '" ++ exitIntentId a.clientOrderId ++ "'"))
    else .ok db

/-- The position an exit is for, with the intent and the order of its entry. -/
def exitSubject (db : Database) (positionId : String) : Except PyError (PositionRow × IntentRow × OrderRow) :=
  match db.position positionId with
  | none => .error (.valueError ("Position '" ++ positionId ++ "' not found"))
  | some position =>
    match db.intent position.intentId with
    | none => .error (.valueError ("Entry intent '" ++ position.intentId ++ "' not found"))
    | some entryIntent =>
      match db.order position.orderRecordId with
      | none => .error (.valueError ("Entry order '" ++ position.orderRecordId ++ "' not found"))
      | some entryOrder => .ok (position, entryIntent, entryOrder)

/-- `persist_exit_intent_before_submission`. -/
def persistExitIntentBeforeSubmission (db : Database) (a : ExitIdentity) : Except PyError Database :=
  if a.requestedQuantity ≤ 0 then .error (.valueError "exit requested_quantity must be positive")
  else do
    let (position, entryIntent, entryOrder) ← exitSubject db a.positionId
    let db ← ensureCycle db a.cycleId a.fencingToken
    let db ← ensureExitIntent db a position entryIntent.candidateType
    ensureExitOrder db a entryOrder.leverage

/-! ## The submission result -/

/-- A position that is projected or protected is reducing from the moment its exit is acknowledged. -/
def startReducing (db : Database) (position : PositionRow) : Except PyError Database :=
  if position.state = .positionProjected ∨ position.state = .isProtected then
    transitionPosition db position.positionId position.state .reducing "PositionReducing"
  else .ok db

/-- `persist_exit_submission_result`. -/
def persistExitSubmissionResult (db : Database) (positionId : String) (result : ExitExecutionResult) :
    Except PyError Database :=
  let intentId := exitIntentId result.clientOrderId
  match db.position positionId with
  | none => .error (.valueError ("Position '" ++ positionId ++ "' not found"))
  | some position =>
    match db.intent intentId with
    | none => .error (.valueError ("Exit intent '" ++ intentId ++ "' not found before exchange result"))
    | some intent =>
      match db.orderOfClientId result.clientOrderId with
      | none => .error (.valueError ("Exit order '" ++ result.clientOrderId ++ "' not found before exchange result"))
      | some order =>
        match result.status with
        | .unknown =>
          if intent.state = .exchangeSubmitting then
            transitionIntent db intentId intent.state .exchangeUnknown "ExitOutcomeUnknown"
          else .ok db
        | .failed | .notAttempted =>
          if intent.state = .exchangeSubmitting ∨ intent.state = .exchangeUnknown then
            transitionIntent db intentId intent.state (if result.status = .failed then .rejected else .cancelled)
              "ExitSubmissionFailed"
          else .ok db
        | _ =>
          if given result.exchangeOrderId then do
            let db ← saveExchangeOrderReceipt db order.orderRecordId (result.exchangeOrderId.getD "")
            let db ← acknowledgeIntent db intentId intent.state "ExitAcknowledged"
            startReducing db position
          else .ok db

/-! ## The confirmed exit -/

/-- The arguments of `persist_exit_result`. -/
structure ExitFacts where
  cycleId : String
  positionId : String
  executionMode : V2ExecutionMode
  reason : ExitReason
  result : ExitExecutionResult
  fencingToken : String
  protectionExchangeOrderId : Option String := none
  deriving DecidableEq

/-- The exit intent of the facts. -/
def ExitFacts.identity (a : ExitFacts) : ExitIdentity :=
  { cycleId := a.cycleId, positionId := a.positionId, executionMode := a.executionMode, reason := a.reason,
    clientOrderId := a.result.clientOrderId, requestedQuantity := a.result.reducedQuantity, fencingToken := a.fencingToken }

/-- The receipt of a closed position is the one already persisted. -/
def sameExitReceipt (db : Database) (result : ExitExecutionResult) : Bool :=
  match db.orderOfClientId result.clientOrderId with
  | none => false
  | some order =>
    let known := (db.fillsOfOrder order.orderRecordId).filterMap fun f => f.tradeId.filter fun t => decide (t ≠ "")
    decide (order.exchangeOrderId = result.exchangeOrderId) && known.all (fun t => decide (t ∈ result.tradeIds)) &&
      result.tradeIds.all fun t => decide (t ∈ known)

/-- The fills of the exit. -/
def saveExitFills (db : Database) (position : PositionRow) (orderRecordId : String) (result : ExitExecutionResult) :
    Except PyError Database :=
  (splitQuantity result.reducedQuantity result.tradeIds).foldlM
    (fun db (tradeId, quantity) => saveFillOnce db
      { intentId := exitIntentId result.clientOrderId, exchangeOrderRecordId := orderRecordId,
        exchangeOrderId := result.exchangeOrderId.getD "", tradeId := none, symbol := position.symbol,
        side := match position.direction with | .long => "SELL" | .short => "BUY", reduceOnly := true,
        filledQuantity := quantity, fillPrice := result.averageFillPrice.getD 0,
        commission := some (result.totalFee / result.tradeIds.length) } tradeId) db

/-- A position that is not reducing yet is. -/
def reducePosition (db : Database) (position : PositionRow) : Except PyError Database :=
  if position.state ≠ .reducing then
    transitionPosition db position.positionId position.state .reducing "PositionReducing"
  else .ok db

/-- The exit moves the position: a quarantined one is repaired to closed, any other is reducing, and closed if the exchange is
flat. -/
def moveExitedPosition (db : Database) (position : PositionRow) (orderRecordId : String) (status : ExitExecutionStatus) :
    Except PyError Database :=
  if position.state = .quarantined then
    repairQuarantinedPositionFromConfirmedExit db position.positionId orderRecordId
  else do
    let db ← reducePosition db position
    if status = .closed then transitionPosition db position.positionId .reducing .closed "PositionClosed" else .ok db

/-- The result of a closed position, or what is left of a reduced one. -/
def settleExitedPosition (db : Database) (position : PositionRow) (result : ExitExecutionResult) : Database :=
  if result.status = .closed then
    let price := result.averageFillPrice.getD 0
    let grossPnl := match position.direction with
      | .long => (price - position.entryPrice) * result.reducedQuantity
      | .short => (position.entryPrice - price) * result.reducedQuantity
    db.modifyPosition position.positionId fun p =>
      { p with realizedPnl := some (numeric 4 (grossPnl - position.entryFee - result.totalFee)) }
  else if result.remainingQuantity.any fun q => decide (0 < q) then
    db.modifyPosition position.positionId fun p => { p with quantity := result.remainingQuantity.getD 0 }
  else db

/-- The states of a protection that a closed position cancels. -/
def V2ProtectionState.cancellable : V2ProtectionState → Bool
  | .protectionIntent | .protectionSubmitting | .protectionActive | .protectionFailed | .protectionUnknown => true
  | .protectionTriggered | .protectionFilled | .protectionCancelled => false

/-- `protection_exchange_order_id or result.exchange_order_id` is an order of the protection. -/
def ExitFacts.triggers (a : ExitFacts) (protection : ProtectionRow) : Bool :=
  let trigger := if given a.protectionExchangeOrderId then a.protectionExchangeOrderId else a.result.exchangeOrderId
  decide (trigger = protection.stopExchangeOrderId ∨ trigger = protection.tpExchangeOrderId)

/-- A protection whose order did the exit is triggered: the state it is then in. -/
def triggerProtection (a : ExitFacts) (db : Database) (protection : ProtectionRow) :
    Except PyError (V2ProtectionState × Database) :=
  if a.triggers protection && decide (protection.state = .protectionActive) then do
    let db ← transitionProtection db protection.protectionId .protectionActive .protectionTriggered "ProtectionTriggered"
    return (.protectionTriggered, db)
  else .ok (protection.state, db)

/-- One protection of an exited position: triggered and filled if its order did it, cancelled if the position is closed. -/
def settleExitedProtection (a : ExitFacts) (db : Database) (protection : ProtectionRow) : Except PyError Database := do
  let (current, db) ← triggerProtection a db protection
  if a.triggers protection && decide (current = .protectionTriggered) then
    transitionProtection db protection.protectionId current .protectionFilled "ProtectionFilled"
  else if decide (a.result.status = .closed) && current.cancellable then
    transitionProtection db protection.protectionId current .protectionCancelled "ProtectionCancelledAfterConfirmedExit"
  else .ok db

/-- The last transaction of `persist_exit_result`. -/
def persistExitFills (db : Database) (a : ExitFacts) : Except PyError Database := do
  let (position, _, _) ← exitSubject db a.positionId
  match db.orderOfClientId a.result.clientOrderId with
  | none => .error (.valueError ("Exit order '" ++ a.result.clientOrderId ++ "' disappeared before fill persistence"))
  | some order =>
    let db ← saveExitFills db position order.orderRecordId a.result
    let db ← transitionIntent db (exitIntentId a.result.clientOrderId) .exchangeAcknowledged .filled "ExitFilled"
    let db ← moveExitedPosition db position order.orderRecordId a.result.status
    let db := settleExitedPosition db position a.result
    (db.protectionsOf a.positionId).foldlM (settleExitedProtection a) db

/-- A transaction: a raise leaves the database as it was. -/
def transaction (db : Database) (result : Except PyError Database) : Except PyError Unit × Database :=
  match result with
  | .error e => (.error e, db)
  | .ok db' => (.ok (), db')

/-- The transactions of `persist_exit_result` on a position that is not closed. A raise keeps what was committed before it. -/
def persistConfirmedExit (db : Database) (a : ExitFacts) : Except PyError Unit × Database :=
  match transaction db (persistExitIntentBeforeSubmission db a.identity) with
  | (.error e, db) => (.error e, db)
  | (.ok _, db) =>
    match transaction db (persistExitSubmissionResult db a.positionId a.result) with
    | (.error e, db) => (.error e, db)
    | (.ok _, db) => transaction db (persistExitFills db a)

/-- `persist_exit_result`. -/
def persistExitResult (db : Database) (a : ExitFacts) : Except PyError Unit × Database :=
  if a.result.status ≠ .closed ∧ a.result.status ≠ .partiallyReduced then (.ok (), db)
  else if !given a.result.exchangeOrderId ∨ a.result.tradeIds = [] ∨ a.result.reducedQuantity ≤ 0 ∨
      a.result.averageFillPrice = none ∨ a.result.fillTimestamp = none then
    (.error (.valueError
      "confirmed exit persistence requires order id, trade ids, quantity, price, and timestamp"), db)
  else
    match db.position a.positionId with
    | none => (.error (.valueError ("Position '" ++ a.positionId ++ "' not found")), db)
    | some position =>
      if position.state ≠ .closed then persistConfirmedExit db a
      else if sameExitReceipt db a.result then (.ok (), db)
      else
        (.error (.valueError ("Position '" ++ a.positionId ++ "' is already CLOSED with a different exit receipt; " ++
          "refusing to overwrite historical exchange facts")), db)

/-! ## Protections of closed positions -/

/-- `reconcile_closed_position_protections`: the protections of terminal positions whose orders are gone are cancelled. -/
def reconcileClosedPositionProtections (db : Database) (mode : V2ExecutionMode) (symbol : String)
    (exchangeOpenOrderIds : List String) : Except PyError Database :=
  let stale := db.protections.filter fun r => r.state.cancellable &&
    db.positions.any fun p => decide (p.positionId = r.positionId ∧ p.executionMode = mode ∧ p.symbol = symbol) && !p.isOpen
  stale.foldlM (fun db r =>
    let ids := [r.stopExchangeOrderId, r.tpExchangeOrderId].filterMap fun id => id.filter fun t => decide (t ≠ "")
    if ids.any fun id => decide (id ∈ exchangeOpenOrderIds) then .ok db
    else transitionProtection db r.protectionId r.state .protectionCancelled
      "ProtectionReconciledCancelledAfterPositionClosed") db

end TradingPlatform
