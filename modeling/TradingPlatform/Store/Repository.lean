import TradingPlatform.Domain.PortfolioRisk
import TradingPlatform.Store.Models

/-!
# The repository

`infrastructure/repository.py`: the operations through which every state change goes. Each returns the database after it or
raises; a raise leaves the transaction to be rolled back by its caller.
-/

namespace TradingPlatform

/-- `append_event`. -/
def Database.appendEvent (db : Database) (aggregateId aggregateType eventType : String)
    (eventPayload : List (String × PayloadValue) := []) : Database :=
  { db with events := db.events ++ [{ aggregateId, aggregateType, eventType, eventPayload }] }

/-- The payload of a state change, over what the caller gives. -/
def statePayload (payload : List (String × PayloadValue)) (fromState toState : String) (version : ℕ) :
    List (String × PayloadValue) :=
  ("from_state", .text fromState) :: ("to_state", .text toState) :: ("version", .number version) :: payload

/-- `record_incident`. -/
def Database.recordIncident (db : Database) (row : IncidentRow) : Database := { db with incidents := db.incidents ++ [row] }

/-! ## Intents -/

/-- `create_intent`: a given risk has to be positive. -/
def createIntent (db : Database) (row : IntentRow) : Except PyError Database :=
  if row.initialRiskUsdt.any fun r => decide (r ≤ 0) then
    .error (.valueError "initial_risk_usdt must be finite and positive when supplied")
  else db.insertIntent row

/-- `transition_intent`. -/
def transitionIntent (db : Database) (intentId : String) (expectedCurrent nextState : V2IntentState) (eventType : String)
    (payload : List (String × PayloadValue) := []) : Except PyError Database :=
  match db.intent intentId with
  | none => .error (.valueError ("Intent '" ++ intentId ++ "' not found"))
  | some intent =>
    if intent.state ≠ expectedCurrent then
      .error (.valueError ("Intent '" ++ intentId ++ "' expected state " ++ expectedCurrent.value ++ ", found " ++
        intent.state.value ++ " (version=" ++ toString intent.version ++ ")"))
    else do
      validateIntentTransition intent.state nextState
      return (db.modifyIntent intentId fun r => { r with state := nextState, version := r.version + 1 }).appendEvent
        intentId "INTENT" eventType (statePayload payload intent.state.value nextState.value (intent.version + 1))

/-- `reconcile_intent_from_confirmed_fill`: a terminal local guess is corrected only after an exact fill is durable. -/
def reconcileIntentFromConfirmedFill (db : Database) (intentId : String) : Except PyError Database :=
  match db.intent intentId with
  | none => .error (.valueError ("Intent '" ++ intentId ++ "' not found"))
  | some intent =>
    match (db.orderOfIntent intentId).bind (·.exchangeOrderId) with
    | none => .error (.valueError "confirmed exchange order identity is required")
    | some exchangeOrderId =>
      if exchangeOrderId = "" then .error (.valueError "confirmed exchange order identity is required")
      else if db.fills.all fun f => !decide (f.intentId = intentId ∧ f.exchangeOrderId = exchangeOrderId) then
        .error (.valueError "confirmed exchange fill receipt is required")
      else if intent.state = .filled then .ok db
      else if intent.state = .exchangeAcknowledged ∨ intent.state = .cancelled ∨ intent.state = .expired then
        .ok ((db.modifyIntent intentId fun r => { r with state := .filled, version := r.version + 1 }).appendEvent
          intentId "INTENT" "ExchangeFillReconciled"
          (statePayload [] intent.state.value V2IntentState.filled.value (intent.version + 1)))
      else .error (.valueError ("intent state '" ++ intent.state.value ++ "' cannot be reconciled from a fill"))

/-! ## Orders and fills -/

/-- `save_order_submission`: the id of the new record and the database. -/
def saveOrderSubmission (db : Database) (intentId clientOrderId : String) (quantity : ℚ) (leverage : ℤ) :
    Except PyError (String × Database) := do
  let (orderRecordId, db) := db.uuid4
  let db ← db.insertOrder { orderRecordId, intentId, clientOrderId, quantity, leverage }
  return (orderRecordId, db)

/-- `save_exchange_order_receipt`. -/
def saveExchangeOrderReceipt (db : Database) (orderRecordId exchangeOrderId : String) : Except PyError Database :=
  match db.order orderRecordId with
  | none => .error (.valueError ("Order record '" ++ orderRecordId ++ "' not found"))
  | some _ =>
    if exchangeOrderId = "" then .error (.valueError "exchange_order_id is required")
    else db.setExchangeOrderId orderRecordId exchangeOrderId

/-- The arguments of `save_exchange_fill_receipt`. -/
structure FillReceipt where
  intentId : String
  exchangeOrderRecordId : String
  accountId : String := "binance_testnet"
  exchangeOrderId : String
  tradeId : Option String
  fillSource : String := "BINANCE_USER_TRADE"
  symbol : String
  side : String
  reduceOnly : Bool
  filledQuantity : ℚ
  fillPrice : ℚ
  commission : Option ℚ

/-- The truth value of an exchange order id. -/
def OrderRow.acknowledgedId (o : OrderRow) : Option String := o.exchangeOrderId.filter fun id => decide (id ≠ "")

/-- The exchange order id of an order that has none is taken from its fill. -/
def Database.completeOrder (db : Database) (order : OrderRow) (exchangeOrderId : String) : Except PyError Database :=
  if order.acknowledgedId.isNone then db.setExchangeOrderId order.orderRecordId exchangeOrderId else .ok db

/-- `save_exchange_fill_receipt`. -/
def saveExchangeFillReceipt (db : Database) (r : FillReceipt) : Except PyError Database :=
  match db.order r.exchangeOrderRecordId with
  | none => .error (.valueError ("Order record '" ++ r.exchangeOrderRecordId ++ "' not found"))
  | some order =>
    if order.intentId ≠ r.intentId then
      .error (.valueError ("Fill intent_id='" ++ r.intentId ++ "' does not match order intent_id='" ++ order.intentId ++ "'"))
    else if order.acknowledgedId.any fun id => decide (id ≠ r.exchangeOrderId) then
      .error (.valueError ("Fill exchange_order_id='" ++ r.exchangeOrderId ++ "' does not match saved order"))
    else do
      let db ← db.completeOrder order r.exchangeOrderId
      let (fillId, db) := db.uuid4
      db.insertFill
        { fillId, intentId := r.intentId, exchangeOrderRecordId := r.exchangeOrderRecordId, accountId := r.accountId,
          exchangeOrderId := r.exchangeOrderId, tradeId := r.tradeId, fillSource := r.fillSource, symbol := r.symbol,
          side := r.side, reduceOnly := r.reduceOnly, filledQuantity := r.filledQuantity, fillPrice := r.fillPrice,
          commission := r.commission }

/-- `get_exchange_fill_by_trade`. -/
def Database.fillByTrade (db : Database) (accountId tradeId : String) : Option FillRow :=
  db.fills.find? fun f => decide (f.accountId = accountId ∧ f.tradeId = some tradeId)

/-- `save_order_level_fill_recovery`: one fill for an order, without inventing a trade id. -/
def saveOrderLevelFillRecovery (db : Database) (r : FillReceipt) : Except PyError Database :=
  if db.fills.any fun f => decide (f.exchangeOrderRecordId = r.exchangeOrderRecordId ∧
      f.fillSource = "BINANCE_ORDER_STATUS_RECOVERY") then .ok db
  else saveExchangeFillReceipt db
    { r with tradeId := none, fillSource := "BINANCE_ORDER_STATUS_RECOVERY", commission := none }

/-- What `_aggregate_fills` reads off the fills of an order: quantity, price and fee. -/
structure FillTotals where
  filledQuantity : ℚ
  averageFillPrice : ℚ
  totalFee : ℚ

/-- `_aggregate_fills` of the repository. -/
def aggregateFillRows (db : Database) (orderRecordId : String) : Except PyError FillTotals :=
  let fills := db.fillsOfOrder orderRecordId
  if fills = [] then
    .error (.valueError ("No confirmed fills for order '" ++ orderRecordId ++ "'; cannot project position without " ++
      "v2_exchange_fills rows"))
  else
    let quantity := (fills.map (·.filledQuantity)).sum
    let notional := (fills.map fun f => f.filledQuantity * f.fillPrice).sum
    .ok { filledQuantity := quantity, averageFillPrice := if 0 < quantity then notional / quantity else 0,
          totalFee := (fills.map fun f => f.commission.getD 0).sum }

/-! ## Positions -/

/-- The arguments of `project_position_from_confirmed_fills`. -/
structure Projection where
  positionId : String
  intentId : String
  orderRecordId : String
  symbol : String
  direction : Direction
  executionMode : V2ExecutionMode
  allowExistingPositionAggregation : Bool := false

/-- The open position of a symbol, direction and mode. -/
def Database.openPosition (db : Database) (symbol : String) (direction : Direction) (mode : V2ExecutionMode) :
    Option PositionRow :=
  db.positions.find? fun p =>
    decide (p.symbol = symbol ∧ p.direction = direction ∧ p.executionMode = mode) && p.isOpen

/-- A position that a further fill joined. -/
def PositionRow.aggregate (existing : PositionRow) (totals : FillTotals) : PositionRow :=
  let totalQuantity := existing.quantity + totals.filledQuantity
  { existing with
    entryPrice := numeric 4
      ((existing.quantity * existing.entryPrice + totals.filledQuantity * totals.averageFillPrice) / totalQuantity)
    quantity := totalQuantity
    entryFee := existing.entryFee + totals.totalFee }

/-- `project_position_from_confirmed_fills`: the quantities come from the fill rows alone. With aggregation allowed a fill joins
the open position of its symbol, direction and mode and gets no row of its own. -/
def projectPositionFromConfirmedFills (db : Database) (a : Projection) : Except PyError Database :=
  match db.order a.orderRecordId with
  | none => .error (.valueError ("Order record '" ++ a.orderRecordId ++ "' not found"))
  | some order =>
    if order.intentId ≠ a.intentId then
      .error (.valueError ("Cannot project: order intent_id='" ++ order.intentId ++ "' != intent_id='" ++ a.intentId ++ "'"))
    else do
      let totals ← aggregateFillRows db a.orderRecordId
      if order.acknowledgedId.isNone then
        .error (.valueError ("Cannot project position: order '" ++ a.orderRecordId ++ "' has no exchange_order_id; " ++
          "fill receipt must be saved first"))
      else
        match (db.openPosition a.symbol a.direction a.executionMode).filter
            fun _ => a.allowExistingPositionAggregation with
        | some existing => .ok (db.modifyPosition existing.positionId fun p => p.aggregate totals)
        | none =>
          db.insertPosition
            { positionId := a.positionId, intentId := a.intentId, orderRecordId := a.orderRecordId, symbol := a.symbol,
              direction := a.direction, executionMode := a.executionMode, quantity := totals.filledQuantity,
              entryPrice := totals.averageFillPrice, entryFee := totals.totalFee, state := .positionProjected }

/-- `transition_position`. -/
def transitionPosition (db : Database) (positionId : String) (expectedCurrent nextState : V2PositionState)
    (eventType : String) (payload : List (String × PayloadValue) := []) : Except PyError Database :=
  match db.position positionId with
  | none => .error (.valueError ("Position '" ++ positionId ++ "' not found"))
  | some position =>
    if position.state ≠ expectedCurrent then
      .error (.valueError ("Position '" ++ positionId ++ "' expected state " ++ expectedCurrent.value ++ ", found " ++
        position.state.value ++ " (version=" ++ toString position.version ++ ")"))
    else do
      validatePositionTransition position.state nextState
      return (db.modifyPosition positionId fun p => { p with state := nextState, version := p.version + 1 }).appendEvent
        positionId "POSITION" eventType (statePayload payload position.state.value nextState.value (position.version + 1))

/-- `repair_quarantined_position_from_confirmed_exit`: a quarantined projection is closed only from persisted reduce-only
fills of its symbol that flatten it. -/
def repairQuarantinedPositionFromConfirmedExit (db : Database) (positionId exitOrderRecordId : String)
    (payload : List (String × PayloadValue) := []) : Except PyError Database :=
  match db.position positionId with
  | none => .error (.valueError ("Position '" ++ positionId ++ "' not found"))
  | some position =>
    let fills := db.fillsOfOrder exitOrderRecordId
    if position.state ≠ .quarantined then
      .error (.valueError ("Position '" ++ positionId ++ "' is not QUARANTINED; use the normal state machine"))
    else if ((db.order exitOrderRecordId).bind (·.acknowledgedId)).isNone then
      .error (.valueError "quarantine repair requires an acknowledged exit order")
    else if fills = [] ∨ fills.any (fun f => !f.reduceOnly) then
      .error (.valueError "quarantine repair requires persisted reduce-only fills")
    else if fills.any fun f => decide (f.symbol ≠ position.symbol) then
      .error (.valueError "quarantine repair fill symbol does not match position")
    else if (fills.map (·.filledQuantity)).sum + 1 / 100000000 < position.quantity then
      .error (.valueError "quarantine repair fill quantity is below projected quantity")
    else
      .ok ((db.modifyPosition positionId fun p => { p with state := .closed, version := p.version + 1 }).appendEvent
        positionId "POSITION" "QuarantinedProjectionCorrectedFromConfirmedExit"
        (statePayload payload position.state.value V2PositionState.closed.value (position.version + 1)))

/-- The arguments of `finalize_quarantined_historical_attribution` that it reads or checks. -/
structure HistoricalAttribution where
  positionId : String
  adjudicationId : String
  exchangeOrderId : String
  exchangeTradeId : String
  manifestHash : String
  evidenceHash : String
  databaseIdentity : String
  aggregateQuantity : ℚ
  allocatedQuantity : ℚ

/-- The finalization row of an attribution. -/
def HistoricalAttribution.row (a : HistoricalAttribution) : FinalizationRow :=
  { adjudicationId := a.adjudicationId, manifestHash := a.manifestHash, evidenceHash := a.evidenceHash,
    databaseIdentity := a.databaseIdentity, positionId := a.positionId, exchangeOrderId := a.exchangeOrderId,
    exchangeTradeId := a.exchangeTradeId, aggregateQuantity := a.aggregateQuantity, allocatedQuantity := a.allocatedQuantity }

/-- `finalize_quarantined_historical_attribution`: an adjudicated exit closes a quarantined position of exactly its quantity. A
finalization that exists is returned to only with the same receipt. -/
def finalizeQuarantinedHistoricalAttribution (db : Database) (a : HistoricalAttribution) : Except PyError Database :=
  match db.position a.positionId with
  | none => .error (.valueError "RECOVERY_FINALIZATION_INCOMPLETE")
  | some position =>
    match db.finalizations.find? fun f => decide (f.adjudicationId = a.adjudicationId ∧ f.positionId = a.positionId) with
    | some existing =>
      if existing.exchangeTradeId ≠ a.exchangeTradeId ∨ existing.allocatedQuantity ≠ a.allocatedQuantity then
        .error (.valueError "RECOVERY_FINALIZATION_CONFLICT")
      else .ok db
    | none =>
      if position.state ≠ .quarantined ∨ position.quantity ≠ a.allocatedQuantity then
        .error (.valueError "RECOVERY_FINALIZATION_INCOMPLETE")
      else
        ((db.modifyPosition a.positionId fun p => { p with state := .closed, version := p.version + 1 }).appendEvent
          a.positionId "POSITION" "QuarantinedLifecycleHistoricallyAttributedExit"
          (statePayload [] position.state.value V2PositionState.closed.value (position.version + 1))).insertFinalization a.row

/-- `reconcile_position_quantity_from_authoritative_snapshot`. -/
def reconcilePositionQuantity (db : Database) (positionId : String) (quantity : ℚ) : Except PyError Database :=
  if quantity ≤ 0 then .error (.valueError "authoritative position quantity must be positive")
  else
    match db.position positionId with
    | none => .error (.valueError ("Position '" ++ positionId ++ "' not found"))
    | some position =>
      if position.quantity = quantity then .ok db
      else
        .ok ((db.modifyPosition positionId fun p => { p with quantity }).appendEvent positionId "POSITION"
          "PositionQuantityReconciledFromAuthoritativeSnapshot")

/-- `get_open_positions`. -/
def Database.openPositions (db : Database) (mode : V2ExecutionMode) : List PositionRow :=
  db.positions.filter fun p => decide (p.executionMode = mode) && p.isOpen

/-! ## Active initial risk -/

/-- The states of a position whose risk is committed. -/
def V2PositionState.active : V2PositionState → Bool
  | .positionProjected | .isProtected | .reducing => true
  | .closed | .quarantined => false

/-- The states of an intent whose risk is committed until a position takes over. -/
def V2IntentState.active : V2IntentState → Bool
  | .intentCreated | .exchangeSubmitting | .exchangeUnknown | .exchangeAcknowledged | .filled => true
  | .rejected | .cancelled | .expired => false

/-- `candidate_key.startswith("exit:")`. -/
def isExitKey (candidateKey : String) : Bool := "exit:".toList.isPrefixOf candidateKey.toList

/-- A risk that is known and positive. -/
def knownRisk (risk : Option ℚ) : Option ℚ := risk.filter fun r => decide (0 < r)

/-- The positions of the mode whose risk is committed. -/
def Database.activePositions (db : Database) (mode : V2ExecutionMode) : List PositionRow :=
  db.positions.filter fun p => decide (p.executionMode = mode) && p.state.active

/-- The intents of the mode that are committed and have no position of the mode, open or terminal, and are not exits. -/
def Database.reservingIntents (db : Database) (mode : V2ExecutionMode) : List IntentRow :=
  db.intents.filter fun r => decide (r.executionMode = mode) && r.state.active &&
    !(db.positions.any fun p => decide (p.executionMode = mode ∧ p.intentId = r.intentId)) && !isExitKey r.candidateKey

/-- A committed risk: the intent it was reserved for, what it is on, and how much it is if that is known. -/
structure Commitment where
  intentId : String
  symbol : String
  direction : Direction
  risk : Option ℚ
  source : RiskSource
  deriving DecidableEq

/-- The exposure of a commitment whose risk is known. -/
def Commitment.exposure (c : Commitment) : Option RiskExposure :=
  (knownRisk c.risk).map fun risk =>
    { symbol := c.symbol, direction := c.direction, initialRiskUsdt := risk, source := c.source }

/-- The commitment of a position: the risk is that of its intent. -/
def Database.positionCommitment (db : Database) (p : PositionRow) : Commitment :=
  { intentId := p.intentId, symbol := p.symbol, direction := p.direction,
    risk := (db.intent p.intentId).bind (·.initialRiskUsdt), source := .position }

/-- The commitment of an intent in flight. -/
def IntentRow.commitment (r : IntentRow) : Commitment :=
  { intentId := r.intentId, symbol := r.symbol, direction := r.direction, risk := r.initialRiskUsdt, source := .intent }

/-- What the two loops of `list_active_initial_risk_exposures` go over. -/
def Database.commitments (db : Database) (mode : V2ExecutionMode) : List Commitment :=
  (db.activePositions mode).map db.positionCommitment ++ (db.reservingIntents mode).map IntentRow.commitment

/-- `list_active_initial_risk_exposures`: the exposures, and whether some active risk is unknown. -/
def listActiveInitialRiskExposures (db : Database) (mode : V2ExecutionMode) : List RiskExposure × Bool :=
  ((db.commitments mode).filterMap Commitment.exposure, (db.commitments mode).any fun c => (knownRisk c.risk).isNone)

/-! ## Protections -/

/-- The arguments of `save_protection`. -/
structure ProtectionDraft where
  protectionId : String
  positionId : String
  stopLossPrice : ℚ
  takeProfitPrice : Option ℚ
  stopClientOrderId : String
  tpClientOrderId : Option String
  state : V2ProtectionState
  originalStopLossPrice : Option ℚ := none
  policy : String := "P1"

/-- `save_protection`: a record starts as an intent, at version zero. -/
def saveProtection (db : Database) (d : ProtectionDraft) : Except PyError Database :=
  if d.state = .protectionActive then
    .error (.valueError ("save_protection cannot create PROTECTION_ACTIVE; " ++
      "persist PROTECTION_INTENT then transition after exchange order ids"))
  else if d.state ≠ .protectionIntent then
    .error (.valueError ("save_protection only accepts PROTECTION_INTENT, got " ++ d.state.value ++
      "; use transition_protection for later states"))
  else
    db.insertProtection
      { protectionId := d.protectionId, positionId := d.positionId, stopLossPrice := d.stopLossPrice,
        originalStopLossPrice := some (d.originalStopLossPrice.getD d.stopLossPrice), takeProfitPrice := d.takeProfitPrice,
        stopClientOrderId := d.stopClientOrderId, tpClientOrderId := d.tpClientOrderId, state := d.state,
        policy := d.policy }

/-- `update_protection_stop`: a confirmed one-way tightening. -/
def updateProtectionStop (db : Database) (protectionId : String) (stopLossPrice : ℚ)
    (stopClientOrderId stopExchangeOrderId : String) : Except PyError Database :=
  match db.protection protectionId with
  | none => .error (.valueError ("Protection '" ++ protectionId ++ "' not found"))
  | some protection => do
    require (db.protections.all fun p => decide (p.protectionId = protectionId ∨ p.stopClientOrderId ≠ stopClientOrderId))
      "v2_protection_records.stop_client_order_id"
    require (decide (0 < numeric 4 stopLossPrice)) "ck_v2_protection_stop_price_positive"
    return (db.modifyProtection protectionId fun p =>
      { p with stopLossPrice := numeric 4 stopLossPrice, stopClientOrderId, stopExchangeOrderId := some stopExchangeOrderId,
               version := p.version + 1 }).appendEvent protectionId "PROTECTION" "ProfitProtectionStopTightened"
      [("stop_exchange_order_id", .text stopExchangeOrderId), ("version", .number (protection.version + 1))]

/-- `transition_protection`. -/
def transitionProtection (db : Database) (protectionId : String) (expectedCurrent nextState : V2ProtectionState)
    (eventType : String) (payload : List (String × PayloadValue) := []) : Except PyError Database :=
  match db.protection protectionId with
  | none => .error (.valueError ("Protection '" ++ protectionId ++ "' not found"))
  | some protection =>
    if protection.state ≠ expectedCurrent then
      .error (.valueError ("Protection '" ++ protectionId ++ "' expected state " ++ expectedCurrent.value ++ ", found " ++
        protection.state.value ++ " (version=" ++ toString protection.version ++ ")"))
    else do
      validateProtectionTransition protection.state nextState
      if nextState = .protectionActive ∧ (protection.stopExchangeOrderId.filter fun id => decide (id ≠ "")).isNone then
        .error (.valueError ("Invariant violated: missing stop exchange order id; " ++
          "protection cannot be ACTIVE without exchange-confirmed conditional order"))
      else
        .ok ((db.modifyProtection protectionId fun p => { p with state := nextState, version := p.version + 1 }).appendEvent
          protectionId "PROTECTION" eventType
          (statePayload payload protection.state.value nextState.value (protection.version + 1)))

/-- A protection that is only intended is submitting before it is active: the state it is then in. -/
def startProtection (db : Database) (protection : ProtectionRow) : Except PyError (V2ProtectionState × Database) :=
  if protection.state = .protectionIntent then do
    let db ← transitionProtection db protection.protectionId .protectionIntent .protectionSubmitting "ProtectionSubmitting"
    return (.protectionSubmitting, db)
  else .ok (protection.state, db)

/-- `update_protection_active`: the exchange ids are attached, then the record is moved. Every caller asks for the active
state. -/
def updateProtectionActive (db : Database) (protectionId : String) (stopExchangeOrderId : String)
    (tpExchangeOrderId : Option String) (newState : V2ProtectionState := .protectionActive) : Except PyError Database :=
  match db.protection protectionId with
  | none => .error (.valueError ("Protection '" ++ protectionId ++ "' not found"))
  | some protection =>
    if stopExchangeOrderId = "" then
      .error (.valueError ("Invariant violated: missing stop exchange order id; " ++
        "protection cannot be ACTIVE without exchange-confirmed conditional order"))
    else do
      let (current, db) ← startProtection (db.modifyProtection protectionId fun p =>
        { p with stopExchangeOrderId := some stopExchangeOrderId, tpExchangeOrderId }) protection
      transitionProtection db protectionId current newState "ProtectionActivated"

end TradingPlatform
