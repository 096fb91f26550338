import TradingPlatform.Engine.Reconciliation
import TradingPlatform.Store.Repository

/-!
# The local state of a mode

`load_local_state_from_session` (`application/reconciliation_service.py`): the identity claims that reconciliation is given,
read off the durable facts alone. A set of the source is a list here: nothing but membership and, for the historical gaps, the
number of distinct members is read. Rows come in the order they were written.
-/

namespace TradingPlatform

/-- A text that is present and not empty, as a collection. -/
def truthy (text : Option String) : List String := (text.filter fun t => decide (t ≠ "")).toList

/-! ## Protections -/

/-- The client ids of a protection. -/
def ProtectionRow.clientOrderIds (p : ProtectionRow) : List String := p.stopClientOrderId :: truthy p.tpClientOrderId

/-- The exchange ids of a protection. -/
def ProtectionRow.exchangeOrderIds (p : ProtectionRow) : List String :=
  truthy p.stopExchangeOrderId ++ truthy p.tpExchangeOrderId

/-- The orders of a protection with the exit reason each stands for. -/
def ProtectionRow.orderRefs (p : ProtectionRow) : List (String × String × String) :=
  (truthy p.stopExchangeOrderId).map (fun exchangeId => (exchangeId, p.stopClientOrderId, "HARD_STOP")) ++
    (truthy p.tpExchangeOrderId).flatMap fun exchangeId =>
      (truthy p.tpClientOrderId).map fun clientId => (exchangeId, clientId, "TAKE_PROFIT")

/-- The last active protection of a position. -/
def Database.activeProtection (db : Database) (positionId : String) : Option ProtectionRow :=
  ((db.protectionsOf positionId).filter fun p => decide (p.state = .protectionActive)).getLast?

/-! ## Positions -/

/-- The identities that claim an exchange position for a local one. -/
def Database.claimKeys (db : Database) (p : PositionRow) : List String :=
  [p.positionId, p.intentId, p.orderRecordId] ++
    ((db.order p.orderRecordId).elim [] fun o => o.clientOrderId :: truthy o.exchangeOrderId) ++
    ((db.fillsOfOrder p.orderRecordId).flatMap fun f =>
      truthy (some f.fillId) ++ truthy (some f.exchangeOrderId) ++ truthy f.tradeId) ++
    (db.protectionsOf p.positionId).flatMap ProtectionRow.exchangeOrderIds

/-- `original_stop_loss_price or stop_loss_price`. -/
def ProtectionRow.originalStop (p : ProtectionRow) : ℚ :=
  (p.originalStopLossPrice.filter fun s => decide (s ≠ 0)).getD p.stopLossPrice

/-- The view of an open position. -/
def Database.localPosition (db : Database) (p : PositionRow) : LocalPositionView :=
  let active := db.activeProtection p.positionId
  { positionId := p.positionId, symbol := p.symbol, direction := p.direction, quantity := p.quantity, state := p.state,
    claimKeys := db.claimKeys p, hasActiveProtection := active.isSome,
    protectionExchangeOrderIds := (db.protectionsOf p.positionId).flatMap ProtectionRow.exchangeOrderIds,
    protectionOrderRefs := (db.protectionsOf p.positionId).flatMap ProtectionRow.orderRefs, entryPrice := p.entryPrice,
    originalStopPrice := active.map ProtectionRow.originalStop, currentStopPrice := active.map (·.stopLossPrice),
    protectionId := active.map (·.protectionId), protectionPolicy := active.elim "P1" (·.policy),
    protectionVersion := active.elim 0 (·.version) }

/-- A position is claimable once its order has an exchange id and a confirmed fill. -/
def Database.claimable (db : Database) (p : PositionRow) : Bool :=
  ((db.order p.orderRecordId).bind (·.acknowledgedId)).isSome && decide (db.fillsOfOrder p.orderRecordId ≠ [])

/-- The claim references, with those of a position added to its key. -/
def addClaimRefs (db : Database) (refs : ClaimRefs) (p : PositionRow) : ClaimRefs :=
  if db.claimable p then
    let key := positionKey p.symbol p.direction
    refs.insert key ((refs.lookup key).getD [] ++ db.claimKeys p)
  else refs

/-- The client ids that have a local record: those of every order, and those of the protections of the open positions. -/
def Database.knownClientOrderIds (db : Database) (mode : V2ExecutionMode) : List String :=
  ((db.openPositions mode).flatMap fun p => (db.protectionsOf p.positionId).flatMap ProtectionRow.clientOrderIds) ++
    db.orders.map (·.clientOrderId)

/-! ## Intents -/

/-- The states of an intent whose outcome at the exchange is not settled. -/
def V2IntentState.pending : V2IntentState → Bool
  | .exchangeSubmitting | .exchangeUnknown | .exchangeAcknowledged => true
  | _ => false

/-- The intents of incidents that settled a historical gap of the ledger. -/
def Database.historicalLedgerGapIntentIds (db : Database) : List String :=
  (db.incidents.filter fun i => decide (i.incidentType = "HISTORICAL_LEDGER_GAP")).flatMap fun i => truthy i.intentId

/-- The state of the position of an intent, in the mode. -/
def Database.positionStateOfIntent (db : Database) (mode : V2ExecutionMode) (intentId : String) : Option V2PositionState :=
  ((db.positions.filter fun p => decide (p.executionMode = mode ∧ p.intentId = intentId)).getLast?).map (·.state)

/-- The intent has a confirmed entry fill, no position, and no incident that settled the gap. -/
def Database.hasUnprojectedFill (db : Database) (mode : V2ExecutionMode) (intentId : String) : Bool :=
  (db.fills.any fun f => !f.reduceOnly && decide (f.intentId = intentId)) &&
    (db.positionStateOfIntent mode intentId).isNone && decide (intentId ∉ db.historicalLedgerGapIntentIds)

/-- The view of an intent: its client id is that of its last order, and empty without one. -/
def Database.localIntent (db : Database) (mode : V2ExecutionMode) (r : IntentRow) : LocalIntentView :=
  { intentId := r.intentId, symbol := r.symbol,
    clientOrderId := ((db.orders.filter fun o => decide (o.intentId = r.intentId)).getLast?).elim "" (·.clientOrderId),
    state := r.state, hasConfirmedEntryFill := db.hasUnprojectedFill mode r.intentId,
    hasQuarantinedLifecycle := decide (db.positionStateOfIntent mode r.intentId = some .quarantined) }

/-- The intents reconciliation is shown. -/
def Database.localIntents (db : Database) (mode : V2ExecutionMode) : List LocalIntentView :=
  (db.intents.filter fun r => decide (r.executionMode = mode) &&
    (r.state.pending || db.hasUnprojectedFill mode r.intentId ||
      decide (db.positionStateOfIntent mode r.intentId = some .quarantined))).map (db.localIntent mode)

/-- `load_local_state_from_session`. -/
def loadLocalState (db : Database) (mode : V2ExecutionMode) (externalBaselinePositions : AList (fun _ : String => ℚ) := ∅) :
    LocalStateView × ClaimRefs :=
  ({ positions := (db.openPositions mode).map db.localPosition
     intents := db.localIntents mode
     knownClientOrderIds := db.knownClientOrderIds mode
     externalBaselinePositions
     historicalLedgerGapIntentIds := db.historicalLedgerGapIntentIds.eraseDups },
    (db.openPositions mode).foldl (addClaimRefs db) ∅)

end TradingPlatform
