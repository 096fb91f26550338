import TradingPlatform.Store.Repository

/-!
# Runs of the repository

The operations of `infrastructure/repository.py` on intents, orders, fills, positions and protections, in any order. An operation
works in the session of its caller: where one raises after a first write, the session still holds that write until the caller
rolls it back.
-/

namespace TradingPlatform

/-- An operation of the repository. -/
inductive RepoOp where
  | createIntent (row : IntentRow)
  | transitionIntent (intentId : String) (expectedCurrent nextState : V2IntentState) (eventType : String)
      (payload : List (String × PayloadValue))
  | reconcileIntentFromConfirmedFill (intentId : String)
  | saveOrderSubmission (intentId clientOrderId : String) (quantity : ℚ) (leverage : ℤ)
  | saveExchangeOrderReceipt (orderRecordId exchangeOrderId : String)
  | saveExchangeFillReceipt (receipt : FillReceipt)
  | saveOrderLevelFillRecovery (receipt : FillReceipt)
  | projectPositionFromConfirmedFills (a : Projection)
  | reconcilePositionQuantity (positionId : String) (quantity : ℚ)
  | transitionPosition (positionId : String) (expectedCurrent nextState : V2PositionState) (eventType : String)
      (payload : List (String × PayloadValue))
  | repairQuarantinedPositionFromConfirmedExit (positionId exitOrderRecordId : String)
      (payload : List (String × PayloadValue))
  | finalizeQuarantinedHistoricalAttribution (a : HistoricalAttribution)
  | saveProtection (d : ProtectionDraft)
  | updateProtectionStop (protectionId : String) (stopLossPrice : ℚ) (stopClientOrderId stopExchangeOrderId : String)
  | transitionProtection (protectionId : String) (expectedCurrent nextState : V2ProtectionState) (eventType : String)
      (payload : List (String × PayloadValue))
  | updateProtectionActive (protectionId stopExchangeOrderId : String) (tpExchangeOrderId : Option String)
      (newState : V2ProtectionState)

/-- What an operation returns. An intent is created in its first state, at version zero. -/
def RepoOp.result (db : Database) : RepoOp → Except PyError Database
  | .createIntent row => TradingPlatform.createIntent db { row with state := .intentCreated, version := 0 }
  | .transitionIntent intentId expectedCurrent nextState eventType payload =>
    TradingPlatform.transitionIntent db intentId expectedCurrent nextState eventType payload
  | .reconcileIntentFromConfirmedFill intentId => TradingPlatform.reconcileIntentFromConfirmedFill db intentId
  | .saveOrderSubmission intentId clientOrderId quantity leverage =>
    (TradingPlatform.saveOrderSubmission db intentId clientOrderId quantity leverage).map Prod.snd
  | .saveExchangeOrderReceipt orderRecordId exchangeOrderId =>
    TradingPlatform.saveExchangeOrderReceipt db orderRecordId exchangeOrderId
  | .saveExchangeFillReceipt receipt => TradingPlatform.saveExchangeFillReceipt db receipt
  | .saveOrderLevelFillRecovery receipt => TradingPlatform.saveOrderLevelFillRecovery db receipt
  | .projectPositionFromConfirmedFills a => TradingPlatform.projectPositionFromConfirmedFills db a
  | .reconcilePositionQuantity positionId quantity => TradingPlatform.reconcilePositionQuantity db positionId quantity
  | .transitionPosition positionId expectedCurrent nextState eventType payload =>
    TradingPlatform.transitionPosition db positionId expectedCurrent nextState eventType payload
  | .repairQuarantinedPositionFromConfirmedExit positionId exitOrderRecordId payload =>
    TradingPlatform.repairQuarantinedPositionFromConfirmedExit db positionId exitOrderRecordId payload
  | .finalizeQuarantinedHistoricalAttribution a => TradingPlatform.finalizeQuarantinedHistoricalAttribution db a
  | .saveProtection d => TradingPlatform.saveProtection db d
  | .updateProtectionStop protectionId stopLossPrice stopClientOrderId stopExchangeOrderId =>
    TradingPlatform.updateProtectionStop db protectionId stopLossPrice stopClientOrderId stopExchangeOrderId
  | .transitionProtection protectionId expectedCurrent nextState eventType payload =>
    TradingPlatform.transitionProtection db protectionId expectedCurrent nextState eventType payload
  | .updateProtectionActive protectionId stopExchangeOrderId tpExchangeOrderId newState =>
    TradingPlatform.updateProtectionActive db protectionId stopExchangeOrderId tpExchangeOrderId newState

/-- `update_protection_active` with the session it works in: the exchange ids are flushed, then the first transition is, and the
second one may still raise. -/
def updateProtectionActiveInSession (db : Database) (protectionId stopExchangeOrderId : String)
    (tpExchangeOrderId : Option String) (newState : V2ProtectionState) : Except PyError Unit × Database :=
  match db.protection protectionId with
  | none => (.error (.valueError ("Protection '" ++ protectionId ++ "' not found")), db)
  | some protection =>
    if stopExchangeOrderId = "" then
      (.error (.valueError ("Invariant violated: missing stop exchange order id; " ++
        "protection cannot be ACTIVE without exchange-confirmed conditional order")), db)
    else
      let attached := db.modifyProtection protectionId fun p =>
        { p with stopExchangeOrderId := some stopExchangeOrderId, tpExchangeOrderId }
      match startProtection attached protection with
      | .error e => (.error e, attached)
      | .ok (current, started) =>
        match TradingPlatform.transitionProtection started protectionId current newState "ProtectionActivated" with
        | .error e => (.error e, started)
        | .ok activated => (.ok (), activated)

/-- The session after an operation. Every other operation raises before its first write, or in the flush of a write that violates
a constraint: that rolls the session back. -/
def RepoOp.inSession (db : Database) (op : RepoOp) : Except PyError Unit × Database :=
  match op with
  | .updateProtectionActive protectionId stopExchangeOrderId tpExchangeOrderId newState =>
    updateProtectionActiveInSession db protectionId stopExchangeOrderId tpExchangeOrderId newState
  | op =>
    match op.result db with
    | .error e => (.error e, db)
    | .ok db' => (.ok (), db')

/-- The database after an operation: one that raises is rolled back. -/
def RepoOp.apply (db : Database) (op : RepoOp) : Database :=
  match op.result db with
  | .error _ => db
  | .ok db' => db'

/-- The database after a run of operations. -/
def runRepoOps (db : Database) (ops : List RepoOp) : Database := ops.foldl RepoOp.apply db

end TradingPlatform
