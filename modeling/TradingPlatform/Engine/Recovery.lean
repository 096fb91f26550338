import TradingPlatform.Engine.LocalState
import TradingPlatform.Engine.ExitPersistence

/-!
# Recovery

What a recovery pass plans, and how the plan is executed.
-/

namespace TradingPlatform

/-!
## Recovery planning

`application/recovery_service.py`: what a recovery pass plans from a snapshot and the findings of reconciliation. The plan is a
list of actions; nothing here reaches the exchange or the database. That an action is reduce-only is checked at its
construction and holds of all of them, so the flag is left out.
-/

/-- `RecoveryActionType`. -/
inductive RecoveryActionType where
  | resolveUnknownIntentByClientId | markIntentNotSubmitted | resubmitProtection | emergencyReduceOnlyClose
  | quarantineExternalPosition | quarantineLocalGhostPosition | cancelOrphanProtectionOrder | manualInterventionRequired
  deriving DecidableEq, Repr

/-- `RecoveryAction`. -/
structure RecoveryAction where
  actionType : RecoveryActionType
  targetRef : String
  symbol : Option String
  reason : String
  deriving DecidableEq, Repr

/-- `PendingIntentView`: an intent that may or may not have reached the exchange. -/
structure PendingIntentView where
  intentId : String
  symbol : String
  clientOrderId : String
  state : V2IntentState
  deriving DecidableEq

/-- `EmergencyCloseRequest`: a position flagged for an emergency close before a restart. -/
structure EmergencyCloseRequest where
  positionId : String
  symbol : String
  direction : Direction
  quantity : ℚ
  reason : String

/-- `RecoveryResult`. -/
structure RecoveryResult where
  actions : List RecoveryAction
  entryBlocked : Bool
  unresolvedRefs : List String
  resolvedRefs : List String
  notes : List String := []
  deriving DecidableEq

/-! ## The plan -/

/-- An intent in flight: adopt what the exchange shows under its client id, or else mark it. -/
def planForIntent (exchangeClientIds : List String) (intent : PendingIntentView) : RecoveryAction :=
  if intent.clientOrderId ∈ exchangeClientIds then
    { actionType := .resolveUnknownIntentByClientId, targetRef := intent.intentId, symbol := some intent.symbol,
      reason := "client order id " ++ intent.clientOrderId ++
        " found at exchange; adopt exchange state instead of resubmitting" }
  else
    -- not among the open orders: the source takes the submission as never landed
    { actionType := .markIntentNotSubmitted, targetRef := intent.intentId, symbol := some intent.symbol,
      reason := "client order id " ++ intent.clientOrderId ++ " absent from exchange; intent did not reach the exchange" }

/-- `reference or (symbol or "unknown")`. -/
def refOr (reference symbol : Option String) : String := textOr reference (textOr symbol "unknown")

/-- `_plan_for_discrepancy`. -/
def planForDiscrepancy (d : Discrepancy) : Option RecoveryAction :=
  let action (actionType : RecoveryActionType) (targetRef reason : String) : Option RecoveryAction :=
    some { actionType, targetRef, symbol := d.symbol, reason }
  match d.code with
  | .externalPositionUnclaimable =>
    action .quarantineExternalPosition (refOr d.exchangeRef d.symbol)
      "EXTERNAL_QUARANTINED: no identity match; never auto-adopt and never auto-close"
  | .managedPositionUnprotected =>
    action .resubmitProtection (refOr d.localPositionId d.symbol)
      "managed position is live at exchange without active protection"
  | .protectionOrderMissingAtExchange =>
    action .resubmitProtection (refOr d.localPositionId d.symbol)
      "locally ACTIVE protection is absent from exchange open orders"
  | .localPositionMissingAtExchange =>
    action .quarantineLocalGhostPosition (refOr d.localPositionId d.symbol)
      "local open position has no exchange counterpart"
  | .orphanV2ClientOrderAtExchange =>
    action .cancelOrphanProtectionOrder (textOr d.exchangeRef "unknown")
      "V2-shaped client order id at exchange with no local record"
  | .unknownOrderPresent =>
    action .manualInterventionRequired (textOr d.exchangeRef "unknown")
      "exchange order without client order id cannot be attributed automatically"
  | .confirmedEntryFillUnprojected =>
    action .manualInterventionRequired (refOr d.exchangeRef d.symbol)
      ("confirmed entry fill has no managed position/exit projection; " ++
        "retrieve the exact guard exit receipt before any lifecycle repair")
  | .quarantinedEntryLifecycle =>
    action .manualInterventionRequired (refOr d.exchangeRef d.symbol)
      "quarantined managed-position lifecycle requires operator resolution before new Entry"
  | .quantityMismatch | .directionMismatch =>
    action .manualInterventionRequired (refOr d.localPositionId d.symbol)
      (d.code.value ++ ": local projection disagrees with exchange truth")
  | .snapshotUnavailable | .manualBaselineDrift => none

/-- What the steps of `recover_pending_state` collect. -/
structure RecoveryPlan where
  actions : List RecoveryAction := []
  unresolved : List String := []
  resolved : List String := []

/-- An action that resolves its target. -/
def RecoveryPlan.resolve (plan : RecoveryPlan) (action : RecoveryAction) : RecoveryPlan :=
  { plan with actions := plan.actions ++ [action], resolved := plan.resolved ++ [action.targetRef] }

/-- The step for a discrepancy: one without an action, or one for an operator, stays unresolved. -/
def RecoveryPlan.addDiscrepancy (plan : RecoveryPlan) (d : Discrepancy) : RecoveryPlan :=
  match planForDiscrepancy d with
  | none => { plan with unresolved := plan.unresolved ++ [textOr d.exchangeRef (textOr d.localPositionId d.code.value)] }
  | some action =>
    if action.actionType = .manualInterventionRequired then
      { plan with actions := plan.actions ++ [action], unresolved := plan.unresolved ++ [action.targetRef] }
    else plan.resolve action

/-- The emergency close of a position. -/
def EmergencyCloseRequest.action (r : EmergencyCloseRequest) (opening : String) : RecoveryAction :=
  { actionType := .emergencyReduceOnlyClose, targetRef := r.positionId, symbol := some r.symbol,
    reason := opening ++ r.reason }

/-- The step for a local position: an open one without a counterpart is quarantined once. -/
def RecoveryPlan.addGhost (exchangePositionKeys : List String) (plan : RecoveryPlan) (p : LocalPositionView) : RecoveryPlan :=
  if p.state = .closed ∨ p.state = .quarantined ∨ positionKey p.symbol p.direction ∈ exchangePositionKeys then plan
  else if plan.actions.any fun a => decide (a.targetRef = p.positionId ∧ a.actionType = .quarantineLocalGhostPosition) then
    plan
  else
    plan.resolve
      { actionType := .quarantineLocalGhostPosition, targetRef := p.positionId, symbol := some p.symbol,
        reason := "local open position has no exchange counterpart; quarantine the projection" }

/-- The plan over a snapshot: the intents, the discrepancies, the emergency closes, the ghosts. -/
def planRecovery (snapshot : AuthoritativeAccountSnapshot) (incidents : ReconciliationResult)
    (localState : Option LocalStateView) (pendingIntents : List PendingIntentView)
    (emergencyCloses : List EmergencyCloseRequest) : RecoveryPlan :=
  let exchangeClientIds := snapshot.pendingOrders.filterMap (·.clientOrderId)
  let plan : RecoveryPlan := pendingIntents.foldl (fun plan i => plan.resolve (planForIntent exchangeClientIds i)) {}
  let plan := incidents.discrepancies.foldl RecoveryPlan.addDiscrepancy plan
  let plan := emergencyCloses.foldl (fun plan r => plan.resolve (r.action "emergency close pending: ")) plan
  match localState with
  | none => plan
  | some l => l.positions.foldl (RecoveryPlan.addGhost (snapshot.positions.map (·.key))) plan

/-- `recover_pending_state`. -/
def recoverPendingState (snapshot : Option AuthoritativeAccountSnapshot) (incidents : ReconciliationResult)
    (localState : Option LocalStateView := none) (pendingIntents : List PendingIntentView := [])
    (emergencyCloses : List EmergencyCloseRequest := []) : RecoveryResult :=
  match snapshot with
  | none =>
    { actions := emergencyCloses.map (·.action "emergency close pending before restart: "), entryBlocked := true,
      unresolvedRefs := incidents.recoveryRequiredRefs.eraseDups, resolvedRefs := [],
      notes := ["exchange snapshot unavailable; recovery deferred, Entry remains blocked"] }
  | some snapshot =>
    let plan := planRecovery snapshot incidents localState pendingIntents emergencyCloses
    let clean := decide (plan.actions = [] ∧ incidents.status = .healthy)
    { actions := plan.actions
      entryBlocked := !clean && (decide (plan.unresolved ≠ []) || decide (incidents.status ≠ .healthy) ||
        decide (plan.actions ≠ []))
      unresolvedRefs := plan.unresolved.eraseDups
      resolvedRefs := plan.resolved.eraseDups
      notes := if clean then ["recovery pass clean; Entry block may be lifted after a healthy reconciliation"] else [] }

/-- The intents that the cycle hands to a recovery pass: all that reconciliation was shown. -/
def LocalStateView.pendingIntents (l : LocalStateView) : List PendingIntentView :=
  l.intents.map fun i =>
    { intentId := i.intentId, symbol := i.symbol, clientOrderId := i.clientOrderId, state := i.state }

/-!
## Recovery execution

`application/recovery_executor.py`: each planned action is executed on its own, and one that raises is recorded and does not
stop the rest. An action reads and writes the database in transactions of its own; what it did at the exchange stays when a
later part of it raises.
-/

/-- The durable state and the exchange. -/
structure World where
  db : Database
  exchange : Exchange

/-- What `execute_recovery_actions` is given beside the actions. -/
structure RecoveryContext where
  snapshot : AuthoritativeAccountSnapshot
  localState : Option LocalStateView := none
  stepSize : ℚ := 1 / 1000
  /-- `_recovery_writer_valid`. -/
  writerValid : Bool := true

/-- The position of one side in the snapshot. -/
def AuthoritativeAccountSnapshot.positionOf (s : AuthoritativeAccountSnapshot) (symbol : String) (direction : Direction) :
    Option ExchangePositionSnapshot :=
  s.positions.find? fun p => decide (p.symbol = symbol ∧ p.direction = direction)

/-! ## Incidents and quarantine -/

/-- `_record_quarantine_incident`. -/
def recordQuarantineIncident (db : Database) (action : RecoveryAction) (incidentType : String) : Database :=
  db.recordIncident { incidentType, relatedAggregateId := some action.targetRef }

/-- `_quarantine_local_position`. -/
def quarantineLocalPosition (db : Database) (action : RecoveryAction) : Except PyError (Bool × Database) :=
  match db.position action.targetRef with
  | none => .ok (false, db)
  | some position => do
    let db ← transitionPosition db action.targetRef position.state .quarantined "PositionQuarantined"
    return (true, db.recordIncident { incidentType := "LOCAL_GHOST_QUARANTINED", relatedAggregateId := some action.targetRef,
                                      positionId := some action.targetRef })

/-! ## Intents -/

/-- `_mark_intent_not_submitted`: an order with an exchange id stops it, a settled intent is left as it is. -/
def markIntentNotSubmitted (db : Database) (action : RecoveryAction) : Except PyError (Bool × Database) :=
  match db.intent action.targetRef with
  | none => .error (.valueError ("recovery intent " ++ action.targetRef ++ " not found"))
  | some intent =>
    if ((db.orderOfIntent action.targetRef).bind (·.acknowledgedId)).isSome then .ok (false, db)
    else if intent.state = .cancelled ∨ intent.state = .rejected ∨ intent.state = .expired then .ok (true, db)
    else do
      let db ← transitionIntent db action.targetRef intent.state .cancelled "RecoveryConfirmedNotSubmitted"
      return (true, db)

/-- The acknowledgement of an order that was found under its client id. -/
def adoptFoundOrder (db : Database) (action : RecoveryAction) (receipt : ExchangeOrderReceipt) :
    Except PyError (Bool × Database) :=
  match db.intent action.targetRef, db.orderOfIntent action.targetRef with
  | some intent, some order => do
    let db ← saveExchangeOrderReceipt db order.orderRecordId receipt.exchangeOrderId
    if intent.state = .exchangeAcknowledged then return (true, db)
    else
      let db ← transitionIntent db action.targetRef intent.state .exchangeAcknowledged "RecoveryExchangeAcknowledged"
      return (true, db)
  | _, _ => .error (.valueError ("pending intent/order facts missing for " ++ action.targetRef))

/-- A transaction that also says whether it handled the action. -/
def handled (w : World) (out : Except PyError (Bool × Database)) : Except PyError Bool × World :=
  match out with
  | .error e => (.error e, w)
  | .ok (done, db) => (.ok done, { w with db })

/-- `_resolve_unknown_intent`. -/
def resolveUnknownIntent (w : World) (c : RecoveryContext) (action : RecoveryAction) : Except PyError Bool × World :=
  match (c.localState.elim [] (·.intents)).find? fun i => decide (i.intentId = action.targetRef) with
  | none => (.error (.valueError ("no local pending-intent identity for " ++ action.targetRef)), w)
  | some view =>
    match queryOrderByClientId w.exchange view.symbol view.clientOrderId with
    | (.error e, exchange) => (.error e, { w with exchange })
    | (.ok none, exchange) => handled { w with exchange } (markIntentNotSubmitted w.db action)
    | (.ok (some receipt), exchange) => handled { w with exchange } (adoptFoundOrder w.db action receipt)

/-! ## Protection -/

/-- The last protection written for a position. -/
def Database.latestProtection (db : Database) (positionId : String) : Option ProtectionRow :=
  (db.protectionsOf positionId).getLast?

/-- The target id of a resubmission. -/
def resubmittedTargetId (positionId : String) (takeProfitPrice : Option ℚ) (revision : ℕ) :
    Except PyError (Option String) :=
  match takeProfitPrice with
  | none => .ok none
  | some _ => (targetClientOrderId positionId revision).map some

/-- The plan of a resubmission: the prices of the last record, under the revision two above its version. -/
def resubmissionPlan (position : PositionRow) (previous : ProtectionRow) (quantity : ℚ) : Except PyError ProtectionPlan := do
  let revision := previous.version + 2
  let stopClientOrderId ← stopClientOrderId position.positionId revision
  let tpClientOrderId ← resubmittedTargetId position.positionId previous.takeProfitPrice revision
  ProtectionDraftPlan.check
    { positionId := position.positionId, symbol := position.symbol, direction := position.direction, quantity,
      averageFillPrice := position.entryPrice, stopPrice := previous.stopLossPrice,
      takeProfitPrice := previous.takeProfitPrice, stopClientOrderId, tpClientOrderId, attempt := revision }

/-- The record that was active is superseded. -/
def supersedeProtection (db : Database) (positionId : String) : Except PyError Database :=
  match db.latestProtection positionId with
  | none => .ok db
  | some previous =>
    if previous.state = .protectionActive then
      transitionProtection db previous.protectionId .protectionActive .protectionCancelled "ProtectionSupersededByRecovery"
    else .ok db

/-- The record of a resubmission, under the ids of the plan. -/
def persistResubmission (db : Database) (plan : ProtectionPlan) (stopExchangeOrderId : String)
    (tpExchangeOrderId : Option String) : Except PyError Database := do
  let db ← supersedeProtection db plan.positionId
  let (protectionId, db) := db.uuid4
  let db ← saveProtection db
    { protectionId, positionId := plan.positionId, stopLossPrice := plan.stopPrice, takeProfitPrice := plan.takeProfitPrice,
      stopClientOrderId := plan.stopClientOrderId, tpClientOrderId := plan.tpClientOrderId, state := .protectionIntent }
  updateProtectionActive db protectionId stopExchangeOrderId tpExchangeOrderId

/-- A plan is submitted; an active result is recorded, any other leaves an incident. -/
def submitResubmission (w : World) (action : RecoveryAction) (plan : ProtectionPlan) : Except PyError Bool × World :=
  match ensureProtection w.exchange plan with
  | (.error e, exchange) => (.error e, { w with exchange })
  | (.ok result, exchange) =>
    match result.stopExchangeOrderId, result.isActive with
    | some stopExchangeOrderId, true =>
      handled { w with exchange }
        ((persistResubmission w.db plan stopExchangeOrderId result.tpExchangeOrderId).map fun db => (true, db))
    | _, _ =>
      (.ok false, { db := recordQuarantineIncident w.db action "PROTECTION_RECOVERY_FAILED", exchange })

/-- The first half of `_resubmit_protection`: the plan, or none if the exchange holds nothing to protect. -/
def plannedResubmission (db : Database) (snapshot : AuthoritativeAccountSnapshot) (positionId : String) :
    Except PyError (Option ProtectionPlan) :=
  match db.position positionId with
  | none => .error (.valueError ("protection recovery position " ++ positionId ++ " not found"))
  | some position =>
    match db.latestProtection positionId with
    | none =>
      .error (.valueError ("position " ++ positionId ++ " has no persisted protection prices; " ++
        "cannot invent stop/take-profit during recovery"))
    | some previous =>
      match snapshot.positionOf position.symbol position.direction with
      | none => .ok none
      | some exchangePosition =>
        if exchangePosition.quantity ≤ 0 then .ok none
        else (resubmissionPlan position previous exchangePosition.quantity).map some

/-- `_resubmit_protection`. -/
def resubmitProtection (w : World) (snapshot : AuthoritativeAccountSnapshot) (action : RecoveryAction) :
    Except PyError Bool × World :=
  match plannedResubmission w.db snapshot action.targetRef with
  | .error e => (.error e, w)
  | .ok none => (.ok false, w)
  | .ok (some plan) => submitResubmission w action plan

/-! ## Emergency closes -/

/-- The exit request of an emergency close. -/
def RecoveryContext.emergencyRequest (c : RecoveryContext) (p : LocalPositionView) : ExitRequest :=
  { positionId := p.positionId, symbol := p.symbol, direction := p.direction, reason := .protectionFailureEmergency,
    requestedQuantity := p.quantity, authoritativePosition := c.snapshot.positionOf p.symbol p.direction,
    stepSize := c.stepSize, fencingTokenValid := c.writerValid }

/-- `_execute_emergency_close`. -/
def executeEmergencyClose (w : World) (c : RecoveryContext) (action : RecoveryAction) : Except PyError Bool × World :=
  match (c.localState.elim [] (·.positions)).find? fun p => decide (p.positionId = action.targetRef) with
  | none => (.error (.valueError ("no local position for emergency close " ++ action.targetRef)), w)
  | some p =>
    match evaluateExit (c.emergencyRequest p) with
    | .error e => (.error e, w)
    | .ok decision =>
      if decision.verdict ≠ .approved then (.ok false, w)
      else
        let authoritative := (c.snapshot.positionOf p.symbol p.direction).elim p.quantity (·.quantity)
        match executeReduceOnlyExit w.exchange decision authoritative c.stepSize with
        | (.error e, exchange) => (.error e, { w with exchange })
        | (.ok result, exchange) =>
          (.ok (decide (result.status ≠ .notAttempted ∧ result.status ≠ .alreadyFlatReconciled)), { w with exchange })

/-! ## The loop -/

/-- `_execute_one`. -/
def executeOne (c : RecoveryContext) (w : World) (action : RecoveryAction) : Except PyError Bool × World :=
  match action.actionType with
  | .emergencyReduceOnlyClose => executeEmergencyClose w c action
  | .cancelOrphanProtectionOrder =>
    match action.symbol with
    | none => (.error (.valueError "symbol required to cancel orphan protection order"), w)
    | some _ =>
      let (out, exchange) := cancelOrder w.exchange action.targetRef
      (out.map fun _ => true, { w with exchange })
  | .quarantineLocalGhostPosition => handled w (quarantineLocalPosition w.db action)
  | .quarantineExternalPosition =>
    (.ok true, { w with db := recordQuarantineIncident w.db action "EXTERNAL_POSITION_QUARANTINED" })
  | .resolveUnknownIntentByClientId => resolveUnknownIntent w c action
  | .markIntentNotSubmitted => handled w (markIntentNotSubmitted w.db action)
  | .resubmitProtection => resubmitProtection w c.snapshot action
  | .manualInterventionRequired =>
    (.ok true, { w with db := recordQuarantineIncident w.db action "MANUAL_INTERVENTION_REQUIRED" })

/-- `execute_recovery_actions`: what each action came to, and the world after all of them. -/
def executeRecoveryActions (c : RecoveryContext) (w : World) (actions : List RecoveryAction) :
    List (RecoveryAction × Except PyError Bool) × World :=
  actions.foldl (fun (log, w) action =>
    let (out, w) := executeOne c w action
    (log ++ [(action, out)], w)) ([], w)

end TradingPlatform
