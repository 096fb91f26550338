import TradingPlatform.Lemmas.ProtectionRecords
import TradingPlatform.Lemmas.Recovery
import TradingPlatform.Theorems.SingleProtection

/-!
# What a resubmitted protection settles

A resubmission supersedes the last record of a position. Reconciliation takes the exchange ids of all its records for the
protection, those of superseded ones too: an order that vanished keeps the position under recovery however often a resubmission
replaces it.
-/

namespace TradingPlatform

open ReconcileAux

/-! ## The statement -/

/-- The exchange ids of the orders of a protection result. -/
def ProtectionResult.exchangeOrderIds (r : ProtectionResult) : List String :=
  truthy r.stopExchangeOrderId ++ truthy r.tpExchangeOrderId

/-- The exchange ids of all records of a position, whatever their state. -/
def Database.recordedExchangeOrderIds (db : Database) (positionId : String) : List String :=
  (db.protectionsOf positionId).flatMap ProtectionRow.exchangeOrderIds

/-- The orders of these exchange ids are open. -/
def AuthoritativeAccountSnapshot.ShowsOpen (s : AuthoritativeAccountSnapshot) (ids : List String) : Prop :=
  ∀ id ∈ ids, ∃ o ∈ s.pendingOrders, o.exchangeOrderId = id

/-- The local position claims a position of the snapshot. -/
def ClaimsPosition (snapshot : AuthoritativeAccountSnapshot) (l : LocalStateView) (refs : ClaimRefs) (positionId : String) :
    Prop :=
  ∃ e ∈ snapshot.positions, ∃ p, claimedBy l refs e = some p ∧ p.positionId = positionId

/-- Neither finding on the protection of the position is reported, and no recovery pass plans a resubmission for it. -/
def ProtectionSettled (snapshot : AuthoritativeAccountSnapshot) (l : LocalStateView) (result : ReconciliationResult)
    (positionId : String) : Prop :=
  (∀ d ∈ result.discrepancies, d.code ∈ [.managedPositionUnprotected, .protectionOrderMissingAtExchange] →
    d.localPositionId ≠ some positionId) ∧
  ∀ (pendingIntents : List PendingIntentView) (emergencyCloses : List EmergencyCloseRequest),
    ∀ action ∈ (recoverPendingState (some snapshot) result (some l) pendingIntents emergencyCloses).actions,
      action.actionType = .resubmitProtection → action.targetRef ≠ positionId

/-! ## The view of the position after the resubmission -/

namespace RecoveryConvergenceAux

/-- The exchange ids of the records of a position, read off their identities. -/
theorem mem_exchangeOrderIds {rows : List ProtectionRow} {positionId id : String} :
    id ∈ (rows.filter fun p => decide (p.positionId = positionId)).flatMap ProtectionRow.exchangeOrderIds ↔
      ∃ r ∈ rows.map ProtectionRow.identity, r.1 = positionId ∧ id ∈ r.2.2 := by
  simp only [List.mem_flatMap, List.mem_filter, decide_eq_true_eq, List.mem_map, exists_exists_and_eq_and,
    ProtectionRow.identity, and_assoc]

section Resubmitted

variable {db db' : Database} {plan : ProtectionPlan} {stopId : String} {tpId : Option String}

/-- The ids of the resubmission join those that were recorded. -/
theorem persistResubmission_exchangeOrderIds (h : persistResubmission db plan stopId tpId = .ok db') {id : String} :
    id ∈ db'.recordedExchangeOrderIds plan.positionId ↔
      id ∈ db.recordedExchangeOrderIds plan.positionId ∨ id ∈ truthy (some stopId) ++ truthy tpId := by
  obtain ⟨-, -, rows, row, hrecords, hidentities, -, hrow⟩ := persistResubmission_ok h
  unfold Database.recordedExchangeOrderIds Database.protectionsOf
  rw [mem_exchangeOrderIds, mem_exchangeOrderIds, hrecords, List.map_append, List.map_singleton, hidentities, hrow]
  constructor
  · rintro ⟨r, hr, hposition, hid⟩
    rcases List.mem_append.mp hr with hr | hr
    · exact .inl ⟨r, hr, hposition, hid⟩
    · obtain rfl := List.mem_singleton.mp hr
      exact .inr hid
  · rintro (⟨r, hr, hposition, hid⟩ | hid)
    · exact ⟨r, List.mem_append_left _ hr, hposition, hid⟩
    · exact ⟨_, List.mem_concat_self, rfl, hid⟩

/-- The position has an active record. -/
theorem persistResubmission_active (h : persistResubmission db plan stopId tpId = .ok db') :
    (db'.activeProtection plan.positionId).isSome = true := by
  obtain ⟨-, -, rows, row, hrecords, -, hactive, hrow⟩ := persistResubmission_ok h
  have hposition : row.positionId = plan.positionId := congrArg Prod.fst hrow
  unfold Database.activeProtection Database.protectionsOf
  rw [hrecords]
  simp [hposition, hactive]

end Resubmitted

/-- A local position that claims a position of the snapshot is the view of an open row. -/
theorem claimedBy_loaded {db : Database} {mode : V2ExecutionMode} {baseline : AList fun _ : String => ℚ}
    {e : ExchangePositionSnapshot} {claimed : LocalPositionView}
    (h : claimedBy (loadLocalState db mode baseline).1 (loadLocalState db mode baseline).2 e = some claimed) :
    claimed.positionId ∈ (db.openPositions mode).map (·.positionId) ∧
      claimed.hasActiveProtection = (db.activeProtection claimed.positionId).isSome ∧
      claimed.protectionExchangeOrderIds = db.recordedExchangeOrderIds claimed.positionId := by
  obtain ⟨hmem, -⟩ := claimedBy_some h
  obtain ⟨p, hp, rfl⟩ := List.mem_map.mp hmem
  exact ⟨List.mem_map_of_mem hp, rfl, rfl⟩

/-- With an active record, a position that claims one of the snapshot is settled exactly if all its recorded orders are open. -/
theorem protectionSettled_iff {db : Database} {mode : V2ExecutionMode} {baseline : AList fun _ : String => ℚ}
    {snapshot : AuthoritativeAccountSnapshot} {result : ReconciliationResult} {positionId : String}
    (hids : ∀ p ∈ db.openPositions mode, p.positionId ≠ "") (hactive : (db.activeProtection positionId).isSome = true)
    (hresult : reconcile (some snapshot) (loadLocalState db mode baseline).1 none (some (loadLocalState db mode baseline).2) =
      .ok result) :
    ProtectionSettled snapshot (loadLocalState db mode baseline).1 result positionId ↔
      (ClaimsPosition snapshot (loadLocalState db mode baseline).1 (loadLocalState db mode baseline).2 positionId →
        snapshot.ShowsOpen (db.recordedExchangeOrderIds positionId)) := by
  constructor
  · rintro ⟨hnone, -⟩ ⟨e, he, claimed, hclaim, hid⟩
    obtain ⟨-, hprotected, horders⟩ := claimedBy_loaded hclaim
    rw [hid] at hprotected horders
    by_contra hclosed
    have hmissing : missingProtection snapshot claimed ≠ [] := by
      intro hnil
      rw [missingProtection_eq_nil, horders] at hnil
      exact hclosed hnil
    have hreports : ReportsProtection snapshot e claimed (claimed.protectionMissing e) :=
      .inr ⟨hprotected.trans hactive, hmissing, rfl⟩
    have hreported := (reconcile_protection_iff (d := claimed.protectionMissing e) hresult
      (by simp [LocalPositionView.protectionMissing])).mpr ⟨e, he, claimed, hclaim, hreports⟩
    refine hnone _ hreported (by simp [LocalPositionView.protectionMissing]) ?_
    rw [← hid]
    rfl
  · intro hopen
    -- a finding names the position that claims, and an open position has an id
    have hfinding : ∀ d ∈ result.discrepancies, d.code ∈ [.managedPositionUnprotected, .protectionOrderMissingAtExchange] →
        ∃ claimedId, d.localPositionId = some claimedId ∧ claimedId ≠ "" ∧ claimedId ≠ positionId := by
      intro d hd hcode
      obtain ⟨e, he, claimed, hclaim, hreports⟩ := (reconcile_protection_iff hresult hcode).mp hd
      obtain ⟨hrow, hprotected, horders⟩ := claimedBy_loaded hclaim
      have hlocal : d.localPositionId = some claimed.positionId := by
        rcases hreports with ⟨-, rfl⟩ | ⟨-, -, rfl⟩ <;> rfl
      obtain ⟨p, hp, hpid⟩ := List.mem_map.mp hrow
      refine ⟨claimed.positionId, hlocal, hpid ▸ hids p hp, fun hid => ?_⟩
      rw [hid] at hprotected horders
      rcases hreports with ⟨hunprotected, -⟩ | ⟨-, hmissing, -⟩
      · rw [hprotected, hactive] at hunprotected
        cases hunprotected
      · refine hmissing (missingProtection_eq_nil.mpr ?_)
        rw [horders]
        exact hopen ⟨e, he, claimed, hclaim, hid⟩
    refine ⟨fun d hd hcode hlocal => ?_, fun pendingIntents emergencyCloses action haction htype htarget => ?_⟩
    · obtain ⟨claimedId, hclaimed, -, hne⟩ := hfinding d hd hcode
      rw [hclaimed] at hlocal
      exact hne (Option.some.inj hlocal)
    · obtain ⟨d, hd, hcode, href⟩ := recoverPendingState_resubmits haction htype
      obtain ⟨claimedId, hclaimed, hnonempty, hne⟩ := hfinding d hd hcode
      refine hne ?_
      rw [← htarget, href, hclaimed]
      simp [refOr, textOr, hnonempty]

end RecoveryConvergenceAux

open RecoveryConvergenceAux

/-- After a resubmission whose orders are open in the next snapshot, the protection of the position is settled exactly if the
orders of its earlier records are open too, should the position claim one of the snapshot. -/
theorem protectionRecovery_settles_iff (w : World) (snapshot next : AuthoritativeAccountSnapshot) (action : RecoveryAction)
    (mode : V2ExecutionMode) (baseline : AList fun _ : String => ℚ) (plan : ProtectionPlan) (placed : ProtectionResult)
    (db' : Database) (x x' : Exchange) (result : ReconciliationResult)
    (hids : ∀ p ∈ w.db.openPositions mode, p.positionId ≠ "")
    (hplan : plannedResubmission w.db snapshot action.targetRef = .ok (some plan))
    (hensure : ensureProtection w.exchange plan = (.ok placed, x'))
    (hrun : resubmitProtection w snapshot action = (.ok true, ⟨db', x⟩)) (hplaced : next.ShowsOpen placed.exchangeOrderIds)
    (hresult : reconcile (some next) (loadLocalState db' mode baseline).1 none (some (loadLocalState db' mode baseline).2) =
      .ok result) :
    ProtectionSettled next (loadLocalState db' mode baseline).1 result action.targetRef ↔
      (ClaimsPosition next (loadLocalState db' mode baseline).1 (loadLocalState db' mode baseline).2 action.targetRef →
        next.ShowsOpen (w.db.recordedExchangeOrderIds action.targetRef)) := by
  obtain ⟨hposition, -⟩ := plannedResubmission_ok hplan
  obtain ⟨stopId, hstop, hpersist⟩ := resubmitProtection_persisted hplan hensure hrun
  have hpositions : db'.openPositions mode = w.db.openPositions mode := by
    unfold Database.openPositions
    rw [(persistResubmission_ok hpersist).1]
  rw [← hposition, protectionSettled_iff (hpositions ▸ hids) (persistResubmission_active hpersist) hresult]
  refine imp_congr_right fun _ => ?_
  unfold AuthoritativeAccountSnapshot.ShowsOpen ProtectionResult.exchangeOrderIds at *
  rw [hstop] at hplaced
  simp only [persistResubmission_exchangeOrderIds hpersist]
  constructor
  · intro hopen id hid
    exact hopen id (.inl hid)
  · rintro hopen id (hid | hid)
    · exact hopen id hid
    · exact hplaced id hid

/-! ## A stop that vanished -/

/-- A managed coin with one protection record, and the replies the exchange gives from here on. -/
def recordedCoin (record : ProtectionRow) (replies : List CallBehaviour) : World where
  db :=
    { positions := [{ positionId := "position-1", intentId := "intent-1", orderRecordId := "order-1", symbol := "BTC/USDT",
                      direction := .long, executionMode := .binanceTestnet, quantity := 1, entryPrice := 100, entryFee := 0,
                      state := .isProtected }]
      orders := [{ orderRecordId := "order-1", intentId := "intent-1", clientOrderId := "A2E-1",
                   exchangeOrderId := some "10", quantity := 1, leverage := 3 }]
      fills := [{ fillId := "fill-1", intentId := "intent-1", exchangeOrderRecordId := "order-1", accountId := "account",
                  exchangeOrderId := "10", tradeId := some "trade-1", symbol := "BTC/USDT", side := "BUY", reduceOnly := false,
                  filledQuantity := 1, fillPrice := 100, commission := none }]
      protections := [record] }
  exchange := exchangeHolding replies

/-- The record of the first protection, before anything was placed. -/
def intendedRecord : ProtectionRow :=
  { protectionId := "protection-1", positionId := "position-1", stopLossPrice := 99, originalStopLossPrice := none,
    takeProfitPrice := some 102, stopClientOrderId := samplePlan.stopClientOrderId,
    tpClientOrderId := samplePlan.tpClientOrderId, state := .protectionIntent }

/-- The same record once its orders 11 and 12 are active. -/
def placedRecord : ProtectionRow :=
  { intendedRecord with stopExchangeOrderId := some "11", tpExchangeOrderId := some "12", state := .protectionActive,
                        version := 2 }

/-- The coin and these open orders. -/
def coinWith (orders : List AcceptedOrder) : AuthoritativeAccountSnapshot :=
  { positions := [{ symbol := "BTC/USDT", direction := .long, quantity := 1 }],
    pendingOrders := orders.map AcceptedOrder.snapshot }

/-- The resubmission for the position. -/
def coinResubmission : RecoveryAction :=
  { actionType := .resubmitProtection, targetRef := "position-1", symbol := some "BTC/USDT",
    reason := "locally ACTIVE protection is absent from exchange open orders" }

/-- The replies to both orders of a resubmission. -/
def bothAnswered : List CallBehaviour := [.answered "21" true (some "new"), .answered "22" true (some "new")]

/-- The world after a resubmission for the coin, of which nothing is open before. -/
def resubmitted (record : ProtectionRow) : World :=
  (resubmitProtection (recordedCoin record bothAnswered) (coinWith []) coinResubmission).2

/-- The reconciliation of a world against a snapshot of the coin. -/
def reconcileCoin (w : World) (orders : List AcceptedOrder) : Except PyError ReconciliationResult :=
  reconcile (some (coinWith orders)) (loadLocalState w.db .binanceTestnet).1 none (some (loadLocalState w.db .binanceTestnet).2)

/-- What is found while a recorded order is missing. -/
def orderMissing : ReconciliationResult where
  status := .recoveryRequired
  discrepancies := [{ code := .protectionOrderMissingAtExchange, symbol := some "BTC/USDT", localPositionId := some "position-1" }]
  entryBlockedSymbols := ["BTC/USDT"]
  recoveryRequiredRefs := ["position-1"]

/-- Orders 11 and 12 vanished, and 21 and 22 replace them and are open: the position is reported as before, and the same
resubmission is planned again. -/
theorem protectionRecovery_settles_false :
    reconcileCoin (recordedCoin placedRecord bothAnswered) [] = .ok orderMissing ∧
    (resubmitProtection (recordedCoin placedRecord bothAnswered) (coinWith []) coinResubmission).1 = .ok true ∧
    (resubmitted placedRecord).exchange.orders.map (·.exchangeOrderId) = ["21", "22"] ∧
    reconcileCoin (resubmitted placedRecord) (resubmitted placedRecord).exchange.orders = .ok orderMissing ∧
    coinResubmission ∈ (recoverPendingState (some (coinWith (resubmitted placedRecord).exchange.orders)) orderMissing
      (some (loadLocalState (resubmitted placedRecord).db .binanceTestnet).1)).actions ∧
    ¬ProtectionSettled (coinWith (resubmitted placedRecord).exchange.orders)
      (loadLocalState (resubmitted placedRecord).db .binanceTestnet).1 orderMissing "position-1" := by
  refine ⟨by decide +kernel, by decide +kernel, by decide +kernel, by decide +kernel, by decide +kernel, ?_⟩
  rintro ⟨hnone, -⟩
  exact hnone _ (List.mem_singleton_self _) (by simp) rfl

/-- The plan of the resubmission for a record that was never placed. -/
def secondPlan : ProtectionPlan :=
  { samplePlan with stopClientOrderId := "A2S-e55ad8d8e16b2fab62", tpClientOrderId := some "A2T-3659682addf948297c",
                    attempt := 2 }

/-- A record without orders leaves nothing that could be missing: the resubmission settles the protection. -/
theorem protectionRecovery_settles_first : ∃ result,
    reconcileCoin (resubmitted intendedRecord) (resubmitted intendedRecord).exchange.orders = .ok result ∧
    ProtectionSettled (coinWith (resubmitted intendedRecord).exchange.orders)
      (loadLocalState (resubmitted intendedRecord).db .binanceTestnet).1 result "position-1" := by
  have hout : (resubmitProtection (recordedCoin intendedRecord bothAnswered) (coinWith []) coinResubmission).1 = .ok true := by
    decide +kernel
  have hplan : plannedResubmission (recordedCoin intendedRecord bothAnswered).db (coinWith []) "position-1" =
      .ok (some secondPlan) := by decide +kernel
  have hensure : (ensureProtection (recordedCoin intendedRecord bothAnswered).exchange secondPlan).1 =
      .ok (activeResult "21" "22" [] 1) := by decide +kernel
  obtain ⟨result, hresult⟩ := reconcile_returns (coinWith (resubmitted intendedRecord).exchange.orders)
    (loadLocalState (resubmitted intendedRecord).db .binanceTestnet).1 none
    (some (loadLocalState (resubmitted intendedRecord).db .binanceTestnet).2) rfl
  have hshown : (coinWith (resubmitted intendedRecord).exchange.orders).ShowsOpen (activeResult "21" "22" [] 1).exchangeOrderIds := by
    unfold AuthoritativeAccountSnapshot.ShowsOpen
    decide +kernel
  have hnone : (recordedCoin intendedRecord bothAnswered).db.recordedExchangeOrderIds coinResubmission.targetRef = [] := by
    decide +kernel
  refine ⟨result, hresult, ?_⟩
  refine (protectionRecovery_settles_iff (recordedCoin intendedRecord bothAnswered) (coinWith []) _ coinResubmission
    .binanceTestnet ∅ secondPlan (activeResult "21" "22" [] 1) _ _ _ result (by decide +kernel) hplan (Prod.ext hensure rfl)
    (Prod.ext hout rfl) hshown hresult).mpr fun _ => ?_
  rw [hnone]
  nofun

end TradingPlatform
