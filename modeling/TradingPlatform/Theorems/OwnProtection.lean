import TradingPlatform.Lemmas.ProtectionRecords
import TradingPlatform.Lemmas.Recovery
import TradingPlatform.Theorems.EntrySubmission
import TradingPlatform.Theorems.SingleProtection

/-!
# The engine's own live protection

A protection that ended active is persisted by the cycle or by a resubmission. The next reconciliation is shown its orders under
the client ids the exchange accepted; an order whose client id has no local record is an orphan, and recovery cancels orphans.
-/

namespace TradingPlatform

/-! ## The statement -/

/-- A snapshot as the exchange gives it: an order id names one open order. -/
structure AuthoritativeAccountSnapshot.Identifies (s : AuthoritativeAccountSnapshot) : Prop where
  distinct : (s.pendingOrders.map (·.exchangeOrderId)).Nodup
  nonempty : ∀ o ∈ s.pendingOrders, o.exchangeOrderId ≠ ""

/-- Against every snapshot that shows the orders as open, reconciliation reports none of them as an orphan and recovery plans
no cancellation for any. -/
def OwnProtectionKept (db : Database) (mode : V2ExecutionMode) (orders : List AcceptedOrder) : Prop :=
  ∀ (snapshot : AuthoritativeAccountSnapshot) (baseline : AList fun _ : String => ℚ) (result : ReconciliationResult)
    (pendingIntents : List PendingIntentView) (emergencyCloses : List EmergencyCloseRequest),
    snapshot.Identifies → (∀ a ∈ orders, a.snapshot ∈ snapshot.pendingOrders) →
    reconcile (some snapshot) (loadLocalState db mode baseline).1 none (some (loadLocalState db mode baseline).2) =
      .ok result →
    ∀ a ∈ orders,
      (∀ d ∈ result.discrepancies, d.code = .orphanV2ClientOrderAtExchange → d.exchangeRef ≠ some a.exchangeOrderId) ∧
      ∀ action ∈ (recoverPendingState (some snapshot) result (some (loadLocalState db mode baseline).1) pendingIntents
          emergencyCloses).actions,
        action.actionType = .cancelOrphanProtectionOrder → action.targetRef ≠ a.exchangeOrderId

/-- The client ids of a retry, whose revision is always two. -/
def ProtectionPlan.retryClientOrderIds (plan : ProtectionPlan) : List String :=
  (TradingPlatform.stopClientOrderId plan.positionId 2).toOption.toList ++
    ((targetIdFor plan.positionId plan.takeProfitPrice 2).toOption.bind id).toList

/-- The ids of the retry have a local record: before the call, or because they are the ids of the plan. -/
def RetryRecorded (db : Database) (mode : V2ExecutionMode) (plan : ProtectionPlan) : Prop :=
  ∀ id ∈ plan.retryClientOrderIds, id ∈ db.recordedClientOrderIds mode plan.positionId ∨ id ∈ plan.clientOrderIds

/-! ## Orphans among the orders -/

namespace OwnAux

/-- Orders are kept exactly if none of them is an order of the engine without a local record. -/
theorem ownProtectionKept_iff {db : Database} {mode : V2ExecutionMode} {orders : List AcceptedOrder}
    (hdistinct : (orders.map (·.exchangeOrderId)).Nodup) (hnonempty : ∀ a ∈ orders, a.exchangeOrderId ≠ "")
    (hown : ∀ a ∈ orders, isV2ClientOrderId a.request.newClientOrderId = true) :
    OwnProtectionKept db mode orders ↔ ∀ a ∈ orders, a.request.newClientOrderId ∈ db.knownClientOrderIds mode := by
  constructor
  · intro hkept a ha
    by_contra hunknown
    -- the snapshot that shows these orders alone
    let snapshot : AuthoritativeAccountSnapshot := { pendingOrders := orders.map AcceptedOrder.snapshot }
    have hids : snapshot.Identifies := by
      refine ⟨?_, ?_⟩
      · have hsame : snapshot.pendingOrders.map (·.exchangeOrderId) = orders.map (·.exchangeOrderId) := by
          rw [List.map_map]
          rfl
        rw [hsame]
        exact hdistinct
      · intro o ho
        obtain ⟨b, hb, rfl⟩ := List.mem_map.mp ho
        exact hnonempty b hb
    have hshows : ∀ b ∈ orders, b.snapshot ∈ snapshot.pendingOrders := fun b hb => List.mem_map_of_mem hb
    obtain ⟨result, hresult⟩ := reconcile_returns snapshot (loadLocalState db mode).1 none
      (some (loadLocalState db mode).2) rfl
    have horphan : a.snapshot.orphan ∈ result.discrepancies :=
      (reconcile_orphan_iff hresult rfl).mpr ⟨a.snapshot, hshows a ha, ⟨_, rfl, hunknown, hown a ha⟩, rfl⟩
    exact (hkept snapshot ∅ result [] [] hids hshows hresult a ha).1 _ horphan rfl rfl
  · intro hknown snapshot baseline result pendingIntents emergencyCloses hids hshows hresult a ha
    -- an order of the snapshot under this id is this order, and it has a record
    have hrecorded : ∀ o ∈ snapshot.pendingOrders, o.exchangeOrderId = a.exchangeOrderId →
        ¬o.Unrecorded (loadLocalState db mode baseline).1 := by
      rintro o ho heq ⟨c, hc, hunknown, -⟩
      have hsame : o = a.snapshot := List.inj_on_of_nodup_map hids.distinct ho (hshows a ha) heq
      rw [hsame] at hc
      cases hc
      exact hunknown (hknown a ha)
    refine ⟨fun d hd hcode href => ?_, fun action haction hcancel htarget => ?_⟩
    · obtain ⟨o, ho, hunrecorded, rfl⟩ := (reconcile_orphan_iff hresult hcode).mp hd
      exact hrecorded o ho (Option.some.inj href) hunrecorded
    · obtain ⟨d, hd, hcode, htext⟩ := recoverPendingState_cancels haction hcancel
      obtain ⟨o, ho, hunrecorded, rfl⟩ := (reconcile_orphan_iff hresult hcode).mp hd
      refine hrecorded o ho ?_ hunrecorded
      rw [← htarget, htext]
      simp [ExchangeOrderSnapshot.orphan, textOr, hids.nonempty o ho]

/-- The ids a retry sends are the ids of revision two. -/
theorem mem_retryClientOrderIds {plan plan' : ProtectionPlan} {q : ℚ} {hq : 0 < q} (h : plan.retry q hq 2 = .ok plan')
    (id : String) : id ∈ plan'.sentClientOrderIds ↔ id ∈ plan.retryClientOrderIds := by
  obtain ⟨hposition, hprice, hattempt, hminted, htarget⟩ := retry_ok h
  have hstop := hminted.stop
  rw [hposition, hattempt] at hstop
  unfold ProtectionPlan.retryClientOrderIds
  rw [hstop, htarget]
  have hsent : plan'.sentClientOrderIds = plan'.stopClientOrderId :: plan'.tpClientOrderId.toList := by
    unfold ProtectionPlan.sentClientOrderIds
    have hleg : plan'.command.targetLeg.map Prod.snd = plan'.tpClientOrderId := by
      unfold SubmitProtectionOrders.targetLeg ProtectionPlan.command
      simp only
      rw [hprice]
      unfold targetIdFor at htarget
      cases hp : plan.takeProfitPrice with
      | none =>
        rw [hp] at htarget
        rw [← Except.ok.inj htarget]
        rfl
      | some p =>
        rw [hp] at htarget
        simp only at htarget
        by_cases hzero : p = 0
        · rw [if_pos hzero] at htarget
          rw [← Except.ok.inj htarget]
          rfl
        · rw [if_neg hzero] at htarget
          cases hid : targetClientOrderId plan.positionId 2 with
          | error e =>
            rw [hid] at htarget
            nomatch htarget
          | ok c =>
            rw [hid] at htarget
            rw [← Except.ok.inj htarget]
            simp [hzero, ne_empty_of_legKindOf (legKindOf_targetClientOrderId hid)]
    rw [hleg]
  rw [hsent]
  simp [Except.toOption]

/-- What the persisted result of an active protection is known under decides: the common part of both callers. -/
theorem kept_iff_of_known {x x' : Exchange} {plan : ProtectionPlan} {result : ProtectionResult} {db db' : Database}
    {mode : V2ExecutionMode} (hminted : plan.Minted) (h : ensureProtection x plan = (.ok result, x'))
    (hactive : result.outcome = .active) (hid : x'.Identifies)
    (hknown : ∀ id, legKindOf id = some .stop ∨ legKindOf id = some .target →
      (id ∈ db'.knownClientOrderIds mode ↔
        id ∈ db.recordedClientOrderIds mode plan.positionId ∨ id ∈ plan.clientOrderIds)) :
    OwnProtectionKept db' mode (activeOrders x' result) ↔ plan.AnsweredAtOnce x ∨ RetryRecorded db mode plan := by
  have hsub : ∀ a ∈ activeOrders x' result, a ∈ x'.orders := fun a ha => (List.mem_filter.mp ha).1
  have hdistinct : ((activeOrders x' result).map (·.exchangeOrderId)).Nodup :=
    hid.distinct.sublist (List.filter_sublist.map _)
  -- a plan that is minted and whose ids are those of the active orders decides by its ids
  have hdecides : ∀ p : ProtectionPlan, p.Minted →
      (activeOrders x' result).map (·.request.newClientOrderId) = p.sentClientOrderIds →
      (OwnProtectionKept db' mode (activeOrders x' result) ↔ ∀ id ∈ p.sentClientOrderIds,
        id ∈ db.recordedClientOrderIds mode plan.positionId ∨ id ∈ plan.clientOrderIds) := by
    intro p hp hsent
    have hleg : ∀ a ∈ activeOrders x' result, legKindOf a.request.newClientOrderId = some .stop ∨
        legKindOf a.request.newClientOrderId = some .target := by
      intro a ha
      exact hp.leg (hsent ▸ List.mem_map_of_mem (f := fun b : AcceptedOrder => b.request.newClientOrderId) ha)
    rw [ownProtectionKept_iff hdistinct (fun a ha => hid.nonempty a (hsub a ha))
      (fun a ha => (hleg a ha).elim isV2ClientOrderId_of_legKindOf isV2ClientOrderId_of_legKindOf), ← hsent]
    simp only [List.forall_mem_map]
    exact forall₂_congr fun a ha => hknown _ (hleg a ha)
  rcases ensureProtection_activeOrders h hactive hid with ⟨honce, hsent⟩ | ⟨hnot, q, hq, plan', hretry, hsent⟩
  · refine iff_of_true ((hdecides plan hminted hsent).mpr fun id hmem => ?_) (.inl honce)
    rcases plan.mem_sent hmem with rfl | ⟨htp, hne⟩
    · exact .inr List.mem_cons_self
    · refine .inr (List.mem_cons_of_mem _ ?_)
      unfold truthy
      rw [htp]
      simp [hne]
  · obtain ⟨-, -, -, hminted', -⟩ := retry_ok hretry
    rw [hdecides plan' hminted' hsent]
    unfold RetryRecorded
    simp only [mem_retryClientOrderIds hretry, hnot, false_or]

end OwnAux

open OwnAux

/-- The cycle's own protection is kept exactly if its first submission was answered in full, or the ids of the retry have a
local record; and so is the protection of a resubmission for an open position. -/
theorem ownProtection_kept_iff (w : World) (plan : ProtectionPlan) (result : ProtectionResult) (db' : Database)
    (x' : Exchange) :
    (∀ c : ConfirmedEntry,
      c.plan w.db.uuid4.1 = .ok plan → ensureProtection w.exchange plan = (.ok result, x') → result.outcome = .active →
      x'.Identifies → protectEntry w c = (.ok (), ⟨db', x'⟩) →
      (OwnProtectionKept db' c.executionMode (activeOrders x' result) ↔
        plan.AnsweredAtOnce w.exchange ∨ RetryRecorded w.db c.executionMode plan)) ∧
    ∀ (snapshot : AuthoritativeAccountSnapshot) (action : RecoveryAction) (mode : V2ExecutionMode) (position : PositionRow),
      position ∈ w.db.openPositions mode → position.positionId = action.targetRef →
      plannedResubmission w.db snapshot action.targetRef = .ok (some plan) →
      ensureProtection w.exchange plan = (.ok result, x') → result.outcome = .active → x'.Identifies →
      resubmitProtection w snapshot action = (.ok true, ⟨db', x'⟩) →
      (OwnProtectionKept db' mode (activeOrders x' result) ↔
        plan.AnsweredAtOnce w.exchange ∨ RetryRecorded w.db mode plan) := by
  refine ⟨?_, ?_⟩
  · intro c hplan hensure hactive hid hrun
    obtain ⟨hposition, -, hminted⟩ := buildProtectionPlan_ok hplan
    have hprotect : protectPlan w.exchange (c.plan w.db.uuid4.1) = (some plan, some result, x') := by
      unfold protectPlan
      rw [hplan]
      simp only [hensure]
    have hpersist : persistEntryAndProtection w.db.uuid4.2 (c.facts w.db.uuid4.1 (some plan) (some result)) = .ok db' := by
      unfold protectEntry at hrun
      simp only [hprotect, transaction] at hrun
      cases hp : persistEntryAndProtection w.db.uuid4.2 (c.facts w.db.uuid4.1 (some plan) (some result)) with
      | error e =>
        rw [hp] at hrun
        cases (Prod.mk.inj hrun).1
      | ok db₁ =>
        rw [hp] at hrun
        obtain ⟨-, hworld⟩ := Prod.mk.inj hrun
        have hdb : db₁ = db' := (World.mk.inj hworld).1
        rw [hdb]
    refine kept_iff_of_known hminted hensure hactive hid fun id hleg => ?_
    have hne : id ≠ c.entryResult.clientOrderId := by
      rintro rfl
      rw [legKindOf_entryClientOrderId c.clientOrderId_eq] at hleg
      simp at hleg
    rw [hposition]
    exact protectEntry_known (ne_empty_of_legKindOf (legKindOf_stopClientOrderId hminted.stop)) hpersist hne
  · intro snapshot action mode position hopen htarget hplan hensure hactive hid hrun
    obtain ⟨hposition, hminted⟩ := plannedResubmission_ok hplan
    obtain ⟨stopId, -, hpersist⟩ := resubmitProtection_persisted hplan hensure hrun
    refine kept_iff_of_known hminted hensure hactive hid fun id _ => ?_
    exact persistResubmission_known hopen (hposition.trans htarget.symm) hpersist

/-! ## A retry that ends active -/

/-- The fill of one coin at 100. -/
def sampleEntry : ConfirmedEntry where
  cycleId := "cycle-1"
  decisionId := none
  intentId := "intent-1"
  symbol := "BTC/USDT"
  direction := .long
  candidateKey := "strategy"
  candidateType := .sampling
  executionMode := .binanceTestnet
  fencingToken := "token-1"
  candidate := sampleCandidate "BTC/USDT"
  leverage := 3
  entryResult :=
    { status := .filled, intentState := .filled, clientOrderId := sampleClientOrderId, exchangeOrderId := some "77",
      tradeIds := ["trade-1"], filledQuantity := 1, averageFillPrice := some 100, requestedQuantity := 1 }
  tickSize := 1 / 10
  initialRiskUsdt := 1
  projectable := by decide +kernel
  clientOrderId_eq := by decide +kernel

/-- The plan of its position, under the first revision. -/
def sampleEntryPlan : ProtectionPlan where
  positionId := "uuid-0"
  symbol := "BTC/USDT"
  direction := .long
  quantity := 1
  averageFillPrice := 100
  stopPrice := 99
  takeProfitPrice := some 102
  stopClientOrderId := "A2S-5ff02bfd2ea77a9cdd"
  tpClientOrderId := some "A2T-3f29f6ee29bb2a5931"
  attempt := 1
  quantity_pos := SampleLevels.one_pos
  stopPrice_pos := SampleLevels.ninetyNine_pos
  stop_worse := long_worse_below
  target_better := long_worse_above

/-- The world of the sample entry: nothing is recorded yet, and the exchange holds the coin. -/
def sampleWorld (replies : List CallBehaviour) : World := { db := {}, exchange := exchangeHolding replies }

/-- The first stop is refused and the retry is answered. -/
def refusedThenWhole : World :=
  sampleWorld [.refused "stop refused", .answered "2" true (some "new"), .answered "3" true (some "new")]

/-- Both orders are answered at once. -/
def wholeAtOnce : World := sampleWorld [.answered "2" true (some "new"), .answered "3" true (some "new")]

/-- The retry ends active and is persisted, and its live orders are orphans of the next reconciliation. -/
theorem ownProtection_kept_false :
    sampleEntry.plan "uuid-0" = .ok sampleEntryPlan ∧
    (ensureProtection refusedThenWhole.exchange sampleEntryPlan).1 = .ok (activeResult "2" "3" [.retriedSubmission] 2) ∧
    (protectEntry refusedThenWhole sampleEntry).1 = .ok () ∧
    ¬OwnProtectionKept (protectEntry refusedThenWhole sampleEntry).2.db .binanceTestnet
      (activeOrders (protectEntry refusedThenWhole sampleEntry).2.exchange
        (activeResult "2" "3" [.retriedSubmission] 2)) := by
  refine ⟨by decide +kernel, by decide +kernel, by decide +kernel, ?_⟩
  rw [ownProtectionKept_iff (by decide +kernel) (by decide +kernel) (by decide +kernel)]
  decide +kernel

/-- Orders that are answered at once are kept. -/
theorem ownProtection_kept_at_once : ∃ db' x', protectEntry wholeAtOnce sampleEntry = (.ok (), ⟨db', x'⟩) ∧
    (activeOrders x' (activeResult "2" "3" [] 1)).map (·.exchangeOrderId) = ["2", "3"] ∧
    OwnProtectionKept db' .binanceTestnet (activeOrders x' (activeResult "2" "3" [] 1)) := by
  have hplan : sampleEntry.plan wholeAtOnce.db.uuid4.1 = .ok sampleEntryPlan := by decide +kernel
  have hensure : (ensureProtection wholeAtOnce.exchange sampleEntryPlan).1 = .ok (activeResult "2" "3" [] 1) := by
    decide +kernel
  have hout : (protectEntry wholeAtOnce sampleEntry).1 = .ok () := by decide +kernel
  have hexchange : (protectEntry wholeAtOnce sampleEntry).2.exchange =
      (ensureProtection wholeAtOnce.exchange sampleEntryPlan).2 := by
    unfold protectEntry protectPlan
    simp only [hplan]
    split
    · rename_i h
      rw [h] at hensure
      nomatch hensure
    · rename_i h
      rw [h]
  have hids : (ensureProtection wholeAtOnce.exchange sampleEntryPlan).2.Identifies := ⟨by decide +kernel, by decide +kernel⟩
  have hrun : protectEntry wholeAtOnce sampleEntry = (.ok (), ⟨(protectEntry wholeAtOnce sampleEntry).2.db,
      (ensureProtection wholeAtOnce.exchange sampleEntryPlan).2⟩) := by
    rw [← hexchange]
    exact Prod.ext hout rfl
  refine ⟨_, _, hrun, by decide +kernel, ?_⟩
  exact ((ownProtection_kept_iff wholeAtOnce sampleEntryPlan (activeResult "2" "3" [] 1) _ _).1 sampleEntry hplan
    (Prod.ext hensure rfl) rfl hids hrun).mpr (.inl (by decide))

end TradingPlatform
