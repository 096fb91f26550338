import TradingPlatform.Lemmas.Reconciliation
import TradingPlatform.Engine.Recovery

/-!
# Orphans and what recovery plans for them

Reconciliation reports an orphan for exactly the open orders of the engine that have no local record, and a cancellation is
planned for orphans alone.
-/

namespace TradingPlatform

open Loops ReconcileAux

variable {ds : List Discrepancy} {plan : RecoveryPlan}

/-- The orphan an open order is reported as. -/
def ExchangeOrderSnapshot.orphan (o : ExchangeOrderSnapshot) : Discrepancy :=
  { code := .orphanV2ClientOrderAtExchange, symbol := some o.symbol, exchangeRef := some o.exchangeOrderId }

/-- An order of the engine that has no local record. -/
def ExchangeOrderSnapshot.Unrecorded (o : ExchangeOrderSnapshot) (l : LocalStateView) : Prop :=
  ∃ c, o.clientOrderId = some c ∧ c ∉ l.knownClientOrderIds ∧ isV2ClientOrderId c = true

/-- A local position is reported as unprotected. -/
def LocalPositionView.unprotected (claimed : LocalPositionView) (e : ExchangePositionSnapshot) : Discrepancy :=
  { code := .managedPositionUnprotected, symbol := some e.symbol, localPositionId := some claimed.positionId }

/-- A protection of a local position is reported as missing. -/
def LocalPositionView.protectionMissing (claimed : LocalPositionView) (e : ExchangePositionSnapshot) : Discrepancy :=
  { code := .protectionOrderMissingAtExchange, symbol := some e.symbol, localPositionId := some claimed.positionId }

/-- What is reported of the protection of a local position that claims an exchange position. -/
def ReportsProtection (snapshot : AuthoritativeAccountSnapshot) (e : ExchangePositionSnapshot) (claimed : LocalPositionView)
    (d : Discrepancy) : Prop :=
  claimed.hasActiveProtection = false ∧ d = claimed.unprotected e ∨
    claimed.hasActiveProtection = true ∧ missingProtection snapshot claimed ≠ [] ∧ d = claimed.protectionMissing e

namespace RecoveryAux

section Findings

variable {d : Discrepancy}

/-! ## Findings under other codes -/

theorem mem_reportIf_of_ne {f : Findings} {c : Bool} {e : Discrepancy} {refs : List String} (he : e.code ≠ d.code) :
    d ∈ (f.reportIf c e refs).discrepancies ↔ d ∈ f.discrepancies := by
  rw [mem_reportIf]
  refine or_iff_left ?_
  rintro ⟨-, rfl⟩
  exact he rfl

theorem mem_report_of_ne {f : Findings} {e : Discrepancy} {refs : List String} (he : e.code ≠ d.code) :
    d ∈ (f.report e refs).discrepancies ↔ d ∈ f.discrepancies := by
  rw [report_discrepancies, List.mem_append, List.mem_singleton]
  refine or_iff_left ?_
  rintro rfl
  exact he rfl

/-- The loop over the intents reports unprojected fills and quarantined lifecycles alone. -/
theorem reconcileIntent_other (hd : d.code ∉ [.confirmedEntryFillUnprojected, .quarantinedEntryLifecycle]) (f : Findings)
    (i : LocalIntentView) : d ∈ (reconcileIntent f i).discrepancies ↔ d ∈ f.discrepancies := by
  simp only [List.mem_cons, List.not_mem_nil, or_false, not_or] at hd
  unfold reconcileIntent
  rw [mem_reportIf_of_ne (Ne.symm hd.2), mem_reportIf_of_ne (Ne.symm hd.1)]

/-- The loop over the local positions reports missing ones alone. -/
theorem reconcileLocalPosition_other (hd : d.code ≠ .localPositionMissingAtExchange) (f : Findings) (p : LocalPositionView) :
    d ∈ (reconcileLocalPosition f p).discrepancies ↔ d ∈ f.discrepancies := by
  unfold reconcileLocalPosition
  rw [mem_reportIf_of_ne (Ne.symm hd)]

/-- The loop over the captured baseline reports drifts alone. -/
theorem reconcileBaseline_other (hd : d.code ≠ .manualBaselineDrift) {snapshot : AuthoritativeAccountSnapshot}
    {f f' : Findings} {entry : Sigma fun _ : String => ℚ} (h : reconcileBaseline snapshot f entry = .ok f') :
    d ∈ f'.discrepancies ↔ d ∈ f.discrepancies := by
  unfold reconcileBaseline at h
  split at h
  · cases h
    exact Iff.rfl
  · obtain ⟨⟨symbol, direction⟩, -, h⟩ := bind_eq_ok.mp h
    cases h
    exact mem_report_of_ne (Ne.symm hd)

/-- The loop over the open orders reports unknown orders and orphans alone. -/
theorem reconcileOrder_other (hd : d.code ∉ [.unknownOrderPresent, .orphanV2ClientOrderAtExchange]) (l : LocalStateView)
    (f : Findings) (o : ExchangeOrderSnapshot) : d ∈ (reconcileOrder l f o).discrepancies ↔ d ∈ f.discrepancies := by
  simp only [List.mem_cons, List.not_mem_nil, or_false, not_or] at hd
  unfold reconcileOrder
  split
  · rw [mem_report_of_ne (Ne.symm hd.1)]
  · split
    · exact Iff.rfl
    · rw [mem_reportIf_of_ne (Ne.symm hd.2)]

/-! ## Protections -/

/-- The loop over the exchange positions reports the protection of the local positions that claim them. -/
theorem reconcileExchangePosition_protection
    (hd : d.code ∈ [.managedPositionUnprotected, .protectionOrderMissingAtExchange]) (snapshot : AuthoritativeAccountSnapshot)
    (l : LocalStateView) (refs : ClaimRefs) (f : Findings) (e : ExchangePositionSnapshot) :
    d ∈ (reconcileExchangePosition snapshot l refs f e).discrepancies ↔
      d ∈ f.discrepancies ∨ ∃ claimed, claimedBy l refs e = some claimed ∧ ReportsProtection snapshot e claimed d := by
  have hne : ∀ c : DiscrepancyCode, c ∉ [.managedPositionUnprotected, .protectionOrderMissingAtExchange] → c ≠ d.code := by
    rintro c hc rfl
    exact hc hd
  unfold reconcileExchangePosition
  simp only
  cases hclaimed : claimedBy l refs e with
  | none =>
    simp only [reduceCtorEq, false_and, exists_false, or_false]
    split
    · rw [mem_reportIf_of_ne (hne _ (by simp))]
    · split
      · rw [mem_reportIf_of_ne (hne _ (by simp))]
      · rw [mem_report_of_ne (hne _ (by simp)), mem_reportIf_of_ne (hne _ (by simp))]
  | some claimed =>
    unfold reconcileClaimed ReportsProtection
    simp only
    rw [mem_reportIf, mem_reportIf, mem_reportIf_of_ne (hne _ (by simp)), mem_reportIf_of_ne (hne _ (by simp))]
    rw [mem_reportIf_of_ne (hne _ (by simp))]
    simp [or_assoc, and_assoc, LocalPositionView.unprotected, LocalPositionView.protectionMissing]

theorem reconcileFindings_protection (hd : d.code ∈ [.managedPositionUnprotected, .protectionOrderMissingAtExchange])
    {snapshot : AuthoritativeAccountSnapshot} {l : LocalStateView} {refs : ClaimRefs} {f : Findings}
    (h : reconcileFindings snapshot l refs = .ok f) :
    d ∈ f.discrepancies ↔ ∃ e ∈ snapshot.positions, ∃ claimed, claimedBy l refs e = some claimed ∧
      ReportsProtection snapshot e claimed d := by
  have hne : ∀ c : DiscrepancyCode, c ∉ [.managedPositionUnprotected, .protectionOrderMissingAtExchange] → d.code ≠ c := by
    rintro c hc rfl
    exact hc hd
  unfold reconcileFindings at h
  simp only at h
  obtain ⟨f₄, hbase, h⟩ := bind_eq_ok.mp h
  cases h
  -- no other loop adds to these findings or takes from them
  have hkept : ∀ f₃ : Findings, (l.externalBaselinePositions.entries.foldlM (reconcileBaseline snapshot) f₃) = .ok f₄ →
      (d ∈ f₄.discrepancies ↔ d ∈ f₃.discrepancies) := by
    intro f₃ hrun
    refine foldlM_keeps (P := fun g : Findings => d ∈ g.discrepancies ↔ d ∈ f₃.discrepancies) (fun g entry g' hg hstep => ?_) _
      Iff.rfl hrun
    exact (reconcileBaseline_other (hne _ (by simp)) hstep).trans hg
  have horders : d.code ∉ [.unknownOrderPresent, .orphanV2ClientOrderAtExchange] := by
    simp [hne _ (show DiscrepancyCode.unknownOrderPresent ∉ _ by simp),
      hne _ (show DiscrepancyCode.orphanV2ClientOrderAtExchange ∉ _ by simp)]
  have hintents : d.code ∉ [.confirmedEntryFillUnprojected, .quarantinedEntryLifecycle] := by
    simp [hne _ (show DiscrepancyCode.confirmedEntryFillUnprojected ∉ _ by simp),
      hne _ (show DiscrepancyCode.quarantinedEntryLifecycle ∉ _ by simp)]
  have hfirst := foldl_keeps (P := fun g : Findings => d ∉ g.discrepancies)
    (fun g i hg => (reconcileIntent_other hintents g i).not.mpr hg) l.intents {} List.not_mem_nil
  have hpositions := foldl_or_iff (P := fun g : Findings => d ∈ g.discrepancies)
    (reconcileExchangePosition_protection hd snapshot l refs) snapshot.positions (l.intents.foldl reconcileIntent {})
  have hlocal := foldl_rel (R := fun g g' : Findings => d ∈ g'.discrepancies ↔ d ∈ g.discrepancies) (fun _ => Iff.rfl)
    (fun _ _ _ h₁ h₂ => h₂.trans h₁) (reconcileLocalPosition_other (hne _ (by simp))) l.positions
    (snapshot.positions.foldl (reconcileExchangePosition snapshot l refs) (l.intents.foldl reconcileIntent {}))
  have hlast := foldl_rel (R := fun g g' : Findings => d ∈ g'.discrepancies ↔ d ∈ g.discrepancies) (fun _ => Iff.rfl)
    (fun _ _ _ h₁ h₂ => h₂.trans h₁) (reconcileOrder_other horders l) snapshot.pendingOrders f₄
  rw [hlast, hkept _ hbase, hlocal, hpositions]
  exact or_iff_right hfirst

end Findings

section Orphans

variable {d : Discrepancy} (hd : d.code = .orphanV2ClientOrderAtExchange)

include hd

theorem reconcileExchangePosition_orphan (snapshot : AuthoritativeAccountSnapshot) (l : LocalStateView) (refs : ClaimRefs)
    (f : Findings) (e : ExchangePositionSnapshot) :
    d ∈ (reconcileExchangePosition snapshot l refs f e).discrepancies ↔ d ∈ f.discrepancies := by
  unfold reconcileExchangePosition
  simp only
  split
  · split
    · rw [mem_reportIf_of_ne (by simp [hd])]
    · split
      · rw [mem_reportIf_of_ne (by simp [hd])]
      · rw [mem_report_of_ne (by simp [hd]), mem_reportIf_of_ne (by simp [hd])]
  · unfold reconcileClaimed
    simp only
    rw [mem_reportIf_of_ne (by simp [hd]), mem_reportIf_of_ne (by simp [hd]), mem_reportIf_of_ne (by simp [hd]),
      mem_reportIf_of_ne (by simp [hd])]
    exact mem_reportIf_of_ne (by simp [hd])

theorem reconcileOrder_orphan (l : LocalStateView) (f : Findings) (o : ExchangeOrderSnapshot) :
    d ∈ (reconcileOrder l f o).discrepancies ↔ d ∈ f.discrepancies ∨ (o.Unrecorded l ∧ d = o.orphan) := by
  unfold reconcileOrder ExchangeOrderSnapshot.Unrecorded
  cases hc : o.clientOrderId with
  | none =>
    rw [mem_report_of_ne (by simp [hd])]
    simp
  | some c =>
    by_cases hk : c ∈ l.knownClientOrderIds
    · simp [hk]
    · simp only [hk, if_false, mem_reportIf, Option.some.injEq, exists_eq_left', not_false_eq_true, true_and]
      rfl

/-- The orphans among the findings are those of the open orders. -/
theorem reconcileFindings_orphan {snapshot : AuthoritativeAccountSnapshot} {l : LocalStateView} {refs : ClaimRefs}
    {f : Findings} (h : reconcileFindings snapshot l refs = .ok f) :
    d ∈ f.discrepancies ↔ ∃ o ∈ snapshot.pendingOrders, o.Unrecorded l ∧ d = o.orphan := by
  unfold reconcileFindings at h
  simp only at h
  obtain ⟨f₄, hbase, h⟩ := bind_eq_ok.mp h
  cases h
  rw [foldl_or_iff (P := fun g : Findings => d ∈ g.discrepancies) (reconcileOrder_orphan hd l)]
  refine or_iff_right ?_
  -- the loops before the last report no orphan
  have h₁ : d ∉ (l.intents.foldl reconcileIntent {}).discrepancies :=
    foldl_keeps (P := fun g : Findings => d ∉ g.discrepancies)
      (fun g i hg => (reconcileIntent_other (by simp [hd]) g i).not.mpr hg) _ _ List.not_mem_nil
  have h₂ := foldl_keeps (P := fun g : Findings => d ∉ g.discrepancies)
    (fun g e hg => (reconcileExchangePosition_orphan hd snapshot l refs g e).not.mpr hg) snapshot.positions _ h₁
  have h₃ := foldl_keeps (P := fun g : Findings => d ∉ g.discrepancies)
    (fun g p hg => (reconcileLocalPosition_other (by simp [hd]) g p).not.mpr hg) l.positions _ h₂
  exact foldlM_keeps (P := fun g : Findings => d ∉ g.discrepancies)
    (fun g entry g' hg hstep => (reconcileBaseline_other (by simp [hd]) hstep).not.mpr hg) _ h₃ hbase

end Orphans

end RecoveryAux

open RecoveryAux

/-- `reconcile` reports an orphan for exactly the open orders of the engine without a local record. -/
theorem reconcile_orphan_iff {snapshot : AuthoritativeAccountSnapshot} {l : LocalStateView} {reason : Option String}
    {refs : Option ClaimRefs} {result : ReconciliationResult} (h : reconcile (some snapshot) l reason refs = .ok result)
    {d : Discrepancy} (hd : d.code = .orphanV2ClientOrderAtExchange) :
    d ∈ result.discrepancies ↔ ∃ o ∈ snapshot.pendingOrders, o.Unrecorded l ∧ d = o.orphan := by
  unfold reconcile at h
  simp only at h
  obtain ⟨f, hf, h⟩ := bind_eq_ok.mp h
  cases h
  exact reconcileFindings_orphan hd hf

/-- Without a captured baseline the reconciliation of a snapshot returns. -/
theorem reconcile_returns (snapshot : AuthoritativeAccountSnapshot) (l : LocalStateView) (reason : Option String)
    (refs : Option ClaimRefs) (hbase : l.externalBaselinePositions = ∅) :
    ∃ result, reconcile (some snapshot) l reason refs = .ok result := by
  unfold reconcile reconcileFindings
  simp only [hbase]
  exact ⟨_, rfl⟩

/-- `reconcile` reports the protection of exactly the local positions that claim an exchange position without an active protection,
or with an order that is not open. -/
theorem reconcile_protection_iff {snapshot : AuthoritativeAccountSnapshot} {l : LocalStateView} {reason : Option String}
    {refs : Option ClaimRefs} {result : ReconciliationResult} (h : reconcile (some snapshot) l reason refs = .ok result)
    {d : Discrepancy} (hd : d.code ∈ [.managedPositionUnprotected, .protectionOrderMissingAtExchange]) :
    d ∈ result.discrepancies ↔ ∃ e ∈ snapshot.positions, ∃ claimed, claimedBy l (refs.getD ∅) e = some claimed ∧
      ReportsProtection snapshot e claimed d := by
  unfold reconcile at h
  simp only at h
  obtain ⟨f, hf, h⟩ := bind_eq_ok.mp h
  cases h
  exact reconcileFindings_protection hd hf

/-! ## Planned cancellations and resubmissions -/

namespace RecoveryAux

/-- An action that cancels an order is planned for an orphan. -/
theorem planForDiscrepancy_cancel {d : Discrepancy} {a : RecoveryAction} (h : planForDiscrepancy d = some a)
    (ha : a.actionType = .cancelOrphanProtectionOrder) :
    d.code = .orphanV2ClientOrderAtExchange ∧ a.targetRef = textOr d.exchangeRef "unknown" := by
  unfold planForDiscrepancy at h
  cases hcode : d.code <;> simp only [hcode] at h
  case orphanV2ClientOrderAtExchange =>
    cases h
    exact ⟨rfl, rfl⟩
  case snapshotUnavailable => nomatch h
  case manualBaselineDrift => nomatch h
  all_goals
    cases h
    exact absurd ha (by simp)

/-- An action that resubmits a protection is planned for one that is reported. -/
theorem planForDiscrepancy_resubmit {d : Discrepancy} {a : RecoveryAction} (h : planForDiscrepancy d = some a)
    (ha : a.actionType = .resubmitProtection) :
    d.code ∈ [.managedPositionUnprotected, .protectionOrderMissingAtExchange] ∧
      a.targetRef = refOr d.localPositionId d.symbol := by
  unfold planForDiscrepancy at h
  cases hcode : d.code <;> simp only [hcode] at h
  case managedPositionUnprotected =>
    cases h
    exact ⟨by simp, rfl⟩
  case protectionOrderMissingAtExchange =>
    cases h
    exact ⟨by simp, rfl⟩
  case snapshotUnavailable => nomatch h
  case manualBaselineDrift => nomatch h
  all_goals
    cases h
    exact absurd ha (by simp)

/-- The actions that are planned for a discrepancy alone. -/
def discrepancyActions : List RecoveryActionType := [.cancelOrphanProtectionOrder, .resubmitProtection]

/-- Every such action of the plan is one for a discrepancy. -/
def PlannedFor (ds : List Discrepancy) (plan : RecoveryPlan) : Prop :=
  ∀ a ∈ plan.actions, a.actionType ∈ discrepancyActions → ∃ d ∈ ds, planForDiscrepancy d = some a

theorem PlannedFor.resolve {a : RecoveryAction}
    (h : PlannedFor ds plan) (ha : a.actionType ∉ discrepancyActions) : PlannedFor ds (plan.resolve a) := by
  intro b hb htype
  rcases List.mem_append.mp hb with hb | hb
  · exact h b hb htype
  · obtain rfl := List.mem_singleton.mp hb
    exact absurd htype ha

theorem PlannedFor.addDiscrepancy {d : Discrepancy}
    (h : PlannedFor ds plan) (hd : d ∈ ds) : PlannedFor ds (plan.addDiscrepancy d) := by
  unfold RecoveryPlan.addDiscrepancy
  cases hplan : planForDiscrepancy d with
  | none => exact h
  | some a =>
    have hnew : ∀ b ∈ plan.actions ++ [a], b.actionType ∈ discrepancyActions → ∃ d ∈ ds, planForDiscrepancy d = some b := by
      intro b hb htype
      rcases List.mem_append.mp hb with hb | hb
      · exact h b hb htype
      · obtain rfl := List.mem_singleton.mp hb
        exact ⟨d, hd, hplan⟩
    simp only
    split
    · exact hnew
    · exact hnew

theorem PlannedFor.addGhost {keys : List String} {p : LocalPositionView}
    (h : PlannedFor ds plan) : PlannedFor ds (plan.addGhost keys p) := by
  unfold RecoveryPlan.addGhost
  split
  · exact h
  · split
    · exact h
    · exact h.resolve (by simp [discrepancyActions])

/-- The cases of a list, one after the other, with the list itself at hand. -/
theorem foldl_discrepancies (l : List Discrepancy) (hl : ∀ d ∈ l, d ∈ ds)
    (h : PlannedFor ds plan) : PlannedFor ds (l.foldl RecoveryPlan.addDiscrepancy plan) := by
  induction l generalizing plan with
  | nil => exact h
  | cons d l ih =>
    exact ih (fun e he => hl e (List.mem_cons_of_mem d he)) (h.addDiscrepancy (hl d List.mem_cons_self))

theorem planRecovery_plannedFor (snapshot : AuthoritativeAccountSnapshot) (incidents : ReconciliationResult)
    (localState : Option LocalStateView) (pendingIntents : List PendingIntentView)
    (emergencyCloses : List EmergencyCloseRequest) :
    PlannedFor incidents.discrepancies (planRecovery snapshot incidents localState pendingIntents emergencyCloses) := by
  unfold planRecovery
  simp only
  have h₁ : PlannedFor incidents.discrepancies (pendingIntents.foldl (fun plan i =>
      plan.resolve (planForIntent (snapshot.pendingOrders.filterMap (·.clientOrderId)) i)) {}) := by
    refine foldl_keeps (P := PlannedFor incidents.discrepancies) (fun plan i h => h.resolve ?_) _ _ nofun
    unfold planForIntent
    split <;> simp [discrepancyActions]
  have h₂ := foldl_discrepancies incidents.discrepancies (fun d hd => hd) h₁
  have h₃ := foldl_keeps (P := PlannedFor incidents.discrepancies)
    (f := fun plan (r : EmergencyCloseRequest) => plan.resolve (r.action "emergency close pending: "))
    (fun plan r h => h.resolve (by simp [EmergencyCloseRequest.action, discrepancyActions])) emergencyCloses _ h₂
  split
  · exact h₃
  · exact foldl_keeps (P := PlannedFor incidents.discrepancies) (fun plan p h => h.addGhost) _ _ h₃

end RecoveryAux

/-- Recovery cancels an order only if reconciliation reported it as an orphan. -/
theorem recoverPendingState_cancels {snapshot : AuthoritativeAccountSnapshot} {incidents : ReconciliationResult}
    {localState : Option LocalStateView} {pendingIntents : List PendingIntentView}
    {emergencyCloses : List EmergencyCloseRequest} {a : RecoveryAction}
    (h : a ∈ (recoverPendingState (some snapshot) incidents localState pendingIntents emergencyCloses).actions)
    (ha : a.actionType = .cancelOrphanProtectionOrder) :
    ∃ d ∈ incidents.discrepancies, d.code = .orphanV2ClientOrderAtExchange ∧
      a.targetRef = textOr d.exchangeRef "unknown" := by
  obtain ⟨d, hd, hplan⟩ := planRecovery_plannedFor snapshot incidents localState pendingIntents emergencyCloses a h
    (by simp [discrepancyActions, ha])
  exact ⟨d, hd, planForDiscrepancy_cancel hplan ha⟩

/-- Recovery resubmits a protection only if reconciliation reported it. -/
theorem recoverPendingState_resubmits {snapshot : AuthoritativeAccountSnapshot} {incidents : ReconciliationResult}
    {localState : Option LocalStateView} {pendingIntents : List PendingIntentView}
    {emergencyCloses : List EmergencyCloseRequest} {a : RecoveryAction}
    (h : a ∈ (recoverPendingState (some snapshot) incidents localState pendingIntents emergencyCloses).actions)
    (ha : a.actionType = .resubmitProtection) :
    ∃ d ∈ incidents.discrepancies, d.code ∈ [.managedPositionUnprotected, .protectionOrderMissingAtExchange] ∧
      a.targetRef = refOr d.localPositionId d.symbol := by
  obtain ⟨d, hd, hplan⟩ := planRecovery_plannedFor snapshot incidents localState pendingIntents emergencyCloses a h
    (by simp [discrepancyActions, ha])
  exact ⟨d, hd, planForDiscrepancy_resubmit hplan ha⟩

end TradingPlatform
