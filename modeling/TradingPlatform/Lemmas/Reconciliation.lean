import Mathlib.Tactic.Linarith
import TradingPlatform.Lib.Loops
import TradingPlatform.Engine.Reconciliation

/-!
# What the loops of `reconcile` find

For each loop, when one item adds no discrepancy; then, by the rule for loops, when the whole loop adds none. The result is
`reconcile_clean_iff`: nothing is found exactly if every item of every loop is clean.
-/

namespace TradingPlatform

open Loops

/-- A position key determines the symbol and the direction: the direction is what follows the last colon. -/
theorem positionKey_inj {s s' : String} {d d' : Direction} (h : positionKey s d = positionKey s' d') : s = s' ∧ d = d' := by
  have hl : s.toList ++ ':' :: d.value.toList = s'.toList ++ ':' :: d'.value.toList := by
    have h' := congrArg String.toList h
    simpa [positionKey, List.append_assoc] using h'
  cases d <;> cases d' <;> simp only [Direction.value] at hl
  · exact ⟨String.toList_inj.mp (List.append_cancel_right hl), rfl⟩
  · have hlast := congrArg List.getLast? hl
    simp at hlast
  · have hlast := congrArg List.getLast? hl
    simp at hlast
  · exact ⟨String.toList_inj.mp (List.append_cancel_right hl), rfl⟩

namespace ReconcileAux

@[simp] theorem report_discrepancies (f : Findings) (d : Discrepancy) (refs : List String) :
    (f.report d refs).discrepancies = f.discrepancies ++ [d] := rfl

@[simp] theorem report_matched (f : Findings) (d : Discrepancy) (refs : List String) :
    (f.report d refs).matchedPositionIds = f.matchedPositionIds := rfl

@[simp] theorem reportIf_matched (f : Findings) (c : Bool) (d : Discrepancy) (refs : List String) :
    (f.reportIf c d refs).matchedPositionIds = f.matchedPositionIds := by
  cases c <;> rfl

/-- A conditional finding leaves nothing found exactly if nothing was found and the condition fails. -/
theorem reportIf_clean (f : Findings) (c : Bool) (d : Discrepancy) (refs : List String) :
    (f.reportIf c d refs).discrepancies = [] ↔ f.discrepancies = [] ∧ c = false := by
  cases c <;> simp [Findings.reportIf]

/-- A conditional finding is among the findings under its condition. -/
theorem mem_reportIf {f : Findings} {c : Bool} {d x : Discrepancy} {refs : List String} :
    x ∈ (f.reportIf c d refs).discrepancies ↔ x ∈ f.discrepancies ∨ c = true ∧ x = d := by
  cases c <;> simp [Findings.reportIf]

/-! ## One item of each loop -/

/-- The intent has no confirmed fill without a position and no quarantined lifecycle. -/
def IntentClean (i : LocalIntentView) : Prop := i.hasConfirmedEntryFill = false ∧ i.hasQuarantinedLifecycle = false

theorem reconcileIntent_clean (f : Findings) (i : LocalIntentView) :
    (reconcileIntent f i).discrepancies = [] ↔ f.discrepancies = [] ∧ IntentClean i := by
  simp only [reconcileIntent, reportIf_clean, IntentClean, and_assoc]

/-- A claimed exchange position passes every check against the local position. -/
def ClaimClean (snapshot : AuthoritativeAccountSnapshot) (l : LocalStateView) (e : ExchangePositionSnapshot)
    (p : LocalPositionView) : Prop :=
  p.direction = e.direction ∧ |p.quantity + (l.baselineOf e).getD 0 - e.quantity| ≤ quantityTolerance ∧
    p.hasActiveProtection = true ∧ missingProtection snapshot p = []

theorem reconcileClaimed_clean (snapshot : AuthoritativeAccountSnapshot) (l : LocalStateView) (f : Findings)
    (e : ExchangePositionSnapshot) (p : LocalPositionView) :
    (reconcileClaimed snapshot l f e p).discrepancies = [] ↔ f.discrepancies = [] ∧ ClaimClean snapshot l e p := by
  simp only [reconcileClaimed, reportIf_clean, ClaimClean]
  cases h : p.hasActiveProtection
  · simp
  · simp [and_assoc]

theorem reconcileClaimed_matched (snapshot : AuthoritativeAccountSnapshot) (l : LocalStateView) (f : Findings)
    (e : ExchangePositionSnapshot) (p : LocalPositionView) :
    (reconcileClaimed snapshot l f e p).matchedPositionIds = f.matchedPositionIds ++ [p.positionId] := by
  simp only [reconcileClaimed, reportIf_matched]

/-- An exchange position is not below its baseline and is claimed cleanly, or is the baseline itself. -/
def ExchangeClean (snapshot : AuthoritativeAccountSnapshot) (l : LocalStateView) (refs : ClaimRefs)
    (e : ExchangePositionSnapshot) : Prop :=
  driftsBelow (l.baselineOf e) e.quantity = false ∧
    ((claimedBy l refs e = none ∧ equalsBaseline (l.baselineOf e) e.quantity = true) ∨
      ∃ p, claimedBy l refs e = some p ∧ ClaimClean snapshot l e p)

theorem reconcileExchangePosition_clean (snapshot : AuthoritativeAccountSnapshot) (l : LocalStateView) (refs : ClaimRefs)
    (f : Findings) (e : ExchangePositionSnapshot) :
    (reconcileExchangePosition snapshot l refs f e).discrepancies = [] ↔
      f.discrepancies = [] ∧ ExchangeClean snapshot l refs e := by
  unfold reconcileExchangePosition ExchangeClean
  cases hclaim : claimedBy l refs e with
  | some p =>
    simp only [reconcileClaimed_clean, reportIf_clean, and_assoc, reduceCtorEq, false_and, false_or, Option.some.injEq,
      exists_eq_left']
  | none =>
    simp only [reduceCtorEq, false_and, exists_false, or_false, true_and]
    cases hdrift : driftsBelow (l.baselineOf e) e.quantity <;>
      cases hbase : equalsBaseline (l.baselineOf e) e.quantity <;> simp [Findings.reportIf]

/-- The ids the loop matches: those of the positions that claim an exchange position. -/
theorem reconcileExchangePosition_matched (snapshot : AuthoritativeAccountSnapshot) (l : LocalStateView) (refs : ClaimRefs)
    (id : String) (f : Findings) (e : ExchangePositionSnapshot) :
    id ∈ (reconcileExchangePosition snapshot l refs f e).matchedPositionIds ↔
      id ∈ f.matchedPositionIds ∨ ∃ p, claimedBy l refs e = some p ∧ p.positionId = id := by
  unfold reconcileExchangePosition
  cases hclaim : claimedBy l refs e with
  | some p => simp [reconcileClaimed_matched, eq_comm]
  | none =>
    cases hdrift : driftsBelow (l.baselineOf e) e.quantity <;>
      cases hbase : equalsBaseline (l.baselineOf e) e.quantity <;> simp [Findings.reportIf]

/-- An open local position is matched. -/
def LocalClean (matched : List String) (p : LocalPositionView) : Prop :=
  p.state ≠ .closed → p.state ≠ .quarantined → p.positionId ∈ matched

theorem reconcileLocalPosition_clean (matched : List String) (f : Findings) (p : LocalPositionView) :
    ((reconcileLocalPosition f p).discrepancies = [] ∧ (reconcileLocalPosition f p).matchedPositionIds = matched) ↔
      (f.discrepancies = [] ∧ f.matchedPositionIds = matched) ∧ LocalClean matched p := by
  simp only [reconcileLocalPosition, reportIf_clean, reportIf_matched, LocalClean, decide_eq_false_iff_not, not_and,
    not_not]
  constructor
  · rintro ⟨⟨hf, hp⟩, rfl⟩
    exact ⟨⟨hf, rfl⟩, hp⟩
  · rintro ⟨⟨hf, rfl⟩, hp⟩
    exact ⟨⟨hf, hp⟩, rfl⟩

theorem reconcileBaseline_clean (snapshot : AuthoritativeAccountSnapshot) (f : Findings)
    (entry : Sigma fun _ : String => ℚ) :
    (∃ f', reconcileBaseline snapshot f entry = .ok f' ∧ f'.discrepancies = []) ↔
      f.discrepancies = [] ∧ entry.1 ∈ snapshot.positions.map (·.key) := by
  unfold reconcileBaseline
  by_cases hkey : entry.1 ∈ snapshot.positions.map (·.key)
  · simp [hkey]
  · simp only [hkey, if_false, bind_eq_ok, and_false, iff_false, not_exists, not_and]
    rintro f' ⟨⟨symbol, direction⟩, -, hf⟩
    cases hf
    simp

/-- The order carries a client id that is known locally or is not of this engine. -/
def OrderClean (l : LocalStateView) (o : ExchangeOrderSnapshot) : Prop :=
  ∃ c, o.clientOrderId = some c ∧ (c ∈ l.knownClientOrderIds ∨ isV2ClientOrderId c = false)

theorem reconcileOrder_clean (l : LocalStateView) (f : Findings) (o : ExchangeOrderSnapshot) :
    (reconcileOrder l f o).discrepancies = [] ↔ f.discrepancies = [] ∧ OrderClean l o := by
  unfold reconcileOrder OrderClean
  cases hc : o.clientOrderId with
  | none => simp
  | some c =>
    by_cases hk : c ∈ l.knownClientOrderIds
    · simp [hk]
    · simp [hk, reportIf_clean]

/-! ## Claims -/

/-- The position that claims an exchange position is a local position with an identity among the references. -/
theorem claimedBy_some {l : LocalStateView} {refs : ClaimRefs} {e : ExchangePositionSnapshot} {p : LocalPositionView}
    (h : claimedBy l refs e = some p) :
    p ∈ l.positions ∧ ∃ k ∈ p.claimKeys, k ∈ (refs.lookup e.key).getD [] := by
  unfold claimedBy claimExchangePosition at h
  split at h
  · nomatch h
  · split at h
    · nomatch h
    · rename_i q hq
      have hpq : q = p := by
        split at h <;> exact Option.some.inj h
      subst hpq
      refine ⟨List.mem_of_find?_eq_some hq, ?_⟩
      have hany := List.find?_some hq
      simpa using hany

/-- No order of the protection is missing exactly if all of them are open. -/
theorem missingProtection_eq_nil {snapshot : AuthoritativeAccountSnapshot} {p : LocalPositionView} :
    missingProtection snapshot p = [] ↔
      ∀ id ∈ p.protectionExchangeOrderIds, ∃ o ∈ snapshot.pendingOrders, o.exchangeOrderId = id := by
  simp [missingProtection, List.filter_eq_nil_iff]

/-! ## The whole run of the loops -/

/-- The ids of the local positions that claim an exchange position of the snapshot. -/
theorem mem_matched_iff (snapshot : AuthoritativeAccountSnapshot) (l : LocalStateView) (refs : ClaimRefs) (f : Findings)
    (id : String) :
    id ∈ (snapshot.positions.foldl (reconcileExchangePosition snapshot l refs) f).matchedPositionIds ↔
      id ∈ f.matchedPositionIds ∨ ∃ e ∈ snapshot.positions, ∃ p, claimedBy l refs e = some p ∧ p.positionId = id :=
  foldl_or_iff (P := fun g : Findings => id ∈ g.matchedPositionIds) (reconcileExchangePosition_matched snapshot l refs id)
    snapshot.positions f

theorem foldl_intents_matched (intents : List LocalIntentView) (f : Findings) :
    (intents.foldl reconcileIntent f).matchedPositionIds = f.matchedPositionIds := by
  refine foldl_keeps (P := fun g : Findings => g.matchedPositionIds = f.matchedPositionIds) ?_ intents f rfl
  intro g i hg
  simpa [reconcileIntent] using hg

end ReconcileAux

open ReconcileAux

/-- Every item of every loop of `reconcile` is clean. -/
structure ReconcileClean (snapshot : AuthoritativeAccountSnapshot) (l : LocalStateView) (refs : ClaimRefs) : Prop where
  intents : ∀ i ∈ l.intents, IntentClean i
  exchangePositions : ∀ e ∈ snapshot.positions, ExchangeClean snapshot l refs e
  localPositions : ∀ p ∈ l.positions, p.state ≠ .closed → p.state ≠ .quarantined →
    ∃ e ∈ snapshot.positions, ∃ q, claimedBy l refs e = some q ∧ q.positionId = p.positionId
  baseline : ∀ entry ∈ l.externalBaselinePositions.entries, entry.1 ∈ snapshot.positions.map (·.key)
  orders : ∀ o ∈ snapshot.pendingOrders, OrderClean l o

/-- The loops find nothing exactly if every item is clean. -/
theorem reconcileFindings_clean_iff (snapshot : AuthoritativeAccountSnapshot) (l : LocalStateView) (refs : ClaimRefs) :
    (∃ f, reconcileFindings snapshot l refs = .ok f ∧ f.discrepancies = []) ↔ ReconcileClean snapshot l refs := by
  -- the state of the loops after the exchange positions, whose matched ids the next loop reads
  let f₁ := l.intents.foldl reconcileIntent {}
  let f₂ := snapshot.positions.foldl (reconcileExchangePosition snapshot l refs) f₁
  let f₃ := l.positions.foldl reconcileLocalPosition f₂
  have h₁ : f₁.discrepancies = [] ↔ ∀ i ∈ l.intents, IntentClean i := by
    have h := foldl_iff (P := fun f : Findings => f.discrepancies = []) reconcileIntent_clean l.intents {}
    simpa using h
  have h₂ : f₂.discrepancies = [] ↔ f₁.discrepancies = [] ∧ ∀ e ∈ snapshot.positions, ExchangeClean snapshot l refs e :=
    foldl_iff (P := fun f : Findings => f.discrepancies = []) (reconcileExchangePosition_clean snapshot l refs) _ _
  have hm : f₃.matchedPositionIds = f₂.matchedPositionIds := by
    refine foldl_keeps (P := fun f : Findings => f.matchedPositionIds = f₂.matchedPositionIds) ?_ l.positions f₂ rfl
    intro f p hf
    simpa [reconcileLocalPosition] using hf
  have h₃ : f₃.discrepancies = [] ↔ f₂.discrepancies = [] ∧ ∀ p ∈ l.positions, LocalClean f₂.matchedPositionIds p := by
    have h := foldl_iff (P := fun f : Findings => f.discrepancies = [] ∧ f.matchedPositionIds = f₂.matchedPositionIds)
      (reconcileLocalPosition_clean f₂.matchedPositionIds) l.positions f₂
    simpa only [show (l.positions.foldl reconcileLocalPosition f₂).matchedPositionIds = f₂.matchedPositionIds from hm,
      and_true] using h
  have hl : (∀ p ∈ l.positions, LocalClean f₂.matchedPositionIds p) ↔
      ∀ p ∈ l.positions, p.state ≠ .closed → p.state ≠ .quarantined →
        ∃ e ∈ snapshot.positions, ∃ q, claimedBy l refs e = some q ∧ q.positionId = p.positionId := by
    have hmem : ∀ id, id ∈ f₂.matchedPositionIds ↔
        ∃ e ∈ snapshot.positions, ∃ q, claimedBy l refs e = some q ∧ q.positionId = id := by
      intro id
      rw [mem_matched_iff, foldl_intents_matched]
      simp
    simp only [LocalClean, hmem]
  have h₄ : (∃ f, l.externalBaselinePositions.entries.foldlM (reconcileBaseline snapshot) f₃ = .ok f ∧
      f.discrepancies = []) ↔
        f₃.discrepancies = [] ∧ ∀ x ∈ l.externalBaselinePositions.entries, x.1 ∈ snapshot.positions.map (·.key) :=
    foldlM_iff (P := fun f : Findings => f.discrepancies = []) (reconcileBaseline_clean snapshot) _ f₃
  have h₅ : ∀ f : Findings, (snapshot.pendingOrders.foldl (reconcileOrder l) f).discrepancies = [] ↔
      f.discrepancies = [] ∧ ∀ o ∈ snapshot.pendingOrders, OrderClean l o :=
    foldl_iff (P := fun f : Findings => f.discrepancies = []) (reconcileOrder_clean l) _
  have hfind : (∃ f, reconcileFindings snapshot l refs = .ok f ∧ f.discrepancies = []) ↔
      (∃ f, l.externalBaselinePositions.entries.foldlM (reconcileBaseline snapshot) f₃ = .ok f ∧ f.discrepancies = []) ∧
        ∀ o ∈ snapshot.pendingOrders, OrderClean l o := by
    unfold reconcileFindings
    simp only [bind_eq_ok]
    constructor
    · rintro ⟨f, ⟨g, hg, hf⟩, hd⟩
      cases hf
      exact ⟨⟨g, hg, ((h₅ g).mp hd).1⟩, ((h₅ g).mp hd).2⟩
    · rintro ⟨⟨g, hg, hd⟩, ho⟩
      exact ⟨_, ⟨g, hg, rfl⟩, (h₅ g).mpr ⟨hd, ho⟩⟩
  rw [hfind, h₄, h₃, hl, h₂, h₁]
  constructor
  · rintro ⟨⟨⟨⟨hi, he⟩, hp⟩, hb⟩, ho⟩
    exact ⟨hi, he, hp, hb, ho⟩
  · rintro ⟨hi, he, hp, hb, ho⟩
    exact ⟨⟨⟨⟨hi, he⟩, hp⟩, hb⟩, ho⟩

/-- The status is healthy only if nothing was found. -/
theorem resolveStatus_healthy_iff (ds : List Discrepancy) : resolveStatus ds = .healthy ↔ ds = [] := by
  unfold resolveStatus
  by_cases h : ds = []
  · simp [h]
  · simp only [h, if_false, iff_false]
    split <;> simp

/-- `reconcile` is healthy exactly if every item is clean. -/
theorem reconcile_clean_iff (snapshot : AuthoritativeAccountSnapshot) (l : LocalStateView) (reason : Option String)
    (refs : Option ClaimRefs) :
    (∃ r, reconcile (some snapshot) l reason refs = .ok r ∧ r.status = .healthy) ↔
      ReconcileClean snapshot l (refs.getD ∅) := by
  rw [← reconcileFindings_clean_iff]
  simp only [reconcile, bind_eq_ok]
  constructor
  · rintro ⟨r, ⟨f, hf, hr⟩, hs⟩
    cases hr
    exact ⟨f, hf, (resolveStatus_healthy_iff _).mp hs⟩
  · rintro ⟨f, hf, hd⟩
    exact ⟨_, ⟨f, hf, rfl⟩, (resolveStatus_healthy_iff _).mpr hd⟩

end TradingPlatform
