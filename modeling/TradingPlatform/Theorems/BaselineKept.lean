import TradingPlatform.Lemmas.Sent
import TradingPlatform.Theorems.LostStop

/-!
# What is sold of a baseline

The exchange holds a managed position and, on the same side, a baseline that an operator captured. An order of a protection that
is larger than the managed position reaches into the baseline.
-/

namespace TradingPlatform

/-! ## The statement -/

/-- The operations that submit stops, targets and emergency orders for a position. -/
inductive ProtectionAct where
  /-- The protection of a confirmed entry, in its cycle. -/
  | entry (c : ConfirmedEntry) (attempt : ℕ)
  /-- `_resubmit_protection`. -/
  | resubmission (snapshot : AuthoritativeAccountSnapshot) (action : RecoveryAction)
  /-- The adoption of a fill in `_recover_confirmed_v2_entry_gap`. -/
  | gap (r : GapRequest) (a : GapAdoption)
  /-- A replacement of `_apply_profit_protection`. -/
  | tightening (p : LocalPositionView) (t : Tightening)

namespace ProtectionAct

/-- The operation. -/
def run (w : World) : ProtectionAct → World
  | entry c attempt => (protectEntry w c attempt).2
  | resubmission snapshot action => (resubmitProtection w snapshot action).2
  | gap r a => (adoptGap w r a).2
  | tightening p t => (tightenStop w p t).2

/-- The quantity of the managed position: the fill of an entry, the local row, the row with the fill it adopts. -/
def managedQuantity (w : World) : ProtectionAct → ℚ
  | entry c _ => c.entryResult.filledQuantity
  | resubmission _ action => (w.db.position action.targetRef).elim 0 (·.quantity)
  | gap r a => (a.existing w.db r).elim 0 (·.quantity) + a.entryResult.filledQuantity
  | tightening p _ => p.quantity

/-- The quantity a plan is made for: the fill, or what the exchange holds on the side of the position. -/
def plannedQuantity (w : World) : ProtectionAct → ℚ
  | entry c _ => c.entryResult.filledQuantity
  | resubmission snapshot action =>
    ((w.db.position action.targetRef).bind fun p => snapshot.positionOf p.symbol p.direction).elim 0 (·.quantity)
  | gap r a => if (a.existing w.db r).isSome then a.exchangeQuantity else a.entryResult.filledQuantity
  | tightening p _ => p.quantity

/-- The plan that is handed to `ensure_protection`, if it comes to that. -/
def plan (w : World) : ProtectionAct → Option ProtectionPlan
  | entry c attempt => (c.plan w.db.uuid4.1 attempt).toOption
  | resubmission snapshot action => (plannedResubmission w.db snapshot action.targetRef).toOption.join
  | gap r a => if a.shouldProject w.db r then (a.plan w.db r).toOption else none
  | tightening _ _ => none

/-- No order that is sent is larger than the managed position. -/
def KeepsBaseline (w : World) (act : ProtectionAct) : Prop :=
  ∀ r ∈ w.exchange.sentSince (act.run w).exchange, r.amount ≤ act.managedQuantity w

/-- A plan that reaches the exchange is for no more than the managed position, and no retry takes up a larger live quantity. -/
def WithinManaged (w : World) (act : ProtectionAct) : Prop :=
  ∀ plan, act.plan w = some plan →
    (w.exchange.Reaches → act.plannedQuantity w ≤ act.managedQuantity w) ∧
      ¬RetriesBeyond w.exchange plan (act.managedQuantity w)

end ProtectionAct

/-! ## The plans -/

namespace BaselineAux

theorem buildProtectionPlan_quantity {positionId : String} {candidate : TradeCandidate} {price quantity tickSize : ℚ}
    {attempt : ℕ} {plan : ProtectionPlan}
    (h : buildProtectionPlan positionId candidate price quantity tickSize attempt = .ok plan) : plan.quantity = quantity := by
  obtain ⟨_, _, _, _, -, -, h⟩ := buildProtectionPlan_check h
  exact (check_terms h).2.1

theorem plannedResubmission_quantity {db : Database} {snapshot : AuthoritativeAccountSnapshot} {positionId : String}
    {plan : ProtectionPlan} (h : plannedResubmission db snapshot positionId = .ok (some plan)) :
    plan.quantity = ((db.position positionId).bind fun p => snapshot.positionOf p.symbol p.direction).elim 0 (·.quantity) := by
  unfold plannedResubmission at h
  split at h
  · nomatch h
  · rename_i position hposition
    split at h
    · nomatch h
    · split at h
      · nomatch h
      · rename_i previous _ _ e he
        split at h
        · nomatch h
        · rw [hposition, Option.bind_some, he]
          cases hplan : resubmissionPlan position previous e.quantity with
          | error _ =>
            rw [hplan] at h
            nomatch h
          | ok made =>
            rw [hplan] at h
            cases Except.ok.inj h
            unfold resubmissionPlan at hplan
            dsimp only at hplan
            obtain ⟨stopId, -, hplan⟩ := Loops.bind_eq_ok.mp hplan
            obtain ⟨tpId, -, hplan⟩ := Loops.bind_eq_ok.mp hplan
            exact (check_terms hplan).2.1

/-- A plan of an operation is for a position with an id, and for the quantity of the operation. -/
theorem plan_spec {w : World} {act : ProtectionAct} {plan : ProtectionPlan} (h : act.plan w = some plan) :
    plan.positionId ≠ "" ∧ plan.quantity = act.plannedQuantity w := by
  have hnonempty : plan.Minted → plan.positionId ≠ "" := fun hminted => positionId_ne_empty_of_stop hminted.stop
  cases act with
  | entry c attempt =>
    have hplan : c.plan w.db.uuid4.1 attempt = .ok plan := Loops.toOption_eq_some.mp h
    exact ⟨hnonempty (buildProtectionPlan_ok hplan).2.2, buildProtectionPlan_quantity hplan⟩
  | resubmission snapshot action =>
    have hplan : plannedResubmission w.db snapshot action.targetRef = .ok (some plan) :=
      Loops.toOption_eq_some.mp (Option.join_eq_some_iff.mp h)
    exact ⟨hnonempty (plannedResubmission_ok hplan).2, plannedResubmission_quantity hplan⟩
  | gap r a =>
    unfold ProtectionAct.plan at h
    dsimp only at h
    split at h
    · have hplan : a.plan w.db r = .ok plan := Loops.toOption_eq_some.mp h
      exact ⟨hnonempty (buildProtectionPlan_ok hplan).2.2, buildProtectionPlan_quantity hplan⟩
    · nomatch h
  | tightening p t => nomatch h

/-- What an operation with a plan leaves of the exchange is what `ensure_protection` leaves, and without a plan nothing
happens. -/
theorem run_exchange (w : World) {act : ProtectionAct} (hact : ∀ p t, act ≠ .tightening p t) :
    (act.run w).exchange = (act.plan w).elim w.exchange fun plan => (ensureProtection w.exchange plan).2 := by
  cases act with
  | entry c attempt =>
    change (protectPlan w.exchange (c.plan w.db.uuid4.1 attempt)).2.2 =
      ((c.plan w.db.uuid4.1 attempt).toOption).elim w.exchange _
    cases c.plan w.db.uuid4.1 attempt with
    | error e => rfl
    | ok plan =>
      unfold protectPlan
      dsimp only [Except.toOption, Option.elim]
      split
      · rename_i heq
        rw [heq]
      · rename_i heq
        rw [heq]
  | resubmission snapshot action =>
    change (resubmitProtection w snapshot action).2.exchange =
      (plannedResubmission w.db snapshot action.targetRef).toOption.join.elim w.exchange _
    unfold resubmitProtection
    cases plannedResubmission w.db snapshot action.targetRef with
    | error e => rfl
    | ok planned =>
      cases planned with
      | none => rfl
      | some plan =>
        change (submitResubmission w action plan).2.exchange = (ensureProtection w.exchange plan).2
        unfold submitResubmission
        split
        · rename_i heq
          rw [heq]
        · rename_i result exchange heq
          rw [heq]
          split
          · unfold handled
            split <;> rfl
          · rfl
  | gap r a =>
    change (adoptGap w r a).2.exchange =
      (if a.shouldProject w.db r then (a.plan w.db r).toOption else none).elim w.exchange _
    unfold adoptGap
    by_cases hproject : a.shouldProject w.db r = true
    · rw [if_pos hproject, if_pos hproject]
      cases a.plan w.db r with
      | error e => rfl
      | ok plan =>
        dsimp only [Except.toOption, Option.elim]
        split
        · rename_i heq
          rw [heq]
        · rename_i result exchange heq
          rw [heq]
          split
          · rfl
          · unfold GapAdoption.persist
            split <;> rfl
    · rw [if_neg hproject, if_neg hproject]
      split
      · rfl
      · unfold GapAdoption.persist
        split <;> rfl
  | tightening p t => exact absurd rfl (hact p t)

/-- A replacement sends an order of the quantity of its position. -/
theorem tightening_keeps (w : World) (p : LocalPositionView) (t : Tightening) : (ProtectionAct.tightening p t).KeepsBaseline w := by
  have hnone : ∀ x : Exchange, x.sent = w.exchange.sent → ∀ r ∈ w.exchange.sentSince x, r.amount ≤ p.quantity := by
    intro x hx r hr
    unfold Exchange.sentSince at hr
    rw [hx, List.drop_length] at hr
    nomatch hr
  unfold ProtectionAct.KeepsBaseline ProtectionAct.run tightenStop
  dsimp only
  split
  · exact hnone _ rfl
  · rename_i clientOrderId _
    have hsubmit : ∀ side, SentOf p.quantity w.exchange.Reaches w.exchange
        (submitStopReplacement w.exchange p.symbol side p.quantity t.safeStop clientOrderId).2 :=
      fun side => submitStopReplacement_sentOf w.exchange p.symbol side p.quantity t.safeStop clientOrderId
    split
    · rename_i e x₁ heq
      have hsent : SentOf p.quantity w.exchange.Reaches w.exchange x₁ := by
        have hx : _ = x₁ := congrArg Prod.snd heq
        rw [← hx]
        exact hsubmit _
      exact (hsent.within_iff p.quantity).mpr fun _ => le_refl _
    · rename_i receipt x₁ heq
      have hsent : SentOf p.quantity w.exchange.Reaches w.exchange x₁ := by
        have hx : _ = x₁ := congrArg Prod.snd heq
        rw [← hx]
        exact hsubmit _
      have hcancel := cancelOrder_sent x₁ t.oldStopExchangeOrderId
      split
      · rename_i e x₂ heq'
        rw [heq'] at hcancel
        exact ((hsent.congr hcancel).within_iff p.quantity).mpr fun _ => le_refl _
      · rename_i x₂ heq'
        rw [heq'] at hcancel
        exact ((hsent.congr hcancel).within_iff p.quantity).mpr fun _ => le_refl _

end BaselineAux

open BaselineAux

/-- An operation never sends an order beyond the managed position exactly if its plan is for no more than that and no retry takes
up more. -/
theorem keepsBaseline_iff (w : World) (act : ProtectionAct) : act.KeepsBaseline w ↔ act.WithinManaged w := by
  by_cases htightening : ∃ p t, act = .tightening p t
  · obtain ⟨p, t, rfl⟩ := htightening
    exact iff_of_true (tightening_keeps w p t) fun plan hplan => nomatch hplan
  · have hact : ∀ p t, act ≠ .tightening p t := fun p t h => htightening ⟨p, t, h⟩
    unfold ProtectionAct.KeepsBaseline ProtectionAct.WithinManaged
    rw [run_exchange w hact]
    cases hplan : act.plan w with
    | none =>
      refine iff_of_true (fun r hr => ?_) fun plan h => nomatch h
      unfold Exchange.sentSince at hr
      rw [Option.elim_none, List.drop_length] at hr
      nomatch hr
    | some plan =>
      obtain ⟨hid, hquantity⟩ := plan_spec hplan
      rw [Option.elim_some, ensureProtection_within_iff hid, hquantity]
      simp only [Option.some.injEq, forall_eq']

/-! ## A position of one on a baseline of two -/

namespace BaselineAux

/-- The account: the position that `filledRecords` knows, and a baseline of two on its side. -/
def baselineAccount : AuthoritativeAccountSnapshot where
  positions := [{ symbol := "BTCUSDT", direction := .long, quantity := 1 + 2, markPrice := 100 }]

/-- The stop of the position is gone. -/
def lostStopAction : RecoveryAction where
  actionType := .resubmitProtection
  targetRef := "position-1"
  symbol := some "BTCUSDT"
  reason := "stop missing"

/-- An exchange that accepts every order. -/
def acceptingExchange : Exchange where
  behaviour := fun _ => .answered "9" true (some "open")

/-- The resubmission sends an order of three. -/
theorem resubmission_sells_baseline :
    (acceptingExchange.sentSince (ProtectionAct.run { db := LostStopAux.filledRecords, exchange := acceptingExchange }
      (.resubmission baselineAccount lostStopAction)).exchange).any (fun r => decide (1 < r.amount)) = true := by
  decide +kernel

end BaselineAux

/-- A resubmission sells a captured baseline with the position. -/
theorem keepsBaseline_false :
    ¬∀ (w : World) (snapshot : AuthoritativeAccountSnapshot) (action : RecoveryAction) (position : PositionRow) (baseline : ℚ),
      w.db.position action.targetRef = some position → 0 ≤ baseline →
        (snapshot.positionOf position.symbol position.direction).map (·.quantity) = some (position.quantity + baseline) →
          (ProtectionAct.resubmission snapshot action).KeepsBaseline w := by
  intro h
  have hkeeps := h { db := LostStopAux.filledRecords, exchange := acceptingExchange } baselineAccount lostStopAction _ 2 rfl
    (by norm_num) rfl
  obtain ⟨r, hr, hlarger⟩ := List.any_eq_true.mp resubmission_sells_baseline
  have hone : r.amount ≤ 1 := hkeeps r hr
  exact absurd (of_decide_eq_true hlarger) (not_lt.mpr hone)

end TradingPlatform
