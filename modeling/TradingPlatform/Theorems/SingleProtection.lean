import TradingPlatform.Domain.Gain
import TradingPlatform.Lemmas.Protection

/-!
# One stop for a position

An active result of `ensure_protection` names one stop. A retry submits under new client ids and cancels nothing, so an
earlier attempt whose stop the exchange accepted leaves a second one open. The protection is single exactly if the first order
the exchange accepts, and the target after it, are answered.
-/

namespace TradingPlatform

/-! ## The statement -/

/-- The open orders of a type that the exchange holds after a call and did not hold before. -/
def openedBy (before after : Exchange) (type : OrderType) : List AcceptedOrder :=
  (after.orders.drop before.orders.length).filter fun a => decide (a.request.type = type ∧ a.status = .pending)

/-- Exactly one stop is open, the one the result names, and at most one target is. -/
def SingleProtection (before after : Exchange) (result : ProtectionResult) : Prop :=
  (∃ a, openedBy before after .stopMarket = [a] ∧ result.stopExchangeOrderId = some a.exchangeOrderId) ∧
    (openedBy before after .takeProfitMarket).length ≤ 1

/-- Whether the attempt with this number, counted from zero, sends a target: the first one takes the plan's client id, a
retry makes one of its own. -/
def ProtectionPlan.sendsTarget (plan : ProtectionPlan) : ℕ → Bool
  | 0 => plan.command.targetLeg.isSome
  | _ + 1 => plan.takeProfitPrice.any fun p => decide (p ≠ 0)

/-- From call `c` on, the first order the exchange accepts is answered, and so is the target after it. -/
def FirstAcceptedAnswered (b : ℕ → CallBehaviour) (c : ℕ) (sendsTarget : ℕ → Bool) : Prop :=
  ∃ j, (∀ i < j, (b (c + i)).acceptedId = none) ∧ (b (c + j)).readableId.isSome = true ∧
    (sendsTarget j = true → (b (c + j + 1)).readableId.isSome = true)

/-! ## Shifting the script -/

namespace SingleAux

theorem firstAccepted_of_none {b : ℕ → CallBehaviour} {c : ℕ} {t : ℕ → Bool} (h : (b c).acceptedId = none) :
    FirstAcceptedAnswered b c t ↔ FirstAcceptedAnswered b (c + 1) fun j => t (j + 1) := by
  constructor
  · rintro ⟨j, hnone, hread, htarget⟩
    cases j with
    | zero =>
      obtain ⟨id, hid⟩ := Option.isSome_iff_exists.mp hread
      rw [Nat.add_zero] at hid
      rw [CallBehaviour.acceptedId_of_readable hid] at h
      nomatch h
    | succ j =>
      refine ⟨j, fun i hi => ?_, ?_, fun ht => ?_⟩
      · rw [show c + 1 + i = c + (i + 1) by omega]
        exact hnone (i + 1) (by omega)
      · rw [show c + 1 + j = c + (j + 1) by omega]
        exact hread
      · rw [show c + 1 + j + 1 = c + (j + 1) + 1 by omega]
        exact htarget ht
  · rintro ⟨j, hnone, hread, htarget⟩
    refine ⟨j + 1, fun i hi => ?_, ?_, fun ht => ?_⟩
    · cases i with
      | zero => exact h
      | succ i =>
        rw [show c + (i + 1) = c + 1 + i by omega]
        exact hnone i (by omega)
    · rw [show c + (j + 1) = c + 1 + j by omega]
      exact hread
    · rw [show c + (j + 1) + 1 = c + 1 + j + 1 by omega]
      exact htarget ht

theorem firstAccepted_of_some {b : ℕ → CallBehaviour} {c : ℕ} {t : ℕ → Bool} {id : String}
    (h : (b c).acceptedId = some id) :
    FirstAcceptedAnswered b c t ↔
      (b c).readableId.isSome = true ∧ (t 0 = true → (b (c + 1)).readableId.isSome = true) := by
  constructor
  · rintro ⟨j, hnone, hread, htarget⟩
    cases j with
    | zero => exact ⟨hread, htarget⟩
    | succ j =>
      have h0 := hnone 0 (Nat.succ_pos j)
      rw [Nat.add_zero, h] at h0
      nomatch h0
  · rintro ⟨hread, htarget⟩
    exact ⟨0, fun i hi => absurd hi (Nat.not_lt_zero i), hread, htarget⟩

/-! ## The ladder -/

/-- A validated client id is not empty. -/
theorem targetClientOrderId_ne_empty {positionId c : String} {revision : ℕ}
    (h : targetClientOrderId positionId revision = .ok c) : c ≠ "" := by
  unfold targetClientOrderId protectionClientOrderId validateClientOrderId at h
  split at h
  · nomatch h
  · split at h
    · nomatch h
    · split at h
      · nomatch h
      · split at h
        · nomatch h
        · rename_i hne
          cases h
          intro hempty
          exact hne (Or.inl (by rw [hempty]; rfl))

/-- A retry sends what the plan says a retry sends, and changes neither the symbol nor the direction. -/
theorem retry_sendsTarget {plan plan' : ProtectionPlan} {q : ℚ} {hq : 0 < q} {attempt : ℕ}
    (h : plan.retry q hq attempt = .ok plan') (j : ℕ) : plan'.sendsTarget j = plan.sendsTarget (j + 1) := by
  unfold ProtectionPlan.retry at h
  rw [Loops.bind_eq_ok] at h
  obtain ⟨stopId, -, h⟩ := h
  rw [Loops.bind_eq_ok] at h
  obtain ⟨targetId, htarget, h⟩ := h
  cases h
  cases j with
  | succ j => rfl
  | zero =>
    simp only [ProtectionPlan.sendsTarget, ProtectionPlan.command, SubmitProtectionOrders.targetLeg]
    unfold targetIdFor at htarget
    cases hprice : plan.takeProfitPrice with
    | none => simp
    | some p =>
      rw [hprice] at htarget
      by_cases hzero : p = 0
      · simp only [hzero, if_true] at htarget
        cases htarget
        simp [hzero]
      · simp only [hzero, if_false] at htarget
        cases hid : targetClientOrderId plan.positionId attempt with
        | error e =>
          rw [hid] at htarget
          nomatch htarget
        | ok id =>
          rw [hid] at htarget
          cases htarget
          simp [hzero, targetClientOrderId_ne_empty hid]

/-- The stops, or the targets, among the orders. -/
def ofType (type : OrderType) (orders : List AcceptedOrder) : List AcceptedOrder :=
  orders.filter fun a => decide (a.request.type = type ∧ a.status = .pending)

theorem ofType_append (type : OrderType) (l l' : List AcceptedOrder) :
    ofType type (l ++ l') = ofType type l ++ ofType type l' := List.filter_append _ _

/-- The orders added under an active result hold one stop, the one named, and at most one target. -/
def SingleIn (added : List AcceptedOrder) (result : ProtectionResult) : Prop :=
  (∃ a, ofType .stopMarket added = [a] ∧ result.stopExchangeOrderId = some a.exchangeOrderId) ∧
    (ofType .takeProfitMarket added).length ≤ 1

/-- The submission of one attempt, in terms of what it adds. -/
theorem submitProtection_cases {x x' : Exchange} {plan : ProtectionPlan}
    {out : Except PyError (ExchangeOrderReceipt × Option ExchangeOrderReceipt)}
    (h : submitProtection x plan.command plan.symbol plan.protectionSide plan.quantity = (out, x')) :
    x.SameScript x' ∧
      ((∃ receipts, out = .ok receipts ∧ ∃ added, x'.orders = x.orders ++ added ∧
          (x.behaviour x.calls).readableId = some receipts.1.exchangeOrderId ∧
          (plan.sendsTarget 0 = true → (x.behaviour (x.calls + 1)).readableId.isSome = true) ∧
          (∃ a, ofType .stopMarket added = [a] ∧ a.exchangeOrderId = receipts.1.exchangeOrderId) ∧
          (ofType .takeProfitMarket added).length ≤ 1) ∨
        (∃ e, out = .error e ∧ (x.gatewayError ≠ none ∨
          ((x.behaviour x.calls).acceptedId = none ∧ x'.calls = x.calls + 1 ∧ x'.orders = x.orders) ∨
          ∃ id added, (x.behaviour x.calls).acceptedId = some id ∧ x'.orders = x.orders ++ added ∧
            (ofType .stopMarket added).length = 1 ∧
            ¬((x.behaviour x.calls).readableId.isSome = true ∧
              (plan.sendsTarget 0 = true → (x.behaviour (x.calls + 1)).readableId.isSome = true))))) := by
  unfold submitProtection at h
  split at h
  · rename_i message hgateway
    cases h
    exact ⟨Exchange.SameScript.refl _, Or.inr ⟨_, rfl, Or.inl (by rw [hgateway]; exact nofun)⟩⟩
  · split at h
    · rename_i e x₁ hlegs
      cases h
      obtain ⟨hscript, hcase⟩ := submitProtectionLegs_error hlegs
      refine ⟨hscript, Or.inr ⟨_, rfl, Or.inr ?_⟩⟩
      rcases hcase with hnone | ⟨id, rest, haccepted, horders, hrest, hunread⟩
      · exact Or.inl hnone
      · refine Or.inr ⟨id, _, haccepted, horders, ?_, hunread⟩
        have hnil : ofType .stopMarket rest = [] := by
          refine List.filter_eq_nil_iff.mpr fun a ha => ?_
          simp [hrest a ha]
        rw [← List.singleton_append, ofType_append, hnil, List.append_nil]
        rfl
    · rename_i receipts x₁ hlegs
      cases h
      obtain ⟨stop, target⟩ := receipts
      obtain ⟨hscript, hread, -, hcase⟩ := submitProtectionLegs_ok hlegs
      refine ⟨hscript, Or.inl ⟨_, rfl, ?_⟩⟩
      rcases hcase with ⟨hleg, -, horders⟩ | ⟨price, clientOrderId, receipt, hleg, -, hread₂, horders⟩
      · refine ⟨_, horders, hread, ?_, ⟨_, rfl, rfl⟩, by simp [ofType, SubmitProtectionOrders.stopRequest]⟩
        intro hsends
        rw [ProtectionPlan.sendsTarget, hleg] at hsends
        nomatch hsends
      · exact ⟨_, horders, hread, fun _ => by rw [hread₂]; rfl, ⟨_, rfl, rfl⟩,
          by simp [ofType, SubmitProtectionOrders.stopRequest, targetRequest]⟩

/-- The ladder from any attempt on: an active result added a stop, and a single one exactly if the first order accepted from
here on is answered. -/
theorem protectionAttempts_single_iff (maxAttempts n : ℕ) (plan : ProtectionPlan) (actions : List ProtectionFailureAction)
    (x : Exchange) (result : ProtectionResult) (h : (protectionAttempts maxAttempts n plan actions x).1 = .ok result)
    (hactive : result.outcome = .active) :
    ∃ added, (protectionAttempts maxAttempts n plan actions x).2.orders = x.orders ++ added ∧
      ofType .stopMarket added ≠ [] ∧
      (SingleIn added result ↔ FirstAcceptedAnswered x.behaviour x.calls plan.sendsTarget) := by
  induction n generalizing plan actions x with
  | zero => exact absurd hactive (escalateEmergency_not_active h)
  | succ n ih =>
    rcases protectionAttempts_active h hactive with ⟨stop, target, x₁, hsubmit, -, hresult, heq⟩ |
      ⟨e, x₁, q, hq, x₂, plan', hsubmit, hread, hretry, -, heq⟩
    · obtain ⟨-, hcase⟩ := submitProtection_cases hsubmit
      rcases hcase with ⟨receipts, hok, added, horders, hid, htarget, ⟨a, hstop, ha⟩, hle⟩ | ⟨e, herr, -⟩
      · cases hok
        refine ⟨added, by rw [heq, horders], by rw [hstop]; exact nofun, ?_⟩
        rw [firstAccepted_of_some (CallBehaviour.acceptedId_of_readable hid)]
        refine iff_of_true ⟨⟨a, hstop, ?_⟩, hle⟩ ⟨by rw [hid]; rfl, htarget⟩
        rw [hresult, ha]
      · nomatch herr
    · obtain ⟨hscript, hcase⟩ := submitProtection_cases hsubmit
      obtain ⟨hscript₂, hcalls₂, horders₂⟩ := exchangeQuantityFor_frame hread
      rw [heq] at h ⊢
      obtain ⟨added, horders, hstops, hiff⟩ := ih plan' _ x₂ h
      rw [(hscript.trans hscript₂).behaviour, hcalls₂,
        show plan'.sendsTarget = fun j => plan.sendsTarget (j + 1) from funext (retry_sendsTarget hretry)] at hiff
      rcases hcase with ⟨receipts, hok, -⟩ | ⟨e', -, hgateway | ⟨hnone, hcalls, horders₁⟩ |
        ⟨id, first, haccepted, horders₁, hone, hunread⟩⟩
      · nomatch hok
      · exact absurd (exchangeQuantityFor_gateway hread) (hscript.gatewayError ▸ hgateway)
      · refine ⟨added, by rw [horders, horders₂, horders₁], hstops, ?_⟩
        rw [hiff, hcalls, ← firstAccepted_of_none hnone]
      · -- the earlier stop stays open beside the one that became active
        refine ⟨first ++ added, by rw [horders, horders₂, horders₁, List.append_assoc], ?_, ?_⟩
        · rw [ofType_append]
          exact fun hnil => hstops (List.append_eq_nil_iff.mp hnil).2
        · rw [firstAccepted_of_some haccepted]
          refine iff_of_false ?_ hunread
          rintro ⟨⟨a, ha, -⟩, -⟩
          have hlen := congrArg List.length ha
          rw [ofType_append, List.length_append, hone, List.length_singleton] at hlen
          exact hstops (List.length_eq_zero_iff.mp (by omega))

end SingleAux

open SingleAux

/-- An active protection is single exactly if the first order the exchange accepts is answered and, when the plan has a target,
the order after it is too. -/
theorem ensureProtection_single_iff (x : Exchange) (plan : ProtectionPlan) (maxAttempts : ℕ) (result : ProtectionResult)
    (h : (ensureProtection x plan maxAttempts).1 = .ok result) (hactive : result.outcome = .active) :
    SingleProtection x (ensureProtection x plan maxAttempts).2 result ↔
      FirstAcceptedAnswered x.behaviour x.calls plan.sendsTarget := by
  obtain ⟨added, horders, -, hiff⟩ := protectionAttempts_single_iff maxAttempts maxAttempts plan [] x result h hactive
  rw [← hiff]
  have hdrop : (ensureProtection x plan maxAttempts).2.orders.drop x.orders.length = added := by
    unfold ensureProtection
    rw [horders, List.drop_left]
  unfold SingleProtection openedBy
  rw [hdrop]
  rfl

/-! ## A retry after half of an attempt -/

/-- The plan of one coin bought at 100, with its first revision of client ids. -/
def samplePlan : ProtectionPlan where
  positionId := "position-1"
  symbol := "BTC/USDT"
  direction := .long
  quantity := 1
  averageFillPrice := 100
  stopPrice := 99
  takeProfitPrice := some 102
  stopClientOrderId := "A2S-c18cdc20fe8488db8c"
  tpClientOrderId := some "A2T-d319196233f5ea282b"
  attempt := 1
  quantity_pos := SampleLevels.one_pos
  stopPrice_pos := SampleLevels.ninetyNine_pos
  stop_worse := long_worse_below
  target_better := long_worse_above

/-- An exchange that holds the coin and gives the listed replies in order. -/
def exchangeHolding (replies : List CallBehaviour) : Exchange where
  behaviour n := replies.getD n (.refused "no more replies")
  accountReads _ := .ok (1000, [{ symbol := "BTC/USDT", direction := .long, quantity := 1 }])

/-- The stop of the first attempt is answered and its target refused; the retry succeeds. -/
def halfThenWhole : Exchange :=
  exchangeHolding [.answered "1" true (some "new"), .refused "target refused", .answered "2" true (some "new"),
    .answered "3" true (some "new")]

/-- The active result of an attempt whose stop has the given id. -/
def activeResult (stopId tpId : String) (actions : List ProtectionFailureAction) (attempts : ℕ) : ProtectionResult :=
  { outcome := .active, state := .protectionActive, stopExchangeOrderId := some stopId, tpExchangeOrderId := some tpId,
    actions, attempts }

/-- After half of an attempt the retry ends active, and two stops of the position are open. -/
theorem ensureProtection_single_false :
    (ensureProtection halfThenWhole samplePlan).1 = .ok (activeResult "2" "3" [.retriedSubmission] 2) ∧
    (openedBy halfThenWhole (ensureProtection halfThenWhole samplePlan).2 .stopMarket).map (·.exchangeOrderId) = ["1", "2"] ∧
    ¬SingleProtection halfThenWhole (ensureProtection halfThenWhole samplePlan).2
      (activeResult "2" "3" [.retriedSubmission] 2) := by
  have hstops : (openedBy halfThenWhole (ensureProtection halfThenWhole samplePlan).2 .stopMarket).map
      (·.exchangeOrderId) = ["1", "2"] := by decide +kernel
  refine ⟨by decide +kernel, hstops, ?_⟩
  rintro ⟨⟨a, ha, -⟩, -⟩
  have hlen := congrArg List.length hstops
  rw [ha] at hlen
  simp at hlen

/-- A first attempt that is refused outright and a retry that is answered leave a single stop. -/
theorem ensureProtection_single_after_refusal :
    SingleProtection
      (exchangeHolding [.refused "stop refused", .answered "2" true (some "new"), .answered "3" true (some "new")])
      (ensureProtection
        (exchangeHolding [.refused "stop refused", .answered "2" true (some "new"), .answered "3" true (some "new")])
        samplePlan).2
      (activeResult "2" "3" [.retriedSubmission] 2) := by
  refine (ensureProtection_single_iff _ samplePlan 2 (activeResult "2" "3" [.retriedSubmission] 2)
    (by decide +kernel) rfl).mpr ⟨1, ?_, by decide, fun _ => by decide⟩
  intro i hi
  obtain rfl := Nat.lt_one_iff.mp hi
  rfl

end TradingPlatform
