import TradingPlatform.Lemmas.ClientOrderId
import TradingPlatform.Lemmas.Exchange

/-!
# What the escalation ladder does

The ladder ends active through a submission that returned, or after a failed submission, a re-read of the position and a retry.
The callers use this inversion and never unfold the ladder.
-/

namespace TradingPlatform

theorem verifyEmergencyClose_not_active (x : Exchange) (plan : ProtectionPlan) (actions : List ProtectionFailureAction)
    (attempts : ℕ) : (verifyEmergencyClose x plan actions attempts).1.outcome ≠ .active := by
  unfold verifyEmergencyClose
  simp only
  split
  · simp
  · split <;> simp

/-- The emergency never ends active. -/
theorem escalateEmergency_not_active {x : Exchange} {plan : ProtectionPlan} {actions : List ProtectionFailureAction}
    {attempts : ℕ} {result : ProtectionResult} (h : (escalateEmergency x plan actions attempts).1 = .ok result) :
    result.outcome ≠ .active := by
  unfold escalateEmergency at h
  split at h
  · nomatch h
  · split at h
    · nomatch h
    · cases h
      exact verifyEmergencyClose_not_active _ _ _ _

theorem exchangeQuantityFor_frame {x x' : Exchange} {symbol : String} {direction : Direction} {out : Except PyError ℚ}
    (h : exchangeQuantityFor x symbol direction = (out, x')) :
    x.SameScript x' ∧ x'.calls = x.calls ∧ x'.orders = x.orders := by
  have hread : ∀ out x', fetchAuthoritativeSnapshot x = (out, x') →
      x.SameScript x' ∧ x'.calls = x.calls ∧ x'.orders = x.orders := by
    intro out x' h
    unfold fetchAuthoritativeSnapshot at h
    split at h
    · cases h
      exact ⟨⟨rfl, rfl⟩, rfl, rfl⟩
    · split at h
      · cases h
        exact ⟨⟨rfl, rfl⟩, rfl, rfl⟩
      · cases h
        exact ⟨⟨rfl, rfl⟩, rfl, rfl⟩
  unfold exchangeQuantityFor at h
  split at h
  · rename_i e x₁ hfetch
    cases h
    exact hread _ _ hfetch
  · rename_i snapshot x₁ hfetch
    split at h <;> (obtain ⟨-, rfl⟩ := Prod.mk.inj h; exact hread _ _ hfetch)

/-- A re-read that returns had a gateway. -/
theorem exchangeQuantityFor_gateway {x x' : Exchange} {symbol : String} {direction : Direction} {q : ℚ}
    (h : exchangeQuantityFor x symbol direction = (.ok q, x')) : x.gatewayError = none := by
  cases hgateway : x.gatewayError with
  | none => rfl
  | some message =>
    simp only [exchangeQuantityFor, fetchAuthoritativeSnapshot, hgateway] at h
    nomatch (Prod.mk.inj h).1

/-- How the ladder ends active: the submission of this attempt returned with an id, or it failed, the position is still there
and the ladder goes on with the retry. -/
theorem protectionAttempts_active {maxAttempts n : ℕ} {plan : ProtectionPlan} {actions : List ProtectionFailureAction}
    {x : Exchange} {result : ProtectionResult}
    (h : (protectionAttempts maxAttempts (n + 1) plan actions x).1 = .ok result) (hactive : result.outcome = .active) :
    (∃ stop target x₁, submitProtection x plan.command plan.symbol plan.protectionSide plan.quantity =
        (.ok (stop, target), x₁) ∧ stop.exchangeOrderId ≠ "" ∧
      result = { outcome := .active, state := .protectionActive, stopExchangeOrderId := some stop.exchangeOrderId,
                 tpExchangeOrderId := target.map (·.exchangeOrderId), actions, attempts := maxAttempts - n } ∧
      (protectionAttempts maxAttempts (n + 1) plan actions x).2 = x₁) ∨
    ∃ e x₁ q, ∃ hq : 0 < q, ∃ x₂ plan', submitProtection x plan.command plan.symbol plan.protectionSide plan.quantity =
        (.error e, x₁) ∧ exchangeQuantityFor x₁ plan.symbol plan.direction = (.ok q, x₂) ∧
      plan.retry q hq (maxAttempts - n + 1) = .ok plan' ∧ n ≠ 0 ∧
      protectionAttempts maxAttempts (n + 1) plan actions x =
        protectionAttempts maxAttempts n plan' (actions ++ [.retriedSubmission]) x₂ := by
  cases hsubmit : submitProtection x plan.command plan.symbol plan.protectionSide plan.quantity with
  | mk out x₁ =>
    cases out with
    | ok receipts =>
      obtain ⟨stop, target⟩ := receipts
      simp only [protectionAttempts, hsubmit] at h ⊢
      by_cases hempty : stop.exchangeOrderId = ""
      · rw [if_pos hempty] at h
        exact absurd hactive (escalateEmergency_not_active h)
      · rw [if_neg hempty] at h ⊢
        exact Or.inl ⟨stop, target, x₁, rfl, hempty, (Except.ok.inj h).symm, rfl⟩
    | error e =>
      simp only [protectionAttempts, hsubmit] at h ⊢
      split at h
      · cases h
        nomatch hactive
      · rename_i htimeout
        split at h
        · rename_i hfailure
          split at h
          · exact absurd hactive (escalateEmergency_not_active h)
          · rename_i q x₂ hread
            by_cases hq : 0 < q
            · rw [dif_pos hq] at h
              by_cases hn : n = 0
              · rw [if_pos hn] at h
                exact absurd hactive (escalateEmergency_not_active h)
              · rw [if_neg hn] at h
                cases hretry : plan.retry q hq (maxAttempts - n + 1) with
                | error e' =>
                  rw [hretry] at h
                  nomatch h
                | ok plan' =>
                  refine Or.inr ⟨e, x₁, q, hq, x₂, plan', rfl, hread, hretry, hn, ?_⟩
                  simp only [htimeout, hfailure, hq, hn, hretry, if_true, if_false, dif_pos, Bool.false_eq_true]
            · rw [dif_neg hq] at h
              cases h
              nomatch hactive
        · nomatch h

/-! ## What the ladder leaves of the answers -/

theorem exchangeQuantityFor_answers (x : Exchange) (symbol : String) (direction : Direction) :
    x.SameAnswers (exchangeQuantityFor x symbol direction).2 := by
  have hread : x.SameAnswers (fetchAuthoritativeSnapshot x).2 := by
    unfold fetchAuthoritativeSnapshot
    split
    · exact Exchange.SameAnswers.refl x
    · split <;> exact ⟨rfl, rfl, rfl⟩
  unfold exchangeQuantityFor
  split
  · rename_i e x₁ heq
    rw [heq] at hread
    exact hread
  · rename_i snapshot x₁ heq
    rw [heq] at hread
    split <;> exact hread

theorem escalateEmergency_answers (x : Exchange) (plan : ProtectionPlan) (actions : List ProtectionFailureAction)
    (attempts : ℕ) : x.SameAnswers (escalateEmergency x plan actions attempts).2 := by
  unfold escalateEmergency
  split
  · exact Exchange.SameAnswers.refl x
  · rename_i clientOrderId _
    have hsubmit := submitReduceOnlyExit_answers x (plan.emergencyCommand clientOrderId) plan.symbol plan.protectionSide
    split
    · rename_i detail x₁ heq
      rw [heq] at hsubmit
      exact hsubmit
    · rename_i x₁ _ heq
      rw [heq] at hsubmit
      have hverify : x₁.SameAnswers
          (verifyEmergencyClose x₁ plan (actions ++ [.emergencyReduceOnlyClose]) attempts).2 := by
        have hread := exchangeQuantityFor_answers x₁ plan.symbol plan.direction
        unfold verifyEmergencyClose
        dsimp only
        split
        · rename_i e x₂ heq'
          rw [heq'] at hread
          exact hread
        · rename_i liveQuantity x₂ heq'
          rw [heq'] at hread
          split <;> exact hread
      exact hsubmit.trans hverify

/-- The ladder makes calls and reads, and changes no answer. -/
theorem protectionAttempts_answers (maxAttempts n : ℕ) (plan : ProtectionPlan) (actions : List ProtectionFailureAction)
    (x : Exchange) : x.SameAnswers (protectionAttempts maxAttempts n plan actions x).2 := by
  induction n generalizing plan actions x with
  | zero => exact escalateEmergency_answers x plan actions maxAttempts
  | succ n ih =>
    have hsubmit := submitProtection_answers x plan.command plan.symbol plan.protectionSide plan.quantity
    unfold protectionAttempts
    dsimp only
    split
    · rename_i e x₁ heq
      rw [heq] at hsubmit
      split
      · exact hsubmit
      · split
        · have hread := exchangeQuantityFor_answers x₁ plan.symbol plan.direction
          split
          · rename_i e' x₂ heq'
            rw [heq'] at hread
            exact (hsubmit.trans hread).trans (escalateEmergency_answers _ _ _ _)
          · rename_i liveQuantity x₂ heq'
            rw [heq'] at hread
            split
            · split
              · exact (hsubmit.trans hread).trans (escalateEmergency_answers _ _ _ _)
              · split
                · exact hsubmit.trans hread
                · exact (hsubmit.trans hread).trans (ih _ _ _)
            · exact hsubmit.trans hread
        · exact hsubmit
    · rename_i stopReceipt tpReceipt x₁ heq
      rw [heq] at hsubmit
      split
      · exact hsubmit.trans (escalateEmergency_answers _ _ _ _)
      · exact hsubmit

/-! ## Plans and their ids -/

/-- The ids of a plan are those of its position under the revision of its attempt. -/
structure ProtectionPlan.Minted (plan : ProtectionPlan) : Prop where
  stop : TradingPlatform.stopClientOrderId plan.positionId plan.attempt = .ok plan.stopClientOrderId
  target : ∀ id ∈ plan.tpClientOrderId, targetClientOrderId plan.positionId plan.attempt = .ok id

theorem check_ok {draft : ProtectionDraftPlan} {plan : ProtectionPlan} (h : draft.check = .ok plan) :
    plan.positionId = draft.positionId ∧ plan.attempt = draft.attempt ∧
      plan.stopClientOrderId = draft.stopClientOrderId ∧ plan.tpClientOrderId = draft.tpClientOrderId ∧
      plan.takeProfitPrice = draft.takeProfitPrice := by
  unfold ProtectionDraftPlan.check at h
  split_ifs at h
  rw [← Except.ok.inj h]
  exact ⟨rfl, rfl, rfl, rfl, rfl⟩

/-- A plan is made exactly if its quantity and its stop are positive and its prices are on their sides of the fill. -/
theorem check_isOk_iff {draft : ProtectionDraftPlan} : (∃ plan, draft.check = .ok plan) ↔
    0 < draft.quantity ∧ 0 < draft.stopPrice ∧ draft.direction.Worse draft.stopPrice draft.averageFillPrice ∧
      ∀ t ∈ draft.takeProfitPrice, draft.direction.Worse draft.averageFillPrice t := by
  unfold ProtectionDraftPlan.check
  by_cases hquantity : draft.quantity ≤ 0
  · rw [dif_pos hquantity]
    exact iff_of_false (fun ⟨_, h⟩ => nomatch h) fun h => absurd h.1 (not_lt.mpr hquantity)
  · rw [dif_neg hquantity, and_iff_right (not_le.mp hquantity)]
    by_cases hstop : draft.stopPrice ≤ 0
    · rw [dif_pos hstop]
      exact iff_of_false (fun ⟨_, h⟩ => nomatch h) fun h => absurd h.1 (not_lt.mpr hstop)
    · rw [dif_neg hstop, and_iff_right (not_le.mp hstop)]
      by_cases hworse : draft.direction.Worse draft.stopPrice draft.averageFillPrice
      · rw [dif_pos hworse, and_iff_right hworse]
        by_cases htarget : ∀ t ∈ draft.takeProfitPrice, draft.direction.Worse draft.averageFillPrice t
        · rw [dif_pos htarget]
          exact iff_of_true ⟨_, rfl⟩ htarget
        · rw [dif_neg htarget]
          exact iff_of_false (fun ⟨_, h⟩ => nomatch h) htarget
      · rw [dif_neg hworse]
        exact iff_of_false (fun ⟨_, h⟩ => nomatch h) fun h => hworse h.1

/-- A plan has the stop and the quantity of its draft. -/
theorem check_terms {draft : ProtectionDraftPlan} {plan : ProtectionPlan} (h : draft.check = .ok plan) :
    plan.stopPrice = draft.stopPrice ∧ plan.quantity = draft.quantity ∧ plan.direction = draft.direction ∧
      plan.symbol = draft.symbol := by
  unfold ProtectionDraftPlan.check at h
  split_ifs at h
  rw [← Except.ok.inj h]
  exact ⟨rfl, rfl, rfl, rfl⟩

theorem check_fill {draft : ProtectionDraftPlan} {plan : ProtectionPlan} (h : draft.check = .ok plan) :
    plan.averageFillPrice = draft.averageFillPrice := by
  unfold ProtectionDraftPlan.check at h
  split_ifs at h
  rw [← Except.ok.inj h]

/-- The id of a target leg that has one. -/
theorem targetIdFor_some {positionId id : String} {price : Option ℚ} {revision : ℕ}
    (h : targetIdFor positionId price revision = .ok (some id)) : targetClientOrderId positionId revision = .ok id := by
  unfold targetIdFor at h
  split at h
  · nomatch h
  · split at h
    · nomatch h
    · cases hid : targetClientOrderId positionId revision with
      | error e =>
        rw [hid] at h
        nomatch h
      | ok c =>
        rw [hid] at h
        rw [Option.some.inj (Except.ok.inj h)]

/-- A position with an id has an id for its target, if it needs one. -/
theorem targetIdFor_isOk {positionId : String} {revision : ℕ} (hid : positionId ≠ "") (h : 1 ≤ revision) (price : Option ℚ) :
    ∃ id, targetIdFor positionId price revision = .ok id := by
  unfold targetIdFor
  cases price with
  | none => exact ⟨none, rfl⟩
  | some t =>
    dsimp only
    split
    · exact ⟨none, rfl⟩
    · obtain ⟨c, hc⟩ : ∃ c, targetClientOrderId positionId revision = .ok c :=
        protectionClientOrderId_isOk hid h .target "target"
      exact ⟨some c, congrArg (Except.map some) hc⟩

/-- What a plan was made from. -/
theorem buildProtectionPlan_check {positionId : String} {candidate : TradeCandidate} {price quantity tickSize : ℚ} {attempt : ℕ}
    {plan : ProtectionPlan} (h : buildProtectionPlan positionId candidate price quantity tickSize attempt = .ok plan) :
    ∃ stopPrice target stopId tpId, stopClientOrderId positionId attempt = .ok stopId ∧
      targetIdFor positionId target attempt = .ok tpId ∧
      ProtectionDraftPlan.check
        { positionId, symbol := candidate.symbol, direction := candidate.side, quantity, averageFillPrice := price, stopPrice,
          takeProfitPrice := target, stopClientOrderId := stopId, tpClientOrderId := tpId, attempt } = .ok plan := by
  unfold buildProtectionPlan at h
  split_ifs at h
  obtain ⟨⟨rawStop, rawTarget⟩, -, h⟩ := Loops.bind_eq_ok.mp h
  obtain ⟨stopPrice, -, h⟩ := Loops.bind_eq_ok.mp h
  obtain ⟨target, -, h⟩ := Loops.bind_eq_ok.mp h
  obtain ⟨stopId, hstop, h⟩ := Loops.bind_eq_ok.mp h
  obtain ⟨tpId, htp, h⟩ := Loops.bind_eq_ok.mp h
  exact ⟨stopPrice, target, stopId, tpId, hstop, htp, h⟩

theorem buildProtectionPlan_ok {positionId : String} {candidate : TradeCandidate} {price quantity tickSize : ℚ} {attempt : ℕ}
    {plan : ProtectionPlan} (h : buildProtectionPlan positionId candidate price quantity tickSize attempt = .ok plan) :
    plan.positionId = positionId ∧ plan.attempt = attempt ∧ plan.Minted := by
  obtain ⟨_, _, _, _, hstop, htp, h⟩ := buildProtectionPlan_check h
  obtain ⟨hposition, hattempt, hstopId, htpId, -⟩ := check_ok h
  simp only at hposition hattempt hstopId htpId
  refine ⟨hposition, hattempt, ?_, ?_⟩
  · rw [hposition, hattempt, hstopId]
    exact hstop
  · intro id hid
    rw [htpId] at hid
    rw [hposition, hattempt]
    exact targetIdFor_some (htp.trans (by rw [Option.mem_def.mp hid]))

/-- A retry keeps the position and the target, and mints the ids of its own attempt. -/
theorem retry_ok {plan plan' : ProtectionPlan} {q : ℚ} {hq : 0 < q} {attempt : ℕ}
    (h : plan.retry q hq attempt = .ok plan') :
    plan'.positionId = plan.positionId ∧ plan'.takeProfitPrice = plan.takeProfitPrice ∧ plan'.attempt = attempt ∧
      plan'.Minted ∧ targetIdFor plan.positionId plan.takeProfitPrice attempt = .ok plan'.tpClientOrderId := by
  unfold ProtectionPlan.retry at h
  obtain ⟨stopId, hstop, h⟩ := Loops.bind_eq_ok.mp h
  obtain ⟨tpId, htp, h⟩ := Loops.bind_eq_ok.mp h
  cases h
  refine ⟨rfl, rfl, rfl, ⟨hstop, fun id hid => ?_⟩, htp⟩
  have hsome : tpId = some id := hid
  rw [hsome] at htp
  exact targetIdFor_some htp

/-- A plan of a position with an id can be retried, with the live quantity. -/
theorem retry_isOk {plan : ProtectionPlan} (hid : plan.positionId ≠ "") {q : ℚ} (hq : 0 < q) {attempt : ℕ} (h : 1 ≤ attempt) :
    ∃ plan', plan.retry q hq attempt = .ok plan' ∧ plan'.quantity = q := by
  obtain ⟨stopId, hstop⟩ : ∃ c, stopClientOrderId plan.positionId attempt = .ok c :=
    protectionClientOrderId_isOk hid h .stop "stop"
  obtain ⟨tpId, htp⟩ := targetIdFor_isOk hid h plan.takeProfitPrice
  unfold ProtectionPlan.retry
  rw [hstop, htp]
  exact ⟨_, rfl, rfl⟩

/-- The client ids an attempt sends. -/
def ProtectionPlan.sentClientOrderIds (plan : ProtectionPlan) : List String :=
  plan.stopClientOrderId :: (plan.command.targetLeg.map Prod.snd).toList

/-- An id that is sent is the plan's stop id or its target id. -/
theorem ProtectionPlan.mem_sent {plan : ProtectionPlan} {id : String} (h : id ∈ plan.sentClientOrderIds) :
    id = plan.stopClientOrderId ∨ (plan.tpClientOrderId = some id ∧ id ≠ "") := by
  unfold ProtectionPlan.sentClientOrderIds at h
  rcases List.mem_cons.mp h with h | h
  · exact .inl h
  · right
    rw [Option.mem_toList] at h
    obtain ⟨leg, hleg, rfl⟩ := Option.map_eq_some_iff.mp h
    unfold SubmitProtectionOrders.targetLeg at hleg
    split at hleg
    · rename_i price id hprice hid
      split at hleg
      · nomatch hleg
      · rename_i hnot
        cases hleg
        exact ⟨hid, fun hempty => hnot (.inr hempty)⟩
    · nomatch hleg

/-- What an attempt of a minted plan sends carries the leg of a stop or of a target. -/
theorem ProtectionPlan.Minted.leg {plan : ProtectionPlan} (h : plan.Minted) {id : String}
    (hid : id ∈ plan.sentClientOrderIds) : legKindOf id = some .stop ∨ legKindOf id = some .target := by
  rcases plan.mem_sent hid with rfl | ⟨htp, -⟩
  · exact .inl (legKindOf_stopClientOrderId h.stop)
  · exact .inr (legKindOf_targetClientOrderId (h.target id htp))

/-! ## The orders of an active result -/

/-- The first attempt is answered in full. -/
def ProtectionPlan.AnsweredAtOnce (plan : ProtectionPlan) (x : Exchange) : Prop :=
  (x.behaviour x.calls).readableId.isSome = true ∧
    (plan.command.targetLeg.isSome = true → (x.behaviour (x.calls + 1)).readableId.isSome = true)

instance (plan : ProtectionPlan) (x : Exchange) : Decidable (plan.AnsweredAtOnce x) := inferInstanceAs (Decidable (_ ∧ _))

/-- A submission that returned was answered, and added exactly the orders of its receipts. -/
theorem submitProtection_ok {x x' : Exchange} {plan : ProtectionPlan} {stop : ExchangeOrderReceipt}
    {target : Option ExchangeOrderReceipt}
    (h : submitProtection x plan.command plan.symbol plan.protectionSide plan.quantity = (.ok (stop, target), x')) :
    plan.AnsweredAtOnce x ∧ ∃ added, x'.orders = x.orders ++ added ∧
      added.map (·.exchangeOrderId) = stop.exchangeOrderId :: (target.map (·.exchangeOrderId)).toList ∧
      added.map (·.request.newClientOrderId) = plan.sentClientOrderIds := by
  unfold submitProtection at h
  split at h
  · nomatch (Prod.mk.inj h).1
  · split at h
    · nomatch (Prod.mk.inj h).1
    · rename_i receipts x₁ hlegs
      obtain ⟨hout, rfl⟩ := Prod.mk.inj h
      cases hout
      obtain ⟨-, hread, -, hcase⟩ := submitProtectionLegs_ok hlegs
      unfold ProtectionPlan.sentClientOrderIds ProtectionPlan.AnsweredAtOnce
      rcases hcase with ⟨hleg, rfl, horders⟩ | ⟨price, clientOrderId, receipt, hleg, rfl, hread₂, horders⟩
      · refine ⟨⟨by rw [hread]; rfl, fun hsome => ?_⟩, _, horders, rfl, ?_⟩
        · rw [hleg] at hsome
          nomatch hsome
        · rw [hleg]
          rfl
      · refine ⟨⟨by rw [hread]; rfl, fun _ => by rw [hread₂]; rfl⟩, _, horders, rfl, ?_⟩
        rw [hleg]
        rfl

/-- A submission that raised with the gateway ready was not answered in full. -/
theorem submitProtection_error {x x' : Exchange} {plan : ProtectionPlan} {e : PyError} (hgateway : x.gatewayError = none)
    (h : submitProtection x plan.command plan.symbol plan.protectionSide plan.quantity = (.error e, x')) :
    x.SameScript x' ∧ ¬plan.AnsweredAtOnce x := by
  unfold submitProtection at h
  rw [hgateway] at h
  simp only at h
  split at h
  · rename_i e' x₁ hlegs
    cases h
    obtain ⟨hscript, hcase⟩ := submitProtectionLegs_error hlegs
    refine ⟨hscript, ?_⟩
    rintro ⟨hread, htarget⟩
    rcases hcase with ⟨hnone, -⟩ | ⟨id, rest, -, -, -, hunread⟩
    · obtain ⟨id, hid⟩ := Option.isSome_iff_exists.mp hread
      rw [CallBehaviour.acceptedId_of_readable hid] at hnone
      nomatch hnone
    · exact hunread ⟨hread, htarget⟩
  · nomatch (Prod.mk.inj h).1

/-- An exchange order id names one order. -/
structure Exchange.Identifies (x : Exchange) : Prop where
  distinct : (x.orders.map (·.exchangeOrderId)).Nodup
  nonempty : ∀ a ∈ x.orders, a.exchangeOrderId ≠ ""

/-- The orders a result names. -/
def activeOrders (x : Exchange) (result : ProtectionResult) : List AcceptedOrder :=
  x.orders.filter fun a =>
    decide (a.exchangeOrderId ∈ result.stopExchangeOrderId.toList ++ result.tpExchangeOrderId.toList)

/-- With distinct ids the orders under the ids of the last ones are the last ones. -/
theorem filter_last_ids {orders added : List AcceptedOrder}
    (hnd : ((orders ++ added).map (·.exchangeOrderId)).Nodup) :
    ((orders ++ added).filter fun a => decide (a.exchangeOrderId ∈ added.map (·.exchangeOrderId))) = added := by
  rw [List.map_append] at hnd
  have hdisjoint := (List.nodup_append.mp hnd).2.2
  rw [List.filter_append]
  have hold : (orders.filter fun a => decide (a.exchangeOrderId ∈ added.map (·.exchangeOrderId))) = [] := by
    refine List.filter_eq_nil_iff.mpr fun a ha hmem => ?_
    exact hdisjoint _ (List.mem_map_of_mem ha) _ (of_decide_eq_true hmem) rfl
  have hnew : (added.filter fun a => decide (a.exchangeOrderId ∈ added.map (·.exchangeOrderId))) = added := by
    refine List.filter_eq_self.mpr fun a ha => ?_
    exact decide_eq_true (List.mem_map_of_mem ha)
  rw [hold, hnew, List.nil_append]

/-- The orders of the active result of a submission are the ones it sent. -/
theorem activeOrders_submitted {x x' : Exchange} {plan : ProtectionPlan} {stop : ExchangeOrderReceipt}
    {target : Option ExchangeOrderReceipt} {result : ProtectionResult} (hid : x'.Identifies)
    (h : submitProtection x plan.command plan.symbol plan.protectionSide plan.quantity = (.ok (stop, target), x'))
    (hstop : result.stopExchangeOrderId = some stop.exchangeOrderId)
    (htarget : result.tpExchangeOrderId = target.map (·.exchangeOrderId)) :
    (activeOrders x' result).map (·.request.newClientOrderId) = plan.sentClientOrderIds := by
  obtain ⟨-, added, horders, hids, hclient⟩ := submitProtection_ok h
  have hnamed : result.stopExchangeOrderId.toList ++ result.tpExchangeOrderId.toList =
      added.map (·.exchangeOrderId) := by
    rw [hstop, htarget, hids]
    rfl
  have hnd := hid.distinct
  rw [horders] at hnd
  unfold activeOrders
  rw [hnamed, horders, filter_last_ids hnd]
  exact hclient

/-- The orders of an active result of `ensure_protection`: those of the plan if the first attempt was answered in full, and
otherwise those of the retry, under the ids of revision two. -/
theorem ensureProtection_activeOrders {x x' : Exchange} {plan : ProtectionPlan} {result : ProtectionResult}
    (h : ensureProtection x plan = (.ok result, x')) (hactive : result.outcome = .active) (hid : x'.Identifies) :
    (plan.AnsweredAtOnce x ∧ (activeOrders x' result).map (·.request.newClientOrderId) = plan.sentClientOrderIds) ∨
      (¬plan.AnsweredAtOnce x ∧ ∃ q, ∃ hq : 0 < q, ∃ plan', plan.retry q hq 2 = .ok plan' ∧
        (activeOrders x' result).map (·.request.newClientOrderId) = plan'.sentClientOrderIds) := by
  unfold ensureProtection at h
  have hout : (protectionAttempts 2 2 plan [] x).1 = .ok result := by rw [h]
  have hafter : (protectionAttempts 2 2 plan [] x).2 = x' := by rw [h]
  rcases protectionAttempts_active hout hactive with ⟨stop, target, x₁, hsubmit, -, rfl, heq⟩ |
    ⟨e, x₁, q, hq, x₂, plan', hsubmit, hread, hretry, -, heq⟩
  · obtain rfl := hafter.symm.trans heq
    exact .inl ⟨(submitProtection_ok hsubmit).1, activeOrders_submitted hid hsubmit rfl rfl⟩
  · refine .inr ⟨?_, q, hq, plan', hretry, ?_⟩
    · -- the re-read went through, so the gateway was ready when the submission raised
      have hgateway : x.gatewayError = none := by
        cases hx : x.gatewayError with
        | none => rfl
        | some message =>
          unfold submitProtection at hsubmit
          rw [hx] at hsubmit
          cases hsubmit
          rw [exchangeQuantityFor_gateway hread] at hx
          nomatch hx
      exact (submitProtection_error hgateway hsubmit).2
    · rw [heq] at hout hafter
      rcases protectionAttempts_active hout hactive with ⟨stop, target, x₃, hsubmit₂, -, rfl, heq₂⟩ |
        ⟨_, _, _, _, _, _, _, _, _, hzero, _⟩
      · obtain rfl := hafter.symm.trans heq₂
        exact activeOrders_submitted hid hsubmit₂ rfl rfl
      · exact absurd rfl hzero

end TradingPlatform
