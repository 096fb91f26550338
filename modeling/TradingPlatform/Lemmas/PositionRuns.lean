import TradingPlatform.Lemmas.Ladder
import TradingPlatform.Lemmas.ProtectionRecords
import TradingPlatform.Lemmas.Sent
import TradingPlatform.Lemmas.StopReplacement

/-!
# The requests of a managed position

The steps of a position send requests under numbers: a stop under the revision of its plan, an exit under an attempt. A ladder is
taken apart into the plans it submits and the plan it gives up, and every step into its ladder, its loop or its one exit.
-/

namespace TradingPlatform

instance (x : Exchange) : Decidable x.Reaches := inferInstanceAs (Decidable (_ ∧ _))

/-! ## The plans of a ladder -/

/-- The state in which the ladder gives up a plan: it was submitted without a stop id, or failed and the account cannot be read, or
failed for the last time. -/
def ProtectionPlan.givenUpAt (plan : ProtectionPlan) (last : Bool) (x : Exchange) : Option Exchange :=
  match submitProtection x plan.command plan.symbol plan.protectionSide plan.quantity with
  | (.ok (stop, _), x) => if stop.exchangeOrderId = "" then some x else none
  | (.error e, x) =>
    if !e.isProtectionTimeout && e.isSubmissionFailure then
      match exchangeQuantityFor x plan.symbol plan.direction with
      | (.error _, x) => some x
      | (.ok q, x) => if last && decide (0 < q) then some x else none
    else none

/-- The plan of the retry and the state it starts from: the submission failed and the position is still there. -/
def ProtectionPlan.retriedAt (plan : ProtectionPlan) (x : Exchange) : Option (ProtectionPlan × Exchange) :=
  match submitProtection x plan.command plan.symbol plan.protectionSide plan.quantity with
  | (.ok _, _) => none
  | (.error e, x) =>
    if !e.isProtectionTimeout && e.isSubmissionFailure then
      match exchangeQuantityFor x plan.symbol plan.direction with
      | (.error _, _) => none
      | (.ok q, x) =>
        if hq : 0 < q then
          match plan.retry q hq 2 with
          | .ok plan => some (plan, x)
          | .error _ => none
        else none
    else none

/-- The numbers of a ladder: those of a plan's submission, then those of giving it up, for its plan and for the plan it retries with. -/
def ProtectionPlan.numbers (submitted givenUp : ProtectionPlan → Exchange → List ℕ) (plan : ProtectionPlan) (x : Exchange) :
    List ℕ :=
  submitted plan x ++ (plan.givenUpAt false x).toList.flatMap (givenUp plan) ++
    (plan.retriedAt x).toList.flatMap fun (retried, x) =>
      submitted retried x ++ (retried.givenUpAt true x).toList.flatMap (givenUp retried)

/-! ## Requests under numbers -/

/-- The requests of a kind that were sent between two states have the client ids of some numbers, one each. -/
def SentUnder (kind : OrderRequest → Bool) (idOf : ℕ → Except PyError String) (numbers : List ℕ) (x x' : Exchange) : Prop :=
  ∃ added, x'.sent = x.sent ++ added ∧
    List.Forall₂ (fun r n => idOf n = .ok r.newClientOrderId) (added.filter kind) numbers

section

variable {kind : OrderRequest → Bool} {idOf : ℕ → Except PyError String} {numbers numbers' : List ℕ} {x x' x'' : Exchange}

theorem SentUnder.refl (kind : OrderRequest → Bool) (idOf : ℕ → Except PyError String) (x : Exchange) : SentUnder kind idOf [] x x :=
  ⟨[], (List.append_nil _).symm, .nil⟩

theorem SentUnder.of_sent (h : x'.sent = x.sent) : SentUnder kind idOf [] x x' :=
  ⟨[], h.trans (List.append_nil _).symm, .nil⟩

theorem SentUnder.trans (h : SentUnder kind idOf numbers x x') (h' : SentUnder kind idOf numbers' x' x'') :
    SentUnder kind idOf (numbers ++ numbers') x x'' := by
  obtain ⟨added, hsent, hall⟩ := h
  obtain ⟨added', hsent', hall'⟩ := h'
  refine ⟨added ++ added', by rw [hsent', hsent, List.append_assoc], ?_⟩
  rw [List.filter_append]
  exact List.rel_append hall hall'

/-- Nothing of the kind after what was sent. -/
theorem SentUnder.then_none (h : SentUnder kind idOf numbers x x') (h' : SentUnder kind idOf [] x' x'') :
    SentUnder kind idOf numbers x x'' := by
  have hboth := h.trans h'
  rwa [List.append_nil] at hboth

/-- What was sent between the states, read off the log. -/
theorem SentUnder.sentSince (h : SentUnder kind idOf numbers x x') :
    List.Forall₂ (fun r n => idOf n = .ok r.newClientOrderId) ((x.sentSince x').filter kind) numbers := by
  obtain ⟨added, hsent, hall⟩ := h
  unfold Exchange.sentSince
  rwa [hsent, List.drop_left]

/-- Every request has its number. -/
theorem forall₂_number {requests : List OrderRequest}
    (h : List.Forall₂ (fun r n => idOf n = .ok r.newClientOrderId) requests numbers) {r : OrderRequest} (hr : r ∈ requests) :
    ∃ n ∈ numbers, idOf n = .ok r.newClientOrderId := by
  induction h with
  | nil => exact absurd hr List.not_mem_nil
  | @cons r' n requests numbers hid hrest ih =>
    rcases List.mem_cons.mp hr with rfl | hr
    · exact ⟨n, List.mem_cons_self, hid⟩
    · obtain ⟨n', hn', hid'⟩ := ih hr
      exact ⟨n', List.mem_cons_of_mem n hn', hid'⟩

/-! ### One order -/

/-- An order of the kind is one request of its number, if it reaches the exchange. -/
theorem submitOrder_sentUnder {request : OrderRequest} {number : ℕ} (hgateway : x.gatewayError = none) (hkind : kind request = true)
    (hid : idOf number = .ok request.newClientOrderId) (price : Option ℚ) :
    SentUnder kind idOf (if x.Reaches then [number] else []) x (submitOrder x request price).2 := by
  refine ⟨_, submitOrder_sent x request price, ?_⟩
  by_cases hfenced : (x.behaviour x.calls).isFenced = true
  · rw [if_pos hfenced, if_neg fun hreaches => by rw [hreaches.2] at hfenced; nomatch hfenced]
    exact .nil
  · rw [if_neg hfenced, if_pos ⟨hgateway, Bool.eq_false_iff.mpr hfenced⟩, List.filter_cons_of_pos hkind]
    exact .cons hid .nil

/-- An order of another kind. -/
theorem submitOrder_sentNone {request : OrderRequest} (hnot : kind request = false) (price : Option ℚ) :
    SentUnder kind idOf [] x (submitOrder x request price).2 := by
  refine ⟨_, submitOrder_sent x request price, ?_⟩
  split
  · exact .nil
  · rw [List.filter_cons_of_neg (Bool.eq_false_iff.mp hnot)]
    exact .nil

theorem not_reaches_of_gatewayError {message : String} (h : x.gatewayError = some message) : ¬x.Reaches := by
  intro hreaches
  rw [hreaches.1] at h
  nomatch h

/-! ### The ladder -/

/-- A protection sends what its stop does, if the target is of another kind. -/
theorem submitProtection_sentUnder {command : SubmitProtectionOrders} {symbol side : String} {quantity : ℚ}
    (hgateway : ∀ message, x.gatewayError = some message → numbers = [])
    (hstop : x.gatewayError = none →
      SentUnder kind idOf numbers x (submitOrder x (command.stopRequest symbol side quantity) (some command.stopLossPrice)).2)
    (htarget : ∀ clientOrderId, kind (targetRequest clientOrderId symbol side quantity) = false) :
    SentUnder kind idOf numbers x (submitProtection x command symbol side quantity).2 := by
  unfold submitProtection
  cases hx : x.gatewayError with
  | some message =>
    rw [hgateway message hx]
    exact SentUnder.refl kind idOf x
  | none =>
    have hfirst := hstop hx
    have hlegs : SentUnder kind idOf numbers x (submitProtectionLegs x command symbol side quantity).2 := by
      unfold submitProtectionLegs
      split
      · rename_i e x₁ heq
        rw [heq] at hfirst
        exact hfirst
      · rename_i stopReceipt x₁ heq
        rw [heq] at hfirst
        split
        · exact hfirst
        · rename_i price clientOrderId _
          have hsecond : SentUnder kind idOf [] x₁ _ := submitOrder_sentNone (htarget clientOrderId) (some price)
          split
          · rename_i e x₂ heq'
            rw [heq'] at hsecond
            exact hfirst.then_none hsecond
          · rename_i tpReceipt x₂ heq'
            rw [heq'] at hsecond
            exact hfirst.then_none hsecond
    dsimp only
    split
    · rename_i e x₁ heq
      rw [heq] at hlegs
      exact hlegs
    · rename_i receipts x₁ heq
      rw [heq] at hlegs
      exact hlegs

/-- A reduce-only exit sends what its order does. -/
theorem submitReduceOnlyExit_sentUnder {command : SubmitReduceOnlyExit} {symbol side : String}
    (hgateway : ∀ message, x.gatewayError = some message → numbers = [])
    (horder : x.gatewayError = none → SentUnder kind idOf numbers x (submitOrder x
      { symbol, type := .market, side, amount := command.reduceQuantity, newClientOrderId := command.clientOrderId,
        reduceOnly := true } none).2) :
    SentUnder kind idOf numbers x (submitReduceOnlyExit x command symbol side).2 := by
  unfold submitReduceOnlyExit
  cases hx : x.gatewayError with
  | some message =>
    rw [hgateway message hx]
    exact SentUnder.refl kind idOf x
  | none =>
    have hcall := horder hx
    dsimp only
    split
    · rename_i e x₁ heq
      rw [heq] at hcall
      exact hcall
    · rename_i receipt x₁ heq
      rw [heq] at hcall
      exact hcall

/-- A replacement stop sends what its order does. -/
theorem submitStopReplacement_sentUnder {symbol side : String} {quantity stopPrice : ℚ} {clientOrderId : String}
    (hgateway : ∀ message, x.gatewayError = some message → numbers = [])
    (horder : x.gatewayError = none → SentUnder kind idOf numbers x (submitOrder x
      { symbol, type := .stopMarket, side, amount := quantity, newClientOrderId := clientOrderId, reduceOnly := true }
      (some stopPrice)).2) :
    SentUnder kind idOf numbers x (submitStopReplacement x symbol side quantity stopPrice clientOrderId).2 := by
  unfold submitStopReplacement
  cases hx : x.gatewayError with
  | some message =>
    rw [hgateway message hx]
    exact SentUnder.refl kind idOf x
  | none =>
    have hcall := horder hx
    dsimp only
    split
    · rename_i e x₁ heq
      rw [heq] at hcall
      exact hcall
    · rename_i receipt x₁ heq
      rw [heq] at hcall
      exact hcall

/-- An emergency sends what its exit does. -/
theorem escalateEmergency_sentUnder {plan : ProtectionPlan}
    (hid : ∀ e, exitClientOrderId plan.positionId plan.attempt = .error e → numbers = [])
    (hexit : ∀ clientOrderId, exitClientOrderId plan.positionId plan.attempt = .ok clientOrderId → SentUnder kind idOf numbers x
      (submitReduceOnlyExit x (plan.emergencyCommand clientOrderId) plan.symbol plan.protectionSide).2)
    (actions : List ProtectionFailureAction) (tried : ℕ) :
    SentUnder kind idOf numbers x (escalateEmergency x plan actions tried).2 := by
  unfold escalateEmergency
  cases hclient : exitClientOrderId plan.positionId plan.attempt with
  | error e =>
    rw [hid e hclient]
    exact SentUnder.refl kind idOf x
  | ok clientOrderId =>
    have hsubmit := hexit clientOrderId hclient
    dsimp only
    split
    · rename_i detail x₁ heq
      rw [heq] at hsubmit
      exact hsubmit
    · rename_i x₁ _ heq
      rw [heq] at hsubmit
      exact hsubmit.then_none (.of_sent (verifyEmergencyClose_sent x₁ plan _ tried))

/-- What the submission and the emergency of every plan of a position send. -/
structure LadderSends (kind : OrderRequest → Bool) (idOf : ℕ → Except PyError String)
    (submitted givenUp : ProtectionPlan → Exchange → List ℕ) (positionId : String) : Prop where
  submit : ∀ (plan : ProtectionPlan) x, plan.positionId = positionId → plan.Minted →
    SentUnder kind idOf (submitted plan x) x
      (submitProtection x plan.command plan.symbol plan.protectionSide plan.quantity).2
  giveUp : ∀ (plan : ProtectionPlan) x actions tried, plan.positionId = positionId →
    SentUnder kind idOf (givenUp plan x) x (escalateEmergency x plan actions tried).2

variable {submitted givenUp : ProtectionPlan → Exchange → List ℕ} {plan : ProtectionPlan}

/-- The last attempt of a ladder: its submission, and the emergency if it gives the plan up. -/
theorem protectionAttempts_one_sentUnder (h : LadderSends kind idOf submitted givenUp plan.positionId) (hminted : plan.Minted)
    (x : Exchange) (maxAttempts : ℕ) (actions : List ProtectionFailureAction) :
    SentUnder kind idOf (submitted plan x ++ (plan.givenUpAt true x).toList.flatMap (givenUp plan)) x
      (protectionAttempts maxAttempts 1 plan actions x).2 := by
  have hsubmit := h.submit plan x rfl hminted
  have hnone : ∀ {x₁ : Exchange}, SentUnder kind idOf (submitted plan x) x x₁ →
      SentUnder kind idOf (submitted plan x ++ (none : Option Exchange).toList.flatMap (givenUp plan)) x x₁ := by
    intro x₁ h
    simpa using h
  have hemergency : ∀ (x₁ : Exchange) tried, SentUnder kind idOf (submitted plan x) x x₁ →
      SentUnder kind idOf (submitted plan x ++ (some x₁).toList.flatMap (givenUp plan)) x
        (escalateEmergency x₁ plan actions tried).2 := by
    intro x₁ tried hbefore
    simpa using hbefore.trans (h.giveUp plan x₁ actions tried rfl)
  unfold protectionAttempts ProtectionPlan.givenUpAt
  dsimp only
  cases hcall : submitProtection x plan.command plan.symbol plan.protectionSide plan.quantity with
  | mk out x₁ =>
    rw [hcall] at hsubmit
    cases out with
    | ok receipts =>
      dsimp only
      split
      · exact hemergency x₁ _ hsubmit
      · exact hnone hsubmit
    | error e =>
      dsimp only
      cases e.isProtectionTimeout with
      | true => exact hnone hsubmit
      | false =>
        cases e.isSubmissionFailure with
        | false => exact hnone hsubmit
        | true =>
          simp only [Bool.false_eq_true, if_false, if_true, Bool.not_false, Bool.and_self, Bool.true_and]
          have hread : SentUnder kind idOf [] x₁ _ := .of_sent (exchangeQuantityFor_sent x₁ plan.symbol plan.direction)
          cases hlive : exchangeQuantityFor x₁ plan.symbol plan.direction with
          | mk out x₂ =>
            rw [hlive] at hread
            cases out with
            | error e' => exact hemergency x₂ _ (hsubmit.then_none hread)
            | ok q =>
              dsimp only
              by_cases hq : 0 < q
              · rw [dif_pos hq, if_pos (decide_eq_true hq)]
                exact hemergency x₂ _ (hsubmit.then_none hread)
              · rw [dif_neg hq, if_neg (by simpa using hq)]
                exact hnone (hsubmit.then_none hread)

/-- A ladder sends its numbers. -/
theorem ensureProtection_sentUnder (h : LadderSends kind idOf submitted givenUp plan.positionId) (hminted : plan.Minted)
    (x : Exchange) : SentUnder kind idOf (plan.numbers submitted givenUp x) x (ensureProtection x plan).2 := by
  have hsubmit := h.submit plan x rfl hminted
  have hnone : ∀ {x₁ : Exchange}, SentUnder kind idOf (submitted plan x) x x₁ →
      SentUnder kind idOf (submitted plan x ++ (none : Option Exchange).toList.flatMap (givenUp plan) ++ []) x x₁ := by
    intro x₁ h
    simpa using h
  have hemergency : ∀ (x₁ : Exchange) actions tried, SentUnder kind idOf (submitted plan x) x x₁ →
      SentUnder kind idOf (submitted plan x ++ (some x₁).toList.flatMap (givenUp plan) ++ []) x
        (escalateEmergency x₁ plan actions tried).2 := by
    intro x₁ actions tried hbefore
    simpa using hbefore.trans (h.giveUp plan x₁ actions tried rfl)
  unfold ensureProtection protectionAttempts ProtectionPlan.numbers ProtectionPlan.givenUpAt ProtectionPlan.retriedAt
  dsimp only
  cases hcall : submitProtection x plan.command plan.symbol plan.protectionSide plan.quantity with
  | mk out x₁ =>
    rw [hcall] at hsubmit
    cases out with
    | ok receipts =>
      dsimp only
      split
      · exact hemergency x₁ _ _ hsubmit
      · exact hnone hsubmit
    | error e =>
      dsimp only
      cases e.isProtectionTimeout with
      | true => exact hnone hsubmit
      | false =>
        cases e.isSubmissionFailure with
        | false => exact hnone hsubmit
        | true =>
          simp only [Bool.false_eq_true, if_false, if_true, Bool.not_false, Bool.and_self, Bool.false_and]
          have hread : SentUnder kind idOf [] x₁ _ := .of_sent (exchangeQuantityFor_sent x₁ plan.symbol plan.direction)
          cases hlive : exchangeQuantityFor x₁ plan.symbol plan.direction with
          | mk out x₂ =>
            rw [hlive] at hread
            have hbefore := hsubmit.then_none hread
            cases out with
            | error e' => exact hemergency x₂ _ _ hbefore
            | ok q =>
              dsimp only
              by_cases hq : 0 < q
              · rw [dif_pos hq, dif_pos hq, if_neg (by decide)]
                cases hretry : plan.retry q hq 2 with
                | error e' => exact hnone hbefore
                | ok plan' =>
                  obtain ⟨hposition, -, -, hminted', -⟩ := retry_ok hretry
                  have hsecond := protectionAttempts_one_sentUnder (hposition ▸ h) hminted' x₂ 2 ([] ++ [.retriedSubmission])
                  have hboth := hbefore.trans hsecond
                  unfold ProtectionPlan.givenUpAt at hboth
                  simpa using hboth
              · rw [dif_neg hq, dif_neg hq]
                exact hnone hbefore

end

/-! ## The steps -/

/-- The exchange after a ladder whose plan may not be made. -/
def planExchange (plan : Except PyError ProtectionPlan) (x : Exchange) : Exchange :=
  match plan with
  | .ok plan => (ensureProtection x plan).2
  | .error _ => x

theorem protectEntry_exchange (w : World) (c : ConfirmedEntry) (attempt : ℕ) :
    (protectEntry w c attempt).2.exchange = planExchange (c.plan w.db.uuid4.1 attempt) w.exchange := by
  unfold protectEntry protectPlan planExchange
  dsimp only
  cases c.plan w.db.uuid4.1 attempt with
  | error e => rfl
  | ok plan =>
    dsimp only
    rcases ensureProtection w.exchange plan with ⟨_ | result, x⟩ <;> rfl

theorem GapAdoption.persist_exchange (a : GapAdoption) (w : World) (r : GapRequest) (plan : Option ProtectionPlan)
    (protection : Option ProtectionResult) (x : Exchange) (db : Database) :
    (a.persist w r plan protection x db).2.exchange = x := by
  unfold GapAdoption.persist
  split <;> rfl

/-- A gap that is adopted is protected by a ladder of its own, unless it is not projected. -/
theorem adoptGap_exchange (w : World) (r : GapRequest) (a : GapAdoption) :
    (adoptGap w r a).2.exchange = if a.shouldProject w.db r then planExchange (a.plan w.db r) w.exchange else w.exchange := by
  unfold adoptGap planExchange
  split
  · cases a.plan w.db r with
    | error e => rfl
    | ok plan =>
      dsimp only
      rcases ensureProtection w.exchange plan with ⟨_ | result, x⟩
      · rfl
      · dsimp only
        split
        · rfl
        · exact a.persist_exchange w r (some plan) (some result) x _
  · split
    · rfl
    · exact a.persist_exchange w r none none w.exchange _

/-- The branch without a position sends nothing. -/
theorem settleFlatGap_exchange (w : World) (r : GapRequest) (e : GapEvidence) :
    (settleFlatGap w r e).2.exchange = w.exchange := by
  unfold settleFlatGap
  dsimp only
  split
  · rfl
  · split
    · rfl
    · split
      · split <;> rfl
      · rfl
    · rfl

theorem submitResubmission_exchange (w : World) (action : RecoveryAction) (plan : ProtectionPlan) :
    (submitResubmission w action plan).2.exchange = (ensureProtection w.exchange plan).2 := by
  unfold submitResubmission
  rcases ensureProtection w.exchange plan with ⟨_ | result, x⟩
  · rfl
  · dsimp only
    split
    · unfold handled
      split <;> rfl
    · rfl

/-! ### A tightening -/

/-- A tightening sends what its stop does: the cancellation of the old stop sends nothing. -/
theorem tightenStop_sentUnder {kind : OrderRequest → Bool} {idOf : ℕ → Except PyError String} {numbers : List ℕ} {w : World}
    {p : LocalPositionView} {t : Tightening} (hid : ∀ e, stopClientOrderId p.positionId t.revision = .error e → numbers = [])
    (hsubmit : ∀ clientOrderId, stopClientOrderId p.positionId t.revision = .ok clientOrderId →
      SentUnder kind idOf numbers w.exchange (submitReplacement w.exchange p t.safeStop clientOrderId).2) (failure : StoreFailure) :
    SentUnder kind idOf numbers w.exchange (tightenStop w p t failure).2.exchange := by
  rcases hrun : tightenStop w p t failure with ⟨out, w'⟩
  have hcancel : ∀ {x x' : Exchange} {out : Except PyError Unit}, cancelOrder x t.oldStopExchangeOrderId = (out, x') →
      SentUnder kind idOf [] x x' := by
    intro x x' out h
    have hsent := cancelOrder_sent x t.oldStopExchangeOrderId
    rw [h] at hsent
    exact .of_sent hsent
  rcases tightenStop_cases hrun with ⟨e, -, hclient, hw⟩ | ⟨clientOrderId, hclient, hrest⟩
  · rw [hid e hclient, hw]
    exact SentUnder.refl kind idOf w.exchange
  · have hsent := hsubmit clientOrderId hclient
    rcases hrest with ⟨e, x, -, hsubmitted, rfl⟩ | ⟨receipt, x, hsubmitted, hrest⟩
    · rw [hsubmitted] at hsent
      exact hsent
    · rw [hsubmitted] at hsent
      rcases hrest with ⟨e, x', -, hcancelled, rfl⟩ | ⟨e, x', -, hcancelled, -, rfl⟩ | ⟨-, hreplacement⟩
      · exact hsent.then_none (hcancel hcancelled)
      · exact hsent.then_none (hcancel hcancelled)
      · exact hsent.then_none (hcancel hreplacement.cancelled)

/-- The exchange after profit protection is the one after its loop. -/
theorem applyProfitProtection_exchange (w : World) (symbol : String) (snapshot : AuthoritativeAccountSnapshot)
    (localState : LocalStateView) (tickSize : ℚ) (failure : StoreFailure) :
    (applyProfitProtection w symbol snapshot localState tickSize failure).2.exchange =
      (tightenDue failure (dueTightenings symbol snapshot tickSize localState.positions) w).2.exchange := by
  unfold applyProfitProtection
  rw [tightenStops_eq]
  rcases tightenDue failure (dueTightenings symbol snapshot tickSize localState.positions) w with ⟨_ | _, w'⟩ <;> rfl

/-! ### A decided exit -/

theorem cancelProtection_sent (x : Exchange) (orderIds : List String) : (cancelProtection x orderIds).sent = x.sent := by
  unfold cancelProtection
  induction orderIds generalizing x with
  | nil => rfl
  | cons id rest ih =>
    rw [List.foldl_cons, ih]
    exact cancelOrder_sent x id

theorem stillOpen_sent (x : Exchange) (symbol : String) (direction : Direction) : (stillOpen x symbol direction).2.sent = x.sent := by
  have hread := fetchAuthoritativeSnapshot_sent x
  unfold stillOpen
  split
  · rename_i e x₁ heq
    rw [heq] at hread
    exact hread
  · rename_i snapshot x₁ heq
    rw [heq] at hread
    exact hread

theorem reconcileAlreadyFlat_sent (x : Exchange) (decision : ExitDecision) (orderIds : List String) :
    (reconcileAlreadyFlat x decision orderIds).2.sent = x.sent := by
  have hopen := stillOpen_sent x decision.symbol decision.direction
  unfold reconcileAlreadyFlat
  split
  · rename_i x₁ heq
    rw [heq] at hopen
    exact (cancelProtection_sent x₁ orderIds).trans hopen
  · rename_i x₁ heq
    rw [heq] at hopen
    exact hopen

theorem settleExit_sent (x : Exchange) (decision : ExitDecision) (receipt : ExchangeOrderReceipt) (quantity stepSize : ℚ)
    (orderIds : List String) : (settleExit x decision receipt quantity stepSize orderIds).2.sent = x.sent := by
  unfold settleExit
  dsimp only
  split
  · rfl
  · split
    · rfl
    · split
      · rfl
      · split
        · exact cancelProtection_sent x orderIds
        · rfl

/-- A decided exit sends what its order does: everything after its submission sends nothing. -/
theorem executeReduceOnlyExit_sentUnder {kind : OrderRequest → Bool} {idOf : ℕ → Except PyError String} {numbers : List ℕ}
    {x : Exchange} {decision : ExitDecision} (hverdict : decision.verdict ≠ .approved → numbers = [])
    (hexit : decision.verdict = .approved → SentUnder kind idOf numbers x (submitReduceOnlyExit x
      { positionId := decision.positionId, exitReason := decision.reason.value, reduceQuantity := decision.quantity,
        clientOrderId := decision.clientOrderId, isEmergency := decision.reason.isHardExit }
      decision.symbol decision.exchangeSide).2) (quantity stepSize : ℚ) (orderIds : List String) :
    SentUnder kind idOf numbers x (executeReduceOnlyExit x decision quantity stepSize orderIds).2 := by
  unfold executeReduceOnlyExit
  dsimp only
  split
  · rename_i hblocked
    rw [hverdict (by rw [hblocked]; decide)]
    exact SentUnder.refl kind idOf x
  · rename_i hflat
    rw [hverdict (by rw [hflat]; decide)]
    exact SentUnder.refl kind idOf x
  · rename_i happroved
    have hsubmit := hexit happroved
    split
    · rename_i detail x₁ heq
      rw [heq] at hsubmit
      exact hsubmit.then_none (.of_sent (reconcileAlreadyFlat_sent x₁ decision orderIds))
    · rename_i detail x₁ heq
      rw [heq] at hsubmit
      exact hsubmit
    · rename_i detail x₁ heq
      rw [heq] at hsubmit
      exact hsubmit
    · rename_i e x₁ _ _ _ heq
      rw [heq] at hsubmit
      exact hsubmit
    · rename_i receipt x₁ heq
      rw [heq] at hsubmit
      exact hsubmit.then_none (.of_sent (settleExit_sent x₁ decision receipt quantity stepSize orderIds))

theorem ExitCycle.persist_exchange (c : ExitCycle) (p : LocalPositionView) (result : ExitExecutionResult) (s : ExitRun) :
    (c.persist p result s).exchange = s.exchange := by
  have hrecord : ∀ (s : ExitRun) what out, (s.record what out).exchange = s.exchange := by
    intro s what out
    cases out <;> rfl
  unfold ExitCycle.persist
  split
  · rfl
  · dsimp only
    split <;> simp only [hrecord]

/-- An emergency close is a decided exit, or nothing at all. -/
theorem executeEmergencyClose_exchange (w : World) (c : RecoveryContext) (action : RecoveryAction) :
    (executeEmergencyClose w c action).2.exchange = w.exchange ∨ ∃ decision quantity,
      (executeEmergencyClose w c action).2.exchange = (executeReduceOnlyExit w.exchange decision quantity c.stepSize).2 := by
  unfold executeEmergencyClose
  split
  · exact .inl rfl
  · split
    · exact .inl rfl
    · rename_i p _ _ decision _
      dsimp only
      split
      · exact .inl rfl
      · refine .inr ⟨decision, (c.snapshot.positionOf p.symbol p.direction).elim p.quantity (·.quantity), ?_⟩
        rcases executeReduceOnlyExit w.exchange decision
          ((c.snapshot.positionOf p.symbol p.direction).elim p.quantity (·.quantity)) c.stepSize with ⟨_ | _, x⟩ <;> rfl

/-- The exit of the cycle is a decided exit, or nothing at all. -/
theorem exitPosition_exchange (c : ExitCycle) (snapshot : AuthoritativeAccountSnapshot) (p : LocalPositionView) (s : ExitRun) :
    (c.exitPosition snapshot p s).2.exchange = s.exchange ∨ ∃ decision quantity,
      (c.exitPosition snapshot p s).2.exchange = (executeReduceOnlyExit s.exchange decision quantity c.stepSize).2 := by
  unfold ExitCycle.exitPosition
  dsimp only
  split
  · exact .inl rfl
  · split
    · exact .inl rfl
    · split
      · exact .inl rfl
      · rename_i decision _
        split
        · unfold ExitCycle.submit
          dsimp only
          split
          · exact .inl rfl
          · refine .inr ⟨decision, (snapshot.positionOf c.symbol p.direction).elim p.quantity (·.quantity), ?_⟩
            rcases executeReduceOnlyExit s.exchange decision
              ((snapshot.positionOf c.symbol p.direction).elim p.quantity (·.quantity)) c.stepSize with ⟨_ | result, x⟩
            · rfl
            · exact c.persist_exchange p result _
        · exact .inl rfl

end TradingPlatform
