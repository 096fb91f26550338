import TradingPlatform.Lemmas.Protection

/-!
# The requests that are sent

What each call adds to the requests sent to the exchange: nothing if it cannot reach the exchange, else orders of the quantity it
was given. A ladder sends orders of the quantity of its plan, and orders of the live quantity once it retries.
-/

namespace TradingPlatform

/-- The requests sent between two states. -/
def Exchange.sentSince (x x' : Exchange) : List OrderRequest := x'.sent.drop x.sent.length

/-- The fence refuses the call. -/
def CallBehaviour.isFenced : CallBehaviour → Bool
  | .fenced _ => true
  | _ => false

/-- The next order reaches the exchange: there is a gateway, and the fence lets it pass. -/
def Exchange.Reaches (x : Exchange) : Prop := x.gatewayError = none ∧ (x.behaviour x.calls).isFenced = false

/-- The requests sent between two states are of a quantity, and there are some exactly if `reached`. -/
structure SentOf (quantity : ℚ) (reached : Prop) (x x' : Exchange) : Prop where
  sent : ∃ added, x'.sent = x.sent ++ added ∧ (∀ r ∈ added, r.amount = quantity) ∧ (added ≠ [] ↔ reached)

section Sent

variable {quantity : ℚ} {reached : Prop} {x x' x'' : Exchange}

theorem SentOf.none (h : x'.sent = x.sent) (hnot : ¬reached) : SentOf quantity reached x x' :=
  ⟨[], by rw [h, List.append_nil], nofun, iff_of_false (fun h => h rfl) hnot⟩

/-- More of the quantity, after it was reached. -/
theorem SentOf.more {reached' : Prop} (h : SentOf quantity reached x x') (hreached : reached)
    (h' : SentOf quantity reached' x' x'') : SentOf quantity reached x x'' := by
  obtain ⟨added, hsent, hadded, hsome⟩ := h.sent
  obtain ⟨added', hsent', hadded', -⟩ := h'.sent
  refine ⟨added ++ added', by rw [hsent', hsent, List.append_assoc], fun r hr => ?_, iff_of_true ?_ hreached⟩
  · rcases List.mem_append.mp hr with hr | hr
    · exact hadded r hr
    · exact hadded' r hr
  · exact fun hnil => hsome.mpr hreached (List.append_eq_nil_iff.mp hnil).1

theorem SentOf.congr (h : SentOf quantity reached x x') (hsame : x''.sent = x'.sent) : SentOf quantity reached x x'' := by
  obtain ⟨added, hsent, hadded⟩ := h.sent
  exact ⟨added, hsame.trans hsent, hadded⟩

/-- What was sent is within a bound exactly if the quantity is, or nothing was sent. -/
theorem SentOf.within_iff (h : SentOf quantity reached x x') (bound : ℚ) :
    (∀ r ∈ x.sentSince x', r.amount ≤ bound) ↔ (reached → quantity ≤ bound) := by
  obtain ⟨added, hsent, hadded, hsome⟩ := h.sent
  unfold Exchange.sentSince
  rw [hsent, List.drop_left]
  constructor
  · intro hall hreached
    obtain ⟨r, hr⟩ := List.exists_mem_of_ne_nil added (hsome.mpr hreached)
    rw [← hadded r hr]
    exact hall r hr
  · intro hbound r hr
    rw [hadded r hr]
    exact hbound (hsome.mp (List.ne_nil_of_mem hr))

/-- What is sent in two stages. -/
theorem sentSince_trans {quantity' : ℚ} {reached' : Prop} (h : SentOf quantity reached x x')
    (h' : SentOf quantity' reached' x' x'') : x.sentSince x'' = x.sentSince x' ++ x'.sentSince x'' := by
  obtain ⟨added, hsent, -⟩ := h.sent
  obtain ⟨added', hsent', -⟩ := h'.sent
  unfold Exchange.sentSince
  rw [hsent', hsent, List.append_assoc, List.drop_left, List.drop_left, ← List.append_assoc, List.drop_left]

end Sent

/-! ## The calls -/

theorem submitOrder_sent (x : Exchange) (request : OrderRequest) (price : Option ℚ) :
    (submitOrder x request price).2.sent =
      x.sent ++ if (x.behaviour x.calls).isFenced then [] else [request] := by
  unfold submitOrder Exchange.createOrder
  cases x.behaviour x.calls with
  | fenced detail => exact (List.append_nil _).symm
  | refused message => rfl
  | noReply message accepted => cases accepted <;> rfl
  | answered orderId hasId status => rfl

/-- One submission sends its request if it reaches the exchange. -/
theorem submitOrder_sentOf {x : Exchange} (hgateway : x.gatewayError = none) (request : OrderRequest) (price : Option ℚ) :
    SentOf request.amount x.Reaches x (submitOrder x request price).2 := by
  have hsent := submitOrder_sent x request price
  by_cases hfenced : (x.behaviour x.calls).isFenced = true
  · rw [if_pos hfenced, List.append_nil] at hsent
    exact .none hsent fun hreaches => by rw [hreaches.2] at hfenced; nomatch hfenced
  · rw [if_neg hfenced] at hsent
    refine ⟨[request], hsent, fun r hr => ?_, iff_of_true (List.cons_ne_nil _ _) ⟨hgateway, Bool.eq_false_iff.mpr hfenced⟩⟩
    rw [List.mem_singleton.mp hr]

theorem fetchAuthoritativeSnapshot_sent (x : Exchange) : (fetchAuthoritativeSnapshot x).2.sent = x.sent := by
  unfold fetchAuthoritativeSnapshot
  split
  · rfl
  · split <;> rfl

theorem exchangeQuantityFor_sent (x : Exchange) (symbol : String) (direction : Direction) :
    (exchangeQuantityFor x symbol direction).2.sent = x.sent := by
  have hread := fetchAuthoritativeSnapshot_sent x
  unfold exchangeQuantityFor
  split
  · rename_i e x₁ heq
    rw [heq] at hread
    exact hread
  · rename_i snapshot x₁ heq
    rw [heq] at hread
    split <;> exact hread

/-- A submission of both legs sends orders of its quantity, the stop first. -/
theorem submitProtection_sentOf (x : Exchange) (command : SubmitProtectionOrders) (symbol side : String) (quantity : ℚ) :
    SentOf quantity x.Reaches x (submitProtection x command symbol side quantity).2 := by
  unfold submitProtection
  cases hgateway : x.gatewayError with
  | some message =>
    refine .none rfl fun hreaches => ?_
    rw [hreaches.1] at hgateway
    nomatch hgateway
  | none =>
    have hstop := submitOrder_sentOf hgateway (command.stopRequest symbol side quantity) (some command.stopLossPrice)
    have hlegs : SentOf quantity x.Reaches x (submitProtectionLegs x command symbol side quantity).2 := by
      unfold submitProtectionLegs
      cases hfirst : submitOrder x (command.stopRequest symbol side quantity) (some command.stopLossPrice) with
      | mk out x₁ =>
        rw [hfirst] at hstop
        cases out with
        | error e => exact hstop
        | ok receipt =>
          obtain ⟨hscript, -, -, hread, -⟩ := submitOrder_spec hfirst
          have hreaches : x.Reaches := by
            refine ⟨hgateway, ?_⟩
            have hreadable := (hread receipt rfl).1
            cases hb : x.behaviour x.calls with
            | fenced detail =>
              rw [hb] at hreadable
              nomatch hreadable
            | _ => rfl
          dsimp only
          split
          · exact hstop
          · rename_i price clientOrderId _
            have hgateway₁ : x₁.gatewayError = none := hscript.gatewayError.trans hgateway
            have htarget := submitOrder_sentOf hgateway₁ (targetRequest clientOrderId symbol side quantity) (some price)
            have hboth := hstop.more hreaches htarget
            split
            · rename_i e x₂ hsecond
              rw [hsecond] at hboth
              exact hboth
            · rename_i tpReceipt x₂ hsecond
              rw [hsecond] at hboth
              exact hboth
    dsimp only
    split
    · rename_i e x₁ heq
      rw [heq] at hlegs
      exact hlegs
    · rename_i receipts x₁ heq
      rw [heq] at hlegs
      exact hlegs

/-- A reduce-only exit sends one order of its quantity. -/
theorem submitReduceOnlyExit_sentOf (x : Exchange) (command : SubmitReduceOnlyExit) (symbol side : String) :
    SentOf command.reduceQuantity x.Reaches x (submitReduceOnlyExit x command symbol side).2 := by
  unfold submitReduceOnlyExit
  cases hgateway : x.gatewayError with
  | some message =>
    refine .none rfl fun hreaches => ?_
    rw [hreaches.1] at hgateway
    nomatch hgateway
  | none =>
    have hsubmit := submitOrder_sentOf hgateway
      { symbol, type := .market, side, amount := command.reduceQuantity, newClientOrderId := command.clientOrderId,
        reduceOnly := true } none
    dsimp only
    split
    · rename_i e x₁ heq
      rw [heq] at hsubmit
      exact hsubmit
    · rename_i receipt x₁ heq
      rw [heq] at hsubmit
      exact hsubmit

/-- A replacement stop is one order of its quantity. -/
theorem submitStopReplacement_sentOf (x : Exchange) (symbol side : String) (quantity stopPrice : ℚ) (clientOrderId : String) :
    SentOf quantity x.Reaches x (submitStopReplacement x symbol side quantity stopPrice clientOrderId).2 := by
  unfold submitStopReplacement
  cases hgateway : x.gatewayError with
  | some message =>
    refine .none rfl fun hreaches => ?_
    rw [hreaches.1] at hgateway
    nomatch hgateway
  | none =>
    have hsubmit := submitOrder_sentOf hgateway
      { symbol, type := .stopMarket, side, amount := quantity, newClientOrderId := clientOrderId, reduceOnly := true }
      (some stopPrice)
    dsimp only
    split
    · rename_i e x₁ heq
      rw [heq] at hsubmit
      exact hsubmit
    · rename_i receipt x₁ heq
      rw [heq] at hsubmit
      exact hsubmit

theorem cancelCall_sent (x : Exchange) (exchangeOrderId : String) (conditional : Bool) :
    (x.cancelCall exchangeOrderId conditional).2.sent = x.sent := by
  unfold Exchange.cancelCall
  cases x.behaviour x.calls with
  | noReply message accepted => cases accepted <;> rfl
  | _ => rfl

/-- A cancellation sends no order. -/
theorem cancelOrder_sent (x : Exchange) (exchangeOrderId : String) : (cancelOrder x exchangeOrderId).2.sent = x.sent := by
  unfold cancelOrder
  split
  · rfl
  · dsimp only
    have hcall := cancelCall_sent x exchangeOrderId (looksLikeBinanceAlgoOrderId exchangeOrderId && x.algoOrders)
    split
    · rename_i x₁ heq
      rw [heq] at hcall
      exact hcall
    · rename_i detail x₁ heq
      rw [heq] at hcall
      exact hcall
    · rename_i e x₁ _ heq
      rw [heq] at hcall
      split
      · exact hcall
      · have hagain := cancelCall_sent x₁ exchangeOrderId true
        split
        · rename_i x₂ heq'
          rw [heq'] at hagain
          exact hagain.trans hcall
        · rename_i e' x₂ heq'
          rw [heq'] at hagain
          exact hagain.trans hcall

theorem verifyEmergencyClose_sent (x : Exchange) (plan : ProtectionPlan) (actions : List ProtectionFailureAction) (attempts : ℕ) :
    (verifyEmergencyClose x plan actions attempts).2.sent = x.sent := by
  have hread := exchangeQuantityFor_sent x plan.symbol plan.direction
  unfold verifyEmergencyClose
  dsimp only
  split
  · rename_i e x₁ heq
    rw [heq] at hread
    exact hread
  · rename_i live x₁ heq
    rw [heq] at hread
    split <;> exact hread

/-- The emergency sends orders of the quantity of its plan, and none without a gateway. -/
theorem escalateEmergency_sentOf (x : Exchange) (plan : ProtectionPlan) (actions : List ProtectionFailureAction) (attempts : ℕ) :
    ∃ reached, (reached → x.Reaches) ∧ SentOf plan.quantity reached x (escalateEmergency x plan actions attempts).2 := by
  unfold escalateEmergency
  split
  · exact ⟨False, False.elim, .none rfl id⟩
  · rename_i clientOrderId _
    refine ⟨x.Reaches, id, ?_⟩
    have hsubmit : SentOf plan.quantity x.Reaches x _ :=
      submitReduceOnlyExit_sentOf x (plan.emergencyCommand clientOrderId) plan.symbol plan.protectionSide
    split
    · rename_i detail x₁ heq
      rw [heq] at hsubmit
      exact hsubmit
    · rename_i x₁ _ heq
      rw [heq] at hsubmit
      exact hsubmit.congr (verifyEmergencyClose_sent x₁ plan _ attempts)

/-- What was sent, and the emergency after it. -/
theorem SentOf.emergency {x x₁ : Exchange} {plan : ProtectionPlan} (h₁ : SentOf plan.quantity x.Reaches x x₁) (hreaches : x.Reaches)
    (actions : List ProtectionFailureAction) (attempts : ℕ) :
    SentOf plan.quantity x.Reaches x (escalateEmergency x₁ plan actions attempts).2 := by
  obtain ⟨_, -, h₂⟩ := escalateEmergency_sentOf x₁ plan actions attempts
  exact h₁.more hreaches h₂

/-! ## The ladder -/

/-- The first submission failed, and the re-read finds a live quantity: the ladder retries with it. -/
def Retries (x : Exchange) (plan : ProtectionPlan) (liveQuantity : ℚ) (x' : Exchange) : Prop :=
  ∃ e x₁, submitProtection x plan.command plan.symbol plan.protectionSide plan.quantity = (.error e, x₁) ∧
    e.isProtectionTimeout = false ∧ e.isSubmissionFailure = true ∧
      exchangeQuantityFor x₁ plan.symbol plan.direction = (.ok liveQuantity, x') ∧ 0 < liveQuantity

/-- A submission that does not reach the exchange ends in the fence, or there is no gateway. -/
theorem submitProtection_unreached {x : Exchange} (h : ¬x.Reaches) (command : SubmitProtectionOrders) (symbol side : String)
    (quantity : ℚ) :
    (∃ message, x.gatewayError = some message ∧
      submitProtection x command symbol side quantity = (.error (.adapterUnavailable message), x)) ∨
    ∃ detail, submitProtection x command symbol side quantity = (.error (.accountWriterFence detail), x.tick) := by
  cases hgateway : x.gatewayError with
  | some message =>
    refine .inl ⟨message, rfl, ?_⟩
    unfold submitProtection
    rw [hgateway]
  | none =>
    cases hb : x.behaviour x.calls with
    | fenced detail =>
      refine .inr ⟨detail, ?_⟩
      unfold submitProtection submitProtectionLegs submitOrder Exchange.createOrder
      rw [hgateway, hb]
      rfl
    | _ => exact absurd ⟨hgateway, by rw [hb]; rfl⟩ h

/-- A retry follows a submission that reached the exchange. -/
theorem Retries.reaches {x x' : Exchange} {plan : ProtectionPlan} {liveQuantity : ℚ} (h : Retries x plan liveQuantity x') :
    x.Reaches := by
  obtain ⟨e, x₁, hsubmit, -, hfailure, hread, -⟩ := h
  by_contra hnot
  rcases submitProtection_unreached hnot plan.command plan.symbol plan.protectionSide plan.quantity with
    ⟨message, hgateway, hfailed⟩ | ⟨detail, hfenced⟩
  · obtain ⟨-, rfl⟩ := Prod.mk.inj (hsubmit.symm.trans hfailed)
    rw [exchangeQuantityFor_gateway hread] at hgateway
    nomatch hgateway
  · obtain ⟨he, -⟩ := Prod.mk.inj (hsubmit.symm.trans hfenced)
    rw [Except.error.inj he] at hfailure
    nomatch hfailure

/-- A ladder that does not reach the exchange sends nothing. -/
theorem protectionAttempts_unreached {x : Exchange} (h : ¬x.Reaches) (maxAttempts n : ℕ) (plan : ProtectionPlan)
    (actions : List ProtectionFailureAction) : (protectionAttempts maxAttempts (n + 1) plan actions x).2.sent = x.sent := by
  unfold protectionAttempts
  rcases submitProtection_unreached h plan.command plan.symbol plan.protectionSide plan.quantity with
    ⟨message, hgateway, hfailed⟩ | ⟨detail, hfenced⟩
  · have hread : exchangeQuantityFor x plan.symbol plan.direction = (.error (.adapterUnavailable message), x) := by
      unfold exchangeQuantityFor fetchAuthoritativeSnapshot
      rw [hgateway]
    rw [hfailed]
    simp only [PyError.isProtectionTimeout, PyError.isSubmissionFailure, hread, Bool.false_eq_true, if_false, if_true]
    obtain ⟨reached, hreached, added, hsent, -, hsome⟩ := escalateEmergency_sentOf x plan actions (maxAttempts - n)
    have hnone : added = [] := by
      by_contra hne
      exact h (hreached (hsome.mp hne))
    rw [hsent, hnone, List.append_nil]
  · rw [hfenced]
    rfl

/-- One attempt without a retry sends orders of the quantity of its plan. -/
theorem protectionAttempts_last (x : Exchange) (maxAttempts : ℕ) (plan : ProtectionPlan) (actions : List ProtectionFailureAction) :
    SentOf plan.quantity x.Reaches x (protectionAttempts maxAttempts 1 plan actions x).2 := by
  by_cases hreaches : x.Reaches
  · have hfirst := submitProtection_sentOf x plan.command plan.symbol plan.protectionSide plan.quantity
    unfold protectionAttempts
    dsimp only
    split
    · rename_i e x₁ heq
      rw [heq] at hfirst
      split
      · exact hfirst
      · split
        · have hread := exchangeQuantityFor_sent x₁ plan.symbol plan.direction
          split
          · rename_i e' x₂ heq'
            rw [heq'] at hread
            exact (hfirst.congr hread).emergency hreaches _ _
          · rename_i live x₂ heq'
            rw [heq'] at hread
            split
            · rw [if_pos rfl]
              exact (hfirst.congr hread).emergency hreaches _ _
            · exact hfirst.congr hread
        · exact hfirst
    · rename_i stopReceipt tpReceipt x₁ heq
      rw [heq] at hfirst
      split
      · exact hfirst.emergency hreaches _ _
      · exact hfirst
  · exact .none (protectionAttempts_unreached hreaches maxAttempts 0 plan actions) hreaches

/-- What `ensure_protection` sends: orders of the quantity of the plan, and after a retry orders of the live quantity. -/
theorem ensureProtection_sent {x : Exchange} {plan : ProtectionPlan} (hid : plan.positionId ≠ "") :
    (SentOf plan.quantity x.Reaches x (ensureProtection x plan).2 ∧ ∀ live x', ¬Retries x plan live x') ∨
      ∃ live x', Retries x plan live x' ∧ SentOf plan.quantity x.Reaches x x' ∧
        SentOf live x'.Reaches x' (ensureProtection x plan).2 ∧
          ∀ live' x'', Retries x plan live' x'' → live' = live ∧ x'' = x' := by
  by_cases hreaches : x.Reaches
  · have hfirst := submitProtection_sentOf x plan.command plan.symbol plan.protectionSide plan.quantity
    unfold ensureProtection protectionAttempts
    dsimp only
    cases hsubmit : submitProtection x plan.command plan.symbol plan.protectionSide plan.quantity with
    | mk out x₁ =>
      rw [hsubmit] at hfirst
      cases out with
      | ok receipts =>
        refine .inl ⟨?_, fun live x' hretries => ?_⟩
        · dsimp only
          split
          · exact hfirst.emergency hreaches _ _
          · exact hfirst
        · obtain ⟨e, x₂, heq, -⟩ := hretries
          rw [hsubmit] at heq
          cases (Prod.mk.inj heq).1
      | error e =>
        have hread := exchangeQuantityFor_sent x₁ plan.symbol plan.direction
        have hunique : ∀ live x', Retries x plan live x' → e.isProtectionTimeout = false ∧ e.isSubmissionFailure = true ∧
            exchangeQuantityFor x₁ plan.symbol plan.direction = (.ok live, x') ∧ 0 < live := by
          rintro live x' ⟨e', x₂, heq, hrest⟩
          rw [hsubmit] at heq
          obtain ⟨he, rfl⟩ := Prod.mk.inj heq
          cases he
          exact hrest
        dsimp only
        split
        · rename_i htimeout
          refine .inl ⟨hfirst, fun live x' hretries => ?_⟩
          rw [(hunique live x' hretries).1] at htimeout
          cases htimeout
        · rename_i htimeout
          split
          · rename_i hfailure
            cases hlive : exchangeQuantityFor x₁ plan.symbol plan.direction with
            | mk out x₂ =>
              rw [hlive] at hread
              cases out with
              | error e' =>
                refine .inl ⟨(hfirst.congr hread).emergency hreaches _ _, fun live x' hretries => ?_⟩
                have hsame := (hunique live x' hretries).2.2.1
                rw [hlive] at hsame
                cases (Prod.mk.inj hsame).1
              | ok live =>
                dsimp only
                split
                · rename_i hpos
                  rw [if_neg (by decide)]
                  have hretries : Retries x plan live x₂ :=
                    ⟨e, x₁, hsubmit, Bool.eq_false_iff.mpr htimeout, hfailure, hlive, hpos⟩
                  obtain ⟨plan', hplan', hquantity⟩ : ∃ plan', plan.retry live hpos (2 - 1 + 1) = .ok plan' ∧
                    plan'.quantity = live := retry_isOk hid hpos (by decide)
                  rw [hplan']
                  have hsecond := protectionAttempts_last x₂ 2 plan' ([] ++ [.retriedSubmission])
                  rw [hquantity] at hsecond
                  refine .inr ⟨live, x₂, hretries, hfirst.congr hread, hsecond, fun live' x' hretries' => ?_⟩
                  have hsame := (hunique live' x' hretries').2.2.1
                  rw [hlive] at hsame
                  obtain ⟨hsameLive, rfl⟩ := Prod.mk.inj hsame
                  exact ⟨(Except.ok.inj hsameLive).symm, rfl⟩
                · rename_i hflat
                  refine .inl ⟨hfirst.congr hread, fun live' x' hretries => ?_⟩
                  obtain ⟨-, -, hsame, hpos⟩ := hunique live' x' hretries
                  rw [hlive] at hsame
                  obtain rfl := Except.ok.inj (Prod.mk.inj hsame).1
                  exact hflat hpos
          · rename_i hfailure
            refine .inl ⟨hfirst, fun live x' hretries => hfailure (hunique live x' hretries).2.1⟩
  · refine .inl ⟨.none (protectionAttempts_unreached hreaches 2 1 plan []) hreaches, fun live x' hretries => ?_⟩
    exact hreaches hretries.reaches

/-- The ladder retries with a live quantity beyond a bound, and the retry reaches the exchange. -/
def RetriesBeyond (x : Exchange) (plan : ProtectionPlan) (bound : ℚ) : Prop :=
  ∃ live x', Retries x plan live x' ∧ bound < live ∧ x'.Reaches

/-- What `ensure_protection` sends is within a bound exactly if the plan is, and no retry goes beyond it. -/
theorem ensureProtection_within_iff {x : Exchange} {plan : ProtectionPlan} (hid : plan.positionId ≠ "") (bound : ℚ) :
    (∀ r ∈ x.sentSince (ensureProtection x plan).2, r.amount ≤ bound) ↔
      (x.Reaches → plan.quantity ≤ bound) ∧ ¬RetriesBeyond x plan bound := by
  rcases ensureProtection_sent hid with ⟨hsent, hnone⟩ | ⟨live, x', hretries, hfirst, hsecond, hunique⟩
  · rw [hsent.within_iff bound]
    refine (and_iff_left ?_).symm
    rintro ⟨live, x', hretries, -⟩
    exact hnone live x' hretries
  · rw [sentSince_trans hfirst hsecond]
    simp only [List.mem_append, or_imp, forall_and]
    rw [hfirst.within_iff bound, hsecond.within_iff bound]
    refine and_congr_right fun _ => ?_
    constructor
    · rintro hwithin ⟨live', x'', hretries', hbeyond, hreaches⟩
      obtain ⟨rfl, rfl⟩ := hunique live' x'' hretries'
      exact absurd (hwithin hreaches) (not_le.mpr hbeyond)
    · intro hnot hreaches
      by_contra hbeyond
      exact hnot ⟨live, x', hretries, not_le.mp hbeyond, hreaches⟩

end TradingPlatform
