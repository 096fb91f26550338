import TradingPlatform.Lib.Loops
import TradingPlatform.Engine.Protection

/-!
# What one call does to the exchange

A call is summarised by the id the exchange accepted the order under, if it did, and the id the engine reads off the reply, if
it can. Every submission of the adapter is described in these terms, and the callers never unfold a call.
-/

namespace TradingPlatform

/-! ## One call -/

/-- The id the exchange accepted the order under. -/
def CallBehaviour.acceptedId : CallBehaviour → Option String
  | .noReply _ accepted => accepted
  | .answered orderId _ _ => some orderId
  | _ => none

/-- The id the engine reads off the reply. -/
def CallBehaviour.readableId : CallBehaviour → Option String
  | .answered orderId true (some _) => some orderId
  | _ => none

/-- A reply that can be read is to an accepted order. -/
theorem CallBehaviour.acceptedId_of_readable {b : CallBehaviour} {id : String} (h : b.readableId = some id) :
    b.acceptedId = some id := by
  unfold CallBehaviour.readableId at h
  split at h
  · exact h
  · nomatch h

/-- The exchange differs by the calls made, the orders accepted and the requests left unanswered only. -/
structure Exchange.SameScript (x x' : Exchange) : Prop where
  behaviour : x'.behaviour = x.behaviour
  gatewayError : x'.gatewayError = x.gatewayError

theorem Exchange.SameScript.refl (x : Exchange) : x.SameScript x := ⟨rfl, rfl⟩

theorem Exchange.SameScript.trans {x x' x'' : Exchange} (h : x.SameScript x') (h' : x'.SameScript x'') :
    x.SameScript x'' :=
  ⟨h'.behaviour.trans h.behaviour, h'.gatewayError.trans h.gatewayError⟩

/-- The exchange answers the same about the orders it is asked for. -/
structure Exchange.SameAnswers (x x' : Exchange) : Prop where
  gatewayError : x'.gatewayError = x.gatewayError
  trades : x'.trades = x.trades
  orderStatus : x'.orderStatus = x.orderStatus

theorem Exchange.SameAnswers.refl (x : Exchange) : x.SameAnswers x := ⟨rfl, rfl, rfl⟩

theorem Exchange.SameAnswers.trans {x x' x'' : Exchange} (h : x.SameAnswers x') (h' : x'.SameAnswers x'') :
    x.SameAnswers x'' :=
  ⟨h'.gatewayError.trans h.gatewayError, h'.trades.trans h.trades, h'.orderStatus.trans h.orderStatus⟩

theorem submitOrder_answers (x : Exchange) (request : OrderRequest) (price : Option ℚ) :
    x.SameAnswers (submitOrder x request price).2 := by
  unfold submitOrder Exchange.createOrder
  cases x.behaviour x.calls with
  | fenced detail => exact ⟨rfl, rfl, rfl⟩
  | refused message => exact ⟨rfl, rfl, rfl⟩
  | noReply message accepted => cases accepted <;> exact ⟨rfl, rfl, rfl⟩
  | answered orderId hasId status => exact ⟨rfl, rfl, rfl⟩

theorem submitProtection_answers (x : Exchange) (command : SubmitProtectionOrders) (symbol side : String) (quantity : ℚ) :
    x.SameAnswers (submitProtection x command symbol side quantity).2 := by
  have hlegs : x.SameAnswers (submitProtectionLegs x command symbol side quantity).2 := by
    have hstop := submitOrder_answers x (command.stopRequest symbol side quantity) (some command.stopLossPrice)
    unfold submitProtectionLegs
    split
    · rename_i e x₁ heq
      rw [heq] at hstop
      exact hstop
    · rename_i stopReceipt x₁ heq
      rw [heq] at hstop
      split
      · exact hstop
      · rename_i price clientOrderId _
        have htarget := submitOrder_answers x₁ (targetRequest clientOrderId symbol side quantity) (some price)
        split
        · rename_i e x₂ heq'
          rw [heq'] at htarget
          exact hstop.trans htarget
        · rename_i tpReceipt x₂ heq'
          rw [heq'] at htarget
          exact hstop.trans htarget
  unfold submitProtection
  split
  · exact Exchange.SameAnswers.refl x
  · split
    · rename_i e x₁ heq
      rw [heq] at hlegs
      exact hlegs
    · rename_i receipts x₁ heq
      rw [heq] at hlegs
      exact hlegs

theorem submitReduceOnlyExit_answers (x : Exchange) (command : SubmitReduceOnlyExit) (symbol side : String) :
    x.SameAnswers (submitReduceOnlyExit x command symbol side).2 := by
  have hsubmit := submitOrder_answers x
    { symbol, type := .market, side, amount := command.reduceQuantity, newClientOrderId := command.clientOrderId,
      reduceOnly := true } none
  unfold submitReduceOnlyExit
  split
  · exact Exchange.SameAnswers.refl x
  · split
    · rename_i e x₁ heq
      rw [heq] at hsubmit
      exact hsubmit
    · rename_i receipt x₁ heq
      rw [heq] at hsubmit
      exact hsubmit

/-- The order an accepted request becomes. -/
def OrderRequest.acceptedAs (request : OrderRequest) (id : Option String) : List AcceptedOrder :=
  id.toList.map fun orderId => { exchangeOrderId := orderId, request }

/-- One submission: the orders it adds, the calls it makes, and whether its receipt can be read. -/
theorem submitOrder_spec {x x' : Exchange} {request : OrderRequest} {price : Option ℚ}
    {out : Except PyError ExchangeOrderReceipt} (h : submitOrder x request price = (out, x')) :
    x.SameScript x' ∧ x'.calls = x.calls + 1 ∧
      x'.orders = x.orders ++ request.acceptedAs (x.behaviour x.calls).acceptedId ∧
      (∀ receipt, out = .ok receipt → (x.behaviour x.calls).readableId = some receipt.exchangeOrderId ∧
        receipt.clientOrderId = request.newClientOrderId) ∧
      (∀ e, out = .error e → (x.behaviour x.calls).readableId = none) := by
  unfold submitOrder Exchange.createOrder at h
  cases hb : x.behaviour x.calls with
  | fenced detail =>
    rw [hb] at h
    cases h
    refine ⟨⟨rfl, rfl⟩, rfl, by simp [Exchange.tick, OrderRequest.acceptedAs, CallBehaviour.acceptedId], nofun, ?_⟩
    exact fun _ _ => rfl
  | refused message =>
    rw [hb] at h
    cases h
    refine ⟨⟨rfl, rfl⟩, rfl, by simp [Exchange.send, Exchange.tick, OrderRequest.acceptedAs, CallBehaviour.acceptedId], nofun, ?_⟩
    exact fun _ _ => rfl
  | noReply message accepted =>
    rw [hb] at h
    cases accepted with
    | none =>
      cases h
      refine ⟨⟨rfl, rfl⟩, rfl, by simp [Exchange.send, Exchange.tick, OrderRequest.acceptedAs, CallBehaviour.acceptedId], nofun, ?_⟩
      exact fun _ _ => rfl
    | some orderId =>
      cases h
      exact ⟨⟨rfl, rfl⟩, rfl, rfl, nofun, fun _ _ => rfl⟩
  | answered orderId hasId status =>
    rw [hb] at h
    cases hasId with
    | false =>
      cases h
      exact ⟨⟨rfl, rfl⟩, rfl, rfl, nofun, fun _ _ => rfl⟩
    | true =>
      cases status with
      | none =>
        cases h
        exact ⟨⟨rfl, rfl⟩, rfl, rfl, nofun, fun _ _ => rfl⟩
      | some status =>
        cases h
        refine ⟨⟨rfl, rfl⟩, rfl, rfl, ?_, nofun⟩
        intro receipt hr
        cases hr
        exact ⟨rfl, rfl⟩

/-! ## A protection submission -/

/-- The two legs returned: both replies were read, and the exchange holds exactly their orders more. -/
theorem submitProtectionLegs_ok {x x' : Exchange} {command : SubmitProtectionOrders} {symbol side : String} {quantity : ℚ}
    {stop : ExchangeOrderReceipt} {target : Option ExchangeOrderReceipt}
    (h : submitProtectionLegs x command symbol side quantity = (.ok (stop, target), x')) :
    x.SameScript x' ∧ (x.behaviour x.calls).readableId = some stop.exchangeOrderId ∧
      stop.clientOrderId = command.stopClientOrderId ∧
      ((command.targetLeg = none ∧ target = none ∧
          x'.orders = x.orders ++ [⟨stop.exchangeOrderId, command.stopRequest symbol side quantity, .pending⟩]) ∨
        ∃ price clientOrderId receipt, command.targetLeg = some (price, clientOrderId) ∧ target = some receipt ∧
          (x.behaviour (x.calls + 1)).readableId = some receipt.exchangeOrderId ∧
          x'.orders = x.orders ++ [⟨stop.exchangeOrderId, command.stopRequest symbol side quantity, .pending⟩,
            ⟨receipt.exchangeOrderId, targetRequest clientOrderId symbol side quantity, .pending⟩]) := by
  unfold submitProtectionLegs at h
  split at h
  · nomatch (Prod.mk.inj h).1
  · rename_i stopReceipt x₁ hstop
    obtain ⟨hscript, hcalls, horders, hok, -⟩ := submitOrder_spec hstop
    obtain ⟨hread, hid⟩ := hok stopReceipt rfl
    rw [CallBehaviour.acceptedId_of_readable hread] at horders
    split at h
    · rename_i hleg
      obtain ⟨hpair, rfl⟩ := Prod.mk.inj h
      cases hpair
      exact ⟨hscript, hread, hid, Or.inl ⟨hleg, rfl, horders⟩⟩
    · rename_i price clientOrderId hleg
      split at h
      · nomatch (Prod.mk.inj h).1
      · rename_i tpReceipt x₂ htarget
        obtain ⟨hscript₂, -, horders₂, hok₂, -⟩ := submitOrder_spec htarget
        obtain ⟨hread₂, -⟩ := hok₂ tpReceipt rfl
        rw [CallBehaviour.acceptedId_of_readable hread₂] at horders₂
        obtain ⟨hpair, rfl⟩ := Prod.mk.inj h
        cases hpair
        rw [hscript.behaviour, hcalls] at hread₂
        refine ⟨hscript.trans hscript₂, hread, hid, Or.inr ⟨price, clientOrderId, tpReceipt, hleg, rfl, hread₂, ?_⟩⟩
        rw [horders₂, horders, List.append_assoc]
        rfl

/-- The two legs raised: nothing was accepted, or the exchange holds a stop more and one of the replies was not read. -/
theorem submitProtectionLegs_error {x x' : Exchange} {command : SubmitProtectionOrders} {symbol side : String}
    {quantity : ℚ} {e : PyError} (h : submitProtectionLegs x command symbol side quantity = (.error e, x')) :
    x.SameScript x' ∧
      (((x.behaviour x.calls).acceptedId = none ∧ x'.calls = x.calls + 1 ∧ x'.orders = x.orders) ∨
        ∃ id rest, (x.behaviour x.calls).acceptedId = some id ∧
          x'.orders = x.orders ++ ⟨id, command.stopRequest symbol side quantity, .pending⟩ :: rest ∧
          (∀ a ∈ rest, a.request.type = .takeProfitMarket) ∧
          ¬((x.behaviour x.calls).readableId.isSome = true ∧
            (command.targetLeg.isSome = true → (x.behaviour (x.calls + 1)).readableId.isSome = true))) := by
  unfold submitProtectionLegs at h
  split at h
  · rename_i e' x₁ hstop
    obtain ⟨hscript, hcalls, horders, -, herr⟩ := submitOrder_spec hstop
    obtain ⟨-, rfl⟩ := Prod.mk.inj h
    refine ⟨hscript, ?_⟩
    cases haccepted : (x.behaviour x.calls).acceptedId with
    | none =>
      rw [haccepted] at horders
      exact Or.inl ⟨rfl, hcalls, horders.trans (List.append_nil _)⟩
    | some id =>
      rw [haccepted] at horders
      refine Or.inr ⟨id, [], rfl, horders, nofun, ?_⟩
      rw [herr e' rfl]
      exact fun hread => nomatch hread.1
  · rename_i stopReceipt x₁ hstop
    obtain ⟨hscript, hcalls, horders, hok, -⟩ := submitOrder_spec hstop
    obtain ⟨hread, -⟩ := hok stopReceipt rfl
    rw [CallBehaviour.acceptedId_of_readable hread] at horders
    split at h
    · nomatch (Prod.mk.inj h).1
    · rename_i price clientOrderId hleg
      split at h
      · rename_i e' x₂ htarget
        obtain ⟨hscript₂, -, horders₂, -, herr₂⟩ := submitOrder_spec htarget
        obtain ⟨-, rfl⟩ := Prod.mk.inj h
        have hunread := herr₂ e' rfl
        rw [hscript.behaviour, hcalls] at hunread
        refine ⟨hscript.trans hscript₂, Or.inr ⟨stopReceipt.exchangeOrderId,
          (targetRequest clientOrderId symbol side quantity).acceptedAs (x₁.behaviour x₁.calls).acceptedId,
          CallBehaviour.acceptedId_of_readable hread, ?_, ?_, ?_⟩⟩
        · rw [horders₂, horders, List.append_assoc]
          rfl
        · intro a ha
          simp only [OrderRequest.acceptedAs, List.mem_map] at ha
          obtain ⟨id, -, rfl⟩ := ha
          rfl
        · intro hboth
          have hsome := hboth.2 (by rw [hleg]; rfl)
          rw [hunread] at hsome
          nomatch hsome
      · nomatch (Prod.mk.inj h).1

end TradingPlatform
