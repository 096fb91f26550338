import TradingPlatform.Domain.Gain
import TradingPlatform.Engine.Entry

/-!
# What an entry submission reports

`execute_entry` over `submit_market_order`: a rejection without an exchange order id is a promise that the exchange holds no
order of the intent, and a request that was sent and never answered has to end undetermined. The adapter turns every exception
of the client into "unavailable", so both fail exactly when the reply to the order is lost or cannot be read.
-/

namespace TradingPlatform

/-! ## The statement -/

/-- What the result of a submission promises about the exchange. -/
structure SubmissionReported (clientOrderId : String) (result : EntryExecutionResult) (after : Exchange) : Prop where
  rejectedMeansAbsent : result.status = .rejected → result.exchangeOrderId = none →
    ∀ a ∈ after.orders, a.request.newClientOrderId ≠ clientOrderId
  unansweredMeansUnknown : clientOrderId ∈ after.unanswered →
    result.status = .unknown ∧ result.intentState = .exchangeUnknown

/-- The exchange knows nothing of the client id yet. -/
def Exchange.Fresh (x : Exchange) (clientOrderId : String) : Prop :=
  (∀ a ∈ x.orders, a.request.newClientOrderId ≠ clientOrderId) ∧ clientOrderId ∉ x.unanswered

/-- The quantity after rounding, if every check of `execute_entry` before the submission passes. -/
def EntryOrder.submittedQuantity (o : EntryOrder) : Option ℚ :=
  if o.candidate.lane = .shadow ∨ o.candidate.candidateType = .research ∨ o.gateResult.approved = false then none
  else
    match roundQuantityToStep o.quantity o.snapshot.stepSize with
    | .error _ => none
    | .ok q =>
      if q ≤ 0 ∨ q * o.snapshot.currentPrice < o.snapshot.minNotional ∨ o.engineActivation ≠ .active then none else some q

/-- The call returned. -/
def CallBehaviour.returns : CallBehaviour → Bool
  | .answered _ _ _ => true
  | _ => false

/-- The reply to an order was lost, or cannot be read. -/
def CallBehaviour.replyLost : CallBehaviour → Bool
  | .noReply _ _ => true
  | .answered _ hasId status => !(hasId && status.isSome)
  | _ => false

/-- The order is sent, the checks having passed and the leverage being set, and its reply is lost or cannot be read. -/
def LosesReply (x : Exchange) (o : EntryOrder) : Prop :=
  o.submittedQuantity.isSome = true ∧ x.gatewayError = none ∧ (x.behaviour x.calls).returns = true ∧
    (x.behaviour (x.calls + 1)).replyLost = true

/-! ## Client ids of the legs -/

namespace EntryAux

/-- A validated client id is the text itself. -/
theorem validateClientOrderId_ok {c c' : String} (h : validateClientOrderId c = .ok c') : c' = c := by
  unfold validateClientOrderId at h
  split at h
  · nomatch h
  · split at h
    · nomatch h
    · exact (Except.ok.inj h).symm

theorem entryClientOrderId_opening {intentId c : String} (h : entryClientOrderId intentId = .ok c) :
    c.toList.take 3 = ['A', '2', 'E'] := by
  unfold entryClientOrderId at h
  split at h
  · nomatch h
  · split at h
    · nomatch h
    · rw [validateClientOrderId_ok h]
      simp [OrderLegKind.opening]

theorem exitClientOrderId_opening {positionId c : String} (h : exitClientOrderId positionId = .ok c) :
    c.toList.take 3 = ['A', '2', 'X'] := by
  unfold exitClientOrderId at h
  split at h
  · nomatch h
  · split at h
    · nomatch h
    · rw [validateClientOrderId_ok h]
      simp [OrderLegKind.opening]

/-- An exit never carries the client id of an entry. -/
theorem entry_ne_exit {intentId positionId c c' : String} (h : entryClientOrderId intentId = .ok c)
    (h' : exitClientOrderId positionId = .ok c') : c ≠ c' := by
  intro heq
  have hopen := (entryClientOrderId_opening h).symm.trans (heq ▸ exitClientOrderId_opening h')
  exact absurd hopen (by decide)

/-! ## One call of the client -/

/-- A call to create an order leaves the unanswered requests alone, but for its own. -/
theorem createOrder_unanswered {x x' : Exchange} {request : OrderRequest} {out : Except PyError OrderResponse} {c : String}
    (h : x.createOrder request = (out, x')) (hc : c ≠ request.newClientOrderId) : c ∈ x'.unanswered ↔ c ∈ x.unanswered := by
  unfold Exchange.createOrder at h
  split at h <;> (obtain ⟨-, rfl⟩ := Prod.mk.inj h; simp [Exchange.send, Exchange.tick, Exchange.accept, hc])

theorem submitOrder_unanswered {x x' : Exchange} {request : OrderRequest} {price : Option ℚ}
    {out : Except PyError ExchangeOrderReceipt} {c : String} (h : submitOrder x request price = (out, x'))
    (hc : c ≠ request.newClientOrderId) : c ∈ x'.unanswered ↔ c ∈ x.unanswered := by
  unfold submitOrder at h
  split at h
  · rename_i e x'' hcall
    cases h
    exact createOrder_unanswered hcall hc
  · rename_i response x'' hcall
    cases h
    exact createOrder_unanswered hcall hc

/-- The order that unwinds a fill leaves the other unanswered requests alone. -/
theorem unwindOverMargin_unanswered {x : Exchange} {o : EntryOrder} {guardId c : String} {quantity : ℚ} (hc : c ≠ guardId) :
    c ∈ (unwindOverMargin x o guardId quantity).2.unanswered ↔ c ∈ x.unanswered := by
  have hexit : ∀ out x', submitReduceOnlyExit x (o.unwindCommand guardId quantity) o.candidate.symbol o.unwindSide =
      (out, x') → (c ∈ x'.unanswered ↔ c ∈ x.unanswered) := by
    intro out x' h
    unfold submitReduceOnlyExit at h
    split at h
    · cases h
      exact Iff.rfl
    · split at h
      · rename_i e x'' hcall
        cases h
        exact submitOrder_unanswered hcall hc
      · rename_i receipt x'' hcall
        cases h
        exact submitOrder_unanswered hcall hc
  unfold unwindOverMargin
  split
  · rename_i receipt x' h
    exact hexit _ _ h
  · rename_i e x' h
    exact hexit _ _ h

/-! ## The parts of `execute_entry` -/

/-- Once the order is acknowledged, every result carries its exchange order id, and no further request of this client id is
sent. -/
theorem settleEntry_reported {x : Exchange} {o : EntryOrder} {c : String} {q : ℚ} {receipt : ExchangeOrderReceipt}
    {result : EntryExecutionResult} (hc : entryClientOrderId o.intentId = .ok c) (hfresh : c ∉ x.unanswered)
    (h : (settleEntry x o c q receipt).1 = .ok result) :
    SubmissionReported c result (settleEntry x o c q receipt).2 := by
  have hid : result.exchangeOrderId = some receipt.exchangeOrderId ∧ c ∉ (settleEntry x o c q receipt).2.unanswered := by
    revert h
    unfold settleEntry
    simp only
    split
    · intro h
      cases h
      exact ⟨rfl, hfresh⟩
    · split
      · intro h
        cases h
        exact ⟨rfl, hfresh⟩
      · split
        · intro h
          cases h
          exact ⟨rfl, hfresh⟩
        · split
          · intro h
            nomatch h
          · intro h
            cases h
            exact ⟨rfl, hfresh⟩
          · split
            · intro h
              nomatch h
            · rename_i guardId hguard
              intro h
              cases h
              exact ⟨rfl, (unwindOverMargin_unanswered (entry_ne_exit hc hguard)).not.mpr hfresh⟩
  refine ⟨?_, ?_⟩
  · intro _ hnone
    rw [hid.1] at hnone
    nomatch hnone
  · intro hmem
    exact absurd hmem hid.2

/-- A result that leaves the exchange as it was and does not say unknown keeps every promise. -/
theorem reported_of_unchanged {c : String} {result : EntryExecutionResult} {x after : Exchange} (hfresh : x.Fresh c)
    (horders : after.orders = x.orders) (hunanswered : after.unanswered = x.unanswered) :
    SubmissionReported c result after := by
  refine ⟨?_, ?_⟩
  · intro _ _
    rw [horders]
    exact hfresh.1
  · intro hmem
    rw [hunanswered] at hmem
    exact absurd hmem hfresh.2

/-- A rejection without an id after the exchange accepted the order, or after the reply was lost, breaks the promise. -/
theorem not_reported_of_lost {c : String} {result : EntryExecutionResult} {after : Exchange}
    (hstatus : result.status = .rejected) (hid : result.exchangeOrderId = none)
    (h : (∃ a ∈ after.orders, a.request.newClientOrderId = c) ∨ c ∈ after.unanswered) :
    ¬SubmissionReported c result after := by
  intro hr
  rcases h with ⟨a, ha, hac⟩ | hmem
  · exact hr.rejectedMeansAbsent hstatus hid a ha hac
  · rw [(hr.unansweredMeansUnknown hmem).1] at hstatus
    nomatch hstatus

/-- An order whose reply is lost raises, and not through the fence; the exchange accepted it or the request stays
unanswered. -/
theorem submitOrder_lost {x : Exchange} (request : OrderRequest) (price : Option ℚ)
    (h : (x.behaviour x.calls).replyLost = true) :
    ∃ e x', submitOrder x request price = (.error e, x') ∧ (∀ what, ∃ m, wrapError what e = .adapterUnavailable m) ∧
      ((∃ a ∈ x'.orders, a.request = request) ∨ request.newClientOrderId ∈ x'.unanswered) := by
  unfold submitOrder Exchange.createOrder
  cases hcall : x.behaviour x.calls with
  | fenced detail => simp [hcall, CallBehaviour.replyLost] at h
  | refused message => simp [hcall, CallBehaviour.replyLost] at h
  | noReply message accepted =>
    cases accepted with
    | none => exact ⟨_, _, rfl, fun what => ⟨_, rfl⟩, Or.inr (by simp)⟩
    | some orderId => exact ⟨_, _, rfl, fun what => ⟨_, rfl⟩, Or.inr (by simp)⟩
  | answered orderId hasId status =>
    have haccepted : ∃ a ∈ (x.tick.accept orderId request).orders, a.request = request :=
      ⟨{ exchangeOrderId := orderId, request }, by simp [Exchange.accept], rfl⟩
    cases hasId with
    | false => exact ⟨_, _, rfl, fun what => ⟨_, rfl⟩, Or.inl haccepted⟩
    | true =>
      cases status with
      | none => exact ⟨_, _, rfl, fun what => ⟨_, rfl⟩, Or.inl haccepted⟩
      | some status => simp [hcall, CallBehaviour.replyLost] at h

/-- When the reply to the order is lost the intent is rejected without an id, and the exchange accepted the order or left the
request unanswered. -/
theorem submitEntry_lost {x : Exchange} {o : EntryOrder} {c : String} (q : ℚ) (hgateway : x.gatewayError = none)
    (hleverage : (x.behaviour x.calls).returns = true) (hlost : (x.behaviour (x.calls + 1)).replyLost = true) :
    (submitEntry x o c q).1 = .ok (rejectedUnavailable c q) ∧
      ((∃ a ∈ (submitEntry x o c q).2.orders, a.request.newClientOrderId = c) ∨ c ∈ (submitEntry x o c q).2.unanswered) := by
  cases hset : x.behaviour x.calls with
  | answered leverageId hasLeverageId leverageStatus =>
    obtain ⟨e, x', hsubmit, hwrap, hleft⟩ := submitOrder_lost (x := x.tick)
      (SubmitEntryToExchange.request ⟨o.intentId, q, o.leverage, c⟩ o.candidate.symbol o.side) none hlost
    obtain ⟨m, hm⟩ := hwrap "Cannot submit market order: "
    have heq : submitEntry x o c q = (.ok (rejectedUnavailable c q), x') := by
      unfold submitEntry submitMarketOrder
      simp only [hgateway, Exchange.setLeverage, hset, hsubmit]
      cases e <;> simp_all [wrapError]
    rw [heq]
    refine ⟨rfl, ?_⟩
    rcases hleft with ⟨a, ha, hrequest⟩ | hmem
    · exact Or.inl ⟨a, ha, by rw [hrequest]; rfl⟩
    · exact Or.inr hmem
  | _ => simp [hset, CallBehaviour.returns] at hleverage

/-- Unless an order is sent whose reply is lost, every result of the submission keeps its promises. -/
theorem submitEntry_reported {x : Exchange} {o : EntryOrder} {c : String} (q : ℚ)
    (hc : entryClientOrderId o.intentId = .ok c) (hfresh : x.Fresh c)
    (hkept : ¬(x.gatewayError = none ∧ (x.behaviour x.calls).returns = true ∧
      (x.behaviour (x.calls + 1)).replyLost = true)) {result : EntryExecutionResult}
    (h : (submitEntry x o c q).1 = .ok result) : SubmissionReported c result (submitEntry x o c q).2 := by
  have hcalls : x.tick.behaviour x.tick.calls = x.behaviour (x.calls + 1) := rfl
  revert h
  unfold submitEntry submitMarketOrder
  cases hgateway : x.gatewayError with
  | some message => exact fun _ => reported_of_unchanged hfresh rfl rfl
  | none =>
    cases hset : x.behaviour x.calls with
    | fenced detail => simp [Exchange.setLeverage, hset, wrapError]
    | refused message =>
      simp only [Exchange.setLeverage, hset, wrapError]
      exact fun _ => reported_of_unchanged hfresh rfl rfl
    | noReply message accepted =>
      simp only [Exchange.setLeverage, hset, wrapError]
      exact fun _ => reported_of_unchanged hfresh rfl rfl
    | answered leverageId hasLeverageId leverageStatus =>
      -- the order is sent: its own reply decides
      simp only [hgateway, hset, CallBehaviour.returns, true_and, Bool.not_eq_true] at hkept
      simp only [Exchange.setLeverage, hset, submitOrder, Exchange.createOrder, hcalls]
      cases hreply : x.behaviour (x.calls + 1) with
      | fenced detail => simp [wrapError]
      | refused message =>
        simp only [wrapError]
        exact fun _ => reported_of_unchanged hfresh rfl rfl
      | noReply message accepted => simp [hreply, CallBehaviour.replyLost] at hkept
      | answered orderId hasId status =>
        cases hasId with
        | false => simp [hreply, CallBehaviour.replyLost] at hkept
        | true =>
          cases status with
          | none => simp [hreply, CallBehaviour.replyLost] at hkept
          | some status =>
            intro h
            exact settleEntry_reported hc hfresh.2 h

/-- Every result of the submission keeps its promises exactly if the reply to the order is not lost. -/
theorem submitEntry_reported_iff {x : Exchange} {o : EntryOrder} {c : String} (q : ℚ)
    (hc : entryClientOrderId o.intentId = .ok c) (hfresh : x.Fresh c) :
    (∀ result, (submitEntry x o c q).1 = .ok result → SubmissionReported c result (submitEntry x o c q).2) ↔
      ¬(x.gatewayError = none ∧ (x.behaviour x.calls).returns = true ∧
        (x.behaviour (x.calls + 1)).replyLost = true) := by
  constructor
  · rintro h ⟨hgateway, hleverage, hlost⟩
    obtain ⟨hresult, hleft⟩ := submitEntry_lost (o := o) (c := c) q hgateway hleverage hlost
    exact not_reported_of_lost rfl rfl hleft (h _ hresult)
  · intro h result hresult
    exact submitEntry_reported q hc hfresh h hresult

/-- `execute_entry` sends nothing, or is the submission of the rounded quantity. -/
theorem executeEntry_eq {x : Exchange} {o : EntryOrder} {c : String} (hc : entryClientOrderId o.intentId = .ok c) :
    (o.submittedQuantity = none ∧ (executeEntry x o).2 = x) ∨
      ∃ q, o.submittedQuantity = some q ∧ executeEntry x o = submitEntry x o c q := by
  unfold executeEntry EntryOrder.submittedQuantity
  rw [hc]
  simp only
  by_cases hshadow : o.candidate.lane = .shadow ∨ o.candidate.candidateType = .research
  · left
    rcases hshadow with hshadow | hshadow <;> simp [hshadow]
  · rw [not_or] at hshadow
    by_cases happroved : o.gateResult.approved = true
    · simp only [hshadow.1, hshadow.2, happroved, or_self, if_false, Bool.not_true, Bool.true_eq_false, Bool.false_eq_true]
      cases hround : roundQuantityToStep o.quantity o.snapshot.stepSize with
      | error e => simp
      | ok q =>
        by_cases hq : q ≤ 0
        · simp [hq]
        · by_cases hn : q * o.snapshot.currentPrice < o.snapshot.minNotional
          · simp [hq, hn]
          · by_cases ha : o.engineActivation = .active
            · right
              refine ⟨q, ?_, ?_⟩
              · simp [hq, hn, ha]
              · simp [hq, hn, ha]
            · simp [hq, hn, ha]
    · left
      simp [hshadow.1, hshadow.2, happroved]

end EntryAux

open EntryAux

/-- A submission keeps its promises, whatever the client does, exactly if it does not lose the reply to its order. -/
theorem executeEntry_reported_iff (x : Exchange) (o : EntryOrder) (clientOrderId : String)
    (hid : entryClientOrderId o.intentId = .ok clientOrderId) (hfresh : x.Fresh clientOrderId) :
    (∀ result, (executeEntry x o).1 = .ok result → SubmissionReported clientOrderId result (executeEntry x o).2) ↔
      ¬LosesReply x o := by
  unfold LosesReply
  rcases executeEntry_eq (x := x) hid with ⟨hnone, hsame⟩ | ⟨q, hq, heq⟩
  · refine ⟨fun _ h => ?_, fun _ result _ => ?_⟩
    · rw [hnone] at h
      nomatch h.1
    · rw [hsame]
      exact reported_of_unchanged hfresh rfl rfl
  · rw [heq, submitEntry_reported_iff q hid hfresh, hq]
    simp only [Option.isSome_some, true_and]

/-! ## A lost reply -/

/-- A long candidate for one coin. -/
def sampleCandidate (symbol : String) : TradeCandidate where
  candidateId := "candidate-1"
  cycleId := "cycle-1"
  strategyId := "strategy"
  strategyVersion := "1"
  lane := .testnetSampling
  candidateType := .sampling
  symbol := symbol
  side := .long
  signalCandleCloseTime := 0
  signalReferencePrice := 100
  stopDistance := 1
  takeProfitDistance := some 2
  maxEntryDriftBps := 20
  expiresAt := 10
  nonPromotable := true
  referencePrice_pos := SampleLevels.hundred_pos
  stopDistance_pos := SampleLevels.one_pos
  takeProfitDistance_pos := by simp
  maxEntryDriftBps_pos := SampleLevels.twenty_pos
  expires_after_close := by norm_num
  sampling_nonPromotable := fun _ => rfl
  research_iff_shadow := sampling_iff_shadow
  research_nonPromotable := by decide

/-- An approved order for one coin. -/
def sampleOrder : EntryOrder where
  candidate := sampleCandidate "BTC/USDT"
  gateResult := { approved := true, reasonCode := .ok }
  snapshot := { symbol := "BTC/USDT", currentPrice := 100, atr := 0, tickSize := 1 / 10, stepSize := 1 / 1000,
                minNotional := 5 }
  intentId := "intent-1"
  quantity := 1
  leverage := 3
  engineActivation := .active

/-- The leverage is set, and the order gets the given reply. -/
def exchangeReplying (reply : CallBehaviour) : Exchange where
  behaviour n := if n = 0 then .answered "0" true (some "ok") else reply

/-- The client order id of the sample order. -/
def sampleClientOrderId : String := "A2E-eb4c4dd912314203417c-1"

/-- The order is accepted and the reply times out: the intent is rejected while the exchange holds the order. -/
theorem executeEntry_reported_false :
    entryClientOrderId sampleOrder.intentId = .ok sampleClientOrderId ∧
    (exchangeReplying (.noReply "timed out" (some "77"))).Fresh sampleClientOrderId ∧
    ¬∀ result, (executeEntry (exchangeReplying (.noReply "timed out" (some "77"))) sampleOrder).1 = .ok result →
      SubmissionReported sampleClientOrderId result
        (executeEntry (exchangeReplying (.noReply "timed out" (some "77"))) sampleOrder).2 := by
  refine ⟨by decide +kernel, by simp [Exchange.Fresh, exchangeReplying], ?_⟩
  intro h
  refine not_reported_of_lost rfl rfl (Or.inl ?_) (h (rejectedUnavailable sampleClientOrderId 1) (by decide +kernel))
  decide +kernel

/-- An order that is answered keeps its promises. -/
theorem executeEntry_reported_answered :
    (exchangeReplying (.answered "77" true (some "open"))).Fresh sampleClientOrderId ∧
    ∀ result, (executeEntry (exchangeReplying (.answered "77" true (some "open"))) sampleOrder).1 = .ok result →
      SubmissionReported sampleClientOrderId result
        (executeEntry (exchangeReplying (.answered "77" true (some "open"))) sampleOrder).2 := by
  have hfresh : (exchangeReplying (.answered "77" true (some "open"))).Fresh sampleClientOrderId := by
    simp [Exchange.Fresh, exchangeReplying]
  refine ⟨hfresh, (executeEntry_reported_iff _ sampleOrder sampleClientOrderId (by decide +kernel) hfresh).mpr ?_⟩
  simp [LosesReply, exchangeReplying, CallBehaviour.replyLost]

end TradingPlatform
