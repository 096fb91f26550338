import TradingPlatform.Lemmas.Ladder
import TradingPlatform.Theorems.ProtectionRounding
import TradingPlatform.Theorems.ReservationReleased

/-!
# Fills without protection

A fill that `execute_entry` confirmed inside a cycle is protected, found flat, unwound by the margin guard, or closed in an
emergency. Two ways out of the cycle leave it as it is: the guard whose order is not accepted, and a plan that cannot be made.
-/

namespace TradingPlatform

variable {r : EntryExecutionResult}

/-! ## The statement -/

/-- What a cycle leaves of a confirmed fill. -/
inductive Secured (s : EntryStage) (w : World) (r : EntryExecutionResult) (run : EntryRun) : Prop where
  /-- The protection is active under an exchange order id. -/
  | active (result : ProtectionResult) (hresult : run.protection = some result) (h : result.isActive = true)
  /-- The submission of the protection timed out. -/
  | unknown (result : ProtectionResult) (hresult : run.protection = some result) (h : result.outcome = .unknown)
  /-- A read of the account after the entry found the side flat. -/
  | flat (n : ℕ) (hfrom : (executeEntry w.exchange (s.order w.db.uuid4.1)).2.reads ≤ n) (hto : n < run.exchange.reads)
      (h : w.exchange.ReadsFlat n s.candidate.symbol s.candidate.side)
  /-- The exchange accepted the order of the margin guard. -/
  | guard (a : AcceptedOrder) (ha : a ∈ run.exchange.orders.drop w.exchange.orders.length)
      (hreduce : a.request.reduceOnly = true) (h : r.guardClientOrderId = some a.request.newClientOrderId)
  /-- The emergency close is pending. -/
  | emergency (result : ProtectionResult) (hresult : run.protection = some result) (h : result.Pending)

/-- The confirmed fill of the next order: the id the order is acknowledged under, its trades and their mean price. -/
structure Exchange.Fill (x : Exchange) (orderId : String) (total : FillAggregate) (vwap : ℚ) : Prop where
  acknowledged : (x.behaviour (x.calls + 1)).readableId = some orderId
  trades : ∃ fills, x.trades orderId = .ok fills ∧ aggregateFills fills = total
  price : total.vwap = some vwap

/-- The fill of the next order can be secured: above the margin ceiling the order of the guard is accepted, and otherwise the
order has an id and the stop and the target of its price can be placed. -/
def EntryStage.Securable (s : EntryStage) (x : Exchange) : Prop :=
  ∀ orderId total vwap, x.Fill orderId total vwap →
    match (s.order "").exceedsMarginCeiling total.quantity vwap with
    | .ok true => (x.behaviour (x.calls + 2)).acceptedId.isSome = true
    | _ => orderId ≠ "" ∧ 0 < vwap ∧ 0 < s.snapshotMarket.tickSize ∧ s.candidate.Placeable vwap s.snapshotMarket.tickSize

namespace NakedAux

/-! ## The fill that is observed -/

/-- The entry of an order that was acknowledged and filled. -/
structure Observed (x x' : Exchange) (o : EntryOrder) (r : EntryExecutionResult) (orderId : String) (total : FillAggregate)
    (vwap : ℚ) : Prop where
  fill : x.Fill orderId total vwap
  quantity_pos : 0 < total.quantity
  exchangeOrderId : r.exchangeOrderId = some orderId
  tradeIds : r.tradeIds ≠ []
  filledQuantity : r.filledQuantity = total.quantity
  averageFillPrice : r.averageFillPrice = some vwap
  account : x.SameAccount x'
  reads : x'.reads = x.reads
  within : o.exceedsMarginCeiling total.quantity vwap = .ok false →
    (r.status = .filled ∨ r.status = .partiallyFilled) ∧ r.guardExchangeOrderId = none ∧ r.guardClientOrderId = none
  above : o.exceedsMarginCeiling total.quantity vwap = .ok true →
    r.status = .rejected ∧ ∃ guardId entry, r.guardClientOrderId = some guardId ∧ entry.request.reduceOnly = false ∧
      ∃ request : OrderRequest, request.reduceOnly = true ∧ request.newClientOrderId = guardId ∧
        x'.orders = x.orders ++ [entry] ++ request.acceptedAs (x.behaviour (x.calls + 2)).acceptedId
  decided : ∃ exceeds, o.exceedsMarginCeiling total.quantity vwap = .ok exceeds

/-- The order of the guard. -/
theorem unwindOverMargin_spec {x : Exchange} (hgateway : x.gatewayError = none) (o : EntryOrder) (guardId : String) (quantity : ℚ) :
    x.SameAccount (unwindOverMargin x o guardId quantity).2 ∧ (unwindOverMargin x o guardId quantity).2.reads = x.reads ∧
      ∃ request : OrderRequest, request.reduceOnly = true ∧ request.newClientOrderId = guardId ∧
        (unwindOverMargin x o guardId quantity).2.orders = x.orders ++ request.acceptedAs (x.behaviour x.calls).acceptedId := by
  have haccount := submitReduceOnlyExit_account x (o.unwindCommand guardId quantity) o.candidate.symbol o.unwindSide
  have horders : ∃ request : OrderRequest, request.reduceOnly = true ∧ request.newClientOrderId = guardId ∧
      (submitReduceOnlyExit x (o.unwindCommand guardId quantity) o.candidate.symbol o.unwindSide).2.orders =
        x.orders ++ request.acceptedAs (x.behaviour x.calls).acceptedId := by
    unfold submitReduceOnlyExit
    rw [hgateway]
    dsimp only
    split
    · rename_i e x₁ heq
      exact ⟨_, rfl, rfl, (submitOrder_spec heq).2.2.1⟩
    · rename_i receipt x₁ heq
      exact ⟨_, rfl, rfl, (submitOrder_spec heq).2.2.1⟩
  unfold unwindOverMargin
  split
  · rename_i receipt x₁ heq
    rw [heq] at haccount horders
    exact ⟨haccount.1, haccount.2, horders⟩
  · rename_i e x₁ heq
    rw [heq] at haccount horders
    exact ⟨haccount.1, haccount.2, horders⟩

/-- What follows an acknowledgement: a result with a quantity is of the confirmed trades. -/
theorem settleEntry_filled {x x' : Exchange} {o : EntryOrder} {clientOrderId : String} {q : ℚ} {receipt : ExchangeOrderReceipt}
    {r : EntryExecutionResult} (h : settleEntry x o clientOrderId q receipt = (.ok r, x')) (hfilled : 0 < r.filledQuantity) :
    ∃ fills vwap, x.gatewayError = none ∧ x.trades receipt.exchangeOrderId = .ok fills ∧
      (aggregateFills fills).vwap = some vwap ∧ 0 < (aggregateFills fills).quantity ∧
      r.exchangeOrderId = some receipt.exchangeOrderId ∧ r.tradeIds ≠ [] ∧ r.filledQuantity = (aggregateFills fills).quantity ∧
      r.averageFillPrice = some vwap ∧
      ((o.exceedsMarginCeiling (aggregateFills fills).quantity vwap = .ok false ∧ x' = x ∧
          (r.status = .filled ∨ r.status = .partiallyFilled) ∧ r.guardExchangeOrderId = none ∧ r.guardClientOrderId = none) ∨
        (o.exceedsMarginCeiling (aggregateFills fills).quantity vwap = .ok true ∧ r.status = .rejected ∧
          ∃ guardId, r.guardClientOrderId = some guardId ∧
            x' = (unwindOverMargin x o guardId (aggregateFills fills).quantity).2)) := by
  unfold settleEntry at h
  dsimp only at h
  cases hfills : fetchFills x receipt.exchangeOrderId with
  | error e =>
    rw [hfills] at h
    rw [← Except.ok.inj (Prod.mk.inj h).1] at hfilled
    exact absurd hfilled (lt_irrefl _)
  | ok fills =>
    obtain ⟨hgateway, htrades⟩ : x.gatewayError = none ∧ x.trades receipt.exchangeOrderId = .ok fills := by
      unfold fetchFills at hfills
      split at hfills
      · nomatch hfills
      · rename_i hgateway
        split at hfills
        · nomatch hfills
        · rename_i fills' htrades
          rw [Except.ok.inj hfills] at htrades
          exact ⟨hgateway, htrades⟩
    rw [hfills] at h
    dsimp only at h
    cases hvwap : (aggregateFills fills).vwap with
    | none =>
      rw [hvwap] at h
      rw [← Except.ok.inj (Prod.mk.inj h).1] at hfilled
      exact absurd hfilled (lt_irrefl _)
    | some vwap =>
      rw [hvwap] at h
      dsimp only at h
      by_cases hnone : (aggregateFills fills).tradeIds = [] ∨ (aggregateFills fills).quantity ≤ 0
      · rw [if_pos hnone] at h
        rw [← Except.ok.inj (Prod.mk.inj h).1] at hfilled
        exact absurd hfilled (lt_irrefl _)
      · rw [if_neg hnone] at h
        rw [not_or, not_le] at hnone
        cases hexceeds : o.exceedsMarginCeiling (aggregateFills fills).quantity vwap with
        | error e =>
          rw [hexceeds] at h
          nomatch (Prod.mk.inj h).1
        | ok exceeds =>
          rw [hexceeds] at h
          cases exceeds with
          | false =>
            obtain ⟨hr, rfl⟩ := Prod.mk.inj h
            cases hr
            refine ⟨fills, vwap, hgateway, htrades, hvwap, hnone.2, rfl, hnone.1, rfl, rfl, .inl ⟨hexceeds, rfl, ?_, rfl, rfl⟩⟩
            dsimp only
            split
            · exact .inr rfl
            · exact .inl rfl
          | true =>
            dsimp only at h
            cases hguard : exitClientOrderId ("margin-guard:" ++ o.intentId) with
            | error e =>
              rw [hguard] at h
              nomatch (Prod.mk.inj h).1
            | ok guardId =>
              rw [hguard] at h
              obtain ⟨hr, rfl⟩ := Prod.mk.inj h
              cases hr
              exact ⟨fills, vwap, hgateway, htrades, hvwap, hnone.2, rfl, hnone.1, rfl, rfl, .inr ⟨hexceeds, rfl, guardId, rfl, rfl⟩⟩

/-- A confirmed fill was observed by the entry. -/
theorem executeEntry_filled {x x' : Exchange} {o : EntryOrder} (h : executeEntry x o = (.ok r, x'))
    (hfilled : 0 < r.filledQuantity) : ∃ orderId total vwap, Observed x x' o r orderId total vwap := by
  have hnothing : ∀ {r' : EntryExecutionResult} {x'' : Exchange}, r'.filledQuantity = 0 →
      ((.ok r', x'') : Except PyError EntryExecutionResult × Exchange) = (.ok r, x') → False := by
    intro r' x'' hzero heq
    rw [← Except.ok.inj (Prod.mk.inj heq).1, hzero] at hfilled
    exact lt_irrefl _ hfilled
  unfold executeEntry at h
  split at h
  · nomatch (Prod.mk.inj h).1
  rename_i clientOrderId _
  dsimp only at h
  split at h
  · exact (hnothing rfl h).elim
  split at h
  · exact (hnothing rfl h).elim
  split at h
  · nomatch (Prod.mk.inj h).1
  rename_i q _
  split at h
  · exact (hnothing rfl h).elim
  split at h
  · exact (hnothing rfl h).elim
  split at h
  · exact (hnothing rfl h).elim
  unfold submitEntry at h
  dsimp only at h
  cases hsubmit : submitMarketOrder x
      { intentId := o.intentId, quantity := q, leverage := o.leverage, clientOrderId } o.candidate.symbol o.side with
  | mk out x₁ =>
    rw [hsubmit] at h
    cases out with
    | error e =>
      cases e <;> first
        | exact (hnothing rfl h).elim
        | nomatch (Prod.mk.inj h).1
    | ok receipt =>
      dsimp only at h
      -- the leverage was set, and the reply to the order was read
      obtain ⟨entry, hentry, haccount, htrades', hreads, hcalls, hread, horders⟩ : ∃ entry : AcceptedOrder,
          entry.request.reduceOnly = false ∧ x.SameAccount x₁ ∧ x₁.trades = x.trades ∧ x₁.reads = x.reads ∧ x₁.calls = x.calls + 2 ∧
          (x.behaviour (x.calls + 1)).readableId = some receipt.exchangeOrderId ∧ x₁.orders = x.orders ++ [entry] := by
        unfold submitMarketOrder at hsubmit
        split at hsubmit
        · nomatch (Prod.mk.inj hsubmit).1
        · split at hsubmit
          · nomatch (Prod.mk.inj hsubmit).1
          · rename_i u x₂ hleverage
            have htick : x₂ = x.tick := by
              unfold Exchange.setLeverage at hleverage
              split at hleverage <;> exact (Prod.mk.inj hleverage).2.symm
            subst htick
            split at hsubmit
            · nomatch (Prod.mk.inj hsubmit).1
            · nomatch (Prod.mk.inj hsubmit).1
            · rename_i receipt' x₃ horder
              obtain ⟨hreceipt, rfl⟩ := Prod.mk.inj hsubmit
              cases hreceipt
              obtain ⟨-, hcalls, horders, hok, -⟩ := submitOrder_spec horder
              obtain ⟨hreply, -⟩ := hok _ rfl
              have haccount := submitOrder_account x.tick
                (SubmitEntryToExchange.request ⟨o.intentId, q, o.leverage, clientOrderId⟩ o.candidate.symbol o.side) none
              rw [horder] at haccount
              rw [CallBehaviour.acceptedId_of_readable hreply] at horders
              have hanswers := submitOrder_answers x.tick
                (SubmitEntryToExchange.request ⟨o.intentId, q, o.leverage, clientOrderId⟩ o.candidate.symbol o.side) none
              rw [horder] at hanswers
              exact ⟨_, rfl, ⟨haccount.1.behaviour, haccount.1.accountReads, haccount.1.reads⟩, hanswers.trades, haccount.2, hcalls,
                hreply, horders⟩
      obtain ⟨fills, vwap, hgateway, htrades, hvwap, hpos, hid, hids, hquantity, hprice, hcase⟩ := settleEntry_filled h hfilled
      have hfill : x.Fill receipt.exchangeOrderId (aggregateFills fills) vwap :=
        ⟨hread, ⟨fills, htrades' ▸ htrades, rfl⟩, hvwap⟩
      rcases hcase with ⟨hwithin, rfl, hstatus, hguard⟩ | ⟨habove, hstatus, guardId, hguardId, rfl⟩
      · refine ⟨_, _, vwap, hfill, hpos, hid, hids, hquantity, hprice, haccount, hreads, fun _ => ⟨hstatus, hguard⟩, fun hnot => ?_,
          false, hwithin⟩
        rw [hwithin] at hnot
        nomatch hnot
      · obtain ⟨haccount₂, hreads₂, request, hreduce, hclient, horders₂⟩ :=
          unwindOverMargin_spec hgateway o guardId (aggregateFills fills).quantity
        refine ⟨_, _, vwap, hfill, hpos, hid, hids, hquantity, hprice, haccount.trans haccount₂, hreads₂.trans hreads, fun hnot => ?_,
          fun _ => ⟨hstatus, guardId, entry, hguardId, hentry, request, hreduce, hclient, ?_⟩, true, habove⟩
        · rw [habove] at hnot
          nomatch hnot
        · rw [horders₂, horders, haccount.behaviour, hcalls]

/-! ## The cycle -/

/-- What the entry carries up to its submission. -/
structure Carried (w : World) (run : EntryRun) : Prop where
  exchange : run.exchange = w.exchange
  protection : run.protection = none
  entryResult : run.entryResult = none
  uuids : run.db.uuids = w.db.uuids

variable {s : EntryStage} {c : RuntimeControlReads} {w : World} {run : EntryRun}

theorem Carried.reserve {intentId : String} (h : Carried w run) : Carried w (s.reserve c intentId run).2 := by
  unfold EntryStage.reserve
  split
  · exact h
  · dsimp only
    split
    · exact ⟨h.exchange, h.protection, h.entryResult, h.uuids⟩
    · rename_i reason db hpersist
      exact ⟨h.exchange, h.protection, h.entryResult, (persistEntryIntentBeforeSubmission_touches hpersist).uuids.trans h.uuids⟩
    · rename_i db hpersist
      exact ⟨h.exchange, h.protection, h.entryResult, (persistEntryIntentBeforeSubmission_touches hpersist).uuids.trans h.uuids⟩

theorem Carried.recheck {n : ℕ} (h : Carried w run) : Carried w (s.recheck c n run).2 := by
  unfold EntryStage.recheck
  split
  · exact h
  · dsimp only
    split <;> exact ⟨h.exchange, h.protection, h.entryResult, h.uuids⟩

@[simp] theorem recordOf_exchange (run : EntryRun) (what : String) (out : Except PyError Unit) :
    (run.recordOf what out).exchange = run.exchange := by cases out <;> rfl

@[simp] theorem recordOf_protection (run : EntryRun) (what : String) (out : Except PyError Unit) :
    (run.recordOf what out).protection = run.protection := by cases out <;> rfl

@[simp] theorem recordOf_entryResult (run : EntryRun) (what : String) (out : Except PyError Unit) :
    (run.recordOf what out).entryResult = run.entryResult := by cases out <;> rfl

@[simp] theorem recordOf_db (run : EntryRun) (what : String) (out : Except PyError Unit) :
    (run.recordOf what out).db = run.db := by cases out <;> rfl

/-- The protection of a fill is that of its plan. -/
theorem protect_eq (intentId : String) (r : EntryExecutionResult) (run : EntryRun) :
    (s.protect intentId r run).protection = (protectPlan run.exchange (s.plan run.db.uuid4.1 r)).2.1 ∧
      (s.protect intentId r run).exchange = (protectPlan run.exchange (s.plan run.db.uuid4.1 r)).2.2 ∧
      (s.protect intentId r run).entryResult = run.entryResult := by
  unfold EntryStage.protect
  dsimp only
  split_ifs <;> simp [EntryRun.record]

/-- The recovery of the guard reads and records only. -/
theorem recoverGuard_eq (intentId guardExchangeOrderId guardClientOrderId : String) (run : EntryRun) :
    (EntryStage.recoverGuard intentId guardExchangeOrderId guardClientOrderId run).exchange = run.exchange ∧
      (EntryStage.recoverGuard intentId guardExchangeOrderId guardClientOrderId run).protection = run.protection ∧
      (EntryStage.recoverGuard intentId guardExchangeOrderId guardClientOrderId run).entryResult = run.entryResult := by
  unfold EntryStage.recoverGuard
  split
  · exact ⟨rfl, rfl, rfl⟩
  · exact ⟨rfl, rfl, rfl⟩
  · split <;> exact ⟨rfl, rfl, rfl⟩

/-- The run after the result of the submission was stored. -/
theorem settle_eq (intentId : String) (r : EntryExecutionResult) (run : EntryRun) :
    ∃ run₁ : EntryRun, run₁.exchange = run.exchange ∧ run₁.protection = run.protection ∧ run₁.db.uuids = run.db.uuids ∧
      run₁.entryResult = some r ∧
      s.settle intentId r run =
        if given r.guardExchangeOrderId && given r.guardClientOrderId then
          if s.persistFacts then
            EntryStage.recoverGuard intentId (r.guardExchangeOrderId.getD "") (r.guardClientOrderId.getD "") run₁
          else run₁
        else if !r.positionProjectable then run₁
        else s.protect intentId r run₁ := by
  have htouches : Touches [.intents, .orders, .fills] run.db
      (transaction run.db (persistEntrySubmissionResult run.db intentId s.leverage r)).2 :=
    Touches.transaction fun _ => persistEntrySubmissionResult_touches
  unfold EntryStage.settle
  dsimp only
  refine ⟨_, ?_, ?_, ?_, ?_, rfl⟩
  · cases s.persistFacts <;> simp
  · cases s.persistFacts <;> simp
  · cases s.persistFacts
    · rfl
    · simpa using htouches.uuids
  · cases s.persistFacts <;> simp

/-- A cycle with a result of the submission ends in what follows it. -/
theorem run_settles {r : EntryExecutionResult} (h : (s.run c w).2.entryResult = some r) :
    ∃ x' run₀, executeEntry w.exchange (s.order w.db.uuid4.1) = (.ok r, x') ∧ run₀.exchange = x' ∧ run₀.protection = none ∧
      run₀.db.uuids = w.db.uuids ∧ (s.run c w).2 = s.settle w.db.uuid4.1 r run₀ := by
  have hstart : Carried w { w with db := w.db.uuid4.2 } := ⟨rfl, rfl, rfl, rfl⟩
  have hstopped : ∀ {run : EntryRun}, Carried w run → run.entryResult = some r → False := by
    intro run hrun hsome
    rw [hrun.entryResult] at hsome
    exact absurd hsome.symm (Option.some_ne_none _)
  unfold EntryStage.run at h ⊢
  dsimp only at h ⊢
  have h₁ : Carried w (s.reserve c w.db.uuid4.1 { w with db := w.db.uuid4.2 }).2 := hstart.reserve
  generalize s.reserve c w.db.uuid4.1 { w with db := w.db.uuid4.2 } = reserved at h h₁ ⊢
  obtain ⟨_ | _, run₁⟩ := reserved
  · exact (hstopped h₁ h).elim
  dsimp only at h h₁ ⊢
  have h₂ := h₁.recheck (s := s) (c := c) (n := 1)
  generalize s.recheck c 1 run₁ = rechecked at h h₂ ⊢
  obtain ⟨_ | _, run₂⟩ := rechecked
  · exact (hstopped h₂ h).elim
  dsimp only at h h₂ ⊢
  have h₃ := h₂.recheck (s := s) (c := c) (n := 2)
  generalize s.recheck c 2 run₂ = rechecked at h h₃ ⊢
  obtain ⟨_ | _, run₃⟩ := rechecked
  · exact (hstopped h₃ h).elim
  dsimp only at h h₃ ⊢
  unfold EntryStage.submit at h ⊢
  rw [h₃.exchange] at h ⊢
  cases hexecute : executeEntry w.exchange (s.order w.db.uuid4.1) with
  | mk out x' =>
    rw [hexecute] at h
    cases out with
    | error e => exact (hstopped h₃ h).elim
    | ok r' =>
      obtain ⟨run₄, -, -, -, hresult, hsettle⟩ : ∃ run₄ : EntryRun, _ := settle_eq w.db.uuid4.1 r' { run₃ with exchange := x' }
      have hsame : r' = r := by
        dsimp only at h
        rw [hsettle] at h
        split_ifs at h
        · rw [(recoverGuard_eq _ _ _ _).2.2, hresult] at h
          exact Option.some.inj h
        · rw [hresult] at h
          exact Option.some.inj h
        · rw [hresult] at h
          exact Option.some.inj h
        · rw [(protect_eq _ _ _).2.2, hresult] at h
          exact Option.some.inj h
      subst hsame
      exact ⟨x', { run₃ with exchange := x' }, rfl, rfl, h₃.protection, h₃.uuids, rfl⟩

/-- A cycle that leaves the exchange as the entry did secures the fill by the order of the guard only. -/
theorem secured_iff_guard (hexchange : run.exchange = (executeEntry w.exchange (s.order w.db.uuid4.1)).2)
    (hprotection : run.protection = none) : Secured s w r run ↔ ∃ a ∈ run.exchange.orders.drop w.exchange.orders.length,
      a.request.reduceOnly = true ∧ r.guardClientOrderId = some a.request.newClientOrderId := by
  have hnone : ∀ {result : ProtectionResult}, run.protection = some result → False := by
    intro result hsome
    rw [hprotection] at hsome
    exact absurd hsome.symm (Option.some_ne_none _)
  constructor
  · intro h
    cases h with
    | active result hresult h => exact (hnone hresult).elim
    | unknown result hresult h => exact (hnone hresult).elim
    | flat n hfrom hto h =>
      rw [hexchange] at hto
      omega
    | guard a ha hreduce h => exact ⟨a, ha, hreduce, h⟩
    | emergency result hresult h => exact (hnone hresult).elim
  · rintro ⟨a, ha, hreduce, h⟩
    exact .guard a ha hreduce h

/-- Without an order of the guard nothing is secured then. -/
theorem not_secured (hexchange : run.exchange = (executeEntry w.exchange (s.order w.db.uuid4.1)).2)
    (hprotection : run.protection = none) (hguard : r.guardClientOrderId = none) : ¬Secured s w r run := by
  rw [secured_iff_guard hexchange hprotection, hguard]
  rintro ⟨a, -, -, h⟩
  exact absurd h.symm (Option.some_ne_none _)

/-- A plan can be made of a fill exactly if its stop and its target can be placed. -/
theorem plan_isOk_iff {positionId : String} {vwap : ℚ} (hid : positionId ≠ "")
    (hfilled : 0 < r.filledQuantity) (hprice : r.averageFillPrice = some vwap) : (∃ plan, s.plan positionId r = .ok plan) ↔
      0 < vwap ∧ 0 < s.snapshotMarket.tickSize ∧ s.candidate.Placeable vwap s.snapshotMarket.tickSize := by
  unfold EntryStage.plan
  rw [hprice, Option.getD_some, RoundingAux.buildProtectionPlan_isOk_iff]
  constructor
  · rintro ⟨hlegal, hplaced⟩
    exact ⟨hlegal.fill, hlegal.tickSize, (RoundingAux.placeable_iff hlegal.tickSize hlegal.fill).mpr hplaced⟩
  · rintro ⟨hvwap, htick, hplaceable⟩
    exact ⟨⟨hid, Nat.le_refl _, hvwap, hfilled, htick⟩, (RoundingAux.placeable_iff htick hvwap).mp hplaceable⟩

/-- A plan that is made is protected, found flat or closed in an emergency. -/
theorem protectPlan_ends {x : Exchange} {r : EntryExecutionResult} {positionId : String} {plan : ProtectionPlan}
    (hdeclared : x.Declared) (hplan : s.plan positionId r = .ok plan) :
    ∃ result, (protectPlan x (s.plan positionId r)).2.1 = some result ∧
      LadderEnd plan x (protectPlan x (s.plan positionId r)).2.2 result := by
  obtain ⟨hposition, hattempt, hminted⟩ := buildProtectionPlan_ok hplan
  have hid : plan.positionId ≠ "" := positionId_ne_empty_of_stop hminted.stop
  have hfits : 1 ≤ plan.attempt ∧ plan.attempt ≤ 2 := by omega
  have hmint : ∀ k, 1 ≤ k → k ≤ 2 → ∃ c, exitClientOrderId plan.positionId k = .ok c := fun k hk hle =>
    exitClientOrderId_isOk hid hk (by omega)
  obtain ⟨result, hresult, hend⟩ : ∃ result, (ensureProtection x plan).1 = .ok result ∧
      LadderEnd plan x (ensureProtection x plan).2 result := protectionAttempts_ends 2 hdeclared hid hfits hmint []
  rw [hplan]
  unfold protectPlan
  dsimp only
  generalize ensureProtection x plan = ensured at hresult hend ⊢
  obtain ⟨out, x'⟩ := ensured
  dsimp only at hresult
  subst hresult
  exact ⟨result, rfl, hend⟩

/-- The fill that is observed is the only one. -/
theorem securable_iff {x x' : Exchange} {o : EntryOrder} {orderId : String} {total : FillAggregate}
    {vwap : ℚ} (h : Observed x x' o r orderId total vwap) : s.Securable x ↔
      match (s.order "").exceedsMarginCeiling total.quantity vwap with
      | .ok true => (x.behaviour (x.calls + 2)).acceptedId.isSome = true
      | _ => orderId ≠ "" ∧ 0 < vwap ∧ 0 < s.snapshotMarket.tickSize ∧ s.candidate.Placeable vwap s.snapshotMarket.tickSize := by
  constructor
  · intro hall
    exact hall _ _ _ h.fill
  · intro hone orderId' total' vwap' hfill
    cases h.fill.acknowledged.symm.trans hfill.acknowledged
    obtain ⟨fills, htrades, rfl⟩ := h.fill.trades
    obtain ⟨fills', htrades', rfl⟩ := hfill.trades
    cases htrades.symm.trans htrades'
    cases h.fill.price.symm.trans hfill.price
    exact hone

end NakedAux

open NakedAux

/-! ## Confirmed fills -/

/-- A confirmed fill is secured when the cycle returns exactly if it can be: where the margin ceiling is exceeded the exchange has to
accept the order of the guard, and otherwise the entry needs an order id and its stop and target have to be placeable. -/
theorem entryCycle_secured_iff (before : World → Option EntryStage × World) (c : RuntimeControlReads) (w₀ w : World) (s : EntryStage)
    (r : EntryExecutionResult) (hbefore : before w₀ = (some s, w)) (hdeclared : w.exchange.Declared)
    (huuids : ∀ n, w.db.uuids n ≠ "") (hresult : (runEntryCycle before c w₀).2.entryResult = some r)
    (hfilled : 0 < r.filledQuantity) :
    Secured s w r (runEntryCycle before c w₀).2 ↔ s.Securable w.exchange := by
  have hcycle : runEntryCycle before c w₀ = s.run c w := by
    unfold runEntryCycle
    rw [hbefore]
  rw [hcycle] at hresult ⊢
  obtain ⟨x', run₀, hexecute, hx, hprotection, huuids₀, hsettle⟩ := run_settles hresult
  obtain ⟨orderId, total, vwap, hobserved⟩ := executeEntry_filled hexecute hfilled
  obtain ⟨run₁, hx₁, hprotection₁, huuids₁, -, hsettled⟩ : ∃ run₁ : EntryRun, _ := settle_eq w.db.uuid4.1 r run₀
  have hentry : (executeEntry w.exchange (s.order w.db.uuid4.1)).2 = x' := by rw [hexecute]
  have hafter : run₁.exchange = (executeEntry w.exchange (s.order w.db.uuid4.1)).2 := hx₁.trans (hx.trans hentry.symm)
  have hunprotected : run₁.protection = none := hprotection₁.trans hprotection
  rw [securable_iff hobserved, hsettle, hsettled]
  obtain ⟨exceeds, hexceeds⟩ := hobserved.decided
  have hexceeds' : (s.order "").exceedsMarginCeiling total.quantity vwap = .ok exceeds := hexceeds
  rw [hexceeds']
  cases exceeds with
  | true =>
    obtain ⟨hstatus, guardId, entry, hguardId, hreduce, request, hreduceOnly, hclient, horders⟩ := hobserved.above hexceeds
    -- the cycle goes on with nothing but the records of the guard
    have hsame : ∀ {run : EntryRun}, run.exchange = run₁.exchange → run.protection = run₁.protection →
        (Secured s w r run ↔ (w.exchange.behaviour (w.exchange.calls + 2)).acceptedId.isSome = true) := by
      intro run hexchange hprotection
      rw [secured_iff_guard (hexchange.trans hafter) (hprotection.trans hunprotected), hexchange, hafter, hentry, horders,
        List.append_assoc, List.drop_left]
      constructor
      · rintro ⟨a, ha, hareduce, -⟩
        rcases List.mem_append.mp ha with hentry | hguard
        · rw [List.mem_singleton.mp hentry, hreduce] at hareduce
          cases hareduce
        · unfold OrderRequest.acceptedAs at hguard
          obtain ⟨id, hid, -⟩ := List.mem_map.mp hguard
          rw [Option.mem_toList.mp hid]
          rfl
      · intro haccepted
        obtain ⟨id, hid⟩ := Option.isSome_iff_exists.mp haccepted
        refine ⟨⟨id, request, .pending⟩, ?_, hreduceOnly, hguardId.trans (congrArg some hclient.symm)⟩
        rw [hid]
        simp [OrderRequest.acceptedAs]
    have hnot : r.positionProjectable = false := by
      unfold EntryExecutionResult.positionProjectable
      rw [hstatus]
      simp
    split_ifs with hgiven hfacts
    · obtain ⟨hexchange, hprotection, -⟩ :=
        recoverGuard_eq w.db.uuid4.1 (r.guardExchangeOrderId.getD "") (r.guardClientOrderId.getD "") run₁
      exact hsame hexchange hprotection
    · exact hsame rfl rfl
    · exact hsame rfl rfl
    · rename_i hprojectable
      rw [hnot] at hprojectable
      exact absurd rfl hprojectable
  | false =>
    obtain ⟨hstatus, hguardExchange, hguard⟩ := hobserved.within hexceeds
    rw [hguardExchange]
    have hgiven : (given none && given r.guardClientOrderId) = false := rfl
    rw [hgiven, if_neg Bool.false_ne_true]
    dsimp only
    have hprojectable : r.positionProjectable = true ↔ orderId ≠ "" ∧ 0 < vwap := by
      unfold EntryExecutionResult.positionProjectable given
      rw [hobserved.exchangeOrderId, hobserved.averageFillPrice]
      simp [hstatus, hobserved.tradeIds, hfilled]
    by_cases hprojected : r.positionProjectable = true
    · obtain ⟨hid, hvwap⟩ := hprojectable.mp hprojected
      rw [hprojected, Bool.not_true, if_neg Bool.false_ne_true]
      obtain ⟨hprotected, hexchange, -⟩ : (s.protect w.db.uuid4.1 r run₁).protection = _ ∧ _ := protect_eq w.db.uuid4.1 r run₁
      have hdrawn : run₁.db.uuid4.1 ≠ "" := by
        change run₁.db.uuids run₁.db.drawn ≠ ""
        rw [huuids₁, huuids₀]
        exact huuids _
      have hmade := plan_isOk_iff (s := s) hdrawn hfilled hobserved.averageFillPrice
      cases hplan : s.plan run₁.db.uuid4.1 r with
      | error e =>
        rw [hplan] at hprotected hexchange hmade
        refine iff_of_false (not_secured (hexchange.trans hafter) hprotected hguard) fun hcan => ?_
        obtain ⟨plan, hok⟩ := hmade.mpr hcan.2
        cases hok
      | ok plan =>
        have hcan := hmade.mp ⟨plan, hplan⟩
        refine iff_of_true ?_ ⟨hid, hcan⟩
        have haccount : w.exchange.SameAccount run₁.exchange := by
          rw [hafter, hentry]
          exact hobserved.account
        obtain ⟨result, hresult, hend⟩ := protectPlan_ends (haccount.declared hdeclared) hplan
        rw [← hprotected] at hresult
        rw [← hexchange] at hend
        cases hend with
        | active h => exact .active result hresult h
        | flat n hfrom hto h =>
          rw [hafter] at hfrom
          rw [buildProtectionPlan_symbol hplan, (RoundingAux.buildProtectionPlan_terms hplan).2.2.1] at h
          exact .flat n hfrom hto (haccount.readsFlat_iff.mp h)
        | pending h => exact .emergency result hresult h
    · rw [Bool.not_eq_true] at hprojected
      rw [hprojected, Bool.not_false, if_pos rfl]
      refine iff_of_false (not_secured hafter hunprotected hguard) fun hcan => ?_
      rw [hprojectable.mpr ⟨hcan.1, hcan.2.1⟩] at hprojected
      cases hprojected

/-- The whole of an entry, filled at 100. -/
def entryTrade : ExchangeFillReceipt :=
  { exchangeOrderId := "77", tradeId := "1", filledQuantity := 1, fillPrice := 100, fee := 0, fillTimestamp := 5 }

/-- An exchange that answers and fills the entry, and replies as given to every call after it. -/
def exchangeFilling (reply : CallBehaviour) : Exchange where
  behaviour n := if n < 2 then .answered "77" true (some "open") else reply
  trades _ := .ok [entryTrade]

/-- A stage whose ceiling is a thousandth of the equity. -/
def lowCeilingStage : EntryStage := { sampleStage with maxMarginFraction := some (1 / 1000) }

/-- The fill is above the margin ceiling and the order of the guard is refused: the cycle returns and the position is open. -/
theorem entryCycle_secured_false :
    ¬∀ (before : World → Option EntryStage × World) (c : RuntimeControlReads) (w₀ w : World) (s : EntryStage)
      (r : EntryExecutionResult), before w₀ = (some s, w) → w.exchange.Declared →
      (runEntryCycle before c w₀).2.entryResult = some r → 0 < r.filledQuantity → Secured s w r (runEntryCycle before c w₀).2 := by
  intro h
  let w : World := { db := { entryEnabled := some true }, exchange := exchangeFilling (.refused "margin check") }
  have hresult : (runEntryCycle (fun w => (some lowCeilingStage, w)) {} w).2.entryResult.isSome = true := by decide +kernel
  have hfilled : ∀ r ∈ (runEntryCycle (fun w => (some lowCeilingStage, w)) {} w).2.entryResult, 0 < r.filledQuantity := by
    decide +kernel
  have hdeclared : w.exchange.Declared := by
    intro n detail
    change (if n < 2 then _ else _) ≠ _
    split <;> nofun
  obtain ⟨r, hr⟩ := Option.isSome_iff_exists.mp hresult
  have hsecured := h (fun w => (some lowCeilingStage, w)) {} w w lowCeilingStage r rfl hdeclared hr (hfilled r hr)
  have hprotection : (runEntryCycle (fun w => (some lowCeilingStage, w)) {} w).2.protection = none :=
    Option.isNone_iff_eq_none.mp (by decide +kernel)
  have hreads : (runEntryCycle (fun w => (some lowCeilingStage, w)) {} w).2.exchange.reads = 0 := by decide +kernel
  have horders : ∀ a ∈ (runEntryCycle (fun w => (some lowCeilingStage, w)) {} w).2.exchange.orders,
      a.request.reduceOnly = false := by decide +kernel
  cases hsecured with
  | active result hsome _ => exact absurd (hsome.symm.trans hprotection) (Option.some_ne_none _)
  | unknown result hsome _ => exact absurd (hsome.symm.trans hprotection) (Option.some_ne_none _)
  | flat n _ hto _ => omega
  | guard a ha hreduce _ =>
    rw [horders a (List.mem_of_mem_drop ha)] at hreduce
    nomatch hreduce
  | emergency result hsome _ => exact absurd (hsome.symm.trans hprotection) (Option.some_ne_none _)

/-- Every call is answered. -/
def fillingWorld : World :=
  { db := { entryEnabled := some true }, exchange := exchangeFilling (.answered "78" true (some "open")) }

/-- A fill within the margin is protected. -/
theorem entryCycle_secured_filled :
    ∃ r, (runEntryCycle (fun w => (some sampleStage, w)) {} fillingWorld).2.entryResult = some r ∧
      Secured sampleStage fillingWorld r (runEntryCycle (fun w => (some sampleStage, w)) {} fillingWorld).2 := by
  let w := fillingWorld
  have hresult : (runEntryCycle (fun w => (some sampleStage, w)) {} w).2.entryResult.isSome = true := by decide +kernel
  have hfilled : ∀ r ∈ (runEntryCycle (fun w => (some sampleStage, w)) {} w).2.entryResult, 0 < r.filledQuantity := by
    decide +kernel
  have hdeclared : w.exchange.Declared := by
    intro n detail
    change (if n < 2 then _ else _) ≠ _
    split <;> nofun
  have huuids : ∀ n, w.db.uuids n ≠ "" := by
    intro n hempty
    have hlength := congrArg String.length hempty
    change ("uuid-" ++ toString n).length = 0 at hlength
    rw [String.length_append] at hlength
    have hfive : "uuid-".length = 5 := by decide
    omega
  obtain ⟨r, hr⟩ := Option.isSome_iff_exists.mp hresult
  refine ⟨r, hr, (entryCycle_secured_iff _ {} w w sampleStage r rfl hdeclared huuids hr (hfilled r hr)).mpr ?_⟩
  rintro orderId total vwap ⟨hread, ⟨fills, htrades, rfl⟩, hprice⟩
  obtain rfl : "77" = orderId := Option.some.inj hread
  cases htrades
  have hmean : (aggregateFills [entryTrade]).vwap = some 100 := by decide +kernel
  cases hmean.symm.trans hprice
  refine ⟨by decide, by norm_num, by decide +kernel, ?_⟩
  refine ⟨⟨by norm_num [sampleStage, sampleCandidate], 99, ⟨990, ?_⟩, by norm_num [sampleStage, sampleCandidate], by norm_num⟩, ?_⟩
  · norm_num [sampleStage, sampleOrder]
  · intro d hd
    obtain rfl : (2 : ℚ) = d := Option.some.inj hd
    exact ⟨102, ⟨1020, by norm_num [sampleStage, sampleOrder]⟩, by norm_num, by norm_num⟩

end TradingPlatform
