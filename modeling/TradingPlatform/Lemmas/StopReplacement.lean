import TradingPlatform.Lemmas.Exchange
import TradingPlatform.Lemmas.ProfitProtection

/-!
# Replacing a stop

What the calls of one tightening do to the orders of the exchange: a new stop is accepted or not, an old one is closed or not,
and every other order stays. The loop over the positions is the loop over the tightenings that are due.
-/

namespace TradingPlatform

/-! ## Cancelling -/

/-- Between two states nothing was accepted, and only the order of an id may have been closed. -/
structure Exchange.Cancels (x : Exchange) (exchangeOrderId : String) (x' : Exchange) : Prop where
  script : x.SameScript x'
  calls_le : x.calls ≤ x'.calls
  stays : ∀ a ∈ x.orders, a.exchangeOrderId ≠ exchangeOrderId → a ∈ x'.orders
  origin : ∀ a ∈ x'.orders, a.status = .pending → a ∈ x.orders
  ids : ∀ a ∈ x'.orders, ∃ b ∈ x.orders, b.exchangeOrderId = a.exchangeOrderId

/-- No order of an id is open. -/
def Exchange.IsClosed (x : Exchange) (exchangeOrderId : String) : Prop :=
  ∀ a ∈ x.orders, a.status = .pending → a.exchangeOrderId ≠ exchangeOrderId

section Cancels

variable {x x' x'' : Exchange} {id : String}

theorem Exchange.Cancels.of_orders (hscript : x.SameScript x') (hcalls : x.calls ≤ x'.calls) (h : x'.orders = x.orders) :
    x.Cancels id x' := by
  refine ⟨hscript, hcalls, fun a ha _ => ?_, fun a ha _ => ?_, fun a ha => ⟨a, ?_, rfl⟩⟩
  · rw [h]
    exact ha
  · rw [h] at ha
    exact ha
  · rw [h] at ha
    exact ha

theorem Exchange.Cancels.trans (h : x.Cancels id x') (h' : x'.Cancels id x'') : x.Cancels id x'' := by
  refine ⟨h.script.trans h'.script, h.calls_le.trans h'.calls_le, fun a ha hne => h'.stays a (h.stays a ha hne) hne,
    fun a ha hpending => h.origin a (h'.origin a ha hpending) hpending, fun a ha => ?_⟩
  obtain ⟨b, hb, hab⟩ := h'.ids a ha
  obtain ⟨c, hc, hbc⟩ := h.ids b hb
  exact ⟨c, hc, hbc.trans hab⟩

theorem closeOrder_cancels (x : Exchange) (id : String) : x.Cancels id (x.tick.closeOrder id) := by
  refine ⟨⟨rfl, rfl⟩, Nat.le_succ _, fun a ha hne => ?_, fun a ha hpending => ?_, fun a ha => ?_⟩
  · exact List.mem_map.mpr ⟨a, ha, if_neg fun h => hne h.1⟩
  · obtain ⟨b, hb, rfl⟩ := List.mem_map.mp ha
    split at hpending
    · nomatch hpending
    · rename_i hnot
      rw [if_neg hnot]
      exact hb
  · obtain ⟨b, hb, rfl⟩ := List.mem_map.mp ha
    refine ⟨b, hb, ?_⟩
    split <;> rfl

theorem closeOrder_isClosed (x : Exchange) (id : String) : (x.tick.closeOrder id).IsClosed id := by
  intro a ha hpending hid
  obtain ⟨b, hb, rfl⟩ := List.mem_map.mp ha
  split at hpending
  · nomatch hpending
  · rename_i hnot
    rw [if_neg hnot] at hid
    exact hnot ⟨hid, hpending⟩

/-- One cancellation closes its order if it returns. -/
theorem cancelCall_spec {conditional : Bool} {out : Except PyError Unit} (h : x.cancelCall id conditional = (out, x')) :
    x.Cancels id x' ∧ (out = .ok () → x'.IsClosed id) := by
  have htick : x.Cancels id x.tick := .of_orders ⟨rfl, rfl⟩ (Nat.le_succ _) rfl
  unfold Exchange.cancelCall at h
  split at h
  · cases h
    exact ⟨htick, nofun⟩
  · cases h
    exact ⟨htick, nofun⟩
  · cases h
    exact ⟨htick, nofun⟩
  · cases h
    exact ⟨closeOrder_cancels x id, nofun⟩
  · cases h
    exact ⟨closeOrder_cancels x id, fun _ => closeOrder_isClosed x id⟩

/-- So does `cancel_order`, by whichever endpoint. -/
theorem cancelOrder_spec {out : Except PyError Unit} (h : cancelOrder x id = (out, x')) :
    x.Cancels id x' ∧ (out = .ok () → x'.IsClosed id) := by
  unfold cancelOrder at h
  split at h
  · cases h
    exact ⟨.of_orders (.refl x) (le_refl _) rfl, nofun⟩
  · dsimp only at h
    split at h
    · rename_i x₁ hcall
      cases h
      exact cancelCall_spec hcall
    · rename_i detail x₁ hcall
      cases h
      exact ⟨(cancelCall_spec hcall).1, nofun⟩
    · rename_i e x₁ _ hcall
      have hfirst := (cancelCall_spec hcall).1
      split at h
      · cases h
        exact ⟨hfirst, nofun⟩
      · split at h
        · rename_i x₂ hcall₂
          cases h
          obtain ⟨hsecond, hclosed⟩ := cancelCall_spec hcall₂
          exact ⟨hfirst.trans hsecond, fun _ => hclosed rfl⟩
        · rename_i e x₂ hcall₂
          cases h
          exact ⟨hfirst.trans (cancelCall_spec hcall₂).1, nofun⟩

end Cancels

/-! ## Submitting the new stop -/

/-- The request of a replacement. -/
def replacementRequest (p : LocalPositionView) (clientOrderId : String) : OrderRequest :=
  let side := match p.direction with
    | .long => "sell"
    | .short => "buy"
  { symbol := p.symbol, type := .stopMarket, side, amount := p.quantity, newClientOrderId := clientOrderId, reduceOnly := true }

/-- The submission of a replacement, with the side of its position. -/
def submitReplacement (x : Exchange) (p : LocalPositionView) (safeStop : ℚ) (clientOrderId : String) :
    Except PyError ExchangeOrderReceipt × Exchange :=
  let side := match p.direction with
    | .long => "sell"
    | .short => "buy"
  submitStopReplacement x p.symbol side p.quantity safeStop clientOrderId

/-- Without a gateway nothing happens; else one call is made, and the order is there if the exchange accepted it. -/
theorem submitReplacement_spec {x x' : Exchange} {p : LocalPositionView} {safeStop : ℚ} {clientOrderId : String}
    {out : Except PyError ExchangeOrderReceipt} (h : submitReplacement x p safeStop clientOrderId = (out, x')) :
    (x.gatewayError ≠ none ∧ x' = x ∧ ∀ receipt, out ≠ .ok receipt) ∨
      (x.gatewayError = none ∧ x.SameScript x' ∧ x'.calls = x.calls + 1 ∧
        x'.orders = x.orders ++ (replacementRequest p clientOrderId).acceptedAs (x.behaviour x.calls).acceptedId ∧
        ∀ receipt, out = .ok receipt → (x.behaviour x.calls).acceptedId = some receipt.exchangeOrderId) := by
  unfold submitReplacement submitStopReplacement at h
  dsimp only at h
  split at h
  · rename_i message hgateway
    cases h
    exact .inl ⟨by rw [hgateway]; exact Option.some_ne_none _, rfl, nofun⟩
  · rename_i hgateway
    split at h
    · rename_i e x₁ hsubmit
      cases h
      obtain ⟨hscript, hcalls, horders, -, -⟩ := submitOrder_spec hsubmit
      exact .inr ⟨hgateway, hscript, hcalls, horders, nofun⟩
    · rename_i receipt x₁ hsubmit
      cases h
      obtain ⟨hscript, hcalls, horders, hok, -⟩ := submitOrder_spec hsubmit
      refine .inr ⟨hgateway, hscript, hcalls, horders, fun receipt' hreceipt => ?_⟩
      cases hreceipt
      exact CallBehaviour.acceptedId_of_readable (hok receipt rfl).1

/-! ## One tightening -/

/-- A tightening whose calls all return: the new stop, the cancellation and the record. -/
structure Replacement (failure : StoreFailure) (w : World) (p : LocalPositionView) (t : Tightening) (clientOrderId : String)
    (receipt : ExchangeOrderReceipt) (x : Exchange) (w' : World) : Prop where
  clientOrderId_eq : stopClientOrderId p.positionId t.revision = .ok clientOrderId
  submitted : submitReplacement w.exchange p t.safeStop clientOrderId = (.ok receipt, x)
  cancelled : cancelOrder x t.oldStopExchangeOrderId = (.ok (), w'.exchange)
  recorded : recordTightening failure w.db (p.protectionId.getD "") t.safeStop clientOrderId receipt.exchangeOrderId = .ok w'.db

/-- A tightening, by the call that raises if one does. -/
theorem tightenStop_cases {failure : StoreFailure} {w w' : World} {p : LocalPositionView} {t : Tightening}
    {out : Except PyError Unit} (h : tightenStop w p t failure = (out, w')) :
    (∃ e, out = .error e ∧ stopClientOrderId p.positionId t.revision = .error e ∧ w' = w) ∨
      ∃ clientOrderId, stopClientOrderId p.positionId t.revision = .ok clientOrderId ∧
        ((∃ e x, out = .error e ∧ submitReplacement w.exchange p t.safeStop clientOrderId = (.error e, x) ∧
            w' = { w with exchange := x }) ∨
          ∃ receipt x, submitReplacement w.exchange p t.safeStop clientOrderId = (.ok receipt, x) ∧
            ((∃ e x', out = .error e ∧ cancelOrder x t.oldStopExchangeOrderId = (.error e, x') ∧
                w' = { w with exchange := x' }) ∨
              (∃ e x', out = .error e ∧ cancelOrder x t.oldStopExchangeOrderId = (.ok (), x') ∧
                recordTightening failure w.db (p.protectionId.getD "") t.safeStop clientOrderId receipt.exchangeOrderId = .error e ∧
                w' = { w with exchange := x' }) ∨
              (out = .ok () ∧ Replacement failure w p t clientOrderId receipt x w'))) := by
  unfold tightenStop at h
  split at h
  · rename_i e hid
    cases h
    exact .inl ⟨e, rfl, hid, rfl⟩
  · rename_i clientOrderId hid
    refine .inr ⟨clientOrderId, hid, ?_⟩
    dsimp only at h
    split at h
    · rename_i e x hsubmit
      cases h
      exact .inl ⟨e, x, rfl, hsubmit, rfl⟩
    · rename_i receipt x hsubmit
      refine .inr ⟨receipt, x, hsubmit, ?_⟩
      split at h
      · rename_i e x' hcancel
        cases h
        exact .inl ⟨e, x', rfl, hcancel, rfl⟩
      · rename_i x' hcancel
        cases hrecord : recordTightening failure w.db (p.protectionId.getD "") t.safeStop clientOrderId
            receipt.exchangeOrderId with
        | error e =>
          rw [hrecord] at h
          cases h
          exact .inr (.inl ⟨e, x', rfl, hcancel, rfl, rfl⟩)
        | ok db =>
          rw [hrecord] at h
          cases h
          exact .inr (.inr ⟨rfl, hid, hsubmit, hcancel, hrecord⟩)

/-- The calls determine what a replacement leaves. -/
theorem Replacement.unique {failure : StoreFailure} {w w₁ w₂ : World} {p : LocalPositionView} {t : Tightening}
    {clientOrderId₁ clientOrderId₂ : String} {receipt₁ receipt₂ : ExchangeOrderReceipt} {x₁ x₂ : Exchange}
    (h₁ : Replacement failure w p t clientOrderId₁ receipt₁ x₁ w₁) (h₂ : Replacement failure w p t clientOrderId₂ receipt₂ x₂ w₂) :
    w₁ = w₂ := by
  cases h₁.clientOrderId_eq.symm.trans h₂.clientOrderId_eq
  obtain ⟨hreceipt, rfl⟩ := Prod.mk.inj (h₁.submitted.symm.trans h₂.submitted)
  cases hreceipt
  obtain ⟨-, hexchange⟩ := Prod.mk.inj (h₁.cancelled.symm.trans h₂.cancelled)
  have hdb := Except.ok.inj (h₁.recorded.symm.trans h₂.recorded)
  cases w₁
  cases w₂
  cases hexchange
  cases hdb
  rfl

/-- A tightening whose calls all return, returns. -/
theorem Replacement.run {failure : StoreFailure} {w w' : World} {p : LocalPositionView} {t : Tightening} {clientOrderId : String}
    {receipt : ExchangeOrderReceipt} {x : Exchange} (h : Replacement failure w p t clientOrderId receipt x w') :
    tightenStop w p t failure = (.ok (), w') := by
  rcases hrun : tightenStop w p t failure with ⟨out, w₁⟩
  rcases tightenStop_cases hrun with ⟨e, -, hid, -⟩ | ⟨clientOrderId₁, hid, hrest⟩
  · nomatch hid.symm.trans h.clientOrderId_eq
  · cases hid.symm.trans h.clientOrderId_eq
    rcases hrest with ⟨e, x₁, -, hsubmit, -⟩ | ⟨receipt₁, x₁, hsubmit, hrest⟩
    · nomatch (Prod.mk.inj (hsubmit.symm.trans h.submitted)).1
    · obtain ⟨hreceipt, rfl⟩ := Prod.mk.inj (hsubmit.symm.trans h.submitted)
      cases hreceipt
      rcases hrest with ⟨e, x₂, -, hcancel, -⟩ | ⟨e, x₂, -, -, hrecord, -⟩ | ⟨rfl, hreplacement⟩
      · nomatch (Prod.mk.inj (hcancel.symm.trans h.cancelled)).1
      · nomatch hrecord.symm.trans h.recorded
      · rw [hreplacement.unique h]

/-! ## The loop -/

/-- The tightenings that are due, with their positions. -/
def dueTightenings (symbol : String) (snapshot : AuthoritativeAccountSnapshot) (tickSize : ℚ) (views : List LocalPositionView) :
    List (LocalPositionView × Tightening) :=
  views.filterMap fun p => (p.tightening symbol snapshot tickSize).map fun t => (p, t)

/-- The loop over the tightenings that are due. -/
def tightenDue (failure : StoreFailure) : List (LocalPositionView × Tightening) → World → Except PyError Unit × World
  | [], w => (.ok (), w)
  | (p, t) :: rest, w =>
    match tightenStop w p t failure with
    | (.error e, w) => (.error e, w)
    | (.ok _, w) => tightenDue failure rest w

theorem tightenStops_eq (symbol : String) (snapshot : AuthoritativeAccountSnapshot) (tickSize : ℚ) (failure : StoreFailure)
    (views : List LocalPositionView) (w : World) :
    tightenStops symbol snapshot tickSize failure views w = tightenDue failure (dueTightenings symbol snapshot tickSize views) w := by
  induction views generalizing w with
  | nil => rfl
  | cons p rest ih =>
    unfold tightenStops dueTightenings
    cases htightening : p.tightening symbol snapshot tickSize with
    | none =>
      rw [List.filterMap_cons_none (by rw [htightening]; rfl)]
      exact ih w
    | some t =>
      rw [List.filterMap_cons_some (by rw [htightening]; rfl)]
      unfold tightenDue
      dsimp only
      rcases tightenStop w p t failure with ⟨out, w'⟩
      cases out with
      | error e => rfl
      | ok _ => exact ih w'

end TradingPlatform
