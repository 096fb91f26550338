import TradingPlatform.Lemmas.CycleExit
import TradingPlatform.Theorems.ExitRestart

/-!
# Forced exits

What a forced exit of the cycle leaves of a position that sits on a baseline of the operator, of its protections at the
exchange, and of a chain of partial fills.
-/

namespace TradingPlatform

section

variable {c : ExitCycle} {snapshot : AuthoritativeAccountSnapshot} {pos : LocalPositionView} {s : ExitRun}
  {decision : ExitDecision} {exchangeOrderId : String} {fills : List ExchangeFillReceipt} {p : PositionRow}

/-! ## The baseline -/

/-- The position is closed if less than a step of its own quantity is left, and else open with what is left on the step. -/
def ReducedBy (db : Database) (positionId : String) (quantity filled stepSize : ℚ) : Prop :=
  ∃ p, db.position positionId = some p ∧
    if quantity - filled < stepSize then p.state = .closed
    else p.isOpen = true ∧ p.quantity = floorToStep (quantity - filled) stepSize

/-- A position the exit was not persisted for is not reduced. -/
theorem not_reducedBy {db : Database} {positionId : String} {filled stepSize : ℚ}
    (hp : db.position positionId = some p.startedReducing) (hopen : p.isOpen = true) (hfilled : 0 < filled)
    (hstep : 0 < stepSize) : ¬ReducedBy db positionId p.quantity filled stepSize := by
  rintro ⟨p', hp', h⟩
  cases hp.symm.trans hp'
  obtain ⟨-, -, -, hquantity, -⟩ := p.startedReducing_facts
  split at h
  · rw [p.startedReducing_closed] at h
    exact (of_decide_eq_true hopen).1 h
  · have hle : floorToStep (p.quantity - filled) stepSize ≤ p.quantity - filled := floorToStep_le hstep
    rw [← h.2, hquantity] at hle
    linarith

/-- The row of a position whose exit was persisted, by what is left of what the exchange held. -/
theorem exited_confirmed (decision : ExitDecision) (exchangeOrderId : String) (fills : List ExchangeFillReceipt)
    (hopen : p.isOpen = true) (remaining : ℚ) :
    (remaining ≤ 0 → (p.startedReducing.exited (confirmedExit decision exchangeOrderId fills remaining)).state = .closed) ∧
      (0 < remaining → (p.startedReducing.exited (confirmedExit decision exchangeOrderId fills remaining)).isOpen = true ∧
        (p.startedReducing.exited (confirmedExit decision exchangeOrderId fills remaining)).quantity = remaining) := by
  have hstate : p.startedReducing.state = .reducing := by
    rw [p.startedReducing_state, if_pos hopen]
  constructor
  · intro hleft
    rw [PositionRow.exited_state, if_pos (.inr (by simp [confirmedExit, hleft]))]
  · intro hleft
    have hreduces : (confirmedExit decision exchangeOrderId fills remaining).status = .partiallyReduced := by
      simp [confirmedExit, not_le.mpr hleft]
    have hremaining : (confirmedExit decision exchangeOrderId fills remaining).remainingQuantity = some remaining := by
      simp [confirmedExit, not_le.mpr hleft]
    unfold PositionRow.exited PositionRow.moved
    simp [hreduces, hremaining, hleft, hstate, PositionRow.isOpen]

/-- An order is open at the exchange. -/
def Exchange.Pending (x : Exchange) (exchangeOrderId : String) : Prop :=
  ∃ o ∈ x.orders, o.exchangeOrderId = exchangeOrderId ∧ o.status = .pending

/-- A protection that is cancelled now and was not before has no order open at the exchange, or its cancellation was
requested. -/
def CancelledGone (before after : Database) (x : Exchange) (requested : List String) : Prop :=
  ∀ r ∈ after.protections, r.state = .protectionCancelled →
    (∀ r₀ ∈ before.protections, r₀.protectionId = r.protectionId → r₀.state ≠ .protectionCancelled) →
      ∀ id ∈ r.exchangeOrderIds, x.Pending id → id ∈ requested

/-- The orders whose cancellation an execution requested. -/
def cancelsRequested (executed : Except PyError ExitExecutionResult) : List String :=
  match executed with
  | .ok result => result.residualProtectionCancelled
  | .error _ => []

/-- An order that the exchange accepts is open, and so are those that were. -/
theorem Exchange.pending_accept (x : Exchange) (orderId : String) (request : OrderRequest) (id : String) :
    (x.took orderId request).Pending id ↔ x.Pending id ∨ id = orderId := by
  unfold Exchange.Pending
  simp only [Exchange.took, Exchange.send, Exchange.accept, Exchange.tick, List.mem_append, List.mem_singleton]
  constructor
  · rintro ⟨o, ho | rfl, hid, hstatus⟩
    · exact .inl ⟨o, ho, hid, hstatus⟩
    · exact .inr hid.symm
  · rintro (⟨o, ho, hid, hstatus⟩ | rfl)
    · exact ⟨o, .inl ho, hid, hstatus⟩
    · exact ⟨_, .inr rfl, rfl, rfl⟩

/-- The order of an exit that belongs to no protection triggers none. -/
theorem ExitCycle.triggers_false (remaining : ℚ) {r : ProtectionRow} (hid : exchangeOrderId ≠ "")
    (hr : exchangeOrderId ∉ r.exchangeOrderIds) :
    (c.facts pos (confirmedExit decision exchangeOrderId fills remaining)).triggers r = false := by
  unfold ProtectionRow.exchangeOrderIds at hr
  unfold ExitFacts.triggers
  rw [decide_eq_false_iff_not]
  rintro (hstop | htp)
  · have hstop : some exchangeOrderId = r.stopExchangeOrderId := hstop
    simp [truthy, ← hstop, hid] at hr
  · have htp : some exchangeOrderId = r.tpExchangeOrderId := htp
    simp [truthy, ← htp, hid] at hr

/-- The row of a protection that the order of the exit does not belong to, once the position is closed. -/
theorem ProtectionRow.settled_untriggered {a : ExitFacts} {r : ProtectionRow} (htriggers : a.triggers r = false)
    (hclosed : a.result.status = .closed) :
    r.settled a = if r.state.cancellable then { r with state := .protectionCancelled, version := r.version + 1 } else r := by
  unfold ProtectionRow.settled
  simp [htriggers, hclosed]

end

/-! ## A forced exit of the sample -/

/-- The cycle that exits the sample, on steps of 1/10. -/
def sampleExitCycle : ExitCycle where
  cycleId := "cycle-1"
  symbol := "BTC/USDT"
  executionMode := .binanceTestnet
  fencingToken := "token-1"
  forcedExitReason := some .hardStop
  stepSize := 1 / 10
  accountWriterValid := true

/-- One trade of the exit order. -/
def sampleTrade (quantity : ℚ) : ExchangeFillReceipt where
  exchangeOrderId := "200"
  tradeId := "2"
  filledQuantity := quantity
  fillPrice := 110
  fee := 1 / 20
  fillTimestamp := 7

/-- The sample with its stop at the exchange, which fills the next order in one trade. -/
def sampleExitRun (filled : ℚ) : ExitRun where
  db := sampleExitDatabase
  exchange :=
    { orders := [{ exchangeOrderId := "101",
                   request := { symbol := "BTC/USDT", type := .stopMarket, side := "SELL", amount := 1,
                                newClientOrderId := "stop-client", reduceOnly := true } }]
      behaviour := fun _ => .answered "200" true (some "FILLED")
      trades := fun _ => .ok [sampleTrade filled] }

/-- The account that holds a quantity of the sample's symbol. -/
def sampleSnapshot (held : ℚ) : AuthoritativeAccountSnapshot where
  positions := [{ symbol := "BTC/USDT", direction := .long, quantity := held }]

/-- The sample as the cycle sees it. -/
def sampleView : LocalPositionView := sampleExitDatabase.localPosition samplePosition

/-- The decision to exit all of the sample. -/
def sampleDecision : ExitDecision where
  verdict := .approved
  positionId := "position"
  symbol := "BTC/USDT"
  direction := .long
  reason := .hardStop
  quantity := 1
  clientOrderId := "A2X-0929ca935b4e870c17a2-1"

theorem sampleExitCycle_forcedExit {filled held : ℚ} (hfilled : 0 < filled)
    (hdecided : evaluateExit (sampleExitCycle.request sampleView ((sampleSnapshot held).positionOf "BTC/USDT" .long)) =
      .ok sampleDecision) :
    ForcedExit sampleExitCycle (sampleSnapshot held) sampleView (sampleExitRun filled) sampleDecision "200"
      [sampleTrade filled] where
  symbol := rfl
  isOpen := by decide
  forced := rfl
  persists := rfl
  decided := hdecided
  approved := rfl
  confirms :=
    { gateway := rfl, answered := rfl, trades := rfl, given := nofun,
      quantity := by simpa [sampleTrade] using hfilled, price := by simp [sampleTrade] }

theorem sampleExitCycle_grounded {filled held : ℚ} (hfilled : 0 < filled) :
    (sampleExitCycle.exitFacts (sampleSnapshot held) sampleView sampleDecision "200" [sampleTrade filled]).Grounded
      sampleExitDatabase "200" samplePosition := by
  refine sampleExitDatabase_grounded rfl rfl (by decide : sampleDecision.clientOrderId ≠ "entry-client")
    ⟨confirmedExit_status _ _ _ _, rfl, by decide⟩ ?_ ?_ ?_ rfl
  · change 0 < filledQuantityOf [sampleTrade filled]
    simpa [filledQuantityOf, sampleTrade] using hfilled
  · refine ⟨110, ?_, by norm_num⟩
    change (aggregateFills [sampleTrade filled]).vwap = some 110
    simp [aggregateFills, sampleTrade, hfilled, mul_div_cancel_left₀ _ hfilled.ne']
  · change (aggregateFills [sampleTrade filled]).lastTimestamp ≠ none
    simp [aggregateFills]

example : floorToStep (1 - 3 / 5) (1 / 10) = 2 / 5 := by decide +kernel

/-- The sample once its stop is gone from the exchange. -/
def sampleUnprotectedRun : ExitRun where
  db := sampleExitDatabase
  exchange := { (sampleExitRun 1).exchange with orders := [] }

end TradingPlatform
