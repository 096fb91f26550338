import TradingPlatform.Lemmas.Exchange
import TradingPlatform.Lemmas.ExitRecords

/-!
# A forced exit that the exchange confirms

What the exit of one position does from the decision to the last transaction, when its order is answered and its trades are
confirmed. The exit loop names no protection order, so nothing is cancelled at the exchange.
-/

namespace TradingPlatform

/-! ## Steps -/

/-- `floor_to_step` of a quantity. -/
def floorToStep (quantity stepSize : ℚ) : ℚ := ⌊quantity / stepSize⌋ * stepSize

theorem truncate_of_nonneg {q : ℚ} (h : 0 ≤ q) : truncate q = ⌊q⌋ := by
  unfold truncate
  rw [Rat.floor_def', Int.tdiv_eq_ediv_of_nonneg (Rat.num_nonneg.mpr h)]

theorem roundQuantityToStep_of_nonneg {quantity stepSize : ℚ} (hq : 0 ≤ quantity) (hs : 0 < stepSize) :
    roundQuantityToStep quantity stepSize = .ok (floorToStep quantity stepSize) := by
  unfold roundQuantityToStep floorToStep
  rw [if_neg (not_le.mpr hs), truncate_of_nonneg (div_nonneg hq hs.le)]

/-- A quantity reaches one step exactly if something of it is left on the step. -/
theorem floorToStep_pos {quantity stepSize : ℚ} (hs : 0 < stepSize) :
    0 < floorToStep quantity stepSize ↔ stepSize ≤ quantity := by
  unfold floorToStep
  rw [mul_pos_iff_of_pos_right hs, Int.cast_pos, Int.floor_pos, le_div_iff₀ hs, one_mul]

theorem floorToStep_le {quantity stepSize : ℚ} (hs : 0 < stepSize) : floorToStep quantity stepSize ≤ quantity := by
  unfold floorToStep
  calc (⌊quantity / stepSize⌋ : ℚ) * stepSize ≤ quantity / stepSize * stepSize :=
        mul_le_mul_of_nonneg_right (Int.floor_le _) hs.le
    _ = quantity := div_mul_cancel₀ _ hs.ne'

/-! ## The order and its trades -/

/-- The next order is answered under an exchange id, and its trades can be read: distinct ones of positive quantity and
price. -/
structure Exchange.Confirms (x : Exchange) (exchangeOrderId : String) (fills : List ExchangeFillReceipt) : Prop where
  gateway : x.gatewayError = none
  answered : (x.behaviour x.calls).readableId = some exchangeOrderId
  trades : x.trades exchangeOrderId = .ok fills
  given : fills ≠ []
  quantity : ∀ f ∈ fills, 0 < f.filledQuantity
  price : ∀ f ∈ fills, 0 < f.fillPrice

/-- The quantity of some trades. -/
def filledQuantityOf (fills : List ExchangeFillReceipt) : ℚ := (fills.map (·.filledQuantity)).sum

/-- What `execute_reduce_only_exit` makes of confirmed trades and of what is left of the position. -/
def confirmedExit (decision : ExitDecision) (exchangeOrderId : String) (fills : List ExchangeFillReceipt) (remaining : ℚ) :
    ExitExecutionResult :=
  let total := aggregateFills fills
  { status := if remaining ≤ 0 then .closed else .partiallyReduced
    positionState := if remaining ≤ 0 then .closed else .reducing
    clientOrderId := decision.clientOrderId, exchangeOrderId := some exchangeOrderId, tradeIds := total.tradeIds,
    reducedQuantity := total.quantity, averageFillPrice := total.vwap, totalFee := total.fee,
    remainingQuantity := some (if remaining ≤ 0 then 0 else remaining), fillTimestamp := total.lastTimestamp }

/-- The order of an exit. -/
def ExitDecision.order (d : ExitDecision) : OrderRequest :=
  { symbol := d.symbol, type := .market, side := d.exchangeSide, amount := d.quantity, newClientOrderId := d.clientOrderId,
    reduceOnly := true }

theorem Exchange.Confirms.quantity_pos {x : Exchange} {exchangeOrderId : String} {fills : List ExchangeFillReceipt}
    (h : x.Confirms exchangeOrderId fills) : 0 < filledQuantityOf fills := sum_pos_of_forall h.given h.quantity

/-- The exchange after it took an order that was sent to it. -/
def Exchange.took (x : Exchange) (exchangeOrderId : String) (request : OrderRequest) : Exchange :=
  (x.send request).accept exchangeOrderId request

/-- An answered submission is accepted, and its receipt is read. -/
theorem submitReduceOnlyExit_answered {x : Exchange} {exchangeOrderId : String} {command : SubmitReduceOnlyExit}
    {symbol side : String} (hgateway : x.gatewayError = none)
    (hanswered : (x.behaviour x.calls).readableId = some exchangeOrderId) :
    ∃ receipt, receipt.exchangeOrderId = exchangeOrderId ∧ submitReduceOnlyExit x command symbol side = (.ok receipt,
      x.took exchangeOrderId
        { symbol, type := .market, side, amount := command.reduceQuantity, newClientOrderId := command.clientOrderId,
          reduceOnly := true }) := by
  obtain ⟨status, hbehaviour⟩ : ∃ status, x.behaviour x.calls = .answered exchangeOrderId true (some status) := by
    unfold CallBehaviour.readableId at hanswered
    split at hanswered
    · rename_i id status hb
      exact ⟨status, hb.trans (by rw [Option.some.inj hanswered])⟩
    · nomatch hanswered
  refine ⟨_, ?_, by simp only [submitReduceOnlyExit, hgateway, submitOrder, Exchange.createOrder, hbehaviour, receiptOf]; rfl⟩
  rfl

/-- An approved exit whose order is confirmed: the trades against what the exchange held decide what is left. -/
theorem executeReduceOnlyExit_confirmed {x : Exchange} {exchangeOrderId : String} {fills : List ExchangeFillReceipt}
    {decision : ExitDecision} {authoritativeQuantity stepSize : ℚ} (hx : x.Confirms exchangeOrderId fills)
    (happroved : decision.verdict = .approved) (hstep : 0 < stepSize) :
    executeReduceOnlyExit x decision authoritativeQuantity stepSize =
      (.ok (confirmedExit decision exchangeOrderId fills
        (floorToStep (max 0 (authoritativeQuantity - filledQuantityOf fills)) stepSize)),
        x.took exchangeOrderId decision.order) := by
  have hquantity : 0 < (aggregateFills fills).quantity := hx.quantity_pos
  have htrades : (aggregateFills fills).tradeIds ≠ [] := by
    simpa [aggregateFills] using hx.given
  obtain ⟨receipt, hid, hsubmit⟩ := submitReduceOnlyExit_answered (x := x) hx.gateway hx.answered
  unfold executeReduceOnlyExit
  simp only [happroved]
  rw [hsubmit]
  simp only [settleExit]
  have hfetch : fetchFills (x.took exchangeOrderId decision.order) receipt.exchangeOrderId = .ok fills := by
    rw [hid]
    simp [fetchFills, Exchange.took, Exchange.send, Exchange.tick, Exchange.accept, hx.gateway, hx.trades]
  have hround : roundQuantityToStep (max 0 (authoritativeQuantity - (aggregateFills fills).quantity)) stepSize =
      .ok (floorToStep (max 0 (authoritativeQuantity - filledQuantityOf fills)) stepSize) :=
    roundQuantityToStep_of_nonneg (le_max_left _ _) hstep
  unfold ExitDecision.order at hfetch
  rw [hfetch]
  simp only [htrades, not_le.mpr hquantity, or_self, if_false, hround, hid, cancelProtection, List.foldl_nil]
  unfold confirmedExit
  by_cases hleft : floorToStep (max 0 (authoritativeQuantity - filledQuantityOf fills)) stepSize ≤ 0
  · simp [hleft, ExitDecision.order]
  · simp [hleft, ExitDecision.order]

/-! ## The exit of one position -/

/-- What an approved exit rests on. -/
theorem evaluateExit_approved {r : ExitRequest} {d : ExitDecision} (h : evaluateExit r = .ok d) (hd : d.verdict = .approved) :
    ∃ e, r.authoritativePosition = some e ∧ 0 < e.quantity ∧ e.direction = r.direction ∧ 0 < r.requestedQuantity ∧
      0 < r.stepSize ∧ 0 < d.quantity ∧ exitClientOrderId r.positionId r.attempt = .ok d.clientOrderId := by
  unfold evaluateExit at h
  obtain ⟨clientOrderId, hclient, h⟩ := Loops.bind_eq_ok.mp h
  dsimp only at h
  split at h
  · cases h
    nomatch hd
  · split at h
    · cases h
      nomatch hd
    · split at h
      · cases h
        nomatch hd
      · rename_i e he
        split at h
        · cases h
          nomatch hd
        · rename_i hpositive
          split at h
          · cases h
            nomatch hd
          · rename_i hdirection
            split at h
            · cases h
              nomatch hd
            · rename_i hrequested
              obtain ⟨quantity, hround, h⟩ := Loops.bind_eq_ok.mp h
              have hstep : 0 < r.stepSize := by
                unfold roundQuantityToStep at hround
                split at hround
                · nomatch hround
                · rename_i hs
                  exact not_le.mp hs
              cases h
              split at hd
              · nomatch hd
              · rename_i hquantity
                rw [if_neg hquantity]
                exact ⟨e, he, not_le.mp hpositive, not_not.mp hdirection, not_le.mp hrequested, hstep, not_le.mp hquantity,
                  hclient⟩

/-- A forced exit of a local position that the gate approves, with facts persisted and the order confirmed. -/
structure ForcedExit (c : ExitCycle) (snapshot : AuthoritativeAccountSnapshot) (pos : LocalPositionView) (s : ExitRun)
    (decision : ExitDecision) (exchangeOrderId : String) (fills : List ExchangeFillReceipt) : Prop where
  symbol : pos.symbol = c.symbol
  isOpen : pos.state ≠ .closed ∧ pos.state ≠ .quarantined
  forced : c.forcedExitReason.isSome = true
  persists : c.persistFacts = true
  decided : evaluateExit (c.request pos (snapshot.positionOf c.symbol pos.direction)) = .ok decision
  approved : decision.verdict = .approved
  confirms : s.exchange.Confirms exchangeOrderId fills

section

variable {c : ExitCycle} {snapshot : AuthoritativeAccountSnapshot} {pos : LocalPositionView} {s : ExitRun}
  {decision : ExitDecision} {exchangeOrderId : String} {fills : List ExchangeFillReceipt}

/-- What is left of what the exchange holds after a fill. -/
def AuthoritativeAccountSnapshot.restOf (snapshot : AuthoritativeAccountSnapshot) (symbol : String) (pos : LocalPositionView)
    (filled stepSize : ℚ) : ℚ :=
  floorToStep (max 0 ((snapshot.positionOf symbol pos.direction).elim pos.quantity (·.quantity) - filled)) stepSize

/-- The facts of a forced exit. -/
def ExitCycle.exitFacts (c : ExitCycle) (snapshot : AuthoritativeAccountSnapshot) (pos : LocalPositionView)
    (decision : ExitDecision) (exchangeOrderId : String) (fills : List ExchangeFillReceipt) : ExitFacts :=
  c.facts pos (confirmedExit decision exchangeOrderId fills
    (snapshot.restOf c.symbol pos (filledQuantityOf fills) c.stepSize))

theorem confirmedExit_status (decision : ExitDecision) (exchangeOrderId : String) (fills : List ExchangeFillReceipt)
    (remaining : ℚ) : (confirmedExit decision exchangeOrderId fills remaining).status = .closed ∨
      (confirmedExit decision exchangeOrderId fills remaining).status = .partiallyReduced := by
  unfold confirmedExit
  split
  · exact .inl rfl
  · exact .inr rfl

/-- The persistence of a confirmed result whose submission is acknowledged. -/
theorem ExitCycle.persist_confirmed {result : ExitExecutionResult} {db₂ : Database} {out : Except PyError Unit × Database}
    (hpersists : c.persistFacts = true) (hack : persistExitSubmissionResult s.db pos.positionId result = .ok db₂)
    (hstatus : result.status = .closed ∨ result.status = .partiallyReduced)
    (hresult : persistExitResult db₂ (c.facts pos result) = out) :
    c.persist pos result s = { s with db := out.2 }.record "exit fill persistence failed: " out.1 := by
  unfold ExitCycle.persist
  simp only [hpersists, Bool.not_true, Bool.false_eq_true, if_false, hack, transaction_ok, ExitRun.record, if_pos hstatus,
    hresult]

/-- A forced exit ends with the third transaction: it is persisted, or its failure is recorded. -/
theorem ForcedExit.exitPosition_eq (h : ForcedExit c snapshot pos s decision exchangeOrderId fills) {p : PositionRow}
    (hg : (c.exitFacts snapshot pos decision exchangeOrderId fills).Grounded s.db exchangeOrderId p) (hopen : p.state ≠ .closed) :
    ∃ db₁ db₂ r o, ExitAcknowledged (c.exitFacts snapshot pos decision exchangeOrderId fills) exchangeOrderId p
        decision.quantity s.db db₁ db₂ r o ∧
      c.exitPosition snapshot pos s = (.ok (),
        ({ db := (transaction db₂ (persistExitFills db₂ (c.exitFacts snapshot pos decision exchangeOrderId fills))).2,
           exchange := s.exchange.took exchangeOrderId decision.order, exitSubmitted := true,
           errors := s.errors } : ExitRun).record "exit fill persistence failed: "
          (transaction db₂ (persistExitFills db₂ (c.exitFacts snapshot pos decision exchangeOrderId fills))).1) := by
  obtain ⟨e, he, -, -, -, hstep, hquantity, -⟩ := evaluateExit_approved h.decided h.approved
  obtain ⟨db₁, db₂, r, o, hack⟩ := hg.acknowledged hopen hquantity
  refine ⟨db₁, db₂, r, o, hack, ?_⟩
  have hprepare : persistExitIntentBeforeSubmission s.db (c.identity pos decision) = .ok db₁ := hack.prepare
  have hacknowledge : persistExitSubmissionResult db₁ pos.positionId
      (confirmedExit decision exchangeOrderId fills (snapshot.restOf c.symbol pos (filledQuantityOf fills) c.stepSize)) =
        .ok db₂ := hack.acknowledge
  have hreducing : p.startedReducing.state ≠ .closed := fun hclosed => hopen (p.startedReducing_closed.mp hclosed)
  have hpersist : persistExitResult db₂ (c.exitFacts snapshot pos decision exchangeOrderId fills) =
      transaction db₂ (persistExitFills db₂ (c.exitFacts snapshot pos decision exchangeOrderId fills)) := by
    rw [(hg.persistExitResult_cases hack.fillable.prepared.position).1 hreducing]
    exact (hack.persists hg.quantity).2
  have hexecute : executeReduceOnlyExit s.exchange decision
      ((snapshot.positionOf c.symbol pos.direction).elim pos.quantity (·.quantity)) c.stepSize =
        (.ok (confirmedExit decision exchangeOrderId fills (snapshot.restOf c.symbol pos (filledQuantityOf fills) c.stepSize)),
          s.exchange.took exchangeOrderId decision.order) :=
    executeReduceOnlyExit_confirmed h.confirms h.approved hstep
  have hskip : ¬(pos.symbol ≠ c.symbol ∨ pos.state = .closed ∨ pos.state = .quarantined) := by
    simp [h.symbol, h.isOpen.1, h.isOpen.2]
  have hforced : ((snapshot.positionOf c.symbol pos.direction).any (fun e => decide (0 < e.quantity)) &&
      c.forcedExitReason.isNone) = false := by
    rw [Option.isNone_eq_false_iff.mpr h.forced, Bool.and_false]
  have hsubmitted : (s.exitSubmitted || decide
      ((confirmedExit decision exchangeOrderId fills (snapshot.restOf c.symbol pos (filledQuantityOf fills) c.stepSize)).status ≠
        .notAttempted ∧
      (confirmedExit decision exchangeOrderId fills (snapshot.restOf c.symbol pos (filledQuantityOf fills) c.stepSize)).status ≠
        .alreadyFlatReconciled)) = true := by
    rcases confirmedExit_status decision exchangeOrderId fills
      (snapshot.restOf c.symbol pos (filledQuantityOf fills) c.stepSize) with hs | hs
    · simp [hs]
    · simp [hs]
  unfold ExitCycle.exitPosition
  simp only [if_neg hskip, hforced, Bool.false_eq_true, if_false, h.decided, h.approved]
  unfold ExitCycle.submit
  simp only [h.persists, if_true, hprepare, transaction_ok, hexecute, hsubmitted]
  exact congrArg _ (ExitCycle.persist_confirmed h.persists hacknowledge (confirmedExit_status _ _ _ _) hpersist)

/-- The exit intent is new or waits for its fill, and every trade gets a positive share. -/
def ExitFacts.Persistable (a : ExitFacts) (db : Database) : Prop :=
  (db.exitIntentState a.result.clientOrderId).pending = true ∧ ∀ s ∈ a.result.shares, 0 < s.2

/-- What the third transaction needs of an open position. -/
theorem ExitAcknowledged.fills_iff {a : ExitFacts} {p : PositionRow} {quantity : ℚ} {db db₁ db₂ : Database} {r : IntentRow}
    {o : OrderRow} (h : ExitAcknowledged a exchangeOrderId p quantity db db₁ db₂ r o) (hopen : p.isOpen = true) :
    a.Fills p.startedReducing r.acked.state ↔ a.Persistable db := by
  have hnot : ¬p.startedReducing.state = .quarantined := by
    rw [p.startedReducing_quarantined]
    exact (of_decide_eq_true hopen).2
  unfold ExitFacts.Fills ExitFacts.Persistable
  rw [r.acked_state, h.state]
  constructor
  · rintro ⟨hpending, hshares, -⟩
    exact ⟨hpending, hshares⟩
  · rintro ⟨hpending, hshares⟩
    exact ⟨hpending, hshares, fun hq => absurd hq hnot⟩

/-- A forced exit that can be persisted is, without an error. -/
theorem ForcedExit.persisted (h : ForcedExit c snapshot pos s decision exchangeOrderId fills) {p : PositionRow}
    (hg : (c.exitFacts snapshot pos decision exchangeOrderId fills).Grounded s.db exchangeOrderId p) (hopen : p.isOpen = true)
    (hpersistable : (c.exitFacts snapshot pos decision exchangeOrderId fills).Persistable s.db) :
    ∃ db₁ db₂ r o db₃, ExitAcknowledged (c.exitFacts snapshot pos decision exchangeOrderId fills) exchangeOrderId p
        decision.quantity s.db db₁ db₂ r o ∧
      ExitSettled db₂ db₃ (c.exitFacts snapshot pos decision exchangeOrderId fills) p.startedReducing r.acked o ∧
      c.exitPosition snapshot pos s = (.ok (),
        { db := db₃, exchange := s.exchange.took exchangeOrderId decision.order, exitSubmitted := true,
          errors := s.errors }) := by
  obtain ⟨db₁, db₂, r, o, hack, hrun⟩ := h.exitPosition_eq hg (of_decide_eq_true hopen).1
  obtain ⟨db₃, hthird, hsettled⟩ := persistExitFills_settles hack.fillable ((hack.fills_iff hopen).mpr hpersistable)
  refine ⟨db₁, db₂, r, o, db₃, hack, hsettled, ?_⟩
  rw [hrun, hthird]
  rfl

/-- A forced exit that cannot be persisted was submitted all the same: the failure is recorded and the position keeps its
quantity. -/
theorem ForcedExit.refused (h : ForcedExit c snapshot pos s decision exchangeOrderId fills) {p : PositionRow}
    (hg : (c.exitFacts snapshot pos decision exchangeOrderId fills).Grounded s.db exchangeOrderId p) (hopen : p.isOpen = true)
    (hnot : ¬(c.exitFacts snapshot pos decision exchangeOrderId fills).Persistable s.db) :
    ∃ db₂ message, db₂.position pos.positionId = some p.startedReducing ∧ db₂.protections = s.db.protections ∧
      c.exitPosition snapshot pos s = (.ok (),
        { db := db₂, exchange := s.exchange.took exchangeOrderId decision.order, exitSubmitted := true,
          errors := s.errors ++ [message] }) := by
  obtain ⟨db₁, db₂, r, o, hack, hrun⟩ := h.exitPosition_eq hg (of_decide_eq_true hopen).1
  cases hthird : persistExitFills db₂ (c.exitFacts snapshot pos decision exchangeOrderId fills) with
  | ok db₃ => exact absurd ((hack.fills_iff hopen).mp (persistExitFills_needs hack.fillable hthird)) hnot
  | error e =>
    refine ⟨db₂, "exit fill persistence failed: " ++ e.message, hack.fillable.prepared.position,
        (hack.touches.protections (by decide)), ?_⟩
    rw [hrun, hthird]
    rfl

end

end TradingPlatform
