import TradingPlatform.Lemmas.ExitRecords

/-!
# A restart of the exit persistence

`persist_exit_result` commits three times. A crash leaves what was committed, and the caller runs it again with the same
arguments.
-/

namespace TradingPlatform

/-- The databases a crash of `persist_exit_result` may leave: the one it started from, and one for each commit it reached. -/
def exitCommits (db : Database) (a : ExitFacts) : List Database :=
  db :: (if (db.position a.positionId).all fun p => decide (p.state = .closed) then []
    else
      match persistExitIntentBeforeSubmission db a.identity with
      | .error _ => []
      | .ok db₁ => db₁ ::
        match persistExitSubmissionResult db₁ a.positionId a.result with
        | .error _ => []
        | .ok db₂ => db₂ ::
          match persistExitFills db₂ a with
          | .error _ => []
          | .ok db₃ => [db₃])

/-- Run again after any crash it succeeds, and leaves what an uninterrupted run leaves. -/
def RestartSafe (db : Database) (a : ExitFacts) : Prop :=
  ∀ crashed ∈ exitCommits db a, persistExitResult crashed a = (.ok (), (persistExitResult db a).2)

/-- The exit can be persisted, and closes its position. -/
structure ExitFacts.Restartable (a : ExitFacts) (db : Database) (p : PositionRow) : Prop where
  notClosed : p.state ≠ .closed
  pending : (db.exitIntentState a.result.clientOrderId).pending = true
  shares : ∀ s ∈ a.result.shares, 0 < s.2
  covered : p.state = .quarantined → p.quantity ≤ a.result.reducedQuantity + 1 / 100000000
  closes : a.result.status = .closed ∨ p.state = .quarantined

section

variable {db : Database} {a : ExitFacts} {exchangeOrderId : String} {p : PositionRow}

/-- The receipt of a settled exit is found again. -/
theorem sameExitReceipt_settled {db₂ db₃ : Database} {q : PositionRow} {r : IntentRow} {o : OrderRow}
    (hfillable : ExitFillable db₂ a exchangeOrderId q r o) (hnone : db₂.fillsOfOrder o.orderRecordId = [])
    (hgiven : ∀ t ∈ a.result.tradeIds, t ≠ "") (h : ExitSettled db₂ db₃ a q r o) : sameExitReceipt db₃ a.result = true := by
  have horder : db₃.orderOfClientId a.result.clientOrderId = some o := by
    unfold Database.orderOfClientId
    rw [(h.touches.orders (by decide))]
    exact hfillable.prepared.order
  obtain ⟨rows, hfills, hrows⟩ := h.fills
  have hof : db₃.fillsOfOrder o.orderRecordId = rows := by
    unfold Database.fillsOfOrder at hnone ⊢
    rw [hfills, List.filter_append, hnone, List.nil_append]
    exact hrows.ofOrder
  have hknown : (rows.filterMap fun f => f.tradeId.filter fun t => decide (t ≠ "")) = a.result.tradeIds := by
    have htrades : rows.map (·.tradeId) = a.result.tradeIds.map some := by
      rw [hrows.tradeIds, ExitExecutionResult.shares, splitQuantity_fst]
    have hcomp : (rows.filterMap fun f => f.tradeId.filter fun t => decide (t ≠ "")) =
        (rows.map (·.tradeId)).filterMap fun t => t.filter fun t => decide (t ≠ "") := by
      rw [List.filterMap_map]
      rfl
    rw [hcomp, htrades, List.filterMap_map]
    refine (List.filterMap_congr fun t ht => ?_).trans (List.filterMap_some)
    simp [Option.filter, hgiven t ht]
  unfold sameExitReceipt
  simp only [horder, hof, hknown, hfillable.acknowledged, hfillable.reports.orderId, decide_true, Bool.true_and]
  simp

/-- A closed position has stored another receipt: the trades of the result are not stored. -/
theorem sameExitReceipt_unstored (hg : a.Grounded db exchangeOrderId p) : sameExitReceipt db a.result = false := by
  obtain ⟨t, ht⟩ := List.exists_mem_of_ne_nil _ hg.tradesGiven
  unfold sameExitReceipt
  split
  · rfl
  · rename_i o ho
    have hunknown : t ∉ (db.fillsOfOrder o.orderRecordId).filterMap fun f => f.tradeId.filter fun t => decide (t ≠ "") := by
      intro hmem
      obtain ⟨f, hf, htrade⟩ := List.mem_filterMap.mp hmem
      obtain ⟨htrade, -⟩ := Option.filter_eq_some_iff.mp htrade
      exact hg.unstored f (List.mem_filter.mp hf).1 t ht htrade
    have hall : (a.result.tradeIds.all fun t =>
        decide (t ∈ (db.fillsOfOrder o.orderRecordId).filterMap fun f => f.tradeId.filter fun t => decide (t ≠ ""))) = false := by
      rw [List.all_eq_false]
      exact ⟨t, ht, by simpa using hunknown⟩
    simp only [hall, Bool.and_false]

/-- The commits of a run that gets to the end. -/
theorem exitCommits_settled {db₁ db₂ db₃ : Database} {r : IntentRow} {o : OrderRow} (hg : a.Grounded db exchangeOrderId p)
    (hopen : p.state ≠ .closed) (h : ExitAcknowledged a exchangeOrderId p a.result.reducedQuantity db db₁ db₂ r o)
    (hthird : persistExitFills db₂ a = .ok db₃) : exitCommits db a = [db, db₁, db₂, db₃] := by
  have hfirst : persistExitIntentBeforeSubmission db a.identity = .ok db₁ := h.prepare
  unfold exitCommits
  simp [hg.position, hopen, hfirst, h.acknowledge, hthird]

/-- The run of a grounded result whose position is not closed, up to its last transaction. -/
theorem persistExitResult_grounded {db₁ db₂ : Database} {r : IntentRow} {o : OrderRow} (hg : a.Grounded db exchangeOrderId p)
    (hopen : p.state ≠ .closed) (h : ExitAcknowledged a exchangeOrderId p a.result.reducedQuantity db db₁ db₂ r o) :
    persistExitResult db a = transaction db₂ (persistExitFills db₂ a) :=
  ((hg.persistExitResult_cases hg.position).1 hopen).trans h.persists_start

/-- The last commit is the database that a run returns. -/
theorem exitCommits_last {db' : Database} (h : persistExitResult db a = (.ok (), db')) : db' ∈ exitCommits db a := by
  unfold exitCommits
  unfold persistExitResult at h
  split at h
  · exact List.mem_cons.mpr (.inl (Prod.mk.inj h).2.symm)
  · split at h
    · cases (Prod.mk.inj h).1
    · split at h
      · cases (Prod.mk.inj h).1
      · rename_i p hp
        split at h
        · rename_i hopen
          unfold persistConfirmedExit at h
          cases hfirst : persistExitIntentBeforeSubmission db a.identity with
          | error e => simp [transaction, hfirst] at h
          | ok db₁ =>
            cases hsecond : persistExitSubmissionResult db₁ a.positionId a.result with
            | error e => simp [transaction, hfirst, hsecond] at h
            | ok db₂ =>
              cases hthird : persistExitFills db₂ a with
              | error e => simp [transaction, hfirst, hsecond, hthird] at h
              | ok db₃ =>
                obtain rfl : db₃ = db' := by simpa [transaction, hfirst, hsecond, hthird] using h
                simp [hp, hopen, hsecond, hthird]
        · split at h
          · exact List.mem_cons.mpr (.inl (Prod.mk.inj h).2.symm)
          · cases (Prod.mk.inj h).1

/-- A run that is refused when it is repeated is not restart-safe. -/
theorem not_restartSafe (h : (persistExitResult (persistExitResult db a).2 a).1 ≠ .ok ()) : ¬RestartSafe db a := by
  intro hsafe
  have hstart := hsafe db List.mem_cons_self
  have hagain := hsafe _ (exitCommits_last hstart)
  exact h (congrArg Prod.fst hagain)

/-- The state a settled exit leaves its position in. -/
theorem PositionRow.exited_state (q : PositionRow) (result : ExitExecutionResult) :
    (q.exited result).state = if q.state = .quarantined ∨ result.status = .closed then .closed else q.state := by
  unfold PositionRow.exited PositionRow.moved
  by_cases hmoved : q.state = .quarantined ∨ result.status = .closed
  · rw [if_pos hmoved, if_pos hmoved]
    split
    · rfl
    · split <;> rfl
  · rw [if_neg hmoved, if_neg hmoved]
    split
    · rfl
    · split <;> rfl

end

/-! ## A position with one entry -/

/-- Ids that no row of the samples has. -/
def sampleUuids (n : ℕ) : String := String.ofList (List.replicate (n + 1) 'u')

theorem sampleUuids_distinct {m n : ℕ} (h : m < n) : sampleUuids m ≠ sampleUuids n := by
  intro heq
  have hlist := congrArg String.toList heq
  simp only [sampleUuids, String.toList_ofList] at hlist
  have hlength := congrArg List.length hlist
  simp only [List.length_replicate] at hlength
  omega

theorem ne_sampleUuids {s : String} (h : s.toList.head? ≠ some 'u') (n : ℕ) : s ≠ sampleUuids n := by
  intro heq
  refine h ?_
  rw [heq]
  simp [sampleUuids, List.replicate_succ]

/-- A protected long position of quantity 1, entered at 100. -/
def samplePosition : PositionRow where
  positionId := "position"
  intentId := "entry"
  orderRecordId := "entry-order"
  symbol := "BTC/USDT"
  direction := .long
  executionMode := .binanceTestnet
  quantity := 1
  entryPrice := 100
  entryFee := 1 / 10
  state := .isProtected
  version := 1

/-- The records of the position. -/
def sampleExitDatabase : Database where
  cycles := [{ cycleId := "cycle-0", fencingToken := "token-0" }]
  intents := [{ intentId := "entry", cycleId := "cycle-0", decisionId := none, symbol := "BTC/USDT", direction := .long,
                candidateKey := "trend", candidateType := .primary, executionMode := .binanceTestnet,
                initialRiskUsdt := some 5, state := .filled, version := 3 }]
  orders := [{ orderRecordId := "entry-order", intentId := "entry", clientOrderId := "entry-client",
               exchangeOrderId := some "100", quantity := 1, leverage := 3 }]
  fills := [{ fillId := "fill", intentId := "entry", exchangeOrderRecordId := "entry-order", accountId := "binance_testnet",
              exchangeOrderId := "100", tradeId := some "1", symbol := "BTC/USDT", side := "BUY", reduceOnly := false,
              filledQuantity := 1, fillPrice := 100, commission := some (1 / 10) }]
  positions := [samplePosition]
  protections := [{ protectionId := "protection", positionId := "position", stopLossPrice := 95,
                    originalStopLossPrice := some 95, takeProfitPrice := none, stopClientOrderId := "stop-client",
                    tpClientOrderId := none, stopExchangeOrderId := some "101", state := .protectionActive, version := 2 }]
  uuids := sampleUuids

theorem sampleExitDatabase_freshIds : sampleExitDatabase.FreshIds where
  distinct := fun _ _ _ h => sampleUuids_distinct h
  orders := by
    intro o ho n _
    obtain rfl := List.mem_singleton.mp ho
    exact ne_sampleUuids (by decide) n
  fills := by
    intro f hf n _
    obtain rfl := List.mem_singleton.mp hf
    exact ne_sampleUuids (by decide) n

/-- The facts of an exit of the sample that filled a quantity in one trade. -/
def sampleExit (status : ExitExecutionStatus) (reduced : ℚ) (remaining : ℚ) : ExitFacts where
  cycleId := "cycle-1"
  positionId := "position"
  executionMode := .binanceTestnet
  reason := .hardStop
  fencingToken := "token-1"
  result :=
    { status, positionState := .reducing, clientOrderId := "exit-client", exchangeOrderId := some "200", tradeIds := ["2"],
      reducedQuantity := reduced, averageFillPrice := some 110, totalFee := 1 / 20, remainingQuantity := some remaining,
      fillTimestamp := some 7 }

/-- An exit of the sample with one new trade is grounded. -/
theorem sampleExitDatabase_grounded {a : ExitFacts} (hposition : a.positionId = "position") (htoken : a.fencingToken = "token-1")
    (hclient : a.result.clientOrderId ≠ "entry-client") (hreports : a.result.Reports "200")
    (hquantity : 0 < a.result.reducedQuantity) (hprice : ∃ v, a.result.averageFillPrice = some v ∧ 0 < v)
    (htimestamp : a.result.fillTimestamp ≠ none) (htrades : a.result.tradeIds = ["2"]) :
    a.Grounded sampleExitDatabase "200" samplePosition where
  position := by rw [hposition]; rfl
  grounds := by
    refine ⟨⟨_, rfl⟩, ⟨_, rfl, by decide⟩, .inr ?_, ?_, by decide, sampleExitDatabase_freshIds⟩
    · rw [htoken]
      simp [sampleExitDatabase]
    · intro o ho hid
      obtain rfl := List.mem_singleton.mp ho
      exact absurd hid.symm hclient
  clientIds := by decide
  protections := by decide
  reports := hreports
  exchangeId := by
    intro o ho hid
    obtain rfl := List.mem_singleton.mp ho
    exact absurd hid (by decide)
  quantity := hquantity
  price := hprice
  timestamp := htimestamp
  tradesGiven := by rw [htrades]; nofun
  trades := by rw [htrades]; exact List.nodup_singleton _
  unstored := by
    intro f hf t ht
    rw [htrades] at ht
    obtain rfl := List.mem_singleton.mp hf
    obtain rfl := List.mem_singleton.mp ht
    decide
  unfilled := nofun

theorem sampleExit_grounded {status : ExitExecutionStatus} {reduced remaining : ℚ}
    (hstatus : status = .closed ∨ status = .partiallyReduced) (hreduced : 0 < reduced) :
    (sampleExit status reduced remaining).Grounded sampleExitDatabase "200" samplePosition := by
  refine sampleExitDatabase_grounded rfl rfl (by decide : "exit-client" ≠ "entry-client") ⟨hstatus, rfl, by decide⟩ hreduced
    ⟨110, rfl, by norm_num⟩ ?_ rfl
  exact nofun

end TradingPlatform
