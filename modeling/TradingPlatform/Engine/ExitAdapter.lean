import TradingPlatform.Engine.Exit

/-!
# The exit execution over any adapter

`execute_reduce_only_exit` again, with the adapter as what it answers: each call returns or raises whatever it likes. The reads
that were made are kept in order. Over the adapter of the exchange it is `executeReduceOnlyExit`.
-/

namespace TradingPlatform

/-- What an adapter answers to the calls of one exit. -/
structure ExitAdapter where
  /-- `submit_reduce_only_exit(command, symbol, side)`. -/
  submitReduceOnlyExit : SubmitReduceOnlyExit → String → String → Except PyError ExchangeOrderReceipt
  /-- `fetch_fills(symbol, exchange_order_id)`. -/
  fetchFills : String → String → Except PyError (List ExchangeFillReceipt)
  /-- `fetch_authoritative_snapshot()`. -/
  fetchAuthoritativeSnapshot : Except PyError AuthoritativeAccountSnapshot

/-- A read that was made, with its outcome. -/
inductive ExitRead where
  | fills (outcome : Except PyError (List ExchangeFillReceipt))
  | snapshot (outcome : Except PyError AuthoritativeAccountSnapshot)

/-- A result and the reads behind it. -/
abbrev ExitReply := Except PyError ExitExecutionResult × List ExitRead

/-- A position of the symbol and direction is open in a snapshot. -/
def AuthoritativeAccountSnapshot.shows (s : AuthoritativeAccountSnapshot) (symbol : String) (direction : Direction) : Bool :=
  s.positions.any fun p => decide (p.symbol = symbol ∧ p.direction = direction ∧ 0 < p.quantity)

/-- The command of an approved decision. -/
def ExitDecision.command (d : ExitDecision) : SubmitReduceOnlyExit :=
  { positionId := d.positionId, exitReason := d.reason.value, reduceQuantity := d.quantity, clientOrderId := d.clientOrderId,
    isEmergency := d.reason.isHardExit }

/-- A result without an order. -/
def ExitDecision.ended (d : ExitDecision) (status : ExitExecutionStatus) (positionState : V2PositionState) :
    ExitExecutionResult :=
  { status, positionState, clientOrderId := d.clientOrderId }

/-- The handler of `ReduceOnlyAlreadyFlat`: a snapshot that cannot be read counts as flat. -/
def ExitAdapter.reconcileAlreadyFlat (a : ExitAdapter) (decision : ExitDecision) (openProtectionOrderIds : List String) :
    ExitReply :=
  let stillOpen := match a.fetchAuthoritativeSnapshot with
    | .error _ => false
    | .ok snapshot => snapshot.shows decision.symbol decision.direction
  let result :=
    if !stillOpen then
      { decision.ended .alreadyFlatReconciled .closed with residualProtectionCancelled := openProtectionOrderIds }
    else decision.ended .submittedUnconfirmed .reducing
  (.ok result, [.snapshot a.fetchAuthoritativeSnapshot])

/-- What the confirmed fills of an acknowledged order make of the position. -/
def settleFills (decision : ExitDecision) (receipt : ExchangeOrderReceipt) (fills : List ExchangeFillReceipt)
    (authoritativeQuantity stepSize : ℚ) (openProtectionOrderIds : List String) : Except PyError ExitExecutionResult :=
  let total := aggregateFills fills
  if total.tradeIds = [] ∨ total.quantity ≤ 0 then
    .ok { decision.ended .submittedUnconfirmed .reducing with exchangeOrderId := some receipt.exchangeOrderId }
  else
    match roundQuantityToStep (max 0 (authoritativeQuantity - total.quantity)) stepSize with
    | .error e => .error e
    | .ok remaining =>
      let reduced : ExitExecutionResult :=
        { decision.ended .partiallyReduced .reducing with
          exchangeOrderId := some receipt.exchangeOrderId, tradeIds := total.tradeIds, reducedQuantity := total.quantity,
          averageFillPrice := total.vwap, totalFee := total.fee, remainingQuantity := some remaining,
          fillTimestamp := total.lastTimestamp }
      if remaining ≤ 0 then
        .ok { reduced with status := .closed, positionState := .closed, remainingQuantity := some 0,
                           residualProtectionCancelled := openProtectionOrderIds }
      else .ok reduced

/-- The part after an acknowledged order: only two kinds of exception of the read are caught. -/
def ExitAdapter.settleExit (a : ExitAdapter) (decision : ExitDecision) (receipt : ExchangeOrderReceipt)
    (authoritativeQuantity stepSize : ℚ) (openProtectionOrderIds : List String) : ExitReply :=
  let fills := a.fetchFills decision.symbol receipt.exchangeOrderId
  let result := match fills with
    | .error (.adapterUnavailable _) | .error (.exitTimeout _) =>
      .ok { decision.ended .submittedUnconfirmed .reducing with exchangeOrderId := some receipt.exchangeOrderId }
    | .error e => .error e
    | .ok fills => settleFills decision receipt fills authoritativeQuantity stepSize openProtectionOrderIds
  (result, [.fills fills])

/-- `execute_reduce_only_exit` over any adapter. -/
def ExitAdapter.executeReduceOnlyExit (a : ExitAdapter) (decision : ExitDecision) (authoritativeQuantity stepSize : ℚ)
    (openProtectionOrderIds : List String := []) : ExitReply :=
  match decision.verdict with
  | .blocked => (.ok (decision.ended .notAttempted .reducing), [])
  | .alreadyFlat => (.ok (decision.ended .alreadyFlatReconciled .closed), [])
  | .approved =>
    match a.submitReduceOnlyExit decision.command decision.symbol decision.exchangeSide with
    | .error (.reduceOnlyAlreadyFlat _) => a.reconcileAlreadyFlat decision openProtectionOrderIds
    | .error (.exitTimeout _) => (.ok (decision.ended .unknown .reducing), [])
    | .error (.adapterUnavailable _) => (.ok (decision.ended .failed .reducing), [])
    | .error e => (.error e, [])
    | .ok receipt => a.settleExit decision receipt authoritativeQuantity stepSize openProtectionOrderIds

/-- The adapter of the exchange at one exit. Its reads come after the submission. -/
def Exchange.exitAdapter (x : Exchange) (decision : ExitDecision) : ExitAdapter :=
  let after := (TradingPlatform.submitReduceOnlyExit x decision.command decision.symbol decision.exchangeSide).2
  { submitReduceOnlyExit := fun command symbol side => (TradingPlatform.submitReduceOnlyExit x command symbol side).1
    fetchFills := fun _ exchangeOrderId => TradingPlatform.fetchFills after exchangeOrderId
    fetchAuthoritativeSnapshot := (TradingPlatform.fetchAuthoritativeSnapshot after).1 }

/-- The fills of the exchange are read, or the adapter is unavailable. -/
theorem fetchFills_error {x : Exchange} {exchangeOrderId : String} {e : PyError}
    (h : fetchFills x exchangeOrderId = .error e) : ∃ m, e = .adapterUnavailable m := by
  unfold fetchFills at h
  split at h
  · exact ⟨_, (Except.error.inj h).symm⟩
  · split at h
    · exact ⟨_, (Except.error.inj h).symm⟩
    · nomatch h

theorem settleExit_eq (x : Exchange) (d : ExitDecision) (receipt : ExchangeOrderReceipt) (q stepSize : ℚ) (ids : List String)
    (a : ExitAdapter) (hfills : a.fetchFills d.symbol receipt.exchangeOrderId = fetchFills x receipt.exchangeOrderId) :
    (settleExit x d receipt q stepSize ids).1 = (a.settleExit d receipt q stepSize ids).1 := by
  unfold settleExit ExitAdapter.settleExit settleFills
  rw [hfills]
  cases hread : fetchFills x receipt.exchangeOrderId with
  | error e =>
    obtain ⟨m, rfl⟩ := fetchFills_error hread
    rfl
  | ok fills =>
    dsimp only
    split
    · rfl
    · cases hround : roundQuantityToStep (max 0 (q - (aggregateFills fills).quantity)) stepSize with
      | error e => rfl
      | ok remaining =>
        dsimp only
        split <;> rfl

theorem reconcileAlreadyFlat_eq (x : Exchange) (d : ExitDecision) (ids : List String) (a : ExitAdapter)
    (hsnapshot : a.fetchAuthoritativeSnapshot = (fetchAuthoritativeSnapshot x).1) :
    .ok (reconcileAlreadyFlat x d ids).1 = (a.reconcileAlreadyFlat d ids).1 := by
  unfold reconcileAlreadyFlat stillOpen ExitAdapter.reconcileAlreadyFlat
  rw [hsnapshot]
  rcases fetchAuthoritativeSnapshot x with ⟨e | snapshot, x'⟩
  · rfl
  · dsimp only
    unfold AuthoritativeAccountSnapshot.shows
    cases snapshot.positions.any fun p => decide (p.symbol = d.symbol ∧ p.direction = d.direction ∧ 0 < p.quantity) <;> rfl

/-- The exit of the exchange is the exit of its adapter. -/
theorem executeReduceOnlyExit_eq (x : Exchange) (d : ExitDecision) (q stepSize : ℚ) (ids : List String) :
    (executeReduceOnlyExit x d q stepSize ids).1 = ((x.exitAdapter d).executeReduceOnlyExit d q stepSize ids).1 := by
  have hsubmit : (x.exitAdapter d).submitReduceOnlyExit d.command d.symbol d.exchangeSide =
      (submitReduceOnlyExit x d.command d.symbol d.exchangeSide).1 := rfl
  unfold executeReduceOnlyExit ExitAdapter.executeReduceOnlyExit
  cases d.verdict with
  | blocked => rfl
  | alreadyFlat => rfl
  | approved =>
    dsimp only
    rw [hsubmit]
    cases hcall : submitReduceOnlyExit x d.command d.symbol d.exchangeSide with
    | mk outcome x' =>
      have hafter : (submitReduceOnlyExit x d.command d.symbol d.exchangeSide).2 = x' := by rw [hcall]
      have hexit : submitReduceOnlyExit x ⟨d.positionId, d.reason.value, d.quantity, d.clientOrderId, d.reason.isHardExit⟩
          d.symbol d.exchangeSide = (outcome, x') := hcall
      rw [hexit]
      cases outcome with
      | ok receipt => exact settleExit_eq x' d receipt q stepSize ids _ (by rw [← hafter]; rfl)
      | error e =>
        cases e with
        | reduceOnlyAlreadyFlat m => exact reconcileAlreadyFlat_eq x' d ids _ (by rw [← hafter]; rfl)
        | _ => rfl

end TradingPlatform
