import TradingPlatform.Engine.ExitPersistence

/-!
# Recovery of a margin guard

`recover_confirmed_margin_guard_lifecycle` (`application/fact_persistence.py`): a filled entry whose margin was above the ceiling
and the reduce-only order that unwound it become the ordinary facts of a closed position, from receipts alone.
-/

namespace TradingPlatform

/-- The arguments of `recover_confirmed_margin_guard_lifecycle`. -/
structure MarginGuard where
  intentId : String
  guardExchangeOrderId : String
  guardClientOrderId : String
  guardFills : List ExchangeFillReceipt

/-- The receipts of the guard are those of its order. -/
def MarginGuard.check (a : MarginGuard) : Except PyError Unit :=
  if a.guardExchangeOrderId = "" ∨ a.guardClientOrderId = "" then
    .error (.valueError "margin-guard recovery requires exact exchange and client order ids")
  else if a.guardFills = [] then
    .error (.valueError "margin-guard recovery requires confirmed reduce-only fill receipts")
  else if a.guardFills.any fun f => decide (f.exchangeOrderId ≠ a.guardExchangeOrderId) then
    .error (.valueError "margin-guard fill receipt does not match the exact guard order")
  else if a.guardFills.any fun f => decide (f.filledQuantity ≤ 0) then
    .error (.valueError "margin-guard recovery requires positive filled quantities")
  else .ok ()

/-- The position of an intent. -/
def Database.positionOfIntent (db : Database) (intentId : String) : Option PositionRow :=
  Table.get PositionRow.intentId db.positions intentId

/-- The persisted entry a guard unwound. -/
structure GuardedEntry where
  intent : IntentRow
  order : OrderRow
  cycle : CycleRow
  existing : Option PositionRow
  fills : List FillRow

/-- The position a guard is recovered to: none is left to recover once it is closed. -/
def guardedPosition (db : Database) (intentId : String) : Except PyError (Option PositionRow) :=
  match db.positionOfIntent intentId with
  | none => .ok none
  | some p =>
    if p.state ≠ .closed ∧ p.state ≠ .positionProjected then
      .error (.valueError ("margin-guard position '" ++ p.positionId ++ "' is '" ++ p.state.value ++
        "'; cannot replay a different lifecycle"))
    else .ok (some p)

/-- The entry as it is read: its intent, its acknowledged order and fills, and its cycle. -/
def guardedEntry (db : Database) (intent : IntentRow) (existing : Option PositionRow) : Except PyError GuardedEntry :=
  match (db.orderOfIntent intent.intentId).filter fun o => o.acknowledgedId.isSome with
  | none => .error (.valueError "margin-guard recovery requires an acknowledged entry order")
  | some order =>
    let fills := db.fills.filter fun f =>
      decide (f.intentId = intent.intentId ∧ f.exchangeOrderRecordId = order.orderRecordId) && !f.reduceOnly
    if fills = [] then .error (.valueError "margin-guard recovery requires persisted non-reduce-only entry fills")
    else
      match db.cycles.find? fun c => decide (c.cycleId = intent.cycleId) with
      | none => .error (.valueError "margin-guard recovery requires the original V2 cycle")
      | some cycle => .ok { intent, order, cycle, existing, fills }

/-- The quantity of the entry. -/
def GuardedEntry.quantity (e : GuardedEntry) : ℚ := (e.fills.map (·.filledQuantity)).sum

/-- The position of a recovered guard: the projected one, or one whose id is derived from the intent. -/
def GuardedEntry.positionId (e : GuardedEntry) : String :=
  e.existing.elim (Digest.uuid5 Digest.namespaceUrl ("automated-trading-v2:margin-guard:" ++ e.intent.intentId)) (·.positionId)

/-- The entry as a confirmed result. -/
def GuardedEntry.result (e : GuardedEntry) : EntryExecutionResult :=
  { status := .filled, intentState := .filled, clientOrderId := e.order.clientOrderId,
    exchangeOrderId := e.order.exchangeOrderId,
    tradeIds := e.fills.filterMap fun f => f.tradeId.filter fun t => decide (t ≠ ""), filledQuantity := e.quantity,
    averageFillPrice := some ((e.fills.map fun f => f.filledQuantity * f.fillPrice).sum / e.quantity),
    totalFee := (e.fills.map fun f => f.commission.getD 0).sum, requestedQuantity := e.order.quantity }

/-- The facts of the entry: it was never protected. -/
def GuardedEntry.facts (e : GuardedEntry) : EntryFacts :=
  { cycleId := e.intent.cycleId, decisionId := e.intent.decisionId, intentId := e.intent.intentId, symbol := e.intent.symbol,
    direction := e.intent.direction, candidateKey := e.intent.candidateKey, candidateType := e.intent.candidateType,
    executionMode := e.intent.executionMode, fencingToken := e.cycle.fencingToken, leverage := e.order.leverage,
    entryResult := e.result, positionId := e.positionId, protectionResult := none, stopLossPrice := none,
    takeProfitPrice := none, stopClientOrderId := none, tpClientOrderId := none, initialRiskUsdt := e.intent.initialRiskUsdt }

/-- The quantity of the guard. -/
def MarginGuard.quantity (a : MarginGuard) : ℚ := (a.guardFills.map (·.filledQuantity)).sum

/-- The guard as the exit that closed the position. -/
def GuardedEntry.exit (e : GuardedEntry) (a : MarginGuard) : ExitFacts :=
  { cycleId := e.intent.cycleId, positionId := e.positionId, executionMode := e.intent.executionMode,
    reason := .canaryMarginCeiling, fencingToken := e.cycle.fencingToken,
    result :=
      { status := .closed, positionState := .closed, clientOrderId := a.guardClientOrderId,
        exchangeOrderId := some a.guardExchangeOrderId, tradeIds := a.guardFills.map (·.tradeId),
        reducedQuantity := a.quantity,
        averageFillPrice := some ((a.guardFills.map fun f => f.filledQuantity * f.fillPrice).sum / a.quantity),
        totalFee := (a.guardFills.map (·.fee)).sum, remainingQuantity := some 0,
        fillTimestamp := (a.guardFills.map (·.fillTimestamp)).max? } }

/-- The guard closes the entry exactly. -/
def GuardedEntry.closedBy (e : GuardedEntry) (a : MarginGuard) : Bool :=
  decide (|a.quantity - e.quantity| ≤ 1 / 100000000)

/-- The facts of the entry are persisted, unless its position is there already. -/
def persistGuardedEntry (db : Database) (e : GuardedEntry) : Except PyError Unit × Database :=
  if e.existing.isSome then (.ok (), db) else transaction db (persistEntryAndProtection db e.facts)

/-- The transactions of a recovery: the entry, and then the guard that closed it. -/
def persistGuard (db : Database) (a : MarginGuard) (e : GuardedEntry) : Except PyError String × Database :=
  match persistGuardedEntry db e with
  | (.error err, db) => (.error err, db)
  | (.ok _, db) =>
    if !e.closedBy a then
      (.error (.valueError "margin-guard fill quantity does not exactly close entry quantity"), db)
    else
      match persistExitResult db (e.exit a) with
      | (.error err, db) => (.error err, db)
      | (.ok _, db) => (.ok e.positionId, db)

/-- What a recovery reads: the position if it is closed already, or the entry to recover. -/
def readGuardedEntry (db : Database) (a : MarginGuard) : Except PyError (String ⊕ GuardedEntry) := do
  a.check
  match db.intent a.intentId with
  | none => .error (.valueError ("margin-guard entry intent '" ++ a.intentId ++ "' not found"))
  | some intent =>
    if intent.executionMode ≠ .binanceTestnet then
      .error (.valueError "margin-guard recovery is permitted only for BINANCE_TESTNET facts")
    else
      let expected ← exitClientOrderId ("margin-guard:" ++ a.intentId)
      if a.guardClientOrderId ≠ expected then
        .error (.valueError "margin-guard client order id does not match the deterministic intent identity")
      else
        let existing ← guardedPosition db a.intentId
        match existing.filter fun p => decide (p.state = .closed) with
        | some p => return .inl p.positionId
        | none =>
          let entry ← guardedEntry db intent existing
          return .inr entry

/-- `recover_confirmed_margin_guard_lifecycle`. -/
def recoverConfirmedMarginGuardLifecycle (db : Database) (a : MarginGuard) : Except PyError String × Database :=
  match readGuardedEntry db a with
  | .error e => (.error e, db)
  | .ok (.inl positionId) => (.ok positionId, db)
  | .ok (.inr entry) => persistGuard db a entry

end TradingPlatform
