import TradingPlatform.Engine.Recovery
import TradingPlatform.Engine.MarginGuard

/-!
# The automated cycle

`run_automated_trading_cycle` (`application/cycle_service.py`): how it protects a position, enters one from the creation of the
entry intent on, and exits one.
-/

namespace TradingPlatform

/-!
## Protection of an entry

Three places protect a position: the entry of a cycle, the one-way tightening of its stop, and the recovery of a confirmed fill
whose persistence was lost. Each decides first and reaches the exchange then.
-/

/-- An entry of a cycle that may be projected, under the client id of its intent. -/
structure ConfirmedEntry extends EntryIdentity where
  candidate : TradeCandidate
  leverage : ℤ
  entryResult : EntryExecutionResult
  tickSize : ℚ
  initialRiskUsdt : ℚ
  projectable : entryResult.positionProjectable = true
  clientOrderId_eq : entryClientOrderId intentId = .ok entryResult.clientOrderId

/-- The plan of a confirmed entry. -/
def ConfirmedEntry.plan (c : ConfirmedEntry) (positionId : String) (attempt : ℕ := 1) : Except PyError ProtectionPlan :=
  buildProtectionPlan positionId c.candidate (c.entryResult.averageFillPrice.getD 0) c.entryResult.filledQuantity c.tickSize
    attempt

/-- What is persisted of a confirmed entry: the prices and ids are those of the plan. -/
def ConfirmedEntry.facts (c : ConfirmedEntry) (positionId : String) (plan : Option ProtectionPlan)
    (protection : Option ProtectionResult) : EntryFacts :=
  { c.toEntryIdentity with
    leverage := c.leverage, entryResult := c.entryResult, positionId, protectionResult := protection,
    stopLossPrice := plan.map (·.stopPrice), takeProfitPrice := plan.bind (·.takeProfitPrice),
    stopClientOrderId := plan.map (·.stopClientOrderId), tpClientOrderId := plan.bind (·.tpClientOrderId),
    initialRiskUsdt := some c.initialRiskUsdt }

/-- A plan at the exchange: an exception is recorded and leaves no result. -/
def protectPlan (x : Exchange) (plan : Except PyError ProtectionPlan) :
    Option ProtectionPlan × Option ProtectionResult × Exchange :=
  match plan with
  | .error _ => (none, none, x)
  | .ok plan =>
    match ensureProtection x plan with
    | (.error _, x) => (some plan, none, x)
    | (.ok result, x) => (some plan, some result, x)

/-- The end of `run_automated_trading_cycle`: a confirmed entry is protected and its facts are persisted. -/
def protectEntry (w : World) (c : ConfirmedEntry) (attempt : ℕ := 1) : Except PyError Unit × World :=
  let (positionId, db) := w.db.uuid4
  let (plan, protection, exchange) := protectPlan w.exchange (c.plan positionId attempt)
  let (out, db) := transaction db (persistEntryAndProtection db (c.facts positionId plan protection))
  (out, { db, exchange })

/-! ## Profit protection -/

/-- `p1_profit_protection`: the trigger, the part that is locked in and the stop, all in terms of the initial risk. -/
def p1ProfitProtection (direction : Direction) (entryPrice originalStopPrice markPrice : ℚ) : Option (ℚ × ℚ × ℚ) :=
  let risk := |entryPrice - originalStopPrice|
  if risk ≤ 0 then none
  else
    let away : ℚ := match direction with
      | .long => 1
      | .short => -1
    let mfe := away * (markPrice - entryPrice) / risk
    if 1 ≤ mfe then some (1, 2 / 5, entryPrice + away * (2 / 5) * risk)
    else if 3 / 5 ≤ mfe then some (3 / 5, 1 / 20, entryPrice + away * (1 / 20) * risk)
    else none

/-- A tightening that is due: the stop on the tick, the revision of its id, and the order it replaces. -/
structure Tightening where
  safeStop : ℚ
  revision : ℕ
  oldStopExchangeOrderId : String

/-- The body of `_apply_profit_protection` up to the submission. -/
def LocalPositionView.tightening (p : LocalPositionView) (symbol : String) (snapshot : AuthoritativeAccountSnapshot)
    (tickSize : ℚ) : Option Tightening :=
  if p.symbol ≠ symbol ∨ p.state = .closed ∨ p.state = .quarantined then none
  else
    match snapshot.positionOf p.symbol p.direction, p.originalStopPrice, p.currentStopPrice with
    | some exchangePosition, some originalStop, some currentStop =>
      match p1ProfitProtection p.direction p.entryPrice originalStop exchangePosition.markPrice,
          p.protectionOrderRefs.find? fun ref => decide (ref.2.2 = "HARD_STOP") with
      | some (_, _, stop), some (oldStop, _, _) =>
        -- one way only: a stop that is not better than the current one is left
        if p.direction.Worse currentStop stop then
          let safeStop := match p.direction with
            | .long => (stop / tickSize).ceil * tickSize
            | .short => (stop / tickSize).floor * tickSize
          some { safeStop, revision := max (p.protectionVersion + 1) 1, oldStopExchangeOrderId := oldStop }
        else none
      | _, _ => none
    | _, _, _ => none

/-- What the store raises on the update of a protection beside what `update_protection_stop` itself raises. -/
abbrev StoreFailure := String → Option PyError

/-- A store that takes every update. -/
def noStoreFailure : StoreFailure := fun _ => none

/-- The record of a tightening. -/
def recordTightening (failure : StoreFailure) (db : Database) (protectionId : String) (safeStop : ℚ)
    (clientOrderId exchangeOrderId : String) : Except PyError Database :=
  match failure protectionId with
  | some e => .error e
  | none => updateProtectionStop db protectionId safeStop clientOrderId exchangeOrderId

/-- The submission of a tightening: the new stop, the cancellation of the old one, the record. -/
def tightenStop (w : World) (p : LocalPositionView) (t : Tightening) (failure : StoreFailure := noStoreFailure) :
    Except PyError Unit × World :=
  match stopClientOrderId p.positionId t.revision with
  | .error e => (.error e, w)
  | .ok clientOrderId =>
    let side := match p.direction with
      | .long => "sell"
      | .short => "buy"
    match submitStopReplacement w.exchange p.symbol side p.quantity t.safeStop clientOrderId with
    | (.error e, exchange) => (.error e, { w with exchange })
    | (.ok receipt, exchange) =>
      match cancelOrder exchange t.oldStopExchangeOrderId with
      | (.error e, exchange) => (.error e, { w with exchange })
      | (.ok _, exchange) =>
        let (out, db) := transaction w.db
          (recordTightening failure w.db (p.protectionId.getD "") t.safeStop clientOrderId receipt.exchangeOrderId)
        (out, { db, exchange })

/-- The loop of `_apply_profit_protection` over the local positions. -/
def tightenStops (symbol : String) (snapshot : AuthoritativeAccountSnapshot) (tickSize : ℚ)
    (failure : StoreFailure := noStoreFailure) : List LocalPositionView → World → Except PyError Unit × World
  | [], w => (.ok (), w)
  | p :: rest, w =>
    match p.tightening symbol snapshot tickSize with
    | none => tightenStops symbol snapshot tickSize failure rest w
    | some t =>
      match tightenStop w p t failure with
      | (.error e, w) => (.error e, w)
      | (.ok _, w) => tightenStops symbol snapshot tickSize failure rest w

/-- `_apply_profit_protection`: one session, so a raise loses the records of the whole loop and none of its orders. -/
def applyProfitProtection (w : World) (symbol : String) (snapshot : AuthoritativeAccountSnapshot) (localState : LocalStateView)
    (tickSize : ℚ) (failure : StoreFailure := noStoreFailure) : Except PyError Unit × World :=
  match tightenStops symbol snapshot tickSize failure localState.positions w with
  | (.error e, w') => (.error e, { w with exchange := w'.exchange })
  | (.ok _, w') => (.ok (), w')

/-- `_fetch_step_size`: the quantity step of the market, or a default when the market cannot be read. -/
def fetchStepSize (market : Except PyError PreSubmitMarketSnapshot) : ℚ :=
  match market with
  | .ok m => m.stepSize
  | .error _ => 1 / 1000

/-- Profit protection as `run_automated_trading_cycle` calls it: with the quantity step as its tick. -/
def cycleProfitProtection (w : World) (symbol : String) (snapshot : AuthoritativeAccountSnapshot) (localState : LocalStateView)
    (market : Except PyError PreSubmitMarketSnapshot) (failure : StoreFailure := noStoreFailure) : Except PyError Unit × World :=
  applyProfitProtection w symbol snapshot localState (fetchStepSize market) failure

/-! ## Entry gaps -/

/-- What a persisted decision says of the entry it submitted. An id that is missing is empty. -/
structure GapEvidence where
  cycleId : String
  decisionId : String
  intentId : String
  clientOrderId : String
  exchangeOrderId : String
  /-- None for a side that is neither `LONG` nor `SHORT`. -/
  direction : Option Direction
  /-- The candidate rebuilt from the decision; none without its geometry. -/
  candidate : Except PyError (Option TradeCandidate)

/-- What `_recover_confirmed_v2_entry_gap` reads beside the decisions. -/
structure GapRequest where
  symbol : String
  executionMode : V2ExecutionMode
  fencingToken : String
  maxLeverage : ℤ
  snapshot : AuthoritativeAccountSnapshot
  /-- The tick of the market, or why it cannot be read. -/
  tickSize : Except PyError ℚ

/-- What became of a decision's gap. -/
inductive GapOutcome where
  | skipped | recovered | blocked
  deriving DecidableEq, Repr

/-- The identity of the evidence is exact: the ids are there and the client id is the one of the intent. -/
def GapEvidence.exact (e : GapEvidence) : Bool :=
  decide (e.intentId ≠ "" ∧ e.clientOrderId ≠ "" ∧ e.exchangeOrderId ≠ "") && isV2ClientOrderId e.clientOrderId &&
    match entryClientOrderId e.intentId with
    | .ok clientOrderId => decide (clientOrderId = e.clientOrderId)
    | .error _ => false

/-- The result of a fill that was recovered. -/
def GapEvidence.entryResult (e : GapEvidence) (total : FillAggregate) (fillSource : String) : EntryExecutionResult :=
  { status := .filled, intentState := .filled, clientOrderId := e.clientOrderId, exchangeOrderId := some e.exchangeOrderId,
    tradeIds := total.tradeIds, filledQuantity := total.quantity, averageFillPrice := total.vwap, totalFee := total.fee,
    fillTimestamp := total.lastTimestamp, fillSource }

/-- The fill the exchange confirms for the evidence, at most as large as the position: its trades, or else its status. -/
def confirmedGapFill (x : Exchange) (e : GapEvidence) (direction : Direction) (exchangeQuantity : ℚ) :
    Except PyError (Option EntryExecutionResult) := do
  let fills ← fetchFills x e.exchangeOrderId
  if fills ≠ [] then
    let total := aggregateFills fills
    return if total.quantity ≤ 0 ∨ exchangeQuantity < total.quantity then none
      else some (e.entryResult total "BINANCE_USER_TRADE")
  else
    let expectedSide := match direction with
      | .long => "buy"
      | .short => "sell"
    let status ← queryFilledOrderById x e.exchangeOrderId
    return status.bind fun r =>
      if r.clientOrderId ≠ e.clientOrderId ∨ r.status ≠ "filled" ∨ r.side ≠ expectedSide ∨ exchangeQuantity < r.quantity ∨
          (r.price.all fun p => decide (p ≤ 0)) then none
      else some (e.entryResult { quantity := r.quantity, vwap := r.price, fee := 0, tradeIds := [], lastTimestamp := none }
        "BINANCE_ORDER_STATUS_RECOVERY")

/-- The durable entry fill of the evidence. -/
def Database.hasEntryFill (db : Database) (orderRecordId exchangeOrderId : String) : Bool :=
  db.fills.any fun f =>
    decide (f.exchangeOrderRecordId = orderRecordId ∧ f.exchangeOrderId = exchangeOrderId) && !f.reduceOnly

/-- A fill that is confirmed while the exchange holds no position: its facts are written and the intent is cancelled. -/
def persistFlatGap (db : Database) (r : GapRequest) (e : GapEvidence) (order : OrderRow) (intent : IntentRow)
    (status : ExchangeOrderReceipt) : Except PyError Database := do
  let receipt : FillReceipt :=
    { intentId := e.intentId, exchangeOrderRecordId := order.orderRecordId, exchangeOrderId := e.exchangeOrderId,
      tradeId := none, symbol := r.symbol, side := status.side.toUpper, reduceOnly := false,
      filledQuantity := status.quantity, fillPrice := status.price.getD 0, commission := none }
  let db ← (if db.hasEntryFill order.orderRecordId e.exchangeOrderId then .ok db else saveOrderLevelFillRecovery db receipt)
  if intent.state = .exchangeAcknowledged then
    transitionIntent db e.intentId .exchangeAcknowledged .cancelled "RecoveryConfirmedFlatAfterFill"
  else .ok db

/-- The branch of a gap without a position at the exchange. -/
def settleFlatGap (w : World) (r : GapRequest) (e : GapEvidence) : Except PyError GapOutcome × World :=
  let facts := (w.db.orderOfIntent e.intentId).bind fun order => (w.db.intent e.intentId).map fun intent => (order, intent)
  -- a terminal historical gap is not asked for again
  if facts.any fun (order, intent) => w.db.hasEntryFill order.orderRecordId e.exchangeOrderId &&
      decide (intent.state = .filled) then (.ok .skipped, w)
  else
    match queryFilledOrderById w.exchange e.exchangeOrderId, facts with
    | .error err, _ => (.error err, w)
    | .ok (some status), some (order, intent) =>
      if status.clientOrderId = e.clientOrderId ∧ status.status = "filled" ∧ 0 < status.quantity ∧ status.price.isSome then
        match transaction w.db (persistFlatGap w.db r e order intent status) with
        | (.error err, db) => (.error err, { w with db })
        | (.ok _, db) => (.ok .recovered, { w with db })
      else (.ok .skipped, w)
    | _, _ => (.ok .skipped, w)

/-- The number a gap protection counts from: the records of the position or the largest version, whichever is more. -/
def Database.previousProtectionVersion (db : Database) (positionId : String) : ℕ :=
  max (db.protectionsOf positionId).length (((db.protectionsOf positionId).map (·.version)).foldr max 0)

/-- The adoption of a confirmed fill, before its protection. -/
structure GapAdoption where
  evidence : GapEvidence
  direction : Direction
  candidate : TradeCandidate
  entryResult : EntryExecutionResult
  exchangeQuantity : ℚ
  tickSize : ℚ

/-- The open position a fill joins. -/
def GapAdoption.existing (a : GapAdoption) (db : Database) (r : GapRequest) : Option PositionRow :=
  db.openPosition r.symbol a.direction r.executionMode

/-- The position of the adoption: the open one, or a new one. -/
def GapAdoption.positionId (a : GapAdoption) (db : Database) (r : GapRequest) : String :=
  (a.existing db r).elim db.uuid4.1 (·.positionId)

/-- A fill is projected unless the open position already holds what the exchange does. -/
def GapAdoption.shouldProject (a : GapAdoption) (db : Database) (r : GapRequest) : Bool :=
  (a.existing db r).elim true fun p => decide (p.quantity < a.exchangeQuantity)

/-- The protection of the adoption, for the quantity of the whole position. -/
def GapAdoption.plan (a : GapAdoption) (db : Database) (r : GapRequest) : Except PyError ProtectionPlan :=
  let previous := (a.existing db r).elim 0 fun p => db.previousProtectionVersion p.positionId
  buildProtectionPlan (a.positionId db r) a.candidate (a.entryResult.averageFillPrice.getD 0)
    (if (a.existing db r).isSome then a.exchangeQuantity else a.entryResult.filledQuantity) a.tickSize (previous + 1)

/-- What is persisted of the adoption. -/
def GapAdoption.facts (a : GapAdoption) (db : Database) (r : GapRequest) (plan : Option ProtectionPlan)
    (protection : Option ProtectionResult) : EntryFacts :=
  { cycleId := a.evidence.cycleId, decisionId := some a.evidence.decisionId, intentId := a.evidence.intentId,
    symbol := r.symbol, direction := a.direction, candidateKey := a.candidate.strategyId, candidateType := .sampling,
    executionMode := r.executionMode, fencingToken := r.fencingToken, leverage := r.maxLeverage,
    entryResult := a.entryResult, positionId := a.positionId db r, protectionResult := protection,
    stopLossPrice := plan.map (·.stopPrice), takeProfitPrice := plan.bind (·.takeProfitPrice),
    stopClientOrderId := plan.map (·.stopClientOrderId), tpClientOrderId := plan.bind (·.tpClientOrderId),
    initialRiskUsdt := plan.map fun p =>
      a.entryResult.filledQuantity * |a.entryResult.averageFillPrice.getD 0 - p.stopPrice|
    projectPosition := a.shouldProject db r, allowExistingPositionAggregation := (a.existing db r).isSome }

/-- The database after the id of a new position was drawn. -/
def GapAdoption.drawn (a : GapAdoption) (db : Database) (r : GapRequest) : Database :=
  if (a.existing db r).isSome then db else db.uuid4.2

/-- The facts of an adoption are persisted. -/
def GapAdoption.persist (a : GapAdoption) (w : World) (r : GapRequest) (plan : Option ProtectionPlan)
    (protection : Option ProtectionResult) (exchange : Exchange) (db : Database) : Except PyError GapOutcome × World :=
  match transaction db (persistEntryAndProtection db (a.facts w.db r plan protection)) with
  | (.error e, db) => (.error e, { db, exchange })
  | (.ok _, db) => (.ok .recovered, { db, exchange })

/-- The quantity of the open position is lowered to what the exchange holds. -/
def GapAdoption.lowerQuantity (a : GapAdoption) (db : Database) (r : GapRequest) : Except PyError Database :=
  match a.existing db r with
  | some p => if a.exchangeQuantity < p.quantity then reconcilePositionQuantity db p.positionId a.exchangeQuantity else .ok db
  | none => .ok db

/-- The adoption of a fill: it is protected if it is projected, and persisted. -/
def adoptGap (w : World) (r : GapRequest) (a : GapAdoption) : Except PyError GapOutcome × World :=
  if a.shouldProject w.db r then
    match a.plan w.db r with
    | .error e => (.error e, { w with db := a.drawn w.db r })
    | .ok plan =>
      match ensureProtection w.exchange plan with
      | (.error e, exchange) => (.error e, { db := a.drawn w.db r, exchange })
      | (.ok result, exchange) =>
        if !result.isActive then (.ok .blocked, { db := a.drawn w.db r, exchange })
        else a.persist w r (some plan) (some result) exchange (a.drawn w.db r)
  else
    match transaction w.db (a.lowerQuantity w.db r) with
    | (.error e, db) => (.error e, { w with db })
    | (.ok _, db) => a.persist w r none none w.exchange db

/-- What the evidence of a decision asks for. -/
inductive GapDecision where
  | skip
  | flat
  | blocked
  | adopt (a : GapAdoption)

/-- The decision about a gap, read off the database, the snapshot and the exchange. -/
def decideGap (w : World) (r : GapRequest) (e : GapEvidence) : Except PyError GapDecision :=
  if !e.exact || w.db.positions.any fun p => decide (p.intentId = e.intentId) then .ok .skip
  else
    match e.direction.bind fun d => (r.snapshot.positionOf r.symbol d).map fun p => (d, p) with
    | none => .ok .flat
    | some (direction, exchangePosition) =>
      match confirmedGapFill w.exchange e direction exchangePosition.quantity with
      | .error err => .error err
      | .ok none => .ok .skip
      | .ok (some entryResult) =>
        match e.candidate, r.tickSize with
        | .error err, _ => .error err
        | .ok none, _ => .ok .blocked
        | .ok (some _), .error err => .error err
        | .ok (some candidate), .ok tickSize =>
          .ok (.adopt { evidence := e, direction, candidate, entryResult, exchangeQuantity := exchangePosition.quantity,
                        tickSize })

/-- The body of `_recover_confirmed_v2_entry_gap` for one decision. -/
def recoverEntryGap (w : World) (r : GapRequest) (e : GapEvidence) : Except PyError GapOutcome × World :=
  match decideGap w r e with
  | .error err => (.error err, w)
  | .ok .skip => (.ok .skipped, w)
  | .ok .flat => settleFlatGap w r e
  | .ok .blocked => (.ok .blocked, w)
  | .ok (.adopt a) => adoptGap w r a

/-- `_recover_confirmed_v2_entry_gap`: whether a gap was recovered. A gap that is blocked ends the loop with no. -/
def recoverConfirmedEntryGaps (r : GapRequest) : List GapEvidence → Bool → World → Except PyError Bool × World
  | [], recovered, w => (.ok recovered, w)
  | e :: rest, recovered, w =>
    match recoverEntryGap w r e with
    | (.error err, w) => (.error err, w)
    | (.ok .skipped, w) => recoverConfirmedEntryGaps r rest recovered w
    | (.ok .recovered, w) => recoverConfirmedEntryGaps r rest true w
    | (.ok .blocked, w) => (.ok false, w)

/-!
## The entry of a cycle

The part of `run_automated_trading_cycle` from the creation of its entry intent on: the
reservation, the checks of the runtime control after it, the submission, the margin guard and the protection. What the cycle
did before is the world it finds and the entry it decided, if it decided one. The funnel is left out.
-/

/-- The global runtime control as this part of the cycle finds it. -/
structure RuntimeControlReads where
  /-- What others make of the row before read `n`: the one of the reservation and the two after it. -/
  interfere : ℕ → Option Bool → Option Bool := fun _ row => row
  /-- The read fails. -/
  fails : ℕ → Bool := fun _ => false

/-- The entry a cycle decided, its gates passed. -/
structure EntryStage where
  cycleId : String
  decisionId : Option String
  symbol : String
  candidate : TradeCandidate
  candidateKey : String
  executionMode : V2ExecutionMode
  fencingToken : String
  gateResult : EntryGateResult
  snapshotMarket : PreSubmitMarketSnapshot
  quantity : ℚ
  leverage : ℤ
  engineActivation : EngineActivation
  canarySampling : Bool
  /-- `snapshot.equity`. -/
  equity : ℚ
  maxMarginFraction : Option ℚ
  initialRiskUsdt : ℚ
  maxOpenPositions : ℕ
  persistFacts : Bool := true

/-- The world and the part of the cycle's result that its entry writes. -/
structure EntryRun extends World where
  entryBlockedByRuntimeControl : Bool := false
  entrySubmitted : Bool := false
  positionProjected : Bool := false
  protectionActive : Bool := false
  exitSubmitted : Bool := false
  errors : List String := []
  /-- The reason in the funnel that stopped the reservation. -/
  portfolioReason : Option String := none
  /-- What `execute_entry` returned. -/
  entryResult : Option EntryExecutionResult := none
  /-- What `ensure_protection` returned. -/
  protection : Option ProtectionResult := none

/-- `result.record_error`. -/
def EntryRun.record (run : EntryRun) (error : String) : EntryRun := { run with errors := run.errors ++ [error] }

/-- `result.record_error` of an exception. -/
def EntryRun.recordOf (run : EntryRun) (what : String) : Except PyError Unit → EntryRun
  | .error e => run.record (what ++ e.message)
  | .ok _ => run

namespace EntryStage

variable (s : EntryStage)

/-- What the intent of the entry says. -/
def identity (intentId : String) : EntryIdentity :=
  { cycleId := s.cycleId, decisionId := s.decisionId, intentId, symbol := s.symbol, direction := s.candidate.side,
    candidateKey := s.candidateKey, candidateType := s.candidate.candidateType, executionMode := s.executionMode,
    fencingToken := s.fencingToken }

/-- The arguments of the reservation. -/
def reservation (intentId : String) : EntryReservation :=
  { s.identity intentId with
    initialRiskUsdt := s.initialRiskUsdt, accountEquity := some s.equity, portfolioRiskEnforced := !s.canarySampling,
    maxOpenPositions := s.maxOpenPositions }

/-- The arguments of `execute_entry`. -/
def order (intentId : String) : EntryOrder :=
  { candidate := s.candidate, gateResult := s.gateResult, snapshot := s.snapshotMarket, intentId, quantity := s.quantity,
    leverage := s.leverage, engineActivation := s.engineActivation,
    marginEquity := if s.canarySampling then some s.equity else none,
    maxMarginFraction := if s.canarySampling then s.maxMarginFraction else none, enforceMarginCeiling := s.canarySampling }

/-- The plan of the confirmed fill. -/
def plan (positionId : String) (r : EntryExecutionResult) : Except PyError ProtectionPlan :=
  buildProtectionPlan positionId s.candidate (r.averageFillPrice.getD 0) r.filledQuantity s.snapshotMarket.tickSize

/-- The facts of the confirmed fill. -/
def facts (intentId positionId : String) (r : EntryExecutionResult) (plan : Option ProtectionPlan)
    (protection : Option ProtectionResult) : EntryFacts :=
  { s.identity intentId with
    leverage := s.leverage, entryResult := r, positionId, protectionResult := protection,
    stopLossPrice := plan.map (·.stopPrice), takeProfitPrice := plan.bind (·.takeProfitPrice),
    stopClientOrderId := plan.map (·.stopClientOrderId), tpClientOrderId := plan.bind (·.tpClientOrderId),
    initialRiskUsdt := some s.initialRiskUsdt }

/-- A confirmed fill: it is protected, and its facts are persisted whatever came of the protection. -/
def protect (intentId : String) (r : EntryExecutionResult) (run : EntryRun) : EntryRun :=
  let (positionId, db) := run.db.uuid4
  let plan := s.plan positionId r
  let (used, protection, exchange) := protectPlan run.exchange plan
  let run := { run with db, exchange, protection, positionProjected := true,
                        protectionActive := protection.any (·.isActive) }
  let run :=
    if run.protectionActive then run
    else run.record (if protection.isSome then "protection failed" else "protection error")
  if !s.persistFacts then run
  else
    let (out, db) := transaction run.db (persistEntryAndProtection run.db (s.facts intentId positionId r used protection))
    { run with db }.recordOf "fact persistence failed: " out

/-- `_recover_confirmed_margin_guard_lifecycle`: an exception is recorded. -/
def recoverGuard (intentId guardExchangeOrderId guardClientOrderId : String) (run : EntryRun) : EntryRun :=
  match fetchFills run.exchange guardExchangeOrderId with
  | .error e => run.record ("margin-guard fill recovery deferred: " ++ e.message)
  | .ok [] => run.record "margin-guard fill recovery deferred: guard order has no confirmed fills"
  | .ok guardFills =>
    match recoverConfirmedMarginGuardLifecycle run.db { intentId, guardExchangeOrderId, guardClientOrderId, guardFills } with
    | (.error e, db) => { run with db }.record ("margin-guard lifecycle recovery failed: " ++ e.message)
    | (.ok _, db) => { run with db, positionProjected := true, exitSubmitted := true }

/-- The cycle after `execute_entry` returned. -/
def settle (intentId : String) (r : EntryExecutionResult) (run : EntryRun) : EntryRun :=
  let run := { run with entryResult := some r }
  let run :=
    if s.persistFacts then
      let (out, db) := transaction run.db (persistEntrySubmissionResult run.db intentId s.leverage r)
      { run with db }.recordOf "exchange acknowledgement persistence failed: " out
    else run
  let run := { run with entrySubmitted := decide (r.status ≠ .notAttempted ∧ r.status ≠ .shadowRehearsed) }
  if given r.guardExchangeOrderId && given r.guardClientOrderId then
    if s.persistFacts then recoverGuard intentId (r.guardExchangeOrderId.getD "") (r.guardClientOrderId.getD "") run else run
  else if !r.positionProjectable then run
  else s.protect intentId r run

/-- `execute_entry` and what follows. Its exceptions are not caught. -/
def submit (intentId : String) (run : EntryRun) : Except PyError Unit × EntryRun :=
  match executeEntry run.exchange (s.order intentId) with
  | (.error e, exchange) => (.error e, { run with exchange })
  | (.ok r, exchange) => (.ok (), s.settle intentId r { run with exchange })

/-- What others made of the row before a read. -/
def interfered (c : RuntimeControlReads) (n : ℕ) (run : EntryRun) : EntryRun :=
  { run with db := { run.db with entryEnabled := c.interfere n run.db.entryEnabled } }

/-- `_runtime_entry_enabled`: a row that is missing or cannot be read is one that is switched off. -/
def runtimeEntryEnabled (c : RuntimeControlReads) (n : ℕ) (run : EntryRun) : Bool :=
  !c.fails n && run.db.entryEnabled.getD false

/-- The reservation: whether the cycle goes on. -/
def reserve (c : RuntimeControlReads) (intentId : String) (run : EntryRun) : Bool × EntryRun :=
  if !s.persistFacts then (true, run)
  else
    let run := interfered c 0 run
    match persistEntryIntentBeforeSubmission run.db (s.reservation intentId) with
    | .error e => (false, run.record ("intent persistence failed before exchange submission: " ++ e.message))
    | .ok (some reason, db) => (false, { run with db, portfolioReason := some reason })
    | .ok (none, db) => (true, { run with db })

/-- One check of the runtime control after the reservation: whether the cycle goes on. -/
def recheck (c : RuntimeControlReads) (n : ℕ) (run : EntryRun) : Bool × EntryRun :=
  if !s.persistFacts then (true, run)
  else
    let run := interfered c n run
    if runtimeEntryEnabled c n run then (true, run) else (false, { run with entryBlockedByRuntimeControl := true })

/-- The entry of a cycle. The runtime control is read twice in a row after the reservation. -/
def run (c : RuntimeControlReads) (w : World) : Except PyError Unit × EntryRun :=
  let (intentId, db) := w.db.uuid4
  match s.reserve c intentId { w with db } with
  | (false, run) => (.ok (), run)
  | (true, run) =>
    match s.recheck c 1 run with
    | (false, run) => (.ok (), run)
    | (true, run) =>
      match s.recheck c 2 run with
      | (false, run) => (.ok (), run)
      | (true, run) => s.submit intentId run

end EntryStage

/-- A cycle: what precedes its entry, and the entry if it decided one. -/
def runEntryCycle (before : World → Option EntryStage × World) (c : RuntimeControlReads) (w : World) :
    Except PyError Unit × EntryRun :=
  match before w with
  | (none, w) => (.ok (), { w with })
  | (some s, w) => s.run c w

/-!
## Exits of the cycle

The exit loop of `run_automated_trading_cycle`: every open local position of the symbol is
exited if the cycle forces it, at the quantity of its local row, and the facts are persisted around the submission.
-/

/-- What the exits read of the request, with the step of the market and the state of the account writer. -/
structure ExitCycle where
  cycleId : String
  symbol : String
  executionMode : V2ExecutionMode
  fencingToken : String
  forcedExitReason : Option ExitReason
  persistFacts : Bool := true
  stepSize : ℚ
  /-- `_account_writer_valid_for_adapter`. -/
  accountWriterValid : Bool

/-- The world and the part of the cycle's result that the exits write. -/
structure ExitRun extends World where
  exitSubmitted : Bool := false
  errors : List String := []

/-- `result.record_error` of an exception. -/
def ExitRun.record (s : ExitRun) (what : String) : Except PyError Unit → ExitRun
  | .error e => { s with errors := s.errors ++ [what ++ e.message] }
  | .ok _ => s

/-- `request.forced_exit_reason or ExitReason.HARD_STOP`. -/
def ExitCycle.reason (c : ExitCycle) : ExitReason := c.forcedExitReason.getD .hardStop

/-- What `evaluate_exit` is asked of a local position. -/
def ExitCycle.request (c : ExitCycle) (p : LocalPositionView) (exchangePosition : Option ExchangePositionSnapshot) :
    ExitRequest :=
  { positionId := p.positionId, symbol := p.symbol, direction := p.direction, reason := c.reason,
    requestedQuantity := p.quantity, authoritativePosition := exchangePosition, stepSize := c.stepSize,
    fencingTokenValid := c.accountWriterValid }

/-- The exit intent of a decision. -/
def ExitCycle.identity (c : ExitCycle) (p : LocalPositionView) (decision : ExitDecision) : ExitIdentity :=
  { cycleId := c.cycleId, positionId := p.positionId, executionMode := c.executionMode, reason := c.reason,
    clientOrderId := decision.clientOrderId, requestedQuantity := decision.quantity, fencingToken := c.fencingToken }

/-- The facts of an execution. -/
def ExitCycle.facts (c : ExitCycle) (p : LocalPositionView) (result : ExitExecutionResult) : ExitFacts :=
  { cycleId := c.cycleId, positionId := p.positionId, executionMode := c.executionMode, reason := c.reason, result,
    fencingToken := c.fencingToken }

/-- The facts of an execution are persisted: the submission first, then a confirmed fill. An exception is recorded. -/
def ExitCycle.persist (c : ExitCycle) (p : LocalPositionView) (result : ExitExecutionResult) (s : ExitRun) : ExitRun :=
  if !c.persistFacts then s
  else
    let (out, db) := transaction s.db (persistExitSubmissionResult s.db p.positionId result)
    let s := { s with db }.record "exit submission persistence failed: " out
    if result.status = .closed ∨ result.status = .partiallyReduced then
      let (out, db) := persistExitResult s.db (c.facts p result)
      { s with db }.record "exit fill persistence failed: " out
    else s

/-- An approved exit: its order is sent unless its intent cannot be persisted. No protection order is named for
cancellation. -/
def ExitCycle.submit (c : ExitCycle) (p : LocalPositionView) (decision : ExitDecision)
    (exchangePosition : Option ExchangePositionSnapshot) (s : ExitRun) : Except PyError Unit × ExitRun :=
  let (out, db) :=
    if c.persistFacts then transaction s.db (persistExitIntentBeforeSubmission s.db (c.identity p decision))
    else (.ok (), s.db)
  match out with
  | .error e =>
    (.ok (), s.record "exit pre-submission persistence failed; exchange submit blocked: " (.error e))
  | .ok _ =>
    match executeReduceOnlyExit s.exchange decision (exchangePosition.elim p.quantity (·.quantity)) c.stepSize with
    | (.error e, exchange) => (.error e, { s with db, exchange })
    | (.ok result, exchange) =>
      let submitted := s.exitSubmitted || decide (result.status ≠ .notAttempted ∧ result.status ≠ .alreadyFlatReconciled)
      (.ok (), c.persist p result { s with db, exchange, exitSubmitted := submitted })

/-- The exit of one local position. -/
def ExitCycle.exitPosition (c : ExitCycle) (snapshot : AuthoritativeAccountSnapshot) (p : LocalPositionView) (s : ExitRun) :
    Except PyError Unit × ExitRun :=
  let exchangePosition := snapshot.positionOf c.symbol p.direction
  if p.symbol ≠ c.symbol ∨ p.state = .closed ∨ p.state = .quarantined then (.ok (), s)
  else if (exchangePosition.any fun e => decide (0 < e.quantity)) && c.forcedExitReason.isNone then (.ok (), s)
  else
    match evaluateExit (c.request p exchangePosition) with
    | .error e => (.error e, s)
    | .ok decision =>
      match decision.verdict with
      | .approved => c.submit p decision exchangePosition s
      | _ => (.ok (), s)

/-- The exit loop over the local positions. An exception that is not caught ends the cycle. -/
def ExitCycle.exits (c : ExitCycle) (snapshot : AuthoritativeAccountSnapshot) :
    List LocalPositionView → ExitRun → Except PyError Unit × ExitRun
  | [], s => (.ok (), s)
  | p :: rest, s =>
    match c.exitPosition snapshot p s with
    | (.error e, s) => (.error e, s)
    | (.ok _, s) => c.exits snapshot rest s

end TradingPlatform
