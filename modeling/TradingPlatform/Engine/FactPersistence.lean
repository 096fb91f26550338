import TradingPlatform.Engine.Entry
import TradingPlatform.Engine.Protection
import TradingPlatform.Store.Repository

/-!
# Persistence of execution facts

`application/fact_persistence.py`. Each operation is one transaction: it returns the database it commits, or raises and leaves
the database as it was; `persistExitResult` is three transactions in a row. Shadow outcomes and the payloads of events are left
out.
-/

namespace TradingPlatform

/-- The cycle row of an operation, written if it is missing. -/
def ensureCycle (db : Database) (cycleId fencingToken : String) : Except PyError Database :=
  if db.cycles.any fun c => decide (c.cycleId = cycleId) then .ok db else db.insertCycle { cycleId, fencingToken }

/-- The decision row of an operation, written if it is given and missing. -/
def ensureDecision (db : Database) (decisionId : Option String) : Database :=
  match decisionId with
  | none => db
  | some id => if id = "" ∨ id ∈ db.decisions then db else { db with decisions := db.decisions ++ [id] }

/-- What the entry operations say about the intent they are for. -/
structure EntryIdentity where
  cycleId : String
  decisionId : Option String
  intentId : String
  symbol : String
  direction : Direction
  candidateKey : String
  candidateType : V2CandidateType
  executionMode : V2ExecutionMode
  fencingToken : String
  deriving DecidableEq

/-- The intent row of an entry operation. -/
def EntryIdentity.intentRow (a : EntryIdentity) (initialRiskUsdt : Option ℚ) : IntentRow :=
  { intentId := a.intentId, cycleId := a.cycleId, decisionId := a.decisionId, symbol := a.symbol, direction := a.direction,
    candidateKey := a.candidateKey, candidateType := a.candidateType, executionMode := a.executionMode, initialRiskUsdt,
    state := .intentCreated }

/-! ## Reservation -/

/-- The arguments of `persist_entry_intent_before_submission`. -/
structure EntryReservation extends EntryIdentity where
  initialRiskUsdt : ℚ
  accountEquity : Option ℚ := none
  portfolioRiskEnforced : Bool := true
  maxOpenPositions : ℕ := maxOpenPositionsDefault
  deriving DecidableEq

/-- The budget check of a reservation: the reason that stops it. -/
def reservationBlock (db : Database) (a : EntryReservation) : Option String :=
  let (committed, hasUnknownActiveRisk) := listActiveInitialRiskExposures db a.executionMode
  if db.entryEnabled = some false then some "ENTRY_PAUSED"
  else if hasUnknownActiveRisk then some "UNKNOWN_ACTIVE_INTENT_RISK"
  else
    match a.accountEquity with
    | none => none
    | some equity =>
      let verdict := evaluatePortfolioRisk equity a.symbol a.direction a.initialRiskUsdt committed
        maxTotalInitialRiskFraction maxSameDirectionClusterRiskFraction a.maxOpenPositions
      if portfolioRiskBlocks verdict (!a.portfolioRiskEnforced) then verdict.reasonCode else none

/-- An intent is created and moved to submitting. -/
def createSubmittingIntent (db : Database) (row : IntentRow) (eventType : String) : Except PyError Database := do
  let db ← createIntent db row
  transitionIntent db row.intentId .intentCreated .exchangeSubmitting eventType

/-- `persist_entry_intent_before_submission`: the reason that stopped it, if any, and the database. The budget is read and the
intent inserted in one transaction. -/
def persistEntryIntentBeforeSubmission (db : Database) (a : EntryReservation) : Except PyError (Option String × Database) :=
  if a.initialRiskUsdt ≤ 0 then
    .error (.valueError "initial_risk_usdt must be finite and positive for new exposure")
  else
    match reservationBlock db a with
    | some reason => .ok (some reason, db)
    | none => do
      let db ← ensureCycle db a.cycleId a.fencingToken
      let db := ensureDecision db a.decisionId
      match db.intent a.intentId with
      | some _ => return (none, db)
      | none =>
        let db ← createSubmittingIntent db (a.intentRow (some a.initialRiskUsdt)) "EntrySubmitting"
        return (none, db)

/-! ## Submission result -/

/-- The order row of an intent, written if it is missing: its record id and the database. -/
def ensureOrder (db : Database) (intentId clientOrderId : String) (quantity : ℚ) (leverage : ℤ) :
    Except PyError (String × Database) :=
  match db.orderOfIntent intentId with
  | some order => .ok (order.orderRecordId, db)
  | none => saveOrderSubmission db intentId clientOrderId quantity leverage

/-- `quantize(Decimal("0.00000001"))`: eight decimals, a tie goes to the even digit. -/
def quantize (q : ℚ) : ℚ :=
  let scaled := q * 100000000
  let below := scaled.floor
  let rest := scaled - below
  let rounded := if rest < 1 / 2 then below else if 1 / 2 < rest then below + 1 else if below % 2 = 0 then below else below + 1
  rounded / 100000000

/-- How a filled quantity is spread over its trades: equal parts, and the last trade takes what is left. -/
def splitQuantity (filledQuantity : ℚ) (tradeIds : List String) : List (String × ℚ) :=
  let part := quantize (filledQuantity / tradeIds.length)
  tradeIds.mapIdx fun i tradeId =>
    (tradeId, if i + 1 = tradeIds.length then filledQuantity - i * part else part)

/-- The moment an order of a submitted intent is known to the exchange. -/
def acknowledgeIntent (db : Database) (intentId : String) (current : V2IntentState) (eventType : String) :
    Except PyError Database :=
  if current = .exchangeSubmitting ∨ current = .exchangeUnknown then
    transitionIntent db intentId current .exchangeAcknowledged eventType
  else .ok db

/-- `requested_quantity or filled_quantity`. -/
def EntryExecutionResult.orderQuantity (r : EntryExecutionResult) : ℚ :=
  if r.requestedQuantity = 0 then r.filledQuantity else r.requestedQuantity

/-- The fill of an entry order, without its trade. -/
def entryFillReceipt (intentId orderRecordId symbol : String) (direction : Direction) (result : EntryExecutionResult)
    (quantity : ℚ) : FillReceipt :=
  { intentId, exchangeOrderRecordId := orderRecordId, exchangeOrderId := result.exchangeOrderId.getD "", tradeId := none,
    symbol, side := match direction with | .long => "BUY" | .short => "SELL", reduceOnly := false,
    filledQuantity := quantity, fillPrice := result.averageFillPrice.getD 0, commission := none }

/-- The fills of an entry whose margin was above the ceiling. A trade that was seen before violates a constraint. -/
def saveGuardedFills (db : Database) (intent : IntentRow) (orderRecordId : String) (result : EntryExecutionResult) :
    Except PyError Database :=
  if result.tradeIds = [] ∨ result.filledQuantity ≤ 0 ∨ result.averageFillPrice = none then .ok db
  else
    (splitQuantity result.filledQuantity result.tradeIds).foldlM
      (fun db (tradeId, quantity) => saveExchangeFillReceipt db
        { entryFillReceipt intent.intentId orderRecordId intent.symbol intent.direction result quantity with
          tradeId := some tradeId, commission := some (result.totalFee / result.tradeIds.length) }) db

/-- `persist_entry_submission_result`. -/
def persistEntrySubmissionResult (db : Database) (intentId : String) (leverage : ℤ) (result : EntryExecutionResult) :
    Except PyError Database :=
  match db.intent intentId with
  | none => .error (.valueError ("Intent '" ++ intentId ++ "' not found before exchange result"))
  | some intent =>
    match result.status with
    | .unknown => transitionIntent db intentId intent.state .exchangeUnknown "EntryOutcomeUnknown"
    | .rejected =>
      if given result.exchangeOrderId then do
        -- the order was filled and unwound: its facts are kept, the intent is not rejected
        let (orderRecordId, db) ← ensureOrder db intentId result.clientOrderId result.orderQuantity leverage
        let db ← saveExchangeOrderReceipt db orderRecordId (result.exchangeOrderId.getD "")
        let db ← saveGuardedFills db intent orderRecordId result
        acknowledgeIntent db intentId intent.state "EntryAcknowledgedWithMarginGuard"
      else transitionIntent db intentId intent.state .rejected "EntryRejected"
    | .notAttempted => transitionIntent db intentId intent.state .cancelled "EntryCancelledBeforeSubmit"
    | _ =>
      if given result.exchangeOrderId then do
        let (orderRecordId, db) ← ensureOrder db intentId result.clientOrderId result.requestedQuantity leverage
        let db ← saveExchangeOrderReceipt db orderRecordId (result.exchangeOrderId.getD "")
        acknowledgeIntent db intentId intent.state "EntryAcknowledged"
      else .ok db

/-! ## Entry and protection -/

/-- The arguments of `persist_entry_and_protection`. -/
structure EntryFacts extends EntryIdentity where
  leverage : ℤ
  entryResult : EntryExecutionResult
  positionId : String
  protectionResult : Option ProtectionResult
  stopLossPrice : Option ℚ
  takeProfitPrice : Option ℚ
  stopClientOrderId : Option String
  tpClientOrderId : Option String
  initialRiskUsdt : Option ℚ := none
  projectPosition : Bool := true
  allowExistingPositionAggregation : Bool := false
  deriving DecidableEq

/-- The risk the facts give: as passed, or from the confirmed fill and the stop. -/
def EntryFacts.reconstructedInitialRisk (a : EntryFacts) : Option ℚ :=
  match a.initialRiskUsdt, a.stopLossPrice, a.entryResult.averageFillPrice with
  | some risk, _, _ => some risk
  | none, some stop, some fill => some (|fill - stop| * a.entryResult.filledQuantity)
  | none, _, _ => none

/-- The intent of the facts: created if it is missing, and given a risk if it has none. -/
def ensureEntryIntent (db : Database) (a : EntryFacts) : Except PyError Database :=
  match db.intent a.intentId with
  | none => createSubmittingIntent db (a.intentRow a.reconstructedInitialRisk) "Submitting"
  | some intent =>
    match intent.initialRiskUsdt, a.reconstructedInitialRisk with
    | none, some risk =>
      .ok ((db.modifyIntent a.intentId fun r => { r with initialRiskUsdt := some risk }).appendEvent a.intentId "INTENT"
        "InitialRiskReconstructedFromAuthoritativeFillAndStop")
    | _, _ => .ok db

/-- A fill of one trade, written once. A trade of another order raises. -/
def saveFillOnce (db : Database) (r : FillReceipt) (tradeId : String) : Except PyError Database :=
  match db.fillByTrade "binance_testnet" tradeId with
  | some fill =>
    if fill.intentId ≠ r.intentId ∨ fill.exchangeOrderRecordId ≠ r.exchangeOrderRecordId ∨
        fill.exchangeOrderId ≠ r.exchangeOrderId then
      .error (.valueError ("exchange fill identity is already attributed to a different V2 order: " ++
        "account_id='binance_testnet' trade_id='" ++ tradeId ++ "'"))
    else .ok db
  | none => saveExchangeFillReceipt db { r with tradeId := some tradeId }

/-- The fills of the facts. -/
def saveEntryFills (db : Database) (a : EntryFacts) (orderRecordId : String) : Except PyError Database :=
  let receipt := entryFillReceipt a.intentId orderRecordId a.symbol a.direction a.entryResult
  if a.entryResult.fillSource = "BINANCE_ORDER_STATUS_RECOVERY" then
    saveOrderLevelFillRecovery db (receipt a.entryResult.filledQuantity)
  else
    (splitQuantity a.entryResult.filledQuantity a.entryResult.tradeIds).foldlM
      (fun db (tradeId, quantity) => saveFillOnce db
        { receipt quantity with commission := some (a.entryResult.totalFee / a.entryResult.tradeIds.length) } tradeId) db

/-- The position of the facts, if they ask for one. -/
def projectEntry (db : Database) (a : EntryFacts) (orderRecordId : String) : Except PyError Database :=
  if a.projectPosition then
    projectPositionFromConfirmedFills db
      { positionId := a.positionId, intentId := a.intentId, orderRecordId, symbol := a.symbol, direction := a.direction,
        executionMode := a.executionMode, allowExistingPositionAggregation := a.allowExistingPositionAggregation }
  else .ok db

/-- A position that was projected is protected. -/
def markProtected (db : Database) (positionId : String) : Except PyError Database :=
  match db.position positionId with
  | none => .ok db
  | some position =>
    if position.state = .positionProjected then
      transitionPosition db positionId .positionProjected .isProtected "Protected"
    else .ok db

/-- The protection of the facts: a record under the client ids the caller gives, active if the exchange confirmed it. -/
def saveEntryProtection (db : Database) (a : EntryFacts) : Except PyError Database :=
  match a.protectionResult, a.stopClientOrderId, a.stopLossPrice with
  | some protection, some stopClientOrderId, some stopLossPrice =>
    if stopClientOrderId = "" then .ok db
    else do
      let (protectionId, db) := db.uuid4
      let db ← saveProtection db
        { protectionId, positionId := a.positionId, stopLossPrice,
          takeProfitPrice := a.takeProfitPrice.filter fun t => decide (t ≠ 0), stopClientOrderId,
          tpClientOrderId := a.tpClientOrderId, state := .protectionIntent }
      match protection.stopExchangeOrderId with
      | some stopExchangeOrderId =>
        if protection.isActive then do
          let db ← transitionProtection db protectionId .protectionIntent .protectionSubmitting "Submitting"
          let db ← updateProtectionActive db protectionId stopExchangeOrderId protection.tpExchangeOrderId
          markProtected db a.positionId
        else .ok db
      | none => .ok db
  | _, _, _ => .ok db

/-- `persist_entry_and_protection`: the facts of a confirmed fill. A result that is not projectable writes nothing. -/
def persistEntryAndProtection (db : Database) (a : EntryFacts) : Except PyError Database :=
  if a.reconstructedInitialRisk.any fun r => decide (r ≤ 0) then
    .error (.valueError "initial_risk_usdt must be positive when reconstructable")
  else if !a.entryResult.positionProjectable then .ok db
  else do
    let db ← ensureCycle db a.cycleId a.fencingToken
    let db ← ensureEntryIntent (ensureDecision db a.decisionId) a
    match db.intent a.intentId with
    | none => .error (.valueError ("Intent '" ++ a.intentId ++ "' was not durable after creation"))
    | some intent =>
      let db ← acknowledgeIntent db a.intentId intent.state "Acked"
      let (orderRecordId, db) ← ensureOrder db a.intentId a.entryResult.clientOrderId a.entryResult.orderQuantity a.leverage
      let db ← saveExchangeOrderReceipt db orderRecordId (a.entryResult.exchangeOrderId.getD "")
      let db ← saveEntryFills db a orderRecordId
      let db ← reconcileIntentFromConfirmedFill db a.intentId
      let db ← projectEntry db a orderRecordId
      saveEntryProtection db a

end TradingPlatform
