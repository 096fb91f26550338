import Mathlib.Data.List.AList
import TradingPlatform.Engine.Exchange

/-!
# Reconciliation

`application/reconciliation_service.py`: the authoritative snapshot of the exchange against the local projection. Five loops
collect discrepancies, and the status of the result follows from their codes alone. Quantities are exact rationals. The
`detail` text of a discrepancy is left out: no function of the engine reads it.
-/

namespace TradingPlatform

/-! ## Local views -/

/-- The key of a position, `f"{symbol}:{direction}"`. -/
def positionKey (symbol : String) (direction : Direction) : String := symbol ++ ":" ++ direction.value

/-- The key of a position of the snapshot. -/
def ExchangePositionSnapshot.key (e : ExchangePositionSnapshot) : String := positionKey e.symbol e.direction

/-- `LocalPositionView`: the local projection of a managed position. `claimKeys` carries every identity that may be used to
claim an exchange position. -/
structure LocalPositionView where
  positionId : String
  symbol : String
  direction : Direction
  quantity : ℚ
  state : V2PositionState
  claimKeys : List String
  hasActiveProtection : Bool
  protectionExchangeOrderIds : List String := []
  /-- Exchange order id, client order id and exit reason. -/
  protectionOrderRefs : List (String × String × String) := []
  entryPrice : ℚ := 0
  originalStopPrice : Option ℚ := none
  currentStopPrice : Option ℚ := none
  protectionId : Option String := none
  protectionPolicy : String := "P1"
  protectionVersion : ℕ := 0
  deriving DecidableEq

/-- `LocalIntentView`: the local projection of an intent in flight. -/
structure LocalIntentView where
  intentId : String
  symbol : String
  clientOrderId : String
  state : V2IntentState
  hasConfirmedEntryFill : Bool := false
  hasQuarantinedLifecycle : Bool := false
  deriving DecidableEq

/-- The identity references of the exchange positions, by position key. -/
abbrev ClaimRefs := AList fun _ : String => List String

/-- `LocalStateView`. -/
structure LocalStateView where
  positions : List LocalPositionView := []
  intents : List LocalIntentView := []
  knownClientOrderIds : List String := []
  /-- The baseline an operator captured: what of an exchange position is not the strategy's. -/
  externalBaselinePositions : AList (fun _ : String => ℚ) := ∅
  historicalLedgerGapIntentIds : List String := []

/-! ## Findings -/

/-- `ReconciliationStatus`: only `healthy` permits a new entry. -/
inductive ReconciliationStatus where
  | healthy | degraded | unavailable | recoveryRequired
  deriving DecidableEq, Repr

/-- `DiscrepancyCode`. -/
inductive DiscrepancyCode where
  | snapshotUnavailable | externalPositionUnclaimable | localPositionMissingAtExchange | quantityMismatch
  | directionMismatch | managedPositionUnprotected | protectionOrderMissingAtExchange | unknownOrderPresent
  | orphanV2ClientOrderAtExchange | confirmedEntryFillUnprojected | quarantinedEntryLifecycle | manualBaselineDrift
  deriving DecidableEq, Repr

/-- The text of a discrepancy code. -/
def DiscrepancyCode.value : DiscrepancyCode → String
  | .snapshotUnavailable => "SNAPSHOT_UNAVAILABLE"
  | .externalPositionUnclaimable => "EXTERNAL_POSITION_UNCLAIMABLE"
  | .localPositionMissingAtExchange => "LOCAL_POSITION_MISSING_AT_EXCHANGE"
  | .quantityMismatch => "QUANTITY_MISMATCH"
  | .directionMismatch => "DIRECTION_MISMATCH"
  | .managedPositionUnprotected => "MANAGED_POSITION_UNPROTECTED"
  | .protectionOrderMissingAtExchange => "PROTECTION_ORDER_MISSING_AT_EXCHANGE"
  | .unknownOrderPresent => "UNKNOWN_ORDER_PRESENT"
  | .orphanV2ClientOrderAtExchange => "ORPHAN_V2_CLIENT_ORDER_AT_EXCHANGE"
  | .confirmedEntryFillUnprojected => "CONFIRMED_ENTRY_FILL_UNPROJECTED"
  | .quarantinedEntryLifecycle => "QUARANTINED_ENTRY_LIFECYCLE"
  | .manualBaselineDrift => "MANUAL_BASELINE_DRIFT"

/-- `Discrepancy`: one finding. Its `detail`, a text that prints decimals and that no decision reads, is left out. -/
structure Discrepancy where
  code : DiscrepancyCode
  symbol : Option String
  localPositionId : Option String := none
  exchangeRef : Option String := none
  deriving DecidableEq, Repr

/-- `ReconciliationResult`. -/
structure ReconciliationResult where
  status : ReconciliationStatus
  discrepancies : List Discrepancy
  entryBlockedSymbols : List String
  quarantineCandidates : List String := []
  recoveryRequiredRefs : List String := []
  unavailableReason : Option String := none
  historicalLedgerIntegrity : String := "HEALTHY"
  historicalGapCount : ℕ := 0
  deriving DecidableEq, Repr

/-- `entry_allowed_globally`. -/
def ReconciliationResult.entryAllowedGlobally (r : ReconciliationResult) : Bool := decide (r.status = .healthy)

/-- `entry_allowed_for`: a degraded result still blocks the symbols it names. -/
def ReconciliationResult.entryAllowedFor (r : ReconciliationResult) (symbol : String) : Bool :=
  if r.status = .unavailable ∨ r.status = .recoveryRequired then false
  else decide (symbol ∉ r.entryBlockedSymbols)

/-- `QUANTITY_TOLERANCE`. -/
def quantityTolerance : ℚ := 1 / 100000000

/-- `text or default`: an absent or empty text gives the default. -/
def textOr (text : Option String) (default : String) : String :=
  match text with
  | none => default
  | some t => if t = "" then default else t

/-- `unavailable`: the result without a snapshot. -/
def unavailable (reason : String) : ReconciliationResult where
  status := .unavailable
  discrepancies := [{ code := .snapshotUnavailable, symbol := none }]
  entryBlockedSymbols := []
  unavailableReason := some reason

/-- What the loops of `reconcile` collect. -/
structure Findings where
  discrepancies : List Discrepancy := []
  entryBlocked : List String := []
  quarantineCandidates : List String := []
  recoveryRefs : List String := []
  matchedPositionIds : List String := []

/-- A finding: the discrepancy is appended, its symbol is blocked and its reference joins those that need recovery. -/
def Findings.report (f : Findings) (d : Discrepancy) (recoveryRefs : List String := []) : Findings :=
  { f with
    discrepancies := f.discrepancies ++ [d]
    entryBlocked := f.entryBlocked ++ d.symbol.toList
    recoveryRefs := f.recoveryRefs ++ recoveryRefs }

/-- A finding made under a condition. -/
def Findings.reportIf (f : Findings) (c : Bool) (d : Discrepancy) (recoveryRefs : List String := []) : Findings :=
  if c then f.report d recoveryRefs else f

/-! ## The loops -/

/-- `_claim_exchange_position`: the first local position with an identity among the references. The symbol and the direction
are compared and then ignored: both branches of the source return the position. -/
def claimExchangePosition (exchangeSymbol : String) (exchangeDirection : Direction) (localPositions : List LocalPositionView)
    (exchangeClaimRefs : List String) : Option LocalPositionView :=
  if exchangeClaimRefs = [] then none
  else
    match localPositions.find? fun p => p.claimKeys.any fun k => decide (k ∈ exchangeClaimRefs) with
    | none => none
    | some p => if p.symbol = exchangeSymbol ∧ p.direction = exchangeDirection then some p else some p

/-- The loop over the intents: a confirmed fill without a position, and a quarantined lifecycle. -/
def reconcileIntent (f : Findings) (intent : LocalIntentView) : Findings :=
  let f := f.reportIf intent.hasConfirmedEntryFill
    { code := .confirmedEntryFillUnprojected, symbol := some intent.symbol, exchangeRef := some intent.intentId }
    [intent.intentId]
  f.reportIf intent.hasQuarantinedLifecycle
    { code := .quarantinedEntryLifecycle, symbol := some intent.symbol, exchangeRef := some intent.intentId }
    [intent.intentId]

/-- The captured baseline of an exchange position. -/
def LocalStateView.baselineOf (l : LocalStateView) (e : ExchangePositionSnapshot) : Option ℚ :=
  l.externalBaselinePositions.lookup e.key

/-- The local position that claims an exchange position. -/
def claimedBy (l : LocalStateView) (claimRefs : ClaimRefs) (e : ExchangePositionSnapshot) : Option LocalPositionView :=
  claimExchangePosition e.symbol e.direction l.positions ((claimRefs.lookup e.key).getD [])

/-- The quantity fell below the captured baseline. -/
def driftsBelow (baseline : Option ℚ) (quantity : ℚ) : Bool :=
  match baseline with
  | none => false
  | some b => decide (quantity + quantityTolerance < b)

/-- The quantity is the captured baseline. -/
def equalsBaseline (baseline : Option ℚ) (quantity : ℚ) : Bool :=
  match baseline with
  | none => false
  | some b => decide (|quantity - b| ≤ quantityTolerance)

/-- The protection orders of a local position that are not open at the exchange. -/
def missingProtection (snapshot : AuthoritativeAccountSnapshot) (p : LocalPositionView) : List String :=
  p.protectionExchangeOrderIds.filter fun id => decide (id ∉ snapshot.pendingOrders.map (·.exchangeOrderId))

/-- The checks of an exchange position against the local position that claims it. -/
def reconcileClaimed (snapshot : AuthoritativeAccountSnapshot) (l : LocalStateView) (f : Findings)
    (e : ExchangePositionSnapshot) (claimed : LocalPositionView) : Findings :=
  let f := { f with matchedPositionIds := f.matchedPositionIds ++ [claimed.positionId] }
  let f := f.reportIf (decide (claimed.direction ≠ e.direction))
    { code := .directionMismatch, symbol := some e.symbol, localPositionId := some claimed.positionId,
      exchangeRef := some e.key }
  let f := f.reportIf (decide (|claimed.quantity + (l.baselineOf e).getD 0 - e.quantity| > quantityTolerance))
    { code := .quantityMismatch, symbol := some e.symbol, localPositionId := some claimed.positionId,
      exchangeRef := some e.key }
  let f := f.reportIf (!claimed.hasActiveProtection)
    { code := .managedPositionUnprotected, symbol := some e.symbol, localPositionId := some claimed.positionId }
    [claimed.positionId]
  f.reportIf (claimed.hasActiveProtection && decide (missingProtection snapshot claimed ≠ []))
    { code := .protectionOrderMissingAtExchange, symbol := some e.symbol, localPositionId := some claimed.positionId }
    [claimed.positionId]

/-- The loop over the exchange positions. -/
def reconcileExchangePosition (snapshot : AuthoritativeAccountSnapshot) (l : LocalStateView) (claimRefs : ClaimRefs)
    (f : Findings) (e : ExchangePositionSnapshot) : Findings :=
  let drifts := driftsBelow (l.baselineOf e) e.quantity
  let f := f.reportIf drifts { code := .manualBaselineDrift, symbol := some e.symbol, exchangeRef := some e.key }
  match claimedBy l claimRefs e with
  | none =>
    -- a reduced manual position that nothing claims is reported once, as a drift
    if drifts then f
    else if equalsBaseline (l.baselineOf e) e.quantity then f
    else
      { f.report { code := .externalPositionUnclaimable, symbol := some e.symbol, exchangeRef := some e.key } with
        quarantineCandidates := f.quarantineCandidates ++ [e.key] }
  | some claimed => reconcileClaimed snapshot l f e claimed

/-- The loop over the local positions: an open one that no exchange position matched. -/
def reconcileLocalPosition (f : Findings) (p : LocalPositionView) : Findings :=
  f.reportIf (decide (p.state ≠ .closed ∧ p.state ≠ .quarantined ∧ p.positionId ∉ f.matchedPositionIds))
    { code := .localPositionMissingAtExchange, symbol := some p.symbol, localPositionId := some p.positionId }
    [p.positionId]

/-- `key.rsplit(":", 1)` unpacked into two names: a key without a colon raises. -/
def splitPositionKey (key : String) : Except PyError (String × String) :=
  let tail := key.toList.reverse.takeWhile (· ≠ ':')
  match key.toList.reverse.dropWhile (· ≠ ':') with
  | [] => .error (.valueError "not enough values to unpack (expected 2, got 1)")
  | _ :: front => .ok (String.ofList front.reverse, String.ofList tail.reverse)

/-- The loop over the captured baseline: a key that left the snapshot. -/
def reconcileBaseline (snapshot : AuthoritativeAccountSnapshot) (f : Findings) (entry : Sigma fun _ : String => ℚ) :
    Except PyError Findings :=
  if entry.1 ∈ snapshot.positions.map (·.key) then .ok f
  else do
    let (symbol, _) ← splitPositionKey entry.1
    return f.report { code := .manualBaselineDrift, symbol := some symbol, exchangeRef := some entry.1 }

/-- The loop over the open orders: an order without a client id, and one of this engine without a local record. -/
def reconcileOrder (l : LocalStateView) (f : Findings) (order : ExchangeOrderSnapshot) : Findings :=
  match order.clientOrderId with
  | none =>
    f.report { code := .unknownOrderPresent, symbol := some order.symbol, exchangeRef := some order.exchangeOrderId }
      [order.exchangeOrderId]
  | some clientId =>
    if clientId ∈ l.knownClientOrderIds then f
    else f.reportIf (isV2ClientOrderId clientId)
      { code := .orphanV2ClientOrderAtExchange, symbol := some order.symbol, exchangeRef := some order.exchangeOrderId }
      [order.exchangeOrderId]

/-! ## The result -/

/-- `_RECOVERY_CODES`. -/
def recoveryCodes : List DiscrepancyCode :=
  [.managedPositionUnprotected, .protectionOrderMissingAtExchange, .unknownOrderPresent, .orphanV2ClientOrderAtExchange,
    .confirmedEntryFillUnprojected, .quarantinedEntryLifecycle, .localPositionMissingAtExchange]

/-- `_resolve_status`: the most severe status that applies. -/
def resolveStatus (discrepancies : List Discrepancy) : ReconciliationStatus :=
  if discrepancies = [] then .healthy
  else if discrepancies.any fun d => decide (d.code ∈ recoveryCodes) then .recoveryRequired
  else .degraded

/-- The findings of the five loops, in their order. -/
def reconcileFindings (snapshot : AuthoritativeAccountSnapshot) (l : LocalStateView) (claimRefs : ClaimRefs) :
    Except PyError Findings := do
  let f := l.intents.foldl reconcileIntent {}
  let f := snapshot.positions.foldl (reconcileExchangePosition snapshot l claimRefs) f
  let f := l.positions.foldl reconcileLocalPosition f
  let f ← l.externalBaselinePositions.entries.foldlM (reconcileBaseline snapshot) f
  return snapshot.pendingOrders.foldl (reconcileOrder l) f

/-- `reconcile`. -/
def reconcile (snapshot : Option AuthoritativeAccountSnapshot) (l : LocalStateView)
    (unavailableReason : Option String := none) (exchangePositionClaimRefs : Option ClaimRefs := none) :
    Except PyError ReconciliationResult :=
  match snapshot with
  | none => .ok (unavailable (textOr unavailableReason "exchange snapshot unavailable"))
  | some snapshot => do
    let f ← reconcileFindings snapshot l (exchangePositionClaimRefs.getD ∅)
    return {
      status := resolveStatus f.discrepancies
      discrepancies := f.discrepancies
      entryBlockedSymbols := f.entryBlocked
      quarantineCandidates := f.quarantineCandidates
      recoveryRequiredRefs := f.recoveryRefs.eraseDups
      historicalLedgerIntegrity := if l.historicalLedgerGapIntentIds = [] then "HEALTHY" else "DEGRADED"
      historicalGapCount := l.historicalLedgerGapIntentIds.length }

end TradingPlatform
