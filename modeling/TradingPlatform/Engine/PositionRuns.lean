import TradingPlatform.Engine.Cycle

/-!
# Runs over the durable state

The persistence operations in any order, and the life of one managed position.
-/

namespace TradingPlatform

/-!
## Runs of the persistence operations

The operations that change the durable state, in any order. Each is a transaction: one that raises leaves the database as it
was.
-/

/-- An operation on the durable state. -/
inductive PersistOp where
  | reserve (a : EntryReservation)
  | submissionResult (intentId : String) (leverage : ℤ) (result : EntryExecutionResult)
  | entryAndProtection (a : EntryFacts)
  | transitionIntent (intentId : String) (expectedCurrent nextState : V2IntentState) (eventType : String)
  | reconcileIntent (intentId : String)
  | exitIntent (a : ExitIdentity)
  | exitSubmissionResult (positionId : String) (result : ExitExecutionResult)
  | exitResult (a : ExitFacts)
  | transitionPosition (positionId : String) (expectedCurrent nextState : V2PositionState) (eventType : String)
  | repairQuarantined (positionId exitOrderRecordId : String)
  | closedProtections (mode : V2ExecutionMode) (symbol : String) (exchangeOpenOrderIds : List String)
  | setEntryEnabled (enabled : Bool)

/-- The database after an operation. -/
def PersistOp.apply (db : Database) : PersistOp → Database
  | .reserve a => (transaction db ((persistEntryIntentBeforeSubmission db a).map Prod.snd)).2
  | .submissionResult intentId leverage result =>
    (transaction db (persistEntrySubmissionResult db intentId leverage result)).2
  | .entryAndProtection a => (transaction db (persistEntryAndProtection db a)).2
  | .transitionIntent intentId expectedCurrent nextState eventType =>
    (transaction db (TradingPlatform.transitionIntent db intentId expectedCurrent nextState eventType)).2
  | .reconcileIntent intentId => (transaction db (reconcileIntentFromConfirmedFill db intentId)).2
  | .exitIntent a => (transaction db (persistExitIntentBeforeSubmission db a)).2
  | .exitSubmissionResult positionId result => (transaction db (persistExitSubmissionResult db positionId result)).2
  | .exitResult a => (persistExitResult db a).2
  | .transitionPosition positionId expectedCurrent nextState eventType =>
    (transaction db (TradingPlatform.transitionPosition db positionId expectedCurrent nextState eventType)).2
  | .repairQuarantined positionId exitOrderRecordId =>
    (transaction db (repairQuarantinedPositionFromConfirmedExit db positionId exitOrderRecordId)).2
  | .closedProtections mode symbol exchangeOpenOrderIds =>
    (transaction db (reconcileClosedPositionProtections db mode symbol exchangeOpenOrderIds)).2
  | .setEntryEnabled enabled => { db with entryEnabled := some enabled }

/-- The database after a run. -/
def runOps (db : Database) (ops : List PersistOp) : Database := ops.foldl PersistOp.apply db

/-- A database with no row. -/
def Database.Empty (db : Database) : Prop :=
  db.cycles = [] ∧ db.decisions = [] ∧ db.intents = [] ∧ db.orders = [] ∧ db.fills = [] ∧ db.positions = [] ∧
    db.protections = []

/-!
## Runs of a managed position

What the cycle and its recovery do for one position: its first protection, the protection of a confirmed gap, the tightening of its
stop, the resubmission of its protection, the emergency close and the exit of the cycle. What the rest of the program makes of the
records between them is a step too.
-/

/-- A step in the life of a managed position. -/
inductive PositionStep where
  /-- The protection of a confirmed entry. -/
  | protect (c : ConfirmedEntry) (attempt : ℕ)
  /-- `_recover_confirmed_v2_entry_gap`, for one decision. -/
  | gap (r : GapRequest) (e : GapEvidence)
  /-- `_apply_profit_protection`. -/
  | tighten (symbol : String) (snapshot : AuthoritativeAccountSnapshot) (localState : LocalStateView) (tickSize : ℚ)
      (failure : StoreFailure)
  /-- `_resubmit_protection`. -/
  | resubmit (snapshot : AuthoritativeAccountSnapshot) (action : RecoveryAction)
  /-- `_execute_emergency_close`. -/
  | emergencyClose (c : RecoveryContext) (action : RecoveryAction)
  /-- The exit of the cycle for one local position. -/
  | forcedExit (c : ExitCycle) (snapshot : AuthoritativeAccountSnapshot) (p : LocalPositionView)
  /-- The rest of the program, on the records. -/
  | elsewhere (db : Database)

/-- The world after a step. -/
def PositionStep.apply (w : World) : PositionStep → World
  | .protect c attempt => (protectEntry w c attempt).2
  | .gap r e => (recoverEntryGap w r e).2
  | .tighten symbol snapshot localState tickSize failure =>
    (applyProfitProtection w symbol snapshot localState tickSize failure).2
  | .resubmit snapshot action => (resubmitProtection w snapshot action).2
  | .emergencyClose c action => (executeEmergencyClose w c action).2
  | .forcedExit c snapshot p => (c.exitPosition snapshot p { w with }).2.toWorld
  | .elsewhere db => { w with db }

/-- A step is of a position. -/
def PositionStep.Of (positionId : String) (w : World) : PositionStep → Prop
  | .protect _ _ => w.db.uuid4.1 = positionId
  | .gap r e => ∀ a, decideGap w r e = .ok (.adopt a) → a.positionId w.db r = positionId
  | .tighten _ _ localState _ _ => ∀ p ∈ localState.positions, p.positionId = positionId
  | .resubmit _ action => action.targetRef = positionId
  | .emergencyClose _ action => action.targetRef = positionId
  | .forcedExit _ _ p => p.positionId = positionId
  | .elsewhere _ => True

end TradingPlatform
