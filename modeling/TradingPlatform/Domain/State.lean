import Mathlib.Data.List.Basic

/-!
# States of intents, positions and protections, and their legal transitions

`domain/enums.py` and `domain/state.py`. A state machine is a table from a state to the states it may go to; a transition to
the current state is always legal, and an illegal one raises before anything is persisted.
-/

namespace TradingPlatform

/-- The exceptions the engine raises or catches by class. -/
inductive PyError where
  | valueError (message : String)
  | keyError (key : String)
  /-- A constraint of the database is violated; the transaction is rolled back. -/
  | integrityError (constraint : String)
  /-- `BinanceAdapterUnavailable`. -/
  | adapterUnavailable (message : String)
  /-- `ExchangeTimeout`: an entry was sent and its outcome is undetermined. -/
  | exchangeTimeout (message : String)
  /-- `ProtectionTimeout`: a protection order was sent and its outcome is undetermined. -/
  | protectionTimeout (message : String)
  /-- `ProtectionSubmissionError`. -/
  | protectionSubmissionError (message : String)
  /-- `ExitTimeout`: an exit was sent and its outcome is undetermined. -/
  | exitTimeout (message : String)
  /-- `ReduceOnlyAlreadyFlat`: the exchange refused a reduce-only order because nothing is open. -/
  | reduceOnlyAlreadyFlat (message : String)
  /-- `AccountWriterFenceError`: the account writer fence refused a mutation. -/
  | accountWriterFence (detail : String)
  /-- Any other exception of the exchange client. -/
  | clientError (message : String)
  /-- A division by zero of the decimal arithmetic. -/
  | arithmeticError (message : String)
  deriving DecidableEq, Repr

/-- `str(exc)`. -/
def PyError.message : PyError → String
  | .valueError m => m
  | .keyError k => "'" ++ k ++ "'"
  | .integrityError c => c
  | .adapterUnavailable m => m
  | .exchangeTimeout m => m
  | .protectionTimeout m => m
  | .protectionSubmissionError m => m
  | .exitTimeout m => m
  | .reduceOnlyAlreadyFlat m => m
  | .accountWriterFence d => d
  | .clientError m => m
  | .arithmeticError m => m

/-- The direction of a position. The tables hold `'long'` and `'short'` only (`ck_v2_intent_direction`). -/
inductive Direction where
  | long | short
  deriving DecidableEq, Repr

/-- The text of a direction. -/
def Direction.value : Direction → String
  | .long => "long"
  | .short => "short"

/-- The other side. -/
def Direction.opposite : Direction → Direction
  | .long => .short
  | .short => .long

/-- `V2ExecutionMode`: the execution backend. -/
inductive V2ExecutionMode where
  | binanceTestnet | localPaper
  deriving DecidableEq, Repr

/-- `V2CandidateType`. -/
inductive V2CandidateType where
  | primary | sampling | research
  deriving DecidableEq, Repr

/-- `V2IntentState`: the lifecycle of a trading intent. -/
inductive V2IntentState where
  | intentCreated | exchangeSubmitting | exchangeUnknown | exchangeAcknowledged | filled | rejected | cancelled | expired
  deriving DecidableEq, Repr

/-- `V2PositionState`: the lifecycle of a managed position. -/
inductive V2PositionState where
  | positionProjected | isProtected | reducing | closed | quarantined
  deriving DecidableEq, Repr

/-- `V2ProtectionState`: the lifecycle of a protection order pair. -/
inductive V2ProtectionState where
  | protectionIntent | protectionSubmitting | protectionActive | protectionTriggered | protectionFilled
  | protectionCancelled | protectionFailed | protectionUnknown
  deriving DecidableEq, Repr

/-- The text of an intent state. -/
def V2IntentState.value : V2IntentState → String
  | .intentCreated => "INTENT_CREATED"
  | .exchangeSubmitting => "EXCHANGE_SUBMITTING"
  | .exchangeUnknown => "EXCHANGE_UNKNOWN"
  | .exchangeAcknowledged => "EXCHANGE_ACKNOWLEDGED"
  | .filled => "FILLED"
  | .rejected => "REJECTED"
  | .cancelled => "CANCELLED"
  | .expired => "EXPIRED"

/-- The text of a position state. -/
def V2PositionState.value : V2PositionState → String
  | .positionProjected => "POSITION_PROJECTED"
  | .isProtected => "PROTECTED"
  | .reducing => "REDUCING"
  | .closed => "CLOSED"
  | .quarantined => "QUARANTINED"

/-- The text of a protection state. -/
def V2ProtectionState.value : V2ProtectionState → String
  | .protectionIntent => "PROTECTION_INTENT"
  | .protectionSubmitting => "PROTECTION_SUBMITTING"
  | .protectionActive => "PROTECTION_ACTIVE"
  | .protectionTriggered => "PROTECTION_TRIGGERED"
  | .protectionFilled => "PROTECTION_FILLED"
  | .protectionCancelled => "PROTECTION_CANCELLED"
  | .protectionFailed => "PROTECTION_FAILED"
  | .protectionUnknown => "PROTECTION_UNKNOWN"

/-! ## Legal transitions -/

/-- `_LEGAL_INTENT_TRANSITIONS`. There is no way back from `exchangeUnknown` to `exchangeSubmitting`: that would resubmit. -/
def legalIntentTransitions : V2IntentState → List V2IntentState
  | .intentCreated => [.exchangeSubmitting, .cancelled]
  | .exchangeSubmitting => [.exchangeAcknowledged, .filled, .rejected, .cancelled, .exchangeUnknown]
  | .exchangeUnknown => [.exchangeAcknowledged, .filled, .rejected, .cancelled, .expired]
  | .exchangeAcknowledged => [.filled, .cancelled, .expired]
  | .filled => []
  | .rejected => []
  | .cancelled => []
  | .expired => []

/-- `_LEGAL_POSITION_TRANSITIONS`. -/
def legalPositionTransitions : V2PositionState → List V2PositionState
  | .positionProjected => [.isProtected, .reducing, .quarantined]
  | .isProtected => [.reducing, .closed, .quarantined]
  | .reducing => [.closed, .quarantined]
  | .closed => []
  | .quarantined => []

/-- `_LEGAL_PROTECTION_TRANSITIONS`. -/
def legalProtectionTransitions : V2ProtectionState → List V2ProtectionState
  | .protectionIntent => [.protectionSubmitting, .protectionCancelled]
  | .protectionSubmitting => [.protectionActive, .protectionCancelled, .protectionFailed, .protectionUnknown]
  | .protectionActive => [.protectionTriggered, .protectionCancelled]
  | .protectionTriggered => [.protectionFilled]
  | .protectionFailed => [.protectionSubmitting, .protectionCancelled]
  | .protectionUnknown => [.protectionActive, .protectionTriggered, .protectionCancelled, .protectionFailed]
  | .protectionFilled => []
  | .protectionCancelled => []

/-- One check for the three machines: a transition to the current state is a legal no-op, any other has to be in the table. -/
def validateTransition {S : Type} [DecidableEq S] (legal : S → List S) (value : S → String) (machine : String)
    (current next : S) : Except PyError Unit :=
  if current = next ∨ next ∈ legal current then .ok ()
  else .error (.valueError ("Illegal V2 " ++ machine ++ " transition: " ++ value current ++ " -> " ++ value next ++ "."))

/-- `validate_intent_transition`. -/
def validateIntentTransition (current next : V2IntentState) : Except PyError Unit :=
  validateTransition legalIntentTransitions V2IntentState.value "intent" current next

/-- `validate_position_transition`. -/
def validatePositionTransition (current next : V2PositionState) : Except PyError Unit :=
  validateTransition legalPositionTransitions V2PositionState.value "position" current next

/-- `validate_protection_transition`. -/
def validateProtectionTransition (current next : V2ProtectionState) : Except PyError Unit :=
  validateTransition legalProtectionTransitions V2ProtectionState.value "protection" current next

/-- The states of an intent that a transition may leave: the others are terminal. -/
def V2IntentState.terminal (s : V2IntentState) : Bool := decide (legalIntentTransitions s = [])

/-- A legal transition never leaves a terminal intent state for another state. -/
theorem intent_terminal_of_legal {current next : V2IntentState}
    (h : current = next ∨ next ∈ legalIntentTransitions current) (ht : current.terminal = true) : next = current := by
  rcases h with h | h
  · exact h.symm
  · rw [of_decide_eq_true ht] at h
    exact absurd h List.not_mem_nil

end TradingPlatform
