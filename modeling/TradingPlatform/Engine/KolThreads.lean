import Mathlib.Tactic.NormNum
import TradingPlatform.Domain.Candidate
import TradingPlatform.Domain.KolEvents
import TradingPlatform.Engine.Reconciliation
import TradingPlatform.Engine.TelegramCollector

/-!
# Trade messages

From the events of a Telegram channel to sampling candidates and trade threads.
-/

namespace TradingPlatform

/-!
## Candidates from trade messages

`telegram_kol/parsing/validator.py` and `telegram_kol/integration/candidate_adapter.py`: an opening event that passes the validator
becomes a sampling candidate, its prices turned into distances from the entry.
-/

/-! ## The validator -/

/-- `ValidationResult`. -/
structure ValidationResult where
  accepted : Bool
  reasonCode : String
  deriving DecidableEq, Repr

/-- `validate_event`. -/
def validateEvent (event : KolTradeEvent) (now : KolTime) (maxAgeSeconds : ℕ := 900) : ValidationResult :=
  if event.eventType ≠ .openEntry then
    { accepted := decide (event.completeness ≠ .nonSignal),
      reasonCode := if event.completeness = .nonSignal then "NON_SIGNAL" else "MANAGEMENT_EVENT" }
  else
    match event.symbol, event.direction with
    | some _, some side =>
      match event.stopLoss with
      | none => { accepted := false, reasonCode := "MISSING_STOP" }
      | some stopLoss =>
        match event.entry with
        | none => { accepted := false, reasonCode := "MISSING_ENTRY" }
        | some entry =>
          if entry ≤ 0 then { accepted := false, reasonCode := "MISSING_ENTRY" }
          else if event.entrySemantics = .conditional then
            { accepted := false, reasonCode := "CONDITIONAL_TRIGGER_UNSUPPORTED" }
          else if side = .long ∧ stopLoss ≥ entry then { accepted := false, reasonCode := "INVALID_RISK_GEOMETRY" }
          else if side = .short ∧ stopLoss ≤ entry then { accepted := false, reasonCode := "INVALID_RISK_GEOMETRY" }
          else if ∃ detectedAt ∈ event.detectedAt, (now.instant : ℤ) - detectedAt.instant > maxAgeSeconds * 1000000 then
            { accepted := false, reasonCode := "STALE_SIGNAL" }
          else if event.completeness ≠ .complete then { accepted := false, reasonCode := "INCOMPLETE_SIGNAL" }
          else { accepted := true, reasonCode := "VALID" }
    | _, _ => { accepted := false, reasonCode := "INVALID_DIRECTION_OR_SYMBOL" }

/-! ## The adapter -/

/-- What the construction of a candidate raises. -/
inductive CandidateError where
  | valueError (message : String)
  | typeError (message : String)
  deriving DecidableEq, Repr

/-- A candidate with its confidence and the context of its signal. -/
structure KolCandidate extends TradeCandidate where
  confidence : ℚ
  signalContext : List (String × String)
  confidence_bounds : 0 ≤ confidence ∧ confidence ≤ 1

section Adapter

-- `str` of a decimal
variable (str : ℚ → String)

/-- `str(value or "")`. -/
def claimText (value : Option ℚ) : String :=
  match value with
  | none => ""
  | some v => if v = 0 then "" else str v

/-- The thread of a candidate. -/
def KolTradeEvent.resolvedThreadId (event : KolTradeEvent) (symbol : String) (threadId : Option String) : String :=
  textOr threadId (textOr event.threadId (event.sourceId ++ ":" ++ symbol))

/-- The context of a candidate. -/
def KolTradeEvent.signalContext (event : KolTradeEvent) (resolvedThreadId : String) : List (String × String) :=
  [("signal_source", "telegram_kol"), ("kol_source_id", event.sourceId), ("thread_id", resolvedThreadId),
    ("telegram_message_id", toString event.messageId), ("telegram_revision", toString event.revision),
    ("entry_semantics", event.entrySemantics.value), ("claimed_leverage", claimText str event.claimedLeverage),
    ("claimed_position_fraction", claimText str event.claimedPositionFraction)]

/-- The lifetime of a candidate, in microseconds. -/
def kolCandidateLifetime : ℕ := 15 * 60 * 1000000

/-- The candidate of an opening event, with the checks of `TradeCandidate.__post_init__`. -/
def KolTradeEvent.constructCandidate (event : KolTradeEvent) (cycleId : String) (now : KolTime) (threadId : Option String)
    (symbol : String) (side : Direction) (reference stopLoss : ℚ) : Except CandidateError KolCandidate :=
  let stopDistance := |reference - stopLoss|
  let takeProfitDistance := event.takeProfits.head?.map fun target => |target - reference|
  let thread := event.resolvedThreadId symbol threadId
  let closeTime := event.detectedAt.getD now
  let expiresAt := now.instant + kolCandidateLifetime
  if hreference : 0 < reference then
    if hstop : 0 < stopDistance then
      if htarget : ∀ d ∈ takeProfitDistance, 0 < d then
        if hconfidence : 0 ≤ event.confidence ∧ event.confidence ≤ 1 then
          if closeTime.hasZone ≠ now.hasZone then
            .error (.typeError "can't compare offset-naive and offset-aware datetimes")
          else if hexpiry : closeTime.instant < expiresAt then
            .ok
              { candidateId := "telegram:" ++ event.sourceId ++ ":" ++ thread ++ ":" ++ toString event.messageId ++ ":" ++
                  toString event.revision
                cycleId
                strategyId := "telegram_kol:" ++ event.sourceId
                strategyVersion := "kol-parser-v1"
                lane := .testnetSampling
                candidateType := .sampling
                symbol
                side
                signalCandleCloseTime := closeTime.instant
                signalReferencePrice := reference
                stopDistance
                takeProfitDistance
                maxEntryDriftBps := 20
                expiresAt
                nonPromotable := true
                referencePrice_pos := hreference
                stopDistance_pos := hstop
                takeProfitDistance_pos := htarget
                maxEntryDriftBps_pos := by norm_num
                expires_after_close := hexpiry
                sampling_nonPromotable := fun _ => rfl
                research_iff_shadow := by decide
                research_nonPromotable := fun _ => rfl
                confidence := event.confidence
                signalContext := event.signalContext str thread
                confidence_bounds := hconfidence }
          else .error (.valueError "expires_at must be after signal_candle_close_time")
        else .error (.valueError ("confidence must be within [0, 1], got " ++ str event.confidence))
      else .error (.valueError ("take_profit_distance must be > 0 when set, got " ++ takeProfitDistance.elim "" str))
    else .error (.valueError ("stop_distance must be > 0, got " ++ str stopDistance))
  else .error (.valueError ("signal_reference_price must be > 0, got " ++ str reference))

/-- `to_candidate`. -/
def toCandidate (event : KolTradeEvent) (cycleId : String) (now : KolTime) (threadId : Option String) :
    Except CandidateError (Option KolCandidate) :=
  if event.eventType ≠ .openEntry then .ok none
  else if event.takeProfits.length > 1 then .ok none
  else if (validateEvent event now).accepted = false then .ok none
  else
    match event.symbol, event.direction, event.entry, event.stopLoss with
    | some symbol, some side, some reference, some stopLoss =>
      (event.constructCandidate str cycleId now threadId symbol side reference stopLoss).map some
    | _, _, _, _ => .ok none

end Adapter

/-!
## Trade threads

`telegram_kol/lifecycle/thread_engine.py` and `event_linker.py`: an opening event starts a thread, any other is attached to the
active thread that it is found to speak of.
-/

/-- `ThreadState`. -/
inductive ThreadState where
  | waitingEntry | open | partiallyClosed | closed | cancelled
  deriving DecidableEq, Repr

/-- The states that `link` looks for. -/
def ThreadState.active : ThreadState → Bool
  | .open | .partiallyClosed | .waitingEntry => true
  | .closed | .cancelled => false

/-- `TradeThread`. -/
structure TradeThread where
  threadId : String
  sourceId : String
  symbol : String
  side : Option String
  state : ThreadState
  openedMessageId : ℤ
  lastMessageId : ℤ
  createdAt : ℕ
  updatedAt : ℕ
  events : List KolTradeEvent := []
  deriving DecidableEq, Repr

/-- `ThreadLinkResult`, with the place of its thread among the threads. -/
structure ThreadLinkResult where
  thread : Option ℕ
  reasonCode : String
  deriving DecidableEq, Repr

/-- `TradeThreadEngine`. -/
structure TradeThreadEngine where
  threads : List TradeThread := []
  deriving DecidableEq, Repr

/-- A text that is there and not empty. -/
def stated (text : Option String) : Option String := text.filter fun t => decide (t ≠ "")

/-- A thread and its place. -/
abbrev ThreadRef := TradeThread × ℕ

/-- `thread.side in {None, side}`. -/
def TradeThread.compatible (thread : TradeThread) (side : String) : Bool :=
  decide (thread.side = none ∨ thread.side = some side)

/-! ## The engine -/

/-- What `_attach` makes of a thread. -/
def TradeThread.attach (thread : TradeThread) (event : KolTradeEvent) (message : MessageEnvelope) : TradeThread :=
  { thread with
    events := thread.events ++ [{ event with threadId := some thread.threadId }]
    lastMessageId := message.messageId
    updatedAt := message.receivedAt
    state :=
      match event.eventType with
      | .partialClose => .partiallyClosed
      | .closeAll => .closed
      | .cancelEntry => .cancelled
      | _ => thread.state }

/-- The thread that an opening event starts. -/
def TradeThread.opened (threadId symbol : String) (event : KolTradeEvent) (message : MessageEnvelope) : TradeThread where
  threadId := threadId
  sourceId := event.sourceId
  symbol := symbol
  side := event.side
  state := .open
  openedMessageId := message.messageId
  lastMessageId := message.messageId
  createdAt := message.receivedAt
  updatedAt := message.receivedAt
  events := [{ event with threadId := some threadId }]

namespace TradeThreadEngine

/-- `_attach`. -/
def attach (engine : TradeThreadEngine) (ref : ThreadRef) (event : KolTradeEvent) (message : MessageEnvelope) :
    ThreadLinkResult × TradeThreadEngine :=
  ({ thread := some ref.2, reasonCode := "LINKED" },
    { engine with threads := engine.threads.modify ref.2 fun thread => thread.attach event message })

/-- The active threads of a source. -/
def active (engine : TradeThreadEngine) (sourceId : String) : List ThreadRef :=
  engine.threads.zipIdx.filter fun ref => decide (ref.1.sourceId = sourceId) && ref.1.state.active

/-- The active threads of the source whose first or last message is the one replied to. -/
def replied (engine : TradeThreadEngine) (sourceId : String) (reply : ℤ) : List ThreadRef :=
  (engine.active sourceId).filter fun ref => decide (ref.1.lastMessageId = reply ∨ ref.1.openedMessageId = reply)

/-- The active threads, narrowed by a symbol that is given. -/
def ofSymbol (refs : List ThreadRef) (symbol : Option String) : List ThreadRef :=
  match stated symbol with
  | some symbol => refs.filter fun ref => decide (ref.1.symbol = symbol)
  | none => refs

/-- `link` where no reply decides. -/
def search (engine : TradeThreadEngine) (event : KolTradeEvent) (message : MessageEnvelope) :
    ThreadLinkResult × TradeThreadEngine :=
  let active := ofSymbol (engine.active event.sourceId) event.symbol
  let choose (active : List ThreadRef) : ThreadLinkResult × TradeThreadEngine :=
    match active with
    | [ref] => engine.attach ref event message
    | [] => ({ thread := none, reasonCode := "NO_ACTIVE_THREAD" }, engine)
    | _ => ({ thread := none, reasonCode := "AMBIGUOUS_THREAD" }, engine)
  match stated event.side with
  | none => choose active
  | some side =>
    let conflicting := active.filter fun ref => !ref.1.compatible side
    let fitting := active.filter fun ref => ref.1.compatible side
    if conflicting ≠ [] ∧ fitting = [] then ({ thread := none, reasonCode := "DIRECTION_CONFLICT" }, engine)
    else choose fitting

/-- `link`. -/
def link (engine : TradeThreadEngine) (event : KolTradeEvent) (message : MessageEnvelope) :
    ThreadLinkResult × TradeThreadEngine :=
  match message.replyToMessageId with
  | none => engine.search event message
  | some reply =>
    match engine.replied event.sourceId reply with
    | [ref] => engine.attach ref event message
    | _ => engine.search event message

section Linker

-- the texts that `uuid4` returns, one after the other
variable (uuid4 : ℕ → String)

/-- `apply`. -/
def apply (engine : TradeThreadEngine) (event : KolTradeEvent) (message : MessageEnvelope) :
    Option ℕ × TradeThreadEngine :=
  if event.eventType ≠ .openEntry then (none, engine)
  else
    match stated event.symbol with
    | none => (none, engine)
    | some symbol =>
      let thread := TradeThread.opened (uuid4 engine.threads.length) symbol event message
      (some engine.threads.length, { engine with threads := engine.threads ++ [thread] })

/-- `TradeEventLinker.link`. -/
def linkEvent (engine : TradeThreadEngine) (event : KolTradeEvent) (message : MessageEnvelope) :
    ThreadLinkResult × TradeThreadEngine :=
  if event.eventType = .openEntry then
    let (thread, engine) := engine.apply uuid4 event message
    ({ thread, reasonCode := if thread.isSome then "CREATED" else "OPEN_REJECTED" }, engine)
  else engine.link event message

/-- The engine after one pair. -/
def linked (engine : TradeThreadEngine) (pair : KolTradeEvent × MessageEnvelope) : TradeThreadEngine :=
  (engine.linkEvent uuid4 pair.1 pair.2).2

/-- The engine after a sequence of pairs. -/
def linkedAll (pairs : List (KolTradeEvent × MessageEnvelope)) : TradeThreadEngine := pairs.foldl (linked uuid4) {}

end Linker

end TradeThreadEngine

end TradingPlatform
