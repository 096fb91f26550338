import Mathlib.Data.List.Dedup
import Mathlib.Data.List.Sort
import TradingPlatform.Engine.AccountWriter
import TradingPlatform.Engine.Entry
import TradingPlatform.Lib.Attempt

/-!
# The scheduled cycle

`_execute_v2_automated_trading_cycles` of `execution/v2_scheduler_entry.py`, for what it takes from the coordinator and gives back:
the lease of the single writer, the lease of the slot and the claim of the slot. What a helper returns or raises is given: a
coordinator is asked over any database and beside any other processes. The cycle of one symbol is one helper.
-/

namespace TradingPlatform

/-- The text of an execution mode. -/
def V2ExecutionMode.value : V2ExecutionMode → String
  | .binanceTestnet => "BINANCE_TESTNET"
  | .localPaper => "LOCAL_PAPER"

/-- `EngineActivationConfig`, and the symbols the manifest allows entries of. -/
structure EngineActivationConfig where
  v2Activation : EngineActivation
  executionMode : V2ExecutionMode
  autoSimulationExecutionSymbols : List String
  deriving DecidableEq

/-- The payload of a request. -/
structure V2RequestPayload where
  /-- The instant of `observed_at`, or what its parsing raises. -/
  observedAt : Option (Except PyError ℤ) := none
  schedulerCycleId : String := ""
  /-- The list of `symbols`, or what listing them raises. -/
  symbols : Except PyError (List String) := .ok []

/-- What the helpers of a cycle return or raise. -/
structure V2CycleHelpers where
  /-- `fetch_binance_server_time`; none is `BinanceClockUnavailable`. -/
  fetchBinanceServerTime : Except PyError (Option ℤ)
  wallClock : ℤ
  /-- `_slot_start`, in seconds. -/
  slotStart : ℤ → Except PyError ℤ
  /-- `acquire_or_renew_lease`: the token a lease is granted with. -/
  acquireOrRenewLease : String → Except PyError (Option ℤ)
  fencingToken : String → Except PyError (Option ℤ)
  /-- The update of `release_lease`. -/
  releaseLease : String → Except PyError Unit
  /-- `claim_cycle`: the id of the cycle that is claimed. -/
  claimCycle : Except PyError (Option String)
  finishCycle : Except PyError Unit
  managedSymbolsRequiringRecovery : Except PyError (List String)
  loadOperatorSettings : Except PyError Unit
  buildAdapter : Except PyError Unit
  /-- The cycle of a symbol: whether it failed. -/
  symbolCycle : String → Except PyError Bool

/-- What is done to the leases and the claims. -/
inductive CoordinatorEvent where
  | acquired (leaseName : String)
  | released (leaseName : String) (fencingToken : ℤ)
  | claimed (schedulerCycleId : String)
  | finished (schedulerCycleId status : String) (failureReason : Option String)
  deriving DecidableEq, Repr

/-- The tokens a coordinator remembers, and what it has done. -/
structure CoordinatorState where
  fencingTokens : String → Option ℤ := fun _ => none
  events : List CoordinatorEvent := []

/-- A lease is granted. -/
def CoordinatorState.acquire (s : CoordinatorState) (leaseName : String) (token : ℤ) : CoordinatorState :=
  { fencingTokens := Function.update s.fencingTokens leaseName (some token), events := s.events ++ [.acquired leaseName] }

/-- The token of a lease is read. -/
def CoordinatorState.remember (s : CoordinatorState) (leaseName : String) (token : ℤ) : CoordinatorState :=
  { s with fencingTokens := Function.update s.fencingTokens leaseName (some token) }

/-- Something is done. -/
def CoordinatorState.record (s : CoordinatorState) (event : CoordinatorEvent) : CoordinatorState :=
  { s with events := s.events ++ [event] }

/-- A part of a cycle. -/
abbrev CoordinatorM := Attempt PyError CoordinatorState

/-- What a helper returns or raises. -/
def helper {α : Type} : Except PyError α → CoordinatorM α
  | .ok a => pure a
  | .error e => throw e

/-- The result of a cycle. -/
structure V2CycleReport where
  status : String
  error : Option String := none
  invalidSymbols : List String := []
  leaseName : Option String := none
  schedulerCycleId : Option String := none
  symbols : List String := []
  deriving DecidableEq, Repr

section

variable (helpers : V2CycleHelpers)

/-- `acquire_or_renew_lease`. -/
def acquireOrRenewLease (leaseName : String) : CoordinatorM Bool := do
  match ← helper (helpers.acquireOrRenewLease leaseName) with
  | none => return false
  | some token =>
    modify fun s => s.acquire leaseName token
    return true

/-- `fencing_token`. -/
def fencingToken (leaseName : String) : CoordinatorM (Option ℤ) := do
  match ← helper (helpers.fencingToken leaseName) with
  | none => return none
  | some token =>
    modify fun s => s.remember leaseName token
    return some token

/-- `release_lease`: a lease of which no token is remembered is left alone. -/
def releaseLease (leaseName : String) : CoordinatorM Unit := do
  match (← get).fencingTokens leaseName with
  | none => return ()
  | some expectedToken =>
    helper (helpers.releaseLease leaseName)
    modify fun s => s.record (.released leaseName expectedToken)

/-- `claim_cycle`. -/
def claimCycle : CoordinatorM (Option String) := do
  match ← helper helpers.claimCycle with
  | none => return none
  | some schedulerCycleId =>
    modify fun s => s.record (.claimed schedulerCycleId)
    return some schedulerCycleId

/-- `finish_cycle`. -/
def finishCycle (schedulerCycleId status : String) (failureReason : Option String) : CoordinatorM Unit := do
  helper helpers.finishCycle
  modify fun s => s.record (.finished schedulerCycleId status failureReason)

/-! ## The cycles of the symbols -/

/-- The loop over the symbols: how it ends, and whether a symbol had failed by then. -/
def runSymbolCycles (settingsAvailable : Bool) : List String → Bool → Except PyError Unit × Bool
  | [], failed => (.ok (), failed)
  | symbol :: rest, failed =>
    if !settingsAvailable then runSymbolCycles settingsAvailable rest true
    else
      match helpers.symbolCycle symbol with
      | .error e => (.error e, failed)
      | .ok symbolFailed => runSymbolCycles settingsAvailable rest (failed || symbolFailed)

/-- The `try` with the adapter and the loop. -/
def runAdapterCycles (symbols : List String) : Except PyError Unit × Bool :=
  match helpers.buildAdapter with
  | .error e => (.error e, false)
  | .ok () => runSymbolCycles helpers helpers.loadOperatorSettings.toBool symbols false

/-! ## The cycle -/

/-- The leases of a cycle are given up. -/
def releaseLeases (leaseName writerLeaseName : String) : CoordinatorM Unit := do
  releaseLease helpers leaseName
  releaseLease helpers writerLeaseName

/-- The cycle in a slot that is claimed. -/
def runClaimedCycle (config : EngineActivationConfig) (payload : V2RequestPayload) (leaseName writerLeaseName : String)
    (claimOwnedHere : Bool) (schedulerCycleId : String) : CoordinatorM V2CycleReport := do
  let listed ← helper payload.symbols
  let requestedSymbols := if listed.isEmpty then config.autoSimulationExecutionSymbols else listed
  let invalidSymbols := (requestedSymbols.filter fun s => !config.autoSimulationExecutionSymbols.contains s).dedup
  if config.executionMode = .binanceTestnet ∧ invalidSymbols ≠ [] then
    return { status := "error", error := some "MANIFEST_EXECUTION_SYMBOL_SCOPE_MISMATCH",
             invalidSymbols := invalidSymbols.insertionSort (· ≤ ·) }
  else
    let recoverySymbols ← helper helpers.managedSymbolsRequiringRecovery
    let symbols := (requestedSymbols ++ recoverySymbols).reverse.dedup.reverse
    let (result, taskFailed) := runAdapterCycles helpers symbols
    tryFinally (helper result) do
      if claimOwnedHere then
        finishCycle helpers schedulerCycleId (if taskFailed then "failed" else "completed")
          (if taskFailed then some "one_or_more_symbol_cycles_failed" else none)
      releaseLeases helpers leaseName writerLeaseName
    return { status := if taskFailed then "partial_failure" else "completed", leaseName := some leaseName,
             schedulerCycleId := some schedulerCycleId, symbols := symbols }

/-- The cycle while the lease of the single writer is held. -/
def runWriterCycle (config : EngineActivationConfig) (payload : V2RequestPayload) (leaseName writerLeaseName : String) :
    CoordinatorM V2CycleReport := do
  if !(← acquireOrRenewLease helpers leaseName) then
    releaseLease helpers writerLeaseName
    return { status := "standby_not_leader", leaseName := some leaseName }
  else
    match ← fencingToken helpers leaseName with
    | none =>
      releaseLeases helpers leaseName writerLeaseName
      return { status := "lease_lost", leaseName := some leaseName }
    | some _ =>
      let preclaimedSchedulerCycleId := strip payload.schedulerCycleId
      if preclaimedSchedulerCycleId = "" then
        match ← claimCycle helpers with
        | none =>
          releaseLeases helpers leaseName writerLeaseName
          return { status := "duplicate_slot_skipped", leaseName := some leaseName }
        | some schedulerCycleId =>
          runClaimedCycle helpers config payload leaseName writerLeaseName true schedulerCycleId
      else runClaimedCycle helpers config payload leaseName writerLeaseName false preclaimedSchedulerCycleId

/-- The instant a cycle goes by; none is `BinanceClockUnavailable`. -/
def V2CycleHelpers.now (config : EngineActivationConfig) (payload : V2RequestPayload) : Except PyError (Option ℤ) :=
  match payload.observedAt with
  | some observedAt => observedAt.map some
  | none => if config.executionMode = .binanceTestnet then helpers.fetchBinanceServerTime else .ok (some helpers.wallClock)

/-- The name of the lease of the single writer. -/
def writerLeaseName (config : EngineActivationConfig) : String :=
  "automated_trading_v2:" ++ config.executionMode.value ++ ":single_writer"

/-- The name of the lease of a slot. -/
def slotLeaseName (config : EngineActivationConfig) (barSlot : ℤ) : String :=
  "automated_trading_v2:" ++ config.executionMode.value ++ ":" ++ toString barSlot

/-- `_execute_v2_automated_trading_cycles`. -/
def executeV2AutomatedTradingCycles (config : EngineActivationConfig) (payload : V2RequestPayload) :
    CoordinatorM V2CycleReport := do
  if config.v2Activation = .disabled then return { status := "skipped" }
  else
    match ← helper (helpers.now config payload) with
    | none => return { status := "error", error := some "BINANCE_SERVER_TIME_UNAVAILABLE" }
    | some now =>
      let barSlot ← helper (helpers.slotStart now)
      if !(← acquireOrRenewLease helpers (writerLeaseName config)) then return { status := "active_cycle_running" }
      else runWriterCycle helpers config payload (slotLeaseName config barSlot) (writerLeaseName config)

end

end TradingPlatform
