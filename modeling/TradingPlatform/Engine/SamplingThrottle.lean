import Mathlib.Data.String.Basic
import TradingPlatform.Domain.Clock

/-!
# The sampling throttle

`application/sampling_service.py`: the counters a scheduler process keeps of its sampling entries, and the check made before one.
-/

namespace TradingPlatform

/-- `SamplingState`; the two dictionaries are read with `get` only. -/
structure SamplingState where
  dailySymbolCounts : String → Option ℕ := fun _ => none
  lastEntryAt : String → Option ℤ := fun _ => none
  lastResetDate : Option ℤ := none
  dailyTotalCount : ℕ := 0

/-- `dict[symbol] = value`. -/
def setItem {α : Type} (d : String → Option α) (symbol : String) (value : α) : String → Option α :=
  fun s => if s = symbol then some value else d s

namespace SamplingState

/-- `_maybe_reset`. -/
def maybeReset (s : SamplingState) (now : ℤ) : SamplingState :=
  if s.lastResetDate.map utcDate = some (utcDate now) then s
  else { s with dailySymbolCounts := fun _ => none, dailyTotalCount := 0, lastResetDate := some now }

/-- `daily_symbol_counts.get(symbol, 0)`. -/
def symbolCount (s : SamplingState) (symbol : String) : ℕ := (s.dailySymbolCounts symbol).getD 0

/-- `record_entry`; the last entries outlive the day. -/
def recordEntry (s : SamplingState) (symbol : String) (now : ℤ) : SamplingState :=
  let s := s.maybeReset now
  { s with
    dailySymbolCounts := setItem s.dailySymbolCounts symbol (s.symbolCount symbol + 1)
    dailyTotalCount := s.dailyTotalCount + 1
    lastEntryAt := setItem s.lastEntryAt symbol now }

end SamplingState

/-- `SamplingThrottleResult`. -/
structure SamplingThrottleResult where
  allowed : Bool
  reason : String := ""
  deriving DecidableEq

/-- The limits of `check_sampling_throttle`. -/
structure SamplingLimits where
  maxDailyTradesPerSymbol : ℕ := 3
  maxDailyTradesTotal : ℕ := 6
  cooldownSeconds : ℕ := 900

/-- The format `.0f`. -/
def formatWhole (x : ℚ) : String := toString (roundHalfEven x)

/-- `check_sampling_throttle`: its result, and the state it may have reset. -/
def checkSamplingThrottle (symbol : String) (now : ℤ) (state : SamplingState) (limits : SamplingLimits) :
    SamplingThrottleResult × SamplingState :=
  let state := state.maybeReset now
  let symbolCount := state.symbolCount symbol
  let maxPerSymbol := limits.maxDailyTradesPerSymbol
  let total := state.dailyTotalCount
  let maxTotal := limits.maxDailyTradesTotal
  if maxPerSymbol ≤ symbolCount then
    ({ allowed := false
       reason := s!"{symbol} daily sampling cap reached ({symbolCount}/{maxPerSymbol})" }, state)
  else if maxTotal ≤ total then
    ({ allowed := false, reason := s!"total daily sampling cap reached ({total}/{maxTotal})" }, state)
  else match state.lastEntryAt symbol with
    | some lastAt =>
      let elapsed := totalSeconds (now - lastAt)
      if elapsed < limits.cooldownSeconds then
        let remaining := formatWhole (limits.cooldownSeconds - elapsed)
        ({ allowed := false, reason := s!"{symbol} in cooldown ({remaining}s remaining)" }, state)
      else ({ allowed := true }, state)
    | none => ({ allowed := true }, state)

example : (checkSamplingThrottle "BTC/USDT" 5000000 (SamplingState.recordEntry {} "BTC/USDT" 0) {}).1.reason =
    "BTC/USDT in cooldown (895s remaining)" := by decide +kernel

/-! ## Runs -/

/-- An entry that was recorded. -/
structure SamplingEntry where
  symbol : String
  enteredAt : ℤ

/-- The process: its state, what was recorded, the last instant it saw, and the symbols allowed since the last record. -/
structure SamplingWorld where
  state : SamplingState := {}
  entries : List SamplingEntry := []
  clock : ℤ
  allowed : List String := []

/-- A check, of any symbol. -/
def SamplingWorld.check (limits : SamplingLimits) (w : SamplingWorld) (symbol : String) (now : ℤ) : SamplingWorld :=
  let (result, state) := checkSamplingThrottle symbol now w.state limits
  { w with state, clock := now, allowed := if result.allowed then symbol :: w.allowed else w.allowed }

/-- A record; what was allowed before it has to be checked again. -/
def SamplingWorld.record (w : SamplingWorld) (symbol : String) (now : ℤ) : SamplingWorld :=
  { state := w.state.recordEntry symbol now, entries := w.entries ++ [⟨symbol, now⟩], clock := now, allowed := [] }

/-- The runs in which an entry is recorded only after a check allowed it, checks being made at any time besides. -/
inductive SamplingRun (limits : SamplingLimits) : SamplingWorld → Prop where
  | start (clock : ℤ) : SamplingRun limits { clock }
  | check {w : SamplingWorld} (symbol : String) {now : ℤ} :
      SamplingRun limits w → w.clock ≤ now → SamplingRun limits (w.check limits symbol now)
  | record {w : SamplingWorld} {symbol : String} {now : ℤ} :
      SamplingRun limits w → w.clock ≤ now → symbol ∈ w.allowed → SamplingRun limits (w.record symbol now)

end TradingPlatform
