import Mathlib.Data.List.Sort
import TradingPlatform.Lib.Table

/-!
# Stale market data

`services/data/heartbeat.py` over the bars and the risk events of the `DataRepository`: a check finds the data of a symbol fresh
or stale, raises or resolves the event that blocks its entries, and the gates ask for blocking events. Of a bar only its key is
kept. Instants are microseconds, and a drawn id is its number.
-/

namespace TradingPlatform

/-- The key of a row of `ohlcv_bars`. -/
structure OhlcvKey where
  symbol : String
  exchange : String
  timeframe : String
  time : ℤ
  deriving DecidableEq, Repr

/-- A row of `risk_events`. -/
structure RiskEventRow where
  id : ℕ
  createdAt : ℤ
  source : String
  level : String
  eventType : String
  description : String
  affectedSymbols : Option (List String)
  expiresAt : Option ℤ
  resolutionStatus : String := "detected"
  deriving DecidableEq, Repr

/-- The tables. -/
structure DataStore where
  isPostgres : Bool := true
  bars : List OhlcvKey := []
  riskEvents : List RiskEventRow := []
  deriving DecidableEq, Repr

/-- `_timeframe_to_delta`. -/
def timeframeToDelta (timeframe : String) : Option ℤ :=
  let minutes : Option ℤ :=
    if timeframe = "1m" then some 1 else if timeframe = "5m" then some 5 else if timeframe = "15m" then some 15
    else if timeframe = "1h" then some 60 else if timeframe = "4h" then some 240 else if timeframe = "1d" then some 1440 else none
  minutes.map fun m => m * 60000000

/-- A batch that the database takes: one statement of PostgreSQL does not write a key twice. -/
def DataStore.accepts (isPostgres : Bool) (batch : List OhlcvKey) : Bool := !isPostgres || decide batch.Nodup

/-- `store_ohlcv_bars`. A key that is there keeps its row. -/
def DataStore.storeOhlcvBars (s : DataStore) (batch : List OhlcvKey) : DataStore :=
  if DataStore.accepts s.isPostgres batch then { s with bars := batch.foldl (fun bars k => bars.insert k) s.bars } else s

/-- `check_freshness`: the latest candle that closed by the reference time closed within the delay. -/
def DataStore.isFresh (s : DataStore) (symbol timeframe : String) (duration referenceTime maxDelay : ℤ) : Bool :=
  let closed := s.bars.filter fun k =>
    decide (k.symbol = symbol ∧ k.timeframe = timeframe ∧ k.time ≤ referenceTime - duration)
  match (closed.map OhlcvKey.time).max? with
  | none => false
  | some latest => decide (0 ≤ referenceTime - (latest + duration) ∧ referenceTime - (latest + duration) ≤ maxDelay)

/-- The statuses of an event that is open. -/
def RiskEventRow.isOpen (e : RiskEventRow) : Bool := e.resolutionStatus = "detected" || e.resolutionStatus = "acknowledged"

/-- The event has expired before an instant. -/
def RiskEventRow.expired (e : RiskEventRow) (now : ℤ) : Bool := e.expiresAt.any fun t => decide (t < now)

/-- `store_risk_event`, of an event that has no id yet. -/
def DataStore.storeRiskEvent (s : DataStore) (e : RiskEventRow) : DataStore :=
  { s with riskEvents := s.riskEvents ++ [{ e with id := s.riskEvents.length }] }

/-- `update_risk_event_resolution`. -/
def DataStore.updateRiskEventResolution (s : DataStore) (id : ℕ) (resolutionStatus : String) : DataStore :=
  { s with riskEvents := Table.modify RiskEventRow.id s.riskEvents id fun e => { e with resolutionStatus } }

/-- `list_active_risk_events_by_type`: the page is cut before the expired events are left out. -/
def DataStore.listActiveRiskEventsByType (s : DataStore) (eventType : String) (now : ℤ) (limit : ℕ := 5000) : List RiskEventRow :=
  (((s.riskEvents.filter fun e => decide (e.eventType = eventType) && e.isOpen).insertionSort
    fun a b => b.createdAt ≤ a.createdAt).take limit).filter fun e => !e.expired now

/-- `has_blocking_risk_event`, on one row. -/
def RiskEventRow.blocks (e : RiskEventRow) (scope : Option String) (referenceTime : ℤ) : Bool :=
  (decide (e.level = "high") || decide (e.level = "critical")) && e.isOpen && !e.expired referenceTime &&
    (e.affectedSymbols.isNone || scope.isNone || decide (∃ x ∈ scope, ∃ l ∈ e.affectedSymbols, x ∈ l))

/-- `has_blocking_risk_event`. -/
def DataStore.hasBlockingRiskEvent (s : DataStore) (scope : Option String) (referenceTime : ℤ) : Bool :=
  s.riskEvents.any fun e => e.blocks scope referenceTime

/-- How long a stale event lasts. -/
def staleHours : ℤ := 6 * 3600000000

/-- The event of stale data. -/
def staleEvent (symbol timeframe : String) (now : ℤ) : RiskEventRow where
  id := 0
  createdAt := now
  source := "market_data_heartbeat"
  level := "high"
  eventType := "data_stale"
  description := symbol ++ " " ++ timeframe ++ " market data is stale"
  affectedSymbols := some [symbol]
  expiresAt := some (now + staleHours)

/-- A check of a symbol: its instant, and the one at which it lists the events. -/
structure HeartbeatCheck where
  symbol : String
  timeframe : String := "1m"
  maxDelay : ℤ
  now : ℤ
  listedAt : ℤ

/-- The open events of the symbol that a check lists. -/
def DataStore.activeFor (s : DataStore) (check : HeartbeatCheck) : List RiskEventRow :=
  (s.listActiveRiskEventsByType "data_stale" check.listedAt).filter fun e =>
    decide (e.affectedSymbols = some [check.symbol])

/-- `check_symbol`. A timeframe that is not supported raises. -/
def DataStore.checkSymbol (s : DataStore) (check : HeartbeatCheck) : DataStore :=
  match timeframeToDelta check.timeframe with
  | none => s
  | some duration =>
    if s.isFresh check.symbol check.timeframe duration check.now check.maxDelay then
      (s.activeFor check).foldl (fun s e => s.updateRiskEventResolution e.id "resolved") s
    else if s.activeFor check = [] then s.storeRiskEvent (staleEvent check.symbol check.timeframe check.now)
    else s

/-- What happens to the tables: bars come in, a symbol is checked, another service stores an event, an event is closed. -/
inductive DataOp where
  | bars (batch : List OhlcvKey)
  | check (check : HeartbeatCheck)
  | event (e : RiskEventRow)
  | close (id : ℕ) (resolutionStatus : String)

/-- A call runs. -/
def DataStore.step (s : DataStore) : DataOp → DataStore
  | .bars batch => s.storeOhlcvBars batch
  | .check check => s.checkSymbol check
  | .event e => s.storeRiskEvent e
  | .close id resolutionStatus => s.updateRiskEventResolution id resolutionStatus

/-- Calls run one after another. -/
def DataStore.run (s : DataStore) (ops : List DataOp) : DataStore := ops.foldl DataStore.step s

end TradingPlatform
