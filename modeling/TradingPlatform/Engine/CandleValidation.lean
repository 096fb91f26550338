import Mathlib.Data.List.Sort
import TradingPlatform.Engine.AccountWriter

/-!
# The validation of candles

`CandleValidator` (`data/candle_validation.py`): the gate that keeps forming bars out of the decisions. Instants and durations are in
microseconds, and decimals are finite.
-/

namespace TradingPlatform

/-! ## Datetimes -/

/-- A `datetime`: one without a zone, by its wall clock, or one with a zone, by its wall clock and its offset. -/
inductive Datetime where
  | naive (wall : ℤ)
  | aware (wall offset : ℤ)
  deriving DecidableEq, Repr

namespace Datetime

/-- What datetimes are compared by: the instant of an aware one, the wall clock of a naive one. -/
def key : Datetime → ℤ
  | naive wall => wall
  | aware wall offset => wall - offset

/-- Whether a datetime has a zone. -/
def hasZone : Datetime → Bool
  | naive _ => false
  | aware _ _ => true

/-- Whether a datetime is in UTC. -/
def isUtc : Datetime → Bool
  | naive _ => false
  | aware _ offset => decide (offset = 0)

end Datetime

/-! ## Candles -/

/-- The block codes of market data. -/
inductive DataBlock where
  | dataNotClosed | dataStale | dataGap | dataMisaligned
  deriving DecidableEq, Repr

/-- What `validate` raises. -/
inductive CandleError where
  | marketDataValidation (blockCode : DataBlock) (message : String)
  | typeError (message : String)
  | validationError
  deriving DecidableEq, Repr

/-- `CandleInput`. -/
structure CandleInput where
  openTime : Datetime
  closeTime : Datetime
  openPrice : ℚ
  highPrice : ℚ
  lowPrice : ℚ
  closePrice : ℚ
  volume : ℚ
  receivedAt : Datetime
  sourceEventTime : Option Datetime := none
  sourceClosed : Option Bool := none
  deriving DecidableEq

/-- `ValidatedCandle`, with the bounds of its fields. -/
structure ValidatedCandle where
  openTime : Datetime
  closeTime : Datetime
  openPrice : ℚ
  highPrice : ℚ
  lowPrice : ℚ
  closePrice : ℚ
  volume : ℚ
  receivedAt : Datetime
  sourceEventTime : Option Datetime
  closed : Bool
  closeProof : String
  prices_pos : 0 < openPrice ∧ 0 < highPrice ∧ 0 < lowPrice ∧ 0 < closePrice
  volume_nonneg : 0 ≤ volume

instance : DecidableEq ValidatedCandle := fun a b =>
  decidable_of_iff (a.openTime = b.openTime ∧ a.closeTime = b.closeTime ∧ a.openPrice = b.openPrice ∧
      a.highPrice = b.highPrice ∧ a.lowPrice = b.lowPrice ∧ a.closePrice = b.closePrice ∧ a.volume = b.volume ∧
      a.receivedAt = b.receivedAt ∧ a.sourceEventTime = b.sourceEventTime ∧ a.closed = b.closed ∧
      a.closeProof = b.closeProof)
    (by cases a; cases b; simp)

/-- `ValidatedCandleSet`. -/
structure ValidatedCandleSet where
  symbol : String
  timeframe : String
  candles : List ValidatedCandle
  validatedAt : Datetime
  exchangeServerTime : Datetime
  alignedCloseTime : Datetime
  deriving DecidableEq

namespace CandleValidator

/-- The microseconds of a minute. -/
def minuteMicros : ℤ := 60 * 1000000

/-- `_TIMEFRAME_DURATION`. -/
def candleDuration (timeframe : String) : Option ℤ :=
  if timeframe = "1m" then some minuteMicros
  else if timeframe = "5m" then some (5 * minuteMicros)
  else if timeframe = "15m" then some (15 * minuteMicros)
  else if timeframe = "1h" then some (60 * minuteMicros)
  else if timeframe = "4h" then some (240 * minuteMicros)
  else if timeframe = "1d" then some (1440 * minuteMicros)
  else none

/-- `_require_utc`. -/
def requireUtc (value : Datetime) (fieldName : String) : Except CandleError Unit :=
  if value.isUtc then .ok () else .error (.marketDataValidation .dataMisaligned (fieldName ++ " must be UTC"))

/-- Whether two candles have open times that do not compare. -/
def mixed (candles : List CandleInput) : Bool :=
  candles.any (fun c => c.openTime.hasZone) && candles.any fun c => !c.openTime.hasZone

/-- The order by open time. -/
def earlier (a b : CandleInput) : Prop := a.openTime.key ≤ b.openTime.key

instance : DecidableRel earlier := fun _ _ => inferInstanceAs (Decidable (_ ≤ _))

/-- `sorted(candles, key=lambda candle: candle.open_time)`: stable, and open times with and without a zone do not compare. -/
def sortCandles (candles : List CandleInput) : Except CandleError (List CandleInput) :=
  if mixed candles then .error (.typeError "can't compare offset-naive and offset-aware datetimes")
  else .ok (candles.insertionSort earlier)

/-- Whether a candle is closed by the time of the exchange, and its source does not say otherwise. -/
def confirmed (exchangeServerTime : Datetime) (candle : CandleInput) : Bool :=
  decide (candle.closeTime.key ≤ exchangeServerTime.key ∧ candle.sourceClosed ≠ some false)

/-- One turn of the loop over the candles. -/
def checkCandle (duration : ℤ) (exchangeServerTime : Datetime) (state : List ℤ × List CandleInput) (candle : CandleInput) :
    Except CandleError (List ℤ × List CandleInput) := do
  requireUtc candle.openTime "open_time"
  requireUtc candle.closeTime "close_time"
  if candle.openTime.key ∈ state.1 then throw (.marketDataValidation .dataGap "duplicate candle open time")
  if candle.closeTime.key - candle.openTime.key ≠ duration then throw (.marketDataValidation .dataMisaligned "candle duration mismatch")
  return (state.1 ++ [candle.openTime.key], if confirmed exchangeServerTime candle then state.2 ++ [candle] else state.2)

/-- Whether two candles that follow each other are not contiguous. -/
def hasGap (duration : ℤ) (closed : List CandleInput) : Bool :=
  (closed.zip closed.tail).any fun pair => decide (pair.2.openTime.key - pair.1.openTime.key ≠ duration)

/-- `ValidatedCandle(...)` of a closed candle. -/
def validatedCandle (candle : CandleInput) : Except CandleError ValidatedCandle :=
  if h : (0 < candle.openPrice ∧ 0 < candle.highPrice ∧ 0 < candle.lowPrice ∧ 0 < candle.closePrice) ∧ 0 ≤ candle.volume then
    .ok {
      openTime := candle.openTime
      closeTime := candle.closeTime
      openPrice := candle.openPrice
      highPrice := candle.highPrice
      lowPrice := candle.lowPrice
      closePrice := candle.closePrice
      volume := candle.volume
      receivedAt := candle.receivedAt
      sourceEventTime := candle.sourceEventTime
      closed := true
      closeProof := if candle.sourceClosed = some true then "source_closed_and_exchange_server_time" else "exchange_server_time"
      prices_pos := h.1
      volume_nonneg := h.2 }
  else .error .validationError

/-- The candles of a supported timeframe and a server time in UTC. -/
def closedCandles (duration : ℤ) (candles : List CandleInput) (exchangeServerTime : Datetime) (maxAge : ℤ) :
    Except CandleError (List CandleInput × CandleInput) := do
  let ordered ← sortCandles candles
  if ordered = [] then throw (.marketDataValidation .dataNotClosed "no candles available")
  let (_, closed) ← ordered.foldlM (checkCandle duration exchangeServerTime) ([], [])
  match closed.getLast? with
  | none => throw (.marketDataValidation .dataNotClosed "no exchange-time-confirmed candle")
  | some latest =>
    if hasGap duration closed then throw (.marketDataValidation .dataGap "closed candle sequence contains a gap")
    if exchangeServerTime.key - latest.closeTime.key > maxAge then throw (.marketDataValidation .dataStale "latest closed candle is stale")
    return (closed, latest)

/-- `validate`, at some time. -/
def validate (symbol timeframe : String) (candles : List CandleInput) (exchangeServerTime : Datetime) (maxAge : ℤ) (now : Datetime) :
    Except CandleError ValidatedCandleSet :=
  match candleDuration timeframe with
  | none => .error (.marketDataValidation .dataMisaligned "unsupported timeframe")
  | some duration => do
    requireUtc exchangeServerTime "exchange_server_time"
    let (closed, latest) ← closedCandles duration candles exchangeServerTime maxAge
    let validated ← closed.mapM validatedCandle
    return { symbol := strip symbol, timeframe := strip timeframe, candles := validated, validatedAt := now, exchangeServerTime,
             alignedCloseTime := latest.closeTime }

end CandleValidator

end TradingPlatform
