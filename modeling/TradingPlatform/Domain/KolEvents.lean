import Mathlib.Algebra.Order.Ring.Rat
import TradingPlatform.Domain.State

/-!
# Events of trade messages

`telegram_kol/domain/events.py`: what a parser read from one revision of a message. Prices are exact, and a `datetime` is the
instant that `astimezone` takes it for.
-/

namespace TradingPlatform

/-- `KolEventType`. -/
inductive KolEventType where
  | openEntry | addPosition | partialClose | closeAll | moveStop | setTakeProfit | cancelTakeProfit | cancelEntry | stopReported
  | resultReport | commentary | advertisement | ambiguous
  deriving DecidableEq, Repr

/-- `EntrySemantics`. -/
inductive EntrySemantics where
  | market | nearPrice | range | limit | conditional | unknown
  deriving DecidableEq, Repr

/-- The text of an entry. -/
def EntrySemantics.value : EntrySemantics → String
  | .market => "MARKET"
  | .nearPrice => "NEAR_PRICE"
  | .range => "RANGE"
  | .limit => "LIMIT"
  | .conditional => "CONDITIONAL"
  | .unknown => "UNKNOWN"

/-- `Completeness`. -/
inductive Completeness where
  | complete | manageable | incomplete | nonSignal
  deriving DecidableEq, Repr

/-- A `datetime`, with or without a zone, in microseconds. -/
structure KolTime where
  instant : ℕ
  hasZone : Bool := true
  deriving DecidableEq, Repr

/-- `KolTradeEvent`. -/
structure KolTradeEvent where
  eventType : KolEventType
  sourceId : String
  chatId : String
  messageId : ℤ
  revision : ℕ
  symbol : Option String := none
  side : Option String := none
  entrySemantics : EntrySemantics := .unknown
  entryPrice : Option ℚ := none
  entryLow : Option ℚ := none
  entryHigh : Option ℚ := none
  stopLoss : Option ℚ := none
  takeProfits : List ℚ := []
  claimedLeverage : Option ℚ := none
  claimedPositionFraction : Option ℚ := none
  completeness : Completeness := .nonSignal
  detectedAt : Option KolTime := none
  confidence : ℚ := 1
  threadId : Option String := none
  deriving DecidableEq, Repr

/-- `entry_price or entry_low`: a price of zero counts as none. -/
def KolTradeEvent.entry (e : KolTradeEvent) : Option ℚ :=
  match e.entryPrice with
  | none => e.entryLow
  | some price => if price = 0 then e.entryLow else some price

/-- The direction of a side that is `LONG` or `SHORT`. -/
def KolTradeEvent.direction (e : KolTradeEvent) : Option Direction :=
  if e.side = some "LONG" then some .long else if e.side = some "SHORT" then some .short else none

end TradingPlatform
