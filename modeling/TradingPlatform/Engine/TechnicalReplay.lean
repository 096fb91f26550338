import Mathlib.Algebra.Order.Ring.Rat
import TradingPlatform.Domain.State
import TradingPlatform.Lib.Lists

/-!
# The technical replay

`validation/technical_replay.py`: the decision pipeline is run over historical bars, one entry bar after another. Timestamps are
those at which bars open, in microseconds. What the replay does with an open position is a parameter: a rule over the position and
the bar.
-/

namespace TradingPlatform

/-- `OHLCVBar`, of one symbol and timeframe. -/
structure OHLCVBar where
  timestamp : ℤ
  openPrice : ℚ
  high : ℚ
  low : ℚ
  close : ℚ
  volume : ℚ
  deriving DecidableEq, Repr

/-- `TIMEFRAME_TO_SECONDS`. -/
def timeframeToSeconds : String → Option ℤ
  | "1m" => some 60
  | "5m" => some (5 * 60)
  | "15m" => some (15 * 60)
  | "1h" => some (60 * 60)
  | "4h" => some (4 * 60 * 60)
  | "1d" => some (24 * 60 * 60)
  | _ => none

/-- How long a bar of a timeframe takes. -/
def timeframeDuration (timeframe : String) : Option ℤ := (timeframeToSeconds timeframe).map (· * 1000000)

/-- A bar has opened by an instant. -/
def OHLCVBar.openedBy (instant : ℤ) (bar : OHLCVBar) : Bool := decide (bar.timestamp ≤ instant)

/-- A bar that takes `duration` has closed by an instant. -/
def OHLCVBar.closedBy (duration instant : ℤ) (bar : OHLCVBar) : Bool := decide (bar.timestamp + duration ≤ instant)

/-- `closed_bars_for_decision`. -/
def closedBarsForDecision (bars : List OHLCVBar) (timeframe : String) (decisionTime : ℤ) : Except PyError (List OHLCVBar) :=
  match timeframeDuration timeframe with
  | none => .error (.valueError ("unsupported decision timeframe: " ++ timeframe))
  | some duration => .ok (bars.filter (OHLCVBar.closedBy duration decisionTime))

/-! ## The view of the replay -/

/-- The bars of each symbol and timeframe. -/
abbrev MarketData := String → String → List OHLCVBar

/-- `HistoricalMarketDataView`: its bars are in the order in which they open. -/
structure HistoricalMarketDataView where
  bars : String → String → List OHLCVBar
  cutoff : Option ℤ
  sorted : ∀ symbol timeframe, (bars symbol timeframe).Pairwise fun a b => a.timestamp ≤ b.timestamp

/-- The order of a view. -/
def OHLCVBar.opensBefore (a b : OHLCVBar) : Prop := a.timestamp ≤ b.timestamp

instance : DecidableRel OHLCVBar.opensBefore := fun a b => inferInstanceAs (Decidable (a.timestamp ≤ b.timestamp))
instance : Std.Total OHLCVBar.opensBefore := ⟨fun a b => le_total a.timestamp b.timestamp⟩
instance : IsTrans OHLCVBar OHLCVBar.opensBefore := ⟨fun _ _ _ hab hbc => le_trans hab hbc⟩

/-- A view of market data. -/
def HistoricalMarketDataView.ofMarketData (marketData : MarketData) : HistoricalMarketDataView where
  bars symbol timeframe := (marketData symbol timeframe).insertionSort OHLCVBar.opensBefore
  cutoff := none
  sorted symbol timeframe := List.pairwise_insertionSort OHLCVBar.opensBefore (marketData symbol timeframe)

/-- `set_cutoff`. -/
def HistoricalMarketDataView.setCutoff (view : HistoricalMarketDataView) (cutoff : ℤ) : HistoricalMarketDataView :=
  { view with cutoff := some cutoff }

/-- `bisect_right` of a sorted list: the place after the elements up to `x`. -/
def bisectRight (a : List ℤ) (x : ℤ) : ℕ := (a.takeWhile fun y => decide (y ≤ x)).length

/-- `xs[start:]`; a negative start counts from the end. -/
def sliceFrom {α : Type} (xs : List α) (start : ℤ) : List α :=
  if start < 0 then xs.drop (xs.length + start).toNat else xs.drop start.toNat

/-- `list_ohlcv_bars`. -/
def HistoricalMarketDataView.listOhlcvBars (view : HistoricalMarketDataView) (symbol timeframe : String) (limit : Option ℤ) :
    List OHLCVBar :=
  let bars := match view.cutoff with
    | some cutoff =>
      (view.bars symbol timeframe).take (bisectRight ((view.bars symbol timeframe).map OHLCVBar.timestamp) cutoff)
    | none => view.bars symbol timeframe
  match limit with
  | some limit => sliceFrom bars (-limit)
  | none => bars

/-! ## Decisions -/

/-- `DecisionPipelineResult`, what the replay reads of it. -/
structure DecisionPipelineResult where
  direction : Option Direction
  shouldTrade : Bool
  atr : Option ℚ
  deriving DecidableEq, Repr

/-- What a pipeline reads: the closed bars of a symbol and a timeframe, at most so many. -/
abbrev BarReads := String → String → Option ℤ → Except PyError (List OHLCVBar)

/-- A decision pipeline: a function of the symbol, the timeframe and what it reads. -/
abbrev Pipeline := String → String → BarReads → Except PyError DecisionPipelineResult

/-- What `DecisionPipeline.evaluate` reads of a view when the wall clock shows `now`; the replay gives it no decision time. -/
def HistoricalMarketDataView.reads (view : HistoricalMarketDataView) (now : ℤ) : BarReads := fun symbol timeframe limit =>
  closedBarsForDecision (view.listOhlcvBars symbol timeframe limit) timeframe now

/-- A signal of the replay: a decision to trade. -/
structure EntryDecision where
  direction : Direction
  atr : Option ℚ
  deriving DecidableEq, Repr

/-- The decision of the pipeline at an entry bar. -/
def evaluateAt (view : HistoricalMarketDataView) (pipeline : Pipeline) (symbol entryTimeframe : String) (now : ℤ)
    (bar : OHLCVBar) : Except PyError (Option EntryDecision) := do
  let decision ← pipeline symbol entryTimeframe ((view.setCutoff bar.timestamp).reads now)
  match decision.direction with
  | none => return none
  | some direction => return if decision.shouldTrade then some { direction := direction, atr := decision.atr } else none

/-! ## The replay -/

/-- What the replay does with a position. -/
structure ReplayRules (Position Trade : Type) where
  /-- `_advance_open_position`. -/
  advanceOpenPosition : Position → OHLCVBar → List Trade × Option Position
  /-- The position that fills a signal at the open of a bar, if its price is positive. -/
  openPosition : EntryDecision → OHLCVBar → Except PyError (Option Position)
  /-- The trade that closes what remains of a position at the end of the window. -/
  closeAtEnd : Position → OHLCVBar → List Trade

/-- The state of `_replay_symbol`. -/
structure ReplayState (Position Trade : Type) where
  position : Option Position := none
  trades : List Trade := []
  signalCount : ℕ := 0

section

variable {Position Trade : Type} (rules : ReplayRules Position Trade)

/-- The position that an entry bar leaves open, and the trades it closes. -/
def ReplayRules.advance (position : Option Position) (bar : OHLCVBar) : List Trade × Option Position :=
  match position with
  | none => ([], none)
  | some position => rules.advanceOpenPosition position bar

/-- The entry decision of `_replay_symbol` at an entry bar: none is taken while a position stays open. -/
def ReplayRules.entryDecision (view : HistoricalMarketDataView) (pipeline : Pipeline) (symbol entryTimeframe : String)
    (now : ℤ) (position : Option Position) (bar : OHLCVBar) : Except PyError (Option EntryDecision) :=
  match (rules.advance position bar).2 with
  | some _ => .ok none
  | none => evaluateAt view pipeline symbol entryTimeframe now bar

/-- A bar is in the window of the replay. -/
def inWindow (startAt : ℤ) (endAt : Option ℤ) (bar : OHLCVBar) : Bool :=
  decide (startAt ≤ bar.timestamp) && endAt.all fun e => decide (bar.timestamp ≤ e)

/-- The body of the loop of `_replay_symbol` at a bar, with the bars after it; `now` is what the wall clock shows there. -/
def ReplayRules.replayBar (view : HistoricalMarketDataView) (pipeline : Pipeline) (symbol entryTimeframe : String) (startAt : ℤ)
    (endAt : Option ℤ) (now : ℤ) (s : ReplayState Position Trade) (bar : OHLCVBar) (later : List OHLCVBar) :
    Except PyError (ReplayState Position Trade) := do
  if !inWindow startAt endAt bar then return s
  else
    let (closed, position) := rules.advance s.position bar
    let decision ← rules.entryDecision view pipeline symbol entryTimeframe now s.position bar
    let s := { s with position, trades := s.trades ++ closed }
    match decision with
    | none => return s
    | some decision =>
      let s := { s with signalCount := s.signalCount + 1 }
      match later.head? with
      | none => return s
      | some fillBar =>
        -- the earliest fill is at the open of the next bar
        if endAt.any fun e => decide (e < fillBar.timestamp) then return s
        else
          match ← rules.openPosition decision fillBar with
          | none => return s
          | some position => return { s with position := some position }

/-- The loop of `_replay_symbol` over entry bars that are followed by others; the clock is read at each. -/
def ReplayRules.replayBars (view : HistoricalMarketDataView) (pipeline : Pipeline) (symbol entryTimeframe : String)
    (startAt : ℤ) (endAt : Option ℤ) (clock : ℕ → ℤ) (later : List OHLCVBar) :
    ℕ → List OHLCVBar → ReplayState Position Trade → Except PyError (ReplayState Position Trade)
  | _, [], s => .ok s
  | index, bar :: bars, s => do
    let s ← rules.replayBar view pipeline symbol entryTimeframe startAt endAt (clock index) s bar (bars ++ later)
    ReplayRules.replayBars view pipeline symbol entryTimeframe startAt endAt clock later (index + 1) bars s

/-- `_replay_symbol`: the trades and the number of signals. -/
def ReplayRules.replaySymbol (view : HistoricalMarketDataView) (pipeline : Pipeline) (symbol entryTimeframe : String)
    (startAt : ℤ) (endAt : Option ℤ) (clock : ℕ → ℤ) : Except PyError (List Trade × ℕ) := do
  let bars := view.bars symbol entryTimeframe
  let s ← rules.replayBars view pipeline symbol entryTimeframe startAt endAt clock [] 0 bars {}
  match s.position, (bars.filter (inWindow startAt endAt)).getLast? with
  | some position, some latest => return (s.trades ++ rules.closeAtEnd position latest, s.signalCount)
  | _, _ => return (s.trades, s.signalCount)

end

end TradingPlatform
