import TradingPlatform.Engine.TechnicalReplay

/-!
# Market contexts

`strategy_library/context.py` builds the facts of a decision from the bars that have closed, `strategy_library/regime/scorer_v2.py`
scores them, and two readers choose the bars: the runtime (`evaluate_authorized_production_strategy`) and the research replay
(`run_proposal_research_replay.py`). Instants are whole seconds here.
-/

namespace TradingPlatform

/-! ## Windows -/

/-- A timeframe of `TIMEFRAME_DELTAS`. -/
inductive ContextTimeframe where
  | m1 | m5 | m15 | h1 | h4
  deriving DecidableEq, Repr

namespace ContextTimeframe

def value : ContextTimeframe → String
  | m1 => "1m"
  | m5 => "5m"
  | m15 => "15m"
  | h1 => "1h"
  | h4 => "4h"

/-- How long a bar takes. -/
def delta : ContextTimeframe → ℤ
  | m1 => 60
  | m5 => 5 * 60
  | m15 => 15 * 60
  | h1 => 60 * 60
  | h4 => 4 * 60 * 60

/-- The timeframes, in the order of the mapping. -/
def all : List ContextTimeframe := [m1, m5, m15, h1, h4]

end ContextTimeframe

/-- `BarWindow`. -/
structure BarWindow where
  timeframe : ContextTimeframe
  bars : List OHLCVBar
  lastClosedAt : Option ℤ
  expectedIntervalSeconds : ℤ
  gapCount : ℕ
  deriving DecidableEq

/-- The bars and their successors. -/
def successive (bars : List OHLCVBar) : List (OHLCVBar × OHLCVBar) := bars.zip bars.tail

/-- `_closed_window`. -/
def closedWindow (timeframe : ContextTimeframe) (bars : List OHLCVBar) (decisionTime : ℤ) : BarWindow :=
  let closed := (bars.filter (OHLCVBar.closedBy timeframe.delta decisionTime)).insertionSort OHLCVBar.opensBefore
  { timeframe, bars := closed, lastClosedAt := closed.getLast?.map fun b => b.timestamp + timeframe.delta,
    expectedIntervalSeconds := timeframe.delta,
    gapCount := (successive closed).countP fun (previous, current) =>
      decide (current.timestamp - previous.timestamp ≠ timeframe.delta) }

/-! ## Features -/

/-- `_return`: the return of the last bar over the one before. -/
def returnOf (window : BarWindow) : Option ℚ :=
  match window.bars.reverse with
  | last :: previous :: _ => if previous.close ≤ 0 then none else some (last.close / previous.close - 1)
  | _ => none

/-- `StructureFeatures`. -/
structure StructureFeatures where
  recentHigh : Option ℚ := none
  recentLow : Option ℚ := none
  higherHighs : ℕ := 0
  higherLows : ℕ := 0
  lowerHighs : ℕ := 0
  lowerLows : ℕ := 0
  deriving DecidableEq

/-- `_structure`. -/
def structureOf (window : BarWindow) : StructureFeatures :=
  let bars := window.bars.rtake 48
  { recentHigh := (bars.map (·.high)).max?, recentLow := (bars.map (·.low)).min?,
    higherHighs := (successive bars).countP fun (previous, current) => decide (previous.high < current.high),
    higherLows := (successive bars).countP fun (previous, current) => decide (previous.low < current.low),
    lowerHighs := (successive bars).countP fun (previous, current) => decide (current.high < previous.high),
    lowerLows := (successive bars).countP fun (previous, current) => decide (current.low < previous.low) }

/-- `MomentumFeatures`. -/
@[ext]
structure MomentumFeatures where
  return15m : Option ℚ
  return1h : Option ℚ
  return4h : Option ℚ
  deriving DecidableEq

/-- `VolumeFeatures`. -/
structure VolumeFeatures where
  latestVolume : Option ℚ := none
  meanVolume20 : Option ℚ := none
  volumeRatio : Option ℚ := none
  deriving DecidableEq

/-- `_volume`. -/
def volumeOf (window : BarWindow) : VolumeFeatures :=
  match window.bars.getLast? with
  | none => {}
  | some last =>
    let sample := window.bars.rtake 20
    let meanVolume := (sample.map (·.volume)).sum / sample.length
    { latestVolume := some last.volume, meanVolume20 := some meanVolume,
      volumeRatio := if 0 < meanVolume then some (last.volume / meanVolume) else none }

/-- The true ranges of bars, each over the close before it; the first bar without one is taken over its own open. -/
def trueRangesFrom : Option ℚ → List OHLCVBar → List ℚ
  | _, [] => []
  | previousClose, bar :: rest =>
    let reference := previousClose.getD bar.openPrice
    max (bar.high - bar.low) (max |bar.high - reference| |bar.low - reference|) :: trueRangesFrom (some bar.close) rest

/-- `_true_ranges`. -/
def trueRanges (bars : List OHLCVBar) : List ℚ := trueRangesFrom none bars

/-- `VolatilityFeatures`. -/
structure VolatilityFeatures where
  trueRange : Option ℚ := none
  atr14 : Option ℚ := none
  rangeAtrRatio : Option ℚ := none
  deriving DecidableEq

/-- `_volatility`. -/
def volatilityOf (window : BarWindow) : VolatilityFeatures :=
  match window.bars with
  | [] => {}
  | _ :: _ =>
    let ranges := trueRanges (window.bars.rtake 15)
    let atr := (ranges.rtake 14).sum / (min 14 ranges.length : ℕ)
    let recent := window.bars.rtake 20
    let priceRange := (recent.map (·.high)).max?.getD 0 - (recent.map (·.low)).min?.getD 0
    { trueRange := ranges.getLast?, atr14 := some atr,
      rangeAtrRatio := if 0 < atr then some (priceRange / atr) else none }

/-- `MarketExtras`. -/
structure MarketExtras where
  timestamp : ℤ
  fundingRate : Option ℚ := none
  openInterest : Option ℚ := none
  longRatio : Option ℚ := none
  shortRatio : Option ℚ := none
  liquidationUsd : Option ℚ := none
  deriving DecidableEq

/-- The order of market extras. -/
def MarketExtras.seenBefore (a b : MarketExtras) : Prop := a.timestamp ≤ b.timestamp

instance : DecidableRel MarketExtras.seenBefore := fun a b => inferInstanceAs (Decidable (a.timestamp ≤ b.timestamp))

/-- `DerivativesFeatures`. -/
structure DerivativesFeatures where
  fundingRate : Option ℚ
  openInterest : Option ℚ
  longRatio : Option ℚ
  shortRatio : Option ℚ
  liquidationUsd : Option ℚ
  observedAt : Option ℤ
  deriving DecidableEq

/-- The derivatives of the latest extras. -/
def derivativesOf (extras : List MarketExtras) (decisionTime : ℤ) : DerivativesFeatures :=
  let latest := ((extras.filter fun e => decide (e.timestamp ≤ decisionTime)).insertionSort MarketExtras.seenBefore).getLast?
  { fundingRate := latest.bind (·.fundingRate), openInterest := latest.bind (·.openInterest),
    longRatio := latest.bind (·.longRatio), shortRatio := latest.bind (·.shortRatio),
    liquidationUsd := latest.bind (·.liquidationUsd), observedAt := latest.map (·.timestamp) }

/-- `SessionFeatures`. -/
structure SessionFeatures where
  utcHour : ℤ
  utcWeekday : ℤ
  deriving DecidableEq

/-- The hour and the weekday of an instant; the first day of the epoch is a Thursday. -/
def sessionOf (decisionTime : ℤ) : SessionFeatures :=
  { utcHour := decisionTime / 3600 % 24, utcWeekday := (decisionTime / 86400 + 3) % 7 }

/-- `DataFreshness`. -/
structure DataFreshness where
  ageSeconds : List (ContextTimeframe × Option ℤ)
  staleTimeframes : List ContextTimeframe
  hasGaps : Bool
  deriving DecidableEq

/-- How long ago the last bar of a window closed. -/
def BarWindow.age (window : BarWindow) (decisionTime : ℤ) : Option ℤ :=
  window.lastClosedAt.map fun closedAt => max 0 (decisionTime - closedAt)

/-- A window is stale if it has no bar, or its last bar closed longer ago than a bar takes. -/
def BarWindow.isStale (window : BarWindow) (decisionTime : ℤ) : Bool :=
  (window.age decisionTime).all fun age => decide (window.timeframe.delta < age)

/-! ## The context -/

/-- `MarketContext`. -/
structure MarketContext where
  symbol : String
  decisionTime : ℤ
  /-- `bars_1m` to `bars_4h`. -/
  window : ContextTimeframe → BarWindow
  structural : StructureFeatures
  momentum : MomentumFeatures
  volume : VolumeFeatures
  volatility : VolatilityFeatures
  derivatives : DerivativesFeatures
  session : SessionFeatures
  freshness : DataFreshness
  sourceIds : List String
  missingFeatures : List String

/-- The features that are missing. -/
def missingOf (window : ContextTimeframe → BarWindow) (derivatives : DerivativesFeatures) : List String :=
  ((ContextTimeframe.all.filter fun timeframe => decide ((window timeframe).bars = [])).map fun timeframe =>
      "bars_" ++ timeframe.value ++ ":missing") ++
    (if derivatives.fundingRate = none then ["funding_rate:missing"] else []) ++
    (if derivatives.openInterest = none then ["open_interest:missing"] else [])

/-- `MarketContextBuilder.build`. -/
def buildContext (symbol : String) (decisionTime : ℤ) (barsByTimeframe : ContextTimeframe → List OHLCVBar)
    (marketExtras : List MarketExtras) (sourceIds : List String) : MarketContext :=
  let window timeframe := closedWindow timeframe (barsByTimeframe timeframe) decisionTime
  let derivatives := derivativesOf marketExtras decisionTime
  { symbol, decisionTime, window, structural := structureOf (window .m15),
    momentum := { return15m := returnOf (window .m15), return1h := returnOf (window .h1), return4h := returnOf (window .h4) },
    volume := volumeOf (window .m15), volatility := volatilityOf (window .m15), derivatives,
    session := sessionOf decisionTime,
    freshness :=
      { ageSeconds := ContextTimeframe.all.map fun timeframe => (timeframe, (window timeframe).age decisionTime),
        staleTimeframes := ContextTimeframe.all.filter fun timeframe => (window timeframe).isStale decisionTime,
        hasGaps := ContextTimeframe.all.any fun timeframe => decide (0 < (window timeframe).gapCount) },
    sourceIds := sourceIds.eraseDups, missingFeatures := missingOf window derivatives }

/-! ## The regime score -/

/-- `_clamp`, between zero and one. -/
def clampUnit (value : ℚ) : ℚ := max 0 (min 1 value)

/-- `_direction`: the return over the window in units of three per cent, between minus one and one. -/
def directionOf (window : BarWindow) : ℚ :=
  match window.bars.head?, window.bars.getLast? with
  | some first, some last =>
    if window.bars.length < 2 then 0
    else if first.close ≤ 0 then 0
    else max (-1) (min 1 ((last.close - first.close) / first.close / (3 / 100)))
  | _, _ => 0

/-- Compression, expansion and shock of true ranges: the last five over the fifteen before. -/
def scoresOfRanges (ranges : List ℚ) : ℚ × ℚ × ℚ :=
  if ranges.length < 10 then (0, 0, 0)
  else
    let recent := (ranges.rtake 5).sum / 5
    -- `ranges[-20:-5] or ranges[:-5]`: of ten ranges or more the first is never empty
    let sample := (ranges.rdrop 5).rtake 15
    let baseline := sample.sum / sample.length
    if baseline ≤ 0 then (0, 0, 0)
    else
      let ratio := recent / baseline
      (clampUnit ((1 - ratio) / (1 / 2)), clampUnit (ratio - 1),
        clampUnit ((ranges.getLast?.getD 0 / baseline - 2) / 2))

/-- `_volatility_scores`. -/
def volatilityScores (window : BarWindow) : ℚ × ℚ × ℚ := scoresOfRanges (trueRanges window.bars)

/-- The evidence of a score. -/
structure RegimeEvidence where
  direction15m : ℚ
  direction1h : ℚ
  direction4h : ℚ
  missingTimeframeFraction : ℚ
  staleTimeframeFraction : ℚ
  gapPenalty : ℚ
  volatilityShock : ℚ
  deriving DecidableEq

/-- `RegimeScore`. -/
structure RegimeScore where
  trendUp : ℚ
  trendDown : ℚ
  range : ℚ
  compression : ℚ
  expansion : ℚ
  unstable : ℚ
  evidence : RegimeEvidence
  deriving DecidableEq

/-- `DIRECTION_WEIGHTS`. -/
def weighted (direction15m direction1h direction4h : ℚ) : ℚ :=
  1 / 5 * max 0 direction15m + 7 / 20 * max 0 direction1h + 9 / 20 * max 0 direction4h

/-- `RegimeScorerV2.score`. -/
def regimeScore (context : MarketContext) : RegimeScore :=
  let direction15m := directionOf (context.window .m15)
  let direction1h := directionOf (context.window .h1)
  let direction4h := directionOf (context.window .h4)
  let trendUp := weighted direction15m direction1h direction4h
  let trendDown := weighted (-direction15m) (-direction1h) (-direction4h)
  let (compression, expansion, shock) := volatilityScores (context.window .m15)
  let missingFraction : ℚ := (ContextTimeframe.all.countP fun timeframe =>
    decide (("bars_" ++ timeframe.value ++ ":missing") ∈ context.missingFeatures) : ℕ) / 5
  let staleFraction : ℚ := (context.freshness.staleTimeframes.length : ℕ) / 5
  let gapPenalty : ℚ := if context.freshness.hasGaps then 1 else 0
  let dominantTrend := max (clampUnit trendUp) (clampUnit trendDown)
  { trendUp := clampUnit trendUp, trendDown := clampUnit trendDown,
    range := clampUnit ((1 - dominantTrend) * (1 - expansion * (1 / 2))), compression, expansion,
    unstable := clampUnit (missingFraction * (3 / 5) + staleFraction * (1 / 4) + gapPenalty * (1 / 4) + shock * (7 / 20)),
    evidence :=
      { direction15m, direction1h, direction4h, missingTimeframeFraction := missingFraction,
        staleTimeframeFraction := staleFraction, gapPenalty, volatilityShock := shock } }

/-! ## The stored history and its readers -/

/-- The bars and the extras that are stored of a symbol, in the order of their instants. The bars of a timeframe do not overlap. -/
structure MarketHistory where
  bars : ContextTimeframe → List OHLCVBar
  extras : List MarketExtras
  apart : ∀ timeframe, (bars timeframe).Pairwise fun a b => a.timestamp + timeframe.delta ≤ b.timestamp
  rising : extras.Pairwise fun a b => a.timestamp < b.timestamp

/-- A bar whose stored numbers are decoded. -/
def OHLCVBar.decoded (decode : ℚ → ℚ) (b : OHLCVBar) : OHLCVBar :=
  { b with openPrice := decode b.openPrice, high := decode b.high, low := decode b.low, close := decode b.close,
           volume := decode b.volume }

/-- What is stored, as a reader decodes the numbers: the runtime reads them through SQLAlchemy, the research as floats. -/
def MarketHistory.decoded (decode : ℚ → ℚ) (h : MarketHistory) : MarketHistory where
  bars timeframe := (h.bars timeframe).map (OHLCVBar.decoded decode)
  extras := h.extras.map fun e => { e with fundingRate := e.fundingRate.map decode }
  apart timeframe := List.pairwise_map.mpr (h.apart timeframe)
  rising := List.pairwise_map.mpr h.rising

/-- What is stored at an instant: the bars that have opened and the extras that were observed. -/
def MarketHistory.upTo (h : MarketHistory) (t : ℤ) : MarketHistory where
  bars timeframe := (h.bars timeframe).filter (OHLCVBar.openedBy t)
  extras := h.extras.filter fun e => decide (e.timestamp ≤ t)
  apart timeframe := (h.apart timeframe).sublist List.filter_sublist
  rising := h.rising.sublist List.filter_sublist

/-- `MarketDataRepository.list_ohlcv_bars` with a limit: the latest bars. -/
def MarketHistory.listOhlcvBars (h : MarketHistory) (timeframe : ContextTimeframe) (limit : ℕ) : List OHLCVBar :=
  (h.bars timeframe).rtake limit

/-- The context of `evaluate_authorized_production_strategy`: the latest 80 stored bars of each timeframe, and no extras. -/
def runtimeContext (symbol : String) (h : MarketHistory) (now : ℤ) : MarketContext :=
  buildContext symbol now (h.listOhlcvBars · 80) [] []

/-- What the research replay is limited to. -/
structure ResearchRange where
  warmupStart : ℤ
  endAt : ℤ
  evaluationStart : ℤ
  evaluationEnd : ℤ

/-- `_load_series`. -/
def MarketHistory.loadSeries (h : MarketHistory) (r : ResearchRange) (timeframe : ContextTimeframe) : List OHLCVBar :=
  (h.bars timeframe).filter fun b => decide (r.warmupStart ≤ b.timestamp ∧ b.timestamp < r.endAt)

/-- `_load_funding_series`: the instants and rates that are stored. -/
def MarketHistory.loadFundingSeries (h : MarketHistory) (r : ResearchRange) : List (ℤ × ℚ) :=
  (h.extras.filter fun e => decide (r.warmupStart ≤ e.timestamp ∧ e.timestamp < r.endAt)).filterMap fun e =>
    e.fundingRate.map fun rate => (e.timestamp, rate)

/-- `WINDOW_LENGTHS`. -/
def windowLength : ContextTimeframe → ℕ
  | .m1 | .m5 => 2
  | .m15 | .h1 | .h4 => 80

/-- `RawSeries.window`. -/
def rawWindow (series : List OHLCVBar) (timeframe : ContextTimeframe) (decisionAt : ℤ) (count : ℕ) : List OHLCVBar :=
  let stop := bisectRight (series.map OHLCVBar.timestamp) (decisionAt - timeframe.delta)
  (series.take stop).drop (stop - count)

/-- `RawFundingSeries.latest`. -/
def latestFunding (funding : List (ℤ × ℚ)) (decisionAt : ℤ) : Option MarketExtras :=
  match bisectRight (funding.map Prod.fst) decisionAt with
  | 0 => none
  | index + 1 => funding[index]?.map fun (observedAt, rate) => { timestamp := observedAt, fundingRate := some rate }

/-- One turn of `_contexts_and_next_bars`. -/
def contextAndNextBar (symbol : String) (h : MarketHistory) (r : ResearchRange) (signalBar nextBar : OHLCVBar) :
    Option (MarketContext × OHLCVBar) :=
  let decisionAt := signalBar.timestamp + 15 * 60
  let windows timeframe := rawWindow (h.loadSeries r timeframe) timeframe decisionAt (windowLength timeframe)
  if decisionAt < r.evaluationStart ∨ r.evaluationEnd ≤ nextBar.timestamp then none
  else if ContextTimeframe.all.any fun timeframe => decide ((windows timeframe).length < windowLength timeframe) then none
  else some (buildContext symbol decisionAt windows (latestFunding (h.loadFundingSeries r) decisionAt).toList
    ["binance_vision_ohlcv"], nextBar)

/-- `_contexts_and_next_bars`. -/
def contextsAndNextBars (symbol : String) (h : MarketHistory) (r : ResearchRange) : List (MarketContext × OHLCVBar) :=
  let entry := h.loadSeries r .m15
  (List.range' (windowLength .m15) (entry.length - 1 - windowLength .m15)).filterMap fun index =>
    match entry[index]?, entry[index + 1]? with
    | some signalBar, some nextBar => contextAndNextBar symbol h r signalBar nextBar
    | _, _ => none

end TradingPlatform
