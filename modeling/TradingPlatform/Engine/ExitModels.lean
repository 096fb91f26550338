import TradingPlatform.Engine.TechnicalReplay
import TradingPlatform.Engine.SignalEnsemble

/-!
# Exit models of the strategy families

`strategy_library/exit/models.py`: each family has a model that places the stop and two targets of an entry. A frame is a list of
bars, oldest first; the prices and the average true range are exact. The plan of a model is given for any value of the average
true range, and `generateExitPlan` puts in the one of the frame.
-/

namespace TradingPlatform

/-- `ExitPlan`. -/
structure ExitPlan where
  initialStop : ℚ
  target1 : Option ℚ
  target2 : Option ℚ
  timeExitBars : ℕ
  trailingActivationR : Option ℚ
  exitReason : String
  deriving DecidableEq

/-! ## Readings of a frame -/

/-- The true ranges of a frame. The first bar has no close before it, and the maximum passes over what is missing. -/
def frameTrueRanges : Option ℚ → List OHLCVBar → List ℚ
  | _, [] => []
  | none, bar :: rest => (bar.high - bar.low) :: frameTrueRanges (some bar.close) rest
  | some previousClose, bar :: rest =>
    max (max (bar.high - bar.low) |bar.high - previousClose|) |bar.low - previousClose| ::
      frameTrueRanges (some bar.close) rest

/-- `ewm(span=span, adjust=False).mean()`, its last value. -/
def ewmMeanLast (span : ℕ) : List ℚ → Option ℚ
  | [] => none
  | x :: rest =>
    let alpha : ℚ := 2 / (span + 1)
    some (rest.foldl (fun mean value => (1 - alpha) * mean + alpha * value) x)

/-- `_calculate_atr`, its last value. -/
def calculateAtr (atrPeriod : ℕ) (frame : List OHLCVBar) : Option ℚ := ewmMeanLast atrPeriod (frameTrueRanges none frame)

/-- `iloc[-20:-1]`. -/
def structureBars (frame : List OHLCVBar) : List OHLCVBar := (frame.drop (frame.length - 20)).dropLast

/-- `frame["low"].iloc[-20:-1].min()`. -/
def structureLow (frame : List OHLCVBar) : ℚ := ((structureBars frame).map (·.low)).min?.getD 0

/-- `frame["high"].iloc[-20:-1].max()`. -/
def structureHigh (frame : List OHLCVBar) : ℚ := ((structureBars frame).map (·.high)).max?.getD 0

/-- `frame["close"].iloc[-lookback_period:].mean()`. -/
def recentMean (lookbackPeriod : ℕ) (frame : List OHLCVBar) : ℚ :=
  let closes := (frame.drop (frame.length - lookbackPeriod)).map (·.close)
  closes.sum / closes.length

/-! ## Models -/

/-- The parameters of a model whose targets are multiples of its stop distance. -/
structure MultipleParams where
  atrPeriod : ℕ := 14
  stopAtrMultiple : ℚ
  target1R : ℚ
  target2R : ℚ
  timeExitBars : ℕ

/-- The stop distance: a share of the entry price while the frame is short. -/
def MultipleParams.stopDistance (m : MultipleParams) (share atr : ℚ) (frame : List OHLCVBar) (entryPrice : ℚ) : ℚ :=
  if frame.length < m.atrPeriod + 2 then entryPrice * share else atr * m.stopAtrMultiple

/-- The common plan of `TrendPullbackExit` and `MomentumContinuationExit`. -/
def MultipleParams.plan (m : MultipleParams) (share : ℚ) (exitReason : String) (atr : ℚ) (frame : List OHLCVBar)
    (side : Direction) (entryPrice : ℚ) : ExitPlan :=
  let stopDistance := m.stopDistance share atr frame entryPrice
  { initialStop := match side with
      | .long => entryPrice - stopDistance
      | .short => entryPrice + stopDistance
    target1 := match side with
      | .long => some (entryPrice + stopDistance * m.target1R)
      | .short => some (entryPrice - stopDistance * m.target1R)
    target2 := match side with
      | .long => some (entryPrice + stopDistance * m.target2R)
      | .short => some (entryPrice - stopDistance * m.target2R)
    timeExitBars := m.timeExitBars
    trailingActivationR := some m.target1R
    exitReason }

/-- `TrendPullbackExit()`. -/
def trendPullbackExit : MultipleParams :=
  { stopAtrMultiple := 2, target1R := 15 / 10, target2R := 25 / 10, timeExitBars := 24 }

/-- `TrendPullbackExit.generate_exit_plan`. -/
def MultipleParams.trendPullbackPlan (m : MultipleParams) : ℚ → List OHLCVBar → Direction → ℚ → ExitPlan :=
  m.plan (2 / 100) "trend_pullback_exit"

/-- `MomentumContinuationExit()`. -/
def momentumContinuationExit : MultipleParams :=
  { stopAtrMultiple := 18 / 10, target1R := 18 / 10, target2R := 3, timeExitBars := 20 }

/-- `MomentumContinuationExit.generate_exit_plan`. -/
def MultipleParams.momentumContinuationPlan (m : MultipleParams) : ℚ → List OHLCVBar → Direction → ℚ → ExitPlan :=
  m.plan (18 / 1000) "momentum_continuation_exit"

/-- `BreakoutExit()`. -/
def breakoutExit : MultipleParams :=
  { stopAtrMultiple := 15 / 10, target1R := 2, target2R := 3, timeExitBars := 16 }

/-- The stop of `BreakoutExit`: no farther than the structure of the last bars, when there are enough of them. -/
def MultipleParams.breakoutStop (m : MultipleParams) (atr : ℚ) (frame : List OHLCVBar) (side : Direction) (entryPrice : ℚ) : ℚ :=
  let stopDistance := m.stopDistance (15 / 1000) atr frame entryPrice
  match side with
  | .long =>
    if 20 ≤ frame.length then max (structureLow frame) (entryPrice - stopDistance) else entryPrice - stopDistance
  | .short =>
    if 20 ≤ frame.length then min (structureHigh frame) (entryPrice + stopDistance) else entryPrice + stopDistance

/-- `BreakoutExit.generate_exit_plan`. -/
def MultipleParams.breakoutPlan (m : MultipleParams) (atr : ℚ) (frame : List OHLCVBar) (side : Direction) (entryPrice : ℚ) :
    ExitPlan :=
  let initialStop := m.breakoutStop atr frame side entryPrice
  { initialStop
    target1 := match side with
      | .long => some (entryPrice + (entryPrice - initialStop) * m.target1R)
      | .short => some (entryPrice - (initialStop - entryPrice) * m.target1R)
    target2 := match side with
      | .long => some (entryPrice + (entryPrice - initialStop) * m.target2R)
      | .short => some (entryPrice - (initialStop - entryPrice) * m.target2R)
    timeExitBars := m.timeExitBars
    trailingActivationR := some m.target1R
    exitReason := "breakout_exit" }

/-- `RangeMeanReversionExit`. -/
structure RangeMeanReversionExit where
  lookbackPeriod : ℕ := 20
  atrPeriod : ℕ := 14
  stopAtrMultiple : ℚ := 15 / 10
  timeExitBars : ℕ := 12

/-- The distance of the stop and the middle of the range, which is the entry price itself while the frame is short. -/
def RangeMeanReversionExit.levels (m : RangeMeanReversionExit) (atr : ℚ) (frame : List OHLCVBar) (entryPrice : ℚ) : ℚ × ℚ :=
  if frame.length < max m.lookbackPeriod m.atrPeriod + 2 then (entryPrice * (2 / 100), entryPrice)
  else (atr * m.stopAtrMultiple, recentMean m.lookbackPeriod frame)

/-- `RangeMeanReversionExit.generate_exit_plan`. -/
def RangeMeanReversionExit.plan (m : RangeMeanReversionExit) (atr : ℚ) (frame : List OHLCVBar) (side : Direction)
    (entryPrice : ℚ) : ExitPlan :=
  let (stopDistance, mid) := m.levels atr frame entryPrice
  { initialStop := match side with
      | .long => entryPrice - stopDistance
      | .short => entryPrice + stopDistance
    target1 := some mid
    target2 := match side with
      | .long => some (mid + (mid - entryPrice))
      | .short => some (mid - (entryPrice - mid))
    timeExitBars := m.timeExitBars
    trailingActivationR := none
    exitReason := "range_mean_reversion_exit" }

/-! ## The model of a family -/

/-- The subclasses of `ExitModel`. -/
inductive ExitModel where
  | trendPullback (m : MultipleParams)
  | breakout (m : MultipleParams)
  | rangeMeanReversion (m : RangeMeanReversionExit)
  | momentumContinuation (m : MultipleParams)

/-- The plan of a model for a value of the average true range. -/
def ExitModel.planAt : ExitModel → (atr : ℚ) → (frame : List OHLCVBar) → (side : Direction) → (entryPrice : ℚ) → ExitPlan
  | .trendPullback m => m.trendPullbackPlan
  | .breakout m => m.breakoutPlan
  | .rangeMeanReversion m => m.plan
  | .momentumContinuation m => m.momentumContinuationPlan

/-- The period of the average true range. -/
def ExitModel.atrPeriod : ExitModel → ℕ
  | .trendPullback m => m.atrPeriod
  | .breakout m => m.atrPeriod
  | .rangeMeanReversion m => m.atrPeriod
  | .momentumContinuation m => m.atrPeriod

/-- `generate_exit_plan`. A frame that is long enough for the average true range to be read has one. -/
def ExitModel.generateExitPlan (model : ExitModel) (frame : List OHLCVBar) (side : Direction) (entryPrice : ℚ) : ExitPlan :=
  model.planAt ((calculateAtr model.atrPeriod frame).getD 0) frame side entryPrice

/-- `get_exit_model`. -/
def getExitModel : StrategyFamily → ExitModel
  | .trendPullback => .trendPullback trendPullbackExit
  | .breakout => .breakout breakoutExit
  | .rangeMeanReversion => .rangeMeanReversion {}
  | .momentumContinuation => .momentumContinuation momentumContinuationExit
  | .unknown => .breakout breakoutExit

end TradingPlatform
