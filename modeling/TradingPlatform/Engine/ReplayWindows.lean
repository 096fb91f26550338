import TradingPlatform.Domain.Clock
import TradingPlatform.Engine.ReplayPosition
import TradingPlatform.Lib.Calendar

/-!
# Windows of a replay

The periods a technical replay is judged on, and the windows a proposal replay is cut into.
-/

namespace TradingPlatform

/-!
## Validation windows of the technical replay

The metrics of `validation/technical_replay.py` over the trades of a period, the split into a training and an out-of-sample period,
and the walk-forward windows. The sum of the returns as floats and the ratio of Sharpe are parameters; the rest of the arithmetic is
exact.
-/

/-- `ReplayMetrics`. -/
structure ReplayMetrics where
  strategyKey : String
  entryTimeframe : String
  totalTrades : ℕ
  signalCount : ℕ
  winRate : ℚ
  averageWin : ℚ
  averageLoss : ℚ
  averageR : ℚ
  averageHoldHours : ℚ
  ladderLevelHits : List (ReplayExitReason × ℕ)
  grossReturn : ℚ
  netReturn : ℚ
  netExpectancy : ℚ
  totalFeeBps : ℚ
  totalSlippageBps : ℚ
  costShareOfGrossProfit : Option ℚ
  sharpe : ℚ
  profitFactor : ℚ
  maxDrawdown : ℚ
  evaluationStart : Option ℤ
  evaluationEnd : Option ℤ
  dataIssues : List String
  trades : List ReplayTrade
  exitMode : ExitMode

/-- The settings of `TechnicalStrategyValidationService`, `annualized_sharpe` of returns at so many periods a year, and `sum` of
floats. -/
structure ValidationService where
  oosFraction : ℚ := 3 / 10
  walkForwardWindows : ℤ := 3
  exitMode : ExitMode := .fixed2r
  annualizedSharpe : List ℚ → ℚ → ℚ
  floatSum : List ℚ → ℚ

/-- `mean(values) if values else 0.0`. -/
def meanOrZero (values : List ℚ) : ℚ := if values = [] then 0 else values.sum / values.length

/-- The gains and the losses of a list. -/
def positives (values : List ℚ) : List ℚ := values.filter fun v => decide (0 < v)
def negatives (values : List ℚ) : List ℚ := values.filter fun v => decide (v < 0)

/-- `win_rate`. -/
def winRate (pnls : List ℚ) : ℚ := if pnls = [] then 0 else (positives pnls).length / pnls.length

/-- `profit_factor`. -/
def profitFactor (pnls : List ℚ) : ℚ :=
  if negatives pnls = [] then if positives pnls = [] then 0 else 999 / 100
  else (positives pnls).sum / |(negatives pnls).sum|

/-- `max_drawdown_from_pnls` of an initial equity of one. -/
def maxDrawdownFromPnls (pnls : List ℚ) : ℚ :=
  (pnls.foldl (fun (equity, peak, drawdown) pnl =>
    let equity := equity + pnl
    let peak := if peak < equity then equity else peak
    (equity, peak, max drawdown (if 0 < peak then (peak - equity) / peak else 0))) (1, 1, 0)).2.2

/-- The order of `closed_at`. -/
def ReplayTrade.closesBefore (a b : ReplayTrade) : Prop := a.closedAt ≤ b.closedAt

instance : DecidableRel ReplayTrade.closesBefore := fun a b => inferInstanceAs (Decidable (a.closedAt ≤ b.closedAt))

/-- The number of trades a year, by the time between the first and the last close. -/
def periodsPerYear (ordered : List ReplayTrade) : ℚ :=
  match ordered.head?, ordered.getLast? with
  | some first, some last =>
    if ordered.length < 2 then 1
    else
      let spanYears := totalSeconds (last.closedAt - first.closedAt) / (1461 / 4 * 86400)
      if 0 < spanYears then max 1 (ordered.length / spanYears) else ordered.length
  | _, _ => 1

/-- `ladder_hits`: how often each level filled. -/
def ladderHits (ordered : List ReplayTrade) : List (ReplayExitReason × ℕ) :=
  let reasons := (ordered.map (·.exitReason)).filter fun r => match r with
    | .exitLadder _ => true
    | _ => false
  reasons.eraseDups.map fun r => (r, reasons.count r)

namespace ValidationService

variable (svc : ValidationService)

/-- `_metrics`. -/
def metrics (strategyKey : String) (trades : List ReplayTrade) (signalCount : ℕ) (issues : List String)
    (evaluationStart evaluationEnd : Option ℤ) (entryTimeframe : String) : ReplayMetrics :=
  let ordered := trades.insertionSort ReplayTrade.closesBefore
  let netReturns := ordered.map (·.netReturn)
  let grossReturns := ordered.map (·.grossReturn)
  let grossProfit := (positives grossReturns).sum
  let totalCost := (ordered.map fun t => (t.feeBps + t.slippageBps) / 10000).sum
  { strategyKey := strategyKey
    entryTimeframe := entryTimeframe
    totalTrades := ordered.length
    signalCount := signalCount
    winRate := winRate netReturns
    averageWin := meanOrZero (positives netReturns)
    averageLoss := meanOrZero (negatives netReturns)
    averageR := meanOrZero (ordered.map (·.rMultiple))
    averageHoldHours := meanOrZero (ordered.map fun t => max 0 (totalSeconds (t.closedAt - t.openedAt) / 3600))
    ladderLevelHits := ladderHits ordered
    grossReturn := svc.floatSum grossReturns
    netReturn := svc.floatSum netReturns
    netExpectancy := meanOrZero netReturns
    totalFeeBps := (ordered.map (·.feeBps)).sum
    totalSlippageBps := (ordered.map (·.slippageBps)).sum
    costShareOfGrossProfit := if 0 < grossProfit then some (totalCost / grossProfit) else none
    sharpe := svc.annualizedSharpe netReturns (periodsPerYear ordered)
    profitFactor := profitFactor netReturns
    maxDrawdown := maxDrawdownFromPnls netReturns
    evaluationStart := evaluationStart
    evaluationEnd := evaluationEnd
    dataIssues := issues
    trades := ordered
    exitMode := svc.exitMode }

/-- `_metrics_for_period`: both ends belong to the period. -/
def metricsForPeriod (m : ReplayMetrics) (startAt endAt : ℤ) : ReplayMetrics :=
  svc.metrics m.strategyKey (m.trades.filter fun t => decide (startAt ≤ t.closedAt) && decide (t.closedAt ≤ endAt))
    (m.trades.countP fun t => decide (startAt ≤ t.openedAt) && decide (t.openedAt ≤ endAt)) m.dataIssues (some startAt)
    (some endAt) m.entryTimeframe

/-- `_split_at`. -/
def splitAt (startAt endAt : ℤ) : ℤ := startAt + timedeltaMul (endAt - startAt) (1 - svc.oosFraction)

/-- `WalkForwardWindow`. -/
structure WalkForwardWindow where
  windowId : String
  startAt : ℤ
  endAt : ℤ
  baseline : ReplayMetrics
  candidate : ReplayMetrics

/-- The width of the walk-forward windows. -/
def windowWidth (startAt endAt : ℤ) : ℤ := timedeltaDiv (endAt - startAt) svc.walkForwardWindows

/-- The start and the end of a window; the last one ends with the period. -/
def windowPeriod (startAt endAt : ℤ) (index : ℕ) : ℤ × ℤ :=
  let width := svc.windowWidth startAt endAt
  (startAt + width * index, if (index : ℤ) = svc.walkForwardWindows - 1 then endAt else startAt + width * (index + 1))

/-- `_walk_forward`. -/
def walkForward (baseline candidate : ReplayMetrics) (startAt endAt : ℤ) : List WalkForwardWindow :=
  if svc.walkForwardWindows ≤ 0 ∨ endAt ≤ startAt then []
  else (List.range svc.walkForwardWindows.toNat).map fun index =>
    let (windowStart, windowEnd) := svc.windowPeriod startAt endAt index
    { windowId := "wf_" ++ toString (index + 1)
      startAt := windowStart
      endAt := windowEnd
      baseline := svc.metricsForPeriod baseline windowStart windowEnd
      candidate := svc.metricsForPeriod candidate windowStart windowEnd }

/-- The periods of `compare`: training up to the split, out of sample from it on. -/
structure Comparison where
  train : ReplayMetrics
  oos : ReplayMetrics

/-- The metrics of one result in `compare`. -/
def compareResult (m : ReplayMetrics) (sharedStart sharedEnd : ℤ) : Comparison :=
  let splitAt := svc.splitAt sharedStart sharedEnd
  { train := svc.metricsForPeriod m sharedStart splitAt, oos := svc.metricsForPeriod m splitAt sharedEnd }

end ValidationService

/-!
## Walk-forward windows of proposals

`services/validation/proposal_walk_forward.py` cuts a development range into windows, and `_build_window_runs` of
`scripts/run_proposal_research_replay.py` replays a stream of decisions window by window.
-/

open Calendar

/-! ## Windows -/

/-- The exceptions of dates. -/
inductive DateError where
  | valueError (message : String)
  | overflowError (message : String)
  deriving DecidableEq, Repr

/-- A `datetime`: one without a zone, or one with a zone, by its fields in UTC. -/
inductive ZonedTime where
  | naive (local_ : CivilTime)
  | aware (utc : CivilTime)

/-- `_add_months`. -/
def addMonths (value : CivilTime) (months : ℤ) : Except DateError CivilTime :=
  match addMonths? value months with
  | some later => .ok later
  | none => .error (.valueError "year is out of range")

/-- The result of date arithmetic, between the first and the last instant that a `datetime` can have. -/
def checkedInstant (t : ℤ) : Except DateError ℤ :=
  if -719162 * day ≤ t ∧ t < 2932897 * day then .ok t else .error (.overflowError "date value out of range")

/-- The result of duration arithmetic. -/
def checkedDuration (d : ℤ) : Except DateError ℤ :=
  if -999999999 * day ≤ d ∧ d < 1000000000 * day then .ok d else .error (.overflowError "days; must have magnitude <= 999999999")

/-- `ProposalWalkForwardWindow`. -/
structure ProposalWalkForwardWindow where
  windowId : String
  trainStart : ℤ
  trainEnd : ℤ
  purgeStart : ℤ
  purgeEnd : ℤ
  oosStart : ℤ
  oosEnd : ℤ
  embargoStart : ℤ
  embargoEnd : ℤ
  deriving DecidableEq, Repr

/-- The arguments of `build_proposal_walk_forward_windows`. -/
structure WalkForwardArguments where
  developmentStart : ZonedTime
  developmentEnd : ZonedTime
  windowCount : ℤ := 8
  trainMonths : ℤ := 12
  oosMonths : ℤ := 3
  maxLookbackBars : ℤ := 72
  maxHoldingBars : ℤ := 8
  barInterval : ℤ := 15 * 60000000
  embargo : ℤ := 24 * 3600000000

/-- One turn of the loop over the windows. -/
def walkForwardWindow (args : WalkForwardArguments) (developmentStart developmentEnd firstOos : CivilTime) (purge : ℤ) (index : ℕ) :
    Except DateError ProposalWalkForwardWindow := do
  let oosStart ← addMonths firstOos (index * args.oosMonths)
  let complete ← addMonths oosStart args.oosMonths
  let oosEnd := min complete.instant developmentEnd.instant
  if oosEnd ≤ oosStart.instant then
    throw (.valueError "development range cannot provide eight complete OOS windows")
  let trainStart ← addMonths oosStart (-args.trainMonths)
  let purgeStart ← checkedInstant (oosStart.instant - purge)
  if trainStart.instant < developmentStart.instant ∨ purgeStart ≤ trainStart.instant then
    throw (.valueError "training range is shorter than the required purge boundary")
  if developmentEnd.instant < oosEnd then
    throw (.valueError "walk-forward window would read beyond development_end")
  let embargoEnd ← checkedInstant (oosEnd + args.embargo)
  return { windowId := "oos_" ++ toString (index + 1), trainStart := trainStart.instant, trainEnd := purgeStart, purgeStart,
           purgeEnd := oosStart.instant, oosStart := oosStart.instant, oosEnd, embargoStart := oosEnd, embargoEnd }

/-- `build_proposal_walk_forward_windows`. -/
def buildProposalWalkForwardWindows (args : WalkForwardArguments) : Except DateError (List ProposalWalkForwardWindow) :=
  match args.developmentStart, args.developmentEnd with
  | .aware developmentStart, .aware developmentEnd => do
    if args.windowCount ≠ 8 ∨ args.trainMonths ≠ 12 ∨ args.oosMonths ≠ 3 then
      throw (.valueError "Phase 1 requires eight 3-month OOS windows and 12-month training windows")
    if args.embargo < 24 * 3600000000 then
      throw (.valueError "embargo must be at least 24 hours")
    let purge ← checkedDuration (args.barInterval * (args.maxLookbackBars + args.maxHoldingBars))
    let firstOos ← addMonths developmentStart args.trainMonths
    (List.range args.windowCount.toNat).mapM (walkForwardWindow args developmentStart developmentEnd firstOos purge)
  | _, _ => throw (.valueError "walk-forward boundaries must be timezone-aware")

/-! ## Replay by window -/

/-- What the loop of `_build_window_runs` over the stream of a symbol holds: the windows from the cursor on, the pairs that are
pending, and the metrics of the windows that were flushed. -/
structure WindowCursor (Pair Metrics : Type) where
  cursor : ℕ
  remaining : List ProposalWalkForwardWindow
  pending : List Pair
  metricsByWindow : ℕ → Option Metrics

section WindowRuns

variable {m : Type → Type} [Monad m] {Pair Metrics : Type}

/-- `_flush`, and the cursor on the next window: the replay of a window may have any effect. -/
def flushWindow (replay : List Pair → m Metrics) (c : WindowCursor Pair Metrics) (rest : List ProposalWalkForwardWindow) :
    m (WindowCursor Pair Metrics) := do
  let metrics ← replay c.pending
  return { cursor := c.cursor + 1, remaining := rest, pending := [],
           metricsByWindow := Function.update c.metricsByWindow c.cursor (some metrics) }

/-- `while cursor < len(windows) and decision_time >= windows[cursor].oos_end`. -/
def flushEnded (replay : List Pair → m Metrics) (decisionTime : ℤ) :
    List ProposalWalkForwardWindow → WindowCursor Pair Metrics → m (WindowCursor Pair Metrics)
  | [], c => return c
  | window :: rest, c =>
    if window.oosEnd ≤ decisionTime then do
      let c ← flushWindow replay c rest
      flushEnded replay decisionTime rest c
    else return c

/-- The loop over the stream of pairs. -/
def bucketStream (replay : List Pair → m Metrics) (decisionTime : Pair → ℤ) (c : WindowCursor Pair Metrics) :
    List Pair → m (WindowCursor Pair Metrics)
  | [] => return c
  | pair :: pairs => do
    let c ← flushEnded replay (decisionTime pair) c.remaining c
    match c.remaining with
    | [] => return c
    | window :: _ =>
      bucketStream replay decisionTime
        (if window.oosStart ≤ decisionTime pair then { c with pending := c.pending ++ [pair] } else c) pairs

/-- `while cursor < len(windows)`, after the stream. -/
def flushRemaining (replay : List Pair → m Metrics) :
    List ProposalWalkForwardWindow → WindowCursor Pair Metrics → m (WindowCursor Pair Metrics)
  | [], c => return c
  | _ :: rest, c => do
    let c ← flushWindow replay c rest
    flushRemaining replay rest c

/-- The windows and the metrics that are read of them, from a number on. -/
def windowRuns (metricsByWindow : ℕ → Option Metrics) (start : ℕ) (windows : List ProposalWalkForwardWindow) :
    List (ProposalWalkForwardWindow × Option Metrics) :=
  (windows.zipIdx start).map fun (window, index) => (window, metricsByWindow index)

/-- `_build_window_runs`, for one symbol. A window without metrics would be a `KeyError`. -/
def buildWindowRuns (replay : List Pair → m Metrics) (decisionTime : Pair → ℤ) (windows : List ProposalWalkForwardWindow)
    (stream : List Pair) : m (List (ProposalWalkForwardWindow × Option Metrics)) := do
  let c ← bucketStream replay decisionTime
    { cursor := 0, remaining := windows, pending := [], metricsByWindow := fun _ => none } stream
  let c ← flushRemaining replay c.remaining c
  return windowRuns c.metricsByWindow 0 windows

end WindowRuns

end TradingPlatform
