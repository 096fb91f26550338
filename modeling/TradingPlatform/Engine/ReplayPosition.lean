import TradingPlatform.Domain.Gain
import TradingPlatform.Engine.ExitLadder
import TradingPlatform.Engine.TechnicalReplay

/-!
# Positions of the technical replay

What `validation/technical_replay.py` does with an open position at a bar, with a fixed stop and target or with an exit ladder, and
the trades it emits. The arithmetic is exact; what a trade records in an arithmetic that rounds is `ReplayTrade.recordedIn`.
-/

namespace TradingPlatform

/-- `exit_mode`. -/
inductive ExitMode where
  | fixed2r | exitLadder
  deriving DecidableEq

/-- The reason of an exit; that of a level names its multiple. -/
inductive ReplayExitReason where
  | stoploss | takeprofit | exitLadder (rMultiple : ℚ) | endOfWindow
  deriving DecidableEq

/-- `ReplayTrade`. -/
structure ReplayTrade where
  symbol : String
  side : Direction
  openedAt : ℤ
  closedAt : ℤ
  entryPrice : ℚ
  exitPrice : ℚ
  stopPrice : ℚ
  takePrice : ℚ
  exitReason : ReplayExitReason
  grossReturn : ℚ
  netReturn : ℚ
  feeBps : ℚ
  slippageBps : ℚ
  rMultiple : ℚ
  quantityFraction : ℚ
  ladderR : Option ℚ
  maeR : ℚ
  mfeR : ℚ
  barsToMfe : ℕ
  barsHeld : ℕ
  deriving DecidableEq

/-- `_OpenPosition`. -/
structure OpenPosition where
  symbol : String
  side : Direction
  openedAt : ℤ
  entryPrice : ℚ
  stopPrice : ℚ
  takePrice : ℚ
  feeBps : ℚ
  slippageBps : ℚ
  originalStop : ℚ
  remainingFraction : ℚ := 1
  ladder : Option ExitLadderState := none
  trailAfterR : Option ℚ := none
  maeR : ℚ := 0
  mfeR : ℚ := 0
  barsToMfe : ℕ := 0
  barsHeld : ℕ := 0
  deriving DecidableEq

/-- The bar reaches a stop. -/
def stopReached (side : Direction) (stopPrice : ℚ) (bar : OHLCVBar) : Bool :=
  match side with
  | .long => decide (bar.low ≤ stopPrice)
  | .short => decide (stopPrice ≤ bar.high)

/-- The gross return and the R multiple that `_close` records of a trade, where every operation rounds its result. -/
def ReplayTrade.recordedIn (round : ℚ → ℚ) (t : ReplayTrade) : ℚ × ℚ :=
  let move := round (t.side.gain t.entryPrice t.exitPrice)
  let grossReturn := round (round (move / t.entryPrice) * t.quantityFraction)
  let initialRisk := round (round |t.entryPrice - t.stopPrice| / t.entryPrice)
  (grossReturn, if 0 < initialRisk ∧ 0 < t.quantityFraction then round (round (grossReturn / t.quantityFraction) / initialRisk) else 0)

namespace OpenPosition

/-- `_protective_exit`: the stop is tested first. -/
def protectiveExit (p : OpenPosition) (bar : OHLCVBar) : Option (ℚ × ReplayExitReason) :=
  match p.side with
  | .long =>
    if bar.low ≤ p.stopPrice then some (p.stopPrice, .stoploss)
    else if 0 < p.takePrice ∧ p.takePrice ≤ bar.high then some (p.takePrice, .takeprofit)
    else none
  | .short =>
    if p.stopPrice ≤ bar.high then some (p.stopPrice, .stoploss)
    else if 0 < p.takePrice ∧ bar.low ≤ p.takePrice then some (p.takePrice, .takeprofit)
    else none

/-- `_record_excursion`: on an exit bar the exit price stands for both extremes. -/
def recordExcursion (p : OpenPosition) (bar : OHLCVBar) (exit : Option (ℚ × ReplayExitReason) := none) : OpenPosition :=
  let risk := |p.entryPrice - p.originalStop|
  if risk ≤ 0 then p
  else
    let barsHeld := p.barsHeld + 1
    let (high, low) := match exit with
      | some (price, .stoploss) => (price, price)
      | some (price, .takeprofit) => (price, price)
      | _ => (bar.high, bar.low)
    let (favorable, adverse) := match p.side with
      | .long => ((high - p.entryPrice) / risk, (low - p.entryPrice) / risk)
      | .short => ((p.entryPrice - low) / risk, (p.entryPrice - high) / risk)
    let mfeR := max p.mfeR favorable
    { p with
      maeR := min p.maeR adverse
      mfeR := mfeR
      barsToMfe := if p.mfeR < mfeR then barsHeld else p.barsToMfe
      barsHeld := barsHeld }

/-- `_close`. -/
def close (p : OpenPosition) (closedAt : ℤ) (exitPrice : ℚ) (reason : ReplayExitReason) (quantityFraction : ℚ)
    (stopOverride : Option ℚ := none) (takeOverride : Option ℚ := none) (ladderR : Option ℚ := none) : ReplayTrade :=
  let fraction := max 0 (min 1 quantityFraction)
  let grossReturn := match p.side with
    | .long => (exitPrice - p.entryPrice) / p.entryPrice
    | .short => (p.entryPrice - exitPrice) / p.entryPrice
  let grossReturn := grossReturn * fraction
  let feeBps := p.feeBps * fraction
  let slippageBps := p.slippageBps * fraction
  let stopRef := stopOverride.getD p.originalStop
  let initialRisk := |p.entryPrice - stopRef| / p.entryPrice
  { symbol := p.symbol
    side := p.side
    openedAt := p.openedAt
    closedAt := closedAt
    entryPrice := p.entryPrice
    exitPrice := exitPrice
    stopPrice := stopRef
    takePrice := takeOverride.getD p.takePrice
    exitReason := reason
    grossReturn := grossReturn
    netReturn := grossReturn - (feeBps + slippageBps) / 10000
    feeBps := feeBps
    slippageBps := slippageBps
    rMultiple := if 0 < initialRisk ∧ 0 < fraction then grossReturn / fraction / initialRisk else 0
    quantityFraction := fraction
    ladderR := ladderR
    maeR := p.maeR
    mfeR := p.mfeR
    barsToMfe := p.barsToMfe
    barsHeld := p.barsHeld }

/-- The branch of `_advance_open_position` without a ladder. -/
def advanceFixed (p : OpenPosition) (bar : OHLCVBar) : List ReplayTrade × Option OpenPosition :=
  let exit := p.protectiveExit bar
  let p := p.recordExcursion bar exit
  match exit with
  | none => ([], some p)
  | some (price, reason) => ([p.close bar.timestamp price reason p.remainingFraction], none)

/-- A pending level fills: its trade, and the position that remains unless next to nothing does. -/
def fillLevel (p : OpenPosition) (ladder : ExitLadderState) (pending : LadderLevel) (bar : OHLCVBar) :
    Except PyError (List ReplayTrade × Option OpenPosition) := do
  let trigger := levelTriggerPrice ladder pending
  let qty := closeQuantityForLevel ladder pending
  let fraction := if ladder.originalQuantity = 0 then 0 else qty / ladder.originalQuantity
  let trade := p.close bar.timestamp trigger (.exitLadder pending.rMultiple) fraction (some ladder.initialStopPrice)
    (some trigger) (some pending.rMultiple)
  let filled ← applyLevelFill ladder pending trigger qty
  let remaining := max 0 (p.remainingFraction - fraction)
  if remaining ≤ 1 / 10 ^ 12 ∨ filled.remainingQuantity ≤ 0 then return ([trade], none)
  else return ([trade], some { p with
    stopPrice := filled.currentStopPrice
    takePrice := 0
    originalStop := filled.initialStopPrice
    remainingFraction := remaining
    ladder := some filled
    trailAfterR := if filled.allLevelsExecuted then some filled.remainderTrailAfterR else none })

/-- What remains after every level is trailed. -/
def trailRemainder (p : OpenPosition) (ladder : ExitLadderState) (bar : OHLCVBar) : OpenPosition :=
  match p.trailAfterR with
  | none => p
  | some trailAfterR =>
    if ladder.allLevelsExecuted then
      match nextTrailedStopPrice p.side p.entryPrice ladder.currentStopPrice |p.entryPrice - ladder.initialStopPrice|
          trailAfterR bar.high bar.low with
      | none => p
      | some nextStop =>
        { p with stopPrice := nextStop, takePrice := 0, ladder := some { ladder with currentStopPrice := nextStop } }
    else p

/-- The branch of `_advance_open_position` with a ladder: the stop first, then one pending level, then the trail. -/
def advanceLadder (p : OpenPosition) (ladder : ExitLadderState) (bar : OHLCVBar) :
    Except PyError (List ReplayTrade × Option OpenPosition) :=
  let p := p.recordExcursion bar
  let stopPrice := ladder.currentStopPrice
  if stopReached p.side stopPrice bar then
    .ok ([p.close bar.timestamp stopPrice .stoploss p.remainingFraction (some stopPrice)], none)
  else match nextPendingLevel ladder with
    | some pending =>
      if levelHit ladder pending bar.high bar.low then p.fillLevel ladder pending bar
      else .ok ([], some (p.trailRemainder ladder bar))
    | none => .ok ([], some (p.trailRemainder ladder bar))

/-- `_advance_open_position`. -/
def advance (exitMode : ExitMode) (p : OpenPosition) (bar : OHLCVBar) :
    Except PyError (List ReplayTrade × Option OpenPosition) :=
  match p.ladder, exitMode with
  | some ladder, .exitLadder => p.advanceLadder ladder bar
  | _, _ => .ok (p.advanceFixed bar)

/-- The close of what remains at the end of the window. -/
def closeAtEnd (p : OpenPosition) (latest : OHLCVBar) : ReplayTrade :=
  p.close latest.timestamp latest.close .endOfWindow p.remainingFraction

end OpenPosition

/-- What `_replay_symbol` fixes before it opens a position at a fill bar: the side, the risk prices of the signal generator, the
round-trip costs and the rules. -/
structure ReplayEntry where
  symbol : String
  side : Direction
  openedAt : ℤ
  entryPrice : ℚ
  stopPrice : ℚ
  takePrice : ℚ
  feeBps : ℚ
  slippageBps : ℚ
  rules : TakeprofitRules

/-- The ladder of an entry, of quantity one. -/
def ReplayEntry.ladder (exitMode : ExitMode) (e : ReplayEntry) : Except PyError (Option ExitLadderState) :=
  match exitMode with
  | .exitLadder => initializeExitLadder e.symbol e.side e.entryPrice 1 e.stopPrice e.rules
  | .fixed2r => .ok none

/-- The position `_replay_symbol` opens. -/
def ReplayEntry.openPosition (exitMode : ExitMode) (e : ReplayEntry) : Except PyError OpenPosition := do
  let ladder ← e.ladder exitMode
  return {
    symbol := e.symbol
    side := e.side
    openedAt := e.openedAt
    entryPrice := e.entryPrice
    stopPrice := e.stopPrice
    takePrice := if ladder.isSome then 0 else e.takePrice
    feeBps := e.feeBps
    slippageBps := e.slippageBps
    originalStop := e.stopPrice
    ladder := ladder }

/-- A position driven through bars, until it is closed: the trades emitted, and what is left open. -/
def OpenPosition.drive (exitMode : ExitMode) (p : OpenPosition) :
    List OHLCVBar → Except PyError (List ReplayTrade × Option OpenPosition)
  | [] => .ok ([], some p)
  | bar :: bars => do
    let (closed, position) ← p.advance exitMode bar
    match position with
    | none => return (closed, none)
    | some q =>
      let (later, left) ← q.drive exitMode bars
      return (closed ++ later, left)

end TradingPlatform
