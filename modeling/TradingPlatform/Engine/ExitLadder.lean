import Mathlib.Algebra.Order.Ring.Rat
import TradingPlatform.Domain.State

/-!
# The exit ladder

`services/execution/exit_ladder.py`: partial take-profits at multiples of the initial risk, a stop that moves to the entry and then
to the first level, and a trail for what remains. The arithmetic is exact.
-/

namespace TradingPlatform

/-- `LadderLevel`. -/
structure LadderLevel where
  rMultiple : ℚ
  closeFraction : ℚ
  executed : Bool := false
  triggerPrice : Option ℚ := none
  deriving DecidableEq

/-- `ExitLadderState`. -/
structure ExitLadderState where
  symbol : String
  side : Direction
  entryPrice : ℚ
  originalQuantity : ℚ
  remainingQuantity : ℚ
  initialStopPrice : ℚ
  currentStopPrice : ℚ
  levels : List LadderLevel
  remainderTrailAfterR : ℚ
  lockedLevel1Price : Option ℚ := none
  deriving DecidableEq

/-- `risk_distance`. -/
def ExitLadderState.riskDistance (s : ExitLadderState) : ℚ := |s.entryPrice - s.initialStopPrice|

/-- `all_levels_executed`. -/
def ExitLadderState.allLevelsExecuted (s : ExitLadderState) : Bool := s.levels.all (·.executed)

/-- An item of the list of levels in the rules; an item that is not a dictionary is `other`. -/
inductive LadderItem where
  | level (rMultiple closeFraction : Option ℚ)
  | other

/-- `takeprofit_rules`, what the ladder reads of them. -/
structure TakeprofitRules where
  exitLadder : Option (List LadderItem) := none
  remainderTrailAfterR : Option ℚ := none

/-- The level an item configures: those out of range are skipped. -/
def LadderItem.config : LadderItem → Except PyError (Option LadderLevel)
  | .other => .ok none
  | .level none _ => .error (.keyError "r_multiple")
  | .level (some _) none => .error (.keyError "close_fraction")
  | .level (some rMultiple) (some closeFraction) =>
    if rMultiple ≤ 0 ∨ ¬(0 < closeFraction ∧ closeFraction < 1) then .ok none else .ok (some { rMultiple, closeFraction })

/-- `ladder_config_from_rules`. -/
def ladderConfigFromRules (rules : TakeprofitRules) : Except PyError (Option (List LadderLevel)) :=
  match rules.exitLadder with
  | none => .ok none
  | some raw => do
    let levels ← raw.mapM LadderItem.config
    return if levels.filterMap id = [] then none else some (levels.filterMap id)

/-- `initialize_exit_ladder`. -/
def initializeExitLadder (symbol : String) (side : Direction) (entryPrice quantity stopPrice : ℚ) (rules : TakeprofitRules) :
    Except PyError (Option ExitLadderState) := do
  match ← ladderConfigFromRules rules with
  | none => return none
  | some levels =>
    let risk := |entryPrice - stopPrice|
    if risk ≤ 0 ∨ quantity = 0 then return none
    else return some {
      symbol, side, entryPrice
      originalQuantity := |quantity|
      remainingQuantity := |quantity|
      initialStopPrice := stopPrice
      currentStopPrice := stopPrice
      levels
      remainderTrailAfterR := rules.remainderTrailAfterR.getD (5 / 2) }

/-- `next_pending_level`. -/
def nextPendingLevel (s : ExitLadderState) : Option LadderLevel := s.levels.find? fun l => !l.executed

/-- `level_trigger_price`. -/
def levelTriggerPrice (s : ExitLadderState) (level : LadderLevel) : ℚ :=
  let distance := s.riskDistance * level.rMultiple
  match s.side with
  | .long => s.entryPrice + distance
  | .short => s.entryPrice - distance

/-- `level_hit`. -/
def levelHit (s : ExitLadderState) (level : LadderLevel) (barHigh barLow : ℚ) : Bool :=
  let price := levelTriggerPrice s level
  match s.side with
  | .long => decide (price ≤ barHigh)
  | .short => decide (barLow ≤ price)

/-- `close_quantity_for_level`. -/
def closeQuantityForLevel (s : ExitLadderState) (level : LadderLevel) : ℚ :=
  min s.remainingQuantity (s.originalQuantity * level.closeFraction)

/-- The loop of `apply_level_fill`: the first pending level like `level` is marked, and its place is returned. -/
def markLevel (level : LadderLevel) (triggerPrice : ℚ) : List LadderLevel → Option (List LadderLevel × ℕ)
  | [] => none
  | existing :: rest =>
    if existing.rMultiple = level.rMultiple ∧ existing.closeFraction = level.closeFraction ∧ existing.executed = false then
      some ({ existing with executed := true, triggerPrice := some triggerPrice } :: rest, 0)
    else (markLevel level triggerPrice rest).map fun (updated, index) => (existing :: updated, index + 1)

/-- `apply_level_fill`: after the first level the stop stands at the entry, after a later one at the trigger of the first. -/
def applyLevelFill (s : ExitLadderState) (level : LadderLevel) (triggerPrice closedQuantity : ℚ) :
    Except PyError ExitLadderState :=
  match markLevel level triggerPrice s.levels with
  | none => .error (.valueError "exit ladder level not pending")
  | some (updatedLevels, levelIndex) =>
    let firstTrigger := updatedLevels.head?.bind (·.triggerPrice)
    .ok { s with
      remainingQuantity := max 0 (s.remainingQuantity - closedQuantity)
      currentStopPrice := if levelIndex = 0 then s.entryPrice else firstTrigger.getD s.entryPrice
      levels := updatedLevels
      lockedLevel1Price := if levelIndex = 0 then some triggerPrice else firstTrigger }

/-- `next_trailed_stop_price`. -/
def nextTrailedStopPrice (side : Direction) (entryPrice currentStopPrice initialDistance trailAfterR barHigh barLow : ℚ) :
    Option ℚ :=
  if initialDistance ≤ 0 then none
  else match side with
    | .long =>
      if barHigh - entryPrice < trailAfterR * initialDistance then none
      else
        let nextStop := max currentStopPrice entryPrice
        if currentStopPrice < nextStop then some nextStop else none
    | .short =>
      if entryPrice - barLow < trailAfterR * initialDistance then none
      else
        let nextStop := min currentStopPrice entryPrice
        if nextStop < currentStopPrice then some nextStop else none

end TradingPlatform
