import TradingPlatform.Domain.Clock
import TradingPlatform.Domain.Gain

/-!
# The exit-policy shadow replay

`research/exit_policy_shadow`: a real entry is replayed under one of five exit policies over the bars that follow it
(`contracts.py`, `policies.py`, `excursions.py`, `replay.py`). What the models validate is a field of the structure. The arithmetic is
exact, and instants are microseconds.
-/

namespace TradingPlatform
namespace ExitPolicyShadow

/-! ## Contracts -/

/-- `ExitPolicyId`. -/
inductive ExitPolicyId where
  | currentControl | atrAdaptive | structureInvalidation | scaleOutRunner | regimeAware
  deriving DecidableEq, Repr

/-- `Regime`. -/
inductive Regime where
  | trend | range | expansion | unknown
  deriving DecidableEq, Repr

/-- `ExitReason`. -/
inductive ExitReason where
  | stop | target | partialTarget | runnerTrail | dataExhausted | stillOpen
  deriving DecidableEq, Repr

/-- `IntrabarResolution`. -/
inductive IntrabarResolution where
  | unambiguous | stopFirst | targetFirst
  deriving DecidableEq, Repr

/-- `Bar`. -/
structure Bar where
  time : ℤ
  openPrice : ℚ
  high : ℚ
  low : ℚ
  close : ℚ
  volume : ℚ
  range : low ≤ high
  deriving DecidableEq

/-- `RealEntry`, without the identifiers the replay does not read. -/
structure RealEntry where
  positionId : String
  symbol : String
  side : Direction
  averageFillPrice : ℚ
  fillTimestamp : ℤ
  filledQuantity : ℚ
  entryFeeUsdt : ℚ
  price_pos : 0 < averageFillPrice
  quantity_pos : 0 < filledQuantity
  fee_nonneg : 0 ≤ entryFeeUsdt
  deriving DecidableEq

/-- `ExitLeg`. -/
structure ExitLeg where
  label : String
  price : ℚ
  quantity : ℚ
  quantityFraction : ℚ
  filledAt : ℤ
  reason : ExitReason
  intrabar : IntrabarResolution
  price_pos : 0 < price
  quantity_pos : 0 < quantity
  fraction_pos : 0 < quantityFraction
  fraction_le : quantityFraction ≤ 1
  deriving DecidableEq

/-- The constructor of `ExitLeg`. -/
def ExitLeg.new (label : String) (price quantity quantityFraction : ℚ) (filledAt : ℤ) (reason : ExitReason)
    (intrabar : IntrabarResolution := .unambiguous) : Except PyError ExitLeg :=
  if hprice : 0 < price then
    if hquantity : 0 < quantity then
      if hfraction : 0 < quantityFraction ∧ quantityFraction ≤ 1 then
        .ok { label, price, quantity, quantityFraction, filledAt, reason, intrabar, price_pos := hprice, quantity_pos := hquantity,
              fraction_pos := hfraction.1, fraction_le := hfraction.2 }
      else .error (.valueError "quantity_fraction")
    else .error (.valueError "quantity")
  else .error (.valueError "price")

/-- `ExcursionMetrics`. -/
structure ExcursionMetrics where
  mfePct : ℚ
  maePct : ℚ
  mfeR : Option ℚ
  maeR : Option ℚ
  mfePnlUsdt : ℚ
  maePnlUsdt : ℚ
  mfe_nonneg : 0 ≤ mfePct
  mae_nonpos : maePct ≤ 0
  deriving DecidableEq

/-- The constructor of `ExcursionMetrics`. -/
def ExcursionMetrics.new (mfePct maePct : ℚ) (mfeR maeR : Option ℚ) (mfePnlUsdt maePnlUsdt : ℚ) : Except PyError ExcursionMetrics :=
  if hmfe : 0 ≤ mfePct then
    if hmae : maePct ≤ 0 then .ok { mfePct, maePct, mfeR, maeR, mfePnlUsdt, maePnlUsdt, mfe_nonneg := hmfe, mae_nonpos := hmae }
    else .error (.valueError "mae_pct must be <= 0")
  else .error (.valueError "mfe_pct must be >= 0")

/-- The fields of a `ShadowOutcome`. -/
structure ShadowFields where
  positionId : String
  symbol : String
  side : Direction
  policy : ExitPolicyId
  regime : Regime
  entryPrice : ℚ
  entryQuantity : ℚ
  initialStopPrice : ℚ
  initialTargetPrice : Option ℚ
  legs : List ExitLeg
  remainingQuantity : ℚ
  finalReason : ExitReason
  holdingTimeMinutes : ℚ
  excursions : ExcursionMetrics
  grossPnlUsdt : ℚ
  entryFeeUsdt : ℚ
  estimatedExitFeeUsdt : ℚ
  estimatedSlippageUsdt : ℚ
  netPnlUsdt : ℚ
  ambiguousIntrabar : Bool
  sensitivityNetPnlUsdt : Option ℚ := none
  regimeSelectionReason : Option String := none
  regimeSelectedPolicy : Option ExitPolicyId := none
  postExitRemainingMfeR : Option ℚ := none
  deriving DecidableEq

/-- `ShadowOutcome`: the fields after `validate_quantities`. -/
structure ShadowOutcome extends ShadowFields where
  allocated : (legs.map (·.quantity)).sum + remainingQuantity = entryQuantity
  stop_behind : side.gain entryPrice initialStopPrice < 0
  target_ahead : ∀ t ∈ initialTargetPrice, 0 < side.gain entryPrice t
  deriving DecidableEq

/-- The text of a side. -/
def sideText : Direction → String
  | .long => "long"
  | .short => "short"

/-- `validate_quantities`. -/
def ShadowFields.validateQuantities (f : ShadowFields) : Except PyError ShadowOutcome :=
  if hallocated : (f.legs.map (·.quantity)).sum + f.remainingQuantity = f.entryQuantity then
    if hstop : f.side.gain f.entryPrice f.initialStopPrice < 0 then
      if htarget : ∀ t ∈ f.initialTargetPrice, 0 < f.side.gain f.entryPrice t then
        .ok { f with allocated := hallocated, stop_behind := hstop, target_ahead := htarget }
      else .error (.valueError (match f.side with
        | .long => "long target must sit above entry"
        | .short => "short target must sit below entry"))
    else .error (.valueError (match f.side with
      | .long => "long stop must sit below entry"
      | .short => "short stop must sit above entry"))
  else .error (.valueError "leg quantities + remaining != entry quantity")

/-! ## Policies -/

/-- `RegimeSelection`. -/
structure RegimeSelection where
  policy : ExitPolicyId
  reason : String
  fallback : Bool := false
  deriving DecidableEq

/-- `resolve_regime_policy`. -/
def resolveRegimePolicy : Regime → RegimeSelection
  | .trend => ⟨.scaleOutRunner, "TREND regime routes to D_SCALE_OUT_RUNNER (frozen mapping)", false⟩
  | .range => ⟨.currentControl, "RANGE regime routes to A_CURRENT_CONTROL (frozen mapping)", false⟩
  | .expansion => ⟨.atrAdaptive, "EXPANSION regime routes to B_ATR_ADAPTIVE (frozen mapping)", false⟩
  | .unknown => ⟨.currentControl, "UNKNOWN regime falls back to A_CURRENT_CONTROL (visible fail-closed)", true⟩

/-- The stop and the target at their distances from the entry. -/
def geometryAt (side : Direction) (entryPrice stopDistance targetDistance : ℚ) : ℚ × ℚ :=
  (side.ahead entryPrice (-stopDistance), side.ahead entryPrice targetDistance)

/-- `_control_geometry`. -/
def controlGeometry (side : Direction) (entryPrice : ℚ) (atr14 : Option ℚ) : ℚ × ℚ :=
  let atrTerm := 6 / 5 * atr14.getD 0
  let pctTerm := entryPrice * (35 / 10000)
  let stopDistance := max atrTerm pctTerm
  geometryAt side entryPrice stopDistance (3 / 2 * stopDistance)

/-- The ATR of the geometries without a floor: where it is not positive, a hundredth of the entry. -/
def saneAtr (entryPrice : ℚ) (atr14 : Option ℚ) : ℚ :=
  let atr := atr14.getD 1
  if atr ≤ 0 then entryPrice * (1 / 100) else atr

/-- `_atr_adaptive_geometry`. -/
def atrAdaptiveGeometry (side : Direction) (entryPrice : ℚ) (atr14 : Option ℚ) : ℚ × ℚ :=
  let atr := saneAtr entryPrice atr14
  geometryAt side entryPrice (3 / 2 * atr) (5 / 2 * atr)

/-- `_structure_geometry`. -/
def structureGeometry (side : Direction) (entryPrice : ℚ) (atr14 : Option ℚ) : ℚ × ℚ :=
  let atr := saneAtr entryPrice atr14
  geometryAt side entryPrice (2 * atr) (3 * atr)

/-- `_scale_out_geometry`. -/
def scaleOutGeometry (side : Direction) (entryPrice : ℚ) (atr14 : Option ℚ) : ℚ × ℚ :=
  let atr := saneAtr entryPrice atr14
  geometryAt side entryPrice (3 / 2 * atr) (3 / 2 * atr)

/-- The geometry of a policy that does not delegate; what delegates is resolved before. -/
def concreteGeometry (policy : ExitPolicyId) (side : Direction) (entryPrice : ℚ) (atr14 : Option ℚ) : ℚ × ℚ :=
  match policy with
  | .atrAdaptive => atrAdaptiveGeometry side entryPrice atr14
  | .structureInvalidation => structureGeometry side entryPrice atr14
  | .scaleOutRunner => scaleOutGeometry side entryPrice atr14
  | .currentControl | .regimeAware => controlGeometry side entryPrice atr14

/-- `build_initial_geometry`. -/
def buildInitialGeometry (policy : ExitPolicyId) (side : Direction) (entryPrice : ℚ) (atr14 : Option ℚ) (regime : Regime) :
    ℚ × Option ℚ :=
  let (stop, target) := match policy with
    | .regimeAware => concreteGeometry (resolveRegimePolicy regime).policy side entryPrice atr14
    | policy => concreteGeometry policy side entryPrice atr14
  (stop, some target)

/-! ## Excursions -/

/-- The best favourable and the worst adverse move. -/
def excursionStep (side : Direction) (entryPrice : ℚ) (acc : ℚ × ℚ) (bar : Bar) : ℚ × ℚ :=
  let favourable := match side with
    | .long => bar.high - entryPrice
    | .short => entryPrice - bar.low
  let adverse := match side with
    | .long => bar.low - entryPrice
    | .short => entryPrice - bar.high
  (if acc.1 < favourable then favourable else acc.1, if adverse < acc.2 then adverse else acc.2)

/-- `compute_excursions`. -/
def computeExcursions (side : Direction) (entryPrice quantity : ℚ) (bars : List Bar) (riskPerUnit : ℚ) : Except PyError ExcursionMetrics :=
  if entryPrice ≤ 0 then .error (.valueError "entry_price must be > 0")
  else
    let (best, worst) := bars.foldl (excursionStep side entryPrice) (0, 0)
    let inRisk (move : ℚ) : Option ℚ := if 0 < riskPerUnit then some (move / riskPerUnit) else none
    ExcursionMetrics.new (best / entryPrice * 100) (worst / entryPrice * 100) (inRisk best) (inRisk worst) (best * quantity)
      (worst * quantity)

/-! ## Replay -/

/-- The label of a level. -/
inductive LevelLabel where
  | stop | target
  deriving DecidableEq

/-- `_bar_touches`. -/
def barTouches (side : Direction) (bar : Bar) (price : ℚ) (label : LevelLabel) : Bool :=
  match side, label with
  | .long, .stop => decide (bar.low ≤ price)
  | .long, .target => decide (price ≤ bar.high)
  | .short, .stop => decide (price ≤ bar.high)
  | .short, .target => decide (bar.low ≤ price)

/-- `_compute_gross_pnl`. -/
def computeGrossPnl (side : Direction) (entryPrice exitPrice quantity : ℚ) : ℚ := side.gain entryPrice exitPrice * quantity

/-- `_estimate_exit_fee`. -/
def estimateExitFee (exitPrice quantity : ℚ) : ℚ := exitPrice * quantity * 5 / 10000

/-- `_estimate_slippage`. -/
def estimateSlippage (exitPrice quantity : ℚ) : ℚ := exitPrice * quantity * 1 / 10000

/-- The bar of an entry that saw none: its own fill. -/
def RealEntry.fillBar (entry : RealEntry) : Bar where
  time := entry.fillTimestamp
  openPrice := entry.averageFillPrice
  high := entry.averageFillPrice
  low := entry.averageFillPrice
  close := entry.averageFillPrice
  volume := 0
  range := le_refl _

/-- The reason and the policy an outcome records for a policy that delegates. -/
def regimeRecord (policy : ExitPolicyId) (regime : Regime) : Option String × Option ExitPolicyId :=
  match policy with
  | .regimeAware => (some (resolveRegimePolicy regime).reason, some (resolveRegimePolicy regime).policy)
  | _ => (none, none)

/-- The exit of a position with one target. -/
structure SingleExit where
  bar : Bar
  price : ℚ
  reason : ExitReason
  intrabar : IntrabarResolution := .unambiguous
  sensitivityExitPrice : Option ℚ := none
  deriving DecidableEq

/-- The locals of `_replay_single_target` in its loop. -/
structure SingleRun where
  barsUntilExit : List Bar := []
  exit : Option SingleExit := none

/-- The exit at a bar, if it has one: the stop comes first. -/
def singleExitAt (side : Direction) (stop : ℚ) (target : Option ℚ) (bar : Bar) : Option SingleExit :=
  if barTouches side bar stop .stop then
    if target.any (barTouches side bar · .target) then some ⟨bar, stop, .stop, .stopFirst, target⟩
    else some ⟨bar, stop, .stop, .unambiguous, none⟩
  else (target.filter (barTouches side bar · .target)).map fun t => ⟨bar, t, .target, .unambiguous, none⟩

/-- One bar of the loop of `_replay_single_target`. -/
def singleStep (entry : RealEntry) (stop : ℚ) (target : Option ℚ) (bar : Bar) (s : SingleRun) :
    Except PyError (ForInStep SingleRun) :=
  if bar.time < entry.fillTimestamp then .ok (.yield s)
  else
    let s := { s with barsUntilExit := s.barsUntilExit ++ [bar] }
    match singleExitAt entry.side stop target bar with
    | some e => .ok (.done { s with exit := some e })
    | none => .ok (.yield s)

/-- The exit of a run; without one, the last bar of all closes the position, also one before the fill. -/
def SingleRun.exitOrLast (s : SingleRun) (entry : RealEntry) (bars : List Bar) : SingleExit :=
  let last := bars.getLast?.getD entry.fillBar
  s.exit.getD ⟨last, last.close, .dataExhausted, .unambiguous, none⟩

/-- The result of closing the whole position at a price, less the costs. -/
def RealEntry.netAt (entry : RealEntry) (price : ℚ) : ℚ :=
  computeGrossPnl entry.side entry.averageFillPrice price entry.filledQuantity - entry.entryFeeUsdt
    - estimateExitFee price entry.filledQuantity - estimateSlippage price entry.filledQuantity

/-- The fields of the outcome with one leg. -/
def singleFields (entry : RealEntry) (policy : ExitPolicyId) (regime : Regime) (initialStop : ℚ) (initialTarget : Option ℚ)
    (exit : SingleExit) (leg : ExitLeg) (excursions : ExcursionMetrics) : ShadowFields where
  positionId := entry.positionId
  symbol := entry.symbol
  side := entry.side
  policy := policy
  regime := regime
  entryPrice := entry.averageFillPrice
  entryQuantity := entry.filledQuantity
  initialStopPrice := initialStop
  initialTargetPrice := initialTarget
  legs := [leg]
  remainingQuantity := 0
  finalReason := exit.reason
  holdingTimeMinutes := totalSeconds (exit.bar.time - entry.fillTimestamp) / 60
  excursions := excursions
  grossPnlUsdt := computeGrossPnl entry.side entry.averageFillPrice exit.price entry.filledQuantity
  entryFeeUsdt := entry.entryFeeUsdt
  estimatedExitFeeUsdt := estimateExitFee exit.price entry.filledQuantity
  estimatedSlippageUsdt := estimateSlippage exit.price entry.filledQuantity
  netPnlUsdt := entry.netAt exit.price
  ambiguousIntrabar := decide (exit.intrabar ≠ .unambiguous)
  sensitivityNetPnlUsdt := exit.sensitivityExitPrice.map entry.netAt
  regimeSelectionReason := (regimeRecord policy regime).1
  regimeSelectedPolicy := (regimeRecord policy regime).2

/-- `_replay_single_target`. -/
def replaySingleTarget (entry : RealEntry) (policy : ExitPolicyId) (bars : List Bar) (initialStop : ℚ) (initialTarget : Option ℚ)
    (regime : Regime) : Except PyError ShadowOutcome := do
  let s ← forIn bars ({} : SingleRun) (singleStep entry initialStop initialTarget)
  let exit := s.exitOrLast entry bars
  let excursions ← computeExcursions entry.side entry.averageFillPrice entry.filledQuantity s.barsUntilExit
    |entry.averageFillPrice - initialStop|
  let leg ← ExitLeg.new "exit" exit.price entry.filledQuantity 1 exit.bar.time exit.reason exit.intrabar
  (singleFields entry policy regime initialStop initialTarget exit leg excursions).validateQuantities

/-- A rung of the ladder. -/
structure Rung where
  index : ℕ
  target : ℚ
  fraction : ℚ
  label : String
  deriving DecidableEq

/-- The ladder: 35% at 1R, 40% at 1.8R, 25% at 2.5R. -/
def ladderRungs (side : Direction) (entryPrice risk : ℚ) : List Rung :=
  [⟨0, side.ahead entryPrice risk, 35 / 100, "TP1_1R"⟩, ⟨1, side.ahead entryPrice (9 / 5 * risk), 40 / 100, "TP2_1.8R"⟩,
    ⟨2, side.ahead entryPrice (5 / 2 * risk), 25 / 100, "TP3_2.5R_runner"⟩]

/-- The locals of `_replay_scale_out` in its loop. -/
structure LadderRun where
  legs : List ExitLeg := []
  remaining : ℚ
  barsUntilExit : List Bar := []
  stop : ℚ
  finalReason : ExitReason := .dataExhausted
  filledTargetIndices : List ℕ := []

/-- What a rung sells, if something is left to sell. -/
def sellRung (entry : RealEntry) (bar : Bar) (rung : Rung) (s : LadderRun) : Except PyError LadderRun :=
  let quantity := min (entry.filledQuantity * rung.fraction) s.remaining
  if 0 < quantity then do
    let leg ← ExitLeg.new rung.label rung.target quantity rung.fraction bar.time
      (if rung.index < 2 then .partialTarget else .target)
    return { s with legs := s.legs ++ [leg], remaining := s.remaining - quantity }
  else .ok s

/-- The loop over the rungs at a bar. -/
def fillRungs (entry : RealEntry) (bar : Bar) : List Rung → LadderRun → Except PyError LadderRun
  | [], s => .ok s
  | rung :: rest, s =>
    if rung.index ∈ s.filledTargetIndices then fillRungs entry bar rest s
    else if barTouches entry.side bar rung.target .target then do
      let s ← sellRung entry bar rung s
      let s := { s with
        filledTargetIndices := s.filledTargetIndices ++ [rung.index]
        stop := if rung.index = 0 then entry.averageFillPrice else s.stop }
      if s.remaining ≤ 0 then .ok { s with finalReason := .target } else fillRungs entry bar rest s
    else fillRungs entry bar rest s

/-- What is left of the position is closed at a price. -/
def closeRest (entry : RealEntry) (label : String) (price : ℚ) (bar : Bar) (reason : ExitReason) (s : LadderRun) :
    Except PyError LadderRun := do
  let leg ← ExitLeg.new label price s.remaining (s.remaining / entry.filledQuantity) bar.time reason
  return { s with legs := s.legs ++ [leg], remaining := 0 }

/-- One bar of the loop of `_replay_scale_out`. -/
def ladderStep (entry : RealEntry) (rungs : List Rung) (bar : Bar) (s : LadderRun) : Except PyError (ForInStep LadderRun) :=
  if bar.time < entry.fillTimestamp then .ok (.yield s)
  else
    let s := { s with barsUntilExit := s.barsUntilExit ++ [bar] }
    if barTouches entry.side bar s.stop .stop then do
      let s ← if 0 < s.remaining then closeRest entry "stop" s.stop bar .stop s else .ok s
      return .done { s with finalReason := .stop }
    else do
      let s ← fillRungs entry bar rungs s
      return if s.remaining ≤ 0 then .done s else .yield s

/-- The end of the data with the position still open: the last bar seen closes what is left. -/
def exhaustLadder (entry : RealEntry) (s : LadderRun) : Except PyError LadderRun :=
  match s.barsUntilExit.getLast? with
  | some last => if 0 < s.remaining then closeRest entry "exhausted" last.close last .dataExhausted s else .ok s
  | none => .ok s

/-- The fields of the outcome of a ladder. -/
def ladderFields (entry : RealEntry) (policy : ExitPolicyId) (regime : Regime) (initialStop firstTarget : ℚ) (s : LadderRun)
    (excursions : ExcursionMetrics) : ShadowFields :=
  let exitBar := s.barsUntilExit.getLast?.getD entry.fillBar
  let gross := (s.legs.map fun leg => computeGrossPnl entry.side entry.averageFillPrice leg.price leg.quantity).sum
  let exitFee := (s.legs.map fun leg => estimateExitFee leg.price leg.quantity).sum
  let slippage := (s.legs.map fun leg => estimateSlippage leg.price leg.quantity).sum
  { positionId := entry.positionId
    symbol := entry.symbol
    side := entry.side
    policy := policy
    regime := regime
    entryPrice := entry.averageFillPrice
    entryQuantity := entry.filledQuantity
    initialStopPrice := initialStop
    initialTargetPrice := some firstTarget
    legs := s.legs
    remainingQuantity := s.remaining
    finalReason := s.finalReason
    holdingTimeMinutes := totalSeconds (exitBar.time - entry.fillTimestamp) / 60
    excursions := excursions
    grossPnlUsdt := gross
    entryFeeUsdt := entry.entryFeeUsdt
    estimatedExitFeeUsdt := exitFee
    estimatedSlippageUsdt := slippage
    netPnlUsdt := gross - entry.entryFeeUsdt - exitFee - slippage
    ambiguousIntrabar := false
    regimeSelectionReason := (regimeRecord policy regime).1
    regimeSelectedPolicy := (regimeRecord policy regime).2 }

/-- `_replay_scale_out`. -/
def replayScaleOut (entry : RealEntry) (bars : List Bar) (initialStop : ℚ) (initialTarget : Option ℚ) (regime : Regime)
    (reportedPolicy : ExitPolicyId) : Except PyError ShadowOutcome :=
  let risk := |entry.averageFillPrice - initialStop|
  if risk ≤ 0 then replaySingleTarget entry reportedPolicy bars initialStop initialTarget regime
  else do
    let rungs := ladderRungs entry.side entry.averageFillPrice risk
    let s ← forIn bars ({ remaining := entry.filledQuantity, stop := initialStop } : LadderRun) (ladderStep entry rungs)
    let s ← exhaustLadder entry s
    let excursions ← computeExcursions entry.side entry.averageFillPrice entry.filledQuantity s.barsUntilExit risk
    (ladderFields entry reportedPolicy regime initialStop (entry.side.ahead entry.averageFillPrice risk) s excursions).validateQuantities

/-- The policy whose mechanics a policy uses. -/
def effectivePolicy (policy : ExitPolicyId) (regime : Regime) : ExitPolicyId :=
  if policy = .regimeAware then (resolveRegimePolicy regime).policy else policy

/-- `replay_entry`. Of the context of the entry the geometries read `atr14`. -/
def replayEntry (entry : RealEntry) (policy : ExitPolicyId) (bars : List Bar) (atr14 : Option ℚ) (regime : Regime) :
    Except PyError ShadowOutcome :=
  let (initialStop, initialTarget) := buildInitialGeometry policy entry.side entry.averageFillPrice atr14 regime
  if effectivePolicy policy regime = .scaleOutRunner then replayScaleOut entry bars initialStop initialTarget regime policy
  else replaySingleTarget entry policy bars initialStop initialTarget regime

end ExitPolicyShadow
end TradingPlatform
