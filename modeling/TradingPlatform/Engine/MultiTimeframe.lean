import Mathlib.Algebra.Order.Ring.Rat
import Mathlib.Data.String.Basic
import TradingPlatform.Domain.State

/-!
# Multi-timeframe confirmation

`DecisionPipeline._multi_timeframe_confirmation` (`execution/decision_pipeline.py`). The technical signals of a timeframe, computed
from its closed bars, are given.
-/

namespace TradingPlatform

/-- `MarketRegime`. -/
inductive MarketRegime where
  | trendUp | trendDown | range | uncertain
  deriving DecidableEq, Repr

/-- `TradeSignal`, what the confirmation reads of it. -/
structure TradeSignal where
  side : Direction
  source : String
  confidence : Option ℚ := none
  deriving DecidableEq

/-- `UnboundLocalError`: a local is read on a path that did not assign it. -/
structure UnboundLocalError where
  name : String
  deriving DecidableEq

/-- The entry rules of a strategy that set its timeframes. -/
structure TimeframeRules where
  stateTimeframe : Option String := none
  directionTimeframe : Option String := none
  entryTimeframe : Option String := none
  timeframeModel : String := ""
  mtfConfirmationMode : Option String := none

/-- A value that is set and not empty. -/
def configured (s : Option String) : Option String := s.filter fun s => decide (s ≠ "")

/-- `str.strip().lower()`. -/
def stripLower (s : String) : String :=
  let trimmed := ((s.toList.dropWhile Char.isWhitespace).reverse.dropWhile Char.isWhitespace).reverse
  (String.ofList trimmed).toLower

/-- `confirmation_mode`. -/
def TimeframeRules.confirmationMode (rules : TimeframeRules) : String := stripLower (rules.mtfConfirmationMode.getD "strict_all")

/-- The state timeframe, where it is set and not the entry timeframe. -/
def TimeframeRules.higherState (rules : TimeframeRules) (timeframe : String) : Option String :=
  (configured rules.stateTimeframe).filter fun s => decide (s ≠ timeframe)

/-- `_confirmation_timeframe`. -/
def confirmationTimeframe (rules : TimeframeRules) (entryTimeframe : String) : String :=
  match configured rules.directionTimeframe, configured rules.entryTimeframe with
  | some direction, some entry =>
    if entryTimeframe = entry then direction
    else if rules.timeframeModel.toLower = "4h_direction_15m_entry" ∧ entryTimeframe = "15m" then "4h"
    else entryTimeframe
  | _, _ =>
    if rules.timeframeModel.toLower = "4h_direction_15m_entry" ∧ entryTimeframe = "15m" then "4h" else entryTimeframe

/-- The weight of a signal: no confidence, and a confidence of zero, count as one half. -/
def TradeSignal.weight (s : TradeSignal) : ℚ :=
  match s.confidence with
  | none => 1 / 2
  | some c => if c = 0 then 1 / 2 else c

/-- `_dominant_signal_direction`. -/
def dominantSignalDirection (signals : List TradeSignal) : Option Direction :=
  let score := signals.foldl (fun score s => score + match s.side with
    | .long => s.weight
    | .short => -s.weight) 0
  if 0 < score then some .long else if score < 0 then some .short else none

/-- `_deduplicate_signals_by_source`: the strongest signal of each source, in the order of the sources. -/
def deduplicateSignalsBySource (signals : List TradeSignal) : List TradeSignal :=
  signals.foldl (fun strongest s =>
    if strongest.any fun existing => decide (existing.source = s.source) then
      strongest.map fun existing =>
        if existing.source = s.source ∧ existing.confidence.getD 0 < s.confidence.getD 0 then s else existing
    else strongest ++ [s]) []

/-- The state timeframe as the result reports it. -/
structure StateConfirmation where
  timeframe : String
  direction : Direction
  signalCount : ℕ
  deriving DecidableEq

/-- The result; a key that a branch does not set is `none`. -/
structure MtfResult where
  passed : Bool
  status : String
  mainTimeframe : String
  confirmationMode : Option String := none
  mainDirection : Option Direction := none
  stateTimeframe : Option String := none
  stateDirection : Option Direction := none
  stateSignalCount : Option ℕ := none
  confirmTimeframe : Option String := none
  confirmDirection : Option Direction := none
  confirmSignalCount : Option ℕ := none
  matchingHigherTimeframeCount : Option ℕ := none
  directionSignals : List TradeSignal := []
  regime : Option MarketRegime := none
  mtfRule : Option String := none
  stateConfirmation : Option StateConfirmation := none
  deriving DecidableEq

/-- What the confirmation read of its timeframes. -/
structure MtfInput where
  rules : TimeframeRules
  timeframe : String
  mainSignals : List TradeSignal
  technicalSignals : String → List TradeSignal
  regime : Option MarketRegime

namespace MtfInput

variable (i : MtfInput)

def mainDirection : Option Direction := dominantSignalDirection i.mainSignals

/-- The signals of the state timeframe, read where it is not the entry timeframe. -/
def stateSignals : List TradeSignal := ((i.rules.higherState i.timeframe).map i.technicalSignals).getD []

def stateDirection : Option Direction := dominantSignalDirection i.stateSignals

def confirmTimeframe : String := confirmationTimeframe i.rules i.timeframe

/-- The signals of the confirmation timeframe, read where it is not the entry timeframe. -/
def confirmSignals : List TradeSignal := if i.confirmTimeframe = i.timeframe then [] else i.technicalSignals i.confirmTimeframe

def confirmDirection : Option Direction := dominantSignalDirection i.confirmSignals

/-- The mode in which one higher timeframe is enough. -/
def entryPlusOneHigher : MtfResult :=
  let stateMatches := i.mainDirection.isSome && decide (i.stateDirection = i.mainDirection)
  let confirmMatches := i.mainDirection.isSome && decide (i.confirmDirection = i.mainDirection)
  let matchingSets := (if stateMatches then [i.stateSignals] else []) ++ (if confirmMatches then [i.confirmSignals] else [])
  let directionSignals := deduplicateSignalsBySource matchingSets.flatten
  let passed := i.mainDirection.isSome && !directionSignals.isEmpty
  { passed := passed
    status := if passed then "entry_plus_one_higher_confirmed" else "entry_plus_one_higher_disagreed"
    confirmationMode := some i.rules.confirmationMode
    mainTimeframe := i.timeframe
    mainDirection := i.mainDirection
    stateTimeframe := configured i.rules.stateTimeframe
    stateDirection := i.stateDirection
    stateSignalCount := some i.stateSignals.length
    confirmTimeframe := some i.confirmTimeframe
    confirmDirection := i.confirmDirection
    confirmSignalCount := some i.confirmSignals.length
    matchingHigherTimeframeCount := some matchingSets.length
    directionSignals := directionSignals }

/-- `state_confirmation`. -/
def stateConfirmation : Option StateConfirmation :=
  match configured i.rules.stateTimeframe, i.stateDirection with
  | some timeframe, some direction => some { timeframe, direction, signalCount := i.stateSignals.length }
  | _, _ => none

/-- The end of the function, from the state confirmation on; `stateDisagrees` is unbound where the state timeframe was not
read. -/
def confirm (stateDisagrees : Option Bool) : Except UnboundLocalError MtfResult :=
  if i.confirmTimeframe = i.timeframe then
    .ok { passed := true, status := "confirmation_same_timeframe", mainTimeframe := i.timeframe,
          confirmTimeframe := some i.confirmTimeframe }
  else if i.confirmSignals = [] ∨ i.mainDirection = none ∨ i.confirmDirection = none then
    .ok { passed := false, status := "confirmation_unavailable_fail_closed", mainTimeframe := i.timeframe,
          confirmTimeframe := some i.confirmTimeframe, confirmSignalCount := some i.confirmSignals.length }
  else
    let confirmAgrees := decide (i.mainDirection = i.confirmDirection)
    let majority : MtfResult :=
      { passed := confirmAgrees
        status := if confirmAgrees then "uncertain_majority_confirmed" else "uncertain_all_disagreed"
        mainTimeframe := i.timeframe
        confirmTimeframe := some i.confirmTimeframe
        mainDirection := i.mainDirection
        confirmDirection := i.confirmDirection
        stateDirection := i.stateDirection
        confirmSignalCount := some i.confirmSignals.length
        directionSignals := if confirmAgrees then i.confirmSignals else []
        regime := i.regime
        mtfRule := some "uncertain_majority_2_of_3"
        stateConfirmation := i.stateConfirmation }
    let strict : MtfResult :=
      { passed := confirmAgrees
        status := if confirmAgrees then "confirmed" else "disagreed"
        mainTimeframe := i.timeframe
        confirmTimeframe := some i.confirmTimeframe
        mainDirection := i.mainDirection
        confirmDirection := i.confirmDirection
        confirmSignalCount := some i.confirmSignals.length
        directionSignals := if confirmAgrees then i.confirmSignals else []
        regime := i.regime
        stateConfirmation := i.stateConfirmation }
    if i.regime = some .uncertain ∧ (configured i.rules.stateTimeframe).isSome then
      match stateDisagrees with
      | none => .error ⟨"state_disagrees"⟩
      | some true => .ok majority
      | some false => .ok strict
    else .ok strict

/-- `_multi_timeframe_confirmation`. -/
def multiTimeframeConfirmation : Except UnboundLocalError MtfResult :=
  if i.rules.confirmationMode = "entry_plus_one_higher" then .ok i.entryPlusOneHigher
  else match i.rules.higherState i.timeframe with
    | none => i.confirm none
    | some state =>
      if i.stateSignals = [] ∨ i.mainDirection = none ∨ i.stateDirection = none then
        .ok { passed := false, status := "state_confirmation_unavailable_fail_closed", mainTimeframe := i.timeframe,
              stateTimeframe := some state, stateSignalCount := some i.stateSignals.length }
      else
        let stateDisagrees := decide (i.mainDirection ≠ i.stateDirection)
        if stateDisagrees ∧ i.regime ≠ some .uncertain then
          .ok { passed := false, status := "state_confirmation_disagreed", mainTimeframe := i.timeframe,
                stateTimeframe := some state, mainDirection := i.mainDirection, stateDirection := i.stateDirection,
                stateSignalCount := some i.stateSignals.length, regime := i.regime }
        else i.confirm (some stateDisagrees)

end MtfInput

end TradingPlatform
