import Mathlib.Data.List.Sort
import TradingPlatform.Domain.State
import TradingPlatform.Lib.Json

/-!
# The cross-sectional replay

`validation/cross_sectional_replay.py`: at every cycle the symbols are ranked by their funding rate, the highest are held short and the
lowest long. Instants are in microseconds, the arithmetic is exact, and the metrics of the result are left out.
-/

namespace TradingPlatform

/-! ## Arguments -/

/-- What a replay raises, and the loop over the cycles that does not end. -/
inductive CrossSectionalError where
  | valueError (message : String) | keyError (key : String) | zeroDivision | endless
  deriving DecidableEq

/-- The arguments of `run_cross_sectional_replay`, with what the repository lists for a symbol. -/
structure CrossSectionalArgs where
  marketExtras : String → List (ℤ × Option ℚ)
  ohlcvBars : String → List (ℤ × ℚ)
  symbols : List String
  basketSize : ℤ := 3
  rebalanceHours : ℤ := 8
  minEstimatedNetEdgeBps : ℚ := 5
  feeBps : ℚ := 5
  slippageBps : ℚ := 3
  startTime : Option ℤ := none
  endTime : Option ℤ := none

/-- The microseconds of an hour. -/
def hourMicros : ℤ := 3600 * 1000000

/-- `values[:stop]`. -/
def headSlice {α : Type} (values : List α) (stop : ℤ) : List α :=
  if 0 ≤ stop then values.take stop.toNat else values.take (values.length + stop).toNat

/-- `values[start:]`. -/
def tailSlice {α : Type} (values : List α) (start : ℤ) : List α :=
  if 0 ≤ start then values.drop start.toNat else values.drop (values.length + start).toNat

/-! ## Funding -/

/-- The funding history of a symbol, in basis points by time. -/
def fundingOf (extras : List (ℤ × Option ℚ)) : List (ℤ × ℚ) :=
  (extras.filterMap fun e => e.2.map fun rate => (e.1, rate * 10000)).insertionSort fun a b => a.1 ≤ b.1

/-- `funding_history`. -/
def fundingHistory (args : CrossSectionalArgs) : List (String × List (ℤ × ℚ)) :=
  args.symbols.foldl (fun history symbol =>
    if args.marketExtras symbol = [] then history else Json.set symbol (fundingOf (args.marketExtras symbol)) history) []

/-- The first of the latest entries. -/
def latestEntry : List (ℤ × ℚ) → Option (ℤ × ℚ)
  | [] => none
  | e :: rest =>
    match latestEntry rest with
    | none => some e
    | some later => if e.1 < later.1 then some later else some e

/-- `cycle_funding`, the highest rate first. -/
def cycleFunding (history : List (String × List (ℤ × ℚ))) (cycle : ℤ) : List (String × ℚ) :=
  history.filterMap fun h => (latestEntry (h.2.filter fun e => decide (e.1 ≤ cycle))).map fun e => (h.1, e.2)

/-- `cycle_funding.sort(key=..., reverse=True)`. -/
def rankFunding (funding : List (String × ℚ)) : List (String × ℚ) := funding.insertionSort fun a b => b.2 ≤ a.2

/-! ## Legs -/

/-- An open position: the side, the entry price, the entry time and the funding rate at the entry. -/
structure OpenLeg where
  side : Direction
  entryPrice : ℚ
  entryTime : ℤ
  entryFunding : ℚ
  deriving DecidableEq

/-- What a closed leg adds to the results. -/
structure LegReturn where
  gross : ℚ
  net : ℚ
  pnl : ℚ
  deriving DecidableEq

/-- What a replay carries from cycle to cycle. -/
structure CrossSectionalState where
  openPositions : List (String × OpenLeg) := []
  netPnls : List ℚ := []
  grossReturns : List ℚ := []
  netReturns : List ℚ := []
  totalFeeCost : ℚ := 0
  totalSlippageCost : ℚ := 0
  legsOpened : ℕ := 0
  legsClosed : ℕ := 0
  deriving DecidableEq

namespace CrossSectionalArgs

variable (args : CrossSectionalArgs)

/-- The close of the bar of a symbol at a time. -/
def barClose (symbol : String) (time : ℤ) : Option ℚ := ((args.ohlcvBars symbol).find? fun b => decide (b.1 = time)).map Prod.snd

/-- `round_trip_cost_bps`. -/
def roundTripCostBps : ℚ := args.feeBps * 2 + args.slippageBps * 2

/-- `funding_cycles`. -/
def fundingCycles (leg : OpenLeg) (time : ℤ) : ℚ := ((time - leg.entryTime : ℤ) : ℚ) / hourMicros / args.rebalanceHours

/-- `price_pnl_pct`. -/
def pricePnlPct (leg : OpenLeg) (exitPrice : ℚ) : ℚ :=
  match leg.side with
  | .short => (leg.entryPrice - exitPrice) / leg.entryPrice
  | .long => (exitPrice - leg.entryPrice) / leg.entryPrice

/-- The returns of a leg that closes. -/
def legReturn (leg : OpenLeg) (exitPrice : ℚ) (time : ℤ) : Except CrossSectionalError LegReturn :=
  if leg.entryPrice = 0 ∨ args.rebalanceHours = 0 then .error .zeroDivision
  else
    let realizedFundingBps := leg.entryFunding * args.fundingCycles leg time
    let gross := pricePnlPct leg exitPrice + realizedFundingBps / 10000
    let net := gross - args.roundTripCostBps / 10000
    .ok { gross, net, pnl := net * 1000 }

/-- A leg that closes, with its returns. -/
def recordReturn (state : CrossSectionalState) (r : LegReturn) : CrossSectionalState :=
  { state with
    netPnls := state.netPnls ++ [r.pnl]
    grossReturns := state.grossReturns ++ [r.gross]
    netReturns := state.netReturns ++ [r.net]
    totalFeeCost := state.totalFeeCost + args.feeBps * 2
    totalSlippageCost := state.totalSlippageCost + args.slippageBps * 2
    legsClosed := state.legsClosed + 1 }

/-- A leg is closed at the bar of the time, where there is one. -/
def closeAt (time : ℤ) (state : CrossSectionalState) (symbol : String) (leg : OpenLeg) : Except CrossSectionalError CrossSectionalState :=
  match args.barClose symbol time with
  | none => .ok state
  | some exitPrice => do
    let r ← args.legReturn leg exitPrice time
    .ok (args.recordReturn state r)

/-- `open_positions.pop(symbol)`, and the close of the leg. -/
def popAndClose (time : ℤ) (state : CrossSectionalState) (symbol : String) : Except CrossSectionalError CrossSectionalState :=
  match Json.get symbol state.openPositions with
  | none => .error (.keyError symbol)
  | some leg => args.closeAt time { state with openPositions := Json.erase symbol state.openPositions } symbol leg

/-- Whether a leg has dropped out of the baskets, or its symbol is in that of the other side. -/
def dropsOut (targetShort targetLong : List String) (symbol : String) (leg : OpenLeg) : Bool :=
  let sideMismatch := decide ((leg.side = .short ∧ symbol ∈ targetLong) ∨ (leg.side = .long ∧ symbol ∈ targetShort))
  let droppedOut := decide ((leg.side = .short ∧ symbol ∉ targetShort) ∨ (leg.side = .long ∧ symbol ∉ targetLong))
  droppedOut || sideMismatch

/-- A leg is opened, where its estimated edge suffices and there is a bar of the time. -/
def openLeg (time : ℤ) (side : Direction) (state : CrossSectionalState) (symbol : String) (fundingBps : ℚ) : CrossSectionalState :=
  let estimatedFunding := |fundingBps| * ((args.rebalanceHours : ℚ) / 8)
  let estimatedCost := args.feeBps * 2 + args.slippageBps * 2
  if estimatedFunding - estimatedCost < args.minEstimatedNetEdgeBps then state
  else
    match args.barClose symbol time with
    | none => state
    | some entryPrice =>
      { state with
        openPositions := Json.set symbol { side, entryPrice, entryTime := time, entryFunding := fundingBps } state.openPositions
        legsOpened := state.legsOpened + 1 }

/-- One turn of the loop that opens positions. -/
def openTarget (time : ℤ) (targetShort targetLong : List String) (state : CrossSectionalState) (entry : String × ℚ) :
    CrossSectionalState :=
  if entry.1 ∈ targetShort ∧ Json.get entry.1 state.openPositions = none then args.openLeg time .short state entry.1 entry.2
  else if entry.1 ∈ targetLong ∧ Json.get entry.1 state.openPositions = none then args.openLeg time .long state entry.1 entry.2
  else state

/-! ## Cycles -/

/-- One rebalance cycle. -/
def runCycle (history : List (String × List (ℤ × ℚ))) (state : CrossSectionalState) (cycle : ℤ) :
    Except CrossSectionalError CrossSectionalState :=
  let funding := cycleFunding history cycle
  if (funding.length : ℤ) < 2 * args.basketSize then .ok state
  else do
    let ranked := rankFunding funding
    let targetShort := (headSlice ranked args.basketSize).map Prod.fst
    let targetLong := (tailSlice ranked (-args.basketSize)).map Prod.fst
    let symbolsToClose := (state.openPositions.filter fun e => dropsOut targetShort targetLong e.1 e.2).map Prod.fst
    let closed ← symbolsToClose.foldlM (args.popAndClose cycle) state
    .ok (ranked.foldl (args.openTarget cycle targetShort targetLong) closed)

/-- The cycles from the start to the end; `none` where the loop over them does not end. -/
def cycleTimes (start stop : ℤ) : Option (List ℤ) :=
  if stop < start then some []
  else if args.rebalanceHours ≤ 0 then none
  else
    let step := args.rebalanceHours * hourMicros
    some ((List.range ((stop - start) / step + 1).toNat).map fun (i : ℕ) => start + (i : ℤ) * step)

/-- The funding history, the cycles and the end of a replay. -/
structure Plan where
  history : List (String × List (ℤ × ℚ))
  start : ℤ
  stop : ℤ
  cycles : List ℤ
  deriving DecidableEq

/-- The part of `run_cross_sectional_replay` before the first cycle. -/
def plan : Except CrossSectionalError Plan :=
  let history := fundingHistory args
  if history = [] then .error (.valueError "No funding rate history found for any symbol in universe")
  else
    match (history.flatMap fun h => h.2.map Prod.fst) with
    | [] => .error (.valueError "Empty funding history")
    | first :: rest =>
      let start := args.startTime.getD (rest.foldl min first)
      let stop := args.endTime.getD (rest.foldl max first)
      match args.cycleTimes start stop with
      | none => .error .endless
      | some cycles => .ok { history, start, stop, cycles }

/-- `final_cycle`. -/
def Plan.finalCycle (p : Plan) : ℤ := p.cycles.getLast?.getD p.stop

/-- `CrossSectionalReplayResult`, without its metrics. -/
structure Result where
  totalRebalanceCycles : ℕ
  totalLegsOpened : ℕ
  totalLegsClosed : ℕ
  netPnls : List ℚ
  grossReturns : List ℚ
  netReturns : List ℚ
  averageFeeBps : ℚ
  averageSlippageBps : ℚ
  startTime : ℤ
  endTime : ℤ
  deriving DecidableEq

/-- The result of a replay that has closed the remaining positions. -/
def report (p : Plan) (state : CrossSectionalState) : Result :=
  if state.netReturns = [] then
    { totalRebalanceCycles := p.cycles.length, totalLegsOpened := 0, totalLegsClosed := 0, netPnls := [], grossReturns := [],
      netReturns := [], averageFeeBps := 0, averageSlippageBps := 0, startTime := p.start, endTime := p.stop }
  else
    { totalRebalanceCycles := p.cycles.length, totalLegsOpened := state.legsOpened, totalLegsClosed := state.legsClosed,
      netPnls := state.netPnls, grossReturns := state.grossReturns, netReturns := state.netReturns,
      averageFeeBps := if 0 < state.legsClosed then state.totalFeeCost / state.legsClosed else 0,
      averageSlippageBps := if 0 < state.legsClosed then state.totalSlippageCost / state.legsClosed else 0,
      startTime := p.start, endTime := p.stop }

/-- `run_cross_sectional_replay`. -/
def runCrossSectionalReplay : Except CrossSectionalError Result := do
  let p ← args.plan
  let state ← p.cycles.foldlM (args.runCycle p.history) {}
  let final ← state.openPositions.foldlM (fun s e => args.closeAt p.finalCycle s e.1 e.2) state
  .ok (report p final)

end CrossSectionalArgs

end TradingPlatform
