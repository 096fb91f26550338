import Mathlib.Data.List.Chain
import TradingPlatform.Theorems.TighteningAtomic

/-!
# The stops of profit protection

A cycle rounds the stop of the policy to the quantity step of the market, toward profit. So the stop may leave the price tick,
and it may pass the mark price it was derived from. What was submitted before a raise is not recorded, and what is recorded loses
its further decimals: a later pass may submit the same again.
-/

namespace TradingPlatform

open Grid

/-! ## The statement -/

/-- A pass of profit protection in a cycle: the world it finds, the account, the market and the store. -/
structure ProfitPass where
  world : World
  snapshot : AuthoritativeAccountSnapshot
  market : Except PyError PreSubmitMarketSnapshot
  failure : StoreFailure := noStoreFailure

namespace ProfitPass

/-- The pass, as the cycle makes it. -/
def run (mode : V2ExecutionMode) (symbol : String) (c : ProfitPass) : Except PyError Unit × World :=
  cycleProfitProtection c.world symbol c.snapshot (loadLocalState c.world.db mode).1 c.market c.failure

/-- The tightenings that are due in the pass. -/
def due (mode : V2ExecutionMode) (symbol : String) (c : ProfitPass) : List (LocalPositionView × Tightening) :=
  dueTightenings symbol c.snapshot (fetchStepSize c.market) (loadLocalState c.world.db mode).1.positions

end ProfitPass

/-- The tightenings of a loop that are submitted: those before a raise, and the one that raises. -/
def submittedTightenings (failure : StoreFailure) : List (LocalPositionView × Tightening) → World →
    List (LocalPositionView × Tightening)
  | [], _ => []
  | (p, t) :: rest, w =>
    if (stopClientOrderId p.positionId t.revision).isOk then
      (p, t) :: match tightenStop w p t failure with
        | (.error _, _) => []
        | (.ok _, w) => submittedTightenings failure rest w
    else []

/-- A stop that was submitted, with what it was derived from. -/
structure SubmittedStop where
  direction : Direction
  entryPrice : ℚ
  originalStop : ℚ
  currentStop : ℚ
  markPrice : ℚ
  stepSize : ℚ
  stopPrice : ℚ
  deriving DecidableEq

/-- The stop that a pass submits for a position. -/
def ProfitPass.submission (mode : V2ExecutionMode) (symbol positionId : String) (c : ProfitPass) : Option SubmittedStop :=
  ((submittedTightenings c.failure (c.due mode symbol) c.world).find? fun pt => decide (pt.1.positionId = positionId)).map
    fun pt =>
      { direction := pt.1.direction, entryPrice := pt.1.entryPrice, originalStop := pt.1.originalStopPrice.getD 0,
        currentStop := pt.1.currentStopPrice.getD 0,
        markPrice := (c.snapshot.positionOf pt.1.symbol pt.1.direction).elim 0 (·.markPrice),
        stepSize := fetchStepSize c.market, stopPrice := pt.2.safeStop }

/-- The stops that are submitted for a position, pass after pass. -/
def submissions (mode : V2ExecutionMode) (symbol positionId : String) (passes : List ProfitPass) : List SubmittedStop :=
  passes.filterMap (·.submission mode symbol positionId)

/-- The stops only tighten, and only to prices that can be placed. -/
structure OnlyTightens (priceTick : ℚ) (stops : List SubmittedStop) : Prop where
  tighter : ∀ s ∈ stops, s.direction.Worse s.currentStop s.stopPrice
  towardsProfit : stops.IsChain fun a b => a.direction.Worse a.stopPrice b.stopPrice
  onTick : ∀ s ∈ stops, OnGrid priceTick s.stopPrice
  protective : ∀ s ∈ stops, s.direction.Worse s.stopPrice s.markPrice

/-- The stop that is recorded for a position. -/
def Database.currentStop (db : Database) (positionId : String) : Option ℚ :=
  (db.activeProtection positionId).map (·.stopLossPrice)

/-- What profit protection never changes of a position. -/
structure ProtectedEntry where
  direction : Direction
  entryPrice : ℚ
  originalStop : ℚ

/-- The stop of the policy at a mark price that reaches a tier. -/
def ProtectedEntry.lockAt (e : ProtectedEntry) (markPrice : ℚ) : Option ℚ :=
  (p1ProfitProtection e.direction e.entryPrice e.originalStop markPrice).map (·.2.2)

/-- The mark price of a position in a pass. -/
def ProfitPass.markPrice (symbol : String) (direction : Direction) (c : ProfitPass) : ℚ :=
  (c.snapshot.positionOf symbol direction).elim 0 (·.markPrice)

/-- The mark price of a pass reaches a tier whose stop is better than the recorded one. -/
structure ProfitPass.DueAt (symbol positionId : String) (e : ProtectedEntry) (c : ProfitPass) (current lock : ℚ) : Prop where
  recorded : c.world.db.currentStop positionId = some current
  reached : e.lockAt (c.markPrice symbol e.direction) = some lock
  better : e.direction.Worse current lock

/-- The first multiple of a step at a price or beyond it, toward profit. -/
structure FirstBeyond (direction : Direction) (step price z : ℚ) : Prop where
  onGrid : OnGrid step z
  reaches : ¬direction.Worse z price
  first : ∀ z', OnGrid step z' → ¬direction.Worse z' price → ¬direction.Worse z' z

/-- Where a tightening is due, the first multiple of the quantity step is on the price tick and short of the mark price. Where a
later pass finds a recorded stop that falls short of it, the stop of the policy has moved beyond it. -/
structure StepFits (symbol positionId : String) (priceTick : ℚ) (e : ProtectedEntry) (passes : List ProfitPass) : Prop where
  placeable : ∀ c ∈ passes, ∀ current lock z, c.DueAt symbol positionId e current lock →
    FirstBeyond e.direction (fetchStepSize c.market) lock z →
      OnGrid priceTick z ∧ e.direction.Worse z (c.markPrice symbol e.direction)
  overtaken : passes.Pairwise fun a b => ∀ current lock current' lock' z, a.DueAt symbol positionId e current lock →
    b.DueAt symbol positionId e current' lock' → FirstBeyond e.direction (fetchStepSize a.market) lock z →
      e.direction.Worse current' z → e.direction.Worse z lock'

/-- Passes over a position: whatever happens between them, its entry and its initial stop are the same. -/
structure PassesOf (positionId : String) (e : ProtectedEntry) (passes : List ProfitPass) : Prop where
  entry : ∀ c ∈ passes, ∀ p ∈ c.world.db.positions, p.positionId = positionId →
    p.direction = e.direction ∧ p.entryPrice = e.entryPrice
  original : ∀ c ∈ passes, ∀ r, c.world.db.activeProtection positionId = some r → r.originalStop = e.originalStop
  stepSize_pos : ∀ c ∈ passes, ∀ m, c.market = .ok m → 0 < m.stepSize

namespace ProfitStopsAux

open TighteningAux

/-! ## Rounding -/

theorem tickedStop_long {stop tickSize : ℚ} : tickedStop .long stop tickSize = up tickSize stop := by
  unfold tickedStop up
  rw [Rat.ceil_eq_neg_floor_neg]
  rfl

theorem tickedStop_short {stop tickSize : ℚ} : tickedStop .short stop tickSize = down tickSize stop := rfl

/-- The stop of a tightening is the first multiple of the tick at the stop of the policy or beyond it. -/
theorem tickedStop_first (direction : Direction) (stop : ℚ) {tickSize : ℚ} (h : 0 < tickSize) :
    FirstBeyond direction tickSize stop (tickedStop direction stop tickSize) := by
  cases direction with
  | long =>
    rw [tickedStop_long]
    exact ⟨onGrid_up, not_lt.mpr (le_up h), fun z hz hreach => not_lt.mpr (up_le h hz (not_lt.mp hreach))⟩
  | short =>
    rw [tickedStop_short]
    exact ⟨onGrid_down, not_lt.mpr (down_le h), fun z hz hreach => not_lt.mpr (le_down h hz (not_lt.mp hreach))⟩

/-- There is one first multiple. -/
theorem firstBeyond_unique {direction : Direction} {step price z z' : ℚ} (h : FirstBeyond direction step price z)
    (h' : FirstBeyond direction step price z') : z = z' := by
  have hnot := h.first z' h'.onGrid h'.reaches
  have hnot' := h'.first z h.onGrid h.reaches
  cases direction with
  | long => exact le_antisymm (not_lt.mp hnot) (not_lt.mp hnot')
  | short => exact le_antisymm (not_lt.mp hnot') (not_lt.mp hnot)

/-- What is not better than a value falls short of all that the value falls short of. -/
theorem worse_of_not_worse {direction : Direction} {a b c : ℚ} (h : ¬direction.Worse b a) (h' : direction.Worse b c) :
    direction.Worse a c := by
  cases direction with
  | long => exact lt_of_le_of_lt (not_lt.mp h) (show b < c from h')
  | short => exact lt_of_lt_of_le (show c < b from h') (not_lt.mp h)

theorem worse_of_worse_of_not {direction : Direction} {a b c : ℚ} (h : direction.Worse a b) (h' : ¬direction.Worse c b) :
    direction.Worse a c := by
  cases direction with
  | long => exact lt_of_lt_of_le (show a < b from h) (not_lt.mp h')
  | short => exact lt_of_le_of_lt (not_lt.mp h') (show b < a from h)

theorem fetchStepSize_pos {market : Except PyError PreSubmitMarketSnapshot} (h : ∀ m, market = .ok m → 0 < m.stepSize) :
    0 < fetchStepSize market := by
  cases market with
  | ok m => exact h m rfl
  | error e =>
    unfold fetchStepSize
    norm_num

/-! ## One pass -/

section Pass

variable {mode : V2ExecutionMode} {symbol positionId : String} {failure : StoreFailure}

theorem submittedTightenings_sublist (list : List (LocalPositionView × Tightening)) (w : World) :
    (submittedTightenings failure list w).Sublist list := by
  induction list generalizing w with
  | nil => exact List.Sublist.refl _
  | cons pt rest ih =>
    unfold submittedTightenings
    split
    · split
      · exact (List.nil_sublist rest).cons_cons pt
      · exact (ih _).cons_cons pt
    · exact List.nil_sublist _

/-- What a submission says of its pass. -/
structure SubmittedIn (symbol positionId : String) (c : ProfitPass) (s : SubmittedStop) : Prop where
  row : ∃ q ∈ c.world.db.positions, q.positionId = positionId ∧ s.direction = q.direction ∧ s.entryPrice = q.entryPrice
  record : ∃ r, c.world.db.activeProtection positionId = some r ∧ s.originalStop = r.originalStop ∧
    s.currentStop = r.stopLossPrice
  stepSize_eq : s.stepSize = fetchStepSize c.market
  markPrice_eq : s.markPrice = c.markPrice symbol s.direction
  decided : ∃ trigger part lock, p1ProfitProtection s.direction s.entryPrice s.originalStop s.markPrice =
    some (trigger, part, lock) ∧ s.direction.Worse s.currentStop lock ∧ s.stopPrice = tickedStop s.direction lock s.stepSize

theorem SubmittedIn.current {c : ProfitPass} {s : SubmittedStop} (h : SubmittedIn symbol positionId c s) :
    c.world.db.currentStop positionId = some s.currentStop := by
  obtain ⟨r, hr, -, hcurrent⟩ := h.record
  unfold Database.currentStop
  rw [hr, hcurrent, Option.map_some]

theorem submittedIn {c : ProfitPass} {s : SubmittedStop} (h : c.submission mode symbol positionId = some s) :
    SubmittedIn symbol positionId c s := by
  obtain ⟨⟨p, t⟩, hfound, rfl⟩ := Option.map_eq_some_iff.mp h
  have hposition : p.positionId = positionId := by
    have hfits := List.find?_some hfound
    exact of_decide_eq_true hfits
  have hdue : (p, t) ∈ c.due mode symbol :=
    (submittedTightenings_sublist _ _).subset (List.mem_of_find?_eq_some hfound)
  obtain ⟨q, hq, hview, hdue⟩ := mem_due hdue
  dsimp only at hview hdue
  obtain ⟨e, original, current, trigger, part, lock, hmark, horiginal, hcurrent, hp1, hworse, hsafe⟩ := hdue.decided
  obtain ⟨r, hr⟩ : ∃ r, c.world.db.activeProtection q.positionId = some r := by
    rw [hview] at horiginal
    obtain ⟨r, hr, -⟩ := Option.map_eq_some_iff.mp horiginal
    exact ⟨r, hr⟩
  have hview' : p.originalStopPrice = some r.originalStop ∧ p.currentStopPrice = some r.stopLossPrice := by
    rw [hview]
    unfold Database.localPosition
    rw [hr]
    exact ⟨rfl, rfl⟩
  have hsameId : q.positionId = positionId := by
    rw [← hposition, hview]
    rfl
  refine ⟨⟨q, List.mem_of_mem_filter hq, hsameId, ?_, ?_⟩, ⟨r, hsameId ▸ hr, ?_, ?_⟩, rfl, ?_,
    ⟨trigger, part, lock, ?_, ?_, hsafe⟩⟩
  · rw [hview]
    rfl
  · rw [hview]
    rfl
  · rw [hview'.1, Option.getD_some]
  · rw [hview'.2, Option.getD_some]
  · rw [hdue.symbol_eq]
    rfl
  · rw [horiginal, hmark]
    exact hp1
  · rw [hcurrent]
    exact hworse

end Pass

/-! ## A run -/

section Run

variable {mode : V2ExecutionMode} {symbol positionId : String} {e : ProtectedEntry} {c : ProfitPass}
  {passes : List ProfitPass}

/-- What a submission of a pass is: due at the stop of the policy, and the first multiple of the step from there. -/
theorem submission_of_pass (h : PassesOf positionId e passes) (hc : c ∈ passes) {s : SubmittedStop}
    (hs : c.submission mode symbol positionId = some s) :
    s.direction = e.direction ∧ s.markPrice = c.markPrice symbol e.direction ∧
      ∃ lock, c.DueAt symbol positionId e s.currentStop lock ∧
        FirstBeyond e.direction (fetchStepSize c.market) lock s.stopPrice := by
  have hin := submittedIn hs
  obtain ⟨q, hq, hposition, hdirection, hprice⟩ := hin.row
  obtain ⟨hsameDirection, hsamePrice⟩ := h.entry c hc q hq hposition
  obtain ⟨r, hr, horiginal, -⟩ := hin.record
  obtain ⟨trigger, part, lock, hp1, hworse, hstop⟩ := hin.decided
  have hfirst := tickedStop_first s.direction lock (fetchStepSize_pos (h.stepSize_pos c hc))
  rw [← hin.stepSize_eq, ← hstop] at hfirst
  rw [hin.markPrice_eq, hprice, hsamePrice, horiginal, h.original c hc r hr] at hp1
  rw [hdirection, hsameDirection] at hp1 hworse hfirst
  refine ⟨hdirection.trans hsameDirection, ?_, lock, ⟨hin.current, ?_, hworse⟩, ?_⟩
  · rw [hin.markPrice_eq, hdirection, hsameDirection]
  · unfold ProtectedEntry.lockAt
    rw [hp1, Option.map_some]
  · rw [← hin.stepSize_eq]
    exact hfirst

end Run

end ProfitStopsAux

open ProfitStopsAux

/-- In every run whose passes meet the condition the stops only tighten, and only to prices that can be placed. -/
theorem onlyTightens_run {mode : V2ExecutionMode} {symbol positionId : String} {e : ProtectedEntry} {passes : List ProfitPass}
    {priceTick : ℚ} (h : PassesOf positionId e passes) (hfits : StepFits symbol positionId priceTick e passes) :
    OnlyTightens priceTick (submissions mode symbol positionId passes) := by
  have hplaced : ∀ s ∈ submissions mode symbol positionId passes, s.direction.Worse s.currentStop s.stopPrice ∧
      OnGrid priceTick s.stopPrice ∧ s.direction.Worse s.stopPrice s.markPrice := by
    intro s hs
    obtain ⟨c, hc, hsub⟩ := List.mem_filterMap.mp hs
    obtain ⟨hdirection, hmark, lock, hdue, hfirst⟩ := submission_of_pass h hc hsub
    obtain ⟨hgrid, hshort⟩ := hfits.placeable c hc _ lock s.stopPrice hdue hfirst
    rw [hdirection, hmark]
    exact ⟨worse_of_worse_of_not hdue.better hfirst.reaches, hgrid, hshort⟩
  -- the later of two stops lies beyond the policy price of its pass, which lies beyond the earlier stop or the recorded one
  have htowards : (submissions mode symbol positionId passes).Pairwise fun a b => a.direction.Worse a.stopPrice b.stopPrice := by
    refine List.pairwise_filterMap.mpr (hfits.overtaken.imp_of_mem fun {c d} hc hd hcd a ha b hb => ?_)
    obtain ⟨hdirection, -, lock, hdue, hfirst⟩ := submission_of_pass h hc ha
    obtain ⟨-, -, lock', hdue', hfirst'⟩ := submission_of_pass h hd hb
    rw [hdirection]
    by_cases hshort : e.direction.Worse b.currentStop a.stopPrice
    · exact worse_of_worse_of_not (hcd _ lock _ lock' a.stopPrice hdue hdue' hfirst hshort) hfirst'.reaches
    · exact worse_of_not_worse hshort (worse_of_worse_of_not hdue'.better hfirst'.reaches)
  exact ⟨fun s hs => (hplaced s hs).1, htowards.isChain, fun s hs => (hplaced s hs).2.1, fun s hs => (hplaced s hs).2.2⟩

/-! ## A step that is not the tick -/

namespace ProfitStopsAux

open TighteningAux LostStopAux

/-- A pass over the position of `filledRecords` at a mark price, in a market with a quantity step. -/
def profitPass (markPrice stepSize : ℚ) : ProfitPass where
  world := { db := filledRecords, exchange := { behaviour := fun _ => .answered "3" true (some "open") } }
  snapshot := openAccount markPrice
  market := .ok { symbol := "BTCUSDT", currentPrice := markPrice, atr := 0, tickSize := 1 / 10, stepSize, minNotional := 5 }

/-- What the pass submits. -/
def profitStop (markPrice stepSize stopPrice : ℚ) : SubmittedStop where
  direction := .long
  entryPrice := 100
  originalStop := 99
  currentStop := 99
  markPrice := markPrice
  stepSize := stepSize
  stopPrice := stopPrice

/-- The position of the passes. -/
def profitEntry : ProtectedEntry := { direction := .long, entryPrice := 100, originalStop := 99 }

/-- The next pass, at another mark price, over what a pass recorded. -/
def nextPass (markPrice stepSize : ℚ) (c : ProfitPass) : ProfitPass :=
  { profitPass markPrice stepSize with
    world := { db := (c.run .binanceTestnet "BTCUSDT").2.db
               exchange := { behaviour := fun _ => .answered "4" true (some "open") } } }

theorem profitPass_inputs (markPrice stepSize : ℚ) :
    (profitPass markPrice stepSize).markPrice "BTCUSDT" .long = markPrice ∧
      fetchStepSize (profitPass markPrice stepSize).market = stepSize := ⟨rfl, rfl⟩

/-- The market and the account of the next pass do not depend on what was recorded. -/
theorem nextPass_inputs (markPrice stepSize : ℚ) (c : ProfitPass) :
    (nextPass markPrice stepSize c).markPrice "BTCUSDT" .long = markPrice ∧
      fetchStepSize (nextPass markPrice stepSize c).market = stepSize := ⟨rfl, rfl⟩

/-- Passes over the position of the sample and its one record. -/
theorem passesOf_sample {passes : List ProfitPass} (hpositions : ∀ c ∈ passes, c.world.db.positions = filledRecords.positions)
    (hrecords : ∀ c ∈ passes, ∀ r ∈ c.world.db.protections, r.originalStop = 99)
    (hstep : ∀ c ∈ passes, ∀ m, c.market = .ok m → 0 < m.stepSize) : PassesOf "position-1" profitEntry passes := by
  refine ⟨fun c hc p hp _ => ?_, fun c hc r hr => ?_, hstep⟩
  · rw [hpositions c hc] at hp
    rw [List.mem_singleton.mp hp]
    exact ⟨rfl, rfl⟩
  · exact hrecords c hc r (activeProtection_some hr).1

theorem profitPass_passes (markPrice : ℚ) {stepSize : ℚ} (h : 0 < stepSize) :
    PassesOf "position-1" profitEntry [profitPass markPrice stepSize] := by
  refine passesOf_sample (fun c hc => ?_) (fun c hc => ?_) (fun c hc m hm => ?_)
  · rw [List.mem_singleton.mp hc]
    rfl
  · rw [List.mem_singleton.mp hc]
    change ∀ r ∈ filledRecords.protections, r.originalStop = 99
    decide +kernel
  · rw [List.mem_singleton.mp hc] at hm
    rw [← Except.ok.inj hm]
    exact h

/-- What the pass submits with a fine step and with a coarse one. -/
theorem profitPass_submissions :
    submissions .binanceTestnet "BTCUSDT" "position-1" [profitPass (1007 / 10) (1 / 1000)] =
      [profitStop (1007 / 10) (1 / 1000) (10005 / 100)] ∧
    submissions .binanceTestnet "BTCUSDT" "position-1" [profitPass (1007 / 10) 1] = [profitStop (1007 / 10) 1 101] := by
  decide +kernel

theorem profitStop_entered (markPrice stepSize stopPrice : ℚ) :
    ∀ s ∈ [profitStop markPrice stepSize stopPrice], s.direction.Worse s.originalStop s.entryPrice := by
  intro s hs
  rw [List.mem_singleton.mp hs]
  change (99 : ℚ) < 100
  norm_num

end ProfitStopsAux

/-- A step below the tick gives a stop between two ticks, a coarse one a stop above the mark price of a long. -/
theorem onlyTightens_false :
    (¬∀ (mode : V2ExecutionMode) (symbol positionId : String) (e : ProtectedEntry) (passes : List ProfitPass)
        (priceTick : ℚ), PassesOf positionId e passes → 0 < priceTick →
        (∀ c ∈ passes, ∃ m, c.market = .ok m ∧ m.tickSize = priceTick) →
        (∀ s ∈ submissions mode symbol positionId passes, s.direction.Worse s.originalStop s.entryPrice) →
        ∀ s ∈ submissions mode symbol positionId passes, OnGrid priceTick s.stopPrice) ∧
    ¬∀ (mode : V2ExecutionMode) (symbol positionId : String) (e : ProtectedEntry) (passes : List ProfitPass)
        (priceTick : ℚ), PassesOf positionId e passes → 0 < priceTick →
        (∀ c ∈ passes, ∃ m, c.market = .ok m ∧ m.tickSize = priceTick) →
        (∀ s ∈ submissions mode symbol positionId passes, s.direction.Worse s.originalStop s.entryPrice) →
        ∀ s ∈ submissions mode symbol positionId passes, s.direction.Worse s.stopPrice s.markPrice := by
  have hmarket : ∀ markPrice stepSize, ∀ c ∈ [profitPass markPrice stepSize], ∃ m, c.market = .ok m ∧ m.tickSize = 1 / 10 := by
    intro markPrice stepSize c hc
    rw [List.mem_singleton.mp hc]
    exact ⟨_, rfl, rfl⟩
  obtain ⟨hfine, hcoarse⟩ := profitPass_submissions
  constructor
  · intro h
    have hgrid := h .binanceTestnet "BTCUSDT" "position-1" profitEntry _ (1 / 10) (profitPass_passes (1007 / 10) (by norm_num))
      (by norm_num) (hmarket _ (1 / 1000)) (by rw [hfine]; exact profitStop_entered _ _ _)
    rw [hfine] at hgrid
    obtain ⟨k, hk⟩ := hgrid _ (List.mem_singleton_self _)
    have hint : (2001 : ℤ) = 2 * k := by
      have hrat : (2001 : ℚ) = 2 * k := by
        change (10005 / 100 : ℚ) = k * (1 / 10) at hk
        linarith
      exact_mod_cast hrat
    omega
  · intro h
    have hbelow := h .binanceTestnet "BTCUSDT" "position-1" profitEntry _ (1 / 10) (profitPass_passes (1007 / 10) (by norm_num))
      (by norm_num) (hmarket _ 1) (by rw [hcoarse]; exact profitStop_entered _ _ _)
    rw [hcoarse] at hbelow
    have hmark : (101 : ℚ) < 1007 / 10 := hbelow _ (List.mem_singleton_self _)
    norm_num at hmark

namespace ProfitStopsAux

/-- A pass at seven tenths of the initial risk and one at the full risk, with the tick for a step. -/
def tickPasses : List ProfitPass :=
  [profitPass (1007 / 10) (1 / 10), nextPass 101 (1 / 10) (profitPass (1007 / 10) (1 / 10))]

/-- What the policy asks for at the two mark prices, and the first tick from there. -/
theorem tickPasses_locks : profitEntry.lockAt (1007 / 10) = some (10005 / 100) ∧ profitEntry.lockAt 101 = some (1004 / 10) ∧
    tickedStop .long (10005 / 100) (1 / 10) = 1001 / 10 ∧ tickedStop .long (1004 / 10) (1 / 10) = 1004 / 10 := by
  decide +kernel

/-- What is due in a pass, if the policy asks for a stop at its mark price. -/
theorem due_at {markPrice current lock z stop : ℚ} {c : ProfitPass} (hmark : c.markPrice "BTCUSDT" .long = markPrice)
    (hmarket : fetchStepSize c.market = 1 / 10) (hlock : profitEntry.lockAt markPrice = some stop)
    (hdue : c.DueAt "BTCUSDT" "position-1" profitEntry current lock)
    (hfirst : FirstBeyond .long (fetchStepSize c.market) lock z) : lock = stop ∧ z = tickedStop .long stop (1 / 10) := by
  have hat := hdue.reached
  rw [show profitEntry.direction = .long from rfl, hmark, hlock] at hat
  obtain rfl := Option.some.inj hat
  rw [hmarket] at hfirst
  exact ⟨rfl, firstBeyond_unique hfirst (tickedStop_first .long stop (by norm_num))⟩

example : tickedStop .long (10005 / 100) (1 / 10) = 1001 / 10 := by decide +kernel

theorem tickPasses_passes : PassesOf "position-1" profitEntry tickPasses := by
  refine passesOf_sample (fun c hc => ?_) (fun c hc => ?_) (fun c hc m hm => ?_)
  · rcases List.mem_pair.mp hc with rfl | rfl
    · rfl
    · decide +kernel
  · rcases List.mem_pair.mp hc with rfl | rfl
    · decide +kernel
    · decide +kernel
  · rcases List.mem_pair.mp hc with rfl | rfl
    · rw [← Except.ok.inj hm]
      norm_num
    · rw [← Except.ok.inj hm]
      norm_num

/-- The stops of the policy in the two passes, and the ticks they are rounded to, are in order and short of the mark prices. -/
theorem tickPasses_fit : StepFits "BTCUSDT" "position-1" (1 / 10) profitEntry tickPasses := by
  obtain ⟨hlock, hlock', hstop, hstop'⟩ := tickPasses_locks
  obtain ⟨hmark, hmarket⟩ := profitPass_inputs (1007 / 10) (1 / 10)
  obtain ⟨hmark', hmarket'⟩ := nextPass_inputs 101 (1 / 10) (profitPass (1007 / 10) (1 / 10))
  refine ⟨fun c hc current lock z hdue hfirst => ?_, List.pairwise_pair.mpr ?_⟩
  · rcases List.mem_pair.mp hc with rfl | rfl
    · obtain ⟨-, rfl⟩ := due_at hmark hmarket hlock hdue hfirst
      rw [show profitEntry.direction = .long from rfl, hmark, hstop]
      exact ⟨⟨1001, by norm_num⟩, show (1001 / 10 : ℚ) < 1007 / 10 by norm_num⟩
    · obtain ⟨-, rfl⟩ := due_at hmark' hmarket' hlock' hdue hfirst
      rw [show profitEntry.direction = .long from rfl, hmark', hstop']
      exact ⟨⟨1004, by norm_num⟩, show (1004 / 10 : ℚ) < 101 by norm_num⟩
  · intro current lock current' lock' z hdue hdue' hfirst _
    obtain ⟨-, rfl⟩ := due_at hmark hmarket hlock hdue hfirst
    have hreached := hdue'.reached
    rw [show profitEntry.direction = .long from rfl, hmark', hlock'] at hreached
    rw [hstop, ← Option.some.inj hreached]
    exact show (1001 / 10 : ℚ) < 1004 / 10 by norm_num

/-- Both passes submit a stop. -/
theorem tickPasses_submissions :
    (submissions .binanceTestnet "BTCUSDT" "position-1" tickPasses).map (·.stopPrice) = [1001 / 10, 1004 / 10] := by
  decide +kernel

end ProfitStopsAux

/-- With the tick for a step, the stops at the two tiers are placed. -/
theorem onlyTightens_tickStep :
    OnlyTightens (1 / 10) (submissions .binanceTestnet "BTCUSDT" "position-1" tickPasses) ∧
      (submissions .binanceTestnet "BTCUSDT" "position-1" tickPasses).map (·.stopPrice) = [1001 / 10, 1004 / 10] :=
  ⟨onlyTightens_run tickPasses_passes tickPasses_fit, tickPasses_submissions⟩

end TradingPlatform
