import Mathlib.Tactic.Linarith
import TradingPlatform.Engine.CarryExecution

/-!
# Hedged carry runs

A carry run should never hide an unhedged leg. Its reported exposure is read off which venues have something open, so it is blind to
two legs of different size, and neither the hedge nor the compensation is checked against what was filled.
-/

namespace TradingPlatform

/-- The spot leg of the run fills: the signal is admitted and the accounts are clean. -/
structure SpotFilled (g : CarryGateways) (freshId : String) (request : CarryExecutionRequest) (signal : FundingArbitrageSignal)
    (v : CarryVenues) : Prop where
  admitted : signal.admitted request = true
  clean : v.anyOpen = false
  filled : 0 < (g.spot (request.spotEntryOrder (request.runId freshId))).filled

/-- A run that does not hide an unhedged leg. -/
structure NeverHides (outcome : Except PyError CarryExecutionStatus × CarryVenues) : Prop where
  returns : ∃ status, outcome.1 = .ok status
  running : ∀ status, outcome.1 = .ok status → status.runStatus = .running → outcome.2.spot = -outcome.2.perp
  completed : ∀ status, outcome.1 = .ok status → status.runStatus = .completed → outcome.2.spot = 0 ∧ outcome.2.perp = 0
  exposed : ∀ status, outcome.1 = .ok status → outcome.2.spot ≠ -outcome.2.perp → status.finalNetExposureUsdt ≠ 0

/-- What is left of the spot leg and of the short is equal, or one of them is gone. -/
def Balanced (spot short : ℚ) : Prop := spot = 0 ∨ short = 0 ∨ spot = short

/-- The venues keep the hedge, wherever the spot leg reported a quantity: where the hedge raises, the compensation returns and leaves
a balance; a hedge that stays open fills what the spot leg filled; and the exits, as far as they were sent, leave a balance. -/
def HedgeKept (g : CarryGateways) (freshId : String) (request : CarryExecutionRequest) : Prop :=
  let runId := request.runId freshId
  let entry := g.spot (request.spotEntryOrder runId)
  ∀ raw, entry.result = .ok raw → 0 < raw.quantity.getD 0 →
    let quantity := raw.quantity.getD 0
    let hedge := g.perp (request.perpEntryOrder runId quantity)
    let compensation := g.spot (request.spotCompensateOrder runId quantity)
    let perpExit := g.perp (request.perpExitOrder runId quantity)
    let spotExit := g.spot (request.spotExitOrder runId quantity)
    match hedge.result with
    | .error _ => (∃ sold, compensation.result = .ok sold) ∧ Balanced (entry.filled - compensation.filled) hedge.filled
    | .ok _ =>
      if request.closeImmediately = false then hedge.filled = entry.filled
      else match perpExit.result with
        | .error _ => Balanced entry.filled (hedge.filled - perpExit.filled)
        | .ok _ => Balanced (entry.filled - spotExit.filled) (hedge.filled - perpExit.filled)

namespace CarryHedgeAux

variable {g : CarryGateways} {request : CarryExecutionRequest} {runId : String} {v : CarryVenues} {p : CarryProgress}

theorem anyOpen_eq_false : v.anyOpen = false ↔ v.spotOrders = false ∧ v.spot = 0 ∧ v.perpOrders = false ∧ v.perp = 0 := by
  simp [CarryVenues.anyOpen, and_assoc]

theorem submitSpot_buy {order : CarryOrder} (h : order.side = "buy") :
    g.submitSpot order v = ((g.spot order).result,
      { v with spot := v.spot + (g.spot order).filled, spotOrders := (g.spot order).restingOrders }) := by
  simp [CarryGateways.submitSpot, h]

theorem submitSpot_sell {order : CarryOrder} (h : order.side = "sell") :
    g.submitSpot order v = ((g.spot order).result,
      { v with spot := v.spot - (g.spot order).filled, spotOrders := (g.spot order).restingOrders }) := by
  simp [CarryGateways.submitSpot, h]

theorem submitPerp_buy {order : CarryOrder} (h : order.side = "buy") :
    g.submitPerp order v = ((g.perp order).result,
      { v with perp := v.perp + (g.perp order).filled, perpOrders := (g.perp order).restingOrders }) := by
  simp [CarryGateways.submitPerp, h]

theorem submitPerp_sell {order : CarryOrder} (h : order.side = "sell") :
    g.submitPerp order v = ((g.perp order).result,
      { v with perp := v.perp - (g.perp order).filled, perpOrders := (g.perp order).restingOrders }) := by
  simp [CarryGateways.submitPerp, h]

/-- The reported exposure shows a difference between the legs exactly if one of them is gone. -/
theorem exposed_iff {notional : ℚ} (hnotional : 0 < notional) :
    (v.spot ≠ -v.perp → v.netExposure notional ≠ 0) ↔ Balanced v.spot (-v.perp) := by
  unfold CarryVenues.netExposure Balanced
  rw [neg_eq_zero]
  by_cases hspot : v.spot = 0
  · by_cases hperp : v.perp = 0
    · simp [hspot, hperp]
    · simp [hspot, hperp, hnotional.ne']
  · by_cases hperp : v.perp = 0
    · simp [hspot, hperp, hnotional.ne']
    · simp [hspot, hperp]

/-- A run that failed hides nothing exactly if what it left is balanced. -/
theorem failed_neverHides (carryState : CarryState) (errorSummary : String) :
    NeverHides (.ok (request.failed runId p carryState errorSummary), p.venues) ↔ Balanced p.venues.spot (-p.venues.perp) := by
  rw [← exposed_iff request.notional_pos]
  constructor
  · intro h
    exact h.exposed _ rfl
  · intro h
    refine ⟨⟨_, rfl⟩, ?_, ?_, ?_⟩
    · intro status hstatus hrunning
      cases hstatus
      nomatch hrunning
    · intro status hstatus hcompleted
      cases hstatus
      nomatch hcompleted
    · intro status hstatus
      cases hstatus
      exact h

/-- A run that raises hides what it left. -/
theorem raised_neverHides {e : PyError} : ¬NeverHides (.error e, v) := by
  intro h
  obtain ⟨status, hstatus⟩ := h.returns
  nomatch hstatus

/-- The compensation of a spot leg that reported a quantity. -/
theorem compensate_neverHides {e : PyError} (hquantity : 0 < p.spotQuantity) :
    NeverHides (request.compensate g runId p e) ↔
      (∃ sold, (g.spot (request.spotCompensateOrder runId p.spotQuantity)).result = .ok sold) ∧
        Balanced (p.venues.spot - (g.spot (request.spotCompensateOrder runId p.spotQuantity)).filled) (-p.venues.perp) := by
  unfold CarryExecutionRequest.compensate
  rw [if_pos hquantity, submitSpot_sell rfl]
  dsimp only
  cases hresult : (g.spot (request.spotCompensateOrder runId p.spotQuantity)).result with
  | error raised => exact iff_of_false raised_neverHides fun h => by simp at h
  | ok sold =>
    refine Iff.trans (failed_neverHides _ _) ?_
    simp

/-- A spot leg that reported nothing is open alone, and the exposure shows it. -/
theorem uncompensated_neverHides {e : PyError} (hquantity : ¬0 < p.spotQuantity) (hperp : p.venues.perp = 0) :
    NeverHides (request.compensate g runId p e) := by
  unfold CarryExecutionRequest.compensate
  rw [if_neg hquantity, failed_neverHides, hperp]
  exact .inr (.inl neg_zero)

/-- After both exits, a run is completed only where both venues are flat, and hides nothing exactly if what is left is balanced. -/
theorem verifyFlat_neverHides :
    NeverHides (.ok (request.verifyFlat runId p), p.venues) ↔ Balanced p.venues.spot (-p.venues.perp) := by
  unfold CarryExecutionRequest.verifyFlat
  by_cases hopen : p.venues.anyOpen = true
  · rw [if_pos hopen, failed_neverHides]
  · rw [if_neg hopen]
    obtain ⟨-, hspot, -, hperp⟩ := anyOpen_eq_false.mp (by simpa using hopen)
    refine iff_of_true ⟨⟨_, rfl⟩, ?_, fun _ _ _ => ⟨hspot, hperp⟩, ?_⟩ (.inl hspot)
    · intro status hstatus hrunning
      cases hstatus
      nomatch hrunning
    · intro status _ hdiffer
      exact absurd (by rw [hspot, hperp, neg_zero]) hdiffer

/-- A hedged run that is closed. -/
theorem settle_close_neverHides (hclose : request.closeImmediately = true) :
    NeverHides (.ok (request.settle g runId p).1, (request.settle g runId p).2) ↔
      match (g.perp (request.perpExitOrder runId p.spotQuantity)).result with
      | .error _ => Balanced p.venues.spot (-p.venues.perp - (g.perp (request.perpExitOrder runId p.spotQuantity)).filled)
      | .ok _ => Balanced (p.venues.spot - (g.spot (request.spotExitOrder runId p.spotQuantity)).filled)
          (-p.venues.perp - (g.perp (request.perpExitOrder runId p.spotQuantity)).filled) := by
  unfold CarryExecutionRequest.settle CarryExecutionRequest.close
  rw [if_neg (by simp [hclose])]
  dsimp only
  rw [submitPerp_buy rfl]
  dsimp only
  cases hperp : (g.perp (request.perpExitOrder runId p.spotQuantity)).result with
  | error e =>
    refine Iff.trans (failed_neverHides _ _) ?_
    rw [neg_add, ← sub_eq_add_neg]
  | ok perpExit =>
    dsimp only
    rw [submitSpot_sell rfl]
    dsimp only
    cases hspot : (g.spot (request.spotExitOrder runId p.spotQuantity)).result with
    | error e =>
      refine Iff.trans (failed_neverHides _ _) ?_
      rw [neg_add, ← sub_eq_add_neg]
    | ok spotExit =>
      refine Iff.trans verifyFlat_neverHides ?_
      rw [neg_add, ← sub_eq_add_neg]

/-- A hedged run that stays open. -/
theorem settle_open_neverHides (hclose : request.closeImmediately = false) :
    NeverHides (.ok (request.settle g runId p).1, (request.settle g runId p).2) ↔ p.venues.spot = -p.venues.perp := by
  unfold CarryExecutionRequest.settle
  rw [if_pos hclose]
  constructor
  · intro h
    exact h.running _ rfl rfl
  · intro hhedged
    refine ⟨⟨_, rfl⟩, fun _ _ _ => hhedged, ?_, fun _ _ hdiffer => absurd hhedged hdiffer⟩
    intro status hstatus hcompleted
    cases hstatus
    nomatch hcompleted

end CarryHedgeAux

open CarryHedgeAux

/-- Once the spot leg fills, a run hides no unhedged leg exactly if the venues keep the hedge. -/
theorem run_neverHides (g : CarryGateways) (freshId : String) (request : CarryExecutionRequest) (signal : FundingArbitrageSignal)
    (v : CarryVenues) (h : SpotFilled g freshId request signal v) :
    NeverHides (g.run freshId request signal v) ↔ HedgeKept g freshId request := by
  obtain ⟨hspotOrders, hspot, hperpOrders, hperp⟩ := anyOpen_eq_false.mp h.clean
  unfold CarryGateways.run HedgeKept
  dsimp only
  rw [if_neg (by simp [h.admitted]), if_neg (by simp [h.clean])]
  generalize request.runId freshId = runId
  unfold CarryExecutionRequest.enter
  dsimp only
  rw [submitSpot_buy rfl]
  dsimp only
  cases hentry : (g.spot (request.spotEntryOrder runId)).result with
  | error e => exact iff_of_true (uncompensated_neverHides (lt_irrefl 0) hperp) fun raw hraw => (nomatch hraw)
  | ok spotEntry =>
    dsimp only
    by_cases hquantity : spotEntry.quantity.getD 0 ≤ 0
    · rw [if_pos hquantity]
      refine iff_of_true (uncompensated_neverHides (not_lt.mpr hquantity) hperp) fun raw hraw hpos => ?_
      cases hraw
      exact absurd hquantity (not_le.mpr hpos)
    · have hpos : 0 < spotEntry.quantity.getD 0 := not_le.mp hquantity
      rw [if_neg hquantity, submitPerp_sell rfl]
      dsimp only
      simp only [Except.ok.injEq, forall_eq', hpos, true_implies]
      cases hhedge : (g.perp (request.perpEntryOrder runId (spotEntry.quantity.getD 0))).result with
      | error e =>
        refine Iff.trans (compensate_neverHides hpos) ?_
        simp [hspot, hperp]
      | ok perpEntry =>
        dsimp only
        by_cases hclose : request.closeImmediately = false
        · rw [if_pos hclose]
          refine Iff.trans (settle_open_neverHides hclose) ?_
          simp [hspot, hperp, eq_comm]
        · rw [if_neg hclose]
          refine Iff.trans (settle_close_neverHides (by simpa using hclose)) ?_
          simp [hspot, hperp]

/-- Gateways that fill every spot order and every perpetual order with one quantity each, and report it. -/
def gatewaysFilling (spotFill perpFill : ℕ) : CarryGateways where
  spot order := ⟨spotFill, false, .ok { side := order.side, quantity := some spotFill }, Nat.cast_nonneg spotFill⟩
  perp order := ⟨perpFill, false, .ok { side := order.side, quantity := some perpFill }, Nat.cast_nonneg perpFill⟩

/-- A request for 1000 USDT. -/
def sampleCarry (closeImmediately : Bool) : CarryExecutionRequest :=
  { closeImmediately, notional_pos := by norm_num, edge_nonneg := by norm_num }

/-- A signal that is admitted. -/
def sampleFundingSignal : FundingArbitrageSignal :=
  { fundingBps := some 15, basisBps := some 1, estimatedNetEdgeBps := some 11, shouldEnterPaper := true }

theorem run_neverHides_full : NeverHides ((gatewaysFilling 10 10).run "r" (sampleCarry true) sampleFundingSignal {}) := by
  refine (run_neverHides (gatewaysFilling 10 10) "r" (sampleCarry true) sampleFundingSignal {}
    ⟨by decide +kernel, by decide +kernel, by decide +kernel⟩).mpr ?_
  intro raw _ _
  exact .inl (sub_self _)

/-- The spot leg fills 10 and its hedge 4: the run is reported as running, hedged and without exposure. -/
theorem run_neverHides_partialHedge :
    SpotFilled (gatewaysFilling 10 4) "r" (sampleCarry false) sampleFundingSignal {} ∧
      ¬NeverHides ((gatewaysFilling 10 4).run "r" (sampleCarry false) sampleFundingSignal {}) := by
  refine ⟨⟨by decide +kernel, by decide +kernel, by decide +kernel⟩, fun h => ?_⟩
  obtain ⟨status, hstatus⟩ := h.returns
  have hrunning : ((gatewaysFilling 10 4).run "r" (sampleCarry false) sampleFundingSignal {}).1.map (·.runStatus) = .ok .running := by
    decide +kernel
  rw [hstatus] at hrunning
  have hhedged := h.running status hstatus (Except.ok.inj hrunning)
  revert hhedged
  decide +kernel

end TradingPlatform
