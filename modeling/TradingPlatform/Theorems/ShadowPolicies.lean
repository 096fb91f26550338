import TradingPlatform.Engine.DecisionService
import TradingPlatform.Theorems.ProtectionRounding
import TradingPlatform.Theorems.ShadowReplay

/-!
# What the shadow policies stand for

The regime-aware policy is the policy its regime selects, a result that did not run out of data does not depend on the bars after its
last leg, and the control policy is the production formula. That formula measures its floor at the reference price of the signal, the
control policy at the fill.
-/

namespace TradingPlatform
namespace ExitPolicyShadow

/-- The fields of an outcome without those that name its policy. -/
def ShadowFields.sansPolicy (f : ShadowFields) : ShadowFields :=
  { f with policy := .currentControl, regimeSelectionReason := none, regimeSelectedPolicy := none }

/-- A candidate of the production path for the trade of an entry: it measures its distances at its own reference price. -/
structure ProducedFor (entry : RealEntry) (atr14 : ℚ) (candidate : TradeCandidate) : Prop where
  side : candidate.side = entry.side
  stopDistance : candidate.stopDistance = samplingStopDistance atr14 candidate.signalReferencePrice
  takeProfitDistance : candidate.takeProfitDistance = some (3 / 2 * candidate.stopDistance)

/-- Every candidate the decision service creates for the side is one. -/
theorem producedFor_createCandidate {c : DecisionContext} {bar : BarView} {entry : RealEntry} {atr14 : ℚ} {hatr : 0 < atr14}
    {candidate : TradeCandidate} (h : c.createCandidate bar entry.side atr14 hatr = .ok candidate) :
    ProducedFor entry atr14 candidate := by
  unfold DecisionContext.createCandidate at h
  dsimp only at h
  split at h
  · split at h
    · split at h
      · split at h
        · cases h
          exact ⟨rfl, rfl, rfl⟩
        · cases h
      · cases h
    · cases h
  · cases h

/-- The shadow policies are what they stand for, for an entry, its bars and its ATR: the regime-aware policy is the one selected, what
follows the last leg changes nothing, and the control prices are those of the production path, where it gives prices. -/
structure StandFor (entry : RealEntry) (bars : List Bar) (atr14 : ℚ) (candidate : TradeCandidate) : Prop where
  delegates : ∀ regime, (replayEntry entry .regimeAware bars (some atr14) regime).map (·.toShadowFields.sansPolicy) =
    (replayEntry entry (resolveRegimePolicy regime).policy bars (some atr14) regime).map (·.toShadowFields.sansPolicy)
  nonAnticipating : ∀ policy regime before bar after (o : ShadowOutcome), bars = before ++ bar :: after →
    replayEntry entry policy bars (some atr14) regime = .ok o → o.finalReason ≠ .dataExhausted →
    o.legs.getLast?.map (·.filledAt) = some bar.time →
    ∀ after', replayEntry entry policy (before ++ bar :: after') (some atr14) regime = .ok o
  control : ∀ regime prices, candidate.resolveProtectionPrices entry.averageFillPrice = .ok prices →
    buildInitialGeometry .currentControl entry.side entry.averageFillPrice (some atr14) regime = prices

/-- The production path gives no prices at the fill: the stop of a long, or the target of a short, would not be positive. -/
def Unpriced (entry : RealEntry) (distance : ℚ) : Prop :=
  match entry.side with
  | .long => entry.averageFillPrice ≤ distance
  | .short => entry.averageFillPrice ≤ 3 / 2 * distance

namespace ShadowPoliciesAux

open ShadowReplayAux

variable {entry : RealEntry} {policy policy' : ExitPolicyId} {regime : Regime} {bars : List Bar} {geometry : ℚ × ℚ}

/-! ## Delegation -/

/-- The checks of an outcome do not read its policy. -/
theorem validateQuantities_sansPolicy (f : ShadowFields) :
    f.validateQuantities.map (·.toShadowFields.sansPolicy) = f.sansPolicy.validateQuantities.map (·.toShadowFields) := by
  unfold ShadowFields.validateQuantities
  by_cases hsum : (f.legs.map (·.quantity)).sum + f.remainingQuantity = f.entryQuantity
  · by_cases hstop : f.side.gain f.entryPrice f.initialStopPrice < 0
    · by_cases htarget : ∀ t ∈ f.initialTargetPrice, 0 < f.side.gain f.entryPrice t
      · rw [dif_pos hsum, dif_pos hstop, dif_pos htarget, dif_pos (by exact hsum), dif_pos (by exact hstop), dif_pos (by exact htarget)]
        rfl
      · rw [dif_pos hsum, dif_pos hstop, dif_neg htarget, dif_pos (by exact hsum), dif_pos (by exact hstop), dif_neg (by exact htarget)]
        rfl
    · rw [dif_pos hsum, dif_neg hstop, dif_pos (by exact hsum), dif_neg (by exact hstop)]
      rfl
  · rw [dif_neg hsum, dif_neg (by exact hsum)]
    rfl

theorem validateQuantities_same {f g : ShadowFields} (h : f.sansPolicy = g.sansPolicy) :
    f.validateQuantities.map (·.toShadowFields.sansPolicy) = g.validateQuantities.map (·.toShadowFields.sansPolicy) := by
  rw [validateQuantities_sansPolicy, validateQuantities_sansPolicy, h]

theorem replaySingleTarget_sansPolicy {stop : ℚ} {target : Option ℚ} :
    (replaySingleTarget entry policy bars stop target regime).map (·.toShadowFields.sansPolicy) =
      (replaySingleTarget entry policy' bars stop target regime).map (·.toShadowFields.sansPolicy) := by
  unfold replaySingleTarget
  cases forIn bars ({} : SingleRun) (singleStep entry stop target) with
  | error e => rfl
  | ok s =>
    simp only [bind, Except.bind]
    cases computeExcursions entry.side entry.averageFillPrice entry.filledQuantity s.barsUntilExit |entry.averageFillPrice - stop| with
    | error e => rfl
    | ok excursions =>
      dsimp only
      cases ExitLeg.new "exit" (s.exitOrLast entry bars).price entry.filledQuantity 1 (s.exitOrLast entry bars).bar.time
        (s.exitOrLast entry bars).reason (s.exitOrLast entry bars).intrabar with
      | error e => rfl
      | ok leg => exact validateQuantities_same rfl

theorem replayScaleOut_sansPolicy {stop : ℚ} {target : Option ℚ} :
    (replayScaleOut entry bars stop target regime policy).map (·.toShadowFields.sansPolicy) =
      (replayScaleOut entry bars stop target regime policy').map (·.toShadowFields.sansPolicy) := by
  unfold replayScaleOut
  dsimp only
  split
  · exact replaySingleTarget_sansPolicy
  · cases forIn bars ({ remaining := entry.filledQuantity, stop := stop } : LadderRun)
      (ladderStep entry (ladderRungs entry.side entry.averageFillPrice |entry.averageFillPrice - stop|)) with
    | error e => rfl
    | ok s =>
      simp only [bind, Except.bind]
      cases exhaustLadder entry s with
      | error e => rfl
      | ok s =>
        dsimp only
        cases computeExcursions entry.side entry.averageFillPrice entry.filledQuantity s.barsUntilExit
          |entry.averageFillPrice - stop| with
        | error e => rfl
        | ok excursions => exact validateQuantities_same rfl

/-- The regime-aware policy has the geometry and the mechanics of the policy it selects. -/
theorem replayEntry_delegates (entry : RealEntry) (bars : List Bar) (atr14 : Option ℚ) (regime : Regime) :
    (replayEntry entry .regimeAware bars atr14 regime).map (·.toShadowFields.sansPolicy) =
      (replayEntry entry (resolveRegimePolicy regime).policy bars atr14 regime).map (·.toShadowFields.sansPolicy) := by
  have heffective : effectivePolicy (resolveRegimePolicy regime).policy regime = effectivePolicy .regimeAware regime := by
    cases regime <;> rfl
  have hgeometry : initialGeometry entry (resolveRegimePolicy regime).policy atr14 regime =
      initialGeometry entry .regimeAware atr14 regime := by
    rw [initialGeometry, heffective, initialGeometry]
  unfold replayEntry
  rw [buildInitialGeometry_eq, buildInitialGeometry_eq, hgeometry, heffective]
  dsimp only
  split
  · exact replayScaleOut_sansPolicy
  · exact replaySingleTarget_sansPolicy

/-! ## What follows the last leg -/

/-- A position with one target that did not run out of data closes at a bar, whatever follows that bar. -/
theorem single_nonAnticipating (hchron : bars.Pairwise (·.time < ·.time)) (hsided : Sided entry.side entry.averageFillPrice geometry)
    {before after : List Bar} {bar : Bar} {o : ShadowOutcome} (hsplit : bars = before ++ bar :: after)
    (ho : replaySingleTarget entry policy bars geometry.1 (some geometry.2) regime = .ok o) (hreason : o.finalReason ≠ .dataExhausted)
    (hlast : o.legs.getLast?.map (·.filledAt) = some bar.time) (after' : List Bar) :
    replaySingleTarget entry policy (before ++ bar :: after') geometry.1 (some geometry.2) regime = .ok o := by
  have hstart : SingleOpen entry geometry.2 [] {} := ⟨rfl, rfl, rfl⟩
  have hfacts {s : SingleRun} (hrun : forIn bars ({} : SingleRun) (singleStep entry geometry.1 (some geometry.2)) = .ok s) :
      bar.time = (s.exitOrLast entry bars).bar.time ∧ o.finalReason = (s.exitOrLast entry bars).reason := by
    obtain ⟨hok, herror⟩ := replaySingleTarget_of_run policy regime hsided hrun
    by_cases hprice : 0 < (s.exitOrLast entry bars).price
    · obtain ⟨o', leg, ho', hlegs, -, -, htime, -, hfinal, -⟩ := hok hprice
      obtain rfl : o' = o := Except.ok.inj (ho'.symm.trans ho)
      rw [hlegs] at hlast
      exact ⟨(Option.some.inj hlast).symm.trans htime, hfinal⟩
    · obtain ⟨e, he⟩ := herror hprice
      rw [he] at ho
      nomatch ho
  rcases (single_spec geometry.1 bars).outcome hstart with ⟨-, hvisit, hends, hfinal, hrun, hstable⟩ | ⟨-, -, hopen, hrun⟩ | ⟨-, hunsafe, -⟩
  · obtain ⟨e, he⟩ := Option.ne_none_iff_exists'.mp ((endsAt_single hfinal.unreached hends.held).mp hends)
    have hexit : ∀ l, SingleRun.exitOrLast _ entry l = e := fun l => by rw [SingleRun.exitOrLast, hfinal.exit, he]; rfl
    have htime := (hfacts hrun).1
    rw [hexit, (singleExit_ambiguous_iff he).1] at htime
    obtain ⟨rfl, rfl⟩ := split_unique hchron hvisit.split hsplit htime
    rw [← ho]
    simp only [replaySingleTarget, hrun, hstable after', hexit, bind, Except.bind]
  · refine absurd (hfacts hrun).2 ?_
    rw [SingleRun.exitOrLast, hopen.exit]
    exact hreason
  · exact absurd trivial hunsafe

/-- A ladder that did not run out of data closes its last leg at a bar, whatever follows that bar. -/
theorem ladder_nonAnticipating (hchron : bars.Pairwise (·.time < ·.time)) (hsided : Sided entry.side entry.averageFillPrice geometry)
    {before after : List Bar} {bar : Bar} {o : ShadowOutcome} (hsplit : bars = before ++ bar :: after)
    (ho : replayScaleOut entry bars geometry.1 (some geometry.2) regime policy = .ok o) (hreason : o.finalReason ≠ .dataExhausted)
    (hlast : o.legs.getLast?.map (·.filledAt) = some bar.time) (after' : List Bar) :
    replayScaleOut entry (before ++ bar :: after') geometry.1 (some geometry.2) regime policy = .ok o := by
  have hwhole := ladderRungs_whole entry.side entry.averageFillPrice |entry.averageFillPrice - geometry.1|
  rcases (ladder_spec hchron hwhole).outcome (climbing_start geometry.1 hwhole) with
    ⟨-, hvisit, -, hfinal, hrun, hstable⟩ | ⟨-, -, hclimbing, hrun⟩ | ⟨-, -, hrun⟩
  · obtain ⟨hok, -⟩ := replayScaleOut_of_run policy regime hsided hrun
    obtain ⟨o', ho', hlegs, -, -⟩ := hok _ (exhaustLadder_done hfinal.remaining) hfinal.kept.quantities
    obtain rfl : o' = o := Except.ok.inj (ho'.symm.trans ho)
    obtain ⟨leg, hleg, htime⟩ := hfinal.last
    rw [hlegs, hleg] at hlast
    obtain ⟨rfl, rfl⟩ := split_unique hchron hvisit.split hsplit ((Option.some.inj hlast).symm.trans htime)
    rw [← ho]
    simp only [replayScaleOut, if_neg hsided.risk_pos.not_ge, hrun, hstable after', bind, Except.bind]
  · refine absurd ?_ hreason
    obtain ⟨hok, herror⟩ := replayScaleOut_of_run policy regime hsided hrun
    cases hexhaust : exhaustLadder entry _ with
    | error e =>
      rw [herror e hexhaust] at ho
      cases ho
    | ok s' =>
      obtain ⟨hkept, hsame⟩ := exhaustLadder_keeps hclimbing hexhaust
      obtain ⟨o', ho', -, hfinal, -⟩ := hok s' hexhaust hkept
      obtain rfl : o' = o := Except.ok.inj (ho'.symm.trans ho)
      rw [hfinal, hsame, hclimbing.reason]
  · rw [replayScaleOut_of_error hsided hrun] at ho
    cases ho

theorem replayEntry_nonAnticipating (hchron : bars.Pairwise (·.time < ·.time)) {atr14 : Option ℚ} {before after : List Bar} {bar : Bar}
    {o : ShadowOutcome} (hsplit : bars = before ++ bar :: after) (ho : replayEntry entry policy bars atr14 regime = .ok o)
    (hreason : o.finalReason ≠ .dataExhausted) (hlast : o.legs.getLast?.map (·.filledAt) = some bar.time) (after' : List Bar) :
    replayEntry entry policy (before ++ bar :: after') atr14 regime = .ok o := by
  have hsided := initialGeometry_sided entry policy atr14 regime
  unfold replayEntry at ho ⊢
  rw [buildInitialGeometry_eq] at ho ⊢
  by_cases hladder : effectivePolicy policy regime = .scaleOutRunner
  · simp only [if_pos hladder] at ho ⊢
    exact ladder_nonAnticipating hchron hsided hsplit ho hreason hlast after'
  · simp only [if_neg hladder] at ho ⊢
    exact single_nonAnticipating hchron hsided hsplit ho hreason hlast after'

/-! ## The control prices -/

/-- The prices of the production path at the fill. -/
theorem resolveProtectionPrices_iff {atr14 : ℚ} {candidate : TradeCandidate} (h : ProducedFor entry atr14 candidate) {prices : ℚ × Option ℚ} :
    candidate.resolveProtectionPrices entry.averageFillPrice = .ok prices ↔
      ¬Unpriced entry candidate.stopDistance ∧
        prices = ((geometryAt entry.side entry.averageFillPrice candidate.stopDistance (3 / 2 * candidate.stopDistance)).1,
          some (geometryAt entry.side entry.averageFillPrice candidate.stopDistance (3 / 2 * candidate.stopDistance)).2) := by
  rw [RoundingAux.resolveProtectionPrices_eq_ok entry.price_pos, ← and_assoc, h.side, h.takeProfitDistance]
  have hfill := entry.price_pos
  have hdistance := candidate.stopDistance_pos
  unfold Unpriced geometryAt
  refine and_congr ?_ ?_
  · simp only [Option.mem_some_iff, forall_eq']
    cases entry.side with
    | long =>
      simp only [RoundingAux.away]
      exact ⟨fun hprices => by linarith [hprices.1], fun hlt => ⟨by linarith, by linarith⟩⟩
    | short =>
      simp only [RoundingAux.away]
      exact ⟨fun hprices => by linarith [hprices.2], fun hlt => ⟨by linarith, by linarith⟩⟩
  · cases entry.side <;> simp [RoundingAux.away, Direction.ahead, sub_eq_add_neg]

/-- Two maxima with one side in common are equal exactly if their other sides are, or both are covered. -/
theorem max_floor_iff {a x y k : ℚ} (hk : 0 < k) : max a (x * k) = max a (y * k) ↔ x = y ∨ x * k ≤ a ∧ y * k ≤ a := by
  constructor
  · intro h
    rcases le_or_gt (x * k) a with hx | hx <;> rcases le_or_gt (y * k) a with hy | hy
    · exact .inr ⟨hx, hy⟩
    · rw [max_eq_left hx, max_eq_right hy.le] at h
      exact absurd hy h.not_lt
    · rw [max_eq_right hx.le, max_eq_left hy] at h
      exact absurd hx h.not_gt
    · rw [max_eq_right hx.le, max_eq_right hy.le] at h
      exact .inl (mul_right_cancel₀ hk.ne' h)
  · rintro (rfl | ⟨hx, hy⟩)
    · rfl
    · rw [max_eq_left hx, max_eq_left hy]

/-- The control prices are those of the production path at the fill exactly if it gives none or measures the same distance. -/
theorem control_iff {atr14 : ℚ} {candidate : TradeCandidate} (h : ProducedFor entry atr14 candidate) (regime : Regime) :
    (∀ prices, candidate.resolveProtectionPrices entry.averageFillPrice = .ok prices →
      buildInitialGeometry .currentControl entry.side entry.averageFillPrice (some atr14) regime = prices) ↔
      Unpriced entry candidate.stopDistance ∨ samplingStopDistance atr14 entry.averageFillPrice = candidate.stopDistance := by
  have hcontrol : buildInitialGeometry .currentControl entry.side entry.averageFillPrice (some atr14) regime =
      ((geometryAt entry.side entry.averageFillPrice (samplingStopDistance atr14 entry.averageFillPrice)
          (3 / 2 * samplingStopDistance atr14 entry.averageFillPrice)).1,
        some (geometryAt entry.side entry.averageFillPrice (samplingStopDistance atr14 entry.averageFillPrice)
          (3 / 2 * samplingStopDistance atr14 entry.averageFillPrice)).2) := rfl
  rw [hcontrol]
  constructor
  · intro hall
    by_cases hunpriced : Unpriced entry candidate.stopDistance
    · exact .inl hunpriced
    · have hsame := hall _ ((resolveProtectionPrices_iff h).mpr ⟨hunpriced, rfl⟩)
      have hgain := congrArg (fun p : ℚ × Option ℚ => entry.side.gain entry.averageFillPrice p.1) hsame
      simp only [geometryAt, Direction.gain_ahead] at hgain
      exact .inr (neg_injective hgain)
  · rintro hcondition prices hprices
    obtain ⟨hpriced, rfl⟩ := (resolveProtectionPrices_iff h).mp hprices
    rw [hcondition.resolve_left hpriced]

end ShadowPoliciesAux

open ShadowPoliciesAux

/-- The shadow policies are what they stand for exactly if the production path measures its stop at the fill as at the signal: the
two prices are equal, or the ATR covers the floor at both, or there are no production prices at the fill. -/
theorem shadowPolicies_standFor (entry : RealEntry) {bars : List Bar} (hchron : bars.Pairwise (·.time < ·.time)) (atr14 : ℚ)
    (candidate : TradeCandidate) (h : ProducedFor entry atr14 candidate) :
    StandFor entry bars atr14 candidate ↔
      Unpriced entry candidate.stopDistance ∨ entry.averageFillPrice = candidate.signalReferencePrice ∨
        entry.averageFillPrice * (35 / 10000) ≤ 6 / 5 * atr14 ∧ candidate.signalReferencePrice * (35 / 10000) ≤ 6 / 5 * atr14 := by
  have hdistance : samplingStopDistance atr14 entry.averageFillPrice = candidate.stopDistance ↔
      entry.averageFillPrice = candidate.signalReferencePrice ∨
        entry.averageFillPrice * (35 / 10000) ≤ 6 / 5 * atr14 ∧ candidate.signalReferencePrice * (35 / 10000) ≤ 6 / 5 * atr14 := by
    rw [h.stopDistance]
    exact max_floor_iff (by norm_num)
  rw [← hdistance]
  constructor
  · intro hstand
    exact (control_iff h .range).mp (hstand.control .range)
  · intro hcondition
    exact
      { delegates := replayEntry_delegates entry bars (some atr14)
        nonAnticipating := fun policy regime before bar after o hsplit ho hreason hlast after' =>
          replayEntry_nonAnticipating hchron hsplit ho hreason hlast after'
        control := fun regime => (control_iff h regime).mpr hcondition }

/-- A long candidate of a signal at 100 with an ATR of 0.01. -/
def signalCandidate : TradeCandidate where
  candidateId := "c-1"
  cycleId := "y-1"
  strategyId := "testnet_sampling_v2"
  strategyVersion := "1"
  lane := .production
  candidateType := .primary
  symbol := "BTC/USDT"
  side := .long
  signalCandleCloseTime := 0
  signalReferencePrice := 100
  stopDistance := 35 / 100
  takeProfitDistance := some (525 / 1000)
  maxEntryDriftBps := 50
  expiresAt := 1
  nonPromotable := false
  referencePrice_pos := SampleLevels.hundred_pos
  stopDistance_pos := by norm_num
  takeProfitDistance_pos := by
    intro d hd
    rw [← Option.some.inj hd]
    norm_num
  maxEntryDriftBps_pos := by norm_num
  expires_after_close := by norm_num
  sampling_nonPromotable := by simp
  research_iff_shadow := by simp
  research_nonPromotable := by simp

theorem shadowPolicies_standFor_atSignal : StandFor sampleEntry [quietBar] (1 / 100) signalCandidate :=
  (shadowPolicies_standFor sampleEntry (List.pairwise_singleton _ _) (1 / 100) signalCandidate
    ⟨rfl, by decide +kernel, by decide +kernel⟩).mpr (.inr (.inl rfl))

/-- The long of the sample, filled at 101. -/
def driftedEntry : RealEntry := { sampleEntry with averageFillPrice := 101, price_pos := by norm_num }

/-- A fill above the signal: the control stop is 0.3535 below it, the production stop 0.35. -/
theorem shadowPolicies_standFor_drifted :
    ProducedFor driftedEntry (1 / 100) signalCandidate ∧ ¬StandFor driftedEntry [quietBar] (1 / 100) signalCandidate := by
  refine ⟨⟨rfl, by decide +kernel, by decide +kernel⟩, fun h => ?_⟩
  have hproduction : signalCandidate.resolveProtectionPrices driftedEntry.averageFillPrice =
      .ok (10065 / 100, some (101525 / 1000)) := by decide +kernel
  have hsame := h.control .range _ hproduction
  revert hsame
  decide +kernel

end ExitPolicyShadow
end TradingPlatform
