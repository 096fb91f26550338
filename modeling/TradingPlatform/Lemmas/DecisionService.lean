import TradingPlatform.Engine.EntryDecision

/-!
# What an evaluation returns

The candidate of an evaluation depends on the bars that were evaluated before through one test alone. What remains is the signal
of the context.
-/

namespace TradingPlatform

/-- The last bar was evaluated before. -/
def DecisionContext.evaluatedBefore (c : DecisionContext) : Bool :=
  c.entryTimeframe.lastClosed.any fun bar => decide (bar.timestamp ∈ c.alreadyEvaluatedBars)

/-- The signal of a context: the candidate of a fresh bar on aligned timeframes whose range is positive and whose side nothing
refuses. It raises where the candidate fails its own checks. -/
def DecisionContext.signal (c : DecisionContext) : Except PyError (Option TradeCandidate) :=
  match c.entryTimeframe.lastClosed with
  | none => .ok none
  | some bar =>
    if c.stale bar then .ok none
    else
      match c.alignment, atr c.entryTimeframe.bars with
      | .ok _, some atr14 =>
        if hatr : 0 < atr14 then
          match (evaluateSamplingSignal c.entryTimeframe).side with
          | none => .ok none
          | some side =>
            if (c.strictRefusal side []).isSome then .ok none else (c.createCandidate bar side atr14 hatr).map some
        else .ok none
      | _, _ => .ok none

/-- The context has no predictor of win rates, and its manifest is eligible. -/
structure DecisionContext.Ungated (c : DecisionContext) : Prop where
  predictor : c.metaLabelPredictor = none
  manifest : c.manifestEligible = true

namespace DecisionAux

/-- Whether a side is refused does not depend on the metrics of the signal. -/
theorem strictRefusal_isSome (c : DecisionContext) (side : Direction) (metrics metrics' : Metrics) :
    (c.strictRefusal side metrics).isSome = (c.strictRefusal side metrics').isSome := by
  unfold DecisionContext.strictRefusal
  split
  · rfl
  · split
    · rfl
    · rw [Option.isSome_map, Option.isSome_map]

/-- A candidate closes with its bar, in the lane of its context and under its id. -/
theorem createCandidate_ok {c : DecisionContext} {bar : BarView} {side : Direction} {atr14 : ℚ} {hatr : 0 < atr14}
    {candidate : TradeCandidate} (h : c.createCandidate bar side atr14 hatr = .ok candidate) :
    candidate.signalCandleCloseTime = bar.timestamp ∧ candidate.lane = c.lane ∧ candidate.candidateId = c.candidateId := by
  unfold DecisionContext.createCandidate at h
  simp only at h
  split at h
  · split at h
    · split at h
      · split at h
        · rw [← Except.ok.inj h]
          exact ⟨rfl, rfl, rfl⟩
        · nomatch h
      · nomatch h
    · nomatch h
  · nomatch h

/-- A candidate that no gate stops is the one of the outcome. -/
theorem gateCandidate_candidate {c : DecisionContext} (h : c.Ungated) (funnel : DecisionFunnelRecord) (candidate : TradeCandidate) :
    (c.gateCandidate funnel candidate).candidate = some candidate := by
  unfold DecisionContext.gateCandidate
  simp only [h.predictor, h.manifest, if_true]

theorem evaluateCandidate_candidate {c : DecisionContext} (h : c.Ungated) (funnel : DecisionFunnelRecord) (bar : BarView)
    (side : Direction) (atr14 : ℚ) (hatr : 0 < atr14) :
    (c.evaluateCandidate funnel bar side atr14 hatr).map (·.candidate) = (c.createCandidate bar side atr14 hatr).map some := by
  unfold DecisionContext.evaluateCandidate
  cases c.createCandidate bar side atr14 hatr with
  | error e => rfl
  | ok candidate => exact congrArg Except.ok (gateCandidate_candidate h _ candidate)

theorem evaluateSignal_candidate {c : DecisionContext} (h : c.Ungated) (funnel : DecisionFunnelRecord) (bar : BarView)
    (atr14 : ℚ) (hatr : 0 < atr14) :
    (c.evaluateSignal funnel bar atr14 hatr).map (·.candidate) =
      match (evaluateSamplingSignal c.entryTimeframe).side with
      | none => .ok none
      | some side => if (c.strictRefusal side []).isSome then .ok none
          else (c.createCandidate bar side atr14 hatr).map some := by
  unfold DecisionContext.evaluateSignal
  simp only
  cases (evaluateSamplingSignal c.entryTimeframe).side with
  | none => rfl
  | some side =>
    simp only
    rw [strictRefusal_isSome c side [] (evaluateSamplingSignal c.entryTimeframe).signalMetrics]
    cases c.strictRefusal side (evaluateSamplingSignal c.entryTimeframe).signalMetrics with
    | some metrics => rfl
    | none => exact evaluateCandidate_candidate h _ bar side atr14 hatr

end DecisionAux

open DecisionAux

/-- The candidate of an evaluation: none for a bar that was evaluated before, else that of the signal. -/
theorem evaluateSymbol_candidate {c : DecisionContext} (h : c.Ungated) :
    (evaluateSymbol c).map (·.candidate) = if c.evaluatedBefore then .ok none else c.signal := by
  unfold evaluateSymbol DecisionContext.evaluatedBefore DecisionContext.signal
  cases c.entryTimeframe.lastClosed with
  | none => rfl
  | some bar =>
    simp only [Option.any_some, decide_eq_true_eq]
    unfold DecisionContext.evaluateBar
    by_cases hbefore : bar.timestamp ∈ c.alreadyEvaluatedBars
    · simp only [hbefore, if_true]
      rfl
    · simp only [hbefore, if_false]
      cases c.stale bar with
      | true => rfl
      | false =>
        simp only [Bool.false_eq_true, if_false]
        unfold DecisionContext.evaluateTimeframes
        cases c.alignment with
        | error metrics => rfl
        | ok record =>
          simp only
          unfold DecisionContext.evaluateRegime
          cases atr c.entryTimeframe.bars with
          | none => rfl
          | some atr14 =>
            simp only
            by_cases hatr : 0 < atr14
            · rw [dif_pos hatr, dif_pos hatr]
              exact evaluateSignal_candidate h _ bar atr14 hatr
            · rw [dif_neg hatr, dif_neg hatr]
              rfl

/-- A candidate is for the last bar, in the lane of its context and under its id. -/
theorem signal_candidate {c : DecisionContext} {candidate : TradeCandidate} (h : c.signal = .ok (some candidate)) :
    ∃ bar, c.entryTimeframe.lastClosed = some bar ∧ candidate.signalCandleCloseTime = bar.timestamp ∧
      candidate.lane = c.lane ∧ candidate.candidateId = c.candidateId := by
  unfold DecisionContext.signal at h
  split at h
  · nomatch Except.ok.inj h
  · rename_i bar hbar
    refine ⟨bar, hbar, ?_⟩
    split at h
    · nomatch Except.ok.inj h
    · split at h
      · split at h
        · split at h
          · nomatch Except.ok.inj h
          · split at h
            · nomatch Except.ok.inj h
            · rename_i hatr _ side _ _
              cases hcreate : c.createCandidate bar side _ hatr with
              | error e =>
                rw [hcreate] at h
                nomatch h
              | ok created =>
                rw [hcreate] at h
                cases Except.ok.inj h
                exact createCandidate_ok hcreate
        · nomatch Except.ok.inj h
      · nomatch Except.ok.inj h

end TradingPlatform
