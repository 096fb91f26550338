import TradingPlatform.Engine.ForwardBaseline
import TradingPlatform.Lemmas.DecisionService

/-!
# A snapshot and its replay

A snapshot holds the entry bars of a decision. It holds neither the other timeframes nor how strictly they are read, nor the count
of confirmations: a decision replays to itself exactly if none of them leaves a trace in it.
-/

namespace TradingPlatform

/-! ## The statement -/

/-- The last bar was evaluated before, or is too old. -/
def DecisionRequest.endsAtBar (r : DecisionRequest) : Bool :=
  r.entryTimeframe.lastClosed.any fun bar =>
    Decidable.decide (bar.timestamp ∈ r.alreadyEvaluatedBars ∨ bar.timestamp + 120 * 1000000 < r.now)

/-- Nothing that a snapshot does not hold leaves a trace in the decision: it ends at its bar, or there is no other timeframe to
align with and no confirmation of a signal. -/
def DecisionRequest.HeldBySnapshot (r : DecisionRequest) : Prop :=
  r.endsAtBar = true ∨
    r.directionTimeframe = none ∧ r.strictSamplingAlignment = false ∧
      (r.samplingConfirmationBars = 0 ∨ (evaluateSamplingSignal r.entryTimeframe).side = none)

/-! ## Features -/

namespace ForwardReplayAux

open DecisionAux

theorem featuresOf_concat (metrics : Metrics) (m : String × MetricValue) :
    featuresOf (metrics ++ [m]) = (featuresOf metrics).insert m.1 m.2 := by
  unfold featuresOf
  rw [List.foldl_append]
  rfl

/-- The last entry of a key counts. -/
theorem lookup_featuresOf (key : String) (metrics : Metrics) : (featuresOf metrics).lookup key = metrics.reverse.lookup key := by
  induction metrics using List.reverseRecOn with
  | nil => exact Finmap.lookup_empty key
  | append_singleton metrics m ih =>
    rw [featuresOf_concat, List.reverse_concat]
    by_cases hkey : key = m.1
    · subst hkey
      rw [Finmap.lookup_insert, List.lookup_cons_self]
    · rw [Finmap.lookup_insert_of_ne _ hkey, ih, List.lookup_cons, beq_eq_false_iff_ne.mpr hkey]

/-- A key is a feature if it is a metric of some stage. -/
theorem mem_featuresOf (key : String) (metrics : Metrics) : key ∈ featuresOf metrics ↔ key ∈ metrics.map (·.1) := by
  induction metrics using List.reverseRecOn with
  | nil => exact iff_of_false (Finmap.notMem_empty) List.not_mem_nil
  | append_singleton metrics m ih =>
    rw [featuresOf_concat, Finmap.mem_insert, ih, List.map_append, List.mem_append, List.map_singleton, List.mem_singleton]
    exact or_comm

/-! ## What an evaluation makes of a funnel -/

/-- The keys of the stages of a funnel. -/
def keysOf (stages : List FunnelStageRecord) : List String := (stages.flatMap (·.metrics)).map (·.1)

theorem keysOf_append (stages stages' : List FunnelStageRecord) : keysOf (stages ++ stages') = keysOf stages ++ keysOf stages' := by
  unfold keysOf
  rw [List.flatMap_append, List.map_append]

/-- The outcome goes on from the funnel, in stages after the alignment of timeframes. -/
structure Continues (c : DecisionContext) (funnel : DecisionFunnelRecord) (o : DecisionOutcome) : Prop where
  lane : o.lane = c.lane
  strategyId : o.funnel.strategyId = funnel.strategyId
  strategyVersion : o.funnel.strategyVersion = funnel.strategyVersion
  stages : ∃ tail, o.funnel.stages = funnel.stages ++ tail ∧ "direction_timeframe" ∉ keysOf tail
  terminalStage : o.terminalStage ≠ .timeframesAligned

variable {c : DecisionContext} {funnel : DecisionFunnelRecord} {o : DecisionOutcome}

theorem Continues.of_record {stage : FunnelStage} {outcome : StageOutcome} {metrics : Metrics} {reason : EvaluationReason}
    (h : Continues c (funnel.record stage outcome metrics reason) o) (hkey : "direction_timeframe" ∉ metrics.map (·.1)) :
    Continues c funnel o := by
  obtain ⟨tail, htail, hnew⟩ := h.stages
  refine ⟨h.lane, h.strategyId, h.strategyVersion, ⟨{ stage, outcome, reasonCode := reason, metrics } :: tail, ?_, ?_⟩,
    h.terminalStage⟩
  · rw [htail]
    exact List.append_assoc _ _ _
  · change "direction_timeframe" ∉ keysOf ([_] ++ tail)
    rw [keysOf_append, List.mem_append]
    rintro (hhere | hthere)
    · exact hkey (by simpa [keysOf] using hhere)
    · exact hnew hthere

theorem continues_terminate {stage : FunnelStage} {reason : EvaluationReason} {metrics : Metrics} {outcome : StageOutcome}
    (hstage : stage ≠ .timeframesAligned) (hkey : "direction_timeframe" ∉ metrics.map (·.1)) :
    Continues c funnel (c.terminate funnel stage reason metrics outcome) :=
  ⟨rfl, rfl, rfl, ⟨_, rfl, by simpa [keysOf] using hkey⟩, hstage⟩

/-- The keys of a signal. -/
theorem signalMetrics_keys (t : TimeframeView) : "direction_timeframe" ∉ (evaluateSamplingSignal t).signalMetrics.map (·.1) := by
  have hown : "direction_timeframe" ∉ (evaluateSamplingSignal t).metrics.map (·.1) := by
    unfold evaluateSamplingSignal
    cases t.lastClosed with
    | none => exact List.not_mem_nil
    | some last =>
      dsimp only
      split
      · split
        · simp
        · split <;> simp
      · simp
  unfold SignalEvaluation.signalMetrics
  rw [List.map_append, List.mem_append]
  rintro (h | h)
  · exact hown h
  · simp at h

theorem gateCandidate_continues (candidate : TradeCandidate) : Continues c funnel (c.gateCandidate funnel candidate) := by
  have hmanifest : ∀ funnel : DecisionFunnelRecord, Continues c funnel
      (if c.manifestEligible then
        { cycleId := c.cycleId, symbol := c.symbol, lane := c.lane, terminalStage := .manifestEvaluated,
          reasonCode := .candidateReady, funnel := funnel.record .manifestEvaluated .passed, candidate := some candidate }
      else c.terminate funnel .manifestEvaluated (c.manifestReason.getD .manifestNotEligible)) := by
    intro funnel
    split
    · exact ⟨rfl, rfl, rfl, ⟨_, rfl, List.not_mem_nil⟩, nofun⟩
    · exact continues_terminate nofun List.not_mem_nil
  unfold DecisionContext.gateCandidate
  dsimp only
  split
  · split
    · exact continues_terminate nofun (by simp)
    · exact (hmanifest _).of_record (by simp)
  · exact (hmanifest _).of_record List.not_mem_nil

theorem evaluateCandidate_continues {bar : BarView} {side : Direction} {atr14 : ℚ} {hatr : 0 < atr14}
    (h : c.evaluateCandidate funnel bar side atr14 hatr = .ok o) : Continues c funnel o := by
  unfold DecisionContext.evaluateCandidate at h
  cases hcreate : c.createCandidate bar side atr14 hatr with
  | error e =>
    rw [hcreate] at h
    nomatch h
  | ok candidate =>
    rw [hcreate] at h
    have hnamed : Continues c { funnel with candidateId := some candidate.candidateId } o := by
      rw [← Except.ok.inj h]
      exact (gateCandidate_continues candidate).of_record (by simp)
    exact ⟨hnamed.lane, hnamed.strategyId, hnamed.strategyVersion, hnamed.stages, hnamed.terminalStage⟩

/-- A strict context refuses a side with metrics of the signal and of the confirmations. -/
theorem strictRefusal_keys {side : Direction} {metrics metrics' : Metrics} (h : c.strictRefusal side metrics = some metrics')
    (hkey : "direction_timeframe" ∉ metrics.map (·.1)) : "direction_timeframe" ∉ metrics'.map (·.1) := by
  unfold DecisionContext.strictRefusal at h
  split at h
  · nomatch h
  · split at h
    · rw [← Option.some.inj h, List.map_append, List.mem_append]
      rintro (hmem | hmem)
      · exact hkey hmem
      · simp at hmem
    · obtain ⟨offset, -, rfl⟩ := Option.map_eq_some_iff.mp h
      rw [List.map_append, List.mem_append]
      rintro (hmem | hmem)
      · exact hkey hmem
      · simp at hmem

theorem evaluateSignal_continues {bar : BarView} {atr14 : ℚ} {hatr : 0 < atr14}
    (h : c.evaluateSignal funnel bar atr14 hatr = .ok o) : Continues c funnel o := by
  have hkeys := signalMetrics_keys c.entryTimeframe
  unfold DecisionContext.evaluateSignal at h
  dsimp only at h
  split at h
  · rw [← Except.ok.inj h]
    exact continues_terminate nofun hkeys
  · split at h
    · rename_i metrics hrefused
      rw [← Except.ok.inj h]
      exact continues_terminate nofun (strictRefusal_keys hrefused hkeys)
    · refine (evaluateCandidate_continues h).of_record ?_
      rw [List.map_append, List.mem_append]
      rintro (hmem | hmem)
      · exact hkeys hmem
      · simp at hmem

theorem evaluateRegime_continues {bar : BarView} (h : c.evaluateRegime funnel bar = .ok o) : Continues c funnel o := by
  unfold DecisionContext.evaluateRegime at h
  split at h
  · rw [← Except.ok.inj h]
    exact continues_terminate nofun (by simp)
  · split at h
    · exact (evaluateSignal_continues h).of_record (by simp)
    · rw [← Except.ok.inj h]
      exact continues_terminate nofun (by simp)

/-! ### The stages before the alignment -/

/-- The funnel of a fresh bar. -/
def freshFunnel (c : DecisionContext) (bar : BarView) : DecisionFunnelRecord where
  strategyId := c.strategyId
  strategyVersion := c.strategyVersion
  barTimestamp := some bar.timestamp
  stages :=
    [{ stage := .cycleStarted, outcome := .passed },
      { stage := .dataAvailable, outcome := .passed, metrics := [("entry_bar_count", .number c.entryTimeframe.bars.length)] },
      { stage := .candleClosed, outcome := .passed, metrics := [("bar_timestamp", .number bar.timestamp)] },
      { stage := .dataFresh, outcome := .passed, metrics := [("bar_age_seconds", .number (c.age bar))] }]

/-- A fresh bar comes to its timeframes. -/
theorem evaluateSymbol_fresh {bar : BarView} (hbar : c.entryTimeframe.lastClosed = some bar)
    (hnew : bar.timestamp ∉ c.alreadyEvaluatedBars) (hfresh : c.stale bar = false) :
    evaluateSymbol c = c.evaluateTimeframes (freshFunnel c bar) bar := by
  unfold evaluateSymbol
  rw [hbar]
  dsimp only
  unfold DecisionContext.evaluateBar
  dsimp only
  rw [if_neg hnew, hfresh]
  rfl

/-- What an outcome has of its context. -/
structure OutcomeOf (c : DecisionContext) (o : DecisionOutcome) : Prop where
  lane : o.lane = c.lane
  strategyId : o.funnel.strategyId = c.strategyId
  strategyVersion : o.funnel.strategyVersion = c.strategyVersion

theorem evaluateSymbol_outcomeOf (h : evaluateSymbol c = .ok o) : OutcomeOf c o := by
  unfold evaluateSymbol at h
  dsimp only at h
  split at h
  · rw [← Except.ok.inj h]
    exact ⟨rfl, rfl, rfl⟩
  · unfold DecisionContext.evaluateBar at h
    dsimp only at h
    split at h
    · rw [← Except.ok.inj h]
      exact ⟨rfl, rfl, rfl⟩
    · split at h
      · rw [← Except.ok.inj h]
        exact ⟨rfl, rfl, rfl⟩
      · unfold DecisionContext.evaluateTimeframes at h
        split at h
        · rw [← Except.ok.inj h]
          exact ⟨rfl, rfl, rfl⟩
        · have hafter := evaluateRegime_continues h
          exact ⟨hafter.lane, hafter.strategyId, hafter.strategyVersion⟩

/-! ### The context of a replay -/

/-- A sampling context without what a snapshot does not hold. -/
def plainContext (r : DecisionRequest) (candidateId : String) : DecisionContext :=
  { r.samplingContext candidateId with
    directionTimeframe := none, stateTimeframe := none, strictSamplingAlignment := false, samplingConfirmationBars := 0 }

section Replay

variable (canonicalHash : SnapshotContent → String) (freshId : String) (r : DecisionRequest) (p : SnapshotProvenance)
  {candidateId : String} {outcome : DecisionOutcome} {snapshot : DecisionSnapshot}

/-- The id that a replay gives to a candidate. -/
def replayId (outcome : DecisionOutcome) : String := textOr (outcome.candidate.map (·.candidateId)) freshId

/-- What a snapshot of an outcome holds, and what its replay evaluates. -/
structure SnapshotOf (outcome : DecisionOutcome) (snapshot : DecisionSnapshot) : Prop where
  bar : ∃ bar, r.entryTimeframe.lastClosed = some bar
  decision : snapshot.content.decision.terminalStage = outcome.terminalStage ∧
    snapshot.content.decision.reasonCode = outcome.reasonCode
  features : snapshot.content.features = outcome.features
  payload : snapshot.content.tradeCandidatePayload = outcome.candidate.map candidatePayload
  replay : replayDecisionSnapshot canonicalHash freshId snapshot = evaluateSymbol (plainContext r (replayId freshId outcome))

theorem snapshotOf_build (houtcome : evaluateSymbol (r.samplingContext candidateId) = .ok outcome)
    (hsnapshot : buildDecisionSnapshot canonicalHash (r.snapshotInputs p) outcome = .ok snapshot) :
    SnapshotOf canonicalHash freshId r outcome snapshot := by
  obtain ⟨hlane, hid, hversion⟩ := evaluateSymbol_outcomeOf houtcome
  unfold buildDecisionSnapshot at hsnapshot
  split at hsnapshot
  · nomatch hsnapshot
  · split at hsnapshot
    · rename_i first last hfirst hlast
      cases hsnapshot
      refine ⟨⟨last, hlast⟩, ⟨rfl, rfl⟩, rfl, rfl, ?_⟩
      unfold replayDecisionSnapshot
      rw [if_neg (not_not_intro rfl), if_neg (not_not_intro rfl)]
      refine (if_neg (not_not_intro hlane)).trans (congrArg evaluateSymbol ?_)
      unfold SnapshotContent.replayContext plainContext DecisionRequest.samplingContext replayId
      dsimp only
      rw [hlane, hid, hversion, Option.map_map]
      rfl
    · nomatch hsnapshot

variable {canonicalHash freshId r}

/-- A replay reproduces a snapshot if it returns the same decision, features and candidate. -/
theorem reproducible_iff (h : SnapshotOf canonicalHash freshId r outcome snapshot) :
    (compareDecisionSnapshot canonicalHash freshId snapshot).reproducible = true ↔
      ∃ replay, evaluateSymbol (plainContext r (replayId freshId outcome)) = .ok replay ∧
        replay.terminalStage = outcome.terminalStage ∧ replay.reasonCode = outcome.reasonCode ∧
          replay.features = outcome.features ∧
            replay.candidate.map candidatePayload = outcome.candidate.map candidatePayload := by
  unfold compareDecisionSnapshot
  rw [h.replay]
  cases evaluateSymbol (plainContext r (replayId freshId outcome)) with
  | error e =>
    refine iff_of_false nofun ?_
    rintro ⟨replay, hreplay, -⟩
    nomatch hreplay
  | ok replay =>
    unfold compareOutcome ReplayComparison.reproducible
    simp only [h.decision.1, h.decision.2, h.features, h.payload, Except.ok.injEq, exists_eq_left', Bool.and_eq_true,
      decide_eq_true_eq, List.isEmpty_iff, List.append_eq_nil_iff, ite_eq_right_iff, List.cons_ne_nil, imp_false,
      not_not, and_assoc]

end Replay

/-! ### A decision that is held -/

/-- A decision that ends at its bar reads nothing else of its context. -/
theorem evaluateSymbol_endsAtBar {r : DecisionRequest} (h : r.endsAtBar = true) (candidateId : String) :
    evaluateSymbol (plainContext r candidateId) = evaluateSymbol (r.samplingContext candidateId) := by
  obtain ⟨bar, hbar, hends⟩ : ∃ bar, r.entryTimeframe.lastClosed = some bar ∧
      (bar.timestamp ∈ r.alreadyEvaluatedBars ∨ bar.timestamp + 120 * 1000000 < r.now) := by
    unfold DecisionRequest.endsAtBar at h
    rw [Option.any_eq_true] at h
    obtain ⟨bar, hbar, hends⟩ := h
    exact ⟨bar, hbar, of_decide_eq_true hends⟩
  have hplain : (plainContext r candidateId).entryTimeframe.lastClosed = some bar := hbar
  have hcontext : (r.samplingContext candidateId).entryTimeframe.lastClosed = some bar := hbar
  unfold evaluateSymbol
  rw [hplain, hcontext]
  dsimp only
  unfold DecisionContext.evaluateBar
  dsimp only
  by_cases hbefore : bar.timestamp ∈ r.alreadyEvaluatedBars
  · refine (if_pos hbefore).trans (if_pos hbefore).symm
  · refine (if_neg hbefore).trans (Eq.trans ?_ (if_neg hbefore).symm)
    have hstale : decide (bar.timestamp + 120 * 1000000 < r.now) = true := decide_eq_true (hends.resolve_left hbefore)
    exact (if_pos hstale).trans (if_pos hstale).symm

/-- Without another timeframe and without confirmations, or without a signal to confirm, a context is plain. -/
theorem evaluateSymbol_unaligned {r : DecisionRequest} (hdirection : r.directionTimeframe = none)
    (hstrict : r.strictSamplingAlignment = false)
    (h : r.samplingConfirmationBars = 0 ∨ (evaluateSamplingSignal r.entryTimeframe).side = none) (candidateId : String) :
    evaluateSymbol (plainContext r candidateId) = evaluateSymbol (r.samplingContext candidateId) := by
  have hsignal : ∀ funnel bar atr14 hatr, (plainContext r candidateId).evaluateSignal funnel bar atr14 hatr =
      (r.samplingContext candidateId).evaluateSignal funnel bar atr14 hatr := by
    intro funnel bar atr14 hatr
    unfold DecisionContext.evaluateSignal DecisionContext.strictRefusal plainContext DecisionRequest.samplingContext
    dsimp only
    rcases h with hzero | hnone
    · rw [hstrict, hzero]
      rfl
    · rw [hnone]
      rfl
  have hregime : ∀ funnel bar, (plainContext r candidateId).evaluateRegime funnel bar =
      (r.samplingContext candidateId).evaluateRegime funnel bar := by
    intro funnel bar
    unfold DecisionContext.evaluateRegime
    simp only [hsignal]
    rfl
  have halignment : (plainContext r candidateId).alignment = (r.samplingContext candidateId).alignment := by
    unfold DecisionContext.alignment plainContext DecisionRequest.samplingContext
    dsimp only
    rw [hstrict, hdirection]
    rfl
  unfold evaluateSymbol DecisionContext.evaluateBar DecisionContext.evaluateTimeframes
  simp only [hregime, halignment]
  rfl

/-- The context with another id for its candidate. -/
abbrev withId (c : DecisionContext) (candidateId : String) : DecisionContext := { c with candidateId }

theorem evaluateSignal_withId (hc : c.Ungated) (hnone : o.candidate = none) {bar : BarView} {atr14 : ℚ} {hatr : 0 < atr14}
    (h : c.evaluateSignal funnel bar atr14 hatr = .ok o) (candidateId : String) :
    (withId c candidateId).evaluateSignal funnel bar atr14 hatr = .ok o := by
  have hmap := evaluateSignal_candidate hc funnel bar atr14 hatr
  rw [h] at hmap
  unfold DecisionContext.evaluateSignal at h ⊢
  dsimp only at h hmap ⊢
  cases hside : (evaluateSamplingSignal c.entryTimeframe).side with
  | none =>
    rw [hside] at h
    exact h
  | some side =>
    rw [hside] at h hmap
    have hsame : (withId c candidateId).strictRefusal side (evaluateSamplingSignal c.entryTimeframe).signalMetrics =
        c.strictRefusal side (evaluateSamplingSignal c.entryTimeframe).signalMetrics := rfl
    dsimp only at h hmap ⊢
    rw [hsame]
    rw [strictRefusal_isSome c side [] (evaluateSamplingSignal c.entryTimeframe).signalMetrics] at hmap
    cases hrefused : c.strictRefusal side (evaluateSamplingSignal c.entryTimeframe).signalMetrics with
    | some metrics =>
      rw [hrefused] at h
      exact h
    | none =>
      -- a side that nothing refuses gets a candidate
      rw [hrefused] at hmap
      cases hcreate : c.createCandidate bar side atr14 hatr with
      | error e =>
        rw [hcreate] at hmap
        nomatch hmap
      | ok candidate =>
        rw [hcreate] at hmap
        have hsome : o.candidate = some candidate := Except.ok.inj hmap
        rw [hsome] at hnone
        nomatch hnone

theorem evaluateRegime_withId (hc : c.Ungated) (hnone : o.candidate = none) {bar : BarView}
    (h : c.evaluateRegime funnel bar = .ok o) (candidateId : String) :
    (withId c candidateId).evaluateRegime funnel bar = .ok o := by
  unfold DecisionContext.evaluateRegime at h ⊢
  dsimp only
  cases hatr : atr c.entryTimeframe.bars with
  | none =>
    rw [hatr] at h
    exact h
  | some atr14 =>
    rw [hatr] at h
    dsimp only at h ⊢
    by_cases hpos : 0 < atr14
    · rw [dif_pos hpos] at h ⊢
      exact evaluateSignal_withId hc hnone h candidateId
    · rw [dif_neg hpos] at h ⊢
      exact h

/-- An outcome without a candidate does not depend on the id that a candidate would have got. -/
theorem evaluateSymbol_withId (hc : c.Ungated) (hnone : o.candidate = none) (h : evaluateSymbol c = .ok o)
    (candidateId : String) : evaluateSymbol (withId c candidateId) = .ok o := by
  unfold evaluateSymbol at h ⊢
  dsimp only
  cases hbar : c.entryTimeframe.lastClosed with
  | none =>
    rw [hbar] at h
    exact h
  | some bar =>
    rw [hbar] at h
    unfold DecisionContext.evaluateBar at h ⊢
    dsimp only at h ⊢
    by_cases hbefore : bar.timestamp ∈ c.alreadyEvaluatedBars
    · rw [if_pos hbefore] at h ⊢
      exact h
    · rw [if_neg hbefore] at h ⊢
      have hstale : (withId c candidateId).stale bar = c.stale bar := rfl
      rw [hstale]
      cases hold : c.stale bar with
      | true =>
        rw [hold, if_pos rfl] at h
        rw [if_pos rfl]
        exact h
      | false =>
        rw [hold] at h
        unfold DecisionContext.evaluateTimeframes at h ⊢
        have halignment : (withId c candidateId).alignment = c.alignment := rfl
        rw [halignment]
        simp only [Bool.false_eq_true, if_false] at h ⊢
        cases hrecord : c.alignment with
        | error metrics =>
          rw [hrecord] at h
          exact h
        | ok record =>
          rw [hrecord] at h
          exact evaluateRegime_withId hc hnone h candidateId

/-- The candidate of an evaluation carries the id of its context. -/
theorem evaluateSymbol_candidateId (hc : c.Ungated) (h : evaluateSymbol c = .ok o) {candidate : TradeCandidate}
    (hcandidate : o.candidate = some candidate) : candidate.candidateId = c.candidateId := by
  have hmap := evaluateSymbol_candidate hc
  rw [h] at hmap
  have hsome : Except.ok (some candidate) = if c.evaluatedBefore then .ok none else c.signal :=
    (congrArg Except.ok hcandidate).symm.trans hmap
  split at hsome
  · nomatch Except.ok.inj hsome
  · obtain ⟨-, -, -, -, hid⟩ := signal_candidate hsome.symm
    exact hid

/-- The replay of a decision that a snapshot holds returns the decision. -/
theorem replay_held {r : DecisionRequest} (h : r.HeldBySnapshot) {candidateId freshId : String} (hid : candidateId ≠ "")
    {outcome : DecisionOutcome} (houtcome : evaluateSymbol (r.samplingContext candidateId) = .ok outcome) :
    evaluateSymbol (plainContext r (replayId freshId outcome)) = .ok outcome := by
  have hplain : evaluateSymbol (plainContext r candidateId) = .ok outcome := by
    rw [← houtcome]
    rcases h with hends | ⟨hdirection, hstrict, hquiet⟩
    · exact evaluateSymbol_endsAtBar hends candidateId
    · exact evaluateSymbol_unaligned hdirection hstrict hquiet candidateId
  have hungated : (plainContext r candidateId).Ungated := ⟨rfl, rfl⟩
  cases hcandidate : outcome.candidate with
  | none => exact evaluateSymbol_withId hungated hcandidate hplain _
  | some candidate =>
    have hsame : replayId freshId outcome = candidateId := by
      unfold replayId
      rw [hcandidate, Option.map_some, evaluateSymbol_candidateId hungated hplain hcandidate]
      exact if_neg hid
    rw [hsame]
    exact hplain

/-! ### A decision that is not held -/

/-- The funnel of a fresh bar after the alignment of timeframes. -/
def alignedFunnel (c : DecisionContext) (bar : BarView) (record : FunnelStageRecord) : DecisionFunnelRecord :=
  { freshFunnel c bar with stages := (freshFunnel c bar).stages ++ [record] }

/-- The record of a context without another timeframe. -/
def singleTimeframeRecord : FunnelStageRecord :=
  { stage := .timeframesAligned, outcome := .skipped, reasonCode := .singleTimeframeLane }

/-- No feature of a plain evaluation names a direction timeframe. -/
theorem plain_features {bar : BarView} (h : c.evaluateRegime (alignedFunnel c bar singleTimeframeRecord) bar = .ok o) :
    "direction_timeframe" ∉ o.features := by
  obtain ⟨tail, htail, hnew⟩ := (evaluateRegime_continues h).stages
  unfold DecisionOutcome.features
  rw [mem_featuresOf]
  change "direction_timeframe" ∉ keysOf o.funnel.stages
  rw [htail, keysOf_append, List.mem_append]
  rintro (hmem | hmem)
  · simp [keysOf, alignedFunnel, freshFunnel, singleTimeframeRecord] at hmem
  · exact hnew hmem

/-- The features of an evaluation that aligned its timeframe name it. -/
theorem aligned_features {bar : BarView} {direction : TimeframeView}
    (h : c.evaluateRegime (alignedFunnel c bar
      { stage := .timeframesAligned, outcome := .passed, metrics := [("direction_timeframe", .text direction.timeframe)] })
      bar = .ok o) :
    "direction_timeframe" ∈ o.features := by
  obtain ⟨tail, htail, -⟩ := (evaluateRegime_continues h).stages
  unfold DecisionOutcome.features
  rw [mem_featuresOf]
  change "direction_timeframe" ∈ keysOf o.funnel.stages
  rw [htail, keysOf_append, List.mem_append]
  exact .inl (by simp [keysOf, alignedFunnel, freshFunnel])

/-- With a side, a lax context records its count of confirmations. -/
theorem confirmation_feature {bar : BarView} {side : Direction} (hc : c.Ungated) (hstrict : c.strictSamplingAlignment = false)
    (hside : (evaluateSamplingSignal c.entryTimeframe).side = some side) (h : c.evaluateRegime funnel bar = .ok o) :
    o.features.lookup "confirmation_bars" = some (.number c.samplingConfirmationBars) := by
  obtain ⟨atr14, hatr, hpos⟩ : ∃ atr14, atr c.entryTimeframe.bars = some atr14 ∧ 0 < atr14 := by
    unfold evaluateSamplingSignal at hside
    split at hside
    · cases hside
    · dsimp only at hside
      split at hside
      · rename_i atr14 _ _ _ hatr
        split at hside
        · cases hside
        · rename_i hpos
          exact ⟨_, hatr, not_le.mp hpos⟩
      · cases hside
  unfold DecisionContext.evaluateRegime at h
  rw [hatr] at h
  dsimp only at h
  rw [dif_pos hpos] at h
  unfold DecisionContext.evaluateSignal DecisionContext.strictRefusal at h
  dsimp only at h
  rw [hside, hstrict] at h
  unfold DecisionContext.evaluateCandidate at h
  simp only [if_true] at h
  cases hcreate : c.createCandidate bar side atr14 hpos with
  | error e =>
    rw [hcreate] at h
    cases h
  | ok candidate =>
    rw [hcreate] at h
    rw [← Except.ok.inj h]
    unfold DecisionOutcome.features DecisionContext.gateCandidate
    rw [lookup_featuresOf, hc.predictor, hc.manifest]
    simp [DecisionFunnelRecord.record, List.lookup_cons]

/-- A fresh bar whose replay agrees has no other timeframe and no confirmation of a signal. -/
theorem held_of_replay {r : DecisionRequest} {candidateId replayedId : String} {outcome replay : DecisionOutcome} {bar : BarView}
    (hbar : r.entryTimeframe.lastClosed = some bar) (hends : ¬r.endsAtBar = true)
    (houtcome : evaluateSymbol (r.samplingContext candidateId) = .ok outcome)
    (hreplay : evaluateSymbol (plainContext r replayedId) = .ok replay) (hstage : replay.terminalStage = outcome.terminalStage)
    (hfeatures : replay.features = outcome.features) :
    r.directionTimeframe = none ∧ r.strictSamplingAlignment = false ∧
      (r.samplingConfirmationBars = 0 ∨ (evaluateSamplingSignal r.entryTimeframe).side = none) := by
  unfold DecisionRequest.endsAtBar at hends
  rw [hbar, Option.any_some, decide_eq_true_eq] at hends
  have hnew : bar.timestamp ∉ r.alreadyEvaluatedBars := fun hold => hends (.inl hold)
  have hfresh : (r.samplingContext candidateId).stale bar = false := decide_eq_false fun hold => hends (.inr hold)
  have hfresh' : (plainContext r replayedId).stale bar = false := hfresh
  rw [evaluateSymbol_fresh (c := r.samplingContext candidateId) hbar hnew hfresh] at houtcome
  rw [evaluateSymbol_fresh (c := plainContext r replayedId) hbar hnew hfresh'] at hreplay
  have hregime : (plainContext r replayedId).evaluateRegime (alignedFunnel (plainContext r replayedId) bar
      singleTimeframeRecord) bar = .ok replay := hreplay
  unfold DecisionContext.evaluateTimeframes at houtcome
  cases halignment : (r.samplingContext candidateId).alignment with
  | error metrics =>
    -- the decision ended with its timeframes, the replay comes past them
    rw [halignment] at houtcome
    rw [← Except.ok.inj houtcome] at hstage
    exact absurd hstage (evaluateRegime_continues hregime).terminalStage
  | ok record =>
    rw [halignment] at houtcome
    dsimp only at houtcome
    unfold DecisionContext.alignment at halignment
    split at halignment
    · nomatch halignment
    · rename_i hlax
      split at halignment
      · rename_i hdirection
        have hnone : r.directionTimeframe = none := hdirection
        have hstrict : r.strictSamplingAlignment = false := by
          refine Bool.eq_false_iff.mpr fun hstrict => hlax ⟨hstrict, .inl ?_⟩
          rw [hdirection]
          rfl
        refine ⟨hnone, hstrict, ?_⟩
        cases hside : (evaluateSamplingSignal r.entryTimeframe).side with
        | none => exact .inr rfl
        | some side =>
          have hrecorded := confirmation_feature (c := r.samplingContext candidateId) ⟨rfl, rfl⟩ hstrict hside houtcome
          rw [← hfeatures, confirmation_feature (c := plainContext r replayedId) ⟨rfl, rfl⟩ rfl hside hregime] at hrecorded
          exact .inl (MetricValue.number.inj (Option.some.inj hrecorded)).symm
      · split at halignment
        · nomatch halignment
        · -- only the decision names its direction timeframe
          rw [← Except.ok.inj halignment] at houtcome
          have hnamed := aligned_features houtcome
          rw [← hfeatures] at hnamed
          exact absurd hnamed (plain_features hregime)

/-- A snapshot that reproduces its decision holds what left a trace in it. -/
theorem held_of_reproducible (canonicalHash : SnapshotContent → String) (freshId : String) (r : DecisionRequest)
    (p : SnapshotProvenance) {candidateId : String} {outcome : DecisionOutcome} {snapshot : DecisionSnapshot}
    (houtcome : evaluateSymbol (r.samplingContext candidateId) = .ok outcome)
    (hsnapshot : buildDecisionSnapshot canonicalHash (r.snapshotInputs p) outcome = .ok snapshot)
    (h : (compareDecisionSnapshot canonicalHash freshId snapshot).reproducible = true) : r.HeldBySnapshot := by
  have hsnapshotOf := snapshotOf_build canonicalHash freshId r p houtcome hsnapshot
  obtain ⟨replay, hreplay, hstage, -, hfeatures, -⟩ := (reproducible_iff hsnapshotOf).mp h
  obtain ⟨bar, hbar⟩ := hsnapshotOf.bar
  by_cases hends : r.endsAtBar = true
  · exact .inl hends
  · exact .inr (held_of_replay hbar hends houtcome hreplay hstage hfeatures)

end ForwardReplayAux

open ForwardReplayAux

/-- The snapshot of a sampling decision replays to itself exactly if it holds all that left a trace in the decision. -/
theorem snapshot_reproducible_iff (canonicalHash : SnapshotContent → String) (freshId : String) (r : DecisionRequest)
    (p : SnapshotProvenance) {candidateId : String} (hid : candidateId ≠ "") {outcome : DecisionOutcome}
    {snapshot : DecisionSnapshot} (houtcome : evaluateSymbol (r.samplingContext candidateId) = .ok outcome)
    (hsnapshot : buildDecisionSnapshot canonicalHash (r.snapshotInputs p) outcome = .ok snapshot) :
    (compareDecisionSnapshot canonicalHash freshId snapshot).reproducible = true ↔ r.HeldBySnapshot := by
  constructor
  · exact held_of_reproducible canonicalHash freshId r p houtcome hsnapshot
  · intro h
    rw [reproducible_iff (snapshotOf_build canonicalHash freshId r p houtcome hsnapshot)]
    exact ⟨outcome, replay_held h hid houtcome, rfl, rfl, rfl, rfl⟩

/-! ## A canary decision -/

namespace ForwardReplayAux

/-- The first bar of a symbol, an hour and a half after the epoch. -/
def firstBar : BarView := { timestamp := 5400000000, openPrice := 100, high := 101, low := 99, close := 100, volume := 1 }

/-- The canary request of that bar: strict alignment, two confirmations, both other timeframes. -/
def canaryRequest : DecisionRequest where
  cycleId := "cycle"
  symbol := "BTCUSDT"
  timeframe := "15m"
  entryTimeframe := { timeframe := "15m", bars := [firstBar] }
  directionTimeframe := some { timeframe := "1h", bars := [firstBar] }
  stateTimeframe := some { timeframe := "4h", bars := [firstBar] }
  executionMode := .binanceTestnet
  engineActivation := .active
  now := 5430000000
  samplingFallbackEnabled := true
  samplingStrategyVersion := "2.1.0"
  strictSamplingAlignment := true
  samplingConfirmationBars := 2
  entryAuthority := .testnetCanary

/-- The provenance of its snapshot. -/
def canaryProvenance : SnapshotProvenance where
  decisionId := "decision"
  strategyCommit := "commit"
  strategyVersion := "2.1.0"
  configHash := "config"
  initialRiskInputs := []
  costInputs := []
  executionMode := some "BINANCE_TESTNET"
  engineActivation := some "ACTIVE"

/-- A chain of two steps that succeeds went through both. -/
theorem steps_of_isOk {ε α β : Type} {x : Except ε α} {f : α → Except ε β} (h : (x.bind f).isOk = true) :
    ∃ (a : α) (b : β), x = .ok a ∧ f a = .ok b := by
  cases x with
  | error e => nomatch h
  | ok a =>
    cases hb : f a with
    | error e => simp [Except.bind, hb, Except.isOk, Except.toBool] at h
    | ok b => exact ⟨a, b, rfl, hb⟩

/-- It is decided, and its snapshot is taken. -/
theorem canaryRequest_snapshot : ∃ (outcome : DecisionOutcome) (snapshot : DecisionSnapshot),
    evaluateSymbol (canaryRequest.samplingContext "candidate") = .ok outcome ∧
      buildDecisionSnapshot (fun _ => "hash") (canaryRequest.snapshotInputs canaryProvenance) outcome = .ok snapshot :=
  steps_of_isOk (by decide +kernel)

/-- It is aligned with a direction timeframe that its bars do not end at. -/
theorem canaryRequest_not_held : ¬canaryRequest.HeldBySnapshot := by
  rintro (hends | ⟨hdirection, -⟩)
  · exact absurd hends (by decide +kernel)
  · nomatch hdirection

end ForwardReplayAux

/-- The snapshot of a canary decision does not hold the timeframe it was aligned with. -/
theorem snapshot_reproducible_false :
    ¬∀ (canonicalHash : SnapshotContent → String) (freshId : String) (r : DecisionRequest) (p : SnapshotProvenance)
      (candidateId : String), candidateId ≠ "" → ∀ (outcome : DecisionOutcome) (snapshot : DecisionSnapshot),
        evaluateSymbol (r.samplingContext candidateId) = .ok outcome →
          buildDecisionSnapshot canonicalHash (r.snapshotInputs p) outcome = .ok snapshot →
            (compareDecisionSnapshot canonicalHash freshId snapshot).reproducible = true := by
  intro h
  obtain ⟨outcome, snapshot, houtcome, hsnapshot⟩ := canaryRequest_snapshot
  have hreproducible := h _ "fresh" _ _ _ (by decide) outcome snapshot houtcome hsnapshot
  exact canaryRequest_not_held (held_of_reproducible _ "fresh" _ _ houtcome hsnapshot hreproducible)

/-- The canary decision: its snapshot does not reproduce, and does not hold what it would have to. -/
theorem snapshot_reproducible_canary :
    ∃ (outcome : DecisionOutcome) (snapshot : DecisionSnapshot),
      evaluateSymbol (canaryRequest.samplingContext "candidate") = .ok outcome ∧
        ((compareDecisionSnapshot (fun _ => "hash") "fresh" snapshot).reproducible = true ↔ canaryRequest.HeldBySnapshot) := by
  obtain ⟨outcome, snapshot, houtcome, hsnapshot⟩ := canaryRequest_snapshot
  exact ⟨outcome, snapshot, houtcome, snapshot_reproducible_iff _ "fresh" _ _ (by decide) houtcome hsnapshot⟩

end TradingPlatform
