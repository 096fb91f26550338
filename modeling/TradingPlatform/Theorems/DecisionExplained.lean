import TradingPlatform.Lemmas.DecisionService

/-!
# The outcome of an evaluation

Every way an evaluation can stop records its stage last, under the reason it ends with. The candidate is the exception: its own
checks raise, after most of the stages were recorded, and nothing turns that into an outcome.
-/

namespace TradingPlatform

/-! ## The statement -/

/-- An outcome is explained: its stages are in the order of the pipeline, none follows a rejecting one, the last one gives the
reason, and there is a candidate exactly if the reason says so. -/
structure DecisionOutcome.Explained (out : DecisionOutcome) : Prop where
  ordered : out.funnel.stages.Pairwise fun a b => a.stage.order < b.stage.order
  closed : ∀ r ∈ out.funnel.stages.dropLast, r.outcome ≠ .rejected
  terminal : ∃ r, out.funnel.stages.getLast? = some r ∧ r.stage = out.terminalStage ∧
    (r.reasonCode = out.reasonCode ∨ (r.outcome = .passed ∧ r.reasonCode = .ok ∧ out.reasonCode = .candidateReady))
  candidate_iff : out.candidate.isSome = true ↔ out.reasonCode = .candidateReady

/-- An evaluation ends in an explained outcome. -/
def EndsExplained (result : Except PyError DecisionOutcome) : Prop := ∃ out, result = .ok out ∧ out.Explained

/-- The context gives a side: its last bar is fresh, its timeframes are aligned, its range is positive, and nothing refuses. -/
structure DecisionContext.Signals (c : DecisionContext) (bar : BarView) (side : Direction) (atr14 : ℚ) : Prop where
  lastClosed : c.entryTimeframe.lastClosed = some bar
  notEvaluated : bar.timestamp ∉ c.alreadyEvaluatedBars
  fresh : c.stale bar = false
  aligned : c.alignment.isOk = true
  range_eq : atr c.entryTimeframe.bars = some atr14
  side_eq : (evaluateSamplingSignal c.entryTimeframe).side = some side
  notRefused : c.strictRefusal side [] = none

/-- The checks of a candidate pass: its price and its drift are positive, it expires after its bar closed, and its lane is not
the one of research. -/
structure DecisionContext.CandidateValid (c : DecisionContext) (bar : BarView) : Prop where
  close_pos : 0 < bar.close
  drift_pos : 0 < c.maxEntryDriftBps
  expires : bar.timestamp < c.now + c.candidateTtlSeconds * 1000000
  lane_ne : c.lane ≠ .shadow

/-- The predicted win rate of a candidate is below the minimum. -/
def DecisionContext.SkipsBet (c : DecisionContext) (candidate : TradeCandidate) : Prop :=
  ∃ predictor minimum, c.metaLabelPredictor = some predictor ∧ c.metaLabelMinWinRate = some minimum ∧
    predictor candidate < minimum

/-- An ineligible manifest does not give the reason of a candidate that is ready, unless the bet is skipped before. -/
def DecisionContext.ManifestExplained (c : DecisionContext) (candidate : TradeCandidate) : Prop :=
  c.manifestEligible = false → c.manifestReason = some .candidateReady → c.SkipsBet candidate

/-- Where the context gives a side, the checks of the candidate pass and the manifest explains what becomes of it. -/
def DecisionContext.CandidateExplained (c : DecisionContext) : Prop :=
  ∀ bar side atr14 (hatr : 0 < atr14), c.Signals bar side atr14 →
    c.CandidateValid bar ∧ ∀ candidate, c.createCandidate bar side atr14 hatr = .ok candidate → c.ManifestExplained candidate

namespace DecisionExplainedAux

/-! ## A funnel that goes on -/

/-- The stages so far are in order and before a bound, and none of them rejects. -/
structure GoesOn (bound : ℕ) (funnel : DecisionFunnelRecord) : Prop where
  ordered : funnel.stages.Pairwise fun a b => a.stage.order < b.stage.order
  below : ∀ r ∈ funnel.stages, r.stage.order < bound
  passing : ∀ r ∈ funnel.stages, r.outcome ≠ .rejected

variable {c : DecisionContext} {bound : ℕ} {funnel : DecisionFunnelRecord}

/-- One more stage that does not reject. -/
theorem GoesOn.snoc (h : GoesOn bound funnel) (record : FunnelStageRecord) (hbound : bound ≤ record.stage.order)
    (hpassing : record.outcome ≠ .rejected) :
    GoesOn (record.stage.order + 1) { funnel with stages := funnel.stages ++ [record] } := by
  refine ⟨List.pairwise_append.mpr ⟨h.ordered, List.pairwise_singleton _ _, fun a ha b hb => ?_⟩, fun r hr => ?_, fun r hr => ?_⟩
  · rw [List.mem_singleton.mp hb]
    exact (h.below a ha).trans_le hbound
  · rcases List.mem_append.mp hr with hr | hr
    · exact (h.below r hr).trans_le (hbound.trans (Nat.le_succ _))
    · rw [List.mem_singleton.mp hr]
      exact Nat.lt_succ_self _
  · rcases List.mem_append.mp hr with hr | hr
    · exact h.passing r hr
    · rw [List.mem_singleton.mp hr]
      exact hpassing

theorem GoesOn.record (h : GoesOn bound funnel) (stage : FunnelStage) (outcome : StageOutcome) (metrics : Metrics)
    (reason : EvaluationReason) (hbound : bound ≤ stage.order) (hpassing : outcome ≠ .rejected) :
    GoesOn (stage.order + 1) (funnel.record stage outcome metrics reason) :=
  h.snoc { stage, outcome, reasonCode := reason, metrics } hbound hpassing

/-- An outcome whose last stage is recorded on a funnel that goes on. -/
theorem GoesOn.explained (h : GoesOn bound funnel) {out : DecisionOutcome} (record : FunnelStageRecord)
    (hstages : out.funnel.stages = funnel.stages ++ [record]) (hbound : bound ≤ record.stage.order)
    (hstage : record.stage = out.terminalStage)
    (hreason : record.reasonCode = out.reasonCode ∨
      (record.outcome = .passed ∧ record.reasonCode = .ok ∧ out.reasonCode = .candidateReady)) :
    out.Explained ↔ (out.candidate.isSome = true ↔ out.reasonCode = .candidateReady) := by
  refine ⟨fun hout => hout.candidate_iff, fun hcandidate => ⟨?_, ?_, ⟨record, ?_, hstage, hreason⟩, hcandidate⟩⟩
  · rw [hstages]
    refine List.pairwise_append.mpr ⟨h.ordered, List.pairwise_singleton _ _, fun a ha b hb => ?_⟩
    rw [List.mem_singleton.mp hb]
    exact (h.below a ha).trans_le hbound
  · rw [hstages, List.dropLast_concat]
    exact h.passing
  · rw [hstages, List.getLast?_concat]

/-- Without a candidate an evaluation ends explained exactly if its reason is another one. -/
theorem GoesOn.terminate (h : GoesOn bound funnel) (stage : FunnelStage) (reason : EvaluationReason) (metrics : Metrics)
    (outcome : StageOutcome) (hbound : bound ≤ stage.order) :
    EndsExplained (.ok (c.terminate funnel stage reason metrics outcome)) ↔ reason ≠ .candidateReady := by
  have hout : (c.terminate funnel stage reason metrics outcome).Explained ↔ _ :=
    h.explained { stage, outcome, reasonCode := reason, metrics } rfl hbound rfl (.inl rfl)
  unfold EndsExplained
  constructor
  · rintro ⟨out, heq, hexplained⟩ rfl
    cases heq
    nomatch (hout.mp hexplained).mpr rfl
  · intro hne
    exact ⟨_, rfl, hout.mpr (iff_of_false nofun hne)⟩

/-! ## The candidate -/

theorem createCandidate_isOk {bar : BarView} (side : Direction) {atr14 : ℚ} (hatr : 0 < atr14) :
    (∃ candidate, c.createCandidate bar side atr14 hatr = .ok candidate) ↔ c.CandidateValid bar := by
  unfold DecisionContext.createCandidate
  dsimp only
  constructor
  · rintro ⟨candidate, h⟩
    split at h
    · rename_i hprice
      split at h
      · rename_i hdrift
        split at h
        · rename_i hexpiry
          split at h
          · rename_i hlane
            exact ⟨hprice, hdrift, hexpiry, hlane⟩
          · cases h
        · cases h
      · cases h
    · cases h
  · rintro ⟨hprice, hdrift, hexpiry, hlane⟩
    rw [dif_pos hprice, dif_pos hdrift, dif_pos hexpiry, dif_pos hlane]
    exact ⟨_, rfl⟩

/-- The gates of a candidate end explained exactly if the manifest does. -/
theorem gateCandidate_iff (h : GoesOn bound funnel) (hbound : bound ≤ FunnelStage.metaLabelEvaluated.order)
    (candidate : TradeCandidate) :
    EndsExplained (.ok (c.gateCandidate funnel candidate)) ↔ c.ManifestExplained candidate := by
  -- the manifest, after a stage that lets the candidate pass
  have hmanifest : ∀ funnel, GoesOn (FunnelStage.metaLabelEvaluated.order + 1) funnel →
      (EndsExplained (.ok (if c.manifestEligible then
        { cycleId := c.cycleId, symbol := c.symbol, lane := c.lane, terminalStage := .manifestEvaluated,
          reasonCode := .candidateReady, funnel := funnel.record .manifestEvaluated .passed, candidate := some candidate }
        else c.terminate funnel .manifestEvaluated (c.manifestReason.getD .manifestNotEligible))) ↔
      (c.manifestEligible = false → c.manifestReason ≠ some .candidateReady)) := by
    intro funnel hfunnel
    cases c.manifestEligible with
    | true =>
      rw [if_pos rfl]
      refine iff_of_true ⟨_, rfl, ?_⟩ nofun
      exact (hfunnel.explained { stage := .manifestEvaluated, outcome := .passed } rfl (Nat.le_refl _) rfl
        (.inr ⟨rfl, rfl, rfl⟩)).mpr (iff_of_true rfl rfl)
    | false =>
      rw [if_neg Bool.false_ne_true, hfunnel.terminate .manifestEvaluated _ [] .rejected (Nat.le_refl _)]
      cases c.manifestReason with
      | none => exact iff_of_true (by decide) fun _ => (Option.some_ne_none _).symm
      | some reason => exact ⟨fun hne _ heq => hne (Option.some.inj heq), fun hne heq => hne rfl (congrArg some heq)⟩
  unfold DecisionContext.gateCandidate DecisionContext.ManifestExplained DecisionContext.SkipsBet
  dsimp only
  cases c.metaLabelPredictor with
  | none =>
    refine (hmanifest _ (h.record .metaLabelEvaluated .skipped [] .metaLabelNotConfigured hbound (by decide))).trans ?_
    refine forall_congr' fun _ => forall_congr' fun _ => iff_of_false id ?_
    rintro ⟨_, _, hnone, -⟩
    exact Option.some_ne_none _ hnone.symm
  | some predictor =>
    cases c.metaLabelMinWinRate with
    | none =>
      refine (hmanifest _ (h.record .metaLabelEvaluated .skipped [] .metaLabelNotConfigured hbound (by decide))).trans ?_
      refine forall_congr' fun _ => forall_congr' fun _ => iff_of_false id ?_
      rintro ⟨_, _, -, hnone, -⟩
      exact Option.some_ne_none _ hnone.symm
    | some minimum =>
      dsimp only
      split
      · rename_i hskips
        rw [h.terminate .metaLabelEvaluated .metaLabelBetSkipped _ .rejected hbound]
        exact iff_of_true (by decide) fun _ _ => ⟨predictor, minimum, rfl, rfl, hskips⟩
      · rename_i hpasses
        refine (hmanifest _ (h.record .metaLabelEvaluated .passed _ .ok hbound (by decide))).trans ?_
        refine forall_congr' fun _ => forall_congr' fun _ => iff_of_false id ?_
        rintro ⟨_, _, hpredictor, hminimum, hskips⟩
        rw [← Option.some.inj hpredictor, ← Option.some.inj hminimum] at hskips
        exact hpasses hskips

/-- From the candidate on. -/
theorem evaluateCandidate_iff (h : GoesOn bound funnel) (hbound : bound ≤ FunnelStage.candidateCreated.order) {bar : BarView}
    {side : Direction} {atr14 : ℚ} (hatr : 0 < atr14) :
    EndsExplained (c.evaluateCandidate funnel bar side atr14 hatr) ↔
      c.CandidateValid bar ∧ ∀ candidate, c.createCandidate bar side atr14 hatr = .ok candidate → c.ManifestExplained candidate := by
  rw [← createCandidate_isOk side hatr]
  unfold DecisionContext.evaluateCandidate
  cases c.createCandidate bar side atr14 hatr with
  | error e =>
    refine iff_of_false ?_ ?_
    · rintro ⟨_, heq, -⟩
      nomatch heq
    · rintro ⟨⟨_, heq⟩, -⟩
      nomatch heq
  | ok candidate =>
    have hnamed : GoesOn bound { funnel with candidateId := some candidate.candidateId } := ⟨h.ordered, h.below, h.passing⟩
    refine (gateCandidate_iff (hnamed.record .candidateCreated .passed _ .ok hbound (by decide)) (Nat.le_refl _) candidate).trans ?_
    constructor
    · intro hmanifest
      refine ⟨⟨candidate, rfl⟩, fun candidate' heq => ?_⟩
      rw [← Except.ok.inj heq]
      exact hmanifest
    · rintro ⟨-, hmanifest⟩
      exact hmanifest candidate rfl

/-! ## The signal -/

/-- No sampling rule gives the reason of a candidate that is ready. -/
theorem samplingReason_ne (t : TimeframeView) :
    (evaluateSamplingSignal t).reasonCode.getD .noEntrySignal ≠ .candidateReady := by
  have hside : ∀ close ema50 hist rsi14 reason, samplingSide close ema50 hist rsi14 = .error reason →
      reason ≠ .candidateReady := by
    intro close ema50 hist rsi14 reason h
    unfold samplingSide at h
    split_ifs at h
    · rw [← Except.error.inj h]
      decide
    · rw [← Except.error.inj h]
      decide
    · rw [← Except.error.inj h]
      decide
  unfold evaluateSamplingSignal
  split
  · exact show EvaluationReason.noEntrySignal ≠ .candidateReady by decide
  · dsimp only
    split
    · split
      · exact show EvaluationReason.atrNotPositive ≠ .candidateReady by decide
      · split
        · exact show EvaluationReason.noEntrySignal ≠ .candidateReady by decide
        · rename_i reason hreason
          exact hside _ _ _ _ reason hreason
    · exact show EvaluationReason.insufficientHistory ≠ .candidateReady by decide

/-- From the signal on. -/
theorem evaluateSignal_iff (h : GoesOn bound funnel) (hbound : bound ≤ FunnelStage.entrySignalEvaluated.order) {bar : BarView}
    {atr14 : ℚ} (hatr : 0 < atr14) :
    EndsExplained (c.evaluateSignal funnel bar atr14 hatr) ↔
      ∀ side, (evaluateSamplingSignal c.entryTimeframe).side = some side → c.strictRefusal side [] = none →
        c.CandidateValid bar ∧
          ∀ candidate, c.createCandidate bar side atr14 hatr = .ok candidate → c.ManifestExplained candidate := by
  unfold DecisionContext.evaluateSignal
  dsimp only
  cases (evaluateSamplingSignal c.entryTimeframe).side with
  | none =>
    dsimp only
    rw [h.terminate .entrySignalEvaluated _ _ .rejected hbound]
    exact iff_of_true (samplingReason_ne _) nofun
  | some side =>
    dsimp only
    have hrefusal := DecisionAux.strictRefusal_isSome c side (evaluateSamplingSignal c.entryTimeframe).signalMetrics []
    cases hmetrics : c.strictRefusal side (evaluateSamplingSignal c.entryTimeframe).signalMetrics with
    | some metrics =>
      dsimp only
      rw [hmetrics] at hrefusal
      rw [h.terminate .entrySignalEvaluated _ _ .rejected hbound]
      refine iff_of_true (by decide) fun side' hside hnone => ?_
      rw [← Option.some.inj hside] at hnone
      rw [hnone] at hrefusal
      nomatch hrefusal
    | none =>
      dsimp only
      rw [hmetrics] at hrefusal
      have hnone : c.strictRefusal side [] = none := by
        rw [← Option.isNone_iff_eq_none, ← Option.not_isSome, ← hrefusal]
        rfl
      refine (evaluateCandidate_iff (h.record .entrySignalEvaluated .passed _ .ok hbound (by decide)) (Nat.le_refl _) hatr).trans ?_
      constructor
      · intro hvalid side' hside _
        cases hside
        exact hvalid
      · exact fun hall => hall side rfl hnone

/-- From the regime on. -/
theorem evaluateRegime_iff (h : GoesOn bound funnel) (hbound : bound ≤ FunnelStage.regimeEvaluated.order) {bar : BarView} :
    EndsExplained (c.evaluateRegime funnel bar) ↔
      ∀ side atr14 (hatr : 0 < atr14), atr c.entryTimeframe.bars = some atr14 →
        (evaluateSamplingSignal c.entryTimeframe).side = some side → c.strictRefusal side [] = none →
          c.CandidateValid bar ∧
            ∀ candidate, c.createCandidate bar side atr14 hatr = .ok candidate → c.ManifestExplained candidate := by
  unfold DecisionContext.evaluateRegime
  cases atr c.entryTimeframe.bars with
  | none =>
    dsimp only
    rw [h.terminate .regimeEvaluated _ _ .rejected hbound]
    exact iff_of_true (by decide) fun _ _ _ hnone => absurd hnone (Option.some_ne_none _).symm
  | some atr14 =>
    dsimp only
    split
    · rename_i hatr
      refine (evaluateSignal_iff (h.record .regimeEvaluated .passed _ .ok hbound (by decide)) (Nat.le_refl _) hatr).trans ?_
      constructor
      · intro hvalid side atr' hatr' heq
        cases heq
        exact hvalid side
      · exact fun hall side => hall side atr14 hatr rfl
    · rename_i hnot
      rw [h.terminate .regimeEvaluated _ _ .rejected hbound]
      refine iff_of_true (by decide) fun side atr' hatr' heq => ?_
      rw [← Option.some.inj heq] at hatr'
      exact absurd hatr' hnot

/-- The record of aligned timeframes lets the evaluation go on. -/
theorem alignment_ok {record : FunnelStageRecord} (h : c.alignment = .ok record) :
    record.stage = .timeframesAligned ∧ record.outcome ≠ .rejected := by
  unfold DecisionContext.alignment at h
  split at h
  · nomatch h
  · split at h
    · rw [← Except.ok.inj h]
      exact ⟨rfl, by decide⟩
    · split at h
      · nomatch h
      · rw [← Except.ok.inj h]
        exact ⟨rfl, show StageOutcome.passed ≠ .rejected by decide⟩

/-- From the timeframes on. -/
theorem evaluateTimeframes_iff (h : GoesOn bound funnel) (hbound : bound ≤ FunnelStage.timeframesAligned.order)
    {bar : BarView} :
    EndsExplained (c.evaluateTimeframes funnel bar) ↔
      (c.alignment.isOk = true → ∀ side atr14 (hatr : 0 < atr14), atr c.entryTimeframe.bars = some atr14 →
        (evaluateSamplingSignal c.entryTimeframe).side = some side → c.strictRefusal side [] = none →
          c.CandidateValid bar ∧
            ∀ candidate, c.createCandidate bar side atr14 hatr = .ok candidate → c.ManifestExplained candidate) := by
  unfold DecisionContext.evaluateTimeframes
  cases halign : c.alignment with
  | error metrics =>
    dsimp only
    rw [h.terminate .timeframesAligned _ _ .rejected hbound]
    exact iff_of_true (by decide) nofun
  | ok record =>
    dsimp only
    obtain ⟨hstage, hpassing⟩ := alignment_ok halign
    have hnext := h.snoc record (by rw [hstage]; exact hbound) hpassing
    rw [hstage] at hnext
    refine (evaluateRegime_iff hnext (Nat.le_refl _)).trans ⟨fun hall _ => hall, fun hall => hall rfl⟩

end DecisionExplainedAux

open DecisionExplainedAux

/-- An evaluation returns an explained outcome exactly if the candidate of its signal, if it has one, passes its checks and the
manifest does not misname it. -/
theorem evaluateSymbol_explained_iff (c : DecisionContext) : EndsExplained (evaluateSymbol c) ↔ c.CandidateExplained := by
  have hstart : GoesOn 1 { strategyId := c.strategyId, strategyVersion := c.strategyVersion,
                           stages := [{ stage := .cycleStarted, outcome := .passed }] } := by
    refine ⟨List.pairwise_singleton _ _, fun r hr => ?_, fun r hr => ?_⟩
    · rw [List.mem_singleton.mp hr]
      exact Nat.one_pos
    · rw [List.mem_singleton.mp hr]
      decide
  unfold evaluateSymbol
  cases hlast : c.entryTimeframe.lastClosed with
  | none =>
    dsimp only
    rw [hstart.terminate .dataAvailable _ _ .rejected (Nat.le_refl _)]
    refine iff_of_true (by decide) fun bar side atr14 hatr hsignals => ?_
    exact absurd (hlast.symm.trans hsignals.lastClosed) (Option.some_ne_none _).symm
  | some bar =>
    have hbar : GoesOn 1 { strategyId := c.strategyId, strategyVersion := c.strategyVersion,
                           stages := [{ stage := .cycleStarted, outcome := .passed }],
                           barTimestamp := some bar.timestamp } := ⟨hstart.ordered, hstart.below, hstart.passing⟩
    have havailable := hbar.record .dataAvailable .passed [("entry_bar_count", .number c.entryTimeframe.bars.length)] .ok
      (Nat.le_refl _) (by decide)
    dsimp only
    unfold DecisionContext.evaluateBar
    dsimp only
    split
    · rename_i hbefore
      refine (havailable.terminate .candleClosed .duplicateDecision _ .skipped (Nat.le_refl _)).trans ?_
      refine iff_of_true (by decide) fun bar' side atr14 hatr hsignals => ?_
      cases hlast.symm.trans hsignals.lastClosed
      exact absurd hbefore hsignals.notEvaluated
    · rename_i hnew
      have hclosed := havailable.record .candleClosed .passed [("bar_timestamp", .number bar.timestamp)] .ok (Nat.le_refl _)
        (by decide)
      split
      · rename_i hstale
        refine (hclosed.terminate .dataFresh .marketDataStale _ .rejected (Nat.le_refl _)).trans ?_
        refine iff_of_true (by decide) fun bar' side atr14 hatr hsignals => ?_
        cases hlast.symm.trans hsignals.lastClosed
        rw [hsignals.fresh] at hstale
        nomatch hstale
      · rename_i hfresh
        have hgoes := hclosed.record .dataFresh .passed [("bar_age_seconds", .number (c.age bar))] .ok (Nat.le_refl _)
          (by decide)
        refine (evaluateTimeframes_iff hgoes (Nat.le_refl _)).trans ?_
        constructor
        · intro hall bar' side atr14 hatr hsignals
          cases hlast.symm.trans hsignals.lastClosed
          exact hall hsignals.aligned side atr14 hatr hsignals.range_eq hsignals.side_eq hsignals.notRefused
        · intro hall haligned side atr14 hatr hrange hside hrefused
          exact hall bar side atr14 hatr ⟨hlast, hnew, Bool.eq_false_iff.mpr hfresh, haligned, hrange, hside, hrefused⟩

/-! ## A bar of the future -/

namespace DecisionExplainedAux

/-- The closes of a signal: flat, then up and down, and up at the end. -/
def signalCloses : List ℚ := List.replicate 36 100 ++ [101, 100, 101, 100, 101, 100, 101, 100, 101, 100, 101, 100, 101, 102]

/-- A context of that signal whose last bar closes three minutes after now. -/
def futureContext : DecisionContext where
  cycleId := "cycle-1"
  symbol := "BTC/USDT"
  lane := .production
  strategyId := "strategy"
  strategyVersion := "1"
  entryTimeframe :=
    { timeframe := "5m"
      bars := signalCloses.map fun close =>
        { timestamp := 180 * 1000000, openPrice := close, high := close + 1, low := close - 1, close, volume := 1 } }
  now := 0
  candidateId := "candidate-1"

/-- An evaluation raises an error. -/
def raisesError (result : Except PyError DecisionOutcome) (e : PyError) : Bool :=
  match result with
  | .error e' => decide (e' = e)
  | .ok _ => false

theorem eq_error_of_raisesError {result : Except PyError DecisionOutcome} {e : PyError} (h : raisesError result e = true) :
    result = .error e := by
  cases result with
  | error e' => exact congrArg Except.error (of_decide_eq_true h)
  | ok out => nomatch h

theorem futureContext_raises :
    raisesError (evaluateSymbol futureContext) (.valueError "expires_at must be after signal_candle_close_time") = true := by
  decide +kernel

end DecisionExplainedAux

/-- The candidate expires before its bar closes, and its check raises. -/
theorem evaluateSymbol_explained_false :
    evaluateSymbol futureContext = .error (.valueError "expires_at must be after signal_candle_close_time") ∧
      ¬∀ c, EndsExplained (evaluateSymbol c) := by
  have hraises := eq_error_of_raisesError futureContext_raises
  refine ⟨hraises, fun h => ?_⟩
  obtain ⟨out, hout, -⟩ := h futureContext
  rw [hraises] at hout
  nomatch hout

end TradingPlatform
