import TradingPlatform.Lemmas.DecisionService

/-!
# One decision for a closed bar

A bar that has a terminal decision is not decided again, if the decision was loaded under the lane it was written in. A decision
without a candidate is written in the sampling lane, and one with a candidate in the production lane.
-/

namespace TradingPlatform

/-! ## The statement -/

/-- Once a candidate of a bar was persisted as a terminal decision, no later cycle gets a candidate of that bar. -/
def DecidedOnce (logs : List SymbolCycleLog) : Prop :=
  ∀ (i j : ℕ) (earlier later : SymbolCycleLog) (bar : ℕ), i < j → logs[i]? = some earlier → logs[j]? = some later →
    earlier.persisted = true → earlier.candidateBar = some bar → later.candidateBar ≠ some bar

section Cycles

variable (symbol timeframe : String) (mode : V2ExecutionMode)

/-- The cycle comes to its decision, on entry data that is ready. -/
def SymbolCycle.Evaluates (k : SymbolCycle) : Prop :=
  k.management = .ok true ∧ entryDataReadiness k.now k.entryTimeframe k.directionTimeframe k.stateTimeframe = true

/-- The signal of the cycle, whatever was evaluated before. -/
def SymbolCycle.signal (k : SymbolCycle) : Except PyError (Option TradeCandidate) :=
  ((k.request symbol timeframe mode []).samplingContext k.candidateId).signal

/-- The bar of the cycle carries an entry signal. -/
def SymbolCycle.Carries (k : SymbolCycle) : Prop :=
  k.Evaluates ∧ ∃ candidate, k.signal symbol timeframe mode = .ok (some candidate)

/-- The cycle may write, goes through and commits its decision. -/
def SymbolCycle.Writes (k : SymbolCycle) : Prop :=
  mode = .binanceTestnet ∧ k.engineActivation = .active ∧ k.samplingFallbackEnabled = true ∧ k.later.isOk = true ∧
    k.finalizes = true

/-- The bar has a terminal decision of the sampling lane: in the rows, or from a cycle that found no signal on it. -/
def Recorded (rows : List DecisionRow) (ks : List SymbolCycle) (bar : ℕ) : Prop :=
  bar ∈ loadAlreadyEvaluatedBars rows symbol timeframe mode .testnetSampling ∨
    ∃ k ∈ ks, k.Evaluates ∧ k.barTimestamp = bar ∧ k.signal symbol timeframe mode = .ok none ∧ k.finalizes = true

end Cycles

/-! ## What a cycle leaves -/

namespace OneDecisionAux

variable {symbol timeframe : String} {mode : V2ExecutionMode} {rows : List DecisionRow} {k : SymbolCycle}

/-- The payload of a decision without a candidate. -/
def quietPayload (entryEnabled : Bool) (sampling : DecisionOutcome) : FunnelPayload :=
  { lane := some CandidateLane.testnetSampling.value, terminalStage := some sampling.terminalStage.value,
    reasonCode := some sampling.reasonCode.value : FunnelPayload }.pause entryEnabled

/-- The bars that are loaded after a decision was finalized. -/
theorem mem_load_finalize (bar barTimestamp : ℕ) (payload : FunnelPayload) :
    bar ∈ loadAlreadyEvaluatedBars (finalizeDecision rows symbol timeframe mode barTimestamp payload) symbol timeframe mode
        .testnetSampling ↔
      bar ∈ loadAlreadyEvaluatedBars rows symbol timeframe mode .testnetSampling ∨
        (payload.normalizeReasons.lane.getD "" = CandidateLane.testnetSampling.value ∧
          payload.normalizeReasons.systemFailureReason ≠ some "ENTRY_DATA_NOT_READY" ∧
            payload.normalizeReasons.entryBarRetryable = false) ∧ barTimestamp = bar := by
  unfold loadAlreadyEvaluatedBars finalizeDecision
  rw [List.filter_append, List.map_append, List.mem_append]
  refine or_congr_right ?_
  simp only [List.filter_cons, List.filter_nil, DecisionRow.countsFor]
  split
  · rename_i hcounts
    simp at hcounts
    simp [hcounts, eq_comm]
  · rename_i hcounts
    simp at hcounts
    simp only [List.map_nil, List.not_mem_nil, false_iff]
    rintro ⟨⟨hlane, hsystem, hretry⟩, -⟩
    exact absurd hretry (by simpa using hcounts hlane hsystem)

/-- The normalisation keeps the lane and whether the bar is retried. -/
theorem normalizeReasons_kept (payload : FunnelPayload) :
    payload.normalizeReasons.lane = payload.lane ∧ payload.normalizeReasons.entryBarRetryable = payload.entryBarRetryable := by
  have hspread : payload.spreadReason.lane = payload.lane ∧
      payload.spreadReason.entryBarRetryable = payload.entryBarRetryable := by
    unfold FunnelPayload.spreadReason
    split
    · exact ⟨rfl, rfl⟩
    · split
      · exact ⟨rfl, rfl⟩
      · split <;> exact ⟨rfl, rfl⟩
  unfold FunnelPayload.normalizeReasons
  dsimp only
  by_cases hnone : payload.terminalReason.isNone = true
  · rw [if_pos hnone]
    split <;> exact hspread
  · rw [if_neg hnone]
    split <;> exact ⟨rfl, rfl⟩

/-- A payload with another reason is not normalised to one of entry data. -/
theorem normalizeReasons_system {payload : FunnelPayload} (hsystem : payload.systemFailureReason = none)
    (hreason : payload.reasonCode ≠ some "ENTRY_DATA_NOT_READY") :
    payload.normalizeReasons.systemFailureReason ≠ some "ENTRY_DATA_NOT_READY" := by
  have hspread : payload.spreadReason.systemFailureReason ≠ some "ENTRY_DATA_NOT_READY" := by
    unfold FunnelPayload.spreadReason
    split
    · simp
    · rename_i reason hcode
      have hne : reason ≠ "ENTRY_DATA_NOT_READY" := by
        rintro rfl
        unfold orElseText at hcode
        split at hcode
        · nomatch hcode
        · rename_i hp
          split at hcode
          · nomatch hcode
          · rw [Option.some.inj hcode] at hp
            exact hreason hp
      split
      · simp [hsystem]
      · split
        · simp [hsystem]
        · simpa using hne
  unfold FunnelPayload.normalizeReasons
  dsimp only
  by_cases hnone : payload.terminalReason.isNone = true
  · rw [if_pos hnone]
    split
    · exact hspread
    · simp
  · rw [if_neg hnone]
    split
    · simp [hsystem]
    · simp

/-- A decision without a candidate counts for the sampling lane. -/
theorem mem_load_quiet (bar barTimestamp : ℕ) (entryEnabled : Bool) (sampling : DecisionOutcome) :
    bar ∈ loadAlreadyEvaluatedBars (finalizeDecision rows symbol timeframe mode barTimestamp
        (quietPayload entryEnabled sampling)) symbol timeframe mode .testnetSampling ↔
      bar ∈ loadAlreadyEvaluatedBars rows symbol timeframe mode .testnetSampling ∨ barTimestamp = bar := by
  rw [mem_load_finalize, (normalizeReasons_kept _).1, (normalizeReasons_kept _).2]
  refine or_congr_right (and_iff_right ⟨?_, ?_, ?_⟩)
  · unfold quietPayload FunnelPayload.pause
    split <;> rfl
  · refine normalizeReasons_system ?_ ?_
    · unfold quietPayload FunnelPayload.pause
      split <;> rfl
    · have hvalue : ∀ reason : EvaluationReason, reason.value ≠ "ENTRY_DATA_NOT_READY" := by
        intro reason
        cases reason <;> decide
      unfold quietPayload FunnelPayload.pause
      split <;> simpa using hvalue sampling.reasonCode
  · unfold quietPayload FunnelPayload.pause
    split <;> rfl

/-- A payload of another lane does not. -/
theorem mem_load_other {bar barTimestamp : ℕ} {payload : FunnelPayload}
    (hlane : payload.lane.getD "" ≠ CandidateLane.testnetSampling.value) :
    bar ∈ loadAlreadyEvaluatedBars (finalizeDecision rows symbol timeframe mode barTimestamp payload) symbol timeframe mode
        .testnetSampling ↔
      bar ∈ loadAlreadyEvaluatedBars rows symbol timeframe mode .testnetSampling := by
  rw [mem_load_finalize, (normalizeReasons_kept _).1]
  refine or_iff_left ?_
  rintro ⟨⟨hsame, -⟩, -⟩
  exact hlane hsame

/-- The stages after a candidate keep its lane. -/
theorem finishPayload_lane {decision : CycleDecision} {payload : FunnelPayload} (h : k.finishPayload decision = .ok payload) :
    payload.lane = decision.payload.lane := by
  have hfold : ∀ (stages : List (String × String)) (p : FunnelPayload),
      (stages.foldl (fun p stage => p.appendStage stage.1 stage.2) p).lane = p.lane := by
    intro stages
    induction stages with
    | nil => exact fun p => rfl
    | cons stage stages ih => exact fun p => ih _
  unfold SymbolCycle.finishPayload at h
  split at h
  · rw [← Except.ok.inj h]
  · cases hlater : k.later with
    | error e =>
      rw [hlater] at h
      nomatch h
    | ok stages =>
      rw [hlater] at h
      rw [← Except.ok.inj h]
      exact hfold stages decision.payload

/-! ### The decision of a cycle -/

section Decision

variable (symbol timeframe mode rows k)

/-- The context of the cycle, with the bars that are loaded for it. -/
def loadedContext : DecisionContext :=
  (k.request symbol timeframe mode (loadAlreadyEvaluatedBars rows symbol timeframe mode .testnetSampling)).samplingContext
    k.candidateId

/-- The evaluation of a cycle: nothing for a bar that is loaded, else its signal. -/
theorem evaluate_loaded : (evaluateSymbol (loadedContext symbol timeframe mode rows k)).map (·.candidate) =
    if (loadedContext symbol timeframe mode rows k).evaluatedBefore then .ok none else k.signal symbol timeframe mode :=
  evaluateSymbol_candidate ⟨rfl, rfl⟩

end Decision

/-- A candidate closes with the bar of its cycle. -/
theorem signal_bar {candidate : TradeCandidate} (h : k.signal symbol timeframe mode = .ok (some candidate)) :
    candidate.signalCandleCloseTime = k.barTimestamp ∧ candidate.lane = .testnetSampling := by
  obtain ⟨bar, hbar, htime, hlane, -⟩ := signal_candidate h
  have hlast : k.entryTimeframe.lastClosed = some bar := hbar
  refine ⟨?_, hlane⟩
  unfold SymbolCycle.barTimestamp
  rw [htime, hlast]
  rfl

/-- With a last bar, the cycle's bar was evaluated before exactly if it is loaded. -/
theorem evaluatedBefore_iff {bar : BarView} (h : k.entryTimeframe.lastClosed = some bar) :
    (loadedContext symbol timeframe mode rows k).evaluatedBefore = true ↔
      k.barTimestamp ∈ loadAlreadyEvaluatedBars rows symbol timeframe mode .testnetSampling := by
  have hlast : (loadedContext symbol timeframe mode rows k).entryTimeframe.lastClosed = some bar := h
  unfold DecisionContext.evaluatedBefore SymbolCycle.barTimestamp
  rw [hlast, h, Option.any_some, decide_eq_true_eq]
  rfl

variable (symbol timeframe mode) in
/-- The contract lets every sampling candidate pass if the cycle may write. -/
theorem samplingExecutionAllowed_iff (already : List ℕ) {candidate : TradeCandidate} (hk : k.entryAuthority = .testnetCanary)
    (hlane : candidate.lane = .testnetSampling) :
    (k.request symbol timeframe mode already).samplingExecutionAllowed candidate = true ↔
      mode = .binanceTestnet ∧ k.engineActivation = .active ∧ k.samplingFallbackEnabled = true := by
  have hnon : candidate.nonPromotable = true := candidate.sampling_nonPromotable (.inr hlane)
  unfold DecisionRequest.samplingExecutionAllowed SymbolCycle.request
  simp [hk, hlane, hnon, and_assoc]

/-- What a cycle under the sampling authority comes to. -/
structure CycleEnd (symbol timeframe : String) (mode : V2ExecutionMode) (rows : List DecisionRow) (k : SymbolCycle)
    (log : SymbolCycleLog) (rows' : List DecisionRow) : Prop where
  candidate : ∀ bar, log.candidateBar = some bar ↔ k.Carries symbol timeframe mode ∧ k.barTimestamp = bar ∧
    bar ∉ loadAlreadyEvaluatedBars rows symbol timeframe mode .testnetSampling
  persisted : ∀ bar, log.candidateBar = some bar → (log.persisted = true ↔ k.Writes mode)
  loaded : ∀ bar, bar ∈ loadAlreadyEvaluatedBars rows' symbol timeframe mode .testnetSampling ↔
    bar ∈ loadAlreadyEvaluatedBars rows symbol timeframe mode .testnetSampling ∨
      k.Evaluates ∧ k.barTimestamp = bar ∧ k.signal symbol timeframe mode = .ok none ∧ k.finalizes = true

/-- A cycle that does not evaluate, or whose evaluation raises, leaves no candidate and no bar. -/
theorem CycleEnd.of_unseen
    (hraises : k.Evaluates → ∃ e, evaluateSymbol (loadedContext symbol timeframe mode rows k) = .error e)
    {log : SymbolCycleLog} {rows' : List DecisionRow} (hlog : log.outcome = none)
    (hrows : ∀ bar, bar ∈ loadAlreadyEvaluatedBars rows' symbol timeframe mode .testnetSampling ↔
      bar ∈ loadAlreadyEvaluatedBars rows symbol timeframe mode .testnetSampling) :
    CycleEnd symbol timeframe mode rows k log rows' := by
  have hbar : log.candidateBar = none := by
    unfold SymbolCycleLog.candidateBar
    rw [hlog]
    rfl
  have hsignal : k.Evaluates → ∀ candidate, k.signal symbol timeframe mode ≠ .ok candidate := by
    intro heval candidate hok
    obtain ⟨e, he⟩ := hraises heval
    have hmap := evaluate_loaded symbol timeframe mode rows k
    rw [he, hok] at hmap
    split at hmap
    · nomatch hmap
    · nomatch hmap
  refine ⟨fun bar => ?_, fun bar h => ?_, fun bar => ?_⟩
  · rw [hbar]
    refine iff_of_false (Option.some_ne_none bar).symm ?_
    rintro ⟨⟨heval, candidate, hok⟩, -⟩
    exact hsignal heval _ hok
  · rw [hbar] at h
    exact absurd h (Option.some_ne_none bar).symm
  · rw [hrows]
    refine (or_iff_left ?_).symm
    rintro ⟨heval, -, hok, -⟩
    exact hsignal heval _ hok

/-- A cycle whose evaluation returns no candidate. -/
theorem CycleEnd.of_quiet (heval : k.Evaluates) {log : SymbolCycleLog} {rows' : List DecisionRow} {outcome : DecisionOutcome}
    (hlog : log.outcome = some outcome) (hnone : outcome.candidate = none)
    (houtcome : evaluateSymbol (loadedContext symbol timeframe mode rows k) = .ok outcome)
    (hrows : ∀ bar, bar ∈ loadAlreadyEvaluatedBars rows' symbol timeframe mode .testnetSampling ↔
      bar ∈ loadAlreadyEvaluatedBars rows symbol timeframe mode .testnetSampling ∨
        k.barTimestamp = bar ∧ k.finalizes = true) :
    CycleEnd symbol timeframe mode rows k log rows' := by
  have hbar : log.candidateBar = none := by
    unfold SymbolCycleLog.candidateBar
    rw [hlog, Option.bind_some, hnone]
    rfl
  have hmap := evaluate_loaded symbol timeframe mode rows k
  rw [houtcome] at hmap
  -- the bar is loaded, or carries no signal
  have hquiet : k.barTimestamp ∈ loadAlreadyEvaluatedBars rows symbol timeframe mode .testnetSampling ∨
      k.signal symbol timeframe mode = .ok none := by
    by_cases hbefore : (loadedContext symbol timeframe mode rows k).evaluatedBefore = true
    · cases hlast : k.entryTimeframe.lastClosed with
      | none =>
        have hlast' : (loadedContext symbol timeframe mode rows k).entryTimeframe.lastClosed = none := hlast
        unfold DecisionContext.evaluatedBefore at hbefore
        rw [hlast'] at hbefore
        nomatch hbefore
      | some bar => exact .inl ((evaluatedBefore_iff hlast).mp hbefore)
    · rw [if_neg hbefore] at hmap
      refine .inr (hmap.symm.trans ?_)
      exact congrArg Except.ok hnone
  refine ⟨fun bar => ?_, fun bar h => ?_, fun bar => ?_⟩
  · rw [hbar]
    refine iff_of_false (Option.some_ne_none bar).symm ?_
    rintro ⟨⟨-, candidate, hsignal⟩, rfl, hnew⟩
    rcases hquiet with hold | hnosignal
    · exact hnew hold
    · rw [hnosignal] at hsignal
      nomatch Except.ok.inj hsignal
  · rw [hbar] at h
    exact absurd h (Option.some_ne_none bar).symm
  · rw [hrows]
    constructor
    · rintro (hold | ⟨rfl, hfinal⟩)
      · exact .inl hold
      · rcases hquiet with hold | hnosignal
        · exact .inl hold
        · exact .inr ⟨heval, rfl, hnosignal, hfinal⟩
    · rintro (hold | ⟨-, hsame, -, hfinal⟩)
      · exact .inl hold
      · exact .inr ⟨hsame, hfinal⟩

/-- A cycle whose evaluation returns a candidate. -/
theorem CycleEnd.of_candidate (heval : k.Evaluates) {log : SymbolCycleLog} {rows' : List DecisionRow}
    {outcome : DecisionOutcome} {candidate : TradeCandidate} (hlog : log.outcome = some outcome)
    (hsome : outcome.candidate = some candidate)
    (houtcome : evaluateSymbol (loadedContext symbol timeframe mode rows k) = .ok outcome)
    (hpersisted : log.persisted = true ↔ k.Writes mode)
    (hrows : ∀ bar, bar ∈ loadAlreadyEvaluatedBars rows' symbol timeframe mode .testnetSampling ↔
      bar ∈ loadAlreadyEvaluatedBars rows symbol timeframe mode .testnetSampling) :
    CycleEnd symbol timeframe mode rows k log rows' := by
  have hmap := evaluate_loaded symbol timeframe mode rows k
  rw [houtcome] at hmap
  have hcandidate : Except.ok (some candidate) =
      if (loadedContext symbol timeframe mode rows k).evaluatedBefore then .ok none else k.signal symbol timeframe mode := by
    rw [← hmap, ← hsome]
    rfl
  have hbefore : ¬(loadedContext symbol timeframe mode rows k).evaluatedBefore = true := by
    intro hbefore
    rw [if_pos hbefore] at hcandidate
    nomatch Except.ok.inj hcandidate
  rw [if_neg hbefore] at hcandidate
  obtain ⟨htime, -⟩ := signal_bar hcandidate.symm
  obtain ⟨bar, hlast, -⟩ := signal_candidate (c := (k.request symbol timeframe mode []).samplingContext k.candidateId)
    hcandidate.symm
  have hnew := (evaluatedBefore_iff (k := k) hlast).not.mp hbefore
  have hbar : log.candidateBar = some k.barTimestamp := by
    unfold SymbolCycleLog.candidateBar
    rw [hlog, Option.bind_some, hsome, Option.map_some, htime]
  refine ⟨fun bar => ?_, fun _ _ => hpersisted, fun bar => ?_⟩
  · rw [hbar]
    constructor
    · rintro h
      cases h
      exact ⟨⟨heval, candidate, hcandidate.symm⟩, rfl, hnew⟩
    · rintro ⟨-, rfl, -⟩
      rfl
  · rw [hrows]
    refine (or_iff_left ?_).symm
    rintro ⟨-, -, hnosignal, -⟩
    rw [hnosignal] at hcandidate
    nomatch Except.ok.inj hcandidate

/-- A finalized payload of another lane leaves the bars that are loaded. -/
theorem mem_load_finalizeCycle {bar : ℕ} {outcome : Option DecisionOutcome} {payload : FunnelPayload}
    (hlane : payload.lane.getD "" ≠ CandidateLane.testnetSampling.value) :
    bar ∈ loadAlreadyEvaluatedBars (finalizeCycle symbol timeframe mode rows k outcome payload).2 symbol timeframe mode
        .testnetSampling ↔
      bar ∈ loadAlreadyEvaluatedBars rows symbol timeframe mode .testnetSampling := by
  unfold finalizeCycle
  split
  · exact mem_load_other hlane
  · exact Iff.rfl

theorem finalizeCycle_outcome (outcome : Option DecisionOutcome) (payload : FunnelPayload) :
    (finalizeCycle symbol timeframe mode rows k outcome payload).1.outcome = outcome := by
  unfold finalizeCycle
  split <;> rfl

theorem finalizeCycle_persisted (outcome : Option DecisionOutcome) (payload : FunnelPayload) :
    (finalizeCycle symbol timeframe mode rows k outcome payload).1.persisted = k.finalizes := by
  unfold finalizeCycle
  split
  · rename_i hfinal
    exact hfinal.symm
  · rename_i hfinal
    exact (Bool.eq_false_iff.mpr hfinal).symm

variable (symbol timeframe mode rows k) in
/-- The conclusion of a decision with a candidate: the bars that are loaded stay, and it is persisted if nothing raises. -/
theorem concludeCycle_candidate (entryEnabled : Bool) (outcome : DecisionOutcome) (candidate : TradeCandidate) :
    let decision : CycleDecision :=
      { payload := candidatePayloadOf entryEnabled, outcome := some outcome, candidate := some candidate }
    (concludeCycle symbol timeframe mode rows k decision).1.outcome = some outcome ∧
      ((concludeCycle symbol timeframe mode rows k decision).1.persisted = true ↔
        k.later.isOk = true ∧ k.finalizes = true) ∧
      ∀ bar, bar ∈ loadAlreadyEvaluatedBars (concludeCycle symbol timeframe mode rows k decision).2 symbol timeframe mode
          .testnetSampling ↔
        bar ∈ loadAlreadyEvaluatedBars rows symbol timeframe mode .testnetSampling := by
  intro decision
  unfold concludeCycle
  cases hpayload : k.finishPayload decision with
  | error e =>
    refine ⟨rfl, iff_of_false nofun fun h => ?_, fun bar => Iff.rfl⟩
    unfold SymbolCycle.finishPayload at hpayload
    cases hlater : k.later with
    | error e =>
      rw [hlater] at h
      nomatch h.1
    | ok stages =>
      rw [hlater] at hpayload
      nomatch hpayload
  | ok payload =>
    have hlater : k.later.isOk = true := by
      unfold SymbolCycle.finishPayload at hpayload
      cases hlater : k.later with
      | error e =>
        rw [hlater] at hpayload
        nomatch hpayload
      | ok stages => rfl
    refine ⟨finalizeCycle_outcome _ _, ?_, fun bar => mem_load_finalizeCycle ?_⟩
    · rw [finalizeCycle_persisted, and_iff_right hlater]
    · have hlane : decision.payload.lane = some CandidateLane.production.value := by
        change (candidatePayloadOf entryEnabled).lane = _
        unfold candidatePayloadOf FunnelPayload.pause
        split <;> rfl
      rw [finishPayload_lane hpayload, hlane]
      decide

/-- A cycle under the sampling authority. -/
theorem runDecisionCycle_end (hk : k.entryAuthority = .testnetCanary) :
    CycleEnd symbol timeframe mode rows k (runDecisionCycle symbol timeframe mode rows k).1
      (runDecisionCycle symbol timeframe mode rows k).2 := by
  have hlane : k.lane = .testnetSampling := if_pos hk
  unfold runDecisionCycle
  cases hmanagement : k.management with
  | error e =>
    refine .of_unseen (fun heval => ?_) rfl fun bar => Iff.rfl
    rw [heval.1] at hmanagement
    nomatch hmanagement
  | ok goesOn =>
    cases goesOn with
    | false =>
      refine .of_unseen (fun heval => ?_) (finalizeCycle_outcome none {}) fun bar => mem_load_finalizeCycle (by decide)
      rw [heval.1] at hmanagement
      nomatch Except.ok.inj hmanagement
    | true =>
      simp only [hlane]
      unfold DecisionRequest.decide
      by_cases hready : entryDataReadiness k.now k.entryTimeframe k.directionTimeframe k.stateTimeframe = true
      · have heval : k.Evaluates := ⟨hmanagement, hready⟩
        have hdata : (k.request symbol timeframe mode
            (loadAlreadyEvaluatedBars rows symbol timeframe mode .testnetSampling)).entryDataReady = true := hready
        have hauthority : (k.request symbol timeframe mode
            (loadAlreadyEvaluatedBars rows symbol timeframe mode .testnetSampling)).entryAuthority = .testnetCanary := hk
        rw [hdata, hauthority]
        simp only [Bool.true_eq_false, if_false]
        unfold DecisionRequest.decideCanary
        cases houtcome : evaluateSymbol (loadedContext symbol timeframe mode rows k) with
        | error e =>
          unfold loadedContext at houtcome
          rw [houtcome]
          exact .of_unseen (fun _ => ⟨e, houtcome⟩) rfl fun bar => Iff.rfl
        | ok outcome =>
          have hreturned := houtcome
          unfold loadedContext at hreturned
          rw [hreturned]
          cases hcandidate : outcome.candidate with
          | none =>
            simp only [Except.bind, bind, hcandidate]
            refine .of_quiet heval (finalizeCycle_outcome _ _) hcandidate houtcome fun bar => ?_
            change bar ∈ loadAlreadyEvaluatedBars (finalizeCycle symbol timeframe mode rows k (some outcome)
              (quietPayload k.entryEnabled outcome)).2 symbol timeframe mode .testnetSampling ↔ _
            unfold finalizeCycle
            cases k.finalizes with
            | false => simp
            | true => simpa using mem_load_quiet bar k.barTimestamp k.entryEnabled outcome
          | some candidate =>
            simp only [Except.bind, bind, hcandidate]
            have hsampling : candidate.lane = .testnetSampling := by
              have hmap := evaluate_loaded symbol timeframe mode rows k
              rw [houtcome] at hmap
              have hsome : Except.ok (some candidate) = (Except.ok outcome : Except PyError _).map (·.candidate) :=
                congrArg Except.ok hcandidate.symm
              rw [hmap] at hsome
              split at hsome
              · nomatch Except.ok.inj hsome
              · exact (signal_bar hsome.symm).2
            have hallowed := samplingExecutionAllowed_iff symbol timeframe mode
              (loadAlreadyEvaluatedBars rows symbol timeframe mode .testnetSampling) hk hsampling
            by_cases hpermitted : (k.request symbol timeframe mode (loadAlreadyEvaluatedBars rows symbol timeframe mode
                .testnetSampling)).samplingExecutionAllowed candidate = true
            · rw [if_pos hpermitted]
              obtain ⟨hmode, hactive, hfallback⟩ := hallowed.mp hpermitted
              obtain ⟨hlog, hpersisted, hrows⟩ :=
                concludeCycle_candidate symbol timeframe mode rows k k.entryEnabled outcome candidate
              refine .of_candidate heval hlog hcandidate houtcome (hpersisted.trans ?_) hrows
              unfold SymbolCycle.Writes
              simp only [hmode, hactive, hfallback, true_and]
            · rw [if_neg hpermitted]
              refine .of_candidate heval rfl hcandidate houtcome (iff_of_false nofun fun hwrites => ?_) fun bar => Iff.rfl
              exact hpermitted (hallowed.mpr ⟨hwrites.1, hwrites.2.1, hwrites.2.2.1⟩)
      · have hdata : (k.request symbol timeframe mode
            (loadAlreadyEvaluatedBars rows symbol timeframe mode .testnetSampling)).entryDataReady = false :=
          Bool.eq_false_iff.mpr hready
        rw [hdata]
        refine .of_unseen (fun heval => absurd heval.2 hready) (finalizeCycle_outcome none _) fun bar => ?_
        exact mem_load_finalizeCycle (show (some CandidateLane.production.value).getD "" ≠ _ by decide)

/-! ### The run -/

/-- The rows after a run. -/
theorem mem_load_run (ks : List SymbolCycle) (hcanary : ∀ k ∈ ks, k.entryAuthority = .testnetCanary) (rows : List DecisionRow)
    (bar : ℕ) :
    bar ∈ loadAlreadyEvaluatedBars (runDecisionCycles symbol timeframe mode rows ks).2 symbol timeframe mode
        .testnetSampling ↔
      Recorded symbol timeframe mode rows ks bar := by
  induction ks generalizing rows with
  | nil => simp [Recorded, runDecisionCycles]
  | cons k ks ih =>
    have hend : CycleEnd symbol timeframe mode rows k _ _ := runDecisionCycle_end (hcanary k List.mem_cons_self)
    change bar ∈ loadAlreadyEvaluatedBars (runDecisionCycles symbol timeframe mode
      (runDecisionCycle symbol timeframe mode rows k).2 ks).2 symbol timeframe mode .testnetSampling ↔ _
    rw [ih (fun k' hk' => hcanary k' (List.mem_cons_of_mem k hk'))]
    unfold Recorded
    rw [hend.loaded]
    simp only [List.mem_cons, exists_eq_or_imp, or_assoc]

/-- The log of a cycle of a run is that of the cycle after the rows of those before it. -/
theorem runDecisionCycles_getElem? (ks : List SymbolCycle) (rows : List DecisionRow) (i : ℕ) :
    (runDecisionCycles symbol timeframe mode rows ks).1[i]? = ks[i]?.map fun k =>
      (runDecisionCycle symbol timeframe mode (runDecisionCycles symbol timeframe mode rows (ks.take i)).2 k).1 := by
  induction ks generalizing rows i with
  | nil => rfl
  | cons k ks ih =>
    cases i with
    | zero => rfl
    | succ i => exact ih (runDecisionCycle symbol timeframe mode rows k).2 i

end OneDecisionAux

open OneDecisionAux

/-- A bar is decided once exactly if, whenever two cycles find a signal on it and the first writes, the bar has a terminal decision
without a candidate before the second. -/
theorem decidedOnce_iff (symbol timeframe : String) (mode : V2ExecutionMode) (rows : List DecisionRow) (ks : List SymbolCycle)
    (hcanary : ∀ k ∈ ks, k.entryAuthority = .testnetCanary) :
    DecidedOnce (runDecisionCycles symbol timeframe mode rows ks).1 ↔
      ∀ (i j : ℕ) (k k' : SymbolCycle), i < j → ks[i]? = some k → ks[j]? = some k' → k.barTimestamp = k'.barTimestamp →
        k.Carries symbol timeframe mode → k.Writes mode → k'.Carries symbol timeframe mode →
          Recorded symbol timeframe mode rows (ks.take j) k'.barTimestamp := by
  have hends : ∀ i k, ks[i]? = some k → CycleEnd symbol timeframe mode
      (runDecisionCycles symbol timeframe mode rows (ks.take i)).2 k
      (runDecisionCycle symbol timeframe mode (runDecisionCycles symbol timeframe mode rows (ks.take i)).2 k).1
      (runDecisionCycle symbol timeframe mode (runDecisionCycles symbol timeframe mode rows (ks.take i)).2 k).2 := by
    intro i k hk
    exact runDecisionCycle_end (hcanary k (List.mem_of_getElem? hk))
  have hloaded : ∀ i bar, bar ∈ loadAlreadyEvaluatedBars (runDecisionCycles symbol timeframe mode rows (ks.take i)).2 symbol
      timeframe mode .testnetSampling ↔ Recorded symbol timeframe mode rows (ks.take i) bar :=
    fun i bar => mem_load_run _ (fun k hk => hcanary k (List.mem_of_mem_take hk)) rows bar
  constructor
  · intro honce i j k k' hij hi hj hbar hcarries hwrites hcarries'
    by_contra hnot
    -- nothing was recorded for the bar before the first of the two either
    have hnot' : ¬Recorded symbol timeframe mode rows (ks.take i) k.barTimestamp := by
      rintro (hold | ⟨m, hm, hfound⟩)
      · exact hnot (.inl (hbar ▸ hold))
      · refine hnot (.inr ⟨m, ?_, hbar ▸ hfound⟩)
        have htake : ks.take i = (ks.take j).take i := by rw [List.take_take, Nat.min_eq_left hij.le]
        rw [htake] at hm
        exact List.mem_of_mem_take hm
    have hfirst := ((hends i k hi).candidate k.barTimestamp).mpr ⟨hcarries, rfl, (hloaded i _).not.mpr hnot'⟩
    have hsecond := ((hends j k' hj).candidate k'.barTimestamp).mpr ⟨hcarries', rfl, (hloaded j _).not.mpr hnot⟩
    refine honce i j _ _ k.barTimestamp hij ?_ ?_ (((hends i k hi).persisted _ hfirst).mpr hwrites) hfirst (hbar ▸ hsecond)
    · rw [runDecisionCycles_getElem?, hi]
      rfl
    · rw [runDecisionCycles_getElem?, hj]
      rfl
  · intro hrecorded i j earlier later bar hij hi hj hpersisted hcandidate hagain
    rw [runDecisionCycles_getElem?] at hi hj
    obtain ⟨k, hk, rfl⟩ := Option.map_eq_some_iff.mp hi
    obtain ⟨k', hk', rfl⟩ := Option.map_eq_some_iff.mp hj
    obtain ⟨hcarries, hbar, -⟩ := ((hends i k hk).candidate bar).mp hcandidate
    obtain ⟨hcarries', hbar', hnew⟩ := ((hends j k' hk').candidate bar).mp hagain
    have hwrites := ((hends i k hk).persisted bar hcandidate).mp hpersisted
    have hold := hrecorded i j k k' hij hk hk' (hbar.trans hbar'.symm) hcarries hwrites hcarries'
    rw [hbar'] at hold
    exact hnew ((hloaded j bar).mpr hold)

/-! ## Two cycles on one bar -/

namespace OneDecisionAux

/-- A bar around a price. -/
def barAt (timestamp : ℕ) (close : ℚ) : BarView :=
  { timestamp, openPrice := close, high := close + 1, low := close - 1, close, volume := 1 }

/-- A flat market that turns up twelve bars before its end. -/
def turningUp (count step last : ℕ) : List BarView :=
  (List.range count).map fun i =>
    let risen : ℚ := (i + 12 - count : ℕ)
    let close := if i + 12 < count then 100 else 100 + risen / 2 + 2 * ((i + 12 - count) % 2 : ℕ)
    barAt (last - (count - 1 - i) * step) close

/-- A cycle under the sampling authority, some seconds after the bars closed. -/
def canaryCycle (seconds : ℕ) : SymbolCycle where
  cycleId := "cycle"
  now := (1440000 + seconds) * 1000000
  barSlot := 0
  entryTimeframe := { timeframe := "15m", bars := turningUp 53 900000000 1440000000000 }
  directionTimeframe := some { timeframe := "1h", bars := turningUp 50 3600000000 1440000000000 }
  stateTimeframe := some { timeframe := "4h", bars := turningUp 50 14400000000 1440000000000 }
  engineActivation := .active
  samplingFallbackEnabled := true
  entryAuthority := .testnetCanary
  entryAuthorityReason := "TESTNET_CANARY"
  candidateId := "candidate"

/-- Two cycles of the same bar, a minute apart. -/
def canaryCycles : List SymbolCycle := [canaryCycle 30, canaryCycle 90]

/-- The bar of each cycle's candidate, and whether it was persisted. -/
def candidateBars (logs : List SymbolCycleLog) : List (Option ℕ × Bool) :=
  logs.map fun log => (log.candidateBar, log.persisted)

/-- Both cycles get a candidate of the bar and persist it. -/
theorem canaryCycles_decided : candidateBars (runDecisionCycles "BTCUSDT" "15m" .binanceTestnet [] canaryCycles).1 =
    [(some 1440000000000, true), (some 1440000000000, true)] := by
  decide +kernel

/-- Logs with a persisted candidate of a bar and then another of the same bar decide it twice. -/
theorem not_decidedOnce {logs : List SymbolCycleLog} {bar : ℕ} {last : Bool}
    (h : candidateBars logs = [(some bar, true), (some bar, last)]) : ¬DecidedOnce logs := by
  intro honce
  unfold candidateBars at h
  obtain ⟨earlier, rest, rfl, hearlier, hrest⟩ := List.map_eq_cons_iff.mp h
  obtain ⟨later, tail, rfl, hlater, -⟩ := List.map_eq_cons_iff.mp hrest
  obtain ⟨hfirst, hpersisted⟩ := Prod.mk.inj hearlier
  obtain ⟨hsecond, -⟩ := Prod.mk.inj hlater
  exact honce 0 1 earlier later bar Nat.zero_lt_one rfl rfl hpersisted hfirst hsecond

end OneDecisionAux

/-- The candidate of the first cycle is persisted under another lane than the one that is loaded: the second cycle decides again. -/
theorem decidedOnce_false :
    ¬∀ (symbol timeframe : String) (mode : V2ExecutionMode) (rows : List DecisionRow) (ks : List SymbolCycle),
      (∀ k ∈ ks, k.entryAuthority = .testnetCanary) →
        DecidedOnce (runDecisionCycles symbol timeframe mode rows ks).1 := by
  intro h
  refine not_decidedOnce canaryCycles_decided (h "BTCUSDT" "15m" .binanceTestnet [] canaryCycles ?_)
  decide

/-- Of these two cycles the condition fails, as the property does. -/
theorem decidedOnce_iff_canary :
    DecidedOnce (runDecisionCycles "BTCUSDT" "15m" .binanceTestnet [] canaryCycles).1 ↔
      ∀ (i j : ℕ) (k k' : SymbolCycle), i < j → canaryCycles[i]? = some k → canaryCycles[j]? = some k' →
        k.barTimestamp = k'.barTimestamp → k.Carries "BTCUSDT" "15m" .binanceTestnet → k.Writes .binanceTestnet →
          k'.Carries "BTCUSDT" "15m" .binanceTestnet →
            Recorded "BTCUSDT" "15m" .binanceTestnet [] (canaryCycles.take j) k'.barTimestamp :=
  decidedOnce_iff "BTCUSDT" "15m" .binanceTestnet [] canaryCycles (by decide)

end TradingPlatform
