import TradingPlatform.Lemmas.PositionRuns
import TradingPlatform.Theorems.ForcedExit

/-!
# Client ids of the exits of a position

An exit is sent under an attempt number, and its client id tells attempts apart. No site asks which attempts were used: the exit of
the cycle and the emergency close of the recovery are always attempt one, and the emergency of a ladder takes the revision of its
plan, or two after a retry.
-/

namespace TradingPlatform

/-! ## The statement -/

/-- A request to exit: a market order that only reduces. -/
def OrderRequest.isExit (r : OrderRequest) : Bool := decide (r.type = .market) && r.reduceOnly

/-- The exits sent between two states. -/
def Exchange.exitsSince (x x' : Exchange) : List OrderRequest := (x.sentSince x').filter OrderRequest.isExit

/-- The attempts that `_recover_confirmed_v2_exit_gaps` probes. -/
def probedAttempts : List ℕ := [1, 2, 3]

/-- An order row of an exit of a position. -/
def Database.HasExitOrder (db : Database) (positionId clientOrderId : String) : Prop :=
  ∃ o ∈ db.orders, o.clientOrderId = clientOrderId ∧
    ∃ r ∈ db.intents, r.intentId = o.intentId ∧ ("exit:" ++ positionId ++ ":").toList <+: r.candidateKey.toList

/-- Each exit sent since a state can be told from every other one, and be found again: its order is on record, or its id is probed. -/
structure ExitsAttributable (positionId : String) (x : Exchange) (w : World) : Prop where
  distinct : ((x.exitsSince w.exchange).map (·.newClientOrderId)).Nodup
  found : ∀ r ∈ x.exitsSince w.exchange, w.db.HasExitOrder positionId r.newClientOrderId ∨
    ∃ attempt ∈ probedAttempts, exitClientOrderId positionId attempt = .ok r.newClientOrderId

/-- An exit under an attempt, if it reaches the exchange. -/
def exitUnder (positionId : String) (attempt : ℕ) (x : Exchange) : List ℕ :=
  match exitClientOrderId positionId attempt with
  | .ok _ => if x.Reaches then [attempt] else []
  | .error _ => []

/-- The attempts of the exits that the ladder sends: that of a plan it gives up. -/
def ProtectionPlan.exitAttempts (plan : ProtectionPlan) (x : Exchange) : List ℕ :=
  ((plan.givenUpAt false x).toList.flatMap (exitUnder plan.positionId plan.attempt)) ++
    (plan.retriedAt x).toList.flatMap fun (retried, x) =>
      (retried.givenUpAt true x).toList.flatMap (exitUnder retried.positionId retried.attempt)

/-- The attempts of a ladder whose plan may not be made. -/
def planExitAttempts (plan : Except PyError ProtectionPlan) (x : Exchange) : List ℕ :=
  match plan with
  | .ok plan => plan.exitAttempts x
  | .error _ => []

/-- The attempt of an approved exit, if it reaches the exchange: it is always the first. -/
def ExitDecision.exitAttempts (decision : ExitDecision) (x : Exchange) : List ℕ :=
  if decision.verdict = .approved ∧ x.Reaches then [1] else []

/-- The attempt of an exit that may not be decided. -/
def decisionExitAttempts (decision : Except PyError ExitDecision) (x : Exchange) : List ℕ :=
  match decision with
  | .ok decision => decision.exitAttempts x
  | .error _ => []

/-- The exit of the cycle is decided for a local position, and its intent is persisted. -/
def ExitCycle.goesOn (c : ExitCycle) (snapshot : AuthoritativeAccountSnapshot) (p : LocalPositionView) (db : Database) : Bool :=
  let exchangePosition := snapshot.positionOf c.symbol p.direction
  !decide (p.symbol ≠ c.symbol ∨ p.state = .closed ∨ p.state = .quarantined) &&
    !((exchangePosition.any fun e => decide (0 < e.quantity)) && c.forcedExitReason.isNone) &&
    (!c.persistFacts ||
      match evaluateExit (c.request p exchangePosition) with
      | .ok decision => (persistExitIntentBeforeSubmission db (c.identity p decision)).isOk
      | .error _ => false)

/-- The attempts of the exits that a step sends. -/
def PositionStep.exitAttempts (w : World) : PositionStep → List ℕ
  | .protect c attempt => planExitAttempts (c.plan w.db.uuid4.1 attempt) w.exchange
  | .gap r e =>
    match decideGap w r e with
    | .ok (.adopt a) => if a.shouldProject w.db r then planExitAttempts (a.plan w.db r) w.exchange else []
    | _ => []
  | .tighten _ _ _ _ _ => []
  | .resubmit snapshot action =>
    match plannedResubmission w.db snapshot action.targetRef with
    | .ok (some plan) => plan.exitAttempts w.exchange
    | _ => []
  | .emergencyClose c action =>
    match (c.localState.elim [] (·.positions)).find? fun p => decide (p.positionId = action.targetRef) with
    | some p => decisionExitAttempts (evaluateExit (c.emergencyRequest p)) w.exchange
    | none => []
  | .forcedExit c snapshot p =>
    if c.goesOn snapshot p w.db then
      decisionExitAttempts (evaluateExit (c.request p (snapshot.positionOf c.symbol p.direction))) w.exchange
    else []
  | .elsewhere _ => []

/-- The runs of a position in which no two exits are of one attempt, and none is of an attempt that is not probed. -/
inductive ApartRun (positionId : String) (start : World) : World → List ℕ → Prop where
  | start : ApartRun positionId start start []
  | step {w : World} {used : List ℕ} (step : PositionStep) (h : ApartRun positionId start w used) (hof : step.Of positionId w)
      (hfresh : ∀ attempt ∈ step.exitAttempts w, attempt ∉ used ∧ attempt ∈ probedAttempts) :
      ApartRun positionId start (step.apply w) (used ++ step.exitAttempts w)

namespace ExitAttemptsAux

/-! ## Client ids of attempts -/

/-- The number at the end of an exit id is its attempt. -/
theorem exitClientOrderId_inj {positionId c : String} {m n : ℕ} (hm : exitClientOrderId positionId m = .ok c)
    (hn : exitClientOrderId positionId n = .ok c) : m = n := by
  have hform : ∀ {k : ℕ}, exitClientOrderId positionId k = .ok c →
      c = OrderLegKind.exit.opening ++ "-" ++ hashParts [positionId, toString k] 20 ++ "-" ++ toString k := by
    intro k h
    unfold exitClientOrderId at h
    split at h
    · nomatch h
    · split at h
      · nomatch h
      · exact validateClientOrderId_ok h
  -- the numbers are what follows the last hyphen
  have hnumber : ∀ {k : ℕ}, exitClientOrderId positionId k = .ok c →
      (c.toList.reverse.takeWhile fun ch => ch ≠ '-') = (Nat.toDigits 10 k).reverse := by
    intro k h
    have hdigits : ∀ ch ∈ (Nat.toDigits 10 k).reverse, decide (ch ≠ '-') = true := by
      intro ch hch
      have hdigit : ch.isDigit = true := Nat.isDigit_of_mem_toDigits (by decide) (by decide) (List.mem_reverse.mp hch)
      refine decide_eq_true fun hhyphen => ?_
      rw [hhyphen] at hdigit
      nomatch hdigit
    rw [hform h]
    simp only [String.toList_append, Nat.toString_eq_repr, Nat.toList_repr, List.reverse_append]
    rw [List.takeWhile_append_of_pos hdigits]
    simp
  have hsame := (hnumber hm).symm.trans (hnumber hn)
  have hdigits := List.reverse_injective hsame
  have hread := congrArg (fun digits => Nat.ofDigitChars 10 digits 0) hdigits
  simpa only [Nat.ofDigitChars_toDigits (b := 10) (by decide) (by decide)] using hread

/-! ## What is sent -/

/-- The exits sent between two states are of some attempts, one each. -/
abbrev SendsExits (positionId : String) (attempts : List ℕ) (x x' : Exchange) : Prop :=
  SentUnder OrderRequest.isExit (exitClientOrderId positionId ·) attempts x x'

variable {positionId : String}

/-- A reduce-only exit is one of the attempt of its id, if it reaches the exchange. -/
theorem submitReduceOnlyExit_exits {x : Exchange} {command : SubmitReduceOnlyExit} {attempt : ℕ}
    (hid : exitClientOrderId positionId attempt = .ok command.clientOrderId) (symbol side : String) :
    SendsExits positionId (if x.Reaches then [attempt] else []) x
      (submitReduceOnlyExit x command symbol side).2 :=
  submitReduceOnlyExit_sentUnder (fun _ h => if_neg (not_reaches_of_gatewayError h))
    fun hgateway => submitOrder_sentUnder hgateway rfl hid none

/-- A submission of protection is no exit, and the emergency is one under the attempt of its plan. -/
theorem ladder_exits (positionId : String) :
    LadderSends OrderRequest.isExit (exitClientOrderId positionId ·) (fun _ _ => [])
      (fun plan x => exitUnder plan.positionId plan.attempt x) positionId where
  submit _ _ _ _ := submitProtection_sentUnder (fun _ _ => rfl) (fun _ => submitOrder_sentNone rfl _) fun _ => rfl
  giveUp plan x actions tried hposition := by
    subst hposition
    refine escalateEmergency_sentUnder (fun e h => ?_) (fun clientOrderId h => ?_) actions tried
    · unfold exitUnder
      rw [h]
    · unfold exitUnder
      rw [h]
      exact submitReduceOnlyExit_exits h plan.symbol plan.protectionSide

/-- The ladder sends the exits of the plans it gives up. -/
theorem planExchange_exits {plan : Except PyError ProtectionPlan}
    (hplan : ∀ p, plan = .ok p → p.positionId = positionId ∧ p.Minted) (x : Exchange) :
    SendsExits positionId (planExitAttempts plan x) x (planExchange plan x) := by
  cases plan with
  | error e => exact SentUnder.refl _ _ x
  | ok plan =>
    obtain ⟨rfl, hminted⟩ := hplan plan rfl
    exact ensureProtection_sentUnder (ladder_exits plan.positionId) hminted x

/-- A tightening sends no exit. -/
theorem tightenDue_exits (positionId : String) (failure : StoreFailure) (due : List (LocalPositionView × Tightening)) (w : World) :
    SendsExits positionId [] w.exchange (tightenDue failure due w).2.exchange := by
  induction due generalizing w with
  | nil => exact SentUnder.refl _ _ w.exchange
  | cons pt rest ih =>
    have hfirst : SendsExits positionId [] w.exchange
        (tightenStop w pt.1 pt.2 failure).2.exchange := by
      refine tightenStop_sentUnder (fun _ _ => rfl) (fun clientOrderId _ => ?_) failure
      exact submitStopReplacement_sentUnder (fun _ _ => rfl) fun _ => submitOrder_sentNone rfl _
    unfold tightenDue
    rcases hrun : tightenStop w pt.1 pt.2 failure with ⟨_ | _, w'⟩
    · rw [hrun] at hfirst
      exact hfirst
    · rw [hrun] at hfirst
      exact hfirst.trans (ih w')

/-- A decided exit is one of its attempt. -/
theorem executeReduceOnlyExit_exits (x : Exchange) (decision : ExitDecision)
    (hid : decision.verdict = .approved → exitClientOrderId positionId 1 = .ok decision.clientOrderId) (quantity stepSize : ℚ) :
    SendsExits positionId (decision.exitAttempts x) x
      (executeReduceOnlyExit x decision quantity stepSize []).2 := by
  have hnone : decision.verdict ≠ .approved → decision.exitAttempts x = [] := fun hverdict => if_neg fun h => hverdict h.1
  refine executeReduceOnlyExit_sentUnder hnone (fun hverdict => ?_) quantity stepSize []
  have hnumbers : decision.exitAttempts x = if x.Reaches then [1] else [] := by
    unfold ExitDecision.exitAttempts
    simp only [hverdict, true_and]
  rw [hnumbers]
  exact submitReduceOnlyExit_exits (hid hverdict) decision.symbol decision.exchangeSide

/-! ## One step -/

/-- A decision is under the first attempt. -/
theorem evaluateExit_first {r : ExitRequest} {decision : ExitDecision} (h : evaluateExit r = .ok decision) (hfirst : r.attempt = 1)
    (happroved : decision.verdict = .approved) : exitClientOrderId r.positionId 1 = .ok decision.clientOrderId := by
  obtain ⟨-, -, -, -, -, -, -, hid⟩ := evaluateExit_approved h happroved
  rwa [hfirst] at hid

theorem executeEmergencyClose_exits (w : World) (c : RecoveryContext) (action : RecoveryAction) :
    SendsExits action.targetRef (PositionStep.exitAttempts w (.emergencyClose c action)) w.exchange
      (executeEmergencyClose w c action).2.exchange := by
  unfold executeEmergencyClose PositionStep.exitAttempts decisionExitAttempts
  dsimp only
  cases hfind : (c.localState.elim [] (·.positions)).find? fun p => decide (p.positionId = action.targetRef) with
  | none => exact SentUnder.refl _ _ w.exchange
  | some p =>
    have hp : p.positionId = action.targetRef := by simpa using List.find?_some hfind
    dsimp only
    cases hdecided : evaluateExit (c.emergencyRequest p) with
    | error e => exact SentUnder.refl _ _ w.exchange
    | ok decision =>
      have hexit := executeReduceOnlyExit_exits w.exchange decision
        (fun happroved => hp ▸ evaluateExit_first hdecided rfl happroved : _ → exitClientOrderId action.targetRef 1 = _)
        ((c.snapshot.positionOf p.symbol p.direction).elim p.quantity (·.quantity)) c.stepSize
      dsimp only
      split
      · rename_i hverdict
        unfold ExitDecision.exitAttempts
        rw [if_neg fun h => hverdict h.1]
        exact SentUnder.refl _ _ w.exchange
      · split
        · rename_i e x heq
          rw [heq] at hexit
          exact hexit
        · rename_i result x heq
          rw [heq] at hexit
          exact hexit

/-- The submission of the cycle is one exit, unless its intent cannot be persisted. -/
theorem ExitCycle.submit_exits (c : ExitCycle) (p : LocalPositionView) (decision : ExitDecision)
    (hid : decision.verdict = .approved → exitClientOrderId p.positionId 1 = .ok decision.clientOrderId)
    (exchangePosition : Option ExchangePositionSnapshot) (s : ExitRun) :
    SendsExits p.positionId
      (if !c.persistFacts || (persistExitIntentBeforeSubmission s.db (c.identity p decision)).isOk then
        decision.exitAttempts s.exchange else []) s.exchange (c.submit p decision exchangePosition s).2.exchange := by
  have hexit := executeReduceOnlyExit_exits s.exchange decision hid (exchangePosition.elim p.quantity (·.quantity)) c.stepSize
  unfold ExitCycle.submit transaction
  cases hpersists : c.persistFacts with
  | false =>
    rcases hrun : executeReduceOnlyExit s.exchange decision (exchangePosition.elim p.quantity (·.quantity)) c.stepSize with
      ⟨_ | result, x⟩
    · rw [hrun] at hexit
      exact hexit
    · rw [hrun] at hexit
      simpa only [Bool.not_false, Bool.true_or, Bool.false_eq_true, if_true, if_false, c.persist_exchange] using hexit
  | true =>
    cases hintent : persistExitIntentBeforeSubmission s.db (c.identity p decision) with
    | error e => exact SentUnder.refl _ _ s.exchange
    | ok db =>
      rcases hrun : executeReduceOnlyExit s.exchange decision (exchangePosition.elim p.quantity (·.quantity)) c.stepSize with
        ⟨_ | result, x⟩
      · rw [hrun] at hexit
        exact hexit
      · rw [hrun] at hexit
        simpa only [Bool.not_true, Bool.false_or, Except.isOk, Except.toBool, if_true, c.persist_exchange] using hexit

theorem ExitCycle.exitPosition_exits (c : ExitCycle) (snapshot : AuthoritativeAccountSnapshot) (p : LocalPositionView)
    (w : World) :
    SendsExits p.positionId (PositionStep.exitAttempts w (.forcedExit c snapshot p)) w.exchange
      (PositionStep.apply w (.forcedExit c snapshot p)).exchange := by
  unfold PositionStep.exitAttempts PositionStep.apply ExitCycle.exitPosition decisionExitAttempts
  dsimp only
  by_cases hclosed : p.symbol ≠ c.symbol ∨ p.state = .closed ∨ p.state = .quarantined
  · have hgoes : c.goesOn snapshot p w.db = false := by simp [ExitCycle.goesOn, hclosed]
    rw [if_pos hclosed, hgoes]
    exact SentUnder.refl _ _ w.exchange
  · rw [if_neg hclosed]
    by_cases hunforced : (((snapshot.positionOf c.symbol p.direction).any fun e => decide (0 < e.quantity)) &&
        c.forcedExitReason.isNone) = true
    · have hgoes : c.goesOn snapshot p w.db = false := by simp [ExitCycle.goesOn, hunforced]
      rw [if_pos hunforced, hgoes]
      exact SentUnder.refl _ _ w.exchange
    · rw [if_neg hunforced]
      cases hdecided : evaluateExit (c.request p (snapshot.positionOf c.symbol p.direction)) with
      | error e =>
        dsimp only
        rw [ite_self]
        exact SentUnder.refl _ _ w.exchange
      | ok decision =>
        have hsubmit := ExitCycle.submit_exits c p decision (evaluateExit_first hdecided rfl)
          (snapshot.positionOf c.symbol p.direction) { w with }
        have hgoes : c.goesOn snapshot p w.db =
            (!c.persistFacts || (persistExitIntentBeforeSubmission w.db (c.identity p decision)).isOk) := by
          unfold ExitCycle.goesOn
          dsimp only
          rw [hdecided, Bool.eq_false_iff.mpr hunforced, decide_eq_false hclosed, Bool.not_false, Bool.true_and, Bool.true_and]
        rw [hgoes]
        dsimp only
        cases hverdict : decision.verdict with
        | approved => exact hsubmit
        | _ =>
          have hnone : decision.exitAttempts w.exchange = [] := by
            unfold ExitDecision.exitAttempts
            rw [if_neg fun h => by rw [hverdict] at h; nomatch h.1]
          rw [hnone, ite_self]
          exact SentUnder.refl _ _ w.exchange

/-- What a step sends: the exits of its attempts. -/
theorem step_exits {w : World} {step : PositionStep} (hof : step.Of positionId w) :
    SendsExits positionId (step.exitAttempts w) w.exchange (step.apply w).exchange := by
  cases step with
  | protect c attempt =>
    obtain rfl : w.db.uuid4.1 = positionId := hof
    unfold PositionStep.exitAttempts PositionStep.apply
    dsimp only
    rw [protectEntry_exchange]
    exact planExchange_exits (fun p hp => ⟨(buildProtectionPlan_ok hp).1, (buildProtectionPlan_ok hp).2.2⟩) w.exchange
  | gap r e =>
    unfold PositionStep.exitAttempts PositionStep.apply recoverEntryGap
    dsimp only
    cases hdecide : decideGap w r e with
    | error err => exact SentUnder.refl _ _ w.exchange
    | ok decision =>
      cases decision with
      | skip => exact SentUnder.refl _ _ w.exchange
      | flat => exact .of_sent (congrArg Exchange.sent (settleFlatGap_exchange w r e))
      | blocked => exact SentUnder.refl _ _ w.exchange
      | adopt a =>
        obtain rfl := hof a hdecide
        dsimp only
        rw [adoptGap_exchange]
        split
        · exact planExchange_exits (fun p hp => ⟨(buildProtectionPlan_ok hp).1, (buildProtectionPlan_ok hp).2.2⟩) w.exchange
        · exact SentUnder.refl _ _ w.exchange
  | tighten symbol snapshot localState tickSize failure =>
    unfold PositionStep.exitAttempts PositionStep.apply
    dsimp only
    rw [applyProfitProtection_exchange]
    exact tightenDue_exits positionId failure _ w
  | resubmit snapshot action =>
    unfold PositionStep.exitAttempts PositionStep.apply resubmitProtection
    dsimp only
    rcases hplan : plannedResubmission w.db snapshot action.targetRef with e | _ | plan
    · exact SentUnder.refl _ _ w.exchange
    · exact SentUnder.refl _ _ w.exchange
    · dsimp only
      rw [submitResubmission_exchange]
      obtain ⟨htarget, hminted⟩ := plannedResubmission_ok hplan
      obtain rfl : plan.positionId = positionId := htarget.trans hof
      exact ensureProtection_sentUnder (ladder_exits plan.positionId) hminted w.exchange
  | emergencyClose c action =>
    obtain rfl : action.targetRef = positionId := hof
    exact executeEmergencyClose_exits w c action
  | forcedExit c snapshot p =>
    obtain rfl : p.positionId = positionId := hof
    exact ExitCycle.exitPosition_exits c snapshot p w
  | elsewhere db => exact SentUnder.refl _ _ w.exchange

/-! ## At most one exit a step -/

/-- A plan that is given up at once is not retried. -/
theorem retriedAt_of_givenUpAt {plan : ProtectionPlan} {x x' : Exchange} (h : plan.givenUpAt false x = some x') :
    plan.retriedAt x = none := by
  unfold ProtectionPlan.givenUpAt at h
  unfold ProtectionPlan.retriedAt
  rcases hcall : submitProtection x plan.command plan.symbol plan.protectionSide plan.quantity with ⟨e | receipts, x₁⟩
  · rw [hcall] at h
    dsimp only at h ⊢
    split at h
    · rename_i hfailed
      rw [if_pos hfailed]
      split at h
      · rename_i e' x₂ hread
        rfl
      · rw [Bool.false_and] at h
        nomatch h
    · nomatch h
  · rfl

theorem exitUnder_length (positionId : String) (attempt : ℕ) (x : Exchange) : (exitUnder positionId attempt x).length ≤ 1 := by
  unfold exitUnder
  split
  · split <;> simp
  · simp

theorem exitAttempts_length (plan : ProtectionPlan) (x : Exchange) : (plan.exitAttempts x).length ≤ 1 := by
  have hone : ∀ {α : Type} (o : Option α) (f : α → List ℕ), (∀ a, (f a).length ≤ 1) → (o.toList.flatMap f).length ≤ 1 := by
    intro α o f hf
    cases o with
    | none => exact Nat.zero_le 1
    | some a => simpa using hf a
  unfold ProtectionPlan.exitAttempts
  cases hgiven : plan.givenUpAt false x with
  | none => exact hone _ _ fun r => hone _ _ fun x => exitUnder_length _ _ x
  | some x' =>
    rw [retriedAt_of_givenUpAt hgiven]
    simpa using exitUnder_length plan.positionId plan.attempt x'

/-- A step sends at most one exit. -/
theorem step_exitAttempts_length (step : PositionStep) (w : World) : (step.exitAttempts w).length ≤ 1 := by
  have hplan : ∀ plan, (planExitAttempts plan w.exchange).length ≤ 1 := by
    rintro (e | plan)
    · exact Nat.zero_le 1
    · exact exitAttempts_length plan w.exchange
  have hdecision : ∀ decision, (decisionExitAttempts decision w.exchange).length ≤ 1 := by
    rintro (e | decision)
    · exact Nat.zero_le 1
    · unfold decisionExitAttempts ExitDecision.exitAttempts
      dsimp only
      split <;> simp
  cases step with
  | protect c attempt => exact hplan _
  | gap r e =>
    unfold PositionStep.exitAttempts
    dsimp only
    split
    · split
      · exact hplan _
      · exact Nat.zero_le 1
    · exact Nat.zero_le 1
  | tighten symbol snapshot localState tickSize failure => exact Nat.zero_le 1
  | resubmit snapshot action =>
    unfold PositionStep.exitAttempts
    dsimp only
    split
    · exact exitAttempts_length _ w.exchange
    · exact Nat.zero_le 1
  | emergencyClose c action =>
    unfold PositionStep.exitAttempts
    dsimp only
    split
    · exact hdecision _
    · exact Nat.zero_le 1
  | forcedExit c snapshot p =>
    unfold PositionStep.exitAttempts
    dsimp only
    split
    · exact hdecision _
    · exact Nat.zero_le 1
  | elsewhere db => exact Nat.zero_le 1

/-! ## The run -/

/-- The exits of a run are those of its attempts, which are apart. -/
theorem apartRun_exits {start w : World} {used : List ℕ} (h : ApartRun positionId start w used) :
    SendsExits positionId used start.exchange w.exchange ∧ used.Nodup ∧ ∀ attempt ∈ used, attempt ∈ probedAttempts := by
  induction h with
  | start => exact ⟨SentUnder.refl _ _ start.exchange, List.nodup_nil, fun _ h => absurd h List.not_mem_nil⟩
  | @step w used step h hof hfresh ih =>
    obtain ⟨hexits, hnodup, hprobed⟩ := ih
    refine ⟨hexits.trans (step_exits hof), List.nodup_append.mpr ⟨hnodup, ?_, ?_⟩, ?_⟩
    · match hattempts : step.exitAttempts w, step_exitAttempts_length step w with
      | [], _ => exact List.nodup_nil
      | [attempt], _ => exact List.nodup_singleton attempt
      | _ :: _ :: _, hlength => exact absurd hlength (by simp)
    · rintro attempt hused _ hnew rfl
      exact (hfresh attempt hnew).1 hused
    · intro attempt hattempt
      rcases List.mem_append.mp hattempt with hused | hnew
      · exact hprobed attempt hused
      · exact (hfresh attempt hnew).2

/-- Ids of distinct attempts are distinct. -/
theorem forall₂_ids_nodup {exits : List OrderRequest} {attempts : List ℕ}
    (h : List.Forall₂ (fun r k => exitClientOrderId positionId k = .ok r.newClientOrderId) exits attempts)
    (hnodup : attempts.Nodup) : (exits.map (·.newClientOrderId)).Nodup := by
  induction h with
  | nil => exact List.nodup_nil
  | @cons r k exits attempts hid hrest ih =>
    obtain ⟨hnot, hnodup⟩ := List.nodup_cons.mp hnodup
    refine List.nodup_cons.mpr ⟨fun hmem => ?_, ih hnodup⟩
    obtain ⟨r', hr', hsame⟩ := List.mem_map.mp hmem
    obtain ⟨k', hk', hid'⟩ := forall₂_number hrest hr'
    exact hnot (exitClientOrderId_inj (hsame ▸ hid') hid ▸ hk')

end ExitAttemptsAux

open ExitAttemptsAux in
/-- In a run whose steps exit under attempts that are probed and that no exit before them took, every exit can be told apart and
found. -/
theorem apartRun_exitsAttributable {positionId : String} {start w : World} {used : List ℕ}
    (h : ApartRun positionId start w used) : ExitsAttributable positionId start.exchange w := by
  obtain ⟨hexits, hnodup, hprobed⟩ := apartRun_exits h
  have hall := hexits.sentSince
  constructor
  · exact forall₂_ids_nodup hall hnodup
  · intro r hr
    obtain ⟨k, hk, hid⟩ := forall₂_number hall hr
    exact .inr ⟨k, hprobed k hk, hid⟩

/-! ### One exit and another -/

/-- A position of 1 at an exchange that fills 3/5 of every exit. -/
def partlyFilledWorld : World := (sampleExitRun (3 / 5)).toWorld

/-- The exit of a cycle. -/
def firstExit : PositionStep := .forcedExit sampleExitCycle (sampleSnapshot 1) sampleView

/-- The exit of the next cycle, for the 2/5 that the first left. -/
def secondExit : PositionStep :=
  .forcedExit { sampleExitCycle with cycleId := "cycle-2", fencingToken := "token-2" } (sampleSnapshot (2 / 5))
    { sampleView with quantity := 2 / 5, state := .reducing }

/-- The same position, where the exchange refuses the first two stops. -/
def refusingWorld : World :=
  { partlyFilledWorld with
    exchange :=
      { partlyFilledWorld.exchange with
        behaviour := fun n => if n < 2 then .refused "stop refused" else .answered "200" true (some "FILLED")
        accountReads := fun _ => .ok (1000, (sampleSnapshot 1).positions) } }

/-- A resubmission whose ladder ends in an exit. -/
def givenUp : PositionStep :=
  .resubmit (sampleSnapshot 1)
    { actionType := .resubmitProtection, targetRef := "position", symbol := some "BTC/USDT", reason := "protection missing" }

/-- The exit of the ladder is the second attempt, and that of the cycle after it the first. -/
theorem apartRun_exitsAttributable_givenUp :
    ExitsAttributable "position" refusingWorld.exchange (firstExit.apply (givenUp.apply refusingWorld)) :=
  apartRun_exitsAttributable (.step firstExit (.step givenUp .start rfl (by decide +kernel))
    (rfl : sampleView.positionId = "position") (by decide +kernel))

/-- The exit of the next cycle is sent under the id of the first. -/
theorem exitsAttributable_false :
    (firstExit.Of "position" partlyFilledWorld ∧ secondExit.Of "position" (firstExit.apply partlyFilledWorld)) ∧
      ¬ExitsAttributable "position" partlyFilledWorld.exchange (secondExit.apply (firstExit.apply partlyFilledWorld)) := by
  refine ⟨⟨(rfl : sampleView.positionId = "position"), (rfl : sampleView.positionId = "position")⟩, fun h => ?_⟩
  have hids : (partlyFilledWorld.exchange.exitsSince (secondExit.apply (firstExit.apply partlyFilledWorld)).exchange).map
      (·.newClientOrderId) = ["A2X-0929ca935b4e870c17a2-1", "A2X-0929ca935b4e870c17a2-1"] := by decide +kernel
  have hdistinct := h.distinct
  rw [hids] at hdistinct
  exact absurd hdistinct (by decide)

end TradingPlatform
