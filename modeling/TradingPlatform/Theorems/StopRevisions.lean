import TradingPlatform.Lemmas.PositionRuns
import TradingPlatform.Theorems.OwnProtection

/-!
# Revisions of the stops of a position

The client id of a stop is that of a revision, and four sites count the next one: from one, from the records of the position, from
the version of the last record, or up to two in a retry. None reads the ids that were used, and every new record counts from zero.
-/

namespace TradingPlatform

/-! ## The statement -/

/-- A stop order. -/
def OrderRequest.isStop (r : OrderRequest) : Bool := decide (r.type = .stopMarket)

/-- A number, if the next order reaches the exchange. -/
def ifReached (number : ℕ) (x : Exchange) : List ℕ := if x.Reaches then [number] else []

/-- The revisions of the stops that the ladder sends: that of its plan, and that of its retry. -/
def ProtectionPlan.stopRevisions (plan : ProtectionPlan) (x : Exchange) : List ℕ :=
  ifReached plan.attempt x ++ (plan.retriedAt x).toList.flatMap fun (retried, x) => ifReached retried.attempt x

/-- The revisions of a ladder whose plan may not be made. -/
def planStopRevisions (plan : Except PyError ProtectionPlan) (x : Exchange) : List ℕ :=
  match plan with
  | .ok plan => plan.stopRevisions x
  | .error _ => []

/-- The revisions of a loop of tightenings. -/
def tighteningRevisions (failure : StoreFailure) : List (LocalPositionView × Tightening) → World → List ℕ
  | [], _ => []
  | (p, t) :: rest, w =>
    match stopClientOrderId p.positionId t.revision with
    | .error _ => []
    | .ok _ =>
      ifReached t.revision w.exchange ++
        match tightenStop w p t failure with
        | (.error _, _) => []
        | (.ok _, w) => tighteningRevisions failure rest w

/-- The revisions of the stops that a step sends. -/
def PositionStep.stopRevisions (w : World) : PositionStep → List ℕ
  | .protect c attempt => planStopRevisions (c.plan w.db.uuid4.1 attempt) w.exchange
  | .gap r e =>
    match decideGap w r e with
    | .ok (.adopt a) => if a.shouldProject w.db r then planStopRevisions (a.plan w.db r) w.exchange else []
    | _ => []
  | .tighten symbol snapshot localState tickSize failure =>
    tighteningRevisions failure (dueTightenings symbol snapshot tickSize localState.positions) w
  | .resubmit snapshot action =>
    match plannedResubmission w.db snapshot action.targetRef with
    | .ok (some plan) => plan.stopRevisions w.exchange
    | _ => []
  | _ => []

/-- The runs of a position whose steps meet a condition on the state before them and the revisions used so far, with the revisions
of their stops. -/
inductive StopRun (condition : World → List ℕ → PositionStep → Prop) (positionId : String) (start : World) :
    World → List ℕ → Prop where
  | start : StopRun condition positionId start start []
  | step {w : World} {used : List ℕ} (step : PositionStep) (h : StopRun condition positionId start w used)
      (hof : step.Of positionId w) (hcondition : condition w used step) :
      StopRun condition positionId start (step.apply w) (used ++ step.stopRevisions w)

/-- The stops that were sent since a state are of some revisions, one each, and no revision is used twice. -/
structure StopsApart (positionId : String) (x x' : Exchange) (used : List ℕ) : Prop where
  sent : List.Forall₂ (fun r revision => stopClientOrderId positionId revision = .ok r.newClientOrderId)
    ((x.sentSince x').filter OrderRequest.isStop) used
  apart : used.Nodup

/-- A plan is retried only if two is a new revision. -/
def RetryCovered (used : List ℕ) (plan : Except PyError ProtectionPlan) (x : Exchange) : Prop :=
  match plan with
  | .ok plan => (plan.retriedAt x).isSome → 2 ∉ used ∧ plan.attempt ≠ 2
  | .error _ => True

/-- The version that a step counts from covers the revisions that were used. -/
def VersionCovers (w : World) (used : List ℕ) : PositionStep → Prop
  | .protect c attempt => used = [] ∧ RetryCovered used (c.plan w.db.uuid4.1 attempt) w.exchange
  | .gap r e => ∀ a, decideGap w r e = .ok (.adopt a) → a.shouldProject w.db r = true →
      (∀ k ∈ used, k ≤ (a.existing w.db r).elim 0 fun p => w.db.previousProtectionVersion p.positionId) ∧
        RetryCovered used (a.plan w.db r) w.exchange
  | .tighten symbol snapshot localState tickSize _ =>
      (∀ due ∈ dueTightenings symbol snapshot tickSize localState.positions, ∀ k ∈ used, k ≤ due.1.protectionVersion) ∧
        (dueTightenings symbol snapshot tickSize localState.positions).Pairwise fun due later =>
          due.1.protectionVersion < later.1.protectionVersion
  | .resubmit snapshot action => ∀ plan, plannedResubmission w.db snapshot action.targetRef = .ok (some plan) →
      (∀ r, w.db.latestProtection action.targetRef = some r → ∀ k ∈ used, k ≤ r.version + 1) ∧
        RetryCovered used (.ok plan) w.exchange
  | _ => True

namespace StopRevisionsAux

/-! ## Revisions -/

theorem nodup_append_ifReached {used : List ℕ} {number : ℕ} (hused : used.Nodup) (hnew : number ∉ used) (x : Exchange) :
    (used ++ ifReached number x).Nodup := by
  unfold ifReached
  split
  · refine List.nodup_append.mpr ⟨hused, List.nodup_singleton number, ?_⟩
    rintro k hk _ hnumber rfl
    exact hnew (List.mem_singleton.mp hnumber ▸ hk)
  · rwa [List.append_nil]

theorem mem_ifReached {number k : ℕ} {x : Exchange} (h : k ∈ ifReached number x) : k = number := by
  unfold ifReached at h
  split at h
  · exact List.mem_singleton.mp h
  · exact absurd h List.not_mem_nil

/-- A retry is of the second revision. -/
theorem retriedAt_attempt {plan retried : ProtectionPlan} {x x' : Exchange} (h : plan.retriedAt x = some (retried, x')) :
    retried.attempt = 2 := by
  unfold ProtectionPlan.retriedAt at h
  split at h
  · nomatch h
  · split at h
    · split at h
      · nomatch h
      · split at h
        · rename_i hq
          split at h
          · rename_i plan' hretry
            obtain ⟨rfl, -⟩ := Prod.mk.inj (Option.some.inj h)
            exact (retry_ok hretry).2.2.1
          · nomatch h
        · nomatch h
    · nomatch h

/-- A ladder of a new revision, whose retry is covered, keeps the revisions apart. -/
theorem stopRevisions_apart {plan : ProtectionPlan} {used : List ℕ} {x : Exchange} (hused : used.Nodup)
    (hnew : plan.attempt ∉ used) (hretry : RetryCovered used (.ok plan) x) : (used ++ plan.stopRevisions x).Nodup := by
  have hfirst := nodup_append_ifReached hused hnew x
  unfold ProtectionPlan.stopRevisions
  rw [← List.append_assoc]
  cases hretried : plan.retriedAt x with
  | none => simpa using hfirst
  | some retried =>
    obtain ⟨htwo, hattempt⟩ := hretry (by rw [hretried]; rfl)
    have hnumber := retriedAt_attempt hretried
    have hnot : retried.1.attempt ∉ used ++ ifReached plan.attempt x := by
      rw [hnumber]
      intro hmem
      rcases List.mem_append.mp hmem with hmem | hmem
      · exact htwo hmem
      · exact hattempt (mem_ifReached hmem).symm
    simpa using nodup_append_ifReached hfirst hnot retried.2

/-- A tightening that is due is of a local view, under its next version. -/
theorem due_revision {symbol : String} {snapshot : AuthoritativeAccountSnapshot} {tickSize : ℚ} {views : List LocalPositionView}
    {due : LocalPositionView × Tightening} (h : due ∈ dueTightenings symbol snapshot tickSize views) :
    due.1 ∈ views ∧ due.2.revision = due.1.protectionVersion + 1 := by
  obtain ⟨p, hp, hmap⟩ := List.mem_filterMap.mp h
  obtain ⟨t, ht, rfl⟩ := Option.map_eq_some_iff.mp hmap
  exact ⟨hp, (due_of_tightening ht).revision_eq.trans (max_eq_left (Nat.le_add_left 1 _))⟩

/-- A loop over rising versions that cover what was used keeps the revisions apart. -/
theorem tighteningRevisions_apart {failure : StoreFailure} {due : List (LocalPositionView × Tightening)} {used : List ℕ}
    (w : World) (hused : used.Nodup) (hrevision : ∀ d ∈ due, d.2.revision = d.1.protectionVersion + 1)
    (hcovers : ∀ d ∈ due, ∀ k ∈ used, k ≤ d.1.protectionVersion)
    (hrising : due.Pairwise fun d later => d.1.protectionVersion < later.1.protectionVersion) :
    (used ++ tighteningRevisions failure due w).Nodup := by
  induction due generalizing used w with
  | nil => simpa [tighteningRevisions] using hused
  | cons d rest ih =>
    obtain ⟨p, t⟩ := d
    obtain ⟨hlater, hrising⟩ := List.pairwise_cons.mp hrising
    have hnumber : t.revision = p.protectionVersion + 1 := hrevision _ List.mem_cons_self
    have hnot : t.revision ∉ used := by
      intro hmem
      have hle := hcovers _ List.mem_cons_self _ hmem
      dsimp only at hle
      omega
    have hfirst := nodup_append_ifReached hused hnot w.exchange
    unfold tighteningRevisions
    split
    · simpa using hused
    · rw [← List.append_assoc]
      split
      · simpa using hfirst
      · rename_i w' _
        refine ih w' hfirst (fun d hd => hrevision d (List.mem_cons_of_mem _ hd)) (fun d hd k hk => ?_) hrising
        rcases List.mem_append.mp hk with hk | hk
        · exact hcovers d (List.mem_cons_of_mem _ hd) k hk
        · have hgreater := hlater d hd
          rw [mem_ifReached hk, hnumber]
          exact hgreater

/-! ## What is sent -/

/-- The stops sent between two states are of some revisions, one each. -/
abbrev SendsStops (positionId : String) (revisions : List ℕ) (x x' : Exchange) : Prop :=
  SentUnder OrderRequest.isStop (stopClientOrderId positionId ·) revisions x x'

variable {positionId : String}

theorem ifReached_of_gatewayError {x : Exchange} {message : String} (h : x.gatewayError = some message) (number : ℕ) :
    ifReached number x = [] := if_neg (not_reaches_of_gatewayError h)

/-- The submission of a plan is the stop of its revision, and the emergency is no stop. -/
theorem ladder_stops (positionId : String) :
    LadderSends OrderRequest.isStop (stopClientOrderId positionId ·) (fun plan x => ifReached plan.attempt x) (fun _ _ => [])
      positionId where
  submit plan x hposition hminted := by
    subst hposition
    exact submitProtection_sentUnder (fun _ h => ifReached_of_gatewayError h plan.attempt)
      (fun hgateway => submitOrder_sentUnder hgateway rfl hminted.stop _) fun _ => rfl
  giveUp _ _ actions tried _ := escalateEmergency_sentUnder (fun _ _ => rfl)
    (fun _ _ => submitReduceOnlyExit_sentUnder (fun _ _ => rfl) fun _ => submitOrder_sentNone rfl none) actions tried

/-- The ladder sends the stops of its revisions. -/
theorem ensureProtection_stops {plan : ProtectionPlan} (hminted : plan.Minted) (x : Exchange) :
    SendsStops plan.positionId (plan.stopRevisions x) x (ensureProtection x plan).2 := by
  have hladder := ensureProtection_sentUnder (ladder_stops plan.positionId) hminted x
  have hnone : ∀ o : Option Exchange, o.toList.flatMap (fun _ : Exchange => ([] : List ℕ)) = [] := by
    intro o
    cases o <;> rfl
  unfold ProtectionPlan.numbers at hladder
  simp only [hnone, List.append_nil] at hladder
  exact hladder

theorem planExchange_stops {plan : Except PyError ProtectionPlan}
    (hplan : ∀ p, plan = .ok p → p.positionId = positionId ∧ p.Minted) (x : Exchange) :
    SendsStops positionId (planStopRevisions plan x) x (planExchange plan x) := by
  cases plan with
  | error e => exact SentUnder.refl _ _ x
  | ok plan =>
    obtain ⟨rfl, hminted⟩ := hplan plan rfl
    exact ensureProtection_stops hminted x

/-- A loop of tightenings of one position sends the stops of its revisions. -/
theorem tightenDue_stops {failure : StoreFailure} {due : List (LocalPositionView × Tightening)}
    (hposition : ∀ d ∈ due, d.1.positionId = positionId) (w : World) :
    SendsStops positionId (tighteningRevisions failure due w) w.exchange (tightenDue failure due w).2.exchange := by
  induction due generalizing w with
  | nil => exact SentUnder.refl _ _ w.exchange
  | cons d rest ih =>
    obtain ⟨p, t⟩ := d
    obtain rfl : p.positionId = positionId := hposition _ List.mem_cons_self
    unfold tightenDue tighteningRevisions
    cases hid : stopClientOrderId p.positionId t.revision with
    | error e =>
      have hrun : tightenStop w p t failure = (.error e, w) := by
        unfold tightenStop
        rw [hid]
      rw [hrun]
      exact SentUnder.refl _ _ w.exchange
    | ok clientOrderId =>
      have hfirst : SendsStops p.positionId (ifReached t.revision w.exchange) w.exchange (tightenStop w p t failure).2.exchange := by
        refine tightenStop_sentUnder (fun e he => by cases hid.symm.trans he) (fun c hc => ?_) failure
        exact submitStopReplacement_sentUnder (fun _ h => ifReached_of_gatewayError h t.revision)
          fun hgateway => submitOrder_sentUnder hgateway rfl hc _
      dsimp only
      rcases hrun : tightenStop w p t failure with ⟨_ | _, w'⟩
      · rw [hrun] at hfirst
        simpa using hfirst
      · rw [hrun] at hfirst
        exact hfirst.trans (ih (fun d hd => hposition d (List.mem_cons_of_mem _ hd)) w')

/-- A decided exit sends no stop. -/
theorem executeReduceOnlyExit_stops (positionId : String) (x : Exchange) (decision : ExitDecision) (quantity stepSize : ℚ) :
    SendsStops positionId [] x (executeReduceOnlyExit x decision quantity stepSize []).2 :=
  executeReduceOnlyExit_sentUnder (fun _ => rfl)
    (fun _ => submitReduceOnlyExit_sentUnder (fun _ _ => rfl) fun _ => submitOrder_sentNone rfl none) quantity stepSize []

/-! ## One step -/

/-- What a step sends: the stops of its revisions. -/
theorem step_stops {w : World} {step : PositionStep} (hof : step.Of positionId w) :
    SendsStops positionId (step.stopRevisions w) w.exchange (step.apply w).exchange := by
  cases step with
  | protect c attempt =>
    obtain rfl : w.db.uuid4.1 = positionId := hof
    unfold PositionStep.stopRevisions PositionStep.apply
    dsimp only
    rw [protectEntry_exchange]
    exact planExchange_stops (fun p hp => ⟨(buildProtectionPlan_ok hp).1, (buildProtectionPlan_ok hp).2.2⟩) w.exchange
  | gap r e =>
    unfold PositionStep.stopRevisions PositionStep.apply recoverEntryGap
    dsimp only
    cases hdecide : decideGap w r e with
    | error err => exact SentUnder.refl _ _ w.exchange
    | ok decision =>
      cases decision with
      | skip => exact SentUnder.refl _ _ w.exchange
      | flat => exact .of_sent (congrArg Exchange.sent (settleFlatGap_exchange w r e))
      | blocked => exact SentUnder.refl _ _ w.exchange
      | adopt a =>
        obtain rfl := hof a hdecide
        dsimp only
        rw [adoptGap_exchange]
        split
        · exact planExchange_stops (fun p hp => ⟨(buildProtectionPlan_ok hp).1, (buildProtectionPlan_ok hp).2.2⟩) w.exchange
        · exact SentUnder.refl _ _ w.exchange
  | tighten symbol snapshot localState tickSize failure =>
    unfold PositionStep.stopRevisions PositionStep.apply
    dsimp only
    rw [applyProfitProtection_exchange]
    exact tightenDue_stops (fun d hd => hof _ (due_revision hd).1) w
  | resubmit snapshot action =>
    unfold PositionStep.stopRevisions PositionStep.apply resubmitProtection
    dsimp only
    rcases hplan : plannedResubmission w.db snapshot action.targetRef with e | _ | plan
    · exact SentUnder.refl _ _ w.exchange
    · exact SentUnder.refl _ _ w.exchange
    · dsimp only
      rw [submitResubmission_exchange]
      obtain ⟨htarget, hminted⟩ := plannedResubmission_ok hplan
      obtain rfl : plan.positionId = positionId := htarget.trans hof
      exact ensureProtection_stops hminted w.exchange
  | emergencyClose c action =>
    rcases executeEmergencyClose_exchange w c action with h | ⟨decision, quantity, h⟩
    · exact .of_sent (congrArg Exchange.sent h)
    · unfold PositionStep.apply
      dsimp only
      rw [h]
      exact executeReduceOnlyExit_stops positionId w.exchange decision quantity c.stepSize
  | forcedExit c snapshot p =>
    rcases exitPosition_exchange c snapshot p { w with } with h | ⟨decision, quantity, h⟩
    · exact .of_sent (congrArg Exchange.sent h)
    · unfold PositionStep.apply
      dsimp only
      rw [h]
      exact executeReduceOnlyExit_stops positionId w.exchange decision quantity c.stepSize
  | elsewhere db => exact SentUnder.refl _ _ w.exchange

/-- A revision above what a version covers is new. -/
theorem not_mem_of_covered {used : List ℕ} {version revision : ℕ} (h : ∀ k ∈ used, k ≤ version) (hlt : version < revision) :
    revision ∉ used := by
  intro hmem
  have hle := h revision hmem
  omega

theorem planStopRevisions_apart {plan : Except PyError ProtectionPlan} {used : List ℕ} {x : Exchange} (hused : used.Nodup)
    (hnew : ∀ p, plan = .ok p → p.attempt ∉ used) (hretry : RetryCovered used plan x) :
    (used ++ planStopRevisions plan x).Nodup := by
  cases plan with
  | error e => simpa [planStopRevisions] using hused
  | ok plan => exact stopRevisions_apart hused (hnew plan rfl) hretry

/-- The revision of a resubmission is two above the version of the last record. -/
theorem plannedResubmission_attempt {db : Database} {snapshot : AuthoritativeAccountSnapshot} {positionId : String}
    {plan : ProtectionPlan} (h : plannedResubmission db snapshot positionId = .ok (some plan)) :
    ∃ r, db.latestProtection positionId = some r ∧ plan.attempt = r.version + 2 := by
  unfold plannedResubmission at h
  split at h
  · nomatch h
  · split at h
    · nomatch h
    · rename_i previous hprevious
      split at h
      · nomatch h
      · split at h
        · nomatch h
        · rename_i position _ _ exchangePosition _ _
          obtain ⟨p, hplan, hp⟩ := Loops.map_eq_ok.mp h
          cases hp
          unfold resubmissionPlan at hplan
          simp only at hplan
          obtain ⟨stopId, -, hplan⟩ := Loops.bind_eq_ok.mp hplan
          obtain ⟨tpId, -, hplan⟩ := Loops.bind_eq_ok.mp hplan
          exact ⟨previous, hprevious, (check_ok hplan).2.1⟩

/-- A step that counts from a version that covers what was used keeps the revisions apart. -/
theorem step_apart {w : World} {used : List ℕ} {step : PositionStep} (hused : used.Nodup) (h : VersionCovers w used step) :
    (used ++ step.stopRevisions w).Nodup := by
  have hnil : (used ++ []).Nodup := by rwa [List.append_nil]
  cases step with
  | protect c attempt =>
    obtain ⟨rfl, hretry⟩ := h
    exact planStopRevisions_apart List.nodup_nil (fun _ _ => List.not_mem_nil) hretry
  | gap r e =>
    unfold PositionStep.stopRevisions
    dsimp only
    split
    · rename_i a hdecide
      split
      · rename_i hproject
        obtain ⟨hcovers, hretry⟩ := h a hdecide hproject
        refine planStopRevisions_apart hused (fun p hp => not_mem_of_covered hcovers ?_) hretry
        rw [(buildProtectionPlan_ok hp).2.1]
        exact Nat.lt_succ_self _
      · exact hnil
    · exact hnil
  | tighten symbol snapshot localState tickSize failure =>
    exact tighteningRevisions_apart w hused (fun d hd => (due_revision hd).2) h.1 h.2
  | resubmit snapshot action =>
    unfold PositionStep.stopRevisions
    dsimp only
    split
    · rename_i plan hplan
      obtain ⟨hcovers, hretry⟩ := h plan hplan
      obtain ⟨r, hr, hattempt⟩ := plannedResubmission_attempt hplan
      refine stopRevisions_apart hused (not_mem_of_covered (hcovers r hr) ?_) hretry
      omega
    · exact hnil
  | _ => exact hnil

end StopRevisionsAux

open StopRevisionsAux in
/-- In a run whose stops are counted from versions that cover the revisions used before, no revision is used twice. -/
theorem stopRun_apart {positionId : String} {start w : World} {used : List ℕ}
    (h : StopRun VersionCovers positionId start w used) : StopsApart positionId start.exchange w.exchange used := by
  have hrun : SendsStops positionId used start.exchange w.exchange ∧ used.Nodup := by
    induction h with
    | start => exact ⟨SentUnder.refl _ _ start.exchange, List.nodup_nil⟩
    | step step h hof hcovers ih => exact ⟨ih.1.trans (step_stops hof), step_apart ih.2 hcovers⟩
  exact ⟨hrun.1.sentSince, hrun.2⟩

/-! ### Two retries -/

/-- An exchange that refuses the first stop of each ladder and answers the retry. -/
def lossyWorld : World :=
  sampleWorld [.refused "stop refused", .answered "2" true (some "new"), .answered "3" true (some "new"),
    .refused "stop refused", .answered "4" true (some "new"), .answered "5" true (some "new")]

/-- The protection of the sample entry. -/
def firstProtection : PositionStep := .protect sampleEntry 1

/-- The resubmission of a protection that is gone from the exchange. -/
def laterProtection : PositionStep :=
  .resubmit { positions := [{ symbol := "BTC/USDT", direction := .long, quantity := 1, markPrice := 100 }] }
    { actionType := .resubmitProtection, targetRef := "uuid-0", symbol := some "BTC/USDT", reason := "protection missing" }

/-- A first protection that is retried uses the revisions one and two. -/
theorem stopRun_apart_firstProtection :
    StopsApart "uuid-0" lossyWorld.exchange (firstProtection.apply lossyWorld).exchange
      ([] ++ firstProtection.stopRevisions lossyWorld) := by
  have hplan : sampleEntry.plan lossyWorld.db.uuid4.1 1 = .ok sampleEntryPlan := by decide +kernel
  refine stopRun_apart (.step firstProtection .start rfl ⟨rfl, ?_⟩)
  rw [hplan]
  exact fun _ => ⟨by decide, by decide⟩

/-- The resubmission is retried too, again under the second revision. -/
theorem stopsApart_false :
    ∃ w used, StopRun (fun _ _ _ => True) "uuid-0" lossyWorld w used ∧ used = [1, 2, 4, 2] ∧
      ¬StopsApart "uuid-0" lossyWorld.exchange w.exchange used := by
  have hrevisions : [] ++ firstProtection.stopRevisions lossyWorld ++
      laterProtection.stopRevisions (firstProtection.apply lossyWorld) = [1, 2, 4, 2] := by decide +kernel
  refine ⟨_, _, .step laterProtection (.step firstProtection .start rfl trivial) rfl trivial, hrevisions, fun h => ?_⟩
  have hapart := h.apart
  rw [hrevisions] at hapart
  exact absurd hapart (by decide)

end TradingPlatform
