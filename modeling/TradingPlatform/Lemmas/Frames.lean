import TradingPlatform.Lemmas.Repository

/-!
# Which tables an operation touches

One statement for every stage of the persistence: the tables it names may have changed, every other one is as it was. What a
composition touches is read off its stages.
-/

namespace TradingPlatform

variable {p : PositionRow} {orderRecordId : String}

/-- The tables the stages write to. -/
inductive TableName where
  | cycles | decisions | intents | orders | fills | positions | protections
  deriving DecidableEq, Repr

/-- A table is the same in both databases. -/
def Database.Agree (db db' : Database) : TableName → Prop
  | .cycles => db'.cycles = db.cycles
  | .decisions => db'.decisions = db.decisions
  | .intents => db'.intents = db.intents
  | .orders => db'.orders = db.orders
  | .fills => db'.fills = db.fills
  | .positions => db'.positions = db.positions
  | .protections => db'.protections = db.protections

/-- Only the named tables differ; the source of ids is the same and goes on. -/
structure Touches (tables : List TableName) (db db' : Database) : Prop where
  agree : ∀ t, t ∉ tables → db.Agree db' t
  uuids : db'.uuids = db.uuids
  drawn : db.drawn ≤ db'.drawn

section

variable {tables tables' : List TableName} {db db' db'' : Database}

theorem Touches.refl (tables : List TableName) (db : Database) : Touches tables db db :=
  ⟨fun t _ => by cases t <;> rfl, rfl, le_refl _⟩

theorem Touches.trans (h : Touches tables db db') (h' : Touches tables db' db'') : Touches tables db db'' where
  agree := fun t ht => by
    have h₁ := h.agree t ht
    have h₂ := h'.agree t ht
    cases t <;> exact h₂.trans h₁
  uuids := h'.uuids.trans h.uuids
  drawn := h.drawn.trans h'.drawn

theorem Touches.mono (h : Touches tables db db') (hsub : ∀ t ∈ tables, t ∈ tables') : Touches tables' db db' :=
  ⟨fun t ht => h.agree t fun hmem => ht (hsub t hmem), h.uuids, h.drawn⟩

theorem Touches.cycles (h : Touches tables db db') (hn : TableName.cycles ∉ tables) : db'.cycles = db.cycles :=
  h.agree .cycles hn

theorem Touches.intents (h : Touches tables db db') (hn : TableName.intents ∉ tables) :
    db'.intents = db.intents := h.agree .intents hn

theorem Touches.orders (h : Touches tables db db') (hn : TableName.orders ∉ tables) : db'.orders = db.orders :=
  h.agree .orders hn

theorem Touches.fills (h : Touches tables db db') (hn : TableName.fills ∉ tables) : db'.fills = db.fills :=
  h.agree .fills hn

theorem Touches.positions (h : Touches tables db db') (hn : TableName.positions ∉ tables) :
    db'.positions = db.positions := h.agree .positions hn

theorem Touches.protections (h : Touches tables db db') (hn : TableName.protections ∉ tables) :
    db'.protections = db.protections := h.agree .protections hn

/-- A loop touches what its body does. -/
theorem Touches.foldlM {α : Type} {f : Database → α → Except PyError Database}
    (hf : ∀ {b x b'}, f b x = .ok b' → Touches tables b b') {l : List α} (h : l.foldlM f db = .ok db') :
    Touches tables db db' :=
  Loops.foldlM_keeps (P := Touches tables db) (fun _ _ _ hb hstep => hb.trans (hf hstep)) l (Touches.refl tables db) h

/-- A transaction touches what it commits. -/
theorem Touches.transaction {result : Except PyError Database} (h : ∀ db', result = .ok db' → Touches tables db db') :
    Touches tables db (TradingPlatform.transaction db result).2 := by
  cases result with
  | error e => exact Touches.refl tables db
  | ok db' => exact h db' rfl

end

/-! ## The repository -/

section

variable {db db' : Database} {id eventType : String} {payload : List (String × PayloadValue)}

theorem transitionIntent_touches {current next : V2IntentState}
    (h : transitionIntent db id current next eventType payload = .ok db') : Touches [.intents] db db' := by
  obtain ⟨r, -, -, -, rfl⟩ := transitionIntent_eq_ok.mp h
  refine ⟨fun t ht => ?_, rfl, le_refl _⟩
  cases t <;> first | rfl | simp at ht

theorem transitionPosition_touches {current next : V2PositionState}
    (h : transitionPosition db id current next eventType payload = .ok db') : Touches [.positions] db db' := by
  obtain ⟨p, -, -, -, rfl⟩ := transitionPosition_eq_ok.mp h
  refine ⟨fun t ht => ?_, rfl, le_refl _⟩
  cases t <;> first | rfl | simp at ht

theorem transitionProtection_touches {current next : V2ProtectionState}
    (h : transitionProtection db id current next eventType payload = .ok db') : Touches [.protections] db db' := by
  obtain ⟨p, -, -, -, -, rfl⟩ := transitionProtection_eq_ok.mp h
  refine ⟨fun t ht => ?_, rfl, le_refl _⟩
  cases t <;> first | rfl | simp at ht

theorem createSubmittingIntent_touches {row : IntentRow} (h : createSubmittingIntent db row eventType = .ok db') :
    Touches [.intents] db db' := by
  unfold createSubmittingIntent at h
  obtain ⟨db₁, hcreate, h⟩ := Loops.bind_eq_ok.mp h
  refine Touches.trans ?_ (transitionIntent_touches h)
  obtain ⟨-, -, rfl⟩ := createIntent_eq_ok.mp hcreate
  refine ⟨fun t ht => ?_, rfl, le_refl _⟩
  cases t <;> first | rfl | simp at ht

theorem reconcileIntentFromConfirmedFill_touches (h : reconcileIntentFromConfirmedFill db id = .ok db') :
    Touches [.intents] db db' := by
  unfold reconcileIntentFromConfirmedFill at h
  repeat' split at h
  all_goals first
    | contradiction
    | cases h
  · exact Touches.refl _ _
  · refine ⟨fun t ht => ?_, rfl, le_refl _⟩
    cases t <;> first | rfl | simp at ht

theorem saveOrderSubmission_touches {intentId clientOrderId orderRecordId : String} {quantity : ℚ} {leverage : ℤ}
    (h : saveOrderSubmission db intentId clientOrderId quantity leverage = .ok (orderRecordId, db')) :
    Touches [.orders] db db' := by
  obtain ⟨-, -, -, -, -, rfl⟩ := saveOrderSubmission_eq_ok.mp h
  refine ⟨fun t ht => ?_, rfl, Nat.le_succ _⟩
  cases t <;> first | rfl | simp at ht

theorem receipted_touches (db : Database) (orderRecordId exchangeOrderId : String) :
    Touches [.orders] db (db.receipted orderRecordId exchangeOrderId) := by
  refine ⟨fun t ht => ?_, rfl, le_refl _⟩
  cases t <;> first | rfl | simp at ht

theorem saveExchangeOrderReceipt_touches {orderRecordId exchangeOrderId : String}
    (h : saveExchangeOrderReceipt db orderRecordId exchangeOrderId = .ok db') : Touches [.orders] db db' := by
  obtain ⟨-, -, -, rfl⟩ := saveExchangeOrderReceipt_eq_ok.mp h
  exact receipted_touches db orderRecordId exchangeOrderId

theorem saveExchangeFillReceipt_touches {r : FillReceipt} (h : saveExchangeFillReceipt db r = .ok db') :
    Touches [.orders, .fills] db db' := by
  obtain ⟨o, db₁, -, -, -, hcomplete, -, rfl⟩ := saveExchangeFillReceipt_eq_ok.mp h
  have hfirst : Touches [.orders, .fills] db db₁ := by
    unfold Database.completeOrder at hcomplete
    split at hcomplete
    · obtain ⟨-, rfl⟩ := setExchangeOrderId_eq_ok.mp hcomplete
      exact (receipted_touches db o.orderRecordId r.exchangeOrderId).mono (by decide)
    · cases hcomplete
      exact Touches.refl _ _
  refine hfirst.trans ⟨fun t ht => ?_, rfl, Nat.le_succ _⟩
  cases t <;> first | rfl | simp at ht

theorem saveOrderLevelFillRecovery_touches {r : FillReceipt} (h : saveOrderLevelFillRecovery db r = .ok db') :
    Touches [.orders, .fills] db db' := by
  unfold saveOrderLevelFillRecovery at h
  split at h
  · cases h
    exact Touches.refl _ _
  · exact saveExchangeFillReceipt_touches h

theorem projectPositionFromConfirmedFills_touches {a : Projection} (h : projectPositionFromConfirmedFills db a = .ok db') :
    Touches [.positions] db db' := by
  rcases projectPositionFromConfirmedFills_ok h with ⟨existing, totals, -, -, rfl⟩ | ⟨row, hinsert, -⟩
  · refine ⟨fun t ht => ?_, rfl, le_refl _⟩
    cases t <;> first | rfl | simp at ht
  · obtain ⟨-, -, -, -, -, rfl⟩ := insertPosition_eq_ok.mp hinsert
    refine ⟨fun t ht => ?_, rfl, le_refl _⟩
    cases t <;> first | rfl | simp at ht

theorem repairQuarantinedPositionFromConfirmedExit_touches {exitOrderRecordId : String}
    (h : repairQuarantinedPositionFromConfirmedExit db id exitOrderRecordId payload = .ok db') :
    Touches [.positions] db db' := by
  unfold repairQuarantinedPositionFromConfirmedExit at h
  dsimp only at h
  repeat' split at h
  all_goals first
    | contradiction
    | cases h
  refine ⟨fun t ht => ?_, rfl, le_refl _⟩
  cases t <;> first | rfl | simp at ht

theorem saveProtection_touches {d : ProtectionDraft} (h : saveProtection db d = .ok db') : Touches [.protections] db db' := by
  unfold saveProtection at h
  split at h
  · nomatch h
  · split at h
    · nomatch h
    · obtain ⟨-, -, -, -, -, rfl⟩ := insertProtection_eq_ok.mp h
      refine ⟨fun t ht => ?_, rfl, le_refl _⟩
      cases t <;> first | rfl | simp at ht

theorem updateProtectionActive_touches {stopId : String} {tpId : Option String} {newState : V2ProtectionState}
    (h : updateProtectionActive db id stopId tpId newState = .ok db') : Touches [.protections] db db' := by
  unfold updateProtectionActive at h
  split at h
  · nomatch h
  · split at h
    · nomatch h
    · obtain ⟨⟨current, db₁⟩, hstart, h⟩ := Loops.bind_eq_ok.mp h
      refine Touches.trans ?_ (transitionProtection_touches h)
      unfold startProtection at hstart
      have hattached : Touches [.protections] db (db.modifyProtection id fun p =>
          { p with stopExchangeOrderId := some stopId, tpExchangeOrderId := tpId }) := by
        refine ⟨fun t ht => ?_, rfl, le_refl _⟩
        cases t <;> first | rfl | simp at ht
      split at hstart
      · obtain ⟨db₂, hmove, hstart⟩ := Loops.bind_eq_ok.mp hstart
        cases hstart
        exact hattached.trans (transitionProtection_touches hmove)
      · cases hstart
        exact hattached

end

/-! ## The stages of an entry -/

section

variable {db db' : Database}

theorem ensureCycle_touches {cycleId fencingToken : String} (h : ensureCycle db cycleId fencingToken = .ok db') :
    Touches [.cycles] db db' := by
  unfold ensureCycle at h
  split at h
  · cases h
    exact Touches.refl _ _
  · obtain ⟨-, -, rfl⟩ := insertCycle_eq_ok.mp h
    refine ⟨fun t ht => ?_, rfl, le_refl _⟩
    cases t <;> first | rfl | simp at ht

theorem ensureDecision_touches (db : Database) (decisionId : Option String) :
    Touches [.decisions] db (ensureDecision db decisionId) := by
  unfold ensureDecision
  split
  · exact Touches.refl _ _
  · split
    · exact Touches.refl _ _
    · refine ⟨fun t ht => ?_, rfl, le_refl _⟩
      cases t <;> first | rfl | simp at ht

theorem ensureEntryIntent_touches {a : EntryFacts} (h : ensureEntryIntent db a = .ok db') : Touches [.intents] db db' := by
  unfold ensureEntryIntent at h
  split at h
  · exact createSubmittingIntent_touches h
  · split at h
    · cases h
      refine ⟨fun t ht => ?_, rfl, le_refl _⟩
      cases t <;> first | rfl | simp at ht
    · cases h
      exact Touches.refl _ _

theorem acknowledgeIntent_touches {intentId eventType : String} {current : V2IntentState}
    (h : acknowledgeIntent db intentId current eventType = .ok db') : Touches [.intents] db db' := by
  unfold acknowledgeIntent at h
  split at h
  · exact transitionIntent_touches h
  · cases h
    exact Touches.refl _ _

theorem ensureOrder_touches {intentId clientOrderId orderRecordId : String} {quantity : ℚ} {leverage : ℤ}
    (h : ensureOrder db intentId clientOrderId quantity leverage = .ok (orderRecordId, db')) : Touches [.orders] db db' := by
  unfold ensureOrder at h
  split at h
  · cases h
    exact Touches.refl _ _
  · exact saveOrderSubmission_touches h

theorem saveFillOnce_touches {r : FillReceipt} {tradeId : String} (h : saveFillOnce db r tradeId = .ok db') :
    Touches [.orders, .fills] db db' := by
  unfold saveFillOnce at h
  split at h
  · split at h
    · nomatch h
    · cases h
      exact Touches.refl _ _
  · exact saveExchangeFillReceipt_touches h

theorem saveGuardedFills_touches {intent : IntentRow} {result : EntryExecutionResult}
    (h : saveGuardedFills db intent orderRecordId result = .ok db') : Touches [.orders, .fills] db db' := by
  unfold saveGuardedFills at h
  split at h
  · cases h
    exact Touches.refl _ _
  · exact Touches.foldlM saveExchangeFillReceipt_touches h

theorem persistEntrySubmissionResult_touches {intentId : String} {leverage : ℤ} {result : EntryExecutionResult}
    (h : persistEntrySubmissionResult db intentId leverage result = .ok db') : Touches [.intents, .orders, .fills] db db' := by
  unfold persistEntrySubmissionResult at h
  split at h
  · nomatch h
  · split at h
    · exact (transitionIntent_touches h).mono (by decide)
    · split at h
      · obtain ⟨⟨orderRecordId, db₁⟩, horder, h⟩ := Loops.bind_eq_ok.mp h
        obtain ⟨db₂, hreceipt, h⟩ := Loops.bind_eq_ok.mp h
        obtain ⟨db₃, hfills, h⟩ := Loops.bind_eq_ok.mp h
        exact ((((ensureOrder_touches horder).mono (by decide)).trans
            ((saveExchangeOrderReceipt_touches hreceipt).mono (by decide))).trans
          ((saveGuardedFills_touches hfills).mono (by decide))).trans ((acknowledgeIntent_touches h).mono (by decide))
      · exact (transitionIntent_touches h).mono (by decide)
    · exact (transitionIntent_touches h).mono (by decide)
    · split at h
      · obtain ⟨⟨orderRecordId, db₁⟩, horder, h⟩ := Loops.bind_eq_ok.mp h
        obtain ⟨db₂, hreceipt, h⟩ := Loops.bind_eq_ok.mp h
        exact (((ensureOrder_touches horder).mono (by decide)).trans
            ((saveExchangeOrderReceipt_touches hreceipt).mono (by decide))).trans
          ((acknowledgeIntent_touches h).mono (by decide))
      · cases h
        exact Touches.refl _ _

theorem persistEntryIntentBeforeSubmission_touches {a : EntryReservation} {reason : Option String}
    (h : persistEntryIntentBeforeSubmission db a = .ok (reason, db')) : Touches [.cycles, .decisions, .intents] db db' := by
  unfold persistEntryIntentBeforeSubmission at h
  split at h
  · nomatch h
  · split at h
    · cases h
      exact Touches.refl _ _
    · obtain ⟨db₁, hcycle, h⟩ := Loops.bind_eq_ok.mp h
      have hbefore : Touches [.cycles, .decisions, .intents] db (ensureDecision db₁ a.decisionId) :=
        ((ensureCycle_touches hcycle).mono (by decide)).trans ((ensureDecision_touches db₁ a.decisionId).mono (by decide))
      dsimp only at h
      split at h
      · cases h
        exact hbefore
      · obtain ⟨db₂, hintent, h⟩ := Loops.bind_eq_ok.mp h
        cases h
        exact hbefore.trans ((createSubmittingIntent_touches hintent).mono (by decide))

theorem saveEntryFills_touches {a : EntryFacts} {orderRecordId : String} (h : saveEntryFills db a orderRecordId = .ok db') :
    Touches [.orders, .fills] db db' := by
  unfold saveEntryFills at h
  dsimp only at h
  split at h
  · exact saveOrderLevelFillRecovery_touches h
  · exact Touches.foldlM saveFillOnce_touches h

theorem projectEntry_touches {a : EntryFacts} {orderRecordId : String} (h : projectEntry db a orderRecordId = .ok db') :
    Touches [.positions] db db' := by
  unfold projectEntry at h
  split at h
  · exact projectPositionFromConfirmedFills_touches h
  · cases h
    exact Touches.refl _ _

theorem markProtected_touches {positionId : String} (h : markProtected db positionId = .ok db') :
    Touches [.positions] db db' := by
  unfold markProtected at h
  split at h
  · cases h
    exact Touches.refl _ _
  · split at h
    · exact transitionPosition_touches h
    · cases h
      exact Touches.refl _ _

theorem uuid4_touches (db : Database) : Touches [] db db.uuid4.2 := by
  refine ⟨fun t _ => ?_, rfl, Nat.le_succ _⟩
  cases t <;> rfl

theorem saveEntryProtection_touches {a : EntryFacts} (h : saveEntryProtection db a = .ok db') :
    Touches [.positions, .protections] db db' := by
  unfold saveEntryProtection at h
  split at h
  · split at h
    · cases h
      exact Touches.refl _ _
    · dsimp only at h
      obtain ⟨db₁, hsave, h⟩ := Loops.bind_eq_ok.mp h
      have hsaved : Touches [.positions, .protections] db db₁ := ((uuid4_touches db).mono (by decide)).trans
          ((saveProtection_touches hsave).mono (by decide))
      split at h
      · split at h
        · obtain ⟨db₂, hsubmit, h⟩ := Loops.bind_eq_ok.mp h
          obtain ⟨db₃, hactive, h⟩ := Loops.bind_eq_ok.mp h
          exact ((hsaved.trans ((transitionProtection_touches hsubmit).mono (by decide))).trans
              ((updateProtectionActive_touches hactive).mono (by decide))).trans
            ((markProtected_touches h).mono (by decide))
        · cases h
          exact hsaved
      · cases h
        exact hsaved
  · cases h
    exact Touches.refl _ _

end

/-! ## The stages of an exit -/

section

variable {db db' : Database}

theorem ensureExitIntent_touches {a : ExitIdentity} {t : V2CandidateType}
    (h : ensureExitIntent db a p t = .ok db') : Touches [.intents] db db' := by
  unfold ensureExitIntent at h
  split at h
  · exact createSubmittingIntent_touches h
  · cases h
    exact Touches.refl _ _

theorem ensureExitOrder_touches {a : ExitIdentity} {leverage : ℤ} (h : ensureExitOrder db a leverage = .ok db') :
    Touches [.orders] db db' := by
  unfold ensureExitOrder at h
  split at h
  · obtain ⟨⟨orderRecordId, db₁⟩, hsave, h⟩ := Loops.bind_eq_ok.mp h
    cases h
    exact saveOrderSubmission_touches hsave
  · split at h
    · nomatch h
    · cases h
      exact Touches.refl _ _

theorem persistExitIntentBeforeSubmission_touches {a : ExitIdentity} (h : persistExitIntentBeforeSubmission db a = .ok db') :
    Touches [.cycles, .intents, .orders] db db' := by
  unfold persistExitIntentBeforeSubmission at h
  split at h
  · nomatch h
  · obtain ⟨⟨p, e, eo⟩, -, h⟩ := Loops.bind_eq_ok.mp h
    obtain ⟨db₁, hcycle, h⟩ := Loops.bind_eq_ok.mp h
    obtain ⟨db₂, hintent, h⟩ := Loops.bind_eq_ok.mp h
    exact (((ensureCycle_touches hcycle).mono (by decide))).trans
      ((((ensureExitIntent_touches hintent).mono (by decide))).trans (((ensureExitOrder_touches h).mono (by decide))))

theorem saveExitFills_touches {result : ExitExecutionResult}
    (h : saveExitFills db p orderRecordId result = .ok db') : Touches [.orders, .fills] db db' := by
  unfold saveExitFills at h
  exact Touches.foldlM saveFillOnce_touches h

theorem startReducing_touches (h : startReducing db p = .ok db') : Touches [.positions] db db' := by
  unfold startReducing at h
  split at h
  · exact transitionPosition_touches h
  · cases h
    exact Touches.refl _ _

theorem persistExitSubmissionResult_touches {positionId : String} {result : ExitExecutionResult}
    (h : persistExitSubmissionResult db positionId result = .ok db') : Touches [.intents, .orders, .positions] db db' := by
  have hsame : ∀ {db' : Database}, (.ok db : Except PyError Database) = .ok db' → Touches [.intents, .orders, .positions] db db' := by
    intro db' heq
    cases heq
    exact Touches.refl _ _
  unfold persistExitSubmissionResult at h
  dsimp only at h
  split at h
  · nomatch h
  · split at h
    · nomatch h
    · split at h
      · nomatch h
      · split at h
        · split at h
          · exact (transitionIntent_touches h).mono (by decide)
          · exact hsame h
        · split at h
          · exact (transitionIntent_touches h).mono (by decide)
          · exact hsame h
        · split at h
          · exact (transitionIntent_touches h).mono (by decide)
          · exact hsame h
        · split at h
          · obtain ⟨db₁, hreceipt, h⟩ := Loops.bind_eq_ok.mp h
            obtain ⟨db₂, hack, h⟩ := Loops.bind_eq_ok.mp h
            exact ((saveExchangeOrderReceipt_touches hreceipt).mono (by decide)).trans
              (((acknowledgeIntent_touches hack).mono (by decide)).trans ((startReducing_touches h).mono (by decide)))
          · exact hsame h

theorem moveExitedPosition_touches {status : ExitExecutionStatus}
    (h : moveExitedPosition db p orderRecordId status = .ok db') : Touches [.positions] db db' := by
  unfold moveExitedPosition at h
  split at h
  · exact repairQuarantinedPositionFromConfirmedExit_touches h
  · obtain ⟨db₁, hreduce, h⟩ := Loops.bind_eq_ok.mp h
    have hfirst : Touches [.positions] db db₁ := by
      unfold reducePosition at hreduce
      split at hreduce
      · exact transitionPosition_touches hreduce
      · cases hreduce
        exact Touches.refl _ _
    split at h
    · exact hfirst.trans (transitionPosition_touches h)
    · cases h
      exact hfirst

theorem settleExitedPosition_touches (db : Database) (p : PositionRow) (result : ExitExecutionResult) :
    Touches [.positions] db (settleExitedPosition db p result) := by
  unfold settleExitedPosition
  split
  · refine ⟨fun t ht => ?_, rfl, le_refl _⟩
    cases t <;> first | rfl | simp at ht
  · split
    · refine ⟨fun t ht => ?_, rfl, le_refl _⟩
      cases t <;> first | rfl | simp at ht
    · exact Touches.refl _ _

theorem settleExitedProtection_touches {a : ExitFacts} {r : ProtectionRow} (h : settleExitedProtection a db r = .ok db') :
    Touches [.protections] db db' := by
  unfold settleExitedProtection at h
  obtain ⟨⟨current, db₁⟩, htrigger, h⟩ := Loops.bind_eq_ok.mp h
  have hfirst : Touches [.protections] db db₁ := by
    unfold triggerProtection at htrigger
    split at htrigger
    · obtain ⟨db₂, hmove, htrigger⟩ := Loops.bind_eq_ok.mp htrigger
      cases htrigger
      exact transitionProtection_touches hmove
    · cases htrigger
      exact Touches.refl _ _
  dsimp only at h
  split at h
  · exact hfirst.trans (transitionProtection_touches h)
  · split at h
    · exact hfirst.trans (transitionProtection_touches h)
    · cases h
      exact hfirst

theorem reconcileClosedPositionProtections_touches {mode : V2ExecutionMode} {symbol : String} {openIds : List String}
    (h : reconcileClosedPositionProtections db mode symbol openIds = .ok db') : Touches [.protections] db db' := by
  unfold reconcileClosedPositionProtections at h
  refine Touches.foldlM (fun {b x b'} hstep => ?_) h
  dsimp only at hstep
  split at hstep
  · cases hstep
    exact Touches.refl _ _
  · exact transitionProtection_touches hstep

end

end TradingPlatform
