import TradingPlatform.Lemmas.EventReplay

/-!
# The event log replays to the state

In every database the repository reaches, the versioned events of each intent, position and protection count up from one and
lead from its first state to the one it is in. An operation that raises writes no event, with one exception: the two
transitions of `update_protection_active` are flushed one by one, so where the second one is illegal the event of the first
stays in the session.
-/

namespace TradingPlatform

/-- The events of every aggregate lead to its state and its version. -/
def Database.EventLogReplays (db : Database) : Prop :=
  (∀ r ∈ db.intents, EventLog.Replays EventRow.version EventRow.move V2IntentState.intentCreated.value
    (db.versionedEvents "INTENT" r.intentId) r.state.value r.version) ∧
  (∀ p ∈ db.positions, EventLog.Replays EventRow.version EventRow.move V2PositionState.positionProjected.value
    (db.versionedEvents "POSITION" p.positionId) p.state.value p.version) ∧
  ∀ p ∈ db.protections, EventLog.Replays EventRow.version EventRow.move V2ProtectionState.protectionIntent.value
    (db.versionedEvents "PROTECTION" p.protectionId) p.state.value p.version

/-- Where the operation raises, it leaves the events of its session as they were. -/
def RepoOp.RaisesClean (op : RepoOp) (db : Database) : Prop :=
  ∀ e, (op.inSession db).1 = .error e → (op.inSession db).2.events = db.events

/-- The state of the log, and what an operation that raises does to it. -/
def ReplayLaw (db : Database) (op : RepoOp) : Prop := db.EventLogReplays ∧ op.RaisesClean db

/-- The operation does not ask a protection that is only intended for a state that submitting does not lead to. -/
def RepoOp.WithinReach (op : RepoOp) (db : Database) : Prop :=
  match op with
  | .updateProtectionActive protectionId stopExchangeOrderId _ newState =>
    ∀ p, db.protection protectionId = some p → p.state = .protectionIntent → stopExchangeOrderId ≠ "" →
      .protectionSubmitting = newState ∨ newState ∈ legalProtectionTransitions .protectionSubmitting
  | _ => True

section

variable {db db' : Database}

/-- What an operation returns keeps the log. -/
theorem RepoOp.result_logged {op : RepoOp} (h : db.Logged) (hok : op.result db = .ok db') : db'.Logged := by
  cases op with
  | createIntent row => exact createIntent_logged h rfl rfl hok
  | transitionIntent intentId current next eventType payload => exact transitionIntent_logged h hok
  | reconcileIntentFromConfirmedFill intentId => exact reconcileIntentFromConfirmedFill_logged h hok
  | saveOrderSubmission intentId clientOrderId quantity leverage => exact h.same (saveOrderSubmission_aggregates hok)
  | saveExchangeOrderReceipt orderRecordId exchangeOrderId =>
    obtain ⟨-, -, -, rfl⟩ := saveExchangeOrderReceipt_eq_ok.mp hok
    exact h.same ⟨rfl, rfl, rfl, rfl⟩
  | saveExchangeFillReceipt receipt => exact h.same (saveExchangeFillReceipt_aggregates hok)
  | saveOrderLevelFillRecovery receipt => exact h.same (saveOrderLevelFillRecovery_aggregates hok)
  | projectPositionFromConfirmedFills a => exact projectPositionFromConfirmedFills_logged h hok
  | reconcilePositionQuantity positionId quantity => exact reconcilePositionQuantity_logged h hok
  | transitionPosition positionId current next eventType payload => exact transitionPosition_logged h hok
  | repairQuarantinedPositionFromConfirmedExit positionId exitOrderRecordId payload =>
    exact repairQuarantinedPositionFromConfirmedExit_logged h hok
  | finalizeQuarantinedHistoricalAttribution a => exact finalizeQuarantinedHistoricalAttribution_logged h hok
  | saveProtection d => exact saveProtection_logged h hok
  | updateProtectionStop protectionId price stopClientOrderId stopExchangeOrderId => exact updateProtectionStop_logged h hok
  | transitionProtection protectionId current next eventType payload => exact transitionProtection_logged h hok
  | updateProtectionActive protectionId stopId tpId newState => exact updateProtectionActive_logged h hok

theorem RepoOp.apply_logged (op : RepoOp) (h : db.Logged) : (op.apply db).Logged := by
  unfold RepoOp.apply
  split
  · exact h
  · rename_i hok
    exact op.result_logged h hok

/-- Every run keeps the log. -/
theorem runRepoOps_logged (ops : List RepoOp) (h : db.Logged) : (runRepoOps db ops).Logged :=
  Loops.foldl_keeps (P := Database.Logged) (fun _ op hb => op.apply_logged hb) ops db h

theorem Database.Logged.replays (h : db.Logged) : db.EventLogReplays :=
  ⟨h.intents.replays, h.positions.replays, h.protections.replays⟩

/-! ## Raising in a session -/

/-- A record whose exchange ids were attached is still the record of its id. -/
theorem protection_attached {p : ProtectionRow} {protectionId : String} (hp : db.protection protectionId = some p)
    (stopId : String) (tpId : Option String) :
    (db.modifyProtection protectionId fun p => { p with stopExchangeOrderId := some stopId, tpExchangeOrderId := tpId }).protection
      protectionId = some { p with stopExchangeOrderId := some stopId, tpExchangeOrderId := tpId } := by
  have hget : (db.modifyProtection protectionId fun p =>
      { p with stopExchangeOrderId := some stopId, tpExchangeOrderId := tpId }).protection protectionId =
        (db.protection protectionId).map fun p => { p with stopExchangeOrderId := some stopId, tpExchangeOrderId := tpId } :=
    Table.get_modify_self fun _ => rfl
  rw [hget, hp]
  rfl

/-- A protection that is only intended is submitting after the first transition, and one more event says so. -/
theorem startProtection_submits {p : ProtectionRow} {protectionId : String} (hp : db.protection protectionId = some p)
    (hstate : p.state = .protectionIntent) (stopId : String) (tpId : Option String) :
    ∃ started e q, startProtection (db.modifyProtection protectionId fun p =>
        { p with stopExchangeOrderId := some stopId, tpExchangeOrderId := tpId }) p = .ok (.protectionSubmitting, started) ∧
      started.events = db.events ++ [e] ∧ started.protection protectionId = some q ∧ q.state = .protectionSubmitting ∧
      q.stopExchangeOrderId = some stopId := by
  have hkey : p.protectionId = protectionId := (Table.get_some hp).2
  have hattached := protection_attached hp stopId tpId
  obtain ⟨started, hmove⟩ : ∃ started, transitionProtection (db.modifyProtection protectionId fun p =>
      { p with stopExchangeOrderId := some stopId, tpExchangeOrderId := tpId }) protectionId .protectionIntent
      .protectionSubmitting "ProtectionSubmitting" = .ok started :=
    ⟨_, transitionProtection_eq_ok.mpr ⟨_, hattached, hstate, .inr (by decide), nofun, rfl⟩⟩
  have hstarted : startProtection (db.modifyProtection protectionId fun p =>
      { p with stopExchangeOrderId := some stopId, tpExchangeOrderId := tpId }) p = .ok (.protectionSubmitting, started) := by
    unfold startProtection
    rw [if_pos hstate, hkey, hmove]
    rfl
  obtain ⟨q, hq, -, -, -, hdb⟩ := transitionProtection_eq_ok.mp hmove
  cases hattached.symm.trans hq
  have hget : started.protection protectionId = some { p with
      stopExchangeOrderId := some stopId, tpExchangeOrderId := tpId, state := .protectionSubmitting,
      version := p.version + 1 } := by
    have hmodified : started.protection protectionId =
        ((db.modifyProtection protectionId fun p =>
          { p with stopExchangeOrderId := some stopId, tpExchangeOrderId := tpId }).protection protectionId).map
          fun p => { p with state := .protectionSubmitting, version := p.version + 1 } := by
      rw [hdb]
      exact Table.get_modify_self fun _ => rfl
    rw [hmodified, hattached]
    rfl
  exact ⟨started, _, _, hstarted, congrArg Database.events hdb, hget, rfl, rfl⟩

/-- The second transition is made exactly if it is legal. -/
theorem activation_returns {q : ProtectionRow} {protectionId stopId : String} (hq : db.protection protectionId = some q)
    (hstate : q.state = .protectionSubmitting) (hstop : q.stopExchangeOrderId = some stopId) (hid : stopId ≠ "")
    (newState : V2ProtectionState) :
    (∃ db', transitionProtection db protectionId .protectionSubmitting newState "ProtectionActivated" = .ok db') ↔
      .protectionSubmitting = newState ∨ newState ∈ legalProtectionTransitions .protectionSubmitting := by
  constructor
  · rintro ⟨db', h⟩
    obtain ⟨-, -, -, hlegal, -⟩ := transitionProtection_eq_ok.mp h
    exact hlegal
  · intro hlegal
    exact ⟨_, transitionProtection_eq_ok.mpr ⟨q, hq, hstate, hlegal, fun _ => ⟨stopId, hstop, hid⟩, rfl⟩⟩

theorem updateProtectionActive_raisesClean_iff (db : Database) (protectionId stopId : String) (tpId : Option String)
    (newState : V2ProtectionState) :
    (RepoOp.updateProtectionActive protectionId stopId tpId newState).RaisesClean db ↔
      (RepoOp.updateProtectionActive protectionId stopId tpId newState).WithinReach db := by
  unfold RepoOp.RaisesClean RepoOp.WithinReach RepoOp.inSession updateProtectionActiveInSession
  dsimp only
  cases hp : db.protection protectionId with
  | none => simp
  | some p =>
    by_cases hid : stopId = ""
    · simp [hid]
    · by_cases hstate : p.state = .protectionIntent
      · obtain ⟨started, e, q, hstart, hevents, hq, hqstate, hqstop⟩ :=
          startProtection_submits hp hstate stopId tpId
        have hiff := activation_returns hq hqstate hqstop hid newState
        simp only [if_neg hid, hstart]
        cases hmove : transitionProtection started protectionId .protectionSubmitting newState "ProtectionActivated" with
        | ok db' =>
          have hlegal := hiff.mp ⟨db', hmove⟩
          simp [hlegal]
        | error err =>
          have hillegal : ¬(.protectionSubmitting = newState ∨
              newState ∈ legalProtectionTransitions .protectionSubmitting) := by
            intro hlegal
            obtain ⟨db', hok⟩ := hiff.mpr hlegal
            rw [hmove] at hok
            nomatch hok
          constructor
          · intro h
            have hsame := h err rfl
            rw [hevents] at hsame
            simp at hsame
          · intro h
            exact absurd (h p rfl hstate hid) hillegal
      · constructor
        · intro _ p' hp' hintent
          cases hp'
          exact absurd hintent hstate
        · intro _ e he
          have hstart : startProtection (db.modifyProtection protectionId fun p =>
              { p with stopExchangeOrderId := some stopId, tpExchangeOrderId := tpId }) p =
                .ok (p.state, db.modifyProtection protectionId fun p =>
                  { p with stopExchangeOrderId := some stopId, tpExchangeOrderId := tpId }) := if_neg hstate
          simp only [if_neg hid, hstart] at he ⊢
          split
          · rfl
          · rename_i heq
            rw [heq] at he
            nomatch he

/-- An operation that raises writes no event exactly if it stays within reach. -/
theorem RepoOp.raisesClean_iff (op : RepoOp) (db : Database) : op.RaisesClean db ↔ op.WithinReach db := by
  cases op with
  | updateProtectionActive protectionId stopId tpId newState =>
    exact updateProtectionActive_raisesClean_iff db protectionId stopId tpId newState
  | _ =>
    refine ⟨fun _ => trivial, fun _ e he => ?_⟩
    unfold RepoOp.inSession at he ⊢
    dsimp only at he ⊢
    split
    · rfl
    · rename_i heq
      rw [heq] at he
      nomatch he

/-- The log replays in every database the repository reaches, and an operation that raises there writes no event exactly if it
does not ask an intended protection for a state beyond submitting. -/
theorem replayLaw_iff (uuids : ℕ → String) (ops : List RepoOp) (op : RepoOp) :
    ReplayLaw (runRepoOps { uuids } ops) op ↔ op.WithinReach (runRepoOps { uuids } ops) := by
  have hempty : ({ uuids } : Database).Logged := ⟨EventLog.Logged.nil, EventLog.Logged.nil, EventLog.Logged.nil⟩
  have hreplays := (runRepoOps_logged ops hempty).replays
  rw [← op.raisesClean_iff]
  exact ⟨fun h => h.2, fun h => ⟨hreplays, h⟩⟩

/-! ## A state beyond submitting -/

/-- A protection that is only intended. -/
def sampleSave : RepoOp := .saveProtection
  { protectionId := "protection", positionId := "position", stopLossPrice := 95, takeProfitPrice := none,
    stopClientOrderId := "stop-client", tpClientOrderId := none, state := .protectionIntent }

/-- Asked for the triggered state, it raises and leaves the event of its first transition. -/
theorem replayLaw_false :
    ((RepoOp.updateProtectionActive "protection" "101" none .protectionTriggered).inSession
      (runRepoOps {} [sampleSave])).1 =
        .error (.valueError "Illegal V2 protection transition: PROTECTION_SUBMITTING -> PROTECTION_TRIGGERED.") ∧
    ((RepoOp.updateProtectionActive "protection" "101" none .protectionTriggered).inSession
      (runRepoOps {} [sampleSave])).2.events.map (·.eventType) = ["ProtectionSubmitting"] ∧
    ¬ReplayLaw (runRepoOps {} [sampleSave]) (.updateProtectionActive "protection" "101" none .protectionTriggered) := by
  have hraises : ((RepoOp.updateProtectionActive "protection" "101" none .protectionTriggered).inSession
      (runRepoOps {} [sampleSave])).1 =
        .error (.valueError "Illegal V2 protection transition: PROTECTION_SUBMITTING -> PROTECTION_TRIGGERED.") := by
    decide +kernel
  have hevents : ((RepoOp.updateProtectionActive "protection" "101" none .protectionTriggered).inSession
      (runRepoOps {} [sampleSave])).2.events.map (·.eventType) = ["ProtectionSubmitting"] := by decide +kernel
  refine ⟨hraises, hevents, fun h => ?_⟩
  have hsame := h.2 _ hraises
  rw [hsame] at hevents
  exact absurd hevents (by decide +kernel)

end

end TradingPlatform
