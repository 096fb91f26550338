import TradingPlatform.Lemmas.Frames
import TradingPlatform.Lib.EventLog
import TradingPlatform.Store.RepositoryRuns

/-!
# The events of the aggregates

What an event says of its aggregate, and how each operation of the repository keeps the three tables where their events lead: it
changes no row, adds one that has no event yet, or changes one with an event of its own.
-/

namespace TradingPlatform

/-! ## What an event says -/

/-- The entry of a payload that is a text. -/
def EventRow.text (e : EventRow) (key : String) : Option String :=
  match e.eventPayload.lookup key with
  | some (.text value) => some value
  | _ => none

/-- The version an event carries. -/
def EventRow.version (e : EventRow) : Option ℕ :=
  match e.eventPayload.lookup "version" with
  | some (.number n) => some n
  | _ => none

/-- The states an event carries. -/
def EventRow.move (e : EventRow) : Option (String × String) :=
  (e.text "from_state").map fun source => (source, (e.text "to_state").getD "")

/-- The aggregate of a type that a versioned event is of. -/
def EventRow.owner (aggregateType : String) (e : EventRow) : Option String :=
  if e.aggregateType = aggregateType ∧ e.version.isSome then some e.aggregateId else none

/-- The versioned events of an aggregate. -/
def Database.versionedEvents (db : Database) (aggregateType aggregateId : String) : List EventRow :=
  EventLog.logOf (EventRow.owner aggregateType) db.events aggregateId

section

variable {aggregateId aggregateType eventType source target : String} {payload : List (String × PayloadValue)} {n : ℕ}

theorem version_statePayload :
    EventRow.version ⟨aggregateId, aggregateType, eventType, statePayload payload source target n⟩ = some n := rfl

/-- The states of a change stand over what the caller gives. -/
theorem move_statePayload :
    EventRow.move ⟨aggregateId, aggregateType, eventType, statePayload payload source target n⟩ = some (source, target) := rfl

theorem owner_versioned {e : EventRow} (hversion : e.version = some n) : e.owner e.aggregateType = some e.aggregateId := by
  unfold EventRow.owner
  rw [if_pos ⟨rfl, by rw [hversion]; rfl⟩]

theorem owner_other {other : String} (h : other ≠ aggregateType) :
    EventRow.owner aggregateType ⟨aggregateId, other, eventType, payload⟩ = none := if_neg fun h' => h h'.1

theorem owner_unversioned {e : EventRow} (hversion : e.version = none) : e.owner aggregateType = none := by
  refine if_neg fun h => ?_
  rw [hversion] at h
  nomatch h.2

end

/-! ## The tables and their events -/

/-- The intents are where their events lead. -/
def IntentsLogged (intents : List IntentRow) (events : List EventRow) : Prop :=
  EventLog.Logged (EventRow.owner "INTENT") EventRow.version EventRow.move IntentRow.intentId (fun r => r.state.value)
    (·.version) V2IntentState.intentCreated.value intents events

/-- The positions are where their events lead. -/
def PositionsLogged (positions : List PositionRow) (events : List EventRow) : Prop :=
  EventLog.Logged (EventRow.owner "POSITION") EventRow.version EventRow.move PositionRow.positionId (fun p => p.state.value)
    (·.version) V2PositionState.positionProjected.value positions events

/-- The protections are where their events lead. -/
def ProtectionsLogged (protections : List ProtectionRow) (events : List EventRow) : Prop :=
  EventLog.Logged (EventRow.owner "PROTECTION") EventRow.version EventRow.move ProtectionRow.protectionId
    (fun p => p.state.value) (·.version) V2ProtectionState.protectionIntent.value protections events

/-- Every aggregate is where its events lead. -/
structure Database.Logged (db : Database) : Prop where
  intents : IntentsLogged db.intents db.events
  positions : PositionsLogged db.positions db.events
  protections : ProtectionsLogged db.protections db.events

section

variable {db db' : Database} {id eventType : String} {payload : List (String × PayloadValue)}

/-- Nothing was written to the three tables or the events. -/
structure SameAggregates (db db' : Database) : Prop where
  intents : db'.intents = db.intents
  positions : db'.positions = db.positions
  protections : db'.protections = db.protections
  events : db'.events = db.events

theorem Database.Logged.same (h : db.Logged) (hsame : SameAggregates db db') : db'.Logged := by
  refine ⟨?_, ?_, ?_⟩
  · rw [hsame.intents, hsame.events]
    exact h.intents
  · rw [hsame.positions, hsame.events]
    exact h.positions
  · rw [hsame.protections, hsame.events]
    exact h.protections

/-- An intent changes state with an event that says so. -/
theorem Database.Logged.intentStep (h : db.Logged) {r : IntentRow} (hr : db.intent id = some r) (next : V2IntentState) :
    ((db.modifyIntent id fun r => { r with state := next, version := r.version + 1 }).appendEvent id "INTENT" eventType
      (statePayload payload r.state.value next.value (r.version + 1))).Logged := by
  refine ⟨?_, h.positions.append (owner_other (by decide)), h.protections.append (owner_other (by decide))⟩
  exact h.intents.step hr (fun _ => rfl) (owner_versioned version_statePayload) version_statePayload rfl
    (.inl move_statePayload)

/-- A position changes state with an event that says so. -/
theorem Database.Logged.positionStep (h : db.Logged) {p : PositionRow} (hp : db.position id = some p) (next : V2PositionState) :
    ((db.modifyPosition id fun p => { p with state := next, version := p.version + 1 }).appendEvent id "POSITION" eventType
      (statePayload payload p.state.value next.value (p.version + 1))).Logged := by
  refine ⟨h.intents.append (owner_other (by decide)), ?_, h.protections.append (owner_other (by decide))⟩
  exact h.positions.step hp (fun _ => rfl) (owner_versioned version_statePayload) version_statePayload rfl
    (.inl move_statePayload)

/-- A protection changes state with an event that says so. -/
theorem Database.Logged.protectionStep (h : db.Logged) {p : ProtectionRow} (hp : db.protection id = some p)
    (next : V2ProtectionState) :
    ((db.modifyProtection id fun p => { p with state := next, version := p.version + 1 }).appendEvent id "PROTECTION"
      eventType (statePayload payload p.state.value next.value (p.version + 1))).Logged := by
  refine ⟨h.intents.append (owner_other (by decide)), h.positions.append (owner_other (by decide)), ?_⟩
  exact h.protections.step hp (fun _ => rfl) (owner_versioned version_statePayload) version_statePayload rfl
    (.inl move_statePayload)

/-- The columns of a protection beside its state and version are free. -/
theorem Database.Logged.attach (h : db.Logged) (stopId : String) (tpId : Option String) :
    (db.modifyProtection id fun p => { p with stopExchangeOrderId := some stopId, tpExchangeOrderId := tpId }).Logged :=
  ⟨h.intents, h.positions, h.protections.modify (fun _ => rfl) (fun _ => rfl) fun _ => rfl⟩

/-! ## Each operation -/

theorem createIntent_logged {row : IntentRow} (h : db.Logged) (hstate : row.state = .intentCreated)
    (hversion : row.version = 0) (hok : createIntent db row = .ok db') : db'.Logged := by
  obtain ⟨-, hfresh, rfl⟩ := createIntent_eq_ok.mp hok
  exact ⟨h.intents.insert hfresh (congrArg V2IntentState.value hstate) hversion, h.positions, h.protections⟩

theorem transitionIntent_logged {current next : V2IntentState} (h : db.Logged)
    (hok : transitionIntent db id current next eventType payload = .ok db') : db'.Logged := by
  obtain ⟨r, hr, -, -, rfl⟩ := transitionIntent_eq_ok.mp hok
  exact h.intentStep hr next

theorem reconcileIntentFromConfirmedFill_logged (h : db.Logged) (hok : reconcileIntentFromConfirmedFill db id = .ok db') :
    db'.Logged := by
  unfold reconcileIntentFromConfirmedFill at hok
  split at hok
  · nomatch hok
  · rename_i r hr
    repeat' split at hok
    all_goals first
      | contradiction
      | cases hok
    · exact h
    · exact h.intentStep hr .filled

/-- A fill changes its order at most. -/
theorem saveExchangeFillReceipt_aggregates {r : FillReceipt} (hok : saveExchangeFillReceipt db r = .ok db') :
    SameAggregates db db' := by
  obtain ⟨o, db₁, -, -, -, hcomplete, -, rfl⟩ := saveExchangeFillReceipt_eq_ok.mp hok
  unfold Database.completeOrder at hcomplete
  split at hcomplete
  · obtain ⟨-, rfl⟩ := setExchangeOrderId_eq_ok.mp hcomplete
    exact ⟨rfl, rfl, rfl, rfl⟩
  · cases hcomplete
    exact ⟨rfl, rfl, rfl, rfl⟩

theorem saveOrderLevelFillRecovery_aggregates {r : FillReceipt} (hok : saveOrderLevelFillRecovery db r = .ok db') :
    SameAggregates db db' := by
  unfold saveOrderLevelFillRecovery at hok
  split at hok
  · cases hok
    exact ⟨rfl, rfl, rfl, rfl⟩
  · exact saveExchangeFillReceipt_aggregates hok

theorem saveOrderSubmission_aggregates {clientOrderId : String} {quantity : ℚ} {leverage : ℤ}
    (hok : (saveOrderSubmission db id clientOrderId quantity leverage).map Prod.snd = .ok db') : SameAggregates db db' := by
  cases hsave : saveOrderSubmission db id clientOrderId quantity leverage with
  | error e =>
    rw [hsave] at hok
    nomatch hok
  | ok saved =>
    rw [hsave] at hok
    cases hok
    obtain ⟨-, -, -, -, -, hdb⟩ := saveOrderSubmission_eq_ok.mp hsave
    rw [hdb]
    exact ⟨rfl, rfl, rfl, rfl⟩

theorem transitionPosition_logged {current next : V2PositionState} (h : db.Logged)
    (hok : transitionPosition db id current next eventType payload = .ok db') : db'.Logged := by
  obtain ⟨p, hp, -, -, rfl⟩ := transitionPosition_eq_ok.mp hok
  exact h.positionStep hp next

theorem projectPositionFromConfirmedFills_logged {a : Projection} (h : db.Logged)
    (hok : projectPositionFromConfirmedFills db a = .ok db') : db'.Logged := by
  rcases projectPositionFromConfirmedFills_ok hok with ⟨existing, totals, -, -, rfl⟩ | ⟨row, hinsert, ⟨-, hstate, hversion⟩, -⟩
  · exact ⟨h.intents, h.positions.modify (fun _ => rfl) (fun _ => rfl) fun _ => rfl, h.protections⟩
  · obtain ⟨hfresh, -, -, -, -, rfl⟩ := insertPosition_eq_ok.mp hinsert
    exact ⟨h.intents, h.positions.insert hfresh (congrArg V2PositionState.value hstate) hversion, h.protections⟩

/-- The quantity of a position is corrected with an event that carries no version. -/
theorem reconcilePositionQuantity_logged {quantity : ℚ} (h : db.Logged)
    (hok : reconcilePositionQuantity db id quantity = .ok db') : db'.Logged := by
  unfold reconcilePositionQuantity at hok
  repeat' split at hok
  all_goals first
    | contradiction
    | cases hok
  · exact h
  · refine ⟨h.intents.append (owner_unversioned rfl), ?_, h.protections.append (owner_unversioned rfl)⟩
    have hrows : PositionsLogged (Table.modify PositionRow.positionId db.positions id fun p => { p with quantity }) db.events :=
      h.positions.modify (fun _ => rfl) (fun _ => rfl) fun _ => rfl
    exact hrows.append (owner_unversioned rfl)

theorem repairQuarantinedPositionFromConfirmedExit_logged {exitOrderRecordId : String} (h : db.Logged)
    (hok : repairQuarantinedPositionFromConfirmedExit db id exitOrderRecordId payload = .ok db') : db'.Logged := by
  unfold repairQuarantinedPositionFromConfirmedExit at hok
  split at hok
  · nomatch hok
  · rename_i p hp
    dsimp only at hok
    repeat' split at hok
    all_goals first
      | contradiction
      | cases hok
    exact h.positionStep hp .closed

theorem finalizeQuarantinedHistoricalAttribution_logged {a : HistoricalAttribution} (h : db.Logged)
    (hok : finalizeQuarantinedHistoricalAttribution db a = .ok db') : db'.Logged := by
  unfold finalizeQuarantinedHistoricalAttribution at hok
  split at hok
  · nomatch hok
  · rename_i p hp
    split at hok
    · split at hok
      · nomatch hok
      · cases hok
        exact h
    · split at hok
      · nomatch hok
      · unfold Database.insertFinalization at hok
        obtain ⟨_, -, hok⟩ := Loops.bind_eq_ok.mp hok
        obtain ⟨_, -, hok⟩ := Loops.bind_eq_ok.mp hok
        obtain ⟨_, -, hok⟩ := Loops.bind_eq_ok.mp hok
        cases hok
        exact (h.positionStep hp .closed).same ⟨rfl, rfl, rfl, rfl⟩

theorem saveProtection_logged {d : ProtectionDraft} (h : db.Logged) (hok : saveProtection db d = .ok db') : db'.Logged := by
  unfold saveProtection at hok
  split at hok
  · nomatch hok
  · split at hok
    · nomatch hok
    · rename_i hstate
      obtain ⟨hfresh, -, -, -, -, rfl⟩ := insertProtection_eq_ok.mp hok
      have hintent : d.state = .protectionIntent := not_not.mp hstate
      exact ⟨h.intents, h.positions, h.protections.insert hfresh (congrArg V2ProtectionState.value hintent) rfl⟩

/-- A stop is tightened with an event that carries a version and no state. -/
theorem updateProtectionStop_logged {price : ℚ} {stopClientOrderId stopExchangeOrderId : String} (h : db.Logged)
    (hok : updateProtectionStop db id price stopClientOrderId stopExchangeOrderId = .ok db') : db'.Logged := by
  unfold updateProtectionStop at hok
  split at hok
  · nomatch hok
  · rename_i p hp
    obtain ⟨_, -, hok⟩ := Loops.bind_eq_ok.mp hok
    obtain ⟨_, -, hok⟩ := Loops.bind_eq_ok.mp hok
    cases hok
    refine ⟨h.intents.append (owner_other (by decide)), h.positions.append (owner_other (by decide)), ?_⟩
    exact h.protections.step hp (fun _ => rfl) (owner_versioned (n := p.version + 1) rfl) rfl rfl (.inr ⟨rfl, rfl⟩)

theorem transitionProtection_logged {current next : V2ProtectionState} (h : db.Logged)
    (hok : transitionProtection db id current next eventType payload = .ok db') : db'.Logged := by
  obtain ⟨p, hp, -, -, -, rfl⟩ := transitionProtection_eq_ok.mp hok
  exact h.protectionStep hp next

theorem updateProtectionActive_logged {stopId : String} {tpId : Option String} {newState : V2ProtectionState} (h : db.Logged)
    (hok : updateProtectionActive db id stopId tpId newState = .ok db') : db'.Logged := by
  unfold updateProtectionActive at hok
  split at hok
  · nomatch hok
  · split at hok
    · nomatch hok
    · obtain ⟨⟨current, db₁⟩, hstart, hok⟩ := Loops.bind_eq_ok.mp hok
      refine transitionProtection_logged ?_ hok
      unfold startProtection at hstart
      split at hstart
      · obtain ⟨db₂, hmove, hstart⟩ := Loops.bind_eq_ok.mp hstart
        cases hstart
        exact transitionProtection_logged (h.attach stopId tpId) hmove
      · cases hstart
        exact h.attach stopId tpId

end

end TradingPlatform
