import TradingPlatform.Lemmas.Persistence
import TradingPlatform.Lemmas.Protection

/-!
# The records a protection leaves

What the operations write to the orders, the positions and the protections, row by row. From it follows which client ids have a
local record after a protection was persisted, and under which version.
-/

namespace TradingPlatform

/-! ## One record -/

/-- A record that is saved is a new one, intended, at version zero. -/
theorem saveProtection_ok {db db' : Database} {d : ProtectionDraft} (h : saveProtection db d = .ok db') :
    (∀ p ∈ db.protections, p.protectionId ≠ d.protectionId) ∧
      ∃ row, row.protectionId = d.protectionId ∧ row.positionId = d.positionId ∧
        row.stopClientOrderId = d.stopClientOrderId ∧ row.tpClientOrderId = d.tpClientOrderId ∧
        row.state = .protectionIntent ∧ row.version = 0 ∧ db' = { db with protections := db.protections ++ [row] } := by
  unfold saveProtection at h
  split at h
  · nomatch h
  · split at h
    · nomatch h
    · rename_i hstate
      obtain ⟨hids, -, -, -, -, rfl⟩ := insertProtection_eq_ok.mp h
      exact ⟨hids, _, rfl, rfl, rfl, rfl, not_not.mp hstate, rfl, rfl⟩

section LastRecord

variable {db db' : Database} {rows : List ProtectionRow}

/-- A transition of the last record changes the last record. -/
theorem transitionProtection_last (row : ProtectionRow) {eventType : String} {current next : V2ProtectionState}
    (h : transitionProtection db row.protectionId current next eventType = .ok db')
    (hrows : db.protections = rows ++ [row]) (hfresh : ∀ p ∈ rows, p.protectionId ≠ row.protectionId) :
    db'.protections = rows ++ [{ row with state := next, version := row.version + 1 }] ∧ row.state = current := by
  obtain ⟨p, hp, hstate, -, -, rfl⟩ := transitionProtection_eq_ok.mp h
  unfold Database.protection at hp
  rw [hrows, Table.get_append_singleton hfresh] at hp
  cases hp
  refine ⟨?_, hstate⟩
  simp only [Database.appendEvent, Database.modifyProtection, hrows]
  exact Table.modify_append_singleton hfresh

/-- The activation of the last record: two versions from an intent, one from a submission. -/
theorem updateProtectionActive_last (row : ProtectionRow) {stopId : String} {tpId : Option String}
    (h : updateProtectionActive db row.protectionId stopId tpId = .ok db') (hrows : db.protections = rows ++ [row])
    (hfresh : ∀ p ∈ rows, p.protectionId ≠ row.protectionId) :
    ∃ row', db'.protections = rows ++ [row'] ∧ row'.positionId = row.positionId ∧
      row'.stopClientOrderId = row.stopClientOrderId ∧ row'.tpClientOrderId = row.tpClientOrderId ∧
      row'.state = .protectionActive ∧
      (row'.version = if row.state = .protectionIntent then row.version + 2 else row.version + 1) ∧
      row'.stopExchangeOrderId = some stopId ∧ row'.tpExchangeOrderId = tpId := by
  unfold updateProtectionActive at h
  have hget : db.protection row.protectionId = some row := by
    unfold Database.protection
    rw [hrows, Table.get_append_singleton hfresh]
  rw [hget] at h
  simp only at h
  split at h
  · nomatch h
  · obtain ⟨⟨current, db₁⟩, hstart, h⟩ := Loops.bind_eq_ok.mp h
    have hattached : (db.modifyProtection row.protectionId fun p =>
        { p with stopExchangeOrderId := some stopId, tpExchangeOrderId := tpId }).protections =
          rows ++ [{ row with stopExchangeOrderId := some stopId, tpExchangeOrderId := tpId }] := by
      simp only [Database.modifyProtection, hrows]
      exact Table.modify_append_singleton hfresh
    unfold startProtection at hstart
    split at hstart
    · rename_i hintent
      obtain ⟨db₂, hmove, hstart⟩ := Loops.bind_eq_ok.mp hstart
      cases hstart
      obtain ⟨hmoved, -⟩ := transitionProtection_last
        { row with stopExchangeOrderId := some stopId, tpExchangeOrderId := tpId } hmove hattached hfresh
      obtain ⟨hfinal, -⟩ := transitionProtection_last
        { row with stopExchangeOrderId := some stopId, tpExchangeOrderId := tpId, state := .protectionSubmitting,
                   version := row.version + 1 } h hmoved hfresh
      exact ⟨_, hfinal, rfl, rfl, rfl, rfl, by rw [if_pos hintent], rfl, rfl⟩
    · rename_i hintent
      cases hstart
      obtain ⟨hfinal, -⟩ := transitionProtection_last
        { row with stopExchangeOrderId := some stopId, tpExchangeOrderId := tpId } h hattached hfresh
      exact ⟨_, hfinal, rfl, rfl, rfl, rfl, by rw [if_neg hintent], rfl, rfl⟩

end LastRecord

/-! ## The protection of an entry -/

/-- A record under the client ids of the facts. An active one went through two transitions. -/
structure EntryFacts.Recorded (a : EntryFacts) (row : ProtectionRow) : Prop where
  positionId : row.positionId = a.positionId
  stopClientOrderId : some row.stopClientOrderId = a.stopClientOrderId
  tpClientOrderId : row.tpClientOrderId = a.tpClientOrderId
  version : row.state = .protectionActive → row.version = 2

/-- A transition of the position changes no record and keeps the position where it was. -/
theorem markProtected_ok {db db' : Database} {positionId : String} (h : markProtected db positionId = .ok db') :
    db'.protections = db.protections ∧ db'.orders = db.orders ∧
      (db'.positions = db.positions ∨ ∃ p, db.position positionId = some p ∧ p.state = .positionProjected ∧
        db'.positions = Table.modify PositionRow.positionId db.positions positionId
          fun p => { p with state := .isProtected, version := p.version + 1 }) := by
  unfold markProtected at h
  split at h
  · cases h
    exact ⟨rfl, rfl, .inl rfl⟩
  · rename_i p hp
    split at h
    · rename_i hstate
      obtain ⟨_, -, -, -, rfl⟩ := transitionPosition_eq_ok.mp h
      exact ⟨rfl, rfl, .inr ⟨p, hp, hstate, rfl⟩⟩
    · cases h
      exact ⟨rfl, rfl, .inl rfl⟩

/-- What `saveEntryProtection` leaves: no record, or one more. -/
theorem saveEntryProtection_ok {db db' : Database} {a : EntryFacts} (h : saveEntryProtection db a = .ok db') :
    db'.orders = db.orders ∧
      (db'.positions = db.positions ∨ ∃ p, db.position a.positionId = some p ∧ p.state = .positionProjected ∧
        db'.positions = Table.modify PositionRow.positionId db.positions a.positionId
          fun p => { p with state := .isProtected, version := p.version + 1 }) ∧
      ((db'.protections = db.protections ∧
          ¬(a.protectionResult.isSome = true ∧ given a.stopClientOrderId = true ∧ a.stopLossPrice.isSome = true)) ∨
        ∃ row, a.Recorded row ∧ db'.protections = db.protections ++ [row]) := by
  unfold saveEntryProtection at h
  split at h
  · rename_i protection stopClientOrderId stopLossPrice hprotection hstop hprice
    split at h
    · rename_i hempty
      cases h
      refine ⟨rfl, .inl rfl, .inl ⟨rfl, ?_⟩⟩
      rintro ⟨-, hgiven, -⟩
      rw [hstop, hempty] at hgiven
      cases hgiven
    · simp only at h
      obtain ⟨db₁, hsave, h⟩ := Loops.bind_eq_ok.mp h
      obtain ⟨hfresh, row, hid, hposition, hstopId, htpId, hstate, hversion, rfl⟩ := saveProtection_ok hsave
      simp only at hid hposition hstopId htpId hfresh
      have hstopId' : some row.stopClientOrderId = a.stopClientOrderId := by rw [hstopId, hstop]
      have hintent : a.Recorded row := by
        refine ⟨hposition, hstopId', htpId, fun hactive => ?_⟩
        rw [hstate] at hactive
        cases hactive
      split at h
      · rename_i stopExchangeOrderId hexchange
        split at h
        · obtain ⟨db₂, hsubmit, h⟩ := Loops.bind_eq_ok.mp h
          obtain ⟨db₃, hactive, h⟩ := Loops.bind_eq_ok.mp h
          rw [← hid] at hsubmit hactive hfresh
          obtain ⟨hsubmitted, -⟩ := transitionProtection_last row hsubmit rfl hfresh
          obtain ⟨row', hrows, hposition', hstop', htp', -, hversion', -⟩ := updateProtectionActive_last
            { row with state := .protectionSubmitting, version := row.version + 1 } hactive hsubmitted hfresh
          obtain ⟨hprotections, horders, hpositions⟩ := markProtected_ok h
          have htouched := (transitionProtection_touches hsubmit).trans (updateProtectionActive_touches hactive)
          have hsame : db₃.positions = db.positions := htouched.positions (by decide)
          refine ⟨?_, ?_, .inr ⟨row', ⟨?_, ?_, ?_, fun _ => ?_⟩, hprotections.trans hrows⟩⟩
          · exact horders.trans (htouched.orders (by decide))
          · unfold Database.position at hpositions
            rw [hsame] at hpositions
            exact hpositions
          · exact hposition'.trans hposition
          · exact hstop' ▸ hstopId'
          · exact htp'.trans htpId
          · rw [hversion', if_neg (by simp), hversion]
        · cases h
          exact ⟨rfl, .inl rfl, .inr ⟨row, hintent, rfl⟩⟩
      · cases h
        exact ⟨rfl, .inl rfl, .inr ⟨row, hintent, rfl⟩⟩
  · rename_i hnot
    cases h
    refine ⟨rfl, .inl rfl, .inl ⟨rfl, ?_⟩⟩
    rintro ⟨hprotection, hgiven, hprice⟩
    obtain ⟨protection, hprotection⟩ := Option.isSome_iff_exists.mp hprotection
    obtain ⟨price, hprice⟩ := Option.isSome_iff_exists.mp hprice
    cases hstop : a.stopClientOrderId with
    | none =>
      rw [hstop] at hgiven
      cases hgiven
    | some stop => exact hnot protection stop price hprotection hstop hprice

/-! ## The stages before it -/

/-- Positions and protections are the same, and the orders have the client ids they had and some more. -/
structure OrderFrame (added : List String) (db db' : Database) : Prop where
  positions : db'.positions = db.positions
  protections : db'.protections = db.protections
  orders : db'.orders.map (·.clientOrderId) = db.orders.map (·.clientOrderId) ++ added

theorem OrderFrame.trans {a b : List String} {db db' db'' : Database} (h : OrderFrame a db db')
    (h' : OrderFrame b db' db'') : OrderFrame (a ++ b) db db'' :=
  ⟨h'.positions.trans h.positions, h'.protections.trans h.protections,
    by rw [h'.orders, h.orders, List.append_assoc]⟩

section OrderFrames

variable {db db' : Database}

/-- A stage that touches none of the three tables. -/
theorem Touches.frame {tables : List TableName} (h : Touches tables db db')
    (hn : TableName.positions ∉ tables ∧ TableName.protections ∉ tables ∧ TableName.orders ∉ tables) :
    OrderFrame [] db db' := ⟨h.positions hn.1, h.protections hn.2.1, by rw [h.orders hn.2.2, List.append_nil]⟩

/-- The order of an intent is there already, or is added under the given client id. -/
theorem ensureOrder_frame {intentId clientOrderId orderRecordId : String} {quantity : ℚ} {leverage : ℤ}
    (h : ensureOrder db intentId clientOrderId quantity leverage = .ok (orderRecordId, db')) :
    ∃ added, (∀ id ∈ added, id = clientOrderId) ∧ OrderFrame added db db' := by
  unfold ensureOrder at h
  split at h
  · cases h
    exact ⟨[], nofun, ((Touches.refl [] db).frame (by decide))⟩
  · obtain ⟨-, -, -, -, -, rfl⟩ := saveOrderSubmission_eq_ok.mp h
    exact ⟨[clientOrderId], fun id hid => List.mem_singleton.mp hid, rfl, rfl, List.map_append⟩

theorem receipted_frame (db : Database) (orderRecordId exchangeOrderId : String) :
    OrderFrame [] db (db.receipted orderRecordId exchangeOrderId) := by
  refine ⟨rfl, rfl, ?_⟩
  rw [List.append_nil]
  exact Table.map_modify fun _ => rfl

theorem saveExchangeOrderReceipt_frame {orderRecordId exchangeOrderId : String}
    (h : saveExchangeOrderReceipt db orderRecordId exchangeOrderId = .ok db') : OrderFrame [] db db' := by
  obtain ⟨-, -, -, rfl⟩ := saveExchangeOrderReceipt_eq_ok.mp h
  exact receipted_frame db orderRecordId exchangeOrderId

theorem saveExchangeFillReceipt_frame {r : FillReceipt} (h : saveExchangeFillReceipt db r = .ok db') :
    OrderFrame [] db db' := by
  obtain ⟨o, db₁, -, -, -, hcomplete, -, rfl⟩ := saveExchangeFillReceipt_eq_ok.mp h
  have hfirst : OrderFrame [] db db₁ := by
    unfold Database.completeOrder at hcomplete
    split at hcomplete
    · obtain ⟨-, rfl⟩ := setExchangeOrderId_eq_ok.mp hcomplete
      exact receipted_frame db o.orderRecordId r.exchangeOrderId
    · cases hcomplete
      exact (Touches.refl [] db).frame (by decide)
  exact ⟨hfirst.positions, hfirst.protections, hfirst.orders⟩

theorem saveEntryFills_frame {a : EntryFacts} {orderRecordId : String} (h : saveEntryFills db a orderRecordId = .ok db') :
    OrderFrame [] db db' := by
  unfold saveEntryFills at h
  simp only at h
  split at h
  · unfold saveOrderLevelFillRecovery at h
    split at h
    · cases h
      exact (Touches.refl [] db).frame (by decide)
    · exact saveExchangeFillReceipt_frame h
  · refine Loops.foldlM_keeps (P := OrderFrame [] db) ?_ _ (((Touches.refl [] db).frame (by decide))) h
    intro b x b' hb hstep
    unfold saveFillOnce at hstep
    split at hstep
    · split at hstep
      · nomatch hstep
      · cases hstep
        exact hb
    · exact hb.trans (saveExchangeFillReceipt_frame hstep)

/-- `persistEntryAndProtection` up to the projection touches the records of the orders alone. -/
theorem persistEntryAndProtection_frame {a : EntryFacts} (h : persistEntryAndProtection db a = .ok db')
    (hp : a.entryResult.positionProjectable = true) :
    ∃ added db₁ db₂ orderRecordId, (∀ id ∈ added, id = a.entryResult.clientOrderId) ∧ OrderFrame added db db₁ ∧
      projectEntry db₁ a orderRecordId = .ok db₂ ∧ saveEntryProtection db₂ a = .ok db' := by
  unfold persistEntryAndProtection at h
  split at h
  · nomatch h
  · rw [hp] at h
    simp only [Bool.not_true, Bool.false_eq_true, if_false] at h
    obtain ⟨db₁, hcycle, h⟩ := Loops.bind_eq_ok.mp h
    obtain ⟨db₂, hintent, h⟩ := Loops.bind_eq_ok.mp h
    split at h
    · nomatch h
    · obtain ⟨db₃, hack, h⟩ := Loops.bind_eq_ok.mp h
      obtain ⟨⟨orderRecordId, db₄⟩, horder, h⟩ := Loops.bind_eq_ok.mp h
      obtain ⟨db₅, hreceipt, h⟩ := Loops.bind_eq_ok.mp h
      obtain ⟨db₆, hfills, h⟩ := Loops.bind_eq_ok.mp h
      obtain ⟨db₇, hreconcile, h⟩ := Loops.bind_eq_ok.mp h
      obtain ⟨db₈, hproject, h⟩ := Loops.bind_eq_ok.mp h
      obtain ⟨added, hadded, horderFrame⟩ := ensureOrder_frame horder
      have hbefore := ((((ensureCycle_touches hcycle).frame (by decide)).trans
          ((ensureDecision_touches db₁ a.decisionId).frame (by decide))).trans
        ((ensureEntryIntent_touches hintent).frame (by decide))).trans ((acknowledgeIntent_touches hack).frame (by decide))
      have hafter := ((saveExchangeOrderReceipt_frame hreceipt).trans (saveEntryFills_frame hfills)).trans
        ((reconcileIntentFromConfirmedFill_touches hreconcile).frame (by decide))
      have hall := (hbefore.trans horderFrame).trans hafter
      simp only [List.nil_append, List.append_nil] at hall
      exact ⟨added, db₇, db₈, orderRecordId, hadded, hall, hproject, h⟩

end OrderFrames

/-! ## Client ids with a local record -/

/-- The position of a record and its client ids. -/
def ProtectionRow.owned (r : ProtectionRow) : String × List String := (r.positionId, r.clientOrderIds)

/-- The client ids with a local record, those of one position included whether or not it is open. -/
def Database.recordedClientOrderIds (db : Database) (mode : V2ExecutionMode) (positionId : String) : List String :=
  db.knownClientOrderIds mode ++ (db.protectionsOf positionId).flatMap ProtectionRow.clientOrderIds

theorem mem_protectionIds {db : Database} {positionId id : String} :
    id ∈ (db.protectionsOf positionId).flatMap ProtectionRow.clientOrderIds ↔
      ∃ o ∈ db.protections.map ProtectionRow.owned, o.1 = positionId ∧ id ∈ o.2 := by
  simp only [Database.protectionsOf, List.mem_flatMap, List.mem_filter, decide_eq_true_eq, List.mem_map,
    exists_exists_and_eq_and, ProtectionRow.owned, and_assoc]

theorem mem_knownClientOrderIds {db : Database} {mode : V2ExecutionMode} {id : String} :
    id ∈ db.knownClientOrderIds mode ↔
      (∃ p ∈ db.positions, p.executionMode = mode ∧ p.isOpen = true ∧
        ∃ o ∈ db.protections.map ProtectionRow.owned, o.1 = p.positionId ∧ id ∈ o.2) ∨
      id ∈ db.orders.map (·.clientOrderId) := by
  unfold Database.knownClientOrderIds Database.openPositions
  rw [List.mem_append]
  refine or_congr_left ?_
  rw [List.mem_flatMap]
  simp only [List.mem_filter, Bool.and_eq_true, decide_eq_true_eq, mem_protectionIds, and_assoc]

theorem mem_recordedClientOrderIds {db : Database} {mode : V2ExecutionMode} {positionId id : String} :
    id ∈ db.recordedClientOrderIds mode positionId ↔
      id ∈ db.knownClientOrderIds mode ∨ ∃ o ∈ db.protections.map ProtectionRow.owned, o.1 = positionId ∧ id ∈ o.2 := by
  unfold Database.recordedClientOrderIds
  rw [List.mem_append, mem_protectionIds]

/-- A position that was not there is open now, with one more record: its ids are known. -/
theorem mem_known_of_projected {db db' : Database} {mode : V2ExecutionMode} {row : PositionRow} {ids added : List String}
    (hpositions : db'.positions = db.positions ++ [row]) (hnew : ∀ p ∈ db.positions, p.positionId ≠ row.positionId)
    (hmode : row.executionMode = mode) (hopen : row.isOpen = true)
    (hrecords : db'.protections.map ProtectionRow.owned = db.protections.map ProtectionRow.owned ++ [(row.positionId, ids)])
    (horders : db'.orders.map (·.clientOrderId) = db.orders.map (·.clientOrderId) ++ added) {id : String} (hid : id ∉ added) :
    id ∈ db'.knownClientOrderIds mode ↔ id ∈ db.recordedClientOrderIds mode row.positionId ∨ id ∈ ids := by
  rw [mem_recordedClientOrderIds, mem_knownClientOrderIds, mem_knownClientOrderIds, hpositions, hrecords, horders]
  constructor
  · rintro (⟨p, hp, hpm, hpo, o, ho, hpos, hmem⟩ | ho)
    · rcases List.mem_append.mp ho with hold | ho
      · rcases List.mem_append.mp hp with hp | hp
        · exact .inl (.inl (.inl ⟨p, hp, hpm, hpo, o, hold, hpos, hmem⟩))
        · obtain rfl := List.mem_singleton.mp hp
          exact .inl (.inr ⟨o, hold, hpos, hmem⟩)
      · obtain rfl := List.mem_singleton.mp ho
        exact .inr hmem
    · rcases List.mem_append.mp ho with ho | ho
      · exact .inl (.inl (.inr ho))
      · exact absurd ho hid
  · rintro (((⟨p, hp, hpm, hpo, o, ho, hpos, hmem⟩ | ho) | ⟨o, ho, hpos, hmem⟩) | hmem)
    · exact .inl ⟨p, List.mem_append_left _ hp, hpm, hpo, o, List.mem_append_left _ ho, hpos, hmem⟩
    · exact .inr (List.mem_append_left _ ho)
    · exact .inl ⟨row, List.mem_append_right _ (List.mem_singleton_self row), hmode, hopen, o, List.mem_append_left _ ho,
        hpos, hmem⟩
    · exact .inl ⟨row, List.mem_append_right _ (List.mem_singleton_self row), hmode, hopen, _,
        List.mem_concat_self, rfl, hmem⟩

/-- An open position has one more record: its ids are known. -/
theorem mem_known_of_recorded {db db' : Database} {mode : V2ExecutionMode} {row : PositionRow} {ids : List String}
    (hpositions : db'.positions = db.positions) (hrow : row ∈ db.positions) (hmode : row.executionMode = mode)
    (hopen : row.isOpen = true)
    (hrecords : db'.protections.map ProtectionRow.owned = db.protections.map ProtectionRow.owned ++ [(row.positionId, ids)])
    (horders : db'.orders = db.orders) {id : String} :
    id ∈ db'.knownClientOrderIds mode ↔ id ∈ db.recordedClientOrderIds mode row.positionId ∨ id ∈ ids := by
  rw [mem_recordedClientOrderIds, mem_knownClientOrderIds, mem_knownClientOrderIds, hpositions, hrecords, horders]
  constructor
  · rintro (⟨p, hp, hpm, hpo, o, ho, hpos, hmem⟩ | ho)
    · rcases List.mem_append.mp ho with ho | ho
      · exact .inl (.inl (.inl ⟨p, hp, hpm, hpo, o, ho, hpos, hmem⟩))
      · obtain rfl := List.mem_singleton.mp ho
        exact .inr hmem
    · exact .inl (.inl (.inr ho))
  · rintro (((⟨p, hp, hpm, hpo, o, ho, hpos, hmem⟩ | ho) | ⟨o, ho, hpos, hmem⟩) | hmem)
    · exact .inl ⟨p, hp, hpm, hpo, o, List.mem_append_left _ ho, hpos, hmem⟩
    · exact .inr ho
    · exact .inl ⟨row, hrow, hmode, hopen, o, List.mem_append_left _ ho, hpos, hmem⟩
    · exact .inl ⟨row, hrow, hmode, hopen, _, List.mem_concat_self, rfl, hmem⟩

/-- The client ids of a plan, as a record of it holds them. -/
def ProtectionPlan.clientOrderIds (plan : ProtectionPlan) : List String := plan.stopClientOrderId :: truthy plan.tpClientOrderId

/-- A record under the client ids of a plan. -/
theorem EntryFacts.Recorded.owned {a : EntryFacts} {row : ProtectionRow} {plan : ProtectionPlan} (h : a.Recorded row)
    (hstop : a.stopClientOrderId = some plan.stopClientOrderId) (htp : a.tpClientOrderId = plan.tpClientOrderId) :
    row.owned = (a.positionId, plan.clientOrderIds) := by
  have hs : row.stopClientOrderId = plan.stopClientOrderId := Option.some.inj (h.stopClientOrderId.trans hstop)
  unfold ProtectionRow.owned ProtectionRow.clientOrderIds ProtectionPlan.clientOrderIds
  rw [h.positionId, hs, h.tpClientOrderId, htp]

/-- A projection that joins no open position adds one of its own. -/
theorem projectEntry_new {db db' : Database} {a : EntryFacts} {orderRecordId : String} (hproject : a.projectPosition = true)
    (hjoin : a.allowExistingPositionAggregation = false) (h : projectEntry db a orderRecordId = .ok db') :
    ∃ row, db' = { db with positions := db.positions ++ [row] } ∧ (∀ p ∈ db.positions, p.positionId ≠ row.positionId) ∧
      row.positionId = a.positionId ∧ row.intentId = a.intentId ∧ row.executionMode = a.executionMode ∧
      row.state = .positionProjected := by
  unfold projectEntry at h
  rw [if_pos hproject] at h
  rcases projectPositionFromConfirmedFills_ok h with ⟨existing, totals, hallow, -⟩ | ⟨row, hinsert, ⟨hid, hstate, -⟩, hintent, -, -, hmode⟩
  · exact absurd (hjoin.symm.trans hallow) Bool.false_ne_true
  · obtain ⟨hids, -, -, -, -, hdb⟩ := insertPosition_eq_ok.mp hinsert
    exact ⟨_, hdb, hids, hid, hintent, hmode, hstate⟩

/-- After a confirmed entry was persisted, what is known beside the id of the entry is what was recorded and the ids of the
plan. -/
theorem protectEntry_known {db db' : Database} {c : ConfirmedEntry} {positionId : String} {plan : ProtectionPlan}
    {result : ProtectionResult} (hstop : plan.stopClientOrderId ≠ "")
    (h : persistEntryAndProtection db (c.facts positionId (some plan) (some result)) = .ok db') {id : String}
    (hid : id ≠ c.entryResult.clientOrderId) :
    id ∈ db'.knownClientOrderIds c.executionMode ↔
      id ∈ db.recordedClientOrderIds c.executionMode positionId ∨ id ∈ plan.clientOrderIds := by
  obtain ⟨added, db₁, db₂, orderRecordId, hadded, hframe, hproject, hprotect⟩ :=
    persistEntryAndProtection_frame h c.projectable
  obtain ⟨row, rfl, hnew, hrowId, -, hrowMode, hrowState⟩ := projectEntry_new rfl rfl hproject
  obtain ⟨horders, hpositions, hrecords⟩ := saveEntryProtection_ok hprotect
  have hid' : id ∉ added := fun hmem => hid (hadded id hmem)
  have hrecord : ∃ rec, (c.facts positionId (some plan) (some result)).Recorded rec ∧
      db'.protections = db₁.protections ++ [rec] := by
    rcases hrecords with ⟨-, hnot⟩ | hrec
    · exact absurd ⟨rfl, decide_eq_true hstop, rfl⟩ hnot
    · exact hrec
  obtain ⟨rec, hrec, hprotections⟩ := hrecord
  rw [hframe.positions] at hnew
  have howned : db'.protections.map ProtectionRow.owned =
      db.protections.map ProtectionRow.owned ++ [(row.positionId, plan.clientOrderIds)] := by
    have howns : rec.owned = (row.positionId, plan.clientOrderIds) := by
      rw [hrowId]
      exact hrec.owned rfl rfl
    rw [hprotections, hframe.protections, List.map_append, List.map_singleton, howns]
  have hclientIds : db'.orders.map (·.clientOrderId) = db.orders.map (·.clientOrderId) ++ added := by
    rw [horders]
    exact hframe.orders
  have hmode : row.executionMode = c.executionMode := hrowMode
  have hposition : row.positionId = positionId := hrowId
  rw [← hposition]
  rcases hpositions with hsame | ⟨p, -, -, hmoved⟩
  · refine mem_known_of_projected (hsame.trans ?_) hnew hmode ?_ howned hclientIds hid'
    · rw [hframe.positions]
    · simp [PositionRow.isOpen, hrowState]
  · -- the position the facts added is the one that became protected
    have hlast : db'.positions = db.positions ++ [{ row with state := .isProtected, version := row.version + 1 }] := by
      rw [hmoved, hframe.positions, ← hrowId]
      exact Table.modify_append_singleton hnew
    exact mem_known_of_projected hlast hnew hmode rfl howned hclientIds hid'

/-! ## The protection of a resubmission -/

/-- A resubmission plans for the position it was asked for, under minted ids. -/
theorem plannedResubmission_ok {db : Database} {snapshot : AuthoritativeAccountSnapshot} {positionId : String}
    {plan : ProtectionPlan} (h : plannedResubmission db snapshot positionId = .ok (some plan)) :
    plan.positionId = positionId ∧ plan.Minted := by
  unfold plannedResubmission at h
  split at h
  · nomatch h
  · rename_i position hposition
    have hid := (Table.get_some hposition).2
    split at h
    · nomatch h
    · rename_i previous _
      split at h
      · nomatch h
      · rename_i exchangePosition _
        split at h
        · nomatch h
        · cases hplan : resubmissionPlan position previous exchangePosition.quantity with
          | error e =>
            rw [hplan] at h
            nomatch h
          | ok p =>
            rw [hplan] at h
            cases Except.ok.inj h
            unfold resubmissionPlan at hplan
            simp only at hplan
            obtain ⟨stopId, hstop, hplan⟩ := Loops.bind_eq_ok.mp hplan
            obtain ⟨tpId, htp, hplan⟩ := Loops.bind_eq_ok.mp hplan
            obtain ⟨hpos, hattempt, hstopId, htpId, -⟩ := check_ok hplan
            simp only at hpos hattempt hstopId htpId
            refine ⟨hpos.trans hid, ?_, fun id hmem => ?_⟩
            · rw [hpos, hattempt, hstopId]
              exact hstop
            · rw [htpId] at hmem
              unfold resubmittedTargetId at htp
              rw [hpos, hattempt]
              split at htp
              · rw [← Except.ok.inj htp] at hmem
                nomatch hmem
              · cases htarget : targetClientOrderId position.positionId (previous.version + 2) with
                | error e =>
                  rw [htarget] at htp
                  nomatch htp
                | ok c =>
                  rw [htarget] at htp
                  rw [← Except.ok.inj htp] at hmem
                  rw [Option.some.inj hmem]

/-- A resubmission that handled its action persisted the stop its submission returned. -/
theorem resubmitProtection_persisted {w : World} {snapshot : AuthoritativeAccountSnapshot} {action : RecoveryAction}
    {plan : ProtectionPlan} {result : ProtectionResult} {db' : Database} {x x' : Exchange}
    (hplan : plannedResubmission w.db snapshot action.targetRef = .ok (some plan))
    (hensure : ensureProtection w.exchange plan = (.ok result, x'))
    (h : resubmitProtection w snapshot action = (.ok true, ⟨db', x⟩)) :
    ∃ stopId, result.stopExchangeOrderId = some stopId ∧
      persistResubmission w.db plan stopId result.tpExchangeOrderId = .ok db' := by
  unfold resubmitProtection at h
  simp only [hplan, submitResubmission, hensure] at h
  split at h
  · rename_i stopId hstop _
    cases hp : persistResubmission w.db plan stopId result.tpExchangeOrderId with
    | error e =>
      rw [hp] at h
      nomatch (Prod.mk.inj h).1
    | ok db₁ =>
      rw [hp] at h
      obtain ⟨-, hworld⟩ := Prod.mk.inj h
      have hdb : db₁ = db' := (World.mk.inj hworld).1
      exact ⟨stopId, hstop, by rw [hp, hdb]⟩
  · nomatch Except.ok.inj (Prod.mk.inj h).1

/-- The position of a record, its client ids and its exchange ids. -/
def ProtectionRow.identity (r : ProtectionRow) : String × List String × List String :=
  (r.positionId, r.clientOrderIds, r.exchangeOrderIds)

/-- What persisting a resubmission leaves: the records keep their identities, and one active record under those of the plan
joins them. -/
theorem persistResubmission_ok {db db' : Database} {plan : ProtectionPlan} {stopId : String} {tpId : Option String}
    (h : persistResubmission db plan stopId tpId = .ok db') :
    db'.positions = db.positions ∧ db'.orders = db.orders ∧ ∃ rows row, db'.protections = rows ++ [row] ∧
      rows.map ProtectionRow.identity = db.protections.map ProtectionRow.identity ∧ row.state = .protectionActive ∧
      row.identity = (plan.positionId, plan.clientOrderIds, truthy (some stopId) ++ truthy tpId) := by
  unfold persistResubmission at h
  obtain ⟨db₁, hsupersede, h⟩ := Loops.bind_eq_ok.mp h
  have hold : db₁.positions = db.positions ∧ db₁.orders = db.orders ∧
      db₁.protections.map ProtectionRow.identity = db.protections.map ProtectionRow.identity := by
    unfold supersedeProtection at hsupersede
    split at hsupersede
    · cases hsupersede
      exact ⟨rfl, rfl, rfl⟩
    · split at hsupersede
      · obtain ⟨_, -, -, -, -, rfl⟩ := transitionProtection_eq_ok.mp hsupersede
        refine ⟨rfl, rfl, ?_⟩
        exact Table.map_modify fun _ => rfl
      · cases hsupersede
        exact ⟨rfl, rfl, rfl⟩
  simp only at h
  obtain ⟨db₂, hsave, h⟩ := Loops.bind_eq_ok.mp h
  obtain ⟨hfresh, rec, hrecId, hrecPosition, hrecStop, hrecTp, hrecState, -, rfl⟩ := saveProtection_ok hsave
  simp only at hrecId hrecPosition hrecStop hrecTp hfresh
  rw [← hrecId] at h hfresh
  obtain ⟨rec', hrecords, hposition, hstop, htp, hactive, -, hstopId, htpId⟩ := updateProtectionActive_last rec h rfl hfresh
  obtain ⟨hpositions, horders, hidentities⟩ := hold
  refine ⟨((updateProtectionActive_touches h).positions (by decide)).trans hpositions,
    ((updateProtectionActive_touches h).orders (by decide)).trans horders, _, rec', hrecords, hidentities, hactive, ?_⟩
  unfold ProtectionRow.identity ProtectionRow.clientOrderIds ProtectionRow.exchangeOrderIds ProtectionPlan.clientOrderIds
  rw [hposition, hstop, htp, hstopId, htpId, hrecPosition, hrecStop, hrecTp]

/-! ### The prices of the records -/

/-- The prices of a record. -/
def ProtectionRow.prices (r : ProtectionRow) : ℚ × Option ℚ × Option ℚ := (r.stopLossPrice, r.originalStopLossPrice, r.takeProfitPrice)

theorem transitionProtection_prices {db db' : Database} {id eventType : String} {current next : V2ProtectionState}
    {payload : List (String × PayloadValue)} (h : transitionProtection db id current next eventType payload = .ok db') :
    db'.protections.map ProtectionRow.prices = db.protections.map ProtectionRow.prices := by
  obtain ⟨_, -, -, -, -, rfl⟩ := transitionProtection_eq_ok.mp h
  exact Table.map_modify fun _ => rfl

theorem updateProtectionActive_prices {db db' : Database} {id stopId : String} {tpId : Option String}
    (h : updateProtectionActive db id stopId tpId = .ok db') :
    db'.protections.map ProtectionRow.prices = db.protections.map ProtectionRow.prices := by
  unfold updateProtectionActive at h
  split at h
  · nomatch h
  · rename_i row hrow
    split at h
    · nomatch h
    · obtain ⟨⟨current, db₁⟩, hstart, h⟩ := Loops.bind_eq_ok.mp h
      rw [transitionProtection_prices h]
      have hattached : (db.modifyProtection id fun p =>
          { p with stopExchangeOrderId := some stopId, tpExchangeOrderId := tpId }).protections.map ProtectionRow.prices =
            db.protections.map ProtectionRow.prices := Table.map_modify fun _ => rfl
      unfold startProtection at hstart
      split at hstart
      · obtain ⟨db₂, hmove, hstart⟩ := Loops.bind_eq_ok.mp hstart
        rw [← (Prod.mk.inj (Except.ok.inj hstart)).2, transitionProtection_prices hmove, hattached]
      · rw [← (Prod.mk.inj (Except.ok.inj hstart)).2, hattached]

/-- The prices a record of a plan holds. -/
def ProtectionPlan.prices (plan : ProtectionPlan) : ℚ × Option ℚ × Option ℚ :=
  (numeric 4 plan.stopPrice, some (numeric 4 plan.stopPrice), plan.takeProfitPrice.map (numeric 4))

/-- A resubmission records the stop of its plan, and records it as the original one. -/
theorem persistResubmission_prices {db db' : Database} {plan : ProtectionPlan} {stopId : String} {tpId : Option String}
    (h : persistResubmission db plan stopId tpId = .ok db') :
    db'.protections.map ProtectionRow.prices =
      db.protections.map ProtectionRow.prices ++ [plan.prices] := by
  unfold persistResubmission at h
  obtain ⟨db₁, hsupersede, h⟩ := Loops.bind_eq_ok.mp h
  have hold : db₁.protections.map ProtectionRow.prices = db.protections.map ProtectionRow.prices := by
    unfold supersedeProtection at hsupersede
    split at hsupersede
    · rw [← Except.ok.inj hsupersede]
    · split at hsupersede
      · exact transitionProtection_prices hsupersede
      · rw [← Except.ok.inj hsupersede]
  dsimp only at h
  obtain ⟨db₂, hsave, h⟩ := Loops.bind_eq_ok.mp h
  rw [updateProtectionActive_prices h]
  unfold saveProtection at hsave
  rw [if_neg nofun, if_neg (not_not_intro rfl)] at hsave
  obtain ⟨-, -, -, -, -, rfl⟩ := insertProtection_eq_ok.mp hsave
  rw [List.map_append, List.map_singleton]
  exact congrArg (· ++ [_]) hold

/-- After a resubmission was persisted, what is known is what was recorded and the ids of the plan. -/
theorem persistResubmission_known {db db' : Database} {plan : ProtectionPlan} {stopId : String} {tpId : Option String}
    {mode : V2ExecutionMode} {row : PositionRow} (hrow : row ∈ db.openPositions mode)
    (hposition : plan.positionId = row.positionId) (h : persistResubmission db plan stopId tpId = .ok db') {id : String} :
    id ∈ db'.knownClientOrderIds mode ↔
      id ∈ db.recordedClientOrderIds mode plan.positionId ∨ id ∈ plan.clientOrderIds := by
  obtain ⟨hpositions, horders, rows, rec, hrecords, hidentities, -, hrec⟩ := persistResubmission_ok h
  obtain ⟨hmem, hopen⟩ := List.mem_filter.mp hrow
  obtain ⟨hmode, hopen⟩ := Bool.and_eq_true_iff.mp hopen
  have howned : ∀ rs : List ProtectionRow,
      rs.map ProtectionRow.owned = (rs.map ProtectionRow.identity).map fun r => (r.1, r.2.1) := by
    intro rs
    rw [List.map_map]
    rfl
  rw [hposition]
  refine mem_known_of_recorded hpositions hmem (of_decide_eq_true hmode) hopen ?_ horders
  rw [hrecords, howned, howned, List.map_append, hidentities, List.map_append, List.map_singleton, List.map_singleton, hrec,
    hposition]

end TradingPlatform
