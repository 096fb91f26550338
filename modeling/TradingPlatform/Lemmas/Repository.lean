import TradingPlatform.Engine.PositionRuns
import TradingPlatform.Lib.Loops

/-!
# When an operation of the repository returns

For every operation on one row: what it needs, and the database it returns. The stages of the persistence are read off these
and never unfold an operation. A frame says which tables an operation may have touched.
-/

namespace TradingPlatform

variable {db db' : Database}

@[simp]
theorem transaction_ok (db db' : Database) : transaction db (.ok db') = (.ok (), db') := rfl

@[simp]
theorem transaction_error (db : Database) (e : PyError) : transaction db (.error e) = (.error e, db) := rfl

/-! ## Constraints and insertions -/

theorem require_eq_ok {holds : Bool} {name : String} {u : Unit} : require holds name = .ok u ↔ holds = true := by
  unfold require
  cases holds <;> simp

theorem insertCycle_eq_ok {row : CycleRow} : db.insertCycle row = .ok db' ↔
    (∀ c ∈ db.cycles, c.cycleId ≠ row.cycleId) ∧ (∀ c ∈ db.cycles, c.fencingToken ≠ row.fencingToken) ∧
      db' = { db with cycles := db.cycles ++ [row] } := by
  unfold Database.insertCycle
  simp only [Loops.bind_eq_ok, require_eq_ok, List.all_eq_true, decide_eq_true_eq, pure, Except.pure, Except.ok.injEq, exists_and_left, exists_const,
    eq_comm (a := db')]

theorem insertIntent_eq_ok {row : IntentRow} : db.insertIntent row = .ok db' ↔
    (∀ r ∈ db.intents, r.intentId ≠ row.intentId) ∧ db' = { db with intents := db.intents ++ [row] } := by
  unfold Database.insertIntent
  simp only [Loops.bind_eq_ok, require_eq_ok, List.all_eq_true, decide_eq_true_eq, pure, Except.pure, Except.ok.injEq, exists_and_left, exists_const,
    eq_comm (a := db')]

theorem insertOrder_eq_ok {row : OrderRow} : db.insertOrder row = .ok db' ↔
    (∀ o ∈ db.orders, o.orderRecordId ≠ row.orderRecordId) ∧ (∀ o ∈ db.orders, o.clientOrderId ≠ row.clientOrderId) ∧
      0 < row.quantity ∧ 0 < row.leverage ∧ db' = { db with orders := db.orders ++ [row] } := by
  unfold Database.insertOrder
  simp only [Loops.bind_eq_ok, require_eq_ok, List.all_eq_true, pure, Except.pure, Except.ok.injEq, exists_and_left, exists_const,
    decide_eq_true_eq, eq_comm (a := db')]

theorem setExchangeOrderId_eq_ok {db db' : Database} {orderRecordId exchangeOrderId : String} :
    db.setExchangeOrderId orderRecordId exchangeOrderId = .ok db' ↔
      (∀ o ∈ db.orders, o.orderRecordId = orderRecordId ∨ o.exchangeOrderId ≠ some exchangeOrderId) ∧
        db' = { db with
          orders := Table.modify OrderRow.orderRecordId db.orders orderRecordId
            fun o => { o with exchangeOrderId := some exchangeOrderId } } := by
  unfold Database.setExchangeOrderId
  simp only [Loops.bind_eq_ok, require_eq_ok, List.all_eq_true, pure, Except.pure, Except.ok.injEq, exists_and_left,
    exists_const, decide_eq_true_eq, eq_comm (a := db')]

theorem insertFill_eq_ok {row : FillRow} : db.insertFill row = .ok db' ↔
    (∀ f ∈ db.fills, f.fillId ≠ row.fillId) ∧
      (∀ f ∈ db.fills, f.tradeId = none ∨ f.accountId ≠ row.accountId ∨ f.tradeId ≠ row.tradeId) ∧
      0 < row.filledQuantity ∧ 0 < row.fillPrice ∧ db' = { db with fills := db.fills ++ [row] } := by
  unfold Database.insertFill
  simp only [Loops.bind_eq_ok, require_eq_ok, List.all_eq_true, pure, Except.pure, Except.ok.injEq,
    exists_and_left, exists_const, decide_eq_true_eq, eq_comm (a := db')]

theorem insertPosition_eq_ok {row : PositionRow} : db.insertPosition row = .ok db' ↔
    (∀ p ∈ db.positions, p.positionId ≠ row.positionId) ∧ (∀ p ∈ db.positions, p.intentId ≠ row.intentId) ∧
      (∀ p ∈ db.positions, (!(p.isOpen && row.isOpen && p.sameSlot row)) = true) ∧ 0 < row.quantity ∧
      0 < numeric 4 row.entryPrice ∧ db' = { db with positions := db.positions ++ [row.stored] } := by
  unfold Database.insertPosition
  simp only [Loops.bind_eq_ok, require_eq_ok, List.all_eq_true, pure, Except.pure, Except.ok.injEq,
    exists_and_left, exists_const, decide_eq_true_eq, eq_comm (a := db')]
  rfl

/-- A projection joins the open position or adds a row. -/
theorem projectPositionFromConfirmedFills_ok {a : Projection}
    (h : projectPositionFromConfirmedFills db a = .ok db') :
    (∃ existing totals, a.allowExistingPositionAggregation = true ∧
        db.openPosition a.symbol a.direction a.executionMode = some existing ∧
        db' = db.modifyPosition existing.positionId fun p => p.aggregate totals) ∨
      ∃ row, db.insertPosition row = .ok db' ∧ (row.positionId = a.positionId ∧ row.state = .positionProjected ∧ row.version = 0) ∧
        row.intentId = a.intentId ∧ row.symbol = a.symbol ∧ row.direction = a.direction ∧ row.executionMode = a.executionMode := by
  unfold projectPositionFromConfirmedFills at h
  split at h
  · nomatch h
  · split at h
    · nomatch h
    · obtain ⟨totals, -, h⟩ := Loops.bind_eq_ok.mp h
      split at h
      · nomatch h
      · split at h
        · rename_i existing hopen
          obtain ⟨hopen, hallow⟩ := Option.filter_eq_some_iff.mp hopen
          exact .inl ⟨existing, totals, hallow, hopen, (Except.ok.inj h).symm⟩
        · exact .inr ⟨_, h, ⟨rfl, rfl, rfl⟩, rfl, rfl, rfl, rfl⟩

theorem insertProtection_eq_ok {row : ProtectionRow} : db.insertProtection row = .ok db' ↔
    (∀ p ∈ db.protections, p.protectionId ≠ row.protectionId) ∧
      (∀ p ∈ db.protections, p.stopClientOrderId ≠ row.stopClientOrderId) ∧
      (∀ p ∈ db.protections, p.tpClientOrderId = none ∨ p.tpClientOrderId ≠ row.tpClientOrderId) ∧
      0 < numeric 4 row.stopLossPrice ∧ ((row.takeProfitPrice.map (numeric 4)).all fun t => decide (0 < t)) = true ∧
      db' = { db with protections := db.protections ++ [row.stored] } := by
  unfold Database.insertProtection
  simp only [Loops.bind_eq_ok, require_eq_ok, List.all_eq_true, pure, Except.pure, Except.ok.injEq,
    exists_and_left, exists_const, decide_eq_true_eq, eq_comm (a := db')]
  rfl

/-! ## State changes -/

/-- What a validated transition needs. -/
theorem validateTransition_eq_ok {S : Type} [DecidableEq S] {legal : S → List S} {value : S → String} {machine : String}
    {current next : S} {u : Unit} :
    validateTransition legal value machine current next = .ok u ↔ current = next ∨ next ∈ legal current := by
  unfold validateTransition
  split <;> simp_all

section

variable {db db' : Database} {id eventType : String} {payload : List (String × PayloadValue)}

theorem transitionIntent_eq_ok {current next : V2IntentState} :
    transitionIntent db id current next eventType payload = .ok db' ↔
      ∃ r, db.intent id = some r ∧ r.state = current ∧ (current = next ∨ next ∈ legalIntentTransitions current) ∧
        db' = (db.modifyIntent id fun r => { r with state := next, version := r.version + 1 }).appendEvent id "INTENT"
          eventType (statePayload payload r.state.value next.value (r.version + 1)) := by
  unfold transitionIntent
  cases hr : db.intent id with
  | none => simp
  | some r =>
    by_cases hstate : r.state = current
    · subst hstate
      simp [Loops.bind_eq_ok, validateIntentTransition, validateTransition_eq_ok, pure, Except.pure, eq_comm (a := db')]
    · simp [hstate]

theorem transitionPosition_eq_ok {current next : V2PositionState} :
    transitionPosition db id current next eventType payload = .ok db' ↔
      ∃ p, db.position id = some p ∧ p.state = current ∧ (current = next ∨ next ∈ legalPositionTransitions current) ∧
        db' = (db.modifyPosition id fun p => { p with state := next, version := p.version + 1 }).appendEvent id "POSITION"
          eventType (statePayload payload p.state.value next.value (p.version + 1)) := by
  unfold transitionPosition
  cases hp : db.position id with
  | none => simp
  | some p =>
    by_cases hstate : p.state = current
    · subst hstate
      simp [Loops.bind_eq_ok, validatePositionTransition, validateTransition_eq_ok, pure, Except.pure, eq_comm (a := db')]
    · simp [hstate]

/-- A record becomes active only with the exchange id of its stop. -/
theorem transitionProtection_eq_ok {current next : V2ProtectionState} :
    transitionProtection db id current next eventType payload = .ok db' ↔
      ∃ p, db.protection id = some p ∧ p.state = current ∧ (current = next ∨ next ∈ legalProtectionTransitions current) ∧
        (next = .protectionActive → ∃ stop, p.stopExchangeOrderId = some stop ∧ stop ≠ "") ∧
        db' = (db.modifyProtection id fun p => { p with state := next, version := p.version + 1 }).appendEvent id "PROTECTION"
          eventType (statePayload payload p.state.value next.value (p.version + 1)) := by
  unfold transitionProtection
  cases hp : db.protection id with
  | none => simp
  | some p =>
    by_cases hstate : p.state = current
    · subst hstate
      simp only [ne_eq, not_true_eq_false, if_false, Loops.bind_eq_ok, validateProtectionTransition,
        validateTransition_eq_ok, exists_and_left, exists_const]
      cases hstop : p.stopExchangeOrderId with
      | none => by_cases hnext : next = .protectionActive <;> simp [hnext, eq_comm (a := db'), hstop]
      | some stop =>
        by_cases hempty : stop = "" <;> by_cases hnext : next = .protectionActive <;>
          simp [hnext, hempty, eq_comm (a := db'), hstop, Option.filter]
    · simp [hstate]

theorem updateProtectionStop_eq_ok {price : ℚ} {stopId exchangeId : String} :
    updateProtectionStop db id price stopId exchangeId = .ok db' ↔
      ∃ p, db.protection id = some p ∧ (∀ r ∈ db.protections, r.protectionId = id ∨ r.stopClientOrderId ≠ stopId) ∧
        0 < numeric 4 price ∧
        db' = (db.modifyProtection id fun r =>
          { r with stopLossPrice := numeric 4 price, stopClientOrderId := stopId, stopExchangeOrderId := some exchangeId,
                   version := r.version + 1 }).appendEvent id "PROTECTION" "ProfitProtectionStopTightened"
          [("stop_exchange_order_id", .text exchangeId), ("version", .number (p.version + 1))] := by
  unfold updateProtectionStop
  cases hp : db.protection id with
  | none => simp
  | some p =>
    simp only [Loops.bind_eq_ok, require_eq_ok, List.all_eq_true, decide_eq_true_eq, pure, Except.pure, Except.ok.injEq,
      exists_and_left, exists_const, Option.some.injEq, exists_eq_left', eq_comm (a := db')]

end

/-! ## Intents -/

theorem createIntent_eq_ok {row : IntentRow} : createIntent db row = .ok db' ↔
    (∀ risk, row.initialRiskUsdt = some risk → 0 < risk) ∧ (∀ r ∈ db.intents, r.intentId ≠ row.intentId) ∧
      db' = { db with intents := db.intents ++ [row] } := by
  unfold createIntent
  cases hrisk : row.initialRiskUsdt with
  | none => simp [insertIntent_eq_ok]
  | some risk =>
    by_cases hpos : 0 < risk
    · simp [insertIntent_eq_ok, hpos, not_le.mpr hpos]
    · simp [hpos, not_lt.mp hpos]

/-- The row of an intent after it was submitted. -/
def IntentRow.submitting (row : IntentRow) : IntentRow := { row with state := .exchangeSubmitting, version := row.version + 1 }

theorem createSubmittingIntent_eq_ok {row : IntentRow} {eventType : String}
    (hstate : row.state = .intentCreated) : createSubmittingIntent db row eventType = .ok db' ↔
      (∀ risk, row.initialRiskUsdt = some risk → 0 < risk) ∧ (∀ r ∈ db.intents, r.intentId ≠ row.intentId) ∧
        db' = ({ db with intents := db.intents ++ [row.submitting] } : Database).appendEvent row.intentId "INTENT" eventType
          (statePayload [] row.state.value V2IntentState.exchangeSubmitting.value (row.version + 1)) := by
  unfold createSubmittingIntent
  simp only [Loops.bind_eq_ok, createIntent_eq_ok, transitionIntent_eq_ok]
  constructor
  · rintro ⟨_, ⟨hrisk, hfresh, rfl⟩, r, hr, -, -, rfl⟩
    have hget : Table.get IntentRow.intentId (db.intents ++ [row]) row.intentId = some row :=
      Table.get_append_singleton hfresh
    obtain rfl : row = r := Option.some.inj (hget.symm.trans hr)
    refine ⟨hrisk, hfresh, ?_⟩
    unfold Database.modifyIntent
    rw [Table.modify_append_singleton hfresh]
    rfl
  · rintro ⟨hrisk, hfresh, rfl⟩
    have hget : Table.get IntentRow.intentId (db.intents ++ [row]) row.intentId = some row :=
      Table.get_append_singleton hfresh
    refine ⟨_, ⟨hrisk, hfresh, rfl⟩, row, hget, hstate, .inr (by decide), ?_⟩
    unfold Database.modifyIntent
    rw [Table.modify_append_singleton hfresh]
    rfl

/-! ## Orders and fills -/

theorem saveOrderSubmission_eq_ok {intentId clientOrderId orderRecordId : String} {quantity : ℚ}
    {leverage : ℤ} : saveOrderSubmission db intentId clientOrderId quantity leverage = .ok (orderRecordId, db') ↔
      orderRecordId = db.uuids db.drawn ∧ (∀ o ∈ db.orders, o.orderRecordId ≠ orderRecordId) ∧
        (∀ o ∈ db.orders, o.clientOrderId ≠ clientOrderId) ∧ 0 < quantity ∧ 0 < leverage ∧
        db' = { db with
          drawn := db.drawn + 1, orders := db.orders ++ [{ orderRecordId, intentId, clientOrderId, quantity, leverage }] } := by
  unfold saveOrderSubmission
  simp only [Loops.bind_eq_ok, insertOrder_eq_ok, Database.uuid4, pure, Except.pure, Except.ok.injEq, Prod.mk.injEq]
  constructor
  · rintro ⟨_, ⟨hrecord, hclient, hquantity, hleverage, rfl⟩, rfl, rfl⟩
    exact ⟨rfl, hrecord, hclient, hquantity, hleverage, rfl⟩
  · rintro ⟨rfl, hrecord, hclient, hquantity, hleverage, rfl⟩
    exact ⟨_, ⟨hrecord, hclient, hquantity, hleverage, rfl⟩, rfl, rfl⟩

/-- The rows of the orders with the exchange id of one of them set. -/
def Database.receipted (db : Database) (orderRecordId exchangeOrderId : String) : Database :=
  { db with
    orders := Table.modify OrderRow.orderRecordId db.orders orderRecordId
      fun o => { o with exchangeOrderId := some exchangeOrderId } }

theorem saveExchangeOrderReceipt_eq_ok {db db' : Database} {orderRecordId exchangeOrderId : String} :
    saveExchangeOrderReceipt db orderRecordId exchangeOrderId = .ok db' ↔
      (∃ o, db.order orderRecordId = some o) ∧ exchangeOrderId ≠ "" ∧
        (∀ o ∈ db.orders, o.orderRecordId = orderRecordId ∨ o.exchangeOrderId ≠ some exchangeOrderId) ∧
        db' = db.receipted orderRecordId exchangeOrderId := by
  unfold saveExchangeOrderReceipt
  cases horder : db.order orderRecordId with
  | none => simp
  | some o =>
    by_cases hempty : exchangeOrderId = ""
    · simp [hempty]
    · simp [hempty, setExchangeOrderId_eq_ok, Database.receipted]

/-- The row of a fill receipt. -/
def FillReceipt.row (r : FillReceipt) (fillId : String) : FillRow :=
  { fillId, intentId := r.intentId, exchangeOrderRecordId := r.exchangeOrderRecordId, accountId := r.accountId,
    exchangeOrderId := r.exchangeOrderId, tradeId := r.tradeId, fillSource := r.fillSource, symbol := r.symbol,
    side := r.side, reduceOnly := r.reduceOnly, filledQuantity := r.filledQuantity, fillPrice := r.fillPrice,
    commission := r.commission }

/-- The database with a fill of a receipt added. -/
def Database.filled (db : Database) (r : FillReceipt) : Database :=
  { db with drawn := db.drawn + 1, fills := db.fills ++ [r.row (db.uuids db.drawn)] }

/-- What a new fill needs of the fills. -/
structure FillReceipt.Fits (r : FillReceipt) (db : Database) : Prop where
  id : ∀ f ∈ db.fills, f.fillId ≠ db.uuids db.drawn
  trade : ∀ f ∈ db.fills, f.tradeId = none ∨ f.accountId ≠ r.accountId ∨ f.tradeId ≠ r.tradeId
  quantity : 0 < r.filledQuantity
  price : 0 < r.fillPrice

theorem saveExchangeFillReceipt_eq_ok {db db' : Database} {r : FillReceipt} :
    saveExchangeFillReceipt db r = .ok db' ↔
      ∃ o db₁, db.order r.exchangeOrderRecordId = some o ∧ o.intentId = r.intentId ∧
        (∀ id, o.acknowledgedId = some id → id = r.exchangeOrderId) ∧ db.completeOrder o r.exchangeOrderId = .ok db₁ ∧
        r.Fits db₁ ∧ db' = db₁.filled r := by
  unfold saveExchangeFillReceipt
  cases horder : db.order r.exchangeOrderRecordId with
  | none => simp
  | some o =>
    by_cases hintent : o.intentId = r.intentId
    · by_cases hid : ∀ id, o.acknowledgedId = some id → id = r.exchangeOrderId
      · have hany : (o.acknowledgedId.any fun id => decide (id ≠ r.exchangeOrderId)) = false := by
          cases hack : o.acknowledgedId with
          | none => rfl
          | some id => simp [hid id hack]
        simp only [hintent, ne_eq, not_true_eq_false, if_false, hany, Bool.false_eq_true, Loops.bind_eq_ok, Database.uuid4,
          insertFill_eq_ok]
        constructor
        · rintro ⟨db₁, hcomplete, hfill, htrade, hquantity, hprice, rfl⟩
          exact ⟨o, db₁, rfl, hintent, hid, hcomplete, ⟨hfill, htrade, hquantity, hprice⟩, rfl⟩
        · rintro ⟨_, db₁, ho, -, -, hcomplete, hfits, rfl⟩
          cases ho
          exact ⟨db₁, hcomplete, hfits.id, hfits.trade, hfits.quantity, hfits.price, rfl⟩
      · obtain ⟨id, hack, hne⟩ : ∃ id, o.acknowledgedId = some id ∧ id ≠ r.exchangeOrderId := by
          simpa only [not_forall, exists_prop] using hid
        simp [hintent, hack, hne]
    · simp [hintent]

end TradingPlatform
