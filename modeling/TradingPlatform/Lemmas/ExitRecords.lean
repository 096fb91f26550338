import TradingPlatform.Lemmas.FillRecords

/-!
# The records of an exit

`persistExitResult` is three transactions. The first writes the exit intent and its order, the second the acknowledgement, the
third the fills and all that follows from them. Each is described by the rows it needs and the rows it leaves; repeated on what
it left, the first and the second write nothing.
-/

namespace TradingPlatform

/-! ## The intent and its order -/

/-- The position, the exit intent and the exit order are recorded: the first transaction has nothing left to write. -/
structure ExitPrepared (db : Database) (cycleId positionId clientOrderId : String) (p : PositionRow) (r : IntentRow)
    (o : OrderRow) : Prop where
  position : db.position positionId = some p
  entryIntent : ∃ e, db.intent p.intentId = some e
  entryOrder : ∃ e, db.order p.orderRecordId = some e
  cycle : ∃ c ∈ db.cycles, c.cycleId = cycleId
  intent : db.intent (exitIntentId clientOrderId) = some r
  order : db.orderOfClientId clientOrderId = some o
  owner : o.intentId = exitIntentId clientOrderId

/-- What the tables promise of the position an exit is for: its entry is recorded, a client id of an exit is of its exit
intent, and the token of a cycle is its own. -/
structure ExitGrounds (db : Database) (cycleId fencingToken clientOrderId : String) (p : PositionRow) : Prop where
  entryIntent : ∃ e, db.intent p.intentId = some e
  entryOrder : ∃ e, db.order p.orderRecordId = some e ∧ 0 < e.leverage
  cycle : (∃ c ∈ db.cycles, c.cycleId = cycleId) ∨ ∀ c ∈ db.cycles, c.fencingToken ≠ fencingToken
  owner : ∀ o ∈ db.orders, o.clientOrderId = clientOrderId → o.intentId = exitIntentId clientOrderId
  orderRecords : (db.orders.map OrderRow.orderRecordId).Nodup
  freshIds : db.FreshIds

theorem exitSubject_eq_ok {db : Database} {positionId : String} {p : PositionRow} {e : IntentRow} {o : OrderRow} :
    exitSubject db positionId = .ok (p, e, o) ↔
      db.position positionId = some p ∧ db.intent p.intentId = some e ∧ db.order p.orderRecordId = some o := by
  constructor
  · intro h
    unfold exitSubject at h
    split at h
    · nomatch h
    · rename_i p' hp
      split at h
      · nomatch h
      · rename_i e' he
        split at h
        · nomatch h
        · rename_i o' ho
          obtain ⟨rfl, rfl, rfl⟩ : p' = p ∧ e' = e ∧ o' = o := by simpa using h
          exact ⟨hp, he, ho⟩
  · rintro ⟨hp, he, ho⟩
    unfold exitSubject
    simp only [hp, he, ho]

/-- Repeated on prepared records the first transaction writes nothing. -/
theorem persistExitIntentBeforeSubmission_prepared {db : Database} {a : ExitIdentity} {p : PositionRow} {r : IntentRow}
    {o : OrderRow} (h : ExitPrepared db a.cycleId a.positionId a.clientOrderId p r o) (hquantity : 0 < a.requestedQuantity) :
    persistExitIntentBeforeSubmission db a = .ok db := by
  obtain ⟨e, he⟩ := h.entryIntent
  obtain ⟨eo, heo⟩ := h.entryOrder
  obtain ⟨c, hc, hcycle⟩ := h.cycle
  have hany : (db.cycles.any fun c => decide (c.cycleId = a.cycleId)) = true :=
    List.any_eq_true.mpr ⟨c, hc, decide_eq_true hcycle⟩
  unfold persistExitIntentBeforeSubmission
  rw [if_neg (not_le.mpr hquantity), exitSubject_eq_ok.mpr ⟨h.position, he, heo⟩]
  simp only [bind, Except.bind, ensureCycle, hany, if_true, ensureExitIntent, h.intent, ensureExitOrder, h.order, h.owner,
    ne_eq, not_true_eq_false, if_false]

/-- What the first transaction leaves of the intent: the one that was there, or a submitted one. -/
def Database.exitIntentState (db : Database) (clientOrderId : String) : V2IntentState :=
  (db.intent (exitIntentId clientOrderId)).elim .exchangeSubmitting (·.state)

/-- The orders after the first transaction: as before, or with one more that the exchange has not acknowledged. -/
def ExitOrderAdded (clientOrderId : String) (db db' : Database) : Prop :=
  db'.orders = db.orders ∨ (db.orderOfClientId clientOrderId = none ∧
    ∃ o, o.exchangeOrderId = none ∧ o.clientOrderId = clientOrderId ∧ db'.orders = db.orders ++ [o])

/-- The cycle of an operation is recorded afterwards, if its token is of no other cycle. -/
theorem ensureCycle_returns {db : Database} {cycleId fencingToken : String}
    (h : (∃ c ∈ db.cycles, c.cycleId = cycleId) ∨ ∀ c ∈ db.cycles, c.fencingToken ≠ fencingToken) :
    ∃ db', ensureCycle db cycleId fencingToken = .ok db' ∧ ∃ c ∈ db'.cycles, c.cycleId = cycleId := by
  unfold ensureCycle
  by_cases hany : ∃ c ∈ db.cycles, c.cycleId = cycleId
  · obtain ⟨c, hc, hid⟩ := hany
    rw [if_pos (List.any_eq_true.mpr ⟨c, hc, decide_eq_true hid⟩)]
    exact ⟨db, rfl, c, hc, hid⟩
  · have hnone : ¬(db.cycles.any fun c => decide (c.cycleId = cycleId)) = true := by
      intro hsome
      obtain ⟨c, hc, hid⟩ := List.any_eq_true.mp hsome
      exact hany ⟨c, hc, of_decide_eq_true hid⟩
    rw [if_neg hnone]
    have htoken := h.resolve_left hany
    refine ⟨_, insertCycle_eq_ok.mpr ⟨fun c hc hid => hany ⟨c, hc, hid⟩, htoken, rfl⟩, ⟨cycleId, fencingToken⟩, ?_, rfl⟩
    exact List.mem_concat_self

/-- The first transaction returns, and the records of the exit are prepared. -/
theorem persistExitIntentBeforeSubmission_prepares {db : Database} {a : ExitIdentity} {p : PositionRow}
    (hp : db.position a.positionId = some p) (hg : ExitGrounds db a.cycleId a.fencingToken a.clientOrderId p)
    (hquantity : 0 < a.requestedQuantity) :
    ∃ db' r o, persistExitIntentBeforeSubmission db a = .ok db' ∧
      ExitPrepared db' a.cycleId a.positionId a.clientOrderId p r o ∧ r.state = db.exitIntentState a.clientOrderId ∧
      Touches [.cycles, .intents, .orders] db db' ∧ ExitOrderAdded a.clientOrderId db db' ∧
      (db'.orders.map OrderRow.orderRecordId).Nodup ∧ db'.FreshIds := by
  obtain ⟨e, he⟩ := hg.entryIntent
  obtain ⟨eo, heo, hleverage⟩ := hg.entryOrder
  -- the cycle
  obtain ⟨db₁, hcycle, hrecorded⟩ := ensureCycle_returns hg.cycle
  have ht₁ := ensureCycle_touches hcycle
  -- the intent
  have hintent₁ : db₁.intent (exitIntentId a.clientOrderId) = db.intent (exitIntentId a.clientOrderId) := by
    unfold Database.intent
    rw [(ht₁.intents (by decide))]
  obtain ⟨db₂, r, hensure, hr, hstate, hgrown⟩ : ∃ db₂ r, ensureExitIntent db₁ a p e.candidateType = .ok db₂ ∧
      db₂.intent (exitIntentId a.clientOrderId) = some r ∧ r.state = db.exitIntentState a.clientOrderId ∧
      ∃ added, db₂.intents = db₁.intents ++ added := by
    unfold ensureExitIntent Database.exitIntentState
    rw [hintent₁]
    cases hold : db.intent (exitIntentId a.clientOrderId) with
    | some r => exact ⟨db₁, r, rfl, hintent₁.trans hold, rfl, [], by simp⟩
    | none =>
      have hfresh : ∀ r ∈ db₁.intents, r.intentId ≠ (a.intentRow p e.candidateType).intentId :=
        Table.get_none.mp (hintent₁.trans hold)
      have hnone : (a.intentRow p e.candidateType).initialRiskUsdt = none := rfl
      have hrisk : ∀ risk, (a.intentRow p e.candidateType).initialRiskUsdt = some risk → 0 < risk := by
        rw [hnone]
        nofun
      have hcreate : createSubmittingIntent db₁ (a.intentRow p e.candidateType) "ExitSubmitting" = .ok _ :=
        (createSubmittingIntent_eq_ok rfl).mpr ⟨hrisk, hfresh, rfl⟩
      have hget : Table.get IntentRow.intentId (db₁.intents ++ [(a.intentRow p e.candidateType).submitting])
          (exitIntentId a.clientOrderId) = some (a.intentRow p e.candidateType).submitting :=
        Table.get_append_singleton hfresh
      exact ⟨_, _, hcreate, hget, rfl, [_], rfl⟩
  have ht₂ := ensureExitIntent_touches hensure
  -- the order
  have horders₂ : db₂.orders = db.orders := (ht₂.orders (by decide)).trans (ht₁.orders (by decide))
  have hdrawn₂ : db.drawn ≤ db₂.drawn := ht₁.drawn.trans ht₂.drawn
  have huuids₂ : db₂.uuids = db.uuids := ht₂.uuids.trans ht₁.uuids
  have hfills₂ : db₂.fills = db.fills := (ht₂.fills (by decide)).trans (ht₁.fills (by decide))
  have hfresh₂ : db₂.FreshIds := hg.freshIds.mono huuids₂ hdrawn₂ (fun o ho => ⟨o, horders₂ ▸ ho, rfl⟩) hfills₂
  obtain ⟨db₃, o, horder, ho, howner, hadded, hnodup, hfresh₃⟩ : ∃ db₃ o, ensureExitOrder db₂ a eo.leverage = .ok db₃ ∧
      db₃.orderOfClientId a.clientOrderId = some o ∧ o.intentId = exitIntentId a.clientOrderId ∧
      ExitOrderAdded a.clientOrderId db db₃ ∧ (db₃.orders.map OrderRow.orderRecordId).Nodup ∧ db₃.FreshIds := by
    unfold ensureExitOrder
    cases hold : db₂.orderOfClientId a.clientOrderId with
    | some o =>
      have howns : o.intentId = exitIntentId a.clientOrderId := by
        obtain ⟨hmem, hid⟩ := Table.get_some hold
        exact hg.owner o (horders₂ ▸ hmem) hid
      simp only [howns, ne_eq, not_true_eq_false, if_false]
      exact ⟨db₂, o, rfl, hold, howns, .inl horders₂, horders₂ ▸ hg.orderRecords, hfresh₂⟩
    | none =>
      have hclient : ∀ o ∈ db₂.orders, o.clientOrderId ≠ a.clientOrderId := Table.get_none.mp hold
      have hrecord : ∀ o ∈ db₂.orders, o.orderRecordId ≠ db₂.uuids db₂.drawn := fun o ho =>
        hfresh₂.orders o ho db₂.drawn (le_refl _)
      have hsave : saveOrderSubmission db₂ (exitIntentId a.clientOrderId) a.clientOrderId a.requestedQuantity eo.leverage =
          .ok (db₂.uuids db₂.drawn, _) :=
        saveOrderSubmission_eq_ok.mpr ⟨rfl, hrecord, hclient, hquantity, hleverage, rfl⟩
      simp only [hsave, bind, Except.bind, pure, Except.pure]
      have hget : ∀ o : OrderRow, o.clientOrderId = a.clientOrderId →
          Table.get OrderRow.clientOrderId (db₂.orders ++ [o]) a.clientOrderId = some o := by
        rintro o hid
        rw [← hid]
        exact Table.get_append_singleton (hid ▸ hclient)
      refine ⟨_, _, rfl, hget _ rfl, rfl, .inr ⟨?_, _, rfl, rfl, by rw [horders₂]⟩, ?_, ?_⟩
      · unfold Database.orderOfClientId at hold ⊢
        rw [← horders₂]
        exact hold
      · rw [List.map_append, List.nodup_append]
        refine ⟨horders₂ ▸ hg.orderRecords, by simp, fun id hid id' hid' heq => ?_⟩
        obtain ⟨o, ho, rfl⟩ := List.mem_map.mp hid
        obtain rfl : id' = db₂.uuids db₂.drawn := by simpa using hid'
        exact hrecord o ho heq
      · refine ⟨fun m n hm hn => hfresh₂.distinct m n (Nat.le_of_succ_le hm) hn, fun o ho n hn => ?_,
          fun f hf n hn => hfresh₂.fills f hf n (Nat.le_of_succ_le hn)⟩
        rcases List.mem_append.mp ho with ho | ho
        · exact hfresh₂.orders o ho n (Nat.le_of_succ_le hn)
        · obtain rfl := List.mem_singleton.mp ho
          exact hfresh₂.distinct db₂.drawn n (le_refl _) hn
  have ht₃ := ensureExitOrder_touches horder
  refine ⟨db₃, r, o, ?_, ⟨?_, ?_, ?_, ?_, ?_, ho, howner⟩, hstate, ?_, hadded, hnodup, hfresh₃⟩
  · unfold persistExitIntentBeforeSubmission
    rw [if_neg (not_le.mpr hquantity), exitSubject_eq_ok.mpr ⟨hp, he, heo⟩]
    simp only [bind, Except.bind, hcycle, hensure]
    exact horder
  · unfold Database.position
    rw [(ht₃.positions (by decide)), (ht₂.positions (by decide)), (ht₁.positions (by decide))]
    exact hp
  · obtain ⟨added, hgrown⟩ := hgrown
    refine ⟨e, ?_⟩
    unfold Database.intent at he ⊢
    rw [(ht₃.intents (by decide)), hgrown, (ht₁.intents (by decide))]
    exact Table.get_append_of_some he
  · refine ⟨eo, ?_⟩
    unfold Database.order at heo ⊢
    rcases hadded with hsame | ⟨-, o', -, -, hmore⟩
    · rw [hsame]
      exact heo
    · rw [hmore]
      exact Table.get_append_of_some heo
  · rw [(ht₃.cycles (by decide)), (ht₂.cycles (by decide))]
    exact hrecorded
  · unfold Database.intent at hr ⊢
    rw [(ht₃.intents (by decide))]
    exact hr
  · exact ((ht₁.mono (by decide)).trans (ht₂.mono (by decide))).trans (ht₃.mono (by decide))

/-! ## The acknowledgement -/

/-- The row of an intent once its order is known to the exchange. -/
def IntentRow.acked (r : IntentRow) : IntentRow :=
  if r.state = .exchangeSubmitting ∨ r.state = .exchangeUnknown then
    { r with state := .exchangeAcknowledged, version := r.version + 1 }
  else r

/-- The row of a position once its exit is acknowledged. -/
def PositionRow.startedReducing (p : PositionRow) : PositionRow :=
  if p.state = .positionProjected ∨ p.state = .isProtected then { p with state := .reducing, version := p.version + 1 } else p

theorem PositionRow.startedReducing_facts (p : PositionRow) :
    p.startedReducing.positionId = p.positionId ∧ p.startedReducing.intentId = p.intentId ∧
      p.startedReducing.orderRecordId = p.orderRecordId ∧ p.startedReducing.quantity = p.quantity ∧
      p.startedReducing.realizedPnl = p.realizedPnl ∧ p.startedReducing.entryPrice = p.entryPrice ∧
      p.startedReducing.entryFee = p.entryFee ∧ p.startedReducing.direction = p.direction ∧
      p.startedReducing.symbol = p.symbol := by
  unfold PositionRow.startedReducing
  split <;> exact ⟨rfl, rfl, rfl, rfl, rfl, rfl, rfl, rfl, rfl⟩

/-- A position that is not terminal is reducing, any other is as it was. -/
theorem PositionRow.startedReducing_state (p : PositionRow) :
    p.startedReducing.state = if p.isOpen then .reducing else p.state := by
  unfold PositionRow.startedReducing PositionRow.isOpen
  cases hstate : p.state <;> simp [hstate]

theorem PositionRow.startedReducing_quarantined (p : PositionRow) :
    p.startedReducing.state = .quarantined ↔ p.state = .quarantined := by
  rw [p.startedReducing_state]
  unfold PositionRow.isOpen
  cases hstate : p.state <;> simp

theorem PositionRow.startedReducing_closed (p : PositionRow) : p.startedReducing.state = .closed ↔ p.state = .closed := by
  rw [p.startedReducing_state]
  unfold PositionRow.isOpen
  cases hstate : p.state <;> simp

theorem acknowledgeIntent_acks {db : Database} {id : String} {r : IntentRow} (hr : db.intent id = some r) (eventType : String) :
    ∃ db', acknowledgeIntent db id r.state eventType = .ok db' ∧ Touches [.intents] db db' ∧ db'.drawn = db.drawn ∧
      db'.intent id = some r.acked ∧ ∀ id', id' ≠ id → db'.intent id' = db.intent id' := by
  unfold acknowledgeIntent IntentRow.acked
  by_cases hstate : r.state = .exchangeSubmitting ∨ r.state = .exchangeUnknown
  · have hlegal : V2IntentState.exchangeAcknowledged ∈ legalIntentTransitions r.state := by
      rcases hstate with hs | hs <;> simp [hs, legalIntentTransitions]
    have hmove : transitionIntent db id r.state .exchangeAcknowledged eventType = .ok _ :=
      transitionIntent_eq_ok.mpr ⟨r, hr, rfl, .inr hlegal, rfl⟩
    rw [if_pos hstate, if_pos hstate]
    refine ⟨_, hmove, transitionIntent_touches hmove, rfl, ?_, fun id' hne => ?_⟩
    · have hget : (db.modifyIntent id fun r => { r with state := .exchangeAcknowledged, version := r.version + 1 }).intent id =
          (db.intent id).map _ := Database.intent_modifyIntent fun _ => rfl
      rw [hr] at hget
      exact hget
    · exact Table.get_modify_other (fun _ => rfl) hne
  · rw [if_neg hstate, if_neg hstate]
    exact ⟨db, rfl, Touches.refl _ _, rfl, hr, fun _ _ => rfl⟩

theorem startReducing_starts {db : Database} {id : String} {p : PositionRow} (hp : db.position id = some p) :
    ∃ db', startReducing db p = .ok db' ∧ Touches [.positions] db db' ∧ db'.drawn = db.drawn ∧
      db'.position id = some p.startedReducing := by
  obtain ⟨-, rfl⟩ := Table.get_some hp
  unfold startReducing PositionRow.startedReducing
  by_cases hstate : p.state = .positionProjected ∨ p.state = .isProtected
  · have hlegal : V2PositionState.reducing ∈ legalPositionTransitions p.state := by
      rcases hstate with hs | hs <;> simp [hs, legalPositionTransitions]
    rw [if_pos hstate, if_pos hstate]
    have hmove : transitionPosition db p.positionId p.state .reducing "PositionReducing" = .ok _ :=
      transitionPosition_eq_ok.mpr ⟨p, hp, rfl, .inr hlegal, rfl⟩
    refine ⟨_, hmove, transitionPosition_touches hmove, rfl, ?_⟩
    have hget : Table.get PositionRow.positionId (Table.modify PositionRow.positionId db.positions p.positionId
        fun p => { p with state := .reducing, version := p.version + 1 }) p.positionId =
          (db.position p.positionId).map fun p => { p with state := .reducing, version := p.version + 1 } :=
      Table.get_modify_self fun _ => rfl
    rw [hp] at hget
    exact hget
  · rw [if_neg hstate, if_neg hstate]
    exact ⟨db, rfl, Touches.refl _ _, rfl, hp⟩

/-- The exchange id of an exit is of no other order. -/
def Database.ExchangeIdOf (db : Database) (o : OrderRow) (exchangeOrderId : String) : Prop :=
  ∀ o' ∈ db.orders, o'.exchangeOrderId = some exchangeOrderId → o'.orderRecordId = o.orderRecordId

/-- A result that reports a fill. -/
structure ExitExecutionResult.Reports (result : ExitExecutionResult) (exchangeOrderId : String) : Prop where
  status : result.status = .closed ∨ result.status = .partiallyReduced
  orderId : result.exchangeOrderId = some exchangeOrderId
  nonempty : exchangeOrderId ≠ ""

section Acknowledgement

variable {db : Database} {cycleId positionId exchangeOrderId : String} {result : ExitExecutionResult} {p : PositionRow}
  {r : IntentRow} {o : OrderRow}

/-- An order gets the exchange id that no other order has. -/
theorem saveExchangeOrderReceipt_receipts {db : Database} {o : OrderRow} {exchangeOrderId : String} (ho : o ∈ db.orders)
    (hnonempty : exchangeOrderId ≠ "") (hunique : db.ExchangeIdOf o exchangeOrderId) :
    saveExchangeOrderReceipt db o.orderRecordId exchangeOrderId = .ok (db.receipted o.orderRecordId exchangeOrderId) := by
  have horder : ∃ o', db.order o.orderRecordId = some o' := by
    cases hget : db.order o.orderRecordId with
    | none => exact absurd rfl (Table.get_none.mp hget o ho)
    | some o' => exact ⟨o', rfl⟩
  refine saveExchangeOrderReceipt_eq_ok.mpr ⟨horder, hnonempty, fun o' ho' => ?_, rfl⟩
  by_cases hid : o'.exchangeOrderId = some exchangeOrderId
  · exact .inl (hunique o' ho' hid)
  · exact .inr hid

/-- The second transaction of a reported fill, stage by stage. -/
theorem persistExitSubmissionResult_eq (h : ExitPrepared db cycleId positionId result.clientOrderId p r o)
    (hresult : result.Reports exchangeOrderId) :
    persistExitSubmissionResult db positionId result = (do
      let db ← saveExchangeOrderReceipt db o.orderRecordId exchangeOrderId
      let db ← acknowledgeIntent db (exitIntentId result.clientOrderId) r.state "ExitAcknowledged"
      startReducing db p) := by
  have hgiven : given (some exchangeOrderId) = true := by simp [given, hresult.nonempty]
  unfold persistExitSubmissionResult
  simp only [h.position, h.intent, h.order]
  rcases hresult.status with hs | hs
  · simp only [hs, hresult.orderId, hgiven, if_true, Option.getD_some]
  · simp only [hs, hresult.orderId, hgiven, if_true, Option.getD_some]

/-- The second transaction of a reported fill returns: the order has its exchange id, the intent is acknowledged and the
position reducing. -/
theorem persistExitSubmissionResult_acks (h : ExitPrepared db cycleId positionId result.clientOrderId p r o)
    (hresult : result.Reports exchangeOrderId) (hunique : db.ExchangeIdOf o exchangeOrderId) :
    ∃ db', persistExitSubmissionResult db positionId result = .ok db' ∧
      ExitPrepared db' cycleId positionId result.clientOrderId p.startedReducing r.acked
        { o with exchangeOrderId := some exchangeOrderId } ∧
      Touches [.intents, .orders, .positions] db db' ∧ db'.drawn = db.drawn ∧
      db'.orders = (db.receipted o.orderRecordId exchangeOrderId).orders := by
  have hreceipt := saveExchangeOrderReceipt_receipts (Table.get_some h.order).1 hresult.nonempty hunique
  have ht₁ := receipted_touches db o.orderRecordId exchangeOrderId
  have hintent₁ : (db.receipted o.orderRecordId exchangeOrderId).intent (exitIntentId result.clientOrderId) = some r := h.intent
  obtain ⟨db₂, hack, ht₂, hdrawn₂, hr₂, hother⟩ := acknowledgeIntent_acks hintent₁ "ExitAcknowledged"
  have hp₂ : db₂.position positionId = some p := by
    unfold Database.position
    rw [(ht₂.positions (by decide))]
    exact h.position
  obtain ⟨db₃, hstart, ht₃, hdrawn₃, hp₃⟩ := startReducing_starts hp₂
  have horders₃ : db₃.orders = (db.receipted o.orderRecordId exchangeOrderId).orders := (ht₃.orders (by decide)).trans
      (ht₂.orders (by decide))
  obtain ⟨-, hintentId, horderId, -⟩ := p.startedReducing_facts
  refine ⟨db₃, ?_, ⟨hp₃, ?_, ?_, ?_, ?_, ?_, h.owner⟩, ?_, ?_, horders₃⟩
  · rw [persistExitSubmissionResult_eq h hresult, hreceipt]
    simp only [bind, Except.bind, hack]
    exact hstart
  · obtain ⟨e, he⟩ := h.entryIntent
    unfold Database.intent
    rw [hintentId, (ht₃.intents (by decide))]
    by_cases hsame : p.intentId = exitIntentId result.clientOrderId
    · exact ⟨r.acked, hsame ▸ hr₂⟩
    · exact ⟨e, (hother p.intentId hsame).trans he⟩
  · obtain ⟨e, he⟩ := h.entryOrder
    unfold Database.order
    rw [horderId, horders₃]
    have hget : Table.get OrderRow.orderRecordId (db.receipted o.orderRecordId exchangeOrderId).orders p.orderRecordId =
        (db.order p.orderRecordId).map _ := Table.get_modify fun _ => rfl
    rw [he] at hget
    exact ⟨_, hget⟩
  · rw [(ht₃.cycles (by decide)), (ht₂.cycles (by decide))]
    exact h.cycle
  · unfold Database.intent
    rw [(ht₃.intents (by decide))]
    exact hr₂
  · have hget : Table.get OrderRow.clientOrderId (db.receipted o.orderRecordId exchangeOrderId).orders result.clientOrderId =
        (db.orderOfClientId result.clientOrderId).map _ := Table.get_modify fun _ => rfl
    unfold Database.orderOfClientId
    rw [horders₃, hget, h.order, Option.map_some, if_pos rfl]
  · exact ((ht₁.mono (by decide)).trans (ht₂.mono (by decide))).trans (ht₃.mono (by decide))
  · exact hdrawn₃.trans hdrawn₂

/-- Repeated on what it left the second transaction writes nothing. -/
theorem persistExitSubmissionResult_again (h : ExitPrepared db cycleId positionId result.clientOrderId p r o)
    (hresult : result.Reports exchangeOrderId) (hnodup : (db.orders.map OrderRow.orderRecordId).Nodup)
    (hunique : db.ExchangeIdOf o exchangeOrderId) (ho : o.exchangeOrderId = some exchangeOrderId) (hr : r.acked = r)
    (hp : p.startedReducing = p) : persistExitSubmissionResult db positionId result = .ok db := by
  obtain ⟨hmem, -⟩ := Table.get_some h.order
  have horder : db.order o.orderRecordId = some o := Table.get_of_mem hnodup hmem
  have hsame : db.receipted o.orderRecordId exchangeOrderId = db := by
    unfold Database.receipted
    rw [Table.modify_eq_self fun o' ho' hid => ?_]
    obtain rfl := Table.eq_of_get hnodup horder ho' hid
    rw [← ho]
  have hreceipt := saveExchangeOrderReceipt_receipts hmem hresult.nonempty hunique
  rw [hsame] at hreceipt
  have hack : acknowledgeIntent db (exitIntentId result.clientOrderId) r.state "ExitAcknowledged" = .ok db := by
    unfold acknowledgeIntent
    rw [if_neg]
    intro hstate
    unfold IntentRow.acked at hr
    rw [if_pos hstate] at hr
    have hversion := congrArg IntentRow.version hr
    exact absurd hversion (Nat.succ_ne_self _)
  have hstart : startReducing db p = .ok db := by
    unfold startReducing
    rw [if_neg]
    intro hstate
    unfold PositionRow.startedReducing at hp
    rw [if_pos hstate] at hp
    have hversion := congrArg PositionRow.version hp
    exact absurd hversion (Nat.succ_ne_self _)
  rw [persistExitSubmissionResult_eq h hresult, hreceipt]
  simp only [bind, Except.bind, hack]
  exact hstart

end Acknowledgement

/-! ## The protections of an exited position -/

/-- The row of a protection after the exit of its position: triggered and filled if its order did it, cancelled if the position
is closed. -/
def ProtectionRow.settled (a : ExitFacts) (r : ProtectionRow) : ProtectionRow :=
  if a.triggers r && decide (r.state = .protectionActive) then
    { r with state := .protectionFilled, version := r.version + 2 }
  else if a.triggers r && decide (r.state = .protectionTriggered) then
    { r with state := .protectionFilled, version := r.version + 1 }
  else if decide (a.result.status = .closed) && r.state.cancellable then
    { r with state := .protectionCancelled, version := r.version + 1 }
  else r

theorem ProtectionRow.settled_id (a : ExitFacts) (r : ProtectionRow) : (r.settled a).protectionId = r.protectionId := by
  unfold ProtectionRow.settled
  split
  · rfl
  · split
    · rfl
    · split <;> rfl

section Settlement

variable {db : Database} {a : ExitFacts}

/-- A transition of the row that is read. -/
theorem transitionProtection_moves {id : String} {r : ProtectionRow} (hr : db.protection id = some r)
    (current next : V2ProtectionState) (hstate : r.state = current) (hlegal : next ∈ legalProtectionTransitions current) (hactive : next ≠ .protectionActive) (eventType : String) :
    ∃ db', transitionProtection db id current next eventType = .ok db' ∧
      db'.protections = Table.modify ProtectionRow.protectionId db.protections id
        (fun p => { p with state := next, version := p.version + 1 }) ∧
      db'.protection id = some { r with state := next, version := r.version + 1 } := by
  have hmove : transitionProtection db id current next eventType = .ok _ :=
    transitionProtection_eq_ok.mpr ⟨r, hr, hstate, .inr hlegal, fun h => absurd h hactive, rfl⟩
  refine ⟨_, hmove, rfl, ?_⟩
  have hget : Table.get ProtectionRow.protectionId (Table.modify ProtectionRow.protectionId db.protections id
      fun p => { p with state := next, version := p.version + 1 }) id =
        (db.protection id).map fun p => { p with state := next, version := p.version + 1 } :=
    Table.get_modify_self fun _ => rfl
  rw [hr] at hget
  exact hget

/-- The settlement of one protection never raises: every move it makes is in the table. -/
theorem settleExitedProtection_settles {r : ProtectionRow} (hnodup : (db.protections.map ProtectionRow.protectionId).Nodup)
    (hr : db.protection r.protectionId = some r) :
    ∃ db', settleExitedProtection a db r = .ok db' ∧
      db'.protections = Table.modify ProtectionRow.protectionId db.protections r.protectionId (ProtectionRow.settled a) := by
  have hrow : ∀ p ∈ db.protections, p.protectionId = r.protectionId → p = r := fun p hp hid =>
    Table.eq_of_get hnodup hr hp hid
  unfold settleExitedProtection triggerProtection
  by_cases htriggered : (a.triggers r && decide (r.state = .protectionActive)) = true
  · -- an active protection is triggered first and then filled
    obtain ⟨htriggers, hactive⟩ := Bool.and_eq_true_iff.mp htriggered
    have hactive := of_decide_eq_true hactive
    obtain ⟨db₁, hfirst, hrows₁, hr₁⟩ := transitionProtection_moves hr .protectionActive .protectionTriggered
        hactive (by decide) (by decide)
      "ProtectionTriggered"
    obtain ⟨db₂, hsecond, hrows₂, -⟩ := transitionProtection_moves hr₁ .protectionTriggered .protectionFilled
        rfl (by decide) (by decide)
      "ProtectionFilled"
    refine ⟨db₂, ?_, ?_⟩
    · rw [if_pos htriggered]
      simp only [bind, Except.bind, hfirst, pure, Except.pure, htriggers, decide_true, Bool.true_and, if_true]
      exact hsecond
    · rw [hrows₂, hrows₁]
      refine Eq.trans (Table.modify_modify ?_) (Table.modify_congr fun p hp hid => ?_)
      · exact fun _ => rfl
      obtain rfl := hrow p hp hid
      unfold ProtectionRow.settled
      rw [if_pos htriggered]
      rfl
  · rw [Bool.not_eq_true] at htriggered
    simp only [htriggered, Bool.false_eq_true, if_false, bind, Except.bind]
    by_cases hfilled : (a.triggers r && decide (r.state = .protectionTriggered)) = true
    · obtain ⟨-, hstate⟩ := Bool.and_eq_true_iff.mp hfilled
      have hstate := of_decide_eq_true hstate
      obtain ⟨db₁, hmove, hrows, -⟩ := transitionProtection_moves hr .protectionTriggered .protectionFilled
          hstate (by decide) (by decide)
        "ProtectionFilled"
      rw [if_pos hfilled, hstate]
      refine ⟨db₁, hmove, hrows.trans (Table.modify_congr fun p hp hid => ?_)⟩
      obtain rfl := hrow p hp hid
      unfold ProtectionRow.settled
      rw [if_neg (by rw [htriggered]; decide), if_pos hfilled]
    · rw [if_neg hfilled]
      by_cases hcancelled : (decide (a.result.status = .closed) && r.state.cancellable) = true
      · obtain ⟨-, hstate⟩ := Bool.and_eq_true_iff.mp hcancelled
        have hlegal : V2ProtectionState.protectionCancelled ∈ legalProtectionTransitions r.state := by
          cases hs : r.state <;> rw [hs] at hstate <;> first | decide | cases hstate
        obtain ⟨db₁, hmove, hrows, -⟩ := transitionProtection_moves hr r.state .protectionCancelled rfl hlegal (by decide)
          "ProtectionCancelledAfterConfirmedExit"
        rw [if_pos hcancelled]
        refine ⟨db₁, hmove, hrows.trans (Table.modify_congr fun p hp hid => ?_)⟩
        obtain rfl := hrow p hp hid
        unfold ProtectionRow.settled
        rw [if_neg (by rw [htriggered]; decide), if_neg hfilled, if_pos hcancelled]
      · rw [if_neg hcancelled]
        refine ⟨db, rfl, (Table.modify_eq_self fun p hp hid => ?_).symm⟩
        obtain rfl := hrow p hp hid
        unfold ProtectionRow.settled
        rw [if_neg (by rw [htriggered]; decide), if_neg hfilled, if_neg hcancelled]

/-- The settlement of some of the rows: it never raises, and each of them is settled. -/
theorem settleExitedProtections_settle {l : List ProtectionRow} (hl : (l.map ProtectionRow.protectionId).Nodup)
    (hnodup : (db.protections.map ProtectionRow.protectionId).Nodup)
    (hread : ∀ r ∈ l, db.protection r.protectionId = some r) :
    ∃ db', l.foldlM (settleExitedProtection a) db = .ok db' ∧
      db'.protections = db.protections.map fun r => if r ∈ l then r.settled a else r := by
  induction l generalizing db with
  | nil => exact ⟨db, rfl, by simp⟩
  | cons r l ih =>
    rw [List.map_cons, List.nodup_cons] at hl
    have hr := hread r List.mem_cons_self
    obtain ⟨db₁, hstep, hrows⟩ := settleExitedProtection_settles (a := a) hnodup hr
    have hne : ∀ x ∈ l, x.protectionId ≠ r.protectionId := fun x hx heq => hl.1 (heq ▸ List.mem_map_of_mem hx)
    have hnodup₁ : (db₁.protections.map ProtectionRow.protectionId).Nodup := by
      rw [hrows, Table.map_modify (ProtectionRow.settled_id a)]
      exact hnodup
    have hread₁ : ∀ x ∈ l, db₁.protection x.protectionId = some x := by
      intro x hx
      unfold Database.protection
      rw [hrows, Table.get_modify_other (ProtectionRow.settled_id a) (hne x hx)]
      exact hread x (List.mem_cons_of_mem r hx)
    obtain ⟨db', hloop, hrows'⟩ := ih hl.2 hnodup₁ hread₁
    refine ⟨db', ?_, ?_⟩
    · rw [List.foldlM_cons, hstep]
      exact hloop
    · rw [hrows', hrows]
      unfold Table.modify
      rw [List.map_map]
      refine List.map_congr_left fun x hx => ?_
      by_cases hid : x.protectionId = r.protectionId
      · -- the row that was settled first is none of the others
        obtain rfl := Table.eq_of_get hnodup hr hx hid
        have hdone : x.settled a ∉ l := fun hmem => hne _ hmem (x.settled_id a)
        simp [hdone]
      · have hother : x ≠ r := fun heq => hid (heq ▸ rfl)
        simp [hid, hother]

/-- The settlement of all protections of a position. -/
theorem settleProtectionsOf_settle (hnodup : (db.protections.map ProtectionRow.protectionId).Nodup) (positionId : String) :
    ∃ db', (db.protectionsOf positionId).foldlM (settleExitedProtection a) db = .ok db' ∧
      db'.protections = db.protections.map fun r => if r.positionId = positionId then r.settled a else r := by
  have hsub : (db.protectionsOf positionId).Sublist db.protections := List.filter_sublist
  have hread : ∀ r ∈ db.protectionsOf positionId, db.protection r.protectionId = some r := fun r hr =>
    Table.get_of_mem hnodup (hsub.subset hr)
  obtain ⟨db', hloop, hrows⟩ := settleExitedProtections_settle (hnodup.sublist (hsub.map _)) hnodup hread
  refine ⟨db', hloop, hrows.trans (List.map_congr_left fun r hr => ?_)⟩
  have hmem : r ∈ db.protectionsOf positionId ↔ r.positionId = positionId := by
    simp [Database.protectionsOf, hr]
  simp only [hmem]

end Settlement

/-! ## The fills and what follows from them -/

/-- What an exit that closes a position earns. -/
def PositionRow.exitPnl (p : PositionRow) (result : ExitExecutionResult) : ℚ :=
  let price := result.averageFillPrice.getD 0
  (match p.direction with
    | .long => (price - p.entryPrice) * result.reducedQuantity
    | .short => (p.entryPrice - price) * result.reducedQuantity) - p.entryFee - result.totalFee

/-- A position that is reducing or quarantined, once its exit moved it. -/
def PositionRow.moved (p : PositionRow) (status : ExitExecutionStatus) : PositionRow :=
  if p.state = .quarantined ∨ status = .closed then { p with state := .closed, version := p.version + 1 } else p

/-- The row of a position after its exit. -/
def PositionRow.exited (p : PositionRow) (result : ExitExecutionResult) : PositionRow :=
  if result.status = .closed then { p.moved result.status with realizedPnl := some (numeric 4 (p.exitPnl result)) }
  else if result.remainingQuantity.any fun q => decide (0 < q) then
    { p.moved result.status with quantity := result.remainingQuantity.getD 0 }
  else p.moved result.status

/-- The receipt of the fills of an exit, without trade and quantity. -/
def exitFillReceipt (p : PositionRow) (o : OrderRow) (result : ExitExecutionResult) : FillReceipt :=
  { intentId := exitIntentId result.clientOrderId, exchangeOrderRecordId := o.orderRecordId,
    exchangeOrderId := result.exchangeOrderId.getD "", tradeId := none, symbol := p.symbol,
    side := match p.direction with | .long => "SELL" | .short => "BUY", reduceOnly := true, filledQuantity := 0,
    fillPrice := result.averageFillPrice.getD 0, commission := some (result.totalFee / result.tradeIds.length) }

/-- The shares of the trades of an exit. -/
def ExitExecutionResult.shares (result : ExitExecutionResult) : List (String × ℚ) :=
  splitQuantity result.reducedQuantity result.tradeIds

/-- The records the third transaction finds: prepared and acknowledged, with none of the trades stored. A quarantined position
has no fill of the order yet. -/
structure ExitFillable (db : Database) (a : ExitFacts) (exchangeOrderId : String) (p : PositionRow) (r : IntentRow)
    (o : OrderRow) : Prop where
  prepared : ExitPrepared db a.cycleId a.positionId a.result.clientOrderId p r o
  reports : a.result.Reports exchangeOrderId
  acknowledged : o.exchangeOrderId = some exchangeOrderId
  orderRecords : (db.orders.map OrderRow.orderRecordId).Nodup
  protections : (db.protections.map ProtectionRow.protectionId).Nodup
  freshIds : db.FreshIds
  price : 0 < a.result.averageFillPrice.getD 0
  tradesGiven : a.result.tradeIds ≠ []
  trades : a.result.tradeIds.Nodup
  unstored : ∀ f ∈ db.fills, ∀ t ∈ a.result.tradeIds, f.tradeId ≠ some t
  state : p.state = .reducing ∨ (p.state = .quarantined ∧ db.fillsOfOrder o.orderRecordId = [])

/-- What the third transaction leaves. -/
structure ExitSettled (db db' : Database) (a : ExitFacts) (p : PositionRow) (r : IntentRow) (o : OrderRow) : Prop where
  position : db'.position a.positionId = some (p.exited a.result)
  intent : db'.intent (exitIntentId a.result.clientOrderId) = some { r with state := .filled, version := r.version + 1 }
  fills : ∃ rows, db'.fills = db.fills ++ rows ∧ FillRows (exitFillReceipt p o a.result) rows a.result.shares
  protections : db'.protections = db.protections.map fun x => if x.positionId = a.positionId then x.settled a else x
  touches : Touches [.intents, .fills, .positions, .protections] db db'

section Fills

variable {db db' : Database} {a : ExitFacts} {exchangeOrderId : String} {p : PositionRow} {r : IntentRow} {o : OrderRow}

/-- The loop over the trades of an exit. -/
theorem saveExitFills_eq_ok (h : ExitFillable db a exchangeOrderId p r o) :
    saveExitFills db p o.orderRecordId a.result = .ok db' ↔
      (∀ s ∈ a.result.shares, 0 < s.2) ∧ db' = db.filledAll (a.result.shares.map (exitFillReceipt p o a.result).share) := by
  obtain ⟨hmem, -⟩ := Table.get_some h.prepared.order
  have hattached : (exitFillReceipt p o a.result).Attached db := by
    refine ⟨⟨o, Table.get_of_mem h.orderRecords hmem, h.prepared.owner, ?_⟩, ?_, rfl⟩
    · rw [h.acknowledged]
      simp [exitFillReceipt, h.reports.orderId]
    · simp [exitFillReceipt, h.reports.orderId, h.reports.nonempty]
  have hfst : a.result.shares.map Prod.fst = a.result.tradeIds := splitQuantity_fst _ _
  have hunstored : ∀ s ∈ a.result.shares, ∀ f ∈ db.fills, f.tradeId ≠ some s.1 := by
    intro s hs f hf
    exact h.unstored f hf s.1 (hfst ▸ List.mem_map_of_mem hs)
  have hnew : db.newShares a.result.shares = a.result.shares := by
    refine List.filter_eq_self.mpr fun s hs => ?_
    rw [Option.isNone_iff_eq_none, fillByTrade_none]
    exact fun f hf _ => hunstored s hs f hf
  have hnodup : (a.result.shares.map Prod.fst).Nodup := by
    rw [hfst]
    exact h.trades
  have hloop : saveExitFills db p o.orderRecordId a.result = .ok db' ↔ (∀ s ∈ db.newShares a.result.shares, 0 < s.2) ∧
      db' = db.filledAll ((db.newShares a.result.shares).map (exitFillReceipt p o a.result).share) :=
    saveShares_eq_ok h.price hnodup hattached h.freshIds fun f hf _ s hs htrade => absurd htrade (hunstored s hs f hf)
  rw [hnew] at hloop
  exact hloop

/-- The exit moves a position that is reducing, and one that is quarantined if the fills of the exit flatten it. -/
theorem moveExitedPosition_moves {orderRecordId positionId : String} (status : ExitExecutionStatus) (hp : db.position positionId = some p)
    (hstate : p.state = .reducing ∨ (p.state = .quarantined ∧
      ∃ db', repairQuarantinedPositionFromConfirmedExit db positionId orderRecordId = .ok db')) :
    ∃ db', moveExitedPosition db p orderRecordId status = .ok db' ∧ Touches [.positions] db db' ∧
      db'.position positionId = some (p.moved status) := by
  obtain ⟨-, rfl⟩ := Table.get_some hp
  unfold moveExitedPosition PositionRow.moved
  have hget : Table.get PositionRow.positionId (Table.modify PositionRow.positionId db.positions p.positionId
      fun p => { p with state := .closed, version := p.version + 1 }) p.positionId = (db.position p.positionId).map _ :=
    Table.get_modify_self fun _ => rfl
  rw [hp] at hget
  rcases hstate with hreducing | ⟨hquarantined, db', hrepair⟩
  · have hnot : ¬p.state = .quarantined := by rw [hreducing]; decide
    have hreduce : reducePosition db p = .ok db := by
      unfold reducePosition
      rw [if_neg (not_not.mpr hreducing)]
    rw [if_neg hnot, hreduce]
    simp only [bind, Except.bind, hnot, false_or]
    by_cases hclosed : status = .closed
    · have hmove : transitionPosition db p.positionId .reducing .closed "PositionClosed" = .ok _ :=
        transitionPosition_eq_ok.mpr ⟨p, hp, hreducing, .inr (by decide), rfl⟩
      rw [if_pos hclosed, if_pos hclosed]
      refine ⟨_, hmove, transitionPosition_touches hmove, ?_⟩
      exact hget
    · rw [if_neg hclosed, if_neg hclosed]
      exact ⟨db, rfl, Touches.refl _ _, hp⟩
  · rw [if_pos hquarantined, if_pos (.inl hquarantined)]
    refine ⟨db', hrepair, repairQuarantinedPositionFromConfirmedExit_touches hrepair, ?_⟩
    unfold repairQuarantinedPositionFromConfirmedExit at hrepair
    rw [hp] at hrepair
    dsimp only at hrepair
    repeat' split at hrepair
    all_goals first
      | contradiction
      | cases hrepair
    exact hget

/-- The fills of an exit flatten a quarantined position exactly if they reach its quantity. -/
theorem repairQuarantined_returns {rows : List FillRow} (hp : db.position a.positionId = some p) (hstate : p.state = .quarantined)
    (ho : db.order o.orderRecordId = some o) (hack : o.exchangeOrderId = some exchangeOrderId) (hne : exchangeOrderId ≠ "")
    (hfills : db.fillsOfOrder o.orderRecordId = rows) (hrows : FillRows (exitFillReceipt p o a.result) rows a.result.shares)
    (hgiven : a.result.tradeIds ≠ []) :
    (∃ db', repairQuarantinedPositionFromConfirmedExit db a.positionId o.orderRecordId = .ok db') ↔
      p.quantity ≤ a.result.reducedQuantity + 1 / 100000000 := by
  have hacknowledged : ((db.order o.orderRecordId).bind (·.acknowledgedId)).isNone = false := by
    simp [ho, OrderRow.acknowledgedId, hack, Option.filter, hne]
  have hsum : (rows.map (·.filledQuantity)).sum = a.result.reducedQuantity := by
    rw [hrows.quantities]
    exact splitQuantity_sum hgiven
  have hsome : rows ≠ [] := by
    rintro rfl
    have hlength := congrArg List.length hrows.tradeIds
    rw [ExitExecutionResult.shares, splitQuantity_fst] at hlength
    exact hgiven (List.length_eq_zero_iff.mp (by simpa using hlength.symm))
  have hreduceOnly : (rows.any fun f => !f.reduceOnly) = false := by
    rw [List.any_eq_false]
    intro row hrow
    obtain ⟨s, -, fillId, rfl⟩ := hrows.row hrow
    simp [FillReceipt.row, FillReceipt.share, exitFillReceipt]
  have hsymbol : (rows.any fun f => decide (f.symbol ≠ p.symbol)) = false := by
    rw [List.any_eq_false]
    intro row hrow
    obtain ⟨s, -, fillId, rfl⟩ := hrows.row hrow
    simp [FillReceipt.row, FillReceipt.share, exitFillReceipt]
  unfold repairQuarantinedPositionFromConfirmedExit
  simp only [hp, hfills, hstate, ne_eq, not_true_eq_false, if_false, hacknowledged, Bool.false_eq_true, hsome, hreduceOnly,
    or_self, hsymbol, hsum]
  by_cases hcover : a.result.reducedQuantity + 1 / 100000000 < p.quantity
  · rw [if_pos hcover]
    constructor
    · rintro ⟨_, hok⟩
      nomatch hok
    · exact fun hle => absurd hcover (not_lt.mpr hle)
  · rw [if_neg hcover]
    exact ⟨fun _ => not_lt.mp hcover, fun _ => ⟨_, rfl⟩⟩

/-- What the third transaction needs: an acknowledged intent, shares that are positive, and fills that flatten a quarantined
position. -/
def ExitFacts.Fills (a : ExitFacts) (p : PositionRow) (state : V2IntentState) : Prop :=
  state = .exchangeAcknowledged ∧ (∀ s ∈ a.result.shares, 0 < s.2) ∧
    (p.state = .quarantined → p.quantity ≤ a.result.reducedQuantity + 1 / 100000000)

theorem settleExitedPosition_settles {positionId : String} {q : PositionRow} (result : ExitExecutionResult)
    (hid : p.positionId = positionId) (hq : db.position positionId = some q) :
    (settleExitedPosition db p result).position positionId = some
      (if result.status = .closed then { q with realizedPnl := some (numeric 4 (p.exitPnl result)) }
        else if result.remainingQuantity.any fun q => decide (0 < q) then { q with quantity := result.remainingQuantity.getD 0 }
        else q) := by
  unfold settleExitedPosition
  split
  · have hget : Table.get PositionRow.positionId (Table.modify PositionRow.positionId db.positions positionId
        fun q => { q with realizedPnl := some (numeric 4 (p.exitPnl result)) }) positionId = (db.position positionId).map _ :=
      Table.get_modify_self fun _ => rfl
    rw [hq] at hget
    rw [hid]
    exact hget
  · split
    · have hget : Table.get PositionRow.positionId (Table.modify PositionRow.positionId db.positions positionId
          fun q => { q with quantity := result.remainingQuantity.getD 0 }) positionId = (db.position positionId).map _ :=
        Table.get_modify_self fun _ => rfl
      rw [hq] at hget
      rw [hid]
      exact hget
    · exact hq

/-- The third transaction, stage by stage. -/
theorem persistExitFills_eq (h : ExitPrepared db a.cycleId a.positionId a.result.clientOrderId p r o) :
    persistExitFills db a = (do
      let db ← saveExitFills db p o.orderRecordId a.result
      let db ← transitionIntent db (exitIntentId a.result.clientOrderId) .exchangeAcknowledged .filled "ExitFilled"
      let db ← moveExitedPosition db p o.orderRecordId a.result.status
      let db := settleExitedPosition db p a.result
      (db.protectionsOf a.positionId).foldlM (settleExitedProtection a) db) := by
  obtain ⟨e, he⟩ := h.entryIntent
  obtain ⟨eo, heo⟩ := h.entryOrder
  unfold persistExitFills
  rw [exitSubject_eq_ok.mpr ⟨h.position, he, heo⟩]
  simp only [bind, Except.bind, h.order]

/-- The records after the fills were stored and the intent filled. -/
theorem exitFills_stored (h : ExitFillable db a exchangeOrderId p r o)
    {db₁ db₂ : Database} (hfills : saveExitFills db p o.orderRecordId a.result = .ok db₁)
    (hmove : transitionIntent db₁ (exitIntentId a.result.clientOrderId) .exchangeAcknowledged .filled "ExitFilled" = .ok db₂) :
    Touches [.fills, .intents] db db₂ ∧ db₂.position a.positionId = some p ∧
      db₂.intent (exitIntentId a.result.clientOrderId) = some { r with state := .filled, version := r.version + 1 } ∧
      ∃ rows, db₂.fills = db.fills ++ rows ∧ FillRows (exitFillReceipt p o a.result) rows a.result.shares := by
  obtain ⟨-, rfl⟩ := (saveExitFills_eq_ok h).mp hfills
  have ht₁ := filledAll_touches db (a.result.shares.map (exitFillReceipt p o a.result).share)
  have ht₂ := transitionIntent_touches hmove
  obtain ⟨rows, hstored, hrows⟩ := filledAll_shares db (exitFillReceipt p o a.result) a.result.shares
  refine ⟨(ht₁.mono (by decide)).trans (ht₂.mono (by decide)), ?_, ?_, rows, (ht₂.fills (by decide)).trans hstored, hrows⟩
  · unfold Database.position
    rw [(ht₂.positions (by decide)), (ht₁.positions (by decide))]
    exact h.prepared.position
  · obtain ⟨r', hr', -, -, rfl⟩ := transitionIntent_eq_ok.mp hmove
    have hr : (db.filledAll (a.result.shares.map (exitFillReceipt p o a.result).share)).intent
        (exitIntentId a.result.clientOrderId) = some r := by
      unfold Database.intent
      rw [(ht₁.intents (by decide))]
      exact h.prepared.intent
    have hget : ((db.filledAll (a.result.shares.map (exitFillReceipt p o a.result).share)).modifyIntent
        (exitIntentId a.result.clientOrderId) fun r => { r with state := .filled, version := r.version + 1 }).intent
          (exitIntentId a.result.clientOrderId) = _ := Database.intent_modifyIntent fun _ => rfl
    rw [hr] at hget
    exact hget

/-- A quarantined position is repaired from the stored fills exactly if they reach its quantity. -/
theorem exitFills_repair (h : ExitFillable db a exchangeOrderId p r o) {db₂ : Database} {rows : List FillRow}
    (ht : Touches [.fills, .intents] db db₂) (hp : db₂.position a.positionId = some p) (hstate : p.state = .quarantined)
    (hstored : db₂.fills = db.fills ++ rows) (hrows : FillRows (exitFillReceipt p o a.result) rows a.result.shares) :
    (∃ db', repairQuarantinedPositionFromConfirmedExit db₂ a.positionId o.orderRecordId = .ok db') ↔
      p.quantity ≤ a.result.reducedQuantity + 1 / 100000000 := by
  obtain ⟨hmem, -⟩ := Table.get_some h.prepared.order
  have ho : db₂.order o.orderRecordId = some o := by
    unfold Database.order
    rw [(ht.orders (by decide))]
    exact Table.get_of_mem h.orderRecords hmem
  have hnone : db.fillsOfOrder o.orderRecordId = [] := by
    rcases h.state with hreducing | ⟨-, hnone⟩
    · rw [hreducing] at hstate
      nomatch hstate
    · exact hnone
  have hof : db₂.fillsOfOrder o.orderRecordId = rows := by
    unfold Database.fillsOfOrder at hnone ⊢
    rw [hstored, List.filter_append, hnone, List.nil_append]
    exact hrows.ofOrder
  exact repairQuarantined_returns hp hstate ho h.acknowledged h.reports.nonempty hof hrows h.tradesGiven

/-- The third transaction returns if it has what it needs, and leaves the exit settled. -/
theorem persistExitFills_settles (h : ExitFillable db a exchangeOrderId p r o) (hneeds : a.Fills p r.state) :
    ∃ db', persistExitFills db a = .ok db' ∧ ExitSettled db db' a p r o := by
  obtain ⟨hack, hpositive, hcover⟩ := hneeds
  have hfills := (saveExitFills_eq_ok h).mpr ⟨hpositive, rfl⟩
  have ht₁ := filledAll_touches db (a.result.shares.map (exitFillReceipt p o a.result).share)
  have hr₁ : (db.filledAll (a.result.shares.map (exitFillReceipt p o a.result).share)).intent
      (exitIntentId a.result.clientOrderId) = some r := by
    unfold Database.intent
    rw [(ht₁.intents (by decide))]
    exact h.prepared.intent
  obtain ⟨db₂, hmove⟩ : ∃ db₂, transitionIntent (db.filledAll (a.result.shares.map (exitFillReceipt p o a.result).share))
      (exitIntentId a.result.clientOrderId) .exchangeAcknowledged .filled "ExitFilled" = .ok db₂ :=
    ⟨_, transitionIntent_eq_ok.mpr ⟨r, hr₁, hack, .inr (by decide), rfl⟩⟩
  obtain ⟨ht₂, hp₂, hr₂, rows, hstored, hrows⟩ := exitFills_stored h hfills hmove
  have hmovable : p.state = .reducing ∨ (p.state = .quarantined ∧
      ∃ db', repairQuarantinedPositionFromConfirmedExit db₂ a.positionId o.orderRecordId = .ok db') := by
    rcases h.state with hreducing | ⟨hquarantined, -⟩
    · exact .inl hreducing
    · exact .inr ⟨hquarantined, (exitFills_repair h ht₂ hp₂ hquarantined hstored hrows).mpr (hcover hquarantined)⟩
  obtain ⟨db₃, hmoved, ht₃, hp₃⟩ := moveExitedPosition_moves a.result.status hp₂ hmovable
  have hid : p.positionId = a.positionId := (Table.get_some hp₂).2
  have hp₄ := settleExitedPosition_settles a.result hid hp₃
  have ht₄ := settleExitedPosition_touches db₃ p a.result
  have hprotections : (settleExitedPosition db₃ p a.result).protections = db.protections :=
    (ht₄.protections (by decide)).trans ((ht₃.protections (by decide)).trans (ht₂.protections (by decide)))
  have hnodup : ((settleExitedPosition db₃ p a.result).protections.map ProtectionRow.protectionId).Nodup := by
    rw [hprotections]
    exact h.protections
  obtain ⟨db', hloop, hsettled⟩ := settleProtectionsOf_settle (a := a) hnodup a.positionId
  have ht₅ := Touches.foldlM settleExitedProtection_touches hloop
  refine ⟨db', ?_, ⟨?_, ?_, ⟨rows, ?_, hrows⟩, ?_, ?_⟩⟩
  · rw [persistExitFills_eq h.prepared, hfills]
    simp only [bind, Except.bind, hmove, hmoved]
    exact hloop
  · unfold Database.position at hp₄ ⊢
    rw [(ht₅.positions (by decide))]
    exact hp₄
  · unfold Database.intent at hr₂ ⊢
    rw [(ht₅.intents (by decide)), (ht₄.intents (by decide)), (ht₃.intents (by decide))]
    exact hr₂
  · rw [(ht₅.fills (by decide)), (ht₄.fills (by decide)), (ht₃.fills (by decide))]
    exact hstored
  · rw [hsettled, hprotections]
  · exact (((ht₂.mono (by decide)).trans (ht₃.mono (by decide))).trans (ht₄.mono (by decide))).trans (ht₅.mono (by decide))

/-- The third transaction returns only if it has what it needs. -/
theorem persistExitFills_needs (h : ExitFillable db a exchangeOrderId p r o) (hok : persistExitFills db a = .ok db') :
    a.Fills p r.state := by
  rw [persistExitFills_eq h.prepared] at hok
  obtain ⟨db₁, hfills, hok⟩ := Loops.bind_eq_ok.mp hok
  obtain ⟨db₂, hmove, hok⟩ := Loops.bind_eq_ok.mp hok
  obtain ⟨db₃, hmoved, -⟩ := Loops.bind_eq_ok.mp hok
  obtain ⟨hpositive, hdb₁⟩ := (saveExitFills_eq_ok h).mp hfills
  have hack : r.state = .exchangeAcknowledged := by
    obtain ⟨r', hr', hstate, -⟩ := transitionIntent_eq_ok.mp hmove
    have hsame : db₁.intents = db.intents := (saveExitFills_touches hfills).intents (by decide)
    unfold Database.intent at hr'
    rw [hsame] at hr'
    cases h.prepared.intent.symm.trans hr'
    exact hstate
  obtain ⟨ht₂, hp₂, -, rows, hstored, hrows⟩ := exitFills_stored h hfills hmove
  refine ⟨hack, hpositive, fun hquarantined => ?_⟩
  refine (exitFills_repair h ht₂ hp₂ hquarantined hstored hrows).mp ⟨db₃, ?_⟩
  unfold moveExitedPosition at hmoved
  rw [if_pos hquarantined, (Table.get_some hp₂).2] at hmoved
  exact hmoved

end Fills

/-! ## The three transactions -/

/-- Every fill is of an order, and none is of the order of a client id. -/
def Database.Unfilled (db : Database) (clientOrderId : String) : Prop :=
  ∀ f ∈ db.fills, ∃ o ∈ db.orders, o.orderRecordId = f.exchangeOrderRecordId ∧ o.clientOrderId ≠ clientOrderId

/-- What the tables and the exchange promise of a reported exit whose trades are not stored: the keys are keys, the exchange id
of an order is its own, and so are the trades. -/
structure ExitFacts.Grounded (a : ExitFacts) (db : Database) (exchangeOrderId : String) (p : PositionRow) : Prop where
  position : db.position a.positionId = some p
  grounds : ExitGrounds db a.cycleId a.fencingToken a.result.clientOrderId p
  clientIds : (db.orders.map OrderRow.clientOrderId).Nodup
  protections : (db.protections.map ProtectionRow.protectionId).Nodup
  reports : a.result.Reports exchangeOrderId
  exchangeId : ∀ o ∈ db.orders, o.exchangeOrderId = some exchangeOrderId → o.clientOrderId = a.result.clientOrderId
  quantity : 0 < a.result.reducedQuantity
  price : ∃ v, a.result.averageFillPrice = some v ∧ 0 < v
  timestamp : a.result.fillTimestamp ≠ none
  tradesGiven : a.result.tradeIds ≠ []
  trades : a.result.tradeIds.Nodup
  unstored : ∀ f ∈ db.fills, ∀ t ∈ a.result.tradeIds, f.tradeId ≠ some t
  unfilled : p.state = .quarantined → db.Unfilled a.result.clientOrderId

/-- The exit intent of some quantity. -/
def ExitFacts.identityOf (a : ExitFacts) (quantity : ℚ) : ExitIdentity := { a.identity with requestedQuantity := quantity }

/-- The records of an exit once it is acknowledged, from the database before it: the first two transactions return, and write
nothing when they are repeated. -/
structure ExitAcknowledged (a : ExitFacts) (exchangeOrderId : String) (p : PositionRow) (quantity : ℚ) (db db₁ db₂ : Database)
    (r : IntentRow) (o : OrderRow) : Prop where
  prepare : persistExitIntentBeforeSubmission db (a.identityOf quantity) = .ok db₁
  prepareAgain : ∀ q, 0 < q → persistExitIntentBeforeSubmission db₁ (a.identityOf q) = .ok db₁
  acknowledge : persistExitSubmissionResult db₁ a.positionId a.result = .ok db₂
  prepareLast : ∀ q, 0 < q → persistExitIntentBeforeSubmission db₂ (a.identityOf q) = .ok db₂
  acknowledgeAgain : persistExitSubmissionResult db₂ a.positionId a.result = .ok db₂
  fillable : ExitFillable db₂ a exchangeOrderId p.startedReducing r.acked o
  state : r.state = db.exitIntentState a.result.clientOrderId
  unfilled : db.Unfilled a.result.clientOrderId → db₂.fillsOfOrder o.orderRecordId = []
  recorded : ∀ o', db.orderOfClientId a.result.clientOrderId = some o' → o'.orderRecordId = o.orderRecordId
  position : db₁.position a.positionId = some p
  touchesFirst : Touches [.cycles, .intents, .orders] db db₁
  touches : Touches [.cycles, .intents, .orders, .positions] db db₂

/-- The order of a client id is the one of its exchange id. -/
theorem ExitFacts.Grounded.exchangeIdOf {a : ExitFacts} {db db₁ : Database} {exchangeOrderId : String} {p : PositionRow}
    {o : OrderRow} (hg : a.Grounded db exchangeOrderId p) (hadded : ExitOrderAdded a.result.clientOrderId db db₁)
    (ho : db₁.orderOfClientId a.result.clientOrderId = some o) : db₁.ExchangeIdOf o exchangeOrderId := by
  intro o' ho' hid
  obtain ⟨hmem, hclient⟩ := Table.get_some ho
  rcases hadded with hsame | ⟨hnone, added, hunacked, -, hmore⟩
  · rw [hsame] at ho' hmem
    have hclient' := hg.exchangeId o' ho' hid
    rw [List.inj_on_of_nodup_map hg.clientIds ho' hmem (hclient'.trans hclient.symm)]
  · rw [hmore] at ho'
    rcases List.mem_append.mp ho' with hold | hnew
    · exact absurd (hg.exchangeId o' hold hid) (Table.get_none.mp hnone o' hold)
    · rw [List.mem_singleton.mp hnew, hunacked] at hid
      nomatch hid

/-- No fill is of the order of the client id. -/
theorem Database.Unfilled.fillsOfOrder_nil {db db₁ : Database} {clientOrderId : String} {o : OrderRow}
    (h : db.Unfilled clientOrderId) (hadded : ExitOrderAdded clientOrderId db db₁)
    (hnodup : (db₁.orders.map OrderRow.orderRecordId).Nodup) (ho : db₁.orderOfClientId clientOrderId = some o) :
    db.fillsOfOrder o.orderRecordId = [] := by
  obtain ⟨hmem, hclient⟩ := Table.get_some ho
  refine List.filter_eq_nil_iff.mpr fun f hf hof => ?_
  obtain ⟨o', ho', hrecord, hother⟩ := h f hf
  have hmem' : o' ∈ db₁.orders := by
    rcases hadded with hsame | ⟨-, _, -, -, hmore⟩
    · rw [hsame]
      exact ho'
    · rw [hmore]
      exact List.mem_append_left _ ho'
  have heq := List.inj_on_of_nodup_map hnodup hmem' hmem (hrecord.trans (of_decide_eq_true hof))
  exact hother (heq ▸ hclient)

theorem IntentRow.acked_acked (r : IntentRow) : r.acked.acked = r.acked := by
  unfold IntentRow.acked
  by_cases h : r.state = .exchangeSubmitting ∨ r.state = .exchangeUnknown
  · simp [h]
  · simp [h]

theorem PositionRow.startedReducing_again (p : PositionRow) : p.startedReducing.startedReducing = p.startedReducing := by
  unfold PositionRow.startedReducing
  by_cases h : p.state = .positionProjected ∨ p.state = .isProtected
  · simp [h]
  · simp [h]

/-- A receipt changes no record id. -/
theorem receipted_records (db : Database) (orderRecordId exchangeOrderId : String) :
    (db.receipted orderRecordId exchangeOrderId).orders.map OrderRow.orderRecordId = db.orders.map OrderRow.orderRecordId :=
  Table.map_modify fun _ => rfl

/-- The exchange id is of the order alone after the order got it. -/
theorem Database.ExchangeIdOf.receipted {db : Database} {o : OrderRow} {exchangeOrderId : String}
    (h : db.ExchangeIdOf o exchangeOrderId) : ∀ o' ∈ (db.receipted o.orderRecordId exchangeOrderId).orders,
      o'.exchangeOrderId = some exchangeOrderId → o'.orderRecordId = o.orderRecordId := by
  intro o' ho' hid
  obtain ⟨x, hx, rfl⟩ := Table.mem_modify.mp ho'
  by_cases hrecord : x.orderRecordId = o.orderRecordId
  · rw [if_pos hrecord]
    exact hrecord
  · rw [if_neg hrecord] at hid ⊢
    exact h x hx hid

/-- The first two transactions of a grounded exit. -/
theorem ExitFacts.Grounded.acknowledged {a : ExitFacts} {db : Database} {exchangeOrderId : String} {p : PositionRow}
    (hg : a.Grounded db exchangeOrderId p) (hopen : p.state ≠ .closed) {quantity : ℚ} (hquantity : 0 < quantity) :
    ∃ db₁ db₂ r o, ExitAcknowledged a exchangeOrderId p quantity db db₁ db₂ r o := by
  obtain ⟨db₁, r, o, hprepare, hprepared, hstate, ht₁, hadded, hnodup, hfresh⟩ :=
    persistExitIntentBeforeSubmission_prepares (a := a.identityOf quantity) hg.position hg.grounds hquantity
  have hunique := hg.exchangeIdOf hadded hprepared.order
  have hreports : a.result.Reports exchangeOrderId := hg.reports
  obtain ⟨db₂, hack, hprepared₂, ht₂, hdrawn, horders⟩ := persistExitSubmissionResult_acks hprepared hreports hunique
  have hnodup₂ : (db₂.orders.map OrderRow.orderRecordId).Nodup := by
    rw [horders, receipted_records]
    exact hnodup
  have hunique₂ : db₂.ExchangeIdOf { o with exchangeOrderId := some exchangeOrderId } exchangeOrderId := by
    intro o' ho'
    exact hunique.receipted o' (horders ▸ ho')
  have hfills₂ : db₂.fills = db.fills := (ht₂.fills (by decide)).trans (ht₁.fills (by decide))
  have hfresh₂ : db₂.FreshIds := by
    refine hfresh.mono ht₂.uuids hdrawn.ge (fun o' ho' => ?_) (ht₂.fills (by decide))
    have hmem : o'.orderRecordId ∈ db₁.orders.map OrderRow.orderRecordId := by
      rw [← receipted_records db₁ o.orderRecordId exchangeOrderId, ← horders]
      exact List.mem_map_of_mem ho'
    obtain ⟨x, hx, hid⟩ := List.mem_map.mp hmem
    exact ⟨x, hx, hid⟩
  have hrecorded : ∀ o', db.orderOfClientId a.result.clientOrderId = some o' → o'.orderRecordId = o.orderRecordId := by
    intro o' ho'
    rcases hadded with hsame | ⟨hnone, -⟩
    · have ho : db₁.orderOfClientId a.result.clientOrderId = some o := hprepared.order
      unfold Database.orderOfClientId at ho ho'
      rw [hsame, ho'] at ho
      rw [Option.some.inj ho]
    · exact nomatch hnone.symm.trans ho'
  have hunfilled : db.Unfilled a.result.clientOrderId → db₂.fillsOfOrder o.orderRecordId = [] := by
    intro h
    have hnil := h.fillsOfOrder_nil hadded hnodup hprepared.order
    unfold Database.fillsOfOrder at hnil ⊢
    rw [hfills₂]
    exact hnil
  obtain ⟨v, hv, hprice⟩ := hg.price
  refine ⟨db₁, db₂, r, { o with exchangeOrderId := some exchangeOrderId }, hprepare,
    fun q hq => persistExitIntentBeforeSubmission_prepared hprepared hq, hack,
    fun q hq => persistExitIntentBeforeSubmission_prepared hprepared₂ hq, ?_, ?_, hstate, hunfilled, hrecorded, hprepared.position, ht₁,
    (ht₁.mono (by decide)).trans (ht₂.mono (by decide))⟩
  · exact persistExitSubmissionResult_again hprepared₂ hg.reports hnodup₂ hunique₂ rfl r.acked_acked p.startedReducing_again
  · refine ⟨hprepared₂, hg.reports, rfl, hnodup₂, ?_, hfresh₂, ?_, hg.tradesGiven, hg.trades, ?_, ?_⟩
    · rw [(ht₂.protections (by decide)), (ht₁.protections (by decide))]
      exact hg.protections
    · rw [hv]
      exact hprice
    · rw [hfills₂]
      exact hg.unstored
    · rw [p.startedReducing_state]
      by_cases hquarantined : p.state = .quarantined
      · exact .inr ⟨by simp [PositionRow.isOpen, hquarantined], hunfilled (hg.unfilled hquarantined)⟩
      · exact .inl (by simp [PositionRow.isOpen, hopen, hquarantined])

section Transactions

variable {a : ExitFacts} {exchangeOrderId : String} {p : PositionRow} {quantity : ℚ} {db db₁ db₂ : Database} {r : IntentRow}
  {o : OrderRow}

/-- After the second transaction only the third is left: so it is from the start, and from where a crash left off. -/
theorem ExitAcknowledged.persists (h : ExitAcknowledged a exchangeOrderId p quantity db db₁ db₂ r o)
    (hquantity : 0 < a.result.reducedQuantity) :
    persistConfirmedExit db₁ a = transaction db₂ (persistExitFills db₂ a) ∧
      persistConfirmedExit db₂ a = transaction db₂ (persistExitFills db₂ a) := by
  have hfirst : persistExitIntentBeforeSubmission db₁ a.identity = .ok db₁ := h.prepareAgain _ hquantity
  have hlast : persistExitIntentBeforeSubmission db₂ a.identity = .ok db₂ := h.prepareLast _ hquantity
  unfold persistConfirmedExit
  constructor
  · simp only [transaction, hfirst, h.acknowledge]
  · simp only [transaction, hlast, h.acknowledgeAgain]

/-- The same from the database before the exit. -/
theorem ExitAcknowledged.persists_start (h : ExitAcknowledged a exchangeOrderId p a.result.reducedQuantity db db₁ db₂ r o) :
    persistConfirmedExit db a = transaction db₂ (persistExitFills db₂ a) := by
  have hfirst : persistExitIntentBeforeSubmission db a.identity = .ok db₁ := h.prepare
  unfold persistConfirmedExit
  simp only [transaction, hfirst, h.acknowledge]

/-- A grounded result is persisted by its transactions, unless its position is closed: then it is found again or refused. -/
theorem ExitFacts.Grounded.persistExitResult_cases (hg : a.Grounded db exchangeOrderId p) {db' : Database} {p' : PositionRow}
    (hp : db'.position a.positionId = some p') :
    (p'.state ≠ .closed → persistExitResult db' a = persistConfirmedExit db' a) ∧
      (p'.state = .closed → sameExitReceipt db' a.result = true → persistExitResult db' a = (.ok (), db')) ∧
      (p'.state = .closed → sameExitReceipt db' a.result = false → ∃ e, (persistExitResult db' a).1 = .error e) := by
  obtain ⟨v, hv, -⟩ := hg.price
  have hstatus : ¬(a.result.status ≠ .closed ∧ a.result.status ≠ .partiallyReduced) := by
    rcases hg.reports.status with hs | hs <;> simp [hs]
  have hgiven : given a.result.exchangeOrderId = true := by
    rw [hg.reports.orderId]
    simp [given, hg.reports.nonempty]
  have hfacts : ¬((!given a.result.exchangeOrderId) = true ∨ a.result.tradeIds = [] ∨ a.result.reducedQuantity ≤ 0 ∨
      a.result.averageFillPrice = none ∨ a.result.fillTimestamp = none) := by
    simp [hgiven, hg.tradesGiven, hg.quantity, hv, hg.timestamp]
  unfold persistExitResult
  rw [if_neg hstatus, if_neg hfacts]
  simp only [hp]
  refine ⟨fun hopen => ?_, fun hclosed hsame => ?_, fun hclosed hother => ?_⟩
  · rw [if_pos hopen]
  · simp [hclosed, hsame]
  · simp [hclosed, hother]

/-- The states of an exit intent whose fill can be persisted. -/
theorem IntentRow.acked_state (r : IntentRow) : r.acked.state = .exchangeAcknowledged ↔ r.state.pending = true := by
  unfold IntentRow.acked
  cases hstate : r.state <;> simp [hstate, V2IntentState.pending]

end Transactions

/-! ## An exit intent that is settled -/

section Settled

variable {db db' : Database} {r : IntentRow}

/-- The first transaction keeps an exit intent that is there. -/
theorem persistExitIntentBeforeSubmission_intent {a : ExitIdentity} (hr : db.intent (exitIntentId a.clientOrderId) = some r)
    (h : persistExitIntentBeforeSubmission db a = .ok db') : db'.intent (exitIntentId a.clientOrderId) = some r := by
  unfold persistExitIntentBeforeSubmission at h
  split at h
  · nomatch h
  · obtain ⟨⟨p, e, eo⟩, -, h⟩ := Loops.bind_eq_ok.mp h
    obtain ⟨db₁, hcycle, h⟩ := Loops.bind_eq_ok.mp h
    obtain ⟨db₂, hintent, h⟩ := Loops.bind_eq_ok.mp h
    have hr₁ : db₁.intent (exitIntentId a.clientOrderId) = some r := by
      unfold Database.intent
      rw [((ensureCycle_touches hcycle).intents (by decide))]
      exact hr
    unfold ensureExitIntent at hintent
    rw [hr₁] at hintent
    cases hintent
    unfold Database.intent
    rw [((ensureExitOrder_touches h).intents (by decide))]
    exact hr₁

/-- The second transaction keeps an exit intent that waits for nothing. -/
theorem persistExitSubmissionResult_intent {positionId : String} {result : ExitExecutionResult}
    (hr : db.intent (exitIntentId result.clientOrderId) = some r) (hstate : r.state.pending = false)
    (h : persistExitSubmissionResult db positionId result = .ok db') :
    db'.intent (exitIntentId result.clientOrderId) = some r := by
  have hsubmitting : r.state ≠ .exchangeSubmitting := by
    intro hs
    rw [hs] at hstate
    nomatch hstate
  have hunknown : r.state ≠ .exchangeUnknown := by
    intro hs
    rw [hs] at hstate
    nomatch hstate
  unfold persistExitSubmissionResult at h
  simp only [hr, hsubmitting, hunknown, or_self, if_false] at h
  split at h
  · nomatch h
  · split at h
    · nomatch h
    · split at h
      · exact Except.ok.inj h ▸ hr
      · exact Except.ok.inj h ▸ hr
      · exact Except.ok.inj h ▸ hr
      · split at h
        · obtain ⟨db₁, hreceipt, h⟩ := Loops.bind_eq_ok.mp h
          obtain ⟨db₂, hack, h⟩ := Loops.bind_eq_ok.mp h
          unfold acknowledgeIntent at hack
          simp only [hsubmitting, hunknown, or_self, if_false] at hack
          cases hack
          unfold Database.intent
          rw [((startReducing_touches h).intents (by decide)), ((saveExchangeOrderReceipt_touches hreceipt).intents (by decide))]
          exact hr
        · exact Except.ok.inj h ▸ hr

/-- The second transaction leaves a position where it was, or reducing. -/
theorem persistExitSubmissionResult_position {positionId : String} {result : ExitExecutionResult} {p : PositionRow}
    (hp : db.position positionId = some p) (h : persistExitSubmissionResult db positionId result = .ok db') :
    db'.position positionId = some p ∨ db'.position positionId = some p.startedReducing := by
  have hmoved : ∀ {id : String} {current next : V2IntentState} {eventType : String},
      transitionIntent db id current next eventType = .ok db' → db'.position positionId = some p := by
    intro id current next eventType hmove
    unfold Database.position
    rw [((transitionIntent_touches hmove).positions (by decide))]
    exact hp
  unfold persistExitSubmissionResult at h
  simp only [hp] at h
  split at h
  · nomatch h
  · split at h
    · nomatch h
    · split at h
      · split at h
        · exact .inl (hmoved h)
        · exact .inl (Except.ok.inj h ▸ hp)
      · split at h
        · exact .inl (hmoved h)
        · exact .inl (Except.ok.inj h ▸ hp)
      · split at h
        · exact .inl (hmoved h)
        · exact .inl (Except.ok.inj h ▸ hp)
      · split at h
        · obtain ⟨db₁, hreceipt, h⟩ := Loops.bind_eq_ok.mp h
          obtain ⟨db₂, hack, h⟩ := Loops.bind_eq_ok.mp h
          have hp₂ : db₂.position positionId = some p := by
            unfold Database.position
            rw [((acknowledgeIntent_touches hack).positions (by decide)),
                ((saveExchangeOrderReceipt_touches hreceipt).positions (by decide))]
            exact hp
          obtain ⟨db₃, hstart, -, -, hreducing⟩ := startReducing_starts hp₂
          cases hstart.symm.trans h
          exact .inr hreducing
        · exact .inl (Except.ok.inj h ▸ hp)

/-- The fills of an exit are stored only under an intent that is acknowledged. -/
theorem persistExitFills_acknowledged {a : ExitFacts} (hr : db.intent (exitIntentId a.result.clientOrderId) = some r)
    (h : persistExitFills db a = .ok db') : r.state = .exchangeAcknowledged := by
  unfold persistExitFills at h
  obtain ⟨⟨p, e, eo⟩, -, h⟩ := Loops.bind_eq_ok.mp h
  dsimp only at h
  split at h
  · nomatch h
  · obtain ⟨db₁, hfills, h⟩ := Loops.bind_eq_ok.mp h
    obtain ⟨db₂, hmove, -⟩ := Loops.bind_eq_ok.mp h
    obtain ⟨r', hr', hstate, -⟩ := transitionIntent_eq_ok.mp hmove
    unfold Database.intent at hr'
    rw [((saveExitFills_touches hfills).intents (by decide))] at hr'
    cases hr.symm.trans hr'
    exact hstate

/-- With an exit intent that waits for nothing the exit is not persisted: its identity is used up. -/
theorem persistConfirmedExit_settled {a : ExitFacts} (hr : db.intent (exitIntentId a.result.clientOrderId) = some r)
    (hstate : r.state.pending = false) : ∃ e, (persistConfirmedExit db a).1 = .error e := by
  unfold persistConfirmedExit
  cases hfirst : persistExitIntentBeforeSubmission db a.identity with
  | error e => exact ⟨e, rfl⟩
  | ok db₁ =>
    have hr₁ := persistExitIntentBeforeSubmission_intent (a := a.identity) hr hfirst
    cases hsecond : persistExitSubmissionResult db₁ a.positionId a.result with
    | error e =>
      refine ⟨e, ?_⟩
      simp [transaction, hsecond]
    | ok db₂ =>
      have hr₂ := persistExitSubmissionResult_intent hr₁ hstate hsecond
      cases hthird : persistExitFills db₂ a with
      | error e =>
        refine ⟨e, ?_⟩
        simp [transaction, hsecond, hthird]
      | ok db₃ =>
        rw [persistExitFills_acknowledged hr₂ hthird] at hstate
        nomatch hstate

end Settled

end TradingPlatform
