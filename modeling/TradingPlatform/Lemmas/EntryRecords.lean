import Mathlib.Algebra.BigOperators.Ring.List
import TradingPlatform.Lemmas.ExitRecords

/-!
# The records of a reported entry

What `persist_entry_and_protection` needs to store a report of an order that is recorded already: its stages return one by one,
and the new rows are the shares of the trades it had not stored.
-/

namespace TradingPlatform

/-! ## The intent -/

/-- The intent of the facts keeps its state, whether or not it is given a risk. -/
theorem ensureEntryIntent_keeps {db : Database} {a : EntryFacts} {r : IntentRow} (hr : db.intent a.intentId = some r) :
    ∃ db' r', ensureEntryIntent db a = .ok db' ∧ db'.intent a.intentId = some r' ∧ r'.state = r.state := by
  unfold ensureEntryIntent
  simp only [hr]
  split
  · rename_i risk hnone hrisk
    have hget : (db.modifyIntent a.intentId fun r => { r with initialRiskUsdt := some risk }).intent a.intentId =
        (db.intent a.intentId).map _ := Database.intent_modifyIntent fun _ => rfl
    rw [hr] at hget
    exact ⟨_, _, rfl, hget, rfl⟩
  · exact ⟨db, r, rfl, hr, rfl⟩

/-- An intent that is acknowledged, filled or given up is filled once a fill of its order is stored. -/
theorem reconcileIntentFromConfirmedFill_fills {db : Database} {id exchangeOrderId : String} {r : IntentRow} {o : OrderRow}
    (hr : db.intent id = some r) (hstate : r.acked = r ∧ r.state ≠ .intentCreated ∧ r.state ≠ .rejected)
    (ho : db.orderOfIntent id = some o) (hid : o.exchangeOrderId = some exchangeOrderId) (hnonempty : exchangeOrderId ≠ "")
    (hfill : ∃ f ∈ db.fills, f.intentId = id ∧ f.exchangeOrderId = exchangeOrderId) :
    ∃ db', reconcileIntentFromConfirmedFill db id = .ok db' := by
  have hstored : ¬(db.fills.all fun f => !decide (f.intentId = id ∧ f.exchangeOrderId = exchangeOrderId)) = true := by
    intro hall
    obtain ⟨f, hf, howns⟩ := hfill
    have hnot := List.all_eq_true.mp hall f hf
    simp [howns] at hnot
  have hnotPending : r.state ≠ .exchangeSubmitting ∧ r.state ≠ .exchangeUnknown := by
    obtain ⟨hacked, -, -⟩ := hstate
    unfold IntentRow.acked at hacked
    constructor
    · intro hs
      rw [if_pos (.inl hs)] at hacked
      exact absurd (congrArg IntentRow.version hacked) (Nat.succ_ne_self _)
    · intro hs
      rw [if_pos (.inr hs)] at hacked
      exact absurd (congrArg IntentRow.version hacked) (Nat.succ_ne_self _)
  obtain ⟨-, hcreated, hrejected⟩ := hstate
  obtain ⟨hsubmitting, hunknown⟩ := hnotPending
  unfold reconcileIntentFromConfirmedFill
  simp only [hr, ho, Option.bind_some, hid, if_neg hnonempty, if_neg hstored]
  cases hs : r.state with
  | intentCreated => exact absurd hs hcreated
  | rejected => exact absurd hs hrejected
  | exchangeSubmitting => exact absurd hs hsubmitting
  | exchangeUnknown => exact absurd hs hunknown
  | exchangeAcknowledged => exact ⟨_, rfl⟩
  | filled => exact ⟨_, rfl⟩
  | cancelled => exact ⟨_, rfl⟩
  | expired => exact ⟨_, rfl⟩

/-! ## The position -/

/-- The facts ask for no position, join the open one of their slot, or find their ids and their slot free. -/
def EntryFacts.Projects (a : EntryFacts) (db : Database) : Prop :=
  a.projectPosition = true →
    (a.allowExistingPositionAggregation = true ∧ (db.openPosition a.symbol a.direction a.executionMode).isSome = true) ∨
      (db.openPosition a.symbol a.direction a.executionMode = none ∧ (∀ p ∈ db.positions, p.positionId ≠ a.positionId) ∧
        ∀ p ∈ db.positions, p.intentId ≠ a.intentId)

/-- The mean price of fills is none below them all. -/
theorem le_meanPrice {fills : List FillRow} {floor : ℚ} (hfills : ∀ f ∈ fills, 0 < f.filledQuantity ∧ floor ≤ f.fillPrice)
    (hquantity : 0 < (fills.map (·.filledQuantity)).sum) :
    floor ≤ (fills.map fun f => f.filledQuantity * f.fillPrice).sum / (fills.map (·.filledQuantity)).sum := by
  refine (le_div_iff₀ hquantity).mpr ?_
  rw [← List.sum_map_mul_left]
  refine List.sum_le_sum fun f hf => ?_
  rw [mul_comm]
  exact mul_le_mul_of_nonneg_left (hfills f hf).2 (hfills f hf).1.le

/-- The position is projected from stored fills of positive quantity, at prices that do not round to zero. -/
theorem projectEntry_projects {db : Database} {a : EntryFacts} {o : OrderRow} (hprojects : a.Projects db)
    (ho : db.order o.orderRecordId = some o) (howner : o.intentId = a.intentId) (hack : o.acknowledgedId.isSome = true)
    (hstored : db.fillsOfOrder o.orderRecordId ≠ [])
    (hfills : ∀ f ∈ db.fillsOfOrder o.orderRecordId, 0 < f.filledQuantity ∧ (a.projectPosition = true → 1 / 20000 ≤ f.fillPrice)) :
    ∃ db', projectEntry db a o.orderRecordId = .ok db' := by
  unfold projectEntry
  split
  · rename_i hproject
    have hquantity : 0 < ((db.fillsOfOrder o.orderRecordId).map (·.filledQuantity)).sum :=
      sum_pos_of_forall hstored fun f hf => (hfills f hf).1
    have hprice := le_meanPrice (fun f hf => ⟨(hfills f hf).1, (hfills f hf).2 hproject⟩) hquantity
    unfold projectPositionFromConfirmedFills aggregateFillRows
    simp only [ho, howner, ne_eq, not_true_eq_false, if_false, hstored, hquantity, if_true, bind, Except.bind,
      Option.isNone_eq_false_iff.mpr hack, Bool.false_eq_true]
    split
    · exact ⟨_, rfl⟩
    · rename_i hnone
      rcases hprojects hproject with ⟨hallow, hopen⟩ | ⟨hslot, hposition, hintent⟩
      · obtain ⟨p, hp⟩ := Option.isSome_iff_exists.mp hopen
        simp [hp, hallow] at hnone
      · refine ⟨_, insertPosition_eq_ok.mpr ⟨hposition, hintent, fun p hp => ?_, hquantity, ?_, rfl⟩⟩
        · have hfree := List.find?_eq_none.mp hslot p hp
          simp only [PositionRow.sameSlot, Bool.not_eq_true', Bool.and_eq_false_iff]
          simp only [Bool.and_eq_true, decide_eq_true_eq, not_and, Bool.not_eq_true] at hfree
          by_cases hsame : p.symbol = a.symbol ∧ p.direction = a.direction ∧ p.executionMode = a.executionMode
          · exact .inl (.inl (hfree hsame))
          · exact .inr (decide_eq_false hsame)
        · exact Grid.nearest_pos (by norm_num) (by norm_num; linarith)
  · exact ⟨db, rfl⟩

/-! ## The protection -/

/-- The record of a protection that the facts report fits the table. -/
structure EntryFacts.ProtectionFits (a : EntryFacts) (db : Database) (stopClientOrderId : String) (stopLossPrice : ℚ) : Prop where
  ids : ∀ p ∈ db.protections, ∀ n, db.drawn ≤ n → p.protectionId ≠ db.uuids n
  stop : ∀ p ∈ db.protections, p.stopClientOrderId ≠ stopClientOrderId
  target : ∀ p ∈ db.protections, p.tpClientOrderId = none ∨ p.tpClientOrderId ≠ a.tpClientOrderId
  stopPrice : 0 < numeric 4 stopLossPrice
  targetPrice : ∀ t, a.takeProfitPrice = some t → t = 0 ∨ 0 < numeric 4 t

/-- The facts report no protection, or one whose record fits. -/
def EntryFacts.Protects (a : EntryFacts) (db : Database) : Prop :=
  ∀ stopClientOrderId stopLossPrice, a.protectionResult.isSome = true → a.stopClientOrderId = some stopClientOrderId →
    stopClientOrderId ≠ "" → a.stopLossPrice = some stopLossPrice → a.ProtectionFits db stopClientOrderId stopLossPrice

/-- The record depends on the protections and on the ids that are left. -/
theorem EntryFacts.Protects.mono {a : EntryFacts} {db db' : Database} (h : a.Protects db)
    (hprotections : db'.protections = db.protections) (huuids : db'.uuids = db.uuids) (hdrawn : db.drawn ≤ db'.drawn) :
    a.Protects db' := by
  intro stopClientOrderId stopLossPrice hresult hstop hgiven hprice
  obtain ⟨hids, hfree, htarget, hstopPrice, htargetPrice⟩ := h stopClientOrderId stopLossPrice hresult hstop hgiven hprice
  refine ⟨fun p hp n hn => ?_, fun p hp => ?_, fun p hp => ?_, hstopPrice, htargetPrice⟩
  · rw [huuids]
    exact hids p (hprotections ▸ hp) n (hdrawn.trans hn)
  · exact hfree p (hprotections ▸ hp)
  · exact htarget p (hprotections ▸ hp)

theorem markProtected_returns (db : Database) (positionId : String) : ∃ db', markProtected db positionId = .ok db' := by
  unfold markProtected
  cases hp : db.position positionId with
  | none => exact ⟨db, rfl⟩
  | some p =>
    by_cases hstate : p.state = .positionProjected
    · simp only [hstate, if_true]
      exact ⟨_, transitionPosition_eq_ok.mpr ⟨p, hp, hstate, .inr (by decide), rfl⟩⟩
    · simp only [hstate, if_false]
      exact ⟨db, rfl⟩

/-- A record that is submitting gets the ids of the exchange and is active. -/
theorem updateProtectionActive_activates {db : Database} {id stopExchangeOrderId : String} {p : ProtectionRow}
    (tpExchangeOrderId : Option String) (hp : db.protection id = some p) (hstate : p.state = .protectionSubmitting)
    (hstop : stopExchangeOrderId ≠ "") : ∃ db', updateProtectionActive db id stopExchangeOrderId tpExchangeOrderId = .ok db' := by
  have hget : (db.modifyProtection id fun p =>
      { p with stopExchangeOrderId := some stopExchangeOrderId, tpExchangeOrderId }).protection id =
        (db.protection id).map fun p => { p with stopExchangeOrderId := some stopExchangeOrderId, tpExchangeOrderId } :=
    Table.get_modify_self fun _ => rfl
  rw [hp] at hget
  unfold updateProtectionActive
  simp only [hp, if_neg hstop, startProtection, hstate, reduceCtorEq, if_false, bind, Except.bind]
  exact ⟨_, transitionProtection_eq_ok.mpr ⟨_, hget, hstate, .inr (by decide), fun _ => ⟨_, rfl, hstop⟩, rfl⟩⟩

/-- The protection of the facts is recorded. -/
theorem saveEntryProtection_protects {db : Database} {a : EntryFacts} (h : a.Protects db) :
    ∃ db', saveEntryProtection db a = .ok db' := by
  unfold saveEntryProtection
  split
  · rename_i protection stopClientOrderId stopLossPrice hprotection hstop hprice
    split
    · exact ⟨db, rfl⟩
    · rename_i hgiven
      obtain ⟨hids, hfree, htarget, hstopPrice, htargetPrice⟩ :=
        h stopClientOrderId stopLossPrice (by simp [hprotection]) hstop hgiven hprice
      have hfresh : ∀ p ∈ db.protections, p.protectionId ≠ db.uuids db.drawn := fun p hp => hids p hp db.drawn (le_refl _)
      have htakeProfit : (((a.takeProfitPrice.filter fun t => decide (t ≠ 0)).map (numeric 4)).all fun t => decide (0 < t)) =
          true := by
        cases htp : a.takeProfitPrice with
        | none => rfl
        | some t =>
          rcases htargetPrice t htp with hzero | hpos
          · simp [Option.filter, hzero]
          · by_cases hzero : t = 0
            · simp [Option.filter, hzero]
            · simp [Option.filter, hzero, hpos]
      -- the row is the last one under its id
      obtain ⟨row, hid, hstate, hsave⟩ : ∃ row : ProtectionRow, row.protectionId = db.uuids db.drawn ∧
          row.state = .protectionIntent ∧ saveProtection db.uuid4.2
            { protectionId := db.uuids db.drawn, positionId := a.positionId, stopLossPrice,
              takeProfitPrice := a.takeProfitPrice.filter fun t => decide (t ≠ 0), stopClientOrderId,
              tpClientOrderId := a.tpClientOrderId, state := .protectionIntent } =
            .ok { db.uuid4.2 with protections := db.protections ++ [row] } := by
        refine ⟨ProtectionRow.stored
                { protectionId := db.uuids db.drawn, positionId := a.positionId, stopLossPrice,
                  originalStopLossPrice := some stopLossPrice,
                  takeProfitPrice := a.takeProfitPrice.filter fun t => decide (t ≠ 0), stopClientOrderId,
                  tpClientOrderId := a.tpClientOrderId, state := .protectionIntent }, rfl, rfl, ?_⟩
        unfold saveProtection
        exact insertProtection_eq_ok.mpr ⟨hfresh, hfree, htarget, hstopPrice, htakeProfit, rfl⟩
      have hget : Table.get ProtectionRow.protectionId (db.protections ++ [row]) (db.uuids db.drawn) = some row := by
        rw [← hid]
        exact Table.get_append_singleton (hid ▸ hfresh)
      simp only [Database.uuid4] at hsave ⊢
      rw [hsave]
      simp only [bind, Except.bind]
      split
      · rename_i stopExchangeOrderId hexchange
        split
        · rename_i hactive
          have hstopId : stopExchangeOrderId ≠ "" := by
            unfold ProtectionResult.isActive at hactive
            rw [hexchange] at hactive
            simpa using (Bool.and_eq_true_iff.mp hactive).2
          generalize hdb : ({ db with drawn := db.drawn + 1, protections := db.protections ++ [row] } : Database) = db₁
          have hrow : db₁.protection (db.uuids db.drawn) = some row := by
            rw [← hdb]
            exact hget
          obtain ⟨db₂, hsubmit, hmoved⟩ : ∃ db₂, transitionProtection db₁ (db.uuids db.drawn) .protectionIntent
              .protectionSubmitting "Submitting" = .ok db₂ ∧ db₂.protection (db.uuids db.drawn) =
                some { row with state := .protectionSubmitting, version := row.version + 1 } := by
            refine ⟨_, transitionProtection_eq_ok.mpr ⟨row, hrow, hstate, .inr (by decide), by simp, rfl⟩, ?_⟩
            have hget : (db₁.modifyProtection (db.uuids db.drawn) fun p =>
                { p with state := .protectionSubmitting, version := p.version + 1 }).protection (db.uuids db.drawn) =
                  (db₁.protection (db.uuids db.drawn)).map fun p =>
                    { p with state := .protectionSubmitting, version := p.version + 1 } :=
              Table.get_modify_self fun _ => rfl
            rw [hrow] at hget
            exact hget
          obtain ⟨db₃, hactivate⟩ := updateProtectionActive_activates protection.tpExchangeOrderId hmoved rfl hstopId
          rw [hsubmit]
          simp only [hactivate]
          exact markProtected_returns db₃ a.positionId
        · exact ⟨_, rfl⟩
      · exact ⟨_, rfl⟩
  · exact ⟨db, rfl⟩

/-! ## The call -/

/-- The facts report trades of an order by their ids and their whole quantity. -/
structure EntryFacts.Reports (a : EntryFacts) (exchangeOrderId : String) (trades : List (String × ℚ)) : Prop where
  projectable : a.entryResult.positionProjectable = true
  source : a.entryResult.fillSource ≠ "BINANCE_ORDER_STATUS_RECOVERY"
  orderId : a.entryResult.exchangeOrderId = some exchangeOrderId
  tradeIds : a.entryResult.tradeIds = trades.map Prod.fst
  quantity : a.entryResult.filledQuantity = (trades.map Prod.snd).sum

/-- The receipt of the fills of the facts, without trade and quantity. -/
def EntryFacts.fillReceipt (a : EntryFacts) (orderRecordId : String) : FillReceipt :=
  { entryFillReceipt a.intentId orderRecordId a.symbol a.direction a.entryResult 0 with
    commission := some (a.entryResult.totalFee / a.entryResult.tradeIds.length) }

/-- The shares of the trades of the facts. -/
def EntryFacts.shares (a : EntryFacts) : List (String × ℚ) := splitQuantity a.entryResult.filledQuantity a.entryResult.tradeIds

/-- Nothing but its shares stops a report of a recorded order: its risk is positive, its intent is neither only created nor
rejected, the ids of the order and of the trades are its own, its position and its protection fit the tables, and the prices of
a position do not round to zero. -/
structure EntryFacts.Storable (a : EntryFacts) (db : Database) (o : OrderRow) (exchangeOrderId : String) : Prop where
  risk : ∀ q, a.reconstructedInitialRisk = some q → 0 < q
  cycle : (∃ c ∈ db.cycles, c.cycleId = a.cycleId) ∨ ∀ c ∈ db.cycles, c.fencingToken ≠ a.fencingToken
  intent : ∃ r, db.intent a.intentId = some r ∧ r.state ≠ .intentCreated ∧ r.state ≠ .rejected
  order : db.orderOfIntent a.intentId = some o
  records : (db.orders.map OrderRow.orderRecordId).Nodup
  exchangeId : db.ExchangeIdOf o exchangeOrderId
  freshIds : db.FreshIds
  owned : ∀ f ∈ db.fills, f.accountId = "binance_testnet" → ∀ t ∈ a.entryResult.tradeIds, f.tradeId = some t →
    f.intentId = a.intentId ∧ f.exchangeOrderRecordId = o.orderRecordId ∧ f.exchangeOrderId = exchangeOrderId
  fills : ∀ f ∈ db.fillsOfOrder o.orderRecordId, 0 < f.filledQuantity ∧ (a.projectPosition = true → 1 / 20000 ≤ f.fillPrice)
  price : a.projectPosition = true → 1 / 20000 ≤ a.entryResult.averageFillPrice.getD 0
  projects : a.Projects db
  protects : a.Protects db

section

variable {db db' : Database} {a : EntryFacts} {o : OrderRow} {exchangeOrderId : String} {trades : List (String × ℚ)}

theorem EntryFacts.Reports.facts (h : a.Reports exchangeOrderId trades) :
    exchangeOrderId ≠ "" ∧ trades ≠ [] ∧ 0 < a.entryResult.averageFillPrice.getD 0 := by
  have hprojectable := h.projectable
  unfold EntryExecutionResult.positionProjectable at hprojectable
  simp only [Bool.and_eq_true, Bool.or_eq_true, decide_eq_true_eq, h.source, or_false, h.orderId, h.tradeIds, given,
    ne_eq, List.map_eq_nil_iff] at hprojectable
  obtain ⟨⟨⟨⟨-, hid⟩, htrades⟩, -⟩, hprice⟩ := hprojectable
  refine ⟨by simpa using hid, htrades, ?_⟩
  cases hp : a.entryResult.averageFillPrice with
  | none =>
    rw [hp] at hprice
    cases hprice
  | some p =>
    rw [hp] at hprice
    exact of_decide_eq_true hprice

theorem EntryFacts.shares_fst (a : EntryFacts) : a.shares.map Prod.fst = a.entryResult.tradeIds := splitQuantity_fst _ _

/-- The loop over the trades of the facts. -/
theorem saveEntryFills_eq_ok (h : a.Reports exchangeOrderId trades) (hnodup : (trades.map Prod.fst).Nodup)
    (hattached : (a.fillReceipt o.orderRecordId).Attached db) (hfresh : db.FreshIds)
    (howned : ∀ f ∈ db.fills, f.accountId = "binance_testnet" → ∀ t ∈ a.entryResult.tradeIds, f.tradeId = some t →
      (a.fillReceipt o.orderRecordId).Owns f) :
    saveEntryFills db a o.orderRecordId = .ok db' ↔ (∀ s ∈ db.newShares a.shares, 0 < s.2) ∧
      db' = db.filledAll ((db.newShares a.shares).map (a.fillReceipt o.orderRecordId).share) := by
  have hfst : (a.shares.map Prod.fst).Nodup := by
    rw [a.shares_fst, h.tradeIds]
    exact hnodup
  unfold saveEntryFills
  rw [if_neg h.source]
  refine saveShares_eq_ok h.facts.2.2 hfst hattached hfresh fun f hf haccount s hs htrade => ?_
  exact howned f hf haccount s.1 (a.shares_fst ▸ List.mem_map_of_mem hs) htrade

/-- The fills of an order, once those of a report are stored. -/
theorem fillsOfOrder_filledAll (db : Database) (r : FillReceipt) (shares : List (String × ℚ)) :
    ∃ rows, (db.filledAll (shares.map r.share)).fills = db.fills ++ rows ∧ FillRows r rows shares ∧
      (db.filledAll (shares.map r.share)).fillsOfOrder r.exchangeOrderRecordId =
        db.fillsOfOrder r.exchangeOrderRecordId ++ rows := by
  obtain ⟨rows, hfills, hrows⟩ := filledAll_shares db r shares
  refine ⟨rows, hfills, hrows, ?_⟩
  unfold Database.fillsOfOrder
  rw [hfills, List.filter_append, hrows.ofOrder]

/-- A report of which every new share is positive is stored. -/
theorem persistEntryAndProtection_stores (hreport : a.Reports exchangeOrderId trades) (hnodup : (trades.map Prod.fst).Nodup)
    (h : a.Storable db o exchangeOrderId) (hshares : ∀ s ∈ db.newShares a.shares, 0 < s.2) :
    ∃ db' rows, persistEntryAndProtection db a = .ok db' ∧ db'.fills = db.fills ++ rows ∧
      FillRows (a.fillReceipt o.orderRecordId) rows (db.newShares a.shares) := by
  obtain ⟨hnonempty, htrades, hprice⟩ := hreport.facts
  obtain ⟨hmem, howner⟩ := Table.get_some h.order
  -- the records up to the order
  obtain ⟨db₁, hcycle, -⟩ := ensureCycle_returns h.cycle
  have ht₁ : Touches [.cycles, .decisions, .intents] db (ensureDecision db₁ a.decisionId) :=
    ((ensureCycle_touches hcycle).mono (by decide)).trans ((ensureDecision_touches db₁ a.decisionId).mono (by decide))
  obtain ⟨r, hr, hcreated, hrejected⟩ := h.intent
  have hr₁ : (ensureDecision db₁ a.decisionId).intent a.intentId = some r := by
    unfold Database.intent
    rw [((ensureDecision_touches db₁ a.decisionId).intents (by decide)), ((ensureCycle_touches hcycle).intents (by decide))]
    exact hr
  obtain ⟨db₂, r', hintent, hr₂, hstate⟩ := ensureEntryIntent_keeps hr₁
  obtain ⟨db₃, hack, ht₃, -, hr₃, -⟩ := acknowledgeIntent_acks hr₂ "Acked"
  have ht : Touches [.cycles, .decisions, .intents] db db₃ := ht₁.trans
      (((ensureEntryIntent_touches hintent).mono (by decide)).trans (ht₃.mono (by decide)))
  have horder₃ : db₃.orderOfIntent a.intentId = some o := by
    unfold Database.orderOfIntent
    rw [(ht.orders (by decide))]
    exact h.order
  have hunique₃ : db₃.ExchangeIdOf o exchangeOrderId := by
    unfold Database.ExchangeIdOf
    rw [(ht.orders (by decide))]
    exact h.exchangeId
  have hmem₃ : o ∈ db₃.orders := (ht.orders (by decide)) ▸ hmem
  have hreceipt := saveExchangeOrderReceipt_receipts hmem₃ hnonempty hunique₃
  generalize hdb₄ : db₃.receipted o.orderRecordId exchangeOrderId = db₄ at hreceipt
  have ht₄ : Touches [.orders] db₃ db₄ := hdb₄ ▸ receipted_touches db₃ o.orderRecordId exchangeOrderId
  have hfills₄ : db₄.fills = db.fills := (ht₄.fills (by decide)).trans (ht.fills (by decide))
  have ho₄ : db₄.order o.orderRecordId = some { o with exchangeOrderId := some exchangeOrderId } := by
    have hget : (db₃.receipted o.orderRecordId exchangeOrderId).order o.orderRecordId = (db₃.order o.orderRecordId).map _ :=
      Table.get_modify_self fun _ => rfl
    have ho₃ : db₃.order o.orderRecordId = some o := Table.get_of_mem ((ht.orders (by decide)) ▸ h.records) hmem₃
    rw [hdb₄, ho₃] at hget
    exact hget
  have horder₄ : db₄.orderOfIntent a.intentId = some { o with exchangeOrderId := some exchangeOrderId } := by
    have hget : (db₃.receipted o.orderRecordId exchangeOrderId).orderOfIntent a.intentId =
        (db₃.orderOfIntent a.intentId).map _ := Table.get_modify fun _ => rfl
    rw [hdb₄, horder₃, Option.map_some, if_pos rfl] at hget
    exact hget
  have hack₄ : ({ o with exchangeOrderId := some exchangeOrderId } : OrderRow).acknowledgedId = some exchangeOrderId := by
    simp [OrderRow.acknowledgedId, hnonempty]
  -- the fills
  have hattached : (a.fillReceipt o.orderRecordId).Attached db₄ := by
    have hid : (a.fillReceipt o.orderRecordId).exchangeOrderId = exchangeOrderId := by
      simp [EntryFacts.fillReceipt, entryFillReceipt, hreport.orderId]
    exact ⟨⟨_, ho₄, howner, by rw [hid]⟩, by rw [hid]; exact hnonempty, rfl⟩
  have hfresh₄ : db₄.FreshIds := by
    refine h.freshIds.mono (ht₄.uuids.trans ht.uuids) (ht.drawn.trans ht₄.drawn) (fun o' ho' => ?_) hfills₄
    rw [← hdb₄] at ho'
    obtain ⟨x, hx, rfl⟩ := Table.mem_modify.mp ho'
    refine ⟨x, (ht.orders (by decide)) ▸ hx, ?_⟩
    split <;> rfl
  have howned₄ : ∀ f ∈ db₄.fills, f.accountId = "binance_testnet" → ∀ t ∈ a.entryResult.tradeIds, f.tradeId = some t →
      (a.fillReceipt o.orderRecordId).Owns f := by
    intro f hf haccount t ht htrade
    obtain ⟨hfIntent, hfOrder, hfExchange⟩ := h.owned f (hfills₄ ▸ hf) haccount t ht htrade
    refine ⟨hfIntent, hfOrder, hfExchange.trans ?_⟩
    simp [EntryFacts.fillReceipt, entryFillReceipt, hreport.orderId]
  have hnew : db₄.newShares a.shares = db.newShares a.shares := by
    unfold Database.newShares Database.fillByTrade
    rw [hfills₄]
  obtain ⟨rows, hstored, hrows, hofOrder⟩ := fillsOfOrder_filledAll db₄ (a.fillReceipt o.orderRecordId) (db.newShares a.shares)
  have hsave := (saveEntryFills_eq_ok hreport hnodup hattached hfresh₄ howned₄).mpr ⟨hnew ▸ hshares, rfl⟩
  rw [hnew] at hsave
  have ht₅ := filledAll_touches db₄ ((db.newShares a.shares).map (a.fillReceipt o.orderRecordId).share)
  generalize db₄.filledAll ((db.newShares a.shares).map (a.fillReceipt o.orderRecordId).share) = db₅ at *
  rw [hfills₄] at hstored
  have hrow : ∀ f ∈ rows, f.intentId = a.intentId ∧ f.exchangeOrderId = exchangeOrderId ∧ 0 < f.filledQuantity ∧
      (a.projectPosition = true → 1 / 20000 ≤ f.fillPrice) := by
    intro f hf
    obtain ⟨share, hshare, fillId, rfl⟩ := hrows.row hf
    refine ⟨rfl, ?_, hshares share hshare, h.price⟩
    simp [FillReceipt.row, FillReceipt.share, EntryFacts.fillReceipt, entryFillReceipt, hreport.orderId]
  -- the first trade is stored: before the call or by it
  have hfill : ∃ f ∈ db₅.fills, f.intentId = a.intentId ∧ f.exchangeOrderId = exchangeOrderId ∧
      f.exchangeOrderRecordId = o.orderRecordId := by
    cases hrowsEq : rows with
    | cons f rest =>
      have hf : f ∈ rows := hrowsEq ▸ List.mem_cons_self
      obtain ⟨hfIntent, hfExchange, -, -⟩ := hrow f hf
      obtain ⟨share, -, fillId, hfRow⟩ := hrows.row hf
      exact ⟨f, hstored ▸ List.mem_append_right _ hf, hfIntent, hfExchange, by rw [hfRow]; rfl⟩
    | nil =>
      rw [hrowsEq] at hrows
      have hnone : db.newShares a.shares = [] := List.forall₂_nil_left_iff.mp hrows
      obtain ⟨t, rest, hcons⟩ := List.exists_cons_of_ne_nil htrades
      have ht : t.1 ∈ a.entryResult.tradeIds := by
        rw [hreport.tradeIds, hcons]
        exact List.mem_cons_self
      obtain ⟨share, hshare, hfst⟩ := List.mem_map.mp (a.shares_fst ▸ ht)
      have hsome : ¬(db.fillByTrade "binance_testnet" share.1).isNone = true :=
        List.filter_eq_nil_iff.mp hnone share hshare
      obtain ⟨f, hf⟩ := Option.ne_none_iff_exists'.mp fun hnone => hsome (Option.isNone_iff_eq_none.mpr hnone)
      obtain ⟨hfMem, haccount, htrade⟩ := fillByTrade_some hf
      obtain ⟨hfIntent, hfOrder, hfExchange⟩ := h.owned f hfMem haccount t.1 ht (hfst ▸ htrade)
      exact ⟨f, hstored ▸ List.mem_append_left _ hfMem, hfIntent, hfExchange, hfOrder⟩
  obtain ⟨f, hf, hfIntent, hfExchange, hfOrder⟩ := hfill
  -- the intent is filled
  have hr₅ : db₅.intent a.intentId = some r'.acked := by
    unfold Database.intent
    rw [(ht₅.intents (by decide)), (ht₄.intents (by decide))]
    exact hr₃
  have horder₅ : db₅.orderOfIntent a.intentId = some { o with exchangeOrderId := some exchangeOrderId } := by
    unfold Database.orderOfIntent
    rw [(ht₅.orders (by decide))]
    exact horder₄
  have hacked : r'.acked.acked = r'.acked ∧ r'.acked.state ≠ .intentCreated ∧ r'.acked.state ≠ .rejected := by
    refine ⟨r'.acked_acked, ?_⟩
    rw [← hstate] at hcreated hrejected
    unfold IntentRow.acked
    split
    · exact ⟨by simp, by simp⟩
    · exact ⟨hcreated, hrejected⟩
  obtain ⟨db₆, hreconcile⟩ := reconcileIntentFromConfirmedFill_fills hr₅ hacked horder₅ rfl hnonempty ⟨f, hf, hfIntent, hfExchange⟩
  have ht₆ := reconcileIntentFromConfirmedFill_touches hreconcile
  -- the position and the protection
  have hpositions₆ : db₆.positions = db.positions :=
    (ht₆.positions (by decide)).trans ((ht₅.positions (by decide)).trans
        ((ht₄.positions (by decide)).trans (ht.positions (by decide))))
  have hprojects₆ : a.Projects db₆ := by
    unfold EntryFacts.Projects Database.openPosition
    rw [hpositions₆]
    exact h.projects
  have ho₆ : db₆.order o.orderRecordId = some { o with exchangeOrderId := some exchangeOrderId } := by
    unfold Database.order
    rw [(ht₆.orders (by decide)), (ht₅.orders (by decide))]
    exact ho₄
  have hofOrder₆ : db₆.fillsOfOrder o.orderRecordId = db.fillsOfOrder o.orderRecordId ++ rows := by
    unfold Database.fillsOfOrder at hofOrder ⊢
    rw [(ht₆.fills (by decide)), ← hfills₄]
    exact hofOrder
  have hsome₆ : db₆.fillsOfOrder o.orderRecordId ≠ [] := by
    refine List.ne_nil_of_mem (List.mem_filter.mpr ⟨?_, decide_eq_true hfOrder⟩)
    rw [(ht₆.fills (by decide))]
    exact hf
  have hpositive₆ : ∀ f ∈ db₆.fillsOfOrder o.orderRecordId,
      0 < f.filledQuantity ∧ (a.projectPosition = true → 1 / 20000 ≤ f.fillPrice) := by
    intro f hf
    rw [hofOrder₆] at hf
    rcases List.mem_append.mp hf with hold | hadded
    · exact h.fills f hold
    · exact ⟨(hrow f hadded).2.2.1, (hrow f hadded).2.2.2⟩
  obtain ⟨db₇, hproject⟩ := projectEntry_projects (o := { o with exchangeOrderId := some exchangeOrderId }) hprojects₆ ho₆ howner
    (by rw [hack₄]; rfl) hsome₆ hpositive₆
  have ht₇ := projectEntry_touches hproject
  have hprotects₇ : a.Protects db₇ := by
    refine h.protects.mono ?_ ?_ ?_
    · exact (ht₇.protections (by decide)).trans
        ((ht₆.protections (by decide)).trans
        ((ht₅.protections (by decide)).trans ((ht₄.protections (by decide)).trans (ht.protections (by decide)))))
    · exact ht₇.uuids.trans (ht₆.uuids.trans (ht₅.uuids.trans (ht₄.uuids.trans ht.uuids)))
    · exact ht.drawn.trans (ht₄.drawn.trans (ht₅.drawn.trans (ht₆.drawn.trans ht₇.drawn)))
  obtain ⟨db₈, hprotect⟩ := saveEntryProtection_protects hprotects₇
  have ht₈ := saveEntryProtection_touches hprotect
  refine ⟨db₈, rows, ?_, (ht₈.fills (by decide)).trans
      ((ht₇.fills (by decide)).trans ((ht₆.fills (by decide)).trans hstored)), hrows⟩
  have hrisk : ¬(a.reconstructedInitialRisk.any fun r => decide (r ≤ 0)) = true := by
    cases hq : a.reconstructedInitialRisk with
    | none => simp
    | some q => simpa using h.risk q hq
  unfold persistEntryAndProtection
  rw [if_neg hrisk, hreport.projectable]
  simp only [Bool.not_true, Bool.false_eq_true, if_false, bind, Except.bind, hcycle, hintent, hr₂, hack, ensureOrder, horder₃,
    hreport.orderId, Option.getD_some, hreceipt, hsave, hreconcile, hproject]
  exact hprotect

end

end TradingPlatform
