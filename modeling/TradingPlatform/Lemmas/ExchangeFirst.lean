import TradingPlatform.Lemmas.FillRecords
import TradingPlatform.Lemmas.Persistence

/-!
# Facts of the exchange come first

A filled intent rests on a fill under the exchange id of its order, a position on an acknowledged order with a fill, an active
protection on the exchange id of its stop. Orders and fills are only ever added, and an acknowledged order changes in one way
alone: a receipt is written over the one it has. Every stage keeps what the records rest on, but for that one.
-/

namespace TradingPlatform

variable {o : OrderRow} {intentId : String} {pending : String → Prop} {a : EntryFacts}

/-- A fill of an intent is stored under an exchange id. -/
def Database.fillUnder (db : Database) (intentId exchangeOrderId : String) : Bool :=
  db.fills.any fun f => decide (f.intentId = intentId ∧ f.exchangeOrderId = exchangeOrderId)

/-- A fill of the intent of an order is stored under the order's exchange id. -/
def Database.executedBy (db : Database) (o : OrderRow) : Bool := o.acknowledgedId.any (db.fillUnder o.intentId)

/-- An order of the intent has a fill. -/
def Database.Executed (db : Database) (intentId : String) : Prop :=
  ∃ o ∈ db.orders, o.intentId = intentId ∧ db.executedBy o = true

/-- The order a position was entered by is acknowledged and has a fill. -/
def Database.Entered (db : Database) (p : PositionRow) : Prop :=
  ∃ o ∈ db.orders, o.orderRecordId = p.orderRecordId ∧ o.intentId = p.intentId ∧ o.acknowledgedId.isSome = true ∧
    ∃ f ∈ db.fills, f.exchangeOrderRecordId = p.orderRecordId

/-- An active protection has the exchange id of its stop. -/
def ProtectionRow.Placed (r : ProtectionRow) : Prop :=
  r.state = .protectionActive → ∃ stop, r.stopExchangeOrderId = some stop ∧ stop ≠ ""

/-- What the records rest on. The intents that are pending are in the middle of an operation that confirms them. -/
structure Database.FactsFirst (pending : String → Prop) (db : Database) : Prop where
  keyed : db.Keyed
  records : (db.orders.map OrderRow.orderRecordId).Nodup
  filled : ∀ r ∈ db.intents, r.state = .filled → ¬pending r.intentId → db.Executed r.intentId
  positions : ∀ p ∈ db.positions, db.Entered p
  protections : ∀ r ∈ db.protections, r.Placed

/-! ## Orders and fills are added -/

theorem OrderRow.acknowledgedId_eq_some {o : OrderRow} {id : String} :
    o.acknowledgedId = some id ↔ o.exchangeOrderId = some id ∧ id ≠ "" := by
  unfold OrderRow.acknowledgedId
  rw [Option.filter_eq_some_iff, decide_eq_true_eq]

theorem fillUnder_eq_true {db : Database} {intentId exchangeOrderId : String} : db.fillUnder intentId exchangeOrderId = true ↔
    ∃ f ∈ db.fills, f.intentId = intentId ∧ f.exchangeOrderId = exchangeOrderId := by
  unfold Database.fillUnder
  simp

theorem executedBy_eq_true {db : Database} : db.executedBy o = true ↔
    ∃ id, o.acknowledgedId = some id ∧ db.fillUnder o.intentId id = true := by
  unfold Database.executedBy
  cases o.acknowledgedId <;> simp

/-- Orders and fills were added, and no acknowledged order was changed. -/
structure RecordsAdded (db db' : Database) : Prop where
  records : (db.orders.map OrderRow.orderRecordId).Nodup → (db'.orders.map OrderRow.orderRecordId).Nodup
  orders : ∀ o ∈ db.orders, o.acknowledgedId.isSome = true → o ∈ db'.orders
  fills : ∀ f ∈ db.fills, f ∈ db'.fills

section

variable {db db' db'' : Database}

theorem RecordsAdded.refl (db : Database) : RecordsAdded db db := ⟨fun h => h, fun _ h _ => h, fun _ h => h⟩

theorem RecordsAdded.trans (h : RecordsAdded db db') (h' : RecordsAdded db' db'') : RecordsAdded db db'' where
  records := fun hnd => h'.records (h.records hnd)
  orders := fun o ho hack => h'.orders o (h.orders o ho hack) hack
  fills := fun f hf => h'.fills f (h.fills f hf)

theorem RecordsAdded.of_same (ho : db'.orders = db.orders) (hf : db'.fills = db.fills) : RecordsAdded db db' :=
  ⟨fun hnd => ho ▸ hnd, fun _ h _ => ho ▸ h, fun _ h => hf ▸ h⟩

theorem RecordsAdded.fillUnder (h : RecordsAdded db db') {intentId exchangeOrderId : String}
    (hf : db.fillUnder intentId exchangeOrderId = true) : db'.fillUnder intentId exchangeOrderId = true := by
  obtain ⟨f, hmem, hof⟩ := fillUnder_eq_true.mp hf
  exact fillUnder_eq_true.mpr ⟨f, h.fills f hmem, hof⟩

theorem RecordsAdded.executedBy (h : RecordsAdded db db') {o : OrderRow} (ho : db.executedBy o = true) :
    db'.executedBy o = true := by
  obtain ⟨id, hack, hf⟩ := executedBy_eq_true.mp ho
  exact executedBy_eq_true.mpr ⟨id, hack, h.fillUnder hf⟩

theorem acknowledged_of_executedBy (h : db.executedBy o = true) : o.acknowledgedId.isSome = true := by
  obtain ⟨id, hack, -⟩ := executedBy_eq_true.mp h
  rw [hack]
  rfl

theorem RecordsAdded.executed (h : RecordsAdded db db') {intentId : String} (he : db.Executed intentId) :
    db'.Executed intentId := by
  obtain ⟨o, ho, hintent, hexecuted⟩ := he
  exact ⟨o, h.orders o ho (acknowledged_of_executedBy hexecuted), hintent, h.executedBy hexecuted⟩

theorem RecordsAdded.entered (h : RecordsAdded db db') {p : PositionRow} (he : db.Entered p) : db'.Entered p := by
  obtain ⟨o, ho, hrecord, hintent, hack, f, hf, hof⟩ := he
  exact ⟨o, h.orders o ho hack, hrecord, hintent, hack, f, h.fills f hf, hof⟩

end

/-- A new record is added to the orders. -/
theorem saveOrderSubmission_added {db db' : Database} {intentId clientOrderId orderRecordId : String} {quantity : ℚ}
    {leverage : ℤ} (h : saveOrderSubmission db intentId clientOrderId quantity leverage = .ok (orderRecordId, db')) :
    RecordsAdded db db' := by
  obtain ⟨-, hfresh, -, -, -, rfl⟩ := saveOrderSubmission_eq_ok.mp h
  refine ⟨fun hnd => ?_, fun _ ho _ => List.mem_append_left _ ho, fun _ hf => hf⟩
  rw [List.map_append, List.map_singleton, ← List.concat_eq_append]
  refine List.Nodup.concat (fun hmem => ?_) hnd
  obtain ⟨o, ho, hrecord⟩ := List.mem_map.mp hmem
  exact hfresh o ho hrecord

theorem receipted_records_nodup {db : Database} (hnd : (db.orders.map OrderRow.orderRecordId).Nodup)
    (orderRecordId exchangeOrderId : String) :
    ((db.receipted orderRecordId exchangeOrderId).orders.map OrderRow.orderRecordId).Nodup := by
  have hmap : (db.receipted orderRecordId exchangeOrderId).orders.map OrderRow.orderRecordId =
      db.orders.map OrderRow.orderRecordId := Table.map_modify fun _ => rfl
  rw [hmap]
  exact hnd

/-- A receipt changes no other order. -/
theorem mem_receipted_of_ne {db : Database} {orderRecordId exchangeOrderId : String} (ho : o ∈ db.orders)
    (hne : o.orderRecordId ≠ orderRecordId) : o ∈ (db.receipted orderRecordId exchangeOrderId).orders :=
  Table.mem_modify.mpr ⟨o, ho, if_neg hne⟩

/-- An order that a fill completes was not acknowledged. -/
theorem completeOrder_added {db db' : Database} {exchangeOrderId : String}
    (hnd : (db.orders.map OrderRow.orderRecordId).Nodup) (ho : o ∈ db.orders)
    (h : db.completeOrder o exchangeOrderId = .ok db') : RecordsAdded db db' := by
  unfold Database.completeOrder at h
  split at h
  · rename_i hnone
    obtain ⟨-, rfl⟩ := setExchangeOrderId_eq_ok.mp h
    refine ⟨fun hnd => receipted_records_nodup hnd o.orderRecordId exchangeOrderId, fun o' ho' hack => ?_, fun _ hf => hf⟩
    refine mem_receipted_of_ne ho' fun hsame => ?_
    obtain rfl := List.inj_on_of_nodup_map hnd ho' ho hsame
    rw [Option.isNone_iff_eq_none.mp hnone] at hack
    nomatch hack
  · cases h
    exact RecordsAdded.refl db

theorem saveExchangeFillReceipt_added {db db' : Database} {r : FillReceipt}
    (hnd : (db.orders.map OrderRow.orderRecordId).Nodup) (h : saveExchangeFillReceipt db r = .ok db') :
    RecordsAdded db db' ∧ db'.fillUnder r.intentId r.exchangeOrderId = true := by
  obtain ⟨o, db₁, horder, -, -, hcomplete, -, rfl⟩ := saveExchangeFillReceipt_eq_ok.mp h
  refine ⟨(completeOrder_added hnd (Table.get_some horder).1 hcomplete).trans ?_, ?_⟩
  · exact ⟨fun h => h, fun _ h _ => h, fun _ hf => List.mem_append_left _ hf⟩
  · exact fillUnder_eq_true.mpr ⟨_, List.mem_concat_self, rfl, rfl⟩

theorem saveFillOnce_added {db db' : Database} {r : FillReceipt} {tradeId : String}
    (hnd : (db.orders.map OrderRow.orderRecordId).Nodup) (h : saveFillOnce db r tradeId = .ok db') :
    RecordsAdded db db' ∧ db'.fillUnder r.intentId r.exchangeOrderId = true := by
  unfold saveFillOnce at h
  split at h
  · rename_i f hfound
    split at h
    · nomatch h
    · rename_i howns
      cases h
      rw [not_or, not_or, ne_eq, ne_eq, ne_eq, not_not, not_not, not_not] at howns
      have hmem : f ∈ db.fills := List.mem_of_find?_eq_some hfound
      exact ⟨RecordsAdded.refl db, fillUnder_eq_true.mpr ⟨f, hmem, howns.1, howns.2.2⟩⟩
  · exact saveExchangeFillReceipt_added (r := { r with tradeId := some tradeId }) hnd h

/-- A loop that stores fills under one exchange id has stored one if it had any to store. -/
theorem storeFills_added {α : Type} {store : Database → α → Except PyError Database} {intentId exchangeOrderId : String}
    (hstore : ∀ {b x b'}, (b.orders.map OrderRow.orderRecordId).Nodup → store b x = .ok b' →
      RecordsAdded b b' ∧ b'.fillUnder intentId exchangeOrderId = true) (l : List α) {db db' : Database}
    (hnd : (db.orders.map OrderRow.orderRecordId).Nodup) (h : l.foldlM store db = .ok db') :
    RecordsAdded db db' ∧ (l ≠ [] → db'.fillUnder intentId exchangeOrderId = true) := by
  induction l generalizing db with
  | nil =>
    obtain rfl : db = db' := by simpa [pure, Except.pure] using h
    exact ⟨RecordsAdded.refl db, fun hne => absurd rfl hne⟩
  | cons x l ih =>
    rw [List.foldlM_cons, Loops.bind_eq_ok] at h
    obtain ⟨db₁, hfirst, h⟩ := h
    obtain ⟨hadded, hunder⟩ := hstore hnd hfirst
    obtain ⟨hrest, -⟩ := ih (hadded.records hnd) h
    exact ⟨hadded.trans hrest, fun _ => hrest.fillUnder hunder⟩

theorem ensureOrder_added {db db' : Database} {intentId clientOrderId orderRecordId : String} {quantity : ℚ} {leverage : ℤ}
    (h : ensureOrder db intentId clientOrderId quantity leverage = .ok (orderRecordId, db')) : RecordsAdded db db' := by
  unfold ensureOrder at h
  split at h
  · cases h
    exact RecordsAdded.refl _
  · exact saveOrderSubmission_added h

theorem saveEntryFills_added {db db' : Database} {a : EntryFacts} {orderRecordId : String}
    (hnd : (db.orders.map OrderRow.orderRecordId).Nodup) (h : saveEntryFills db a orderRecordId = .ok db') :
    RecordsAdded db db' := by
  unfold saveEntryFills at h
  dsimp only at h
  split at h
  · unfold saveOrderLevelFillRecovery at h
    split at h
    · cases h
      exact RecordsAdded.refl db
    · exact (saveExchangeFillReceipt_added hnd h).1
  · have hstore : ∀ {b : Database} {x : String × ℚ} {b' : Database}, (b.orders.map OrderRow.orderRecordId).Nodup →
        saveFillOnce b { entryFillReceipt a.intentId orderRecordId a.symbol a.direction a.entryResult x.2 with
          commission := some (a.entryResult.totalFee / a.entryResult.tradeIds.length) } x.1 = .ok b' →
        RecordsAdded b b' ∧ b'.fillUnder a.intentId (a.entryResult.exchangeOrderId.getD "") = true :=
      fun hb hstep => saveFillOnce_added hb hstep
    exact (storeFills_added hstore _ hnd h).1

/-! ## What a stage keeps -/

/-- An intent is filled. -/
def Database.isFilled (db : Database) (intentId : String) : Bool :=
  db.intents.any fun r => decide (r.intentId = intentId ∧ r.state = .filled)

/-- A receipt over an order leaves its intent a fill: one is stored under the exchange id of the receipt or of another order,
or the exchange id is of another order and the receipt is refused. -/
def Database.receiptStands (db : Database) (o : OrderRow) (exchangeOrderId : String) : Bool :=
  db.fillUnder o.intentId exchangeOrderId || db.orders.any fun o' => decide (o'.orderRecordId ≠ o.orderRecordId) &&
    (decide (o'.exchangeOrderId = some exchangeOrderId) || (decide (o'.intentId = o.intentId) && db.executedBy o'))

section

variable {pending : String → Prop} {s : Scope} {db db' : Database}

theorem isFilled_eq_true : db.isFilled intentId = true ↔ ∃ r ∈ db.intents, r.intentId = intentId ∧ r.state = .filled := by
  unfold Database.isFilled
  simp

/-- An intent that is filled after an operation was filled before, or the operation filled it. -/
theorem Effect.filled_origin (h : Effect s db db') {r' : IntentRow} (hr' : r' ∈ db'.intents) (hfilled : r'.state = .filled) :
    (∃ r ∈ db.intents, r.intentId = r'.intentId ∧ (r.state = .filled ∨ s.fills r.intentId)) ∨ s.newIntent r' := by
  rcases h.intents.origin (fun _ _ hk => hk.id) h.keyed.intents hr' with ⟨r, hr, hkept⟩ | ⟨hnew, -⟩
  · exact .inl ⟨r, hr, hkept.id.symm, hkept.filled hfilled⟩
  · exact .inr hnew

/-- An operation that leaves the positions alone adds none. -/
theorem Effect.withoutPositions (h : Effect s db db') (hsame : db'.positions = db.positions) :
    Effect { s with newPosition := fun _ => False } db db' where
  intents := h.intents.mono (fun _ _ hk => { hk with risk := hk.risk, active := hk.active, filled := hk.filled }) fun _ hn => hn
  positions := hsame ▸ Table.Evolves.refl PositionKept.refl _
  keyed := h.keyed

/-- A stage that moves intents and positions along and places the protections it activates. -/
theorem Database.FactsFirst.placing (h : db.FactsFirst pending) (heffect : Effect s db db')
    (ht : Touches [.cycles, .decisions, .intents, .positions, .protections] db db')
    (hplaced : ∀ r ∈ db'.protections, r.Placed) (hfills : ∀ id, s.fills id → ¬pending id → db.Executed id)
    (hnew : ∀ r, s.newIntent r → r.state = .filled → pending r.intentId) (hposition : ∀ p, ¬s.newPosition p) :
    db'.FactsFirst pending := by
  have hadded : RecordsAdded db db' := RecordsAdded.of_same (ht.orders (by decide)) (ht.fills (by decide))
  refine ⟨heffect.keyed, hadded.records h.records, ?_, ?_, hplaced⟩
  · intro r' hr' hfilled hpending
    rcases heffect.filled_origin hr' hfilled with ⟨r, hr, hid, hwas | hfill⟩ | hmade
    · rw [← hid] at hpending ⊢
      exact hadded.executed (h.filled r hr hwas hpending)
    · rw [← hid] at hpending ⊢
      exact hadded.executed (hfills r.intentId hfill hpending)
    · exact absurd (hnew r' hmade hfilled) hpending
  · intro p' hp'
    have hids : (db'.positions.map PositionRow.positionId).Nodup := heffect.keyed.positions
    rcases heffect.positions.origin (fun _ _ hk => hk.id) hids hp' with ⟨p, hp, hkept⟩ | ⟨hmade, -⟩
    · obtain ⟨o, ho, hrecord, hintent, hack, f, hf, hof⟩ := hadded.entered (h.positions p hp)
      exact ⟨o, ho, hrecord.trans hkept.order.symm, hintent.trans hkept.intent.symm, hack, f, hf, hof.trans hkept.order.symm⟩
    · exact absurd hmade (hposition p')

/-- A stage that only moves intents and positions along. -/
theorem Database.FactsFirst.step (h : db.FactsFirst pending) (heffect : Effect s db db')
    (ht : Touches [.cycles, .decisions, .intents, .positions] db db')
    (hfills : ∀ id, s.fills id → ¬pending id → db.Executed id)
    (hnew : ∀ r, s.newIntent r → r.state = .filled → pending r.intentId) (hposition : ∀ p, ¬s.newPosition p) :
    db'.FactsFirst pending :=
  h.placing heffect (ht.mono (by decide)) ((ht.protections (by decide)) ▸ h.protections) hfills hnew hposition

/-- A stage that moves intents and positions along and fills none. -/
theorem Database.FactsFirst.quiet (h : db.FactsFirst pending) (heffect : Effect {} db db')
    (ht : Touches [.cycles, .decisions, .intents, .positions] db db') : db'.FactsFirst pending :=
  h.step heffect ht (fun _ hf => hf.elim) (fun _ hn => hn.elim) fun _ hp => hp

/-- A stage that adds orders and fills. -/
theorem Database.FactsFirst.added (h : db.FactsFirst pending) (hadded : RecordsAdded db db')
    (ht : Touches [.orders, .fills] db db') : db'.FactsFirst pending where
  keyed := ((ht.book (by decide)).effect (s := {}) h.keyed).keyed
  records := hadded.records h.records
  filled := by
    rw [(ht.intents (by decide))]
    exact fun r hr hfilled hpending => hadded.executed (h.filled r hr hfilled hpending)
  positions := by
    rw [(ht.positions (by decide))]
    exact fun p hp => hadded.entered (h.positions p hp)
  protections := by
    rw [(ht.protections (by decide))]
    exact h.protections

/-- A stage that places the protections it activates, and fills no intent. -/
theorem Database.FactsFirst.protected (h : db.FactsFirst pending) (heffect : Effect {} db db')
    (ht : Touches [.positions, .protections] db db') (hplaced : ∀ r ∈ db'.protections, r.Placed) : db'.FactsFirst pending :=
  h.placing heffect (ht.mono (by decide)) hplaced (fun _ hf => hf.elim) (fun _ hn => hn.elim) fun _ hp => hp

/-- An intent is no longer pending once it is executed. -/
theorem Database.FactsFirst.confirm (h : db.FactsFirst fun id => id = intentId)
    (hexecuted : db.Executed intentId) : db.FactsFirst fun _ => False :=
  { h with
    filled := fun r hr hfilled _ => by
      by_cases hid : r.intentId = intentId
      · rw [hid]
        exact hexecuted
      · exact h.filled r hr hfilled hid }

theorem Database.FactsFirst.open (h : db.FactsFirst fun _ => False) (pending : String → Prop) : db.FactsFirst pending :=
  { h with filled := fun r hr hfilled _ => h.filled r hr hfilled fun hf => hf }

/-- An order that is read by its record id after its receipt. -/
theorem mem_receipted {orderRecordId exchangeOrderId : String} {o : OrderRow} (ho : o ∈ db.orders)
    (hrecord : o.orderRecordId = orderRecordId) :
    { o with exchangeOrderId := some exchangeOrderId } ∈ (db.receipted orderRecordId exchangeOrderId).orders :=
  Table.mem_modify.mpr ⟨o, ho, if_pos hrecord⟩

/-- A receipt over an order whose intent is not filled, or that leaves the intent a fill. -/
theorem Database.FactsFirst.receipted (h : db.FactsFirst pending) {orderRecordId exchangeOrderId : String} {o : OrderRow}
    (ho : db.order orderRecordId = some o) (hne : exchangeOrderId ≠ "")
    (hfree : ∀ o' ∈ db.orders, o'.orderRecordId = orderRecordId ∨ o'.exchangeOrderId ≠ some exchangeOrderId)
    (hstands : ¬pending o.intentId → db.isFilled o.intentId = true → db.receiptStands o exchangeOrderId = true) :
    (db.receipted orderRecordId exchangeOrderId).FactsFirst pending := by
  obtain ⟨hmem, hrecord⟩ := Table.get_some ho
  have hwritten : { o with exchangeOrderId := some exchangeOrderId } ∈ (db.receipted orderRecordId exchangeOrderId).orders :=
    mem_receipted hmem hrecord
  refine ⟨⟨h.keyed.intents, h.keyed.positions, h.keyed.positionIntents⟩, receipted_records_nodup h.records _ _, ?_, ?_,
    h.protections⟩
  · intro r hr hfilled hpending
    obtain ⟨o₁, ho₁, hintent, hexecuted⟩ := h.filled r hr hfilled hpending
    by_cases hsame : o₁.orderRecordId = orderRecordId
    · -- the order of the fill is overwritten
      obtain rfl := List.inj_on_of_nodup_map h.records ho₁ hmem (hsame.trans hrecord.symm)
      have hstand := hstands (hintent ▸ hpending) (isFilled_eq_true.mpr ⟨r, hr, hintent.symm, hfilled⟩)
      unfold Database.receiptStands at hstand
      rw [Bool.or_eq_true, List.any_eq_true] at hstand
      rcases hstand with hunder | ⟨o₂, ho₂, hother⟩
      · refine ⟨_, hwritten, hintent, executedBy_eq_true.mpr ⟨exchangeOrderId, ?_, hunder⟩⟩
        exact OrderRow.acknowledgedId_eq_some.mpr ⟨rfl, hne⟩
      · rw [Bool.and_eq_true, decide_eq_true_eq, Bool.or_eq_true, decide_eq_true_eq, Bool.and_eq_true, decide_eq_true_eq]
          at hother
        obtain ⟨hrecord₂, htaken | ⟨hintent₂, hexecuted₂⟩⟩ := hother
        · rcases hfree o₂ ho₂ with hself | hfree
          · exact absurd (hself.trans hrecord.symm) hrecord₂
          · exact absurd htaken hfree
        · exact ⟨o₂, mem_receipted_of_ne ho₂ (hrecord ▸ hrecord₂), hintent₂.trans hintent, hexecuted₂⟩
    · exact ⟨o₁, mem_receipted_of_ne ho₁ hsame, hintent, hexecuted⟩
  · intro p hp
    obtain ⟨o₁, ho₁, hrecord₁, hintent, hack, hfill⟩ := h.positions p hp
    by_cases hsame : o₁.orderRecordId = orderRecordId
    · refine ⟨_, mem_receipted ho₁ hsame, hrecord₁, hintent, ?_, hfill⟩
      rw [OrderRow.acknowledgedId_eq_some.mpr ⟨rfl, hne⟩]
      rfl
    · exact ⟨o₁, mem_receipted_of_ne ho₁ hsame, hrecord₁, hintent, hack, hfill⟩

theorem saveExchangeOrderReceipt_first (h : db.FactsFirst pending) {orderRecordId exchangeOrderId : String}
    (ho : db.order orderRecordId = some o)
    (hstands : ¬pending o.intentId → db.isFilled o.intentId = true → db.receiptStands o exchangeOrderId = true)
    (hsave : saveExchangeOrderReceipt db orderRecordId exchangeOrderId = .ok db') : db'.FactsFirst pending := by
  obtain ⟨-, hne, hfree, rfl⟩ := saveExchangeOrderReceipt_eq_ok.mp hsave
  exact h.receipted ho hne hfree hstands

end

/-! ## Protections -/

section

variable {db db' : Database}

/-- The rows with one changed are placed, if the change places it. -/
theorem modifyProtection_placed (hplaced : ∀ r ∈ db.protections, r.Placed) {id : String} {f : ProtectionRow → ProtectionRow}
    (hf : ∀ r : ProtectionRow, r.protectionId = id → r.Placed → (f r).Placed) :
    ∀ r ∈ (db.modifyProtection id f).protections, r.Placed := by
  intro r hr
  obtain ⟨r₀, hr₀, rfl⟩ := Table.mem_modify.mp hr
  split
  · rename_i hid
    exact hf r₀ hid (hplaced r₀ hr₀)
  · exact hplaced r₀ hr₀

/-- A move to a state that is not active asks for no stop. -/
theorem transitionProtection_placed (hplaced : ∀ r ∈ db.protections, r.Placed) {id eventType : String}
    {current next : V2ProtectionState} (hnext : next ≠ .protectionActive)
    (h : transitionProtection db id current next eventType = .ok db') : ∀ r ∈ db'.protections, r.Placed := by
  obtain ⟨p, -, -, -, -, rfl⟩ := transitionProtection_eq_ok.mp h
  exact modifyProtection_placed hplaced fun _ _ _ hactive => absurd hactive hnext

theorem saveProtection_placed (hplaced : ∀ r ∈ db.protections, r.Placed) {d : ProtectionDraft}
    (h : saveProtection db d = .ok db') : ∀ r ∈ db'.protections, r.Placed := by
  unfold saveProtection at h
  split at h
  · nomatch h
  · rename_i hactive
    split at h
    · nomatch h
    · obtain ⟨-, -, -, -, -, rfl⟩ := insertProtection_eq_ok.mp h
      intro r hr
      rcases List.mem_append.mp hr with hr | hr
      · exact hplaced r hr
      · obtain rfl := List.mem_singleton.mp hr
        exact fun hstate => absurd hstate hactive

/-- A record is active only under the exchange id that was attached to it before. -/
theorem updateProtectionActive_placed (hplaced : ∀ r ∈ db.protections, r.Placed) {id stopExchangeOrderId : String}
    {tpExchangeOrderId : Option String} (h : updateProtectionActive db id stopExchangeOrderId tpExchangeOrderId = .ok db') :
    ∀ r ∈ db'.protections, r.Placed := by
  unfold updateProtectionActive at h
  split at h
  · nomatch h
  · rename_i p hp
    split at h
    · nomatch h
    · rename_i hne
      obtain ⟨⟨current, db₁⟩, hstart, h⟩ := Loops.bind_eq_ok.mp h
      -- the rows of the id have the stop from here on, whatever state they are moved to
      have hrows : ∀ r ∈ db₁.protections,
          r.Placed ∧ (r.protectionId = id → r.stopExchangeOrderId = some stopExchangeOrderId) := by
        have hattached : ∀ r ∈ (db.modifyProtection id fun p =>
            { p with stopExchangeOrderId := some stopExchangeOrderId, tpExchangeOrderId }).protections,
            r.Placed ∧ (r.protectionId = id → r.stopExchangeOrderId = some stopExchangeOrderId) := by
          intro r hr
          obtain ⟨r₀, hr₀, rfl⟩ := Table.mem_modify.mp hr
          by_cases hid : r₀.protectionId = id
          · rw [if_pos hid]
            exact ⟨fun _ => ⟨stopExchangeOrderId, rfl, hne⟩, fun _ => rfl⟩
          · rw [if_neg hid]
            exact ⟨hplaced r₀ hr₀, fun hsame => absurd hsame hid⟩
        unfold startProtection at hstart
        split at hstart
        · obtain ⟨db₂, hmove, hstart⟩ := Loops.bind_eq_ok.mp hstart
          cases hstart
          obtain ⟨q, -, -, -, -, rfl⟩ := transitionProtection_eq_ok.mp hmove
          intro r hr
          obtain ⟨r₀, hr₀, rfl⟩ := Table.mem_modify.mp hr
          obtain ⟨hwas, hstop⟩ := hattached r₀ hr₀
          split
          · exact ⟨nofun, hstop⟩
          · exact ⟨hwas, hstop⟩
        · cases hstart
          exact hattached
      obtain ⟨q, -, -, -, -, rfl⟩ := transitionProtection_eq_ok.mp h
      intro r hr
      obtain ⟨r₀, hr₀, rfl⟩ := Table.mem_modify.mp hr
      obtain ⟨hwas, hstop⟩ := hrows r₀ hr₀
      split
      · rename_i hid
        exact fun _ => ⟨stopExchangeOrderId, hstop hid, hne⟩
      · exact hwas

/-- The protection of an entry is placed if it is active. -/
theorem saveEntryProtection_placed (hplaced : ∀ r ∈ db.protections, r.Placed)
    (h : saveEntryProtection db a = .ok db') : ∀ r ∈ db'.protections, r.Placed := by
  unfold saveEntryProtection at h
  split at h
  · split at h
    · cases h
      exact hplaced
    · dsimp only at h
      obtain ⟨db₁, hsave, h⟩ := Loops.bind_eq_ok.mp h
      have hdrawn : ∀ r ∈ db.uuid4.2.protections, r.Placed := hplaced
      have hsaved := saveProtection_placed hdrawn hsave
      split at h
      · split at h
        · obtain ⟨db₂, hsubmit, h⟩ := Loops.bind_eq_ok.mp h
          obtain ⟨db₃, hactive, h⟩ := Loops.bind_eq_ok.mp h
          have hsubmitted := transitionProtection_placed hsaved (by decide) hsubmit
          rw [((markProtected_touches h).protections (by decide))]
          exact updateProtectionActive_placed hsubmitted hactive
        · cases h
          exact hsaved
      · cases h
        exact hsaved
  · cases h
    exact hplaced

theorem settleExitedProtection_placed (hplaced : ∀ r ∈ db.protections, r.Placed) {a : ExitFacts} {r : ProtectionRow}
    (h : settleExitedProtection a db r = .ok db') : ∀ r ∈ db'.protections, r.Placed := by
  unfold settleExitedProtection at h
  obtain ⟨⟨current, db₁⟩, htrigger, h⟩ := Loops.bind_eq_ok.mp h
  have hfirst : ∀ r ∈ db₁.protections, r.Placed := by
    unfold triggerProtection at htrigger
    split at htrigger
    · obtain ⟨db₂, hmove, htrigger⟩ := Loops.bind_eq_ok.mp htrigger
      cases htrigger
      exact transitionProtection_placed hplaced (by decide) hmove
    · cases htrigger
      exact hplaced
  dsimp only at h
  split at h
  · exact transitionProtection_placed hfirst (by decide) h
  · split at h
    · exact transitionProtection_placed hfirst (by decide) h
    · cases h
      exact hfirst

theorem reconcileClosedPositionProtections_placed (hplaced : ∀ r ∈ db.protections, r.Placed) {mode : V2ExecutionMode}
    {symbol : String} {openIds : List String} (h : reconcileClosedPositionProtections db mode symbol openIds = .ok db') :
    ∀ r ∈ db'.protections, r.Placed := by
  unfold reconcileClosedPositionProtections at h
  refine Loops.foldlM_keeps (P := fun b : Database => ∀ r ∈ b.protections, r.Placed) ?_ _ hplaced h
  intro b r b' hb hstep
  dsimp only at hstep
  split at hstep
  · cases hstep
    exact hb
  · exact transitionProtection_placed hb (by decide) hstep

end

/-! ## The operations on an entry -/

section

variable {db db' : Database}

/-- The order of an intent is known under its record id, and it was there before or the intent had none. -/
theorem ensureOrder_order {intentId clientOrderId orderRecordId : String} {quantity : ℚ} {leverage : ℤ}
    (hnd : (db.orders.map OrderRow.orderRecordId).Nodup)
    (h : ensureOrder db intentId clientOrderId quantity leverage = .ok (orderRecordId, db')) :
    ∃ o, db'.order orderRecordId = some o ∧ o.intentId = intentId ∧
      ((db.orderOfIntent intentId = some o ∧ db' = db) ∨ db.orderOfIntent intentId = none) := by
  unfold ensureOrder at h
  split at h
  · rename_i o ho
    cases h
    obtain ⟨hmem, hintent⟩ := Table.get_some ho
    exact ⟨o, Table.get_of_mem hnd hmem, hintent, .inl ⟨ho, rfl⟩⟩
  · rename_i hnone
    obtain ⟨rfl, hfresh, -, -, -, rfl⟩ := saveOrderSubmission_eq_ok.mp h
    refine ⟨{ orderRecordId := db.uuids db.drawn, intentId, clientOrderId, quantity, leverage }, ?_, rfl, .inr hnone⟩
    exact Table.get_append_singleton hfresh

/-- An intent without an order is not filled. -/
theorem Database.FactsFirst.unfilled (h : db.FactsFirst fun _ => False)
    (hnone : db.orderOfIntent intentId = none) : db.isFilled intentId = false := by
  by_contra hfilled
  rw [Bool.not_eq_false] at hfilled
  obtain ⟨r, hr, hid, hstate⟩ := isFilled_eq_true.mp hfilled
  obtain ⟨o, ho, hintent, -⟩ := h.filled r hr hstate fun hf => hf
  exact Table.get_none.mp hnone o ho (hintent.trans hid)

/-- The receipt of an entry order whose intent is not filled, or that stands. -/
theorem ensureOrder_receipt_first (h : db.FactsFirst fun _ => False) {intentId clientOrderId orderRecordId exchangeOrderId : String}
    {quantity : ℚ} {leverage : ℤ} {db₁ db₂ : Database}
    (horder : ensureOrder db intentId clientOrderId quantity leverage = .ok (orderRecordId, db₁))
    (hreceipt : saveExchangeOrderReceipt db₁ orderRecordId exchangeOrderId = .ok db₂)
    (hstands : ¬pending intentId → ∀ o, db.orderOfIntent intentId = some o → db.isFilled intentId = true →
      db.receiptStands o exchangeOrderId = true) : db₂.FactsFirst pending := by
  have h₁ := h.added (ensureOrder_added horder) ((ensureOrder_touches horder).mono (by decide))
  obtain ⟨o, ho, hintent, hold⟩ := ensureOrder_order h.records horder
  refine saveExchangeOrderReceipt_first (h₁.open pending) ho ?_ hreceipt
  intro hpending hfilled
  rw [hintent] at hpending hfilled
  rcases hold with ⟨hold, rfl⟩ | hnone
  · exact hstands hpending o hold hfilled
  · have hsame : db₁.isFilled intentId = db.isFilled intentId := by
      unfold Database.isFilled
      rw [((ensureOrder_touches horder).intents (by decide))]
    rw [hsame, h.unfilled hnone] at hfilled
    nomatch hfilled

/-- A stage on intents that fills none but those that are pending. -/
theorem Database.FactsFirst.intents {s : Scope} (h : db.FactsFirst pending)
    (heffect : Effect s db db') (ht : Touches [.cycles, .decisions, .intents] db db') (hfills : ∀ id, s.fills id → pending id)
    (hnew : ∀ r, s.newIntent r → r.state = .filled → pending r.intentId) : db'.FactsFirst pending :=
  h.step (heffect.withoutPositions (ht.positions (by decide))) (ht.mono (by decide))
      (fun id hf hpending => absurd (hfills id hf) hpending) hnew
    fun _ hp => hp

theorem persistEntryIntentBeforeSubmission_first (h : db.FactsFirst fun _ => False) {a : EntryReservation}
    {reason : Option String} (hok : persistEntryIntentBeforeSubmission db a = .ok (reason, db')) :
    db'.FactsFirst fun _ => False := by
  have heffect := persistEntryIntentBeforeSubmission_effect h.keyed hok
  refine h.intents heffect ?_ (fun _ hf => hf) fun r hr hfilled => absurd hfilled hr.2
  unfold persistEntryIntentBeforeSubmission at hok
  split at hok
  · nomatch hok
  · split at hok
    · cases hok
      exact Touches.refl _ _
    · obtain ⟨db₁, hcycle, hok⟩ := Loops.bind_eq_ok.mp hok
      have hframe : Touches [.cycles, .decisions, .intents] db (ensureDecision db₁ a.decisionId) :=
        ((ensureCycle_touches hcycle).mono (by decide)).trans ((ensureDecision_touches db₁ a.decisionId).mono (by decide))
      dsimp only at hok
      split at hok
      · cases hok
        exact hframe
      · obtain ⟨db₂, hcreate, hok⟩ := Loops.bind_eq_ok.mp hok
        cases hok
        exact hframe.trans ((createSubmittingIntent_touches hcreate).mono (by decide))

/-- The exchange id that a submission result writes to the order of its intent, and stores no fill under. -/
def EntryExecutionResult.bareReceipt (result : EntryExecutionResult) : Option String :=
  match result.status with
  | .unknown | .notAttempted => none
  | .rejected =>
    if result.tradeIds = [] ∨ result.filledQuantity ≤ 0 ∨ result.averageFillPrice = none then
      result.exchangeOrderId.filter fun id => decide (id ≠ "")
    else none
  | _ => result.exchangeOrderId.filter fun id => decide (id ≠ "")

theorem given_eq_true {text : Option String} : given text = true ↔ ∃ t, text = some t ∧ t ≠ "" := by
  unfold given
  cases text <;> simp

/-- A receipt of a given id is the id. -/
theorem filter_of_given {text : Option String} (h : given text = true) :
    (text.filter fun id => decide (id ≠ "")) = some (text.getD "") := by
  obtain ⟨t, rfl, hne⟩ := given_eq_true.mp h
  simp [Option.filter, hne]

theorem transitionIntent_first {pending : String → Prop} (h : db.FactsFirst pending) {id eventType : String}
    {current next : V2IntentState} (hnext : next ≠ .filled) (hok : transitionIntent db id current next eventType = .ok db') :
    db'.FactsFirst pending :=
  h.quiet (transitionIntent_quiet h.keyed hok hnext) ((transitionIntent_touches hok).mono (by decide))

theorem acknowledgeIntent_first (h : db.FactsFirst pending) {id eventType : String}
    {current : V2IntentState} (hok : acknowledgeIntent db id current eventType = .ok db') : db'.FactsFirst pending :=
  h.quiet (acknowledgeIntent_effect h.keyed hok) ((acknowledgeIntent_touches hok).mono (by decide))

/-- The guarded fills of a result are under its exchange id. -/
theorem saveGuardedFills_added (hnd : (db.orders.map OrderRow.orderRecordId).Nodup) {intent : IntentRow}
    {orderRecordId : String} {result : EntryExecutionResult}
    (h : saveGuardedFills db intent orderRecordId result = .ok db') :
    RecordsAdded db db' ∧ (¬(result.tradeIds = [] ∨ result.filledQuantity ≤ 0 ∨ result.averageFillPrice = none) →
      db'.fillUnder intent.intentId (result.exchangeOrderId.getD "") = true) := by
  unfold saveGuardedFills at h
  split at h
  · rename_i hnone
    cases h
    exact ⟨RecordsAdded.refl db, fun hsome => absurd hnone hsome⟩
  · rename_i hsome
    have hstore : ∀ {b : Database} {x : String × ℚ} {b' : Database}, (b.orders.map OrderRow.orderRecordId).Nodup →
        saveExchangeFillReceipt b
          { entryFillReceipt intent.intentId orderRecordId intent.symbol intent.direction result x.2 with
            tradeId := some x.1, commission := some (result.totalFee / result.tradeIds.length) } = .ok b' →
        RecordsAdded b b' ∧ b'.fillUnder intent.intentId (result.exchangeOrderId.getD "") = true :=
      fun hb hstep => saveExchangeFillReceipt_added hb hstep
    obtain ⟨hadded, hunder⟩ := storeFills_added hstore _ hnd h
    refine ⟨hadded, fun _ => hunder fun hempty => hsome (.inl ?_)⟩
    have hids := splitQuantity_fst result.filledQuantity result.tradeIds
    rw [hempty] at hids
    exact hids.symm

/-- The order of a receipt, as it is read back. -/
theorem saveExchangeOrderReceipt_order {orderRecordId exchangeOrderId : String} {o : OrderRow}
    (ho : db.order orderRecordId = some o) (h : saveExchangeOrderReceipt db orderRecordId exchangeOrderId = .ok db') :
    ∃ o' ∈ db'.orders, o'.intentId = o.intentId ∧ o'.acknowledgedId = some exchangeOrderId := by
  obtain ⟨-, hne, -, rfl⟩ := saveExchangeOrderReceipt_eq_ok.mp h
  obtain ⟨hmem, hrecord⟩ := Table.get_some ho
  exact ⟨_, mem_receipted hmem hrecord, rfl, OrderRow.acknowledgedId_eq_some.mpr ⟨rfl, hne⟩⟩

/-- A guarded entry is executed by the fills that are stored with its receipt. -/
theorem guardedEntry_first (h : db.FactsFirst fun _ => False) {intentId : String} {intent : IntentRow} {leverage : ℤ}
    {orderRecordId : String} {result : EntryExecutionResult} {db₁ db₂ db₃ : Database} (hintent : db.intent intentId = some intent)
    (horder : ensureOrder db intentId result.clientOrderId result.orderQuantity leverage = .ok (orderRecordId, db₁))
    (hreceipt : saveExchangeOrderReceipt db₁ orderRecordId (result.exchangeOrderId.getD "") = .ok db₂)
    (hfills : saveGuardedFills db₂ intent orderRecordId result = .ok db₃)
    (hsome : ¬(result.tradeIds = [] ∨ result.filledQuantity ≤ 0 ∨ result.averageFillPrice = none)) :
    db₃.FactsFirst fun _ => False := by
  have h₂ : db₂.FactsFirst fun id => id = intentId :=
    ensureOrder_receipt_first h horder hreceipt fun hpending => absurd rfl hpending
  obtain ⟨hadded, hunder⟩ := saveGuardedFills_added h₂.records hfills
  have h₃ := h₂.added hadded (saveGuardedFills_touches hfills)
  obtain ⟨o, ho, hof, -⟩ := ensureOrder_order h.records horder
  obtain ⟨o', ho', hof', hack⟩ := saveExchangeOrderReceipt_order ho hreceipt
  have hown : intent.intentId = intentId := (Table.get_some hintent).2
  refine h₃.confirm ⟨o', hadded.orders o' ho' (by rw [hack]; rfl), hof'.trans hof, executedBy_eq_true.mpr ⟨_, hack, ?_⟩⟩
  rw [hof', hof, ← hown]
  exact hunder hsome

theorem persistEntrySubmissionResult_first (h : db.FactsFirst fun _ => False) {leverage : ℤ} {result : EntryExecutionResult}
    (hstands : ∀ y, result.bareReceipt = some y → ∀ o, db.orderOfIntent intentId = some o → db.isFilled intentId = true →
      db.receiptStands o y = true)
    (hok : persistEntrySubmissionResult db intentId leverage result = .ok db') : db'.FactsFirst fun _ => False := by
  unfold persistEntrySubmissionResult at hok
  split at hok
  · nomatch hok
  · rename_i intent hintent
    unfold EntryExecutionResult.bareReceipt at hstands
    split at hok
    · exact transitionIntent_first h (by decide) hok
    · rename_i hstatus
      split at hok
      · rename_i hgiven
        obtain ⟨⟨orderRecordId, db₁⟩, horder, hok⟩ := Loops.bind_eq_ok.mp hok
        obtain ⟨db₂, hreceipt, hok⟩ := Loops.bind_eq_ok.mp hok
        obtain ⟨db₃, hfills, hok⟩ := Loops.bind_eq_ok.mp hok
        refine acknowledgeIntent_first ?_ hok
        by_cases hnone : result.tradeIds = [] ∨ result.filledQuantity ≤ 0 ∨ result.averageFillPrice = none
        · simp only [hstatus, hnone, if_true, filter_of_given hgiven] at hstands
          have h₂ : db₂.FactsFirst fun _ => False :=
            ensureOrder_receipt_first h horder hreceipt fun _ o ho hfilled => hstands _ rfl o ho hfilled
          exact h₂.added (saveGuardedFills_added h₂.records hfills).1 (saveGuardedFills_touches hfills)
        · exact guardedEntry_first h hintent horder hreceipt hfills hnone
      · exact transitionIntent_first h (by decide) hok
    · exact transitionIntent_first h (by decide) hok
    · rename_i hunknown hrejected hattempted
      split at hok
      · rename_i hgiven
        obtain ⟨⟨orderRecordId, db₁⟩, horder, hok⟩ := Loops.bind_eq_ok.mp hok
        obtain ⟨db₂, hreceipt, hok⟩ := Loops.bind_eq_ok.mp hok
        refine acknowledgeIntent_first (ensureOrder_receipt_first h horder hreceipt fun _ o ho hfilled => ?_) hok
        refine hstands _ ?_ o ho hfilled
        cases hstatus : result.status with
        | unknown => exact absurd hstatus hunknown
        | rejected => exact absurd hstatus hrejected
        | notAttempted => exact absurd hstatus hattempted
        | _ => exact filter_of_given hgiven
      · cases hok
        exact h

/-! ### Entry and protection -/

/-- A fill is reconciled with an order that it is a fill of. -/
theorem reconcileIntentFromConfirmedFill_executed {id : String} (h : reconcileIntentFromConfirmedFill db id = .ok db') :
    db'.Executed id := by
  have hadded : RecordsAdded db db' :=
    RecordsAdded.of_same ((reconcileIntentFromConfirmedFill_touches h).orders (by decide))
        ((reconcileIntentFromConfirmedFill_touches h).fills (by decide))
  unfold reconcileIntentFromConfirmedFill at h
  split at h
  · nomatch h
  · split at h
    · nomatch h
    · rename_i exchangeOrderId horder
      split at h
      · nomatch h
      · rename_i hne
        split at h
        · nomatch h
        · rename_i hfill
          obtain ⟨o, ho, hexchange⟩ := Option.bind_eq_some_iff.mp horder
          obtain ⟨hmem, hintent⟩ := Table.get_some ho
          refine hadded.executed ⟨o, hmem, hintent, executedBy_eq_true.mpr ⟨exchangeOrderId, ?_, ?_⟩⟩
          · exact OrderRow.acknowledgedId_eq_some.mpr ⟨hexchange, hne⟩
          · rw [hintent]
            unfold Database.fillUnder
            rw [List.any_eq_not_all_not]
            simpa using hfill

/-- A position is projected from an acknowledged order with a fill. -/
theorem projectPositionFromConfirmedFills_first (h : db.FactsFirst fun _ => False) {a : Projection}
    (hok : projectPositionFromConfirmedFills db a = .ok db') : db'.FactsFirst fun _ => False := by
  have heffect := projectPositionFromConfirmedFills_effect h.keyed hok
  unfold projectPositionFromConfirmedFills at hok
  split at hok
  · nomatch hok
  · rename_i o ho
    split at hok
    · nomatch hok
    · rename_i hintent
      obtain ⟨totals, htotals, hok⟩ := Loops.bind_eq_ok.mp hok
      split at hok
      · nomatch hok
      · rename_i hack
        split at hok
        · rename_i existing _
          cases hok
          refine h.quiet (modifyPosition_quiet h.keyed existing.positionId fun _ => ?_) ⟨?_, rfl, le_refl _⟩
          · exact ⟨rfl, rfl, rfl, rfl, rfl, rfl, fun ha => ha⟩
          · intro t ht
            cases t <;> first | rfl | simp at ht
        · obtain ⟨-, -, -, -, -, rfl⟩ := insertPosition_eq_ok.mp hok
          refine ⟨heffect.keyed, h.records, h.filled, ?_, h.protections⟩
          intro p hp
          rcases List.mem_append.mp hp with hp | hp
          · exact h.positions p hp
          · obtain rfl := List.mem_singleton.mp hp
            obtain ⟨hmem, hrecord⟩ := Table.get_some ho
            refine ⟨o, hmem, hrecord, not_not.mp hintent, by simpa [Option.isSome_iff_ne_none] using hack, ?_⟩
            unfold aggregateFillRows at htotals
            dsimp only at htotals
            split at htotals
            · nomatch htotals
            · rename_i hfills
              obtain ⟨f, hf⟩ := List.exists_mem_of_ne_nil _ hfills
              obtain ⟨hf, hof⟩ := List.mem_filter.mp hf
              exact ⟨f, hf, of_decide_eq_true hof⟩

/-- The facts of an entry confirm its intent, whatever they find. -/
theorem persistEntryAndProtection_first (h : db.FactsFirst fun _ => False)
    (hok : persistEntryAndProtection db a = .ok db') : db'.FactsFirst fun _ => False := by
  unfold persistEntryAndProtection at hok
  split at hok
  · nomatch hok
  · split at hok
    · cases hok
      exact h
    · obtain ⟨db₀, hcycle, hok⟩ := Loops.bind_eq_ok.mp hok
      obtain ⟨db₁, hintent, hok⟩ := Loops.bind_eq_ok.mp hok
      split at hok
      · nomatch hok
      · rename_i intent hfound
        obtain ⟨db₂, hack, hok⟩ := Loops.bind_eq_ok.mp hok
        obtain ⟨⟨orderRecordId, db₃⟩, horder, hok⟩ := Loops.bind_eq_ok.mp hok
        obtain ⟨db₄, hreceipt, hok⟩ := Loops.bind_eq_ok.mp hok
        obtain ⟨db₅, hfills, hok⟩ := Loops.bind_eq_ok.mp hok
        obtain ⟨db₆, hreconcile, hok⟩ := Loops.bind_eq_ok.mp hok
        obtain ⟨db₇, hproject, hok⟩ := Loops.bind_eq_ok.mp hok
        have hframe : Touches [.cycles, .decisions] db (ensureDecision db₀ a.decisionId) :=
          ((ensureCycle_touches hcycle).mono (by decide)).trans ((ensureDecision_touches db₀ a.decisionId).mono (by decide))
        have h₀ := (h.quiet ((hframe.book (by decide)).effect h.keyed) (hframe.mono (by decide))).open fun id => id = a.intentId
        have h₁ := h₀.intents (ensureEntryIntent_effect h₀.keyed hintent) ((ensureEntryIntent_touches hintent).mono (by decide))
          (fun _ hf => hf) fun _ hn _ => hn.1
        have h₂ := acknowledgeIntent_first h₁ hack
        have h₃ := h₂.added (ensureOrder_added horder) ((ensureOrder_touches horder).mono (by decide))
        obtain ⟨o, ho, hof, -⟩ := ensureOrder_order h₂.records horder
        have h₄ := saveExchangeOrderReceipt_first h₃ ho (fun hpending => absurd hof hpending) hreceipt
        have h₅ := h₄.added (saveEntryFills_added h₄.records hfills) (saveEntryFills_touches hfills)
        have h₆ := h₅.intents (reconcileIntentFromConfirmedFill_effect h₅.keyed hreconcile)
          ((reconcileIntentFromConfirmedFill_touches hreconcile).mono (by decide)) (fun _ hf => hf) fun _ hn => hn.elim
        have hconfirmed := h₆.confirm (reconcileIntentFromConfirmedFill_executed hreconcile)
        have h₇ : db₇.FactsFirst fun _ => False := by
          unfold projectEntry at hproject
          split at hproject
          · exact projectPositionFromConfirmedFills_first hconfirmed hproject
          · cases hproject
            exact hconfirmed
        exact h₇.protected (saveEntryProtection_effect h₇.keyed hok) (saveEntryProtection_touches hok)
          (saveEntryProtection_placed h₇.protections hok)

/-! ## The operations on an exit -/

/-- A receipt that stands is not unsettled by what is added. -/
theorem RecordsAdded.receiptStands (h : RecordsAdded db db') {o : OrderRow} {exchangeOrderId : String}
    (hne : exchangeOrderId ≠ "") (hstands : db.receiptStands o exchangeOrderId = true) :
    db'.receiptStands o exchangeOrderId = true := by
  unfold Database.receiptStands at hstands ⊢
  rw [Bool.or_eq_true, List.any_eq_true] at hstands ⊢
  rcases hstands with hunder | ⟨o', ho', hother⟩
  · exact .inl (h.fillUnder hunder)
  · simp only [Bool.and_eq_true, Bool.or_eq_true, decide_eq_true_eq] at hother ⊢
    obtain ⟨hrecord, htaken | ⟨hintent, hexecuted⟩⟩ := hother
    · refine .inr ⟨o', h.orders o' ho' ?_, hrecord, .inl htaken⟩
      rw [OrderRow.acknowledgedId_eq_some.mpr ⟨htaken, hne⟩]
      rfl
    · exact .inr ⟨o', h.orders o' ho' (acknowledged_of_executedBy hexecuted), hrecord, .inr ⟨hintent, h.executedBy hexecuted⟩⟩

/-- The order of an exit is the one of its client id, and belongs to its intent. It was there before, or it is new. -/
theorem ensureExitOrder_order {a : ExitIdentity} {leverage : ℤ} (h : ensureExitOrder db a leverage = .ok db') :
    RecordsAdded db db' ∧ ∃ o, db'.orderOfClientId a.clientOrderId = some o ∧ o.intentId = exitIntentId a.clientOrderId ∧
      ((db.orderOfClientId a.clientOrderId = some o ∧ db' = db) ∨ ∀ o' ∈ db.orders, o'.orderRecordId ≠ o.orderRecordId) := by
  unfold ensureExitOrder at h
  split at h
  · obtain ⟨⟨orderRecordId, db₁⟩, hsave, h⟩ := Loops.bind_eq_ok.mp h
    cases h
    refine ⟨saveOrderSubmission_added hsave, ?_⟩
    obtain ⟨rfl, hfresh, hclient, -, -, rfl⟩ := saveOrderSubmission_eq_ok.mp hsave
    exact ⟨_, Table.get_append_singleton hclient, rfl, .inr hfresh⟩
  · rename_i o ho
    split at h
    · nomatch h
    · rename_i hintent
      cases h
      exact ⟨RecordsAdded.refl db, o, ho, not_not.mp hintent, .inl ⟨ho, rfl⟩⟩

/-- An exit that is submitted fills no intent; a receipt stands on its order afterwards if it stood on the one there was. -/
theorem persistExitIntentBeforeSubmission_first (h : db.FactsFirst fun _ => False) {a : ExitIdentity}
    (hok : persistExitIntentBeforeSubmission db a = .ok db') :
    (db'.FactsFirst fun _ => False) ∧ ∃ o, db'.orderOfClientId a.clientOrderId = some o ∧
      o.intentId = exitIntentId a.clientOrderId ∧ ∀ y, y ≠ "" →
        (db.orderOfClientId a.clientOrderId = some o → db.isFilled o.intentId = true → db.receiptStands o y = true) →
        db'.isFilled o.intentId = true → db'.receiptStands o y = true := by
  unfold persistExitIntentBeforeSubmission at hok
  split at hok
  · nomatch hok
  · obtain ⟨⟨p, e, eo⟩, -, hok⟩ := Loops.bind_eq_ok.mp hok
    obtain ⟨db₁, hcycle, hok⟩ := Loops.bind_eq_ok.mp hok
    obtain ⟨db₂, hintent, hok⟩ := Loops.bind_eq_ok.mp hok
    have h₁ := h.quiet (((ensureCycle_touches hcycle).book (by decide)).effect h.keyed)
        ((ensureCycle_touches hcycle).mono (by decide))
    -- an exit intent that is created is not filled
    have heffect : ∃ s : Scope, Effect s db₁ db₂ ∧ (∀ id, ¬s.fills id) ∧ ∀ r, s.newIntent r → r.state ≠ .filled := by
      unfold ensureExitIntent at hintent
      split at hintent
      · have hstate : (a.intentRow p e.candidateType).state ≠ .filled := V2IntentState.noConfusion
        exact ⟨_, createSubmittingIntent_effect h₁.keyed hintent hstate, fun _ hf => hf, fun _ hn => hn.2⟩
      · cases hintent
        exact ⟨{}, (SameBook.refl db₁).effect h₁.keyed, fun _ hf => hf, fun _ hn => hn.elim⟩
    obtain ⟨s, heffect, hfills, hnew⟩ := heffect
    have h₂ := h₁.intents heffect ((ensureExitIntent_touches hintent).mono (by decide)) (fun id hf => absurd hf (hfills id))
      fun r hr hfilled => absurd hfilled (hnew r hr)
    obtain ⟨hadded, o, ho, hof, hold⟩ := ensureExitOrder_order hok
    have h₃ := h₂.added hadded ((ensureExitOrder_touches hok).mono (by decide))
    refine ⟨h₃, o, ho, hof, fun y hne hstands hfilled => ?_⟩
    have hadded' : RecordsAdded db db' := by
      refine RecordsAdded.trans (RecordsAdded.of_same ?_ ?_) hadded
      · exact ((ensureExitIntent_touches hintent).orders (by decide)).trans ((ensureCycle_touches hcycle).orders (by decide))
      · exact ((ensureExitIntent_touches hintent).fills (by decide)).trans ((ensureCycle_touches hcycle).fills (by decide))
    -- the intent was filled before
    have hwas : ∃ r ∈ db.intents, r.intentId = o.intentId ∧ r.state = .filled := by
      obtain ⟨r', hr', hid, hstate⟩ := isFilled_eq_true.mp hfilled
      rw [((ensureExitOrder_touches hok).intents (by decide))] at hr'
      rcases heffect.filled_origin hr' hstate with ⟨r, hr, hrid, hwas | hfill⟩ | hmade
      · rw [((ensureCycle_touches hcycle).intents (by decide))] at hr
        exact ⟨r, hr, hrid.trans hid, hwas⟩
      · exact absurd hfill (hfills r.intentId)
      · exact absurd hstate (hnew r' hmade)
    obtain ⟨r, hr, hrid, hstate⟩ := hwas
    rcases hold with ⟨hclient, -⟩ | hfresh
    · have hclient' : db.orderOfClientId a.clientOrderId = some o := by
        unfold Database.orderOfClientId at hclient ⊢
        rw [((ensureExitIntent_touches hintent).orders (by decide)), ((ensureCycle_touches hcycle).orders (by decide))] at hclient
        exact hclient
      exact hadded'.receiptStands hne (hstands hclient' (isFilled_eq_true.mpr ⟨r, hr, hrid, hstate⟩))
    · -- a new order of a filled intent: the one that was filled is another
      obtain ⟨o', ho', hof', hexecuted⟩ := h.filled r hr hstate fun hf => hf
      have hack := acknowledged_of_executedBy hexecuted
      have hmem₂ : o' ∈ db₂.orders := by
        rw [((ensureExitIntent_touches hintent).orders (by decide)), ((ensureCycle_touches hcycle).orders (by decide))]
        exact ho'
      unfold Database.receiptStands
      rw [Bool.or_eq_true, List.any_eq_true]
      refine .inr ⟨o', hadded'.orders o' ho' hack, ?_⟩
      simp only [Bool.and_eq_true, Bool.or_eq_true, decide_eq_true_eq]
      exact ⟨hfresh o' hmem₂, .inr ⟨hof'.trans hrid, hadded'.executedBy hexecuted⟩⟩

/-- The exchange id that an exit result writes to the order of the exit. -/
def ExitExecutionResult.receipt (result : ExitExecutionResult) : Option String :=
  match result.status with
  | .unknown | .failed | .notAttempted => none
  | _ => result.exchangeOrderId.filter fun id => decide (id ≠ "")

theorem persistExitSubmissionResult_first (h : db.FactsFirst fun _ => False) {positionId : String} {result : ExitExecutionResult}
    (hstands : ∀ y, result.receipt = some y → ∀ o, db.orderOfClientId result.clientOrderId = some o →
      db.isFilled o.intentId = true → db.receiptStands o y = true)
    (hok : persistExitSubmissionResult db positionId result = .ok db') : db'.FactsFirst fun _ => False := by
  unfold persistExitSubmissionResult at hok
  dsimp only at hok
  split at hok
  · nomatch hok
  · rename_i p hp
    split at hok
    · nomatch hok
    · split at hok
      · nomatch hok
      · rename_i o ho
        have hsettle : ∀ {next : V2IntentState} {eventType : String} {c : Prop} [Decidable c] {current : V2IntentState},
            next ≠ .filled → (if c then transitionIntent db (exitIntentId result.clientOrderId) current next eventType
              else .ok db) = .ok db' → db'.FactsFirst fun _ => False := by
          intro next eventType c _ current hnext hmove
          split at hmove
          · exact transitionIntent_first h hnext hmove
          · cases hmove
            exact h
        split at hok
        · exact hsettle (by decide) hok
        · exact hsettle (by split <;> decide) hok
        · exact hsettle (by split <;> decide) hok
        · rename_i hunknown hfailed hattempted
          split at hok
          · rename_i hgiven
            obtain ⟨db₁, hreceipt, hok⟩ := Loops.bind_eq_ok.mp hok
            obtain ⟨db₂, hack, hok⟩ := Loops.bind_eq_ok.mp hok
            have hreceipted : result.receipt = some (result.exchangeOrderId.getD "") := by
              unfold ExitExecutionResult.receipt
              cases hstatus : result.status with
              | unknown => exact absurd hstatus hunknown
              | failed => exact absurd hstatus hfailed
              | notAttempted => exact absurd hstatus hattempted
              | _ => exact filter_of_given hgiven
            have horder : db.order o.orderRecordId = some o := Table.get_of_mem h.records (Table.get_some ho).1
            have h₁ := saveExchangeOrderReceipt_first h horder (fun _ hfilled => hstands _ hreceipted o ho hfilled) hreceipt
            have h₂ := acknowledgeIntent_first h₁ hack
            exact h₂.quiet (startReducing_effect h₂.keyed hok) ((startReducing_touches hok).mono (by decide))
          · cases hok
            exact h

/-- A result that the third transaction may rest on: the exchange confirmed it. -/
def ExitExecutionResult.confirmed (result : ExitExecutionResult) : Bool :=
  decide (result.status = .closed ∨ result.status = .partiallyReduced) && given result.exchangeOrderId &&
    decide (result.tradeIds ≠ [] ∧ 0 < result.reducedQuantity ∧ result.averageFillPrice ≠ none ∧ result.fillTimestamp ≠ none)

theorem confirmed_eq_true {result : ExitExecutionResult} : result.confirmed = true ↔
    (result.status = .closed ∨ result.status = .partiallyReduced) ∧ given result.exchangeOrderId = true ∧
      result.tradeIds ≠ [] ∧ 0 < result.reducedQuantity ∧ result.averageFillPrice ≠ none ∧ result.fillTimestamp ≠ none := by
  unfold ExitExecutionResult.confirmed
  rw [Bool.and_eq_true, Bool.and_eq_true, decide_eq_true_eq, decide_eq_true_eq, and_assoc]

/-- The order of a confirmed exit has the exchange id of the result. -/
theorem persistExitSubmissionResult_order {positionId : String} {result : ExitExecutionResult}
    (hconfirmed : result.confirmed = true) {o : OrderRow} (ho : db.orderOfClientId result.clientOrderId = some o)
    (hok : persistExitSubmissionResult db positionId result = .ok db') :
    ∃ o', db'.orderOfClientId result.clientOrderId = some o' ∧ o'.intentId = o.intentId ∧
      o'.acknowledgedId = some (result.exchangeOrderId.getD "") := by
  obtain ⟨hstatus, hgiven, -⟩ := confirmed_eq_true.mp hconfirmed
  unfold persistExitSubmissionResult at hok
  dsimp only at hok
  split at hok
  · nomatch hok
  · split at hok
    · nomatch hok
    · rw [ho] at hok
      dsimp only at hok
      split at hok
      · rename_i hunknown
        simp [hunknown] at hstatus
      · rename_i hfailed
        simp [hfailed] at hstatus
      · rename_i hattempted
        simp [hattempted] at hstatus
      · rw [if_pos hgiven] at hok
        obtain ⟨db₁, hreceipt, hrest⟩ := Loops.bind_eq_ok.mp hok
        obtain ⟨db₂, hack, hstart⟩ := Loops.bind_eq_ok.mp hrest
        obtain ⟨-, hne, -, rfl⟩ := saveExchangeOrderReceipt_eq_ok.mp hreceipt
        refine ⟨{ o with exchangeOrderId := some (result.exchangeOrderId.getD "") }, ?_, rfl, ?_⟩
        · have hread : (db.receipted o.orderRecordId (result.exchangeOrderId.getD "")).orderOfClientId result.clientOrderId =
              (db.orderOfClientId result.clientOrderId).map fun r => if r.orderRecordId = o.orderRecordId then
                { r with exchangeOrderId := some (result.exchangeOrderId.getD "") } else r := Table.get_modify fun _ => rfl
          unfold Database.orderOfClientId at hread ⊢
          rw [((startReducing_touches hstart).orders (by decide)), ((acknowledgeIntent_touches hack).orders (by decide)), hread]
          unfold Database.orderOfClientId at ho
          rw [ho, Option.map_some, if_pos rfl]
        · exact OrderRow.acknowledgedId_eq_some.mpr ⟨rfl, hne⟩

/-- The fills of an exit are under the exchange id of its result. -/
theorem saveExitFills_added (hnd : (db.orders.map OrderRow.orderRecordId).Nodup) {p : PositionRow} {orderRecordId : String}
    {result : ExitExecutionResult} (htrades : result.tradeIds ≠ []) (h : saveExitFills db p orderRecordId result = .ok db') :
    RecordsAdded db db' ∧ db'.fillUnder (exitIntentId result.clientOrderId) (result.exchangeOrderId.getD "") = true := by
  unfold saveExitFills at h
  have hstore : ∀ {side : String} {b : Database} {x : String × ℚ} {b' : Database}, (b.orders.map OrderRow.orderRecordId).Nodup →
      saveFillOnce b
        { intentId := exitIntentId result.clientOrderId, exchangeOrderRecordId := orderRecordId,
          exchangeOrderId := result.exchangeOrderId.getD "", tradeId := none, symbol := p.symbol,
          side, reduceOnly := true,
          filledQuantity := x.2, fillPrice := result.averageFillPrice.getD 0,
          commission := some (result.totalFee / result.tradeIds.length) } x.1 = .ok b' →
      RecordsAdded b b' ∧ b'.fillUnder (exitIntentId result.clientOrderId) (result.exchangeOrderId.getD "") = true :=
    fun hb hstep => saveFillOnce_added hb hstep
  obtain ⟨hadded, hunder⟩ := storeFills_added hstore _ hnd h
  refine ⟨hadded, hunder fun hempty => htrades ?_⟩
  have hids := splitQuantity_fst result.reducedQuantity result.tradeIds
  rw [hempty] at hids
  exact hids.symm

theorem persistExitFills_first (h : db.FactsFirst fun _ => False) {a : ExitFacts} (htrades : a.result.tradeIds ≠ [])
    {o : OrderRow} (ho : db.orderOfClientId a.result.clientOrderId = some o)
    (hof : o.intentId = exitIntentId a.result.clientOrderId)
    (hack : o.acknowledgedId = some (a.result.exchangeOrderId.getD "")) (hok : persistExitFills db a = .ok db') :
    db'.FactsFirst fun _ => False := by
  unfold persistExitFills at hok
  obtain ⟨⟨p, e, eo⟩, -, hok⟩ := Loops.bind_eq_ok.mp hok
  dsimp only at hok
  rw [ho] at hok
  dsimp only at hok
  obtain ⟨db₁, hfills, hok⟩ := Loops.bind_eq_ok.mp hok
  obtain ⟨db₂, hintent, hok⟩ := Loops.bind_eq_ok.mp hok
  obtain ⟨db₃, hmove, hok⟩ := Loops.bind_eq_ok.mp hok
  obtain ⟨hadded, hunder⟩ := saveExitFills_added h.records htrades hfills
  have h₁ := (h.added hadded (saveExitFills_touches hfills)).open fun id => id = exitIntentId a.result.clientOrderId
  have h₂ := h₁.intents (transitionIntent_effect h₁.keyed hintent) ((transitionIntent_touches hintent).mono (by decide))
    (fun _ hf => hf.1) fun _ hn => hn.elim
  have hexecuted₁ : db₁.Executed (exitIntentId a.result.clientOrderId) := by
    refine ⟨o, hadded.orders o (Table.get_some ho).1 (by rw [hack]; rfl), hof, executedBy_eq_true.mpr ⟨_, hack, ?_⟩⟩
    rw [hof]
    exact hunder
  have hexecuted : db₂.Executed (exitIntentId a.result.clientOrderId) :=
    (RecordsAdded.of_same ((transitionIntent_touches hintent).orders (by decide))
        ((transitionIntent_touches hintent).fills (by decide))).executed hexecuted₁
  have h₂' := h₂.confirm hexecuted
  have h₃ := h₂'.quiet (moveExitedPosition_effect h₂'.keyed hmove) ((moveExitedPosition_touches hmove).mono (by decide))
  have h₄ := h₃.quiet (settleExitedPosition_effect h₃.keyed) ((settleExitedPosition_touches db₃ p a.result).mono (by decide))
  have hsettled := Touches.foldlM settleExitedProtection_touches hok
  refine h₄.protected ((hsettled.book (by decide)).effect h₄.keyed) (hsettled.mono (by decide)) ?_
  exact Loops.foldlM_keeps (P := fun b : Database => ∀ r ∈ b.protections, r.Placed)
    (fun _ _ _ hb hstep => settleExitedProtection_placed hb hstep) _ h₄.protections hok

/-- A transaction keeps what its commit keeps. -/
theorem transaction_first (h : db.FactsFirst fun _ => False) {result : Except PyError Database}
    (hok : ∀ db', result = .ok db' → db'.FactsFirst fun _ => False) : (transaction db result).2.FactsFirst fun _ => False := by
  cases result with
  | error e => exact h
  | ok db' => exact hok db' rfl

/-- An exit that the exchange confirmed, on a position that is not closed. -/
theorem persistConfirmedExit_first (h : db.FactsFirst fun _ => False) {a : ExitFacts} (hconfirmed : a.result.confirmed = true)
    (hstands : ∀ o, db.orderOfClientId a.result.clientOrderId = some o → o.intentId = exitIntentId a.result.clientOrderId →
      db.isFilled o.intentId = true → db.receiptStands o (a.result.exchangeOrderId.getD "") = true) :
    (persistConfirmedExit db a).2.FactsFirst fun _ => False := by
  obtain ⟨-, hgiven, htrades, -⟩ := confirmed_eq_true.mp hconfirmed
  have hne : a.result.exchangeOrderId.getD "" ≠ "" := by
    obtain ⟨t, ht, hne⟩ := given_eq_true.mp hgiven
    rw [ht]
    exact hne
  have hreceipt : ∀ y, a.result.receipt = some y → y = a.result.exchangeOrderId.getD "" := by
    intro y hy
    unfold ExitExecutionResult.receipt at hy
    split at hy
    · nomatch hy
    · nomatch hy
    · nomatch hy
    · obtain ⟨hid, -⟩ := Option.filter_eq_some_iff.mp hy
      rw [hid]
      rfl
  unfold persistConfirmedExit
  cases hfirst : persistExitIntentBeforeSubmission db a.identity with
  | error e =>
    rw [transaction_error]
    exact h
  | ok db₁ =>
    obtain ⟨h₁, o, ho, hof, hstands₁⟩ := persistExitIntentBeforeSubmission_first h hfirst
    have ho' : db₁.orderOfClientId a.result.clientOrderId = some o := ho
    have hof' : o.intentId = exitIntentId a.result.clientOrderId := hof
    rw [transaction_ok]
    dsimp only
    cases hsecond : persistExitSubmissionResult db₁ a.positionId a.result with
    | error e =>
      rw [transaction_error]
      exact h₁
    | ok db₂ =>
      rw [transaction_ok]
      dsimp only
      have h₂ : db₂.FactsFirst fun _ => False := by
        refine persistExitSubmissionResult_first h₁ (fun y hy o₁ ho₁ hfilled => ?_) hsecond
        obtain rfl := hreceipt y hy
        cases ho'.symm.trans ho₁
        exact hstands₁ _ hne (fun hold => hstands o hold hof') hfilled
      obtain ⟨o₂, ho₂, hof₂, hack₂⟩ := persistExitSubmissionResult_order hconfirmed ho' hsecond
      exact transaction_first h₂ fun db' hok => persistExitFills_first h₂ htrades ho₂ (hof₂.trans hof') hack₂ hok

theorem persistExitResult_first (h : db.FactsFirst fun _ => False) {a : ExitFacts}
    (hstands : a.result.confirmed = true → ∀ p, db.position a.positionId = some p → p.state ≠ .closed →
      ∀ o, db.orderOfClientId a.result.clientOrderId = some o → o.intentId = exitIntentId a.result.clientOrderId →
      db.isFilled o.intentId = true → db.receiptStands o (a.result.exchangeOrderId.getD "") = true) :
    (persistExitResult db a).2.FactsFirst fun _ => False := by
  unfold persistExitResult
  split
  · exact h
  · rename_i hstatus
    split
    · exact h
    · rename_i hreceipt
      split
      · exact h
      · rename_i p hp
        split
        · rename_i hopen
          simp only [Bool.not_eq_true', not_or, Bool.not_eq_false, not_le] at hreceipt
          have hconfirmed : a.result.confirmed = true := by
            refine confirmed_eq_true.mpr ⟨?_, hreceipt⟩
            by_contra hnone
            rw [not_or] at hnone
            exact hstatus hnone
          exact persistConfirmedExit_first h hconfirmed (hstands hconfirmed p hp hopen)
        · split
          · exact h
          · exact h

/-! ## The recovery of a margin guard -/

/-- A fill of an acknowledged order changes no order. -/
theorem saveExchangeFillReceipt_orders {r : FillReceipt} (ho : db.order r.exchangeOrderRecordId = some o)
    (hack : o.acknowledgedId.isSome = true) (h : saveExchangeFillReceipt db r = .ok db') : db'.orders = db.orders := by
  obtain ⟨o', db₁, ho', -, -, hcomplete, -, rfl⟩ := saveExchangeFillReceipt_eq_ok.mp h
  cases ho.symm.trans ho'
  unfold Database.completeOrder at hcomplete
  rw [Option.isNone_eq_false_iff.mpr hack] at hcomplete
  cases hcomplete
  rfl

theorem saveEntryFills_orders (ho : db.order o.orderRecordId = some o)
    (hack : o.acknowledgedId.isSome = true) (h : saveEntryFills db a o.orderRecordId = .ok db') : db'.orders = db.orders := by
  unfold saveEntryFills at h
  dsimp only at h
  split at h
  · unfold saveOrderLevelFillRecovery at h
    split at h
    · cases h
      rfl
    · exact saveExchangeFillReceipt_orders ho hack h
  · refine Loops.foldlM_keeps (P := fun b : Database => b.orders = db.orders) ?_ _ rfl h
    intro b x b' hb hstep
    have ho' : b.order o.orderRecordId = some o := by
      unfold Database.order at ho ⊢
      rw [hb]
      exact ho
    refine Eq.trans ?_ hb
    unfold saveFillOnce at hstep
    split at hstep
    · split at hstep
      · nomatch hstep
      · cases hstep
        rfl
    · exact saveExchangeFillReceipt_orders ho' hack hstep

/-- The facts of an entry whose order has the exchange id they report change no order. -/
theorem persistEntryAndProtection_orders (hnd : (db.orders.map OrderRow.orderRecordId).Nodup)
    (ho : db.orderOfIntent a.intentId = some o) (hexchange : o.exchangeOrderId = some (a.entryResult.exchangeOrderId.getD ""))
    (hok : persistEntryAndProtection db a = .ok db') : db'.orders = db.orders ∧ RecordsAdded db db' := by
  unfold persistEntryAndProtection at hok
  split at hok
  · nomatch hok
  · split at hok
    · cases hok
      exact ⟨rfl, RecordsAdded.refl db⟩
    · obtain ⟨db₀, hcycle, hok⟩ := Loops.bind_eq_ok.mp hok
      obtain ⟨db₁, hintent, hok⟩ := Loops.bind_eq_ok.mp hok
      split at hok
      · nomatch hok
      · obtain ⟨db₂, hack, hok⟩ := Loops.bind_eq_ok.mp hok
        have hframe : Touches [.cycles, .decisions, .intents] db db₂ :=
          ((ensureCycle_touches hcycle).mono (by decide)).trans (((ensureDecision_touches db₀ a.decisionId).mono (by decide)).trans
            (((ensureEntryIntent_touches hintent).mono (by decide)).trans ((acknowledgeIntent_touches hack).mono (by decide))))
        have ho₂ : db₂.orderOfIntent a.intentId = some o := by
          unfold Database.orderOfIntent at ho ⊢
          rw [(hframe.orders (by decide))]
          exact ho
        have hread : db₂.order o.orderRecordId = some o := by
          have hmem : o ∈ db₂.orders := (Table.get_some ho₂).1
          exact Table.get_of_mem ((hframe.orders (by decide)) ▸ hnd) hmem
        have hknown : ensureOrder db₂ a.intentId a.entryResult.clientOrderId a.entryResult.orderQuantity a.leverage =
            .ok (o.orderRecordId, db₂) := by
          unfold ensureOrder
          rw [ho₂]
        obtain ⟨⟨orderRecordId, db₃⟩, horder, hok⟩ := Loops.bind_eq_ok.mp hok
        obtain ⟨rfl, rfl⟩ := Prod.mk.inj (Except.ok.inj (hknown.symm.trans horder))
        obtain ⟨db₄, hreceipt, hok⟩ := Loops.bind_eq_ok.mp hok
        obtain ⟨-, hne, -, hwritten⟩ := saveExchangeOrderReceipt_eq_ok.mp hreceipt
        -- the receipt is the one the order has
        have hsame : db₄.orders = db₂.orders := by
          rw [hwritten]
          refine Table.modify_eq_self fun r hr hrecord => ?_
          obtain rfl := Table.eq_of_get ((hframe.orders (by decide)) ▸ hnd) hread hr hrecord
          rw [← hexchange]
        obtain ⟨db₅, hfills, hok⟩ := Loops.bind_eq_ok.mp hok
        obtain ⟨db₆, hreconcile, hok⟩ := Loops.bind_eq_ok.mp hok
        obtain ⟨db₇, hproject, hok⟩ := Loops.bind_eq_ok.mp hok
        have hread₄ : db₄.order o.orderRecordId = some o := by
          unfold Database.order at hread ⊢
          rw [hsame]
          exact hread
        have hacked : o.acknowledgedId.isSome = true := by
          rw [OrderRow.acknowledgedId_eq_some.mpr ⟨hexchange, hne⟩]
          rfl
        have hrest : Touches [.intents, .positions, .protections] db₅ db' :=
          ((reconcileIntentFromConfirmedFill_touches hreconcile).mono (by decide)).trans
            (((projectEntry_touches hproject).mono (by decide)).trans ((saveEntryProtection_touches hok).mono (by decide)))
        have hnd₄ : (db₄.orders.map OrderRow.orderRecordId).Nodup := by
          rw [hsame, (hframe.orders (by decide))]
          exact hnd
        refine ⟨?_, ?_⟩
        · exact (((hrest.orders (by decide)).trans (saveEntryFills_orders hread₄ hacked hfills)).trans hsame).trans
            (hframe.orders (by decide))
        · have hfirst : RecordsAdded db db₄ := by
            refine RecordsAdded.of_same (hsame.trans (hframe.orders (by decide))) ?_
            rw [((saveExchangeOrderReceipt_touches hreceipt).fills (by decide))]
            exact hframe.fills (by decide)
          exact (hfirst.trans (saveEntryFills_added hnd₄ hfills)).trans
              (RecordsAdded.of_same (hrest.orders (by decide)) (hrest.fills (by decide)))

/-- What a recovery reads is the intent and its acknowledged order. -/
theorem readGuardedEntry_entry {a : MarginGuard} {e : GuardedEntry} (h : readGuardedEntry db a = .ok (.inr e)) :
    db.intent a.intentId = some e.intent ∧ db.orderOfIntent e.intent.intentId = some e.order ∧
      e.order.acknowledgedId.isSome = true := by
  unfold readGuardedEntry at h
  obtain ⟨_, -, h⟩ := Loops.bind_eq_ok.mp h
  split at h
  · nomatch h
  · rename_i intent hintent
    split at h
    · nomatch h
    · obtain ⟨expected, -, h⟩ := Loops.bind_eq_ok.mp h
      split at h
      · nomatch h
      · obtain ⟨existing, -, h⟩ := Loops.bind_eq_ok.mp h
        split at h
        · nomatch h
        · obtain ⟨entry, hentry, h⟩ := Loops.bind_eq_ok.mp h
          obtain rfl := Sum.inr.inj (Except.ok.inj h)
          unfold guardedEntry at hentry
          split at hentry
          · nomatch hentry
          · rename_i order horder
            dsimp only at hentry
            split at hentry
            · nomatch hentry
            · split at hentry
              · nomatch hentry
              · cases hentry
                obtain ⟨horder, hack⟩ := Option.filter_eq_some_iff.mp horder
                exact ⟨hintent, horder, hack⟩

/-- A receipt over the order of the guard stands, also if the recovery fills its intent first. -/
def MarginGuard.stands (a : MarginGuard) (db : Database) : Prop :=
  ∀ o, db.orderOfClientId a.guardClientOrderId = some o → o.intentId = exitIntentId a.guardClientOrderId →
    db.isFilled o.intentId = true ∨ o.intentId = a.intentId → db.receiptStands o a.guardExchangeOrderId = true

theorem persistGuard_first (h : db.FactsFirst fun _ => False) {a : MarginGuard} {e : GuardedEntry}
    (hread : readGuardedEntry db a = .ok (.inr e)) (hstands : a.stands db) : (persistGuard db a e).2.FactsFirst fun _ => False := by
  obtain ⟨hintent, horder, hack⟩ := readGuardedEntry_entry hread
  have hid : e.intent.intentId = a.intentId := (Table.get_some hintent).2
  -- the exit starts from the same orders, and only the entry may have been filled
  have hexit : ∀ db₁ : Database, (db₁.FactsFirst fun _ => False) → db₁.orders = db.orders → RecordsAdded db db₁ →
      (∀ id, db₁.isFilled id = true → db.isFilled id = true ∨ id = a.intentId) →
      (persistExitResult db₁ (e.exit a)).2.FactsFirst fun _ => False := by
    intro db₁ h₁ horders hadded hfilled
    refine persistExitResult_first h₁ fun hconfirmed _ _ _ o ho hof hof' => ?_
    have ho' : db.orderOfClientId a.guardClientOrderId = some o := by
      unfold Database.orderOfClientId at ho ⊢
      rw [horders] at ho
      exact ho
    have hne : a.guardExchangeOrderId ≠ "" := by
      obtain ⟨t, ht, hne⟩ := given_eq_true.mp (confirmed_eq_true.mp hconfirmed).2.1
      cases ht
      exact hne
    exact hadded.receiptStands hne (hstands o ho' hof (hfilled o.intentId hof'))
  unfold persistGuard persistGuardedEntry
  split
  · rename_i hentry
    split at hentry
    · nomatch hentry
    · cases hpersist : persistEntryAndProtection db e.facts with
      | error err =>
        rw [hpersist] at hentry
        cases hentry
        exact h
      | ok db₁ =>
        rw [hpersist] at hentry
        nomatch hentry
  · rename_i db₁ hentry
    have hfirst : (db₁.FactsFirst fun _ => False) ∧ db₁.orders = db.orders ∧ RecordsAdded db db₁ ∧
        ∀ id, db₁.isFilled id = true → db.isFilled id = true ∨ id = a.intentId := by
      split at hentry
      · cases hentry
        exact ⟨h, rfl, RecordsAdded.refl db, fun _ hf => .inl hf⟩
      · cases hpersist : persistEntryAndProtection db e.facts with
        | error err =>
          rw [hpersist] at hentry
          nomatch hentry
        | ok db₂ =>
          rw [hpersist] at hentry
          cases hentry
          obtain ⟨id, hid'⟩ := Option.isSome_iff_exists.mp hack
          have hexchange : e.order.exchangeOrderId = some (e.facts.entryResult.exchangeOrderId.getD "") := by
            have hwas := (OrderRow.acknowledgedId_eq_some.mp hid').1
            change e.order.exchangeOrderId = some (e.order.exchangeOrderId.getD "")
            rw [hwas]
            rfl
          obtain ⟨horders, hadded⟩ := persistEntryAndProtection_orders h.records horder hexchange hpersist
          refine ⟨persistEntryAndProtection_first h hpersist, horders, hadded, fun id' hfilled => ?_⟩
          obtain ⟨r', hr', hrid, hstate⟩ := isFilled_eq_true.mp hfilled
          have heffect := persistEntryAndProtection_effect h.keyed hpersist
          rcases heffect.filled_origin hr' hstate with ⟨r, hr, hrid', hwas | hfill⟩ | hmade
          · exact .inl (isFilled_eq_true.mpr ⟨r, hr, hrid'.trans hrid, hwas⟩)
          · exact .inr ((hrid.symm.trans hrid'.symm).trans (Eq.trans hfill hid))
          · exact .inr (hrid.symm.trans (hmade.1.trans hid))
    obtain ⟨h₁, horders, hadded, hfilled⟩ := hfirst
    split
    · exact h₁
    · split
      · rename_i hpersisted
        have hdone := hexit db₁ h₁ horders hadded hfilled
        rw [hpersisted] at hdone
        exact hdone
      · rename_i hpersisted
        have hdone := hexit db₁ h₁ horders hadded hfilled
        rw [hpersisted] at hdone
        exact hdone

theorem recoverConfirmedMarginGuardLifecycle_first (h : db.FactsFirst fun _ => False) {a : MarginGuard} (hstands : a.stands db) :
    (recoverConfirmedMarginGuardLifecycle db a).2.FactsFirst fun _ => False := by
  unfold recoverConfirmedMarginGuardLifecycle
  split
  · exact h
  · exact h
  · rename_i e hread
    exact persistGuard_first h hread hstands

end

end TradingPlatform
