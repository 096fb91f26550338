import Mathlib.Algebra.Order.BigOperators.Group.List
import TradingPlatform.Domain.Gain
import TradingPlatform.Lib.Loops
import TradingPlatform.Store.ExecutionRepository

/-!
# A history of fill receipts

A receipt lists every trade of its order so far, and the ledger keeps each trade of an account once. Only histories with one
receipt an order, and with trade ids that differ between symbols, are accepted whole.
-/

namespace TradingPlatform

/-! ## The statement -/

/-- An order at the exchange with its fills, the trade ids with their quantities. -/
structure FilledOrder where
  exchangeOrderRecordId : String
  exchangeOrderId : String
  clientOrderId : String
  symbol : String
  side : OrderSide
  reduceOnly : Bool
  fills : List (String × ℚ)
  quantity_pos : ∀ f ∈ fills, 0 < f.2

/-- The orders of an account: each has an id of its own, and no trade id is given twice on a symbol. -/
structure HonestOrders (orders : List FilledOrder) : Prop where
  orderIds : ∀ o ∈ orders, ∀ o' ∈ orders, o.exchangeOrderId = o'.exchangeOrderId → o = o'
  tradeIds : ∀ o ∈ orders, ∀ o' ∈ orders, o.symbol = o'.symbol → o ≠ o' →
    ∀ t ∈ o.fills.map Prod.fst, t ∉ o'.fills.map Prod.fst

/-- A receipt of the first fills of an order. -/
structure Delivery (account : String) (orders : List FilledOrder) where
  order : FilledOrder
  count : ℕ
  receipt : CumulativeFillReceipt
  order_mem : order ∈ orders
  count_le : count ≤ order.fills.length
  account_eq : receipt.exchangeAccount = account
  orderId_eq : receipt.exchangeOrderId = order.exchangeOrderId
  clientOrderId_eq : receipt.clientOrderId = order.clientOrderId
  symbol_eq : receipt.symbol = order.symbol
  side_eq : receipt.side = order.side
  reduceOnly_eq : receipt.reduceOnly = order.reduceOnly
  tradeIds_eq : receipt.tradeIds = (order.fills.take count).map Prod.fst
  quantity_eq : receipt.filledQuantity = ((order.fills.take count).map Prod.snd).sum

section Delivery

variable {account : String} {orders : List FilledOrder}

/-- The call for a delivery. -/
def Delivery.create (db : FillLedger) (d : Delivery account orders) : Except PyError CumulativeFillReceipt × FillLedger :=
  createExchangeFillReceipt db d.order.exchangeOrderRecordId d.receipt

/-- The ledger after a delivery. -/
def Delivery.step (db : FillLedger) (d : Delivery account orders) : FillLedger := (d.create db).2

/-- A delivery is kept: its revision is stored once and returned, a replay changes nothing, and neither does a raise. -/
structure Delivery.Kept (db : FillLedger) (d : Delivery account orders) : Prop where
  returned : ∃ row ∈ (d.create db).2.receipts, (d.create db).1 = .ok row.receipt ∧ row.receipt.revision = d.receipt.revision
  unique : ∀ row ∈ (d.create db).2.receipts, ∀ row' ∈ (d.create db).2.receipts,
    row.receipt.revision = d.receipt.revision → row'.receipt.revision = d.receipt.revision → row = row'
  replayed : ∀ row ∈ db.receipts, row.receipt.revision = d.receipt.revision → d.create db = (.ok row.receipt, db)
  atomic : ∀ e, (d.create db).1 = .error e → (d.create db).2 = db

/-- A ledger before a history: the orders are recorded, nothing of the account is stored, and every receipt is drawn an id of its
own. -/
structure FillLedger.Before (db : FillLedger) (account : String) (orders : List FilledOrder)
    (deliveries : List (Delivery account orders)) : Prop where
  recorded : ∀ o ∈ orders, o.exchangeOrderRecordId ∈ db.orderRecordIds
  noReceipt : ∀ row ∈ db.receipts, row.receipt.exchangeAccount ≠ account
  noIdentity : ∀ i ∈ db.identities, i.exchangeAccount ≠ account
  receiptIds : ∀ d ∈ deliveries, ∀ row ∈ db.receipts, row.receipt.receiptId ≠ d.receipt.receiptId
  drawn : ∀ d ∈ deliveries, ∀ d' ∈ deliveries, d.receipt.receiptId = d'.receipt.receiptId →
    d.receipt.revision = d'.receipt.revision

/-- No order is delivered with two quantities, and orders of different symbols share no trade id. -/
def Separate (deliveries : List (Delivery account orders)) : Prop :=
  ∀ d ∈ deliveries, ∀ d' ∈ deliveries, (d.order = d'.order → d.count = d'.count) ∧
    (d.order.symbol ≠ d'.order.symbol → ∀ t ∈ d.receipt.tradeIds, t ∉ d'.receipt.tradeIds)

end Delivery

namespace FillReceiptsAux

section Revisions

variable {account : String} {orders : List FilledOrder}

/-- More fills, more quantity. -/
theorem take_sum_lt {fills : List (String × ℚ)} (hpos : ∀ f ∈ fills, 0 < f.2) {m n : ℕ} (h : m < n) (hn : n ≤ fills.length) :
    ((fills.take m).map Prod.snd).sum < ((fills.take n).map Prod.snd).sum := by
  have hsplit : fills.take n = fills.take m ++ (fills.drop m).take (n - m) := by
    rw [← List.take_add, Nat.add_sub_cancel' h.le]
  rw [hsplit, List.map_append, List.sum_append]
  refine lt_add_of_pos_right _ (List.sum_pos _ (fun q hq => ?_) fun hnil => ?_)
  · obtain ⟨f, hf, rfl⟩ := List.mem_map.mp hq
    exact hpos f (List.mem_of_mem_drop (List.mem_of_mem_take hf))
  · have hlength := congrArg List.length hnil
    rw [List.length_map, List.length_take, List.length_drop, List.length_nil] at hlength
    omega

/-- Two deliveries are of one revision exactly if they are of the same fills of the same order. -/
theorem revision_eq_iff (hhonest : HonestOrders orders) (d d' : Delivery account orders) :
    d.receipt.revision = d'.receipt.revision ↔ d.order = d'.order ∧ d.count = d'.count := by
  unfold CumulativeFillReceipt.revision
  rw [d.account_eq, d'.account_eq, d.orderId_eq, d'.orderId_eq, d.quantity_eq, d'.quantity_eq]
  constructor
  · intro h
    obtain ⟨-, h⟩ := Prod.mk.inj h
    obtain ⟨hid, hquantity⟩ := Prod.mk.inj h
    have horder := hhonest.orderIds _ d.order_mem _ d'.order_mem hid
    refine ⟨horder, ?_⟩
    rw [horder] at hquantity
    have hle := d.count_le
    rw [horder] at hle
    rcases lt_trichotomy d.count d'.count with hlt | heq | hlt
    · exact absurd hquantity (take_sum_lt d'.order.quantity_pos hlt d'.count_le).ne
    · exact heq
    · exact absurd hquantity.symm (take_sum_lt d'.order.quantity_pos hlt hle).ne
  · rintro ⟨horder, hcount⟩
    rw [horder, hcount]

/-- Deliveries of one revision have the same trades. -/
theorem tradeIds_of_revision (hhonest : HonestOrders orders) {d d' : Delivery account orders}
    (h : d.receipt.revision = d'.receipt.revision) : d.receipt.tradeIds = d'.receipt.tradeIds := by
  obtain ⟨horder, hcount⟩ := (revision_eq_iff hhonest d d').mp h
  rw [d.tradeIds_eq, d'.tradeIds_eq, horder, hcount]

/-- Two receipts of different revisions can both be stored. -/
def Apart (d d' : Delivery account orders) : Prop :=
  d.receipt.revision ≠ d'.receipt.revision → ∀ t ∈ d.receipt.tradeIds, t ∉ d'.receipt.tradeIds

theorem apart_refl (d : Delivery account orders) : Apart d d := fun h => absurd rfl h

theorem apart_symm {d d' : Delivery account orders} (h : Apart d d') : Apart d' d :=
  fun hne t ht ht' => h hne.symm t ht' ht

/-- A delivery has a trade: the first of its order. -/
theorem first_trade (d : Delivery account orders) : ∃ f rest, d.order.fills = f :: rest ∧ f.1 ∈ d.receipt.tradeIds := by
  have hne := d.receipt.tradeIds_ne_nil
  rw [d.tradeIds_eq] at hne ⊢
  cases hfills : d.order.fills with
  | nil =>
    rw [hfills] at hne
    exact absurd (by rw [List.take_nil]; rfl) hne
  | cons f rest =>
    rw [hfills] at hne
    refine ⟨f, rest, rfl, ?_⟩
    cases hcount : d.count with
    | zero =>
      rw [hcount] at hne
      exact absurd rfl hne
    | succ n => exact List.mem_cons_self

/-- Every two receipts can both be stored exactly if the deliveries are separate. -/
theorem separate_iff (hhonest : HonestOrders orders) (deliveries : List (Delivery account orders)) :
    Separate deliveries ↔ ∀ d ∈ deliveries, ∀ d' ∈ deliveries, Apart d d' := by
  constructor
  · intro h d hd d' hd' hne t ht ht'
    obtain ⟨hcount, hsymbol⟩ := h d hd d' hd'
    by_cases horder : d.order = d'.order
    · exact hne ((revision_eq_iff hhonest d d').mpr ⟨horder, hcount horder⟩)
    · by_cases hsame : d.order.symbol = d'.order.symbol
      · rw [d.tradeIds_eq] at ht
        rw [d'.tradeIds_eq] at ht'
        exact hhonest.tradeIds _ d.order_mem _ d'.order_mem hsame horder t
          (List.map_subset _ (List.take_subset _ _) ht) (List.map_subset _ (List.take_subset _ _) ht')
      · exact hsymbol hsame t ht ht'
  · intro h d hd d' hd'
    refine ⟨fun horder => ?_, fun hsymbol => ?_⟩
    · by_contra hcount
      have hne : d.receipt.revision ≠ d'.receipt.revision := fun heq => hcount ((revision_eq_iff hhonest d d').mp heq).2
      -- both list the first trade of the order
      obtain ⟨f, rest, hfills, hf⟩ := first_trade d
      obtain ⟨f', rest', hfills', hf'⟩ := first_trade d'
      rw [horder, hfills'] at hfills
      obtain rfl := (List.cons.inj hfills).1
      exact h d hd d' hd' hne _ hf hf'
    · refine h d hd d' hd' fun heq => hsymbol ?_
      rw [((revision_eq_iff hhonest d d').mp heq).1]

end Revisions

/-! ## The ledger -/

section Ledger

variable {account : String} {orders : List FilledOrder} {db₀ db : FillLedger} {done : List (Delivery account orders)}

/-- The ledger after a history that was kept, from the one before it. -/
structure Holds (db₀ db : FillLedger) (done : List (Delivery account orders)) : Prop where
  orderRecordIds : db.orderRecordIds = db₀.orderRecordIds
  receipts : ∀ row ∈ db.receipts, row ∈ db₀.receipts ∨ ∃ d ∈ done, row.receipt = d.receipt
  delivered : ∀ d ∈ done, ∃ row ∈ db.receipts, row.receipt.revision = d.receipt.revision
  unique : ∀ row ∈ db.receipts, ∀ row' ∈ db.receipts, row.receipt.exchangeAccount = account →
    row.receipt.revision = row'.receipt.revision → row = row'
  identities : ∀ t, (∃ i ∈ db.identities, i.exchangeAccount = account ∧ i.tradeId = t) ↔ ∃ d ∈ done, t ∈ d.receipt.tradeIds
  apart : ∀ d ∈ done, ∀ d' ∈ done, Apart d d'

theorem holds_nil {deliveries : List (Delivery account orders)} (h : db₀.Before account orders deliveries) :
    Holds db₀ db₀ ([] : List (Delivery account orders)) := by
  refine ⟨rfl, fun row hrow => .inl hrow, fun d hd => absurd hd List.not_mem_nil,
    fun row hrow _ _ haccount _ => absurd haccount (h.noReceipt row hrow), fun t => iff_of_false ?_ ?_,
    fun d hd => absurd hd List.not_mem_nil⟩
  · rintro ⟨i, hi, haccount, -⟩
    exact h.noIdentity i hi haccount
  · rintro ⟨d, hd, -⟩
    exact absurd hd List.not_mem_nil

/-- What is stored for the account was delivered. -/
theorem Holds.of_account {deliveries : List (Delivery account orders)} (h : Holds db₀ db done)
    (hbefore : db₀.Before account orders deliveries) {row : FillReceiptRow} (hrow : row ∈ db.receipts)
    (haccount : row.receipt.exchangeAccount = account) : ∃ d ∈ done, row.receipt = d.receipt := by
  rcases h.receipts row hrow with hold | hdone
  · exact absurd haccount (hbefore.noReceipt row hold)
  · exact hdone

theorem account_of_revision {d : Delivery account orders} {r : CumulativeFillReceipt} (h : r.revision = d.receipt.revision) :
    r.exchangeAccount = account := (Prod.mk.inj h).1.trans d.account_eq

/-- A replay of a revision that was delivered returns what is stored. -/
theorem create_replay {deliveries : List (Delivery account orders)} (hhonest : HonestOrders orders)
    (hbefore : db₀.Before account orders deliveries) (h : Holds db₀ db done) (d : Delivery account orders)
    {row : FillReceiptRow} (hrow : row ∈ db.receipts) (hrevision : row.receipt.revision = d.receipt.revision) :
    d.create db = (.ok row.receipt, db) := by
  have hrecorded : d.order.exchangeOrderRecordId ∈ db.orderRecordIds := h.orderRecordIds ▸ hbefore.recorded _ d.order_mem
  have hstored : db.receiptOf d.receipt.revision = some row := by
    cases hget : db.receiptOf d.receipt.revision with
    | none => exact absurd hrevision (Table.get_none.mp hget row hrow)
    | some row' =>
      obtain ⟨hrow', hrevision'⟩ := Table.get_some hget
      rw [h.unique row' hrow' row hrow (account_of_revision hrevision') (hrevision'.trans hrevision.symm)]
  obtain ⟨d', hd', hreceipt⟩ := h.of_account hbefore hrow (account_of_revision hrevision)
  have hrevision' : d'.receipt.revision = d.receipt.revision := hreceipt ▸ hrevision
  obtain ⟨horder, -⟩ := (revision_eq_iff hhonest d' d).mp hrevision'
  have hvalid : validateFillReceiptReplay row.receipt d.receipt = .ok () := by
    unfold validateFillReceiptReplay
    refine if_neg ?_
    rw [hreceipt, d'.clientOrderId_eq, d'.symbol_eq, d'.side_eq, d'.reduceOnly_eq, d.clientOrderId_eq, d.symbol_eq, d.side_eq,
      d.reduceOnly_eq, horder, tradeIds_of_revision hhonest hrevision']
    simp
  unfold Delivery.create createExchangeFillReceipt
  rw [if_neg (not_not.mpr hrecorded), hstored]
  dsimp only
  unfold replayReceipt
  rw [hvalid]

/-- A revision that is new is stored if its trades are, and refused without a trace if one of them is stored already. -/
theorem create_new {deliveries : List (Delivery account orders)} (hbefore : db₀.Before account orders deliveries)
    (h : Holds db₀ db done) (hdone : ∀ d ∈ done, d ∈ deliveries) {d : Delivery account orders} (hd : d ∈ deliveries)
    (hnew : ∀ d' ∈ done, d'.receipt.revision ≠ d.receipt.revision) :
    ((∀ d' ∈ done, Apart d' d) → d.create db = (.ok d.receipt, db.insert d.order.exchangeOrderRecordId d.receipt)) ∧
      ((¬∀ d' ∈ done, Apart d' d) → ∃ e, d.create db = (.error e, db)) := by
  have hrecorded : d.order.exchangeOrderRecordId ∈ db.orderRecordIds := h.orderRecordIds ▸ hbefore.recorded _ d.order_mem
  have hrevision : ∀ row ∈ db.receipts, row.receipt.revision ≠ d.receipt.revision := by
    intro row hrow heq
    obtain ⟨d', hd', hreceipt⟩ := h.of_account hbefore hrow (account_of_revision heq)
    exact hnew d' hd' (hreceipt ▸ heq)
  have hstored : db.receiptOf d.receipt.revision = none := Table.get_none.mpr hrevision
  have hcreate : d.create db = if db.Admits d.receipt then (.ok d.receipt, db.insert d.order.exchangeOrderRecordId d.receipt)
      else (.error (.valueError "exchange fill receipt conflicts with an existing trade identity"), db) := by
    unfold Delivery.create createExchangeFillReceipt
    rw [if_neg (not_not.mpr hrecorded), hstored]
  have hid : ∀ row ∈ db.receipts, row.receipt.receiptId ≠ d.receipt.receiptId := by
    intro row hrow heq
    rcases h.receipts row hrow with hold | ⟨d', hd', hreceipt⟩
    · exact hbefore.receiptIds d hd row hold heq
    · rw [hreceipt] at heq
      exact hnew d' hd' (hbefore.drawn d' (hdone d' hd') d hd heq)
  have hadmits : db.Admits d.receipt ↔ ∀ d' ∈ done, Apart d' d := by
    constructor
    · rintro ⟨-, -, htrades⟩ d' hd' - t ht ht'
      obtain ⟨i, hi, haccount, htrade⟩ := (h.identities t).mpr ⟨d', hd', ht⟩
      exact htrades t ht' i hi ⟨haccount.trans d.account_eq.symm, htrade⟩
    · intro hapart
      refine ⟨hid, hrevision, fun t ht i hi hstored => ?_⟩
      obtain ⟨d', hd', ht'⟩ := (h.identities t).mp ⟨i, hi, hstored.1.trans d.account_eq, hstored.2⟩
      exact hapart d' hd' (hnew d' hd') t ht' ht
  rw [hcreate, ← hadmits]
  exact ⟨fun hyes => if_pos hyes, fun hno => ⟨_, if_neg hno⟩⟩

/-- A delivery that is apart from all before it. -/
theorem Holds.apart_concat (h : Holds db₀ db done) {d : Delivery account orders} (hapart : ∀ d' ∈ done, Apart d' d) :
    ∀ d₁ ∈ done ++ [d], ∀ d₂ ∈ done ++ [d], Apart d₁ d₂ := by
  intro d₁ hd₁ d₂ hd₂
  rcases List.mem_append.mp hd₁ with hold₁ | hd₁ <;> rcases List.mem_append.mp hd₂ with hold₂ | hd₂
  · exact h.apart d₁ hold₁ d₂ hold₂
  · rw [List.mem_singleton.mp hd₂]
    exact hapart d₁ hold₁
  · rw [List.mem_singleton.mp hd₁]
    exact apart_symm (hapart d₂ hold₂)
  · rw [List.mem_singleton.mp hd₁, List.mem_singleton.mp hd₂]
    exact apart_refl d

theorem Holds.insert {deliveries : List (Delivery account orders)} (hbefore : db₀.Before account orders deliveries)
    (h : Holds db₀ db done) {d : Delivery account orders} (hnew : ∀ d' ∈ done, d'.receipt.revision ≠ d.receipt.revision)
    (hapart : ∀ d' ∈ done, Apart d' d) :
    Holds db₀ (db.insert d.order.exchangeOrderRecordId d.receipt) (done ++ [d]) := by
  have hrevision : ∀ row ∈ db.receipts, row.receipt.revision ≠ d.receipt.revision := by
    intro row hrow heq
    obtain ⟨d', hd', hreceipt⟩ := h.of_account hbefore hrow (account_of_revision heq)
    exact hnew d' hd' (hreceipt ▸ heq)
  refine ⟨h.orderRecordIds, fun row hrow => ?_, fun d' hd' => ?_, fun row hrow row' hrow' haccount heq => ?_, fun t => ?_,
    fun d₁ hd₁ d₂ hd₂ => ?_⟩
  · rcases List.mem_append.mp hrow with hold | hrow
    · refine (h.receipts row hold).imp_right ?_
      rintro ⟨d', hd', hreceipt⟩
      exact ⟨d', List.mem_append_left _ hd', hreceipt⟩
    · rw [List.mem_singleton.mp hrow]
      exact .inr ⟨d, List.mem_append_right _ List.mem_cons_self, rfl⟩
  · rcases List.mem_append.mp hd' with hold | hd'
    · obtain ⟨row, hrow, heq⟩ := h.delivered d' hold
      exact ⟨row, List.mem_append_left _ hrow, heq⟩
    · rw [List.mem_singleton.mp hd']
      exact ⟨_, List.mem_append_right _ List.mem_cons_self, rfl⟩
  · rcases List.mem_append.mp hrow with hold | hrow <;> rcases List.mem_append.mp hrow' with hold' | hrow'
    · exact h.unique row hold row' hold' haccount heq
    · rw [List.mem_singleton.mp hrow'] at heq
      exact absurd heq (hrevision row hold)
    · rw [List.mem_singleton.mp hrow] at heq
      exact absurd heq.symm (hrevision row' hold')
    · rw [List.mem_singleton.mp hrow, List.mem_singleton.mp hrow']
  · have hadded : (∃ i ∈ (db.insert d.order.exchangeOrderRecordId d.receipt).identities, i.exchangeAccount = account ∧
        i.tradeId = t) ↔ (∃ i ∈ db.identities, i.exchangeAccount = account ∧ i.tradeId = t) ∨ t ∈ d.receipt.tradeIds := by
      unfold FillLedger.insert
      simp only [List.mem_append, List.mem_map, or_and_right, exists_or, exists_exists_and_eq_and, d.account_eq, true_and,
        exists_eq_right]
    rw [hadded, h.identities t]
    simp only [List.mem_append, List.mem_singleton, or_and_right, exists_or, exists_eq_left]
  · exact h.apart_concat hapart d₁ hd₁ d₂ hd₂

/-- A revision that was delivered before is apart from the others as it was. -/
theorem Holds.apart_of_revision (hhonest : HonestOrders orders) (h : Holds db₀ db done) {d d' : Delivery account orders}
    (hd' : d' ∈ done) (hrevision : d'.receipt.revision = d.receipt.revision) : ∀ d'' ∈ done, Apart d'' d := by
  intro d'' hd'' hne t ht ht'
  rw [← hrevision] at hne
  rw [← tradeIds_of_revision hhonest hrevision] at ht'
  exact h.apart d'' hd'' d' hd' hne t ht ht'

/-- A replay adds nothing. -/
theorem Holds.replay (hhonest : HonestOrders orders) (h : Holds db₀ db done) {d d' : Delivery account orders}
    (hd' : d' ∈ done) (hrevision : d'.receipt.revision = d.receipt.revision) : Holds db₀ db (done ++ [d]) := by
  have hapart := h.apart_of_revision hhonest hd' hrevision
  refine ⟨h.orderRecordIds, fun row hrow => (h.receipts row hrow).imp_right ?_, fun d'' hd'' => ?_, h.unique, fun t => ?_,
    fun d₁ hd₁ d₂ hd₂ => ?_⟩
  · rintro ⟨d'', hd'', hreceipt⟩
    exact ⟨d'', List.mem_append_left _ hd'', hreceipt⟩
  · rcases List.mem_append.mp hd'' with hold | hd''
    · exact h.delivered d'' hold
    · obtain ⟨row, hrow, heq⟩ := h.delivered d' hd'
      rw [List.mem_singleton.mp hd'']
      exact ⟨row, hrow, heq.trans hrevision⟩
  · rw [h.identities t]
    constructor
    · rintro ⟨d'', hd'', ht⟩
      exact ⟨d'', List.mem_append_left _ hd'', ht⟩
    · rintro ⟨d'', hd'', ht⟩
      rcases List.mem_append.mp hd'' with hold | hd''
      · exact ⟨d'', hold, ht⟩
      · rw [List.mem_singleton.mp hd'', ← tradeIds_of_revision hhonest hrevision] at ht
        exact ⟨d', hd', ht⟩
  · exact h.apart_concat hapart d₁ hd₁ d₂ hd₂

/-- One delivery after a history that was kept: it is kept exactly if it is apart from what was delivered. -/
theorem kept_iff {deliveries : List (Delivery account orders)} (hhonest : HonestOrders orders)
    (hbefore : db₀.Before account orders deliveries) (h : Holds db₀ db done) (hdone : ∀ d ∈ done, d ∈ deliveries)
    {d : Delivery account orders} (hd : d ∈ deliveries) :
    (d.Kept db ↔ ∀ d' ∈ done, Apart d' d) ∧ (d.Kept db → Holds db₀ (d.step db) (done ++ [d])) := by
  by_cases hnew : ∀ d' ∈ done, d'.receipt.revision ≠ d.receipt.revision
  · obtain ⟨hyes, hno⟩ := create_new hbefore h hdone hd hnew
    by_cases hapart : ∀ d' ∈ done, Apart d' d
    · have hcreate := hyes hapart
      have hholds := h.insert hbefore hnew hapart
      have hstep : d.step db = db.insert d.order.exchangeOrderRecordId d.receipt := congrArg Prod.snd hcreate
      refine ⟨iff_of_true ⟨?_, fun row hrow row' hrow' hrevision hrevision' => ?_, fun row hrow heq => ?_, fun e he => ?_⟩ hapart,
        fun _ => hstep ▸ hholds⟩
      · rw [hcreate]
        exact ⟨_, List.mem_append_right _ List.mem_cons_self, rfl, rfl⟩
      · rw [hcreate] at hrow hrow'
        exact hholds.unique row hrow row' hrow' (account_of_revision hrevision) (hrevision.trans hrevision'.symm)
      · obtain ⟨d', hd', hreceipt⟩ := h.of_account hbefore hrow (account_of_revision heq)
        exact absurd (hreceipt ▸ heq) (hnew d' hd')
      · rw [hcreate] at he
        nomatch he
    · obtain ⟨e, hcreate⟩ := hno hapart
      have hnot : ¬d.Kept db := by
        intro hkept
        obtain ⟨row, -, hok, -⟩ := hkept.returned
        rw [hcreate] at hok
        nomatch hok
      exact ⟨iff_of_false hnot hapart, fun hkept => absurd hkept hnot⟩
  · -- the revision was delivered before
    push Not at hnew
    obtain ⟨d', hd', hrevision⟩ := hnew
    obtain ⟨row, hrow, hstored⟩ := h.delivered d' hd'
    have hcreate := create_replay hhonest hbefore h d hrow (hstored.trans hrevision)
    have hstep : d.step db = db := congrArg Prod.snd hcreate
    have hkept : d.Kept db := by
      refine ⟨?_, fun r hr r' hr' heq heq' => ?_, fun r hr heq => create_replay hhonest hbefore h d hr heq, fun e he => ?_⟩
      · rw [hcreate]
        exact ⟨row, hrow, rfl, hstored.trans hrevision⟩
      · rw [hcreate] at hr hr'
        exact h.unique r hr r' hr' (account_of_revision heq) (heq.trans heq'.symm)
      · rw [hcreate]
    refine ⟨iff_of_true hkept (h.apart_of_revision hhonest hd' hrevision), fun _ => ?_⟩
    rw [hstep]
    exact h.replay hhonest hd' hrevision

/-- A history is kept exactly if every delivery is apart from those before it. -/
theorem history_iff {deliveries : List (Delivery account orders)} (hhonest : HonestOrders orders)
    (hbefore : db₀.Before account orders deliveries) (rest : List (Delivery account orders)) {done : List (Delivery account orders)}
    {db : FillLedger} (h : Holds db₀ db done) (hall : done ++ rest = deliveries) :
    Loops.Meets Delivery.step (fun db d => d.Kept db) db rest ↔ ∀ d ∈ deliveries, ∀ d' ∈ deliveries, Apart d d' := by
  induction rest generalizing done db with
  | nil =>
    rw [List.append_nil] at hall
    rw [← hall]
    exact iff_of_true trivial h.apart
  | cons d rest ih =>
    have hmem : ∀ d' ∈ done, d' ∈ deliveries := fun d' hd' => hall ▸ List.mem_append_left _ hd'
    have hd : d ∈ deliveries := hall ▸ List.mem_append_right _ List.mem_cons_self
    obtain ⟨hiff, hholds⟩ := kept_iff hhonest hbefore h hmem hd
    have hall' : (done ++ [d]) ++ rest = deliveries := by rw [List.append_assoc]; exact hall
    constructor
    · rintro ⟨hkept, hrest⟩
      exact (ih (hholds hkept) hall').mp hrest
    · intro hapart
      have hkept := hiff.mpr fun d' hd' => hapart d' (hmem d' hd') d hd
      exact ⟨hkept, (ih (hholds hkept) hall').mpr hapart⟩

end Ledger

end FillReceiptsAux

open FillReceiptsAux

/-- Every receipt of a history is kept exactly if no order is delivered with two quantities and orders of different symbols share
no trade id. -/
theorem history_kept_iff {account : String} {orders : List FilledOrder} (hhonest : HonestOrders orders) {db : FillLedger}
    {deliveries : List (Delivery account orders)} (hbefore : db.Before account orders deliveries) :
    Loops.Meets Delivery.step (fun db d => d.Kept db) db deliveries ↔ Separate deliveries := by
  rw [separate_iff hhonest]
  exact history_iff hhonest hbefore deliveries (holds_nil hbefore) rfl

/-! ## An order that is filled in two parts -/

namespace FillReceiptsAux

/-- A buy of two units, filled by two trades. -/
def halvedOrder : FilledOrder where
  exchangeOrderRecordId := "record-1"
  exchangeOrderId := "7"
  clientOrderId := "client-1"
  symbol := "BTC/USDT"
  side := .buy
  reduceOnly := false
  fills := [("trade-1", 1), ("trade-2", 1)]
  quantity_pos := by decide

/-- The receipt after the first trade. -/
def firstHalf : Delivery "binance" [halvedOrder] where
  order := halvedOrder
  count := 1
  receipt :=
    { receiptId := "receipt-1", exchangeAccount := "binance", exchangeOrderId := "7", clientOrderId := "client-1",
      tradeIds := ["trade-1"], symbol := "BTC/USDT", side := .buy, reduceOnly := false, filledQuantity := 1,
      averageFillPrice := 100, eventTime := 0, tradeIds_ne_nil := by decide, tradeIds_nodup := by decide,
      tradeIds_nonempty := by decide, filledQuantity_pos := SampleLevels.one_pos,
      averageFillPrice_pos := SampleLevels.hundred_pos }
  order_mem := List.mem_singleton_self _
  count_le := by decide
  account_eq := rfl
  orderId_eq := rfl
  clientOrderId_eq := rfl
  symbol_eq := rfl
  side_eq := rfl
  reduceOnly_eq := rfl
  tradeIds_eq := rfl
  quantity_eq := by decide +kernel

/-- The receipt after both. -/
def bothHalves : Delivery "binance" [halvedOrder] where
  order := halvedOrder
  count := 2
  receipt :=
    { receiptId := "receipt-2", exchangeAccount := "binance", exchangeOrderId := "7", clientOrderId := "client-1",
      tradeIds := ["trade-1", "trade-2"], symbol := "BTC/USDT", side := .buy, reduceOnly := false, filledQuantity := 2,
      averageFillPrice := 100, eventTime := 1, tradeIds_ne_nil := by decide, tradeIds_nodup := by decide,
      tradeIds_nonempty := by decide, filledQuantity_pos := SampleLevels.two_pos,
      averageFillPrice_pos := SampleLevels.hundred_pos }
  order_mem := List.mem_singleton_self _
  count_le := by decide
  account_eq := rfl
  orderId_eq := rfl
  clientOrderId_eq := rfl
  symbol_eq := rfl
  side_eq := rfl
  reduceOnly_eq := rfl
  tradeIds_eq := rfl
  quantity_eq := by decide +kernel

/-- The ledger with the record of the order. -/
def recordedLedger : FillLedger where
  orderRecordIds := ["record-1"]

theorem halvedOrder_honest : HonestOrders [halvedOrder] := by
  have hone : ∀ o ∈ [halvedOrder], o = halvedOrder := fun o ho => List.mem_singleton.mp ho
  refine ⟨fun o ho o' ho' _ => (hone o ho).trans (hone o' ho').symm, fun o ho o' ho' _ hne => ?_⟩
  exact absurd ((hone o ho).trans (hone o' ho').symm) hne

theorem recordedLedger_before : recordedLedger.Before "binance" [halvedOrder] [firstHalf, bothHalves] := by
  have hreceipts : ∀ row, row ∉ recordedLedger.receipts := fun _ => List.not_mem_nil
  have hidentities : ∀ i, i ∉ recordedLedger.identities := fun _ => List.not_mem_nil
  refine ⟨fun o ho => ?_, fun row hrow => absurd hrow (hreceipts row), fun i hi => absurd hi (hidentities i),
    fun _ _ row hrow => absurd hrow (hreceipts row), fun d hd d' hd' heq => ?_⟩
  · rw [List.mem_singleton.mp ho]
    decide
  · rcases List.mem_cons.mp hd with rfl | hd <;> rcases List.mem_cons.mp hd' with rfl | hd'
    · rfl
    · rw [List.mem_singleton.mp hd'] at heq
      exact absurd heq (by decide)
    · rw [List.mem_singleton.mp hd] at heq
      exact absurd heq (by decide)
    · rw [List.mem_singleton.mp hd, List.mem_singleton.mp hd']

end FillReceiptsAux

/-- The second receipt of an order is refused: it lists the first trade again. -/
theorem history_kept_false :
    ¬∀ (account : String) (orders : List FilledOrder) (db : FillLedger) (deliveries : List (Delivery account orders)),
      HonestOrders orders → db.Before account orders deliveries →
        Loops.Meets Delivery.step (fun db d => d.Kept db) db deliveries := by
  intro h
  obtain ⟨-, hkept, -⟩ := h _ _ _ _ halvedOrder_honest recordedLedger_before
  obtain ⟨row, -, hok, -⟩ := hkept.returned
  have herror : (bothHalves.create (firstHalf.step recordedLedger)).1.isOk = false := by decide +kernel
  rw [hok] at herror
  exact absurd herror (by simp [Except.isOk, Except.toBool])

/-- The history of the two receipts is not kept: they are of one order and of two quantities. -/
theorem history_kept_iff_halves :
    ¬Loops.Meets Delivery.step (fun db d => d.Kept db) recordedLedger [firstHalf, bothHalves] := by
  rw [history_kept_iff halvedOrder_honest recordedLedger_before]
  intro hseparate
  have hcount := (hseparate firstHalf List.mem_cons_self bothHalves (List.mem_cons_of_mem _ List.mem_cons_self)).1 rfl
  exact absurd hcount (by decide)

end TradingPlatform
