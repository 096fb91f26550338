import Mathlib.Algebra.Order.BigOperators.Group.List
import TradingPlatform.Lemmas.Frames

/-!
# The fills of a report

A report of an order names its trades and one quantity, and the quantity is spread over the trades. The loop that stores them
writes a row for every trade it does not find, and nothing else; it raises on a share that is not positive.
-/

namespace TradingPlatform

/-! ## Fresh ids -/

/-- The ids that `uuid4` has not drawn yet are distinct, and no row has one. -/
structure Database.FreshIds (db : Database) : Prop where
  distinct : ∀ m n, db.drawn ≤ m → m < n → db.uuids m ≠ db.uuids n
  orders : ∀ o ∈ db.orders, ∀ n, db.drawn ≤ n → o.orderRecordId ≠ db.uuids n
  fills : ∀ f ∈ db.fills, ∀ n, db.drawn ≤ n → f.fillId ≠ db.uuids n

theorem Database.FreshIds.filled {db : Database} (h : db.FreshIds) (r : FillReceipt) : (db.filled r).FreshIds where
  distinct := fun m n hm hn => h.distinct m n (Nat.le_of_succ_le hm) hn
  orders := fun o ho n hn => h.orders o ho n (Nat.le_of_succ_le hn)
  fills := by
    intro f hf n hn
    rcases List.mem_append.mp hf with hf | hf
    · exact h.fills f hf n (Nat.le_of_succ_le hn)
    · obtain rfl := List.mem_singleton.mp hf
      exact h.distinct db.drawn n (le_refl _) hn

/-- A database with the same records of orders and fills, and no id given back. -/
theorem Database.FreshIds.mono {db db' : Database} (h : db.FreshIds) (huuids : db'.uuids = db.uuids)
    (hdrawn : db.drawn ≤ db'.drawn) (horders : ∀ o ∈ db'.orders, ∃ o' ∈ db.orders, o'.orderRecordId = o.orderRecordId)
    (hfills : db'.fills = db.fills) : db'.FreshIds where
  distinct := fun m n hm hn => by
    rw [huuids]
    exact h.distinct m n (hdrawn.trans hm) hn
  orders := by
    intro o ho n hn
    obtain ⟨o', ho', hid⟩ := horders o ho
    rw [huuids, ← hid]
    exact h.orders o' ho' n (hdrawn.trans hn)
  fills := by
    intro f hf n hn
    rw [hfills] at hf
    rw [huuids]
    exact h.fills f hf n (hdrawn.trans hn)

/-! ## The split of a quantity -/

theorem sum_pos_of_forall {α : Type} {f : α → ℚ} {l : List α} (hl : l ≠ []) (h : ∀ x ∈ l, 0 < f x) : 0 < (l.map f).sum := by
  refine List.sum_pos _ (fun y hy => ?_) (by simpa using hl)
  obtain ⟨x, hx, rfl⟩ := List.mem_map.mp hy
  exact h x hx

/-- Every trade but the last gets the rounded part, the last one what is left. -/
theorem splitQuantity_append (q : ℚ) (l : List String) (t : String) :
    splitQuantity q (l ++ [t]) = l.map (fun x => (x, quantize (q / (l ++ [t]).length))) ++
      [(t, q - l.length * quantize (q / (l ++ [t]).length))] := by
  unfold splitQuantity
  rw [List.mapIdx_concat]
  congr 1
  · refine List.ext_getElem (by simp) fun i h₁ h₂ => ?_
    have hi : i < l.length := by simpa using h₁
    have hne : i ≠ l.length := by omega
    simp [hne]
  · simp

theorem splitQuantity_fst (q : ℚ) (tradeIds : List String) : (splitQuantity q tradeIds).map Prod.fst = tradeIds := by
  unfold splitQuantity
  refine List.ext_getElem (by simp) fun i h₁ h₂ => ?_
  simp

/-- The shares of a report add up to its quantity. -/
theorem splitQuantity_sum {q : ℚ} {tradeIds : List String} (h : tradeIds ≠ []) :
    ((splitQuantity q tradeIds).map Prod.snd).sum = q := by
  obtain ⟨l, t, rfl⟩ : ∃ l t, tradeIds = l ++ [t] := ⟨_, _, (List.dropLast_concat_getLast h).symm⟩
  rw [splitQuantity_append, List.map_append, List.map_map, List.sum_append]
  have hconst : (l.map (Prod.snd ∘ fun x => (x, quantize (q / (l ++ [t]).length)))).sum =
      l.length * quantize (q / (l ++ [t]).length) := by
    have hmap : l.map (Prod.snd ∘ fun x => (x, quantize (q / (l ++ [t]).length))) =
        List.replicate l.length (quantize (q / (l ++ [t]).length)) := by
      rw [List.eq_replicate_iff]
      simp
    rw [hmap, List.sum_replicate, nsmul_eq_mul]
  rw [hconst]
  simp

/-! ## One trade -/

/-- The receipt of one share. -/
def FillReceipt.share (r : FillReceipt) (s : String × ℚ) : FillReceipt := { r with tradeId := some s.1, filledQuantity := s.2 }

/-- A receipt is for an acknowledged order of the database. -/
structure FillReceipt.Attached (r : FillReceipt) (db : Database) : Prop where
  order : ∃ o, db.order r.exchangeOrderRecordId = some o ∧ o.intentId = r.intentId ∧ o.exchangeOrderId = some r.exchangeOrderId
  exchangeOrderId : r.exchangeOrderId ≠ ""
  accountId : r.accountId = "binance_testnet"

/-- A fill is of the order of a receipt. -/
def FillReceipt.Owns (r : FillReceipt) (f : FillRow) : Prop :=
  f.intentId = r.intentId ∧ f.exchangeOrderRecordId = r.exchangeOrderRecordId ∧ f.exchangeOrderId = r.exchangeOrderId

theorem fillByTrade_some {db : Database} {accountId tradeId : String} {f : FillRow} (h : db.fillByTrade accountId tradeId = some f) :
    f ∈ db.fills ∧ f.accountId = accountId ∧ f.tradeId = some tradeId := by
  refine ⟨List.mem_of_find?_eq_some h, ?_⟩
  have hf := List.find?_some h
  exact of_decide_eq_true hf

theorem fillByTrade_none {db : Database} {accountId tradeId : String} :
    db.fillByTrade accountId tradeId = none ↔ ∀ f ∈ db.fills, f.accountId = accountId → f.tradeId ≠ some tradeId := by
  unfold Database.fillByTrade
  simp [List.find?_eq_none]

/-- The trade of a share is stored under its own order, or it is written. -/
theorem saveFillOnce_eq_ok {db db' : Database} {r : FillReceipt} {s : String × ℚ} (hattached : r.Attached db)
    (hfresh : db.FreshIds) (hprice : 0 < r.fillPrice) :
    saveFillOnce db { r with filledQuantity := s.2 } s.1 = .ok db' ↔
      (∃ f, db.fillByTrade "binance_testnet" s.1 = some f ∧ r.Owns f ∧ db' = db) ∨
        (db.fillByTrade "binance_testnet" s.1 = none ∧ 0 < s.2 ∧ db' = db.filled (r.share s)) := by
  obtain ⟨o, horder, hintent, hack⟩ := hattached.order
  unfold saveFillOnce
  cases hf : db.fillByTrade "binance_testnet" s.1 with
  | some f =>
    by_cases howns : r.Owns f
    · obtain ⟨h₁, h₂, h₃⟩ := howns
      simp [h₁, h₂, h₃, FillReceipt.Owns, eq_comm (a := db')]
    · have hnot : f.intentId ≠ r.intentId ∨ f.exchangeOrderRecordId ≠ r.exchangeOrderRecordId ∨
          f.exchangeOrderId ≠ r.exchangeOrderId := by
        unfold FillReceipt.Owns at howns
        tauto
      simp only [if_pos hnot]
      simp [howns]
  | none =>
    have hid : o.acknowledgedId = some r.exchangeOrderId := by
      unfold OrderRow.acknowledgedId
      rw [hack]
      simp [Option.filter, hattached.exchangeOrderId]
    have hcomplete : db.completeOrder o r.exchangeOrderId = .ok db := by
      unfold Database.completeOrder
      rw [hid]
      rfl
    rw [fillByTrade_none] at hf
    simp only [saveExchangeFillReceipt_eq_ok, reduceCtorEq, false_and, exists_false, false_or, true_and]
    constructor
    · rintro ⟨o', db₁, ho', -, -, hcompleted, hfits, rfl⟩
      cases horder.symm.trans ho'
      cases hcomplete.symm.trans hcompleted
      exact ⟨hfits.quantity, rfl⟩
    · rintro ⟨hquantity, rfl⟩
      refine ⟨o, db, horder, hintent, ?_, hcomplete, ⟨?_, ?_, hquantity, hprice⟩, rfl⟩
      · intro id hack'
        exact (Option.some.inj (hid.symm.trans hack')).symm
      · exact fun f hf' => hfresh.fills f hf' db.drawn (le_refl _)
      · intro f hf'
        by_cases haccount : f.accountId = r.accountId
        · exact .inr (.inr (hf f hf' (haccount.trans hattached.accountId)))
        · exact .inr (.inl haccount)

/-! ## All trades -/

/-- The shares of the trades that are not stored. -/
def Database.newShares (db : Database) (shares : List (String × ℚ)) : List (String × ℚ) :=
  shares.filter fun s => (db.fillByTrade "binance_testnet" s.1).isNone

/-- The database with a fill for each receipt. -/
def Database.filledAll (db : Database) (receipts : List FillReceipt) : Database := receipts.foldl Database.filled db

/-- Another trade does not change which shares are new. -/
theorem newShares_filled {db : Database} {r : FillReceipt} {s : String × ℚ} {shares : List (String × ℚ)}
    (hother : s.1 ∉ shares.map Prod.fst) : (db.filled (r.share s)).newShares shares = db.newShares shares := by
  unfold Database.newShares
  refine List.filter_congr fun s' hs' => ?_
  have hne : s.1 ≠ s'.1 := by
    intro heq
    exact hother (heq ▸ List.mem_map_of_mem hs')
  unfold Database.fillByTrade Database.filled
  rw [List.find?_append]
  cases db.fills.find? fun f => decide (f.accountId = "binance_testnet" ∧ f.tradeId = some s'.1) with
  | some f => rfl
  | none =>
    have hmiss : ¬((r.share s).row (db.uuids db.drawn)).tradeId = some s'.1 := by
      intro heq
      exact hne (Option.some.inj heq)
    simp [hmiss]

/-- The loop over the shares of a report returns exactly if every new share is positive, and has then stored these. -/
theorem saveShares_eq_ok {r : FillReceipt} (hprice : 0 < r.fillPrice) {shares : List (String × ℚ)}
    (hnodup : (shares.map Prod.fst).Nodup) {db db' : Database} (hattached : r.Attached db) (hfresh : db.FreshIds)
    (howned : ∀ f ∈ db.fills, f.accountId = "binance_testnet" → ∀ s ∈ shares, f.tradeId = some s.1 → r.Owns f) :
    shares.foldlM (fun db s => saveFillOnce db { r with filledQuantity := s.2 } s.1) db = .ok db' ↔
      (∀ s ∈ db.newShares shares, 0 < s.2) ∧ db' = db.filledAll ((db.newShares shares).map r.share) := by
  induction shares generalizing db with
  | nil => simp [pure, Except.pure, Database.newShares, Database.filledAll, eq_comm (a := db')]
  | cons s shares ih =>
    rw [List.map_cons, List.nodup_cons] at hnodup
    rw [List.foldlM_cons, Loops.bind_eq_ok]
    cases hf : db.fillByTrade "binance_testnet" s.1 with
    | some f =>
      have hnew : db.newShares (s :: shares) = db.newShares shares := by
        unfold Database.newShares
        rw [List.filter_cons_of_neg (by simp [hf])]
      have hrest := ih hnodup.2 hattached hfresh fun f hf haccount s' hs' => howned f hf haccount s' (List.mem_cons_of_mem s hs')
      rw [hnew, ← hrest]
      constructor
      · rintro ⟨db₁, hstep, hloop⟩
        rcases (saveFillOnce_eq_ok hattached hfresh hprice).mp hstep with ⟨_, -, -, rfl⟩ | ⟨hnone, -, -⟩
        · exact hloop
        · rw [hf] at hnone
          nomatch hnone
      · intro hloop
        obtain ⟨hmem, haccount, htrade⟩ := fillByTrade_some hf
        have hstep := (saveFillOnce_eq_ok (s := s) hattached hfresh hprice).mpr
          (.inl ⟨f, hf, howned f hmem haccount s List.mem_cons_self htrade, rfl⟩)
        exact ⟨db, hstep, hloop⟩
    | none =>
      have hnew : db.newShares (s :: shares) = s :: db.newShares shares := by
        unfold Database.newShares
        rw [List.filter_cons_of_pos (by simp [hf])]
      have hattached' : r.Attached (db.filled (r.share s)) := ⟨hattached.order, hattached.exchangeOrderId, hattached.accountId⟩
      have hsame : (db.filled (r.share s)).newShares shares = db.newShares shares := newShares_filled hnodup.1
      have howned' : ∀ f ∈ (db.filled (r.share s)).fills, f.accountId = "binance_testnet" →
          ∀ s' ∈ shares, f.tradeId = some s'.1 → r.Owns f := by
        intro f hf' haccount s' hs' htrade
        rcases List.mem_append.mp hf' with hold | hadded
        · exact howned f hold haccount s' (List.mem_cons_of_mem s hs') htrade
        · obtain rfl := List.mem_singleton.mp hadded
          exact ⟨rfl, rfl, rfl⟩
      have hrest := ih hnodup.2 hattached' (hfresh.filled _) howned'
      rw [hsame] at hrest
      rw [hnew, List.forall_mem_cons, and_assoc]
      constructor
      · rintro ⟨db₁, hstep, hloop⟩
        rcases (saveFillOnce_eq_ok hattached hfresh hprice).mp hstep with ⟨_, hsome, -⟩ | ⟨-, hpos, rfl⟩
        · rw [hf] at hsome
          nomatch hsome
        · exact ⟨hpos, hrest.mp hloop⟩
      · rintro ⟨hpos, hloop⟩
        exact ⟨_, (saveFillOnce_eq_ok hattached hfresh hprice).mpr (.inr ⟨hf, hpos, rfl⟩), hrest.mpr hloop⟩

/-! ## The rows a report leaves -/

/-- Fills change no other table. -/
theorem filledAll_touches (db : Database) (receipts : List FillReceipt) : Touches [.fills] db (db.filledAll receipts) := by
  induction receipts generalizing db with
  | nil => exact Touches.refl _ _
  | cons r receipts ih =>
    have hfirst : Touches [.fills] db (db.filled r) := by
      refine ⟨fun t ht => ?_, rfl, Nat.le_succ _⟩
      cases t <;> first | rfl | simp at ht
    exact hfirst.trans (ih (db.filled r))

/-- The rows of the shares of a report. -/
def FillRows (r : FillReceipt) (rows : List FillRow) (shares : List (String × ℚ)) : Prop :=
  List.Forall₂ (fun row s => ∃ fillId, row = (r.share s).row fillId) rows shares

section

variable {r : FillReceipt} {rows : List FillRow} {shares : List (String × ℚ)}

theorem FillRows.quantities (h : FillRows r rows shares) : rows.map (·.filledQuantity) = shares.map Prod.snd := by
  induction h with
  | nil => rfl
  | cons hrow _ ih =>
    obtain ⟨_, rfl⟩ := hrow
    simp only [List.map_cons, ih]
    rfl

theorem FillRows.tradeIds (h : FillRows r rows shares) : rows.map (·.tradeId) = (shares.map Prod.fst).map some := by
  induction h with
  | nil => rfl
  | cons hrow _ ih =>
    obtain ⟨_, rfl⟩ := hrow
    simp only [List.map_cons, ih]
    rfl

/-- A row of the report, but for its trade and its quantity. -/
theorem FillRows.row (h : FillRows r rows shares) {row : FillRow} (hrow : row ∈ rows) :
    ∃ s ∈ shares, ∃ fillId, row = (r.share s).row fillId := by
  induction h with
  | nil => nomatch hrow
  | @cons _ s _ _ hfirst _ ih =>
    rcases List.mem_cons.mp hrow with rfl | hrow
    · exact ⟨s, List.mem_cons_self, hfirst⟩
    · obtain ⟨s', hs', heq⟩ := ih hrow
      exact ⟨s', List.mem_cons_of_mem _ hs', heq⟩

/-- The rows are all of the order of the receipt. -/
theorem FillRows.ofOrder (h : FillRows r rows shares) :
    (rows.filter fun f => decide (f.exchangeOrderRecordId = r.exchangeOrderRecordId)) = rows := by
  refine List.filter_eq_self.mpr fun row hrow => ?_
  obtain ⟨s, -, fillId, rfl⟩ := h.row hrow
  exact decide_eq_true rfl

end

/-- The fills after the loop: the old ones and those of the shares, in order. -/
theorem filledAll_shares (db : Database) (r : FillReceipt) (shares : List (String × ℚ)) :
    ∃ rows, (db.filledAll (shares.map r.share)).fills = db.fills ++ rows ∧ FillRows r rows shares := by
  induction shares generalizing db with
  | nil => exact ⟨[], by simp [Database.filledAll], .nil⟩
  | cons s shares ih =>
    obtain ⟨rows, hfills, hrows⟩ := ih (db.filled (r.share s))
    refine ⟨(r.share s).row (db.uuids db.drawn) :: rows, ?_, .cons ⟨_, rfl⟩ hrows⟩
    have hstep : (db.filledAll ((s :: shares).map r.share)).fills =
        ((db.filled (r.share s)).filledAll (shares.map r.share)).fills := rfl
    rw [hstep, hfills]
    simp [Database.filled]

end TradingPlatform
