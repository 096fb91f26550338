import TradingPlatform.Lemmas.EntryRecords
import TradingPlatform.Theorems.ExitRestart

/-!
# The fills of an order under replay

The exchange reports ever more trades of an order, and every report is persisted. A trade's own quantity is not in the report:
its share is an even part of the whole.
-/

namespace TradingPlatform

variable {r : FillReport}

/-! ## Reports -/

/-- A call that persists a report of an order. -/
inductive FillCall where
  | entry (a : EntryFacts)
  | exit (a : ExitFacts)

/-- The database after a call, whether it returned or raised. -/
def FillCall.apply (call : FillCall) (db : Database) : Database :=
  match call with
  | .entry a => (transaction db (persistEntryAndProtection db a)).2
  | .exit a => (persistExitResult db a).2

/-- A call with the trades behind its report. -/
structure FillReport where
  call : FillCall
  trades : List (String × ℚ)

/-- The call names the trades and their whole quantity. -/
def FillReport.Of (r : FillReport) (exchangeOrderId : String) : Prop :=
  match r.call with
  | .entry a => a.Reports exchangeOrderId r.trades
  | .exit a => a.result.Reports exchangeOrderId ∧ a.result.tradeIds = r.trades.map Prod.fst ∧
      a.result.reducedQuantity = (r.trades.map Prod.snd).sum

/-- Every report has the trades of the one before, and names a trade once. -/
def Growing : List (String × ℚ) → List FillReport → Prop
  | _, [] => True
  | known, r :: rest =>
    known ⊆ r.trades ∧ (r.trades.map Prod.fst).Nodup ∧ (∀ t ∈ r.trades, 0 < t.2) ∧ Growing r.trades rest

/-- The stored fills of an order are positive, add up to the trades, and there is one of each. -/
structure FillsMatch (db : Database) (orderRecordId : String) (trades : List (String × ℚ)) : Prop where
  positive : ∀ f ∈ db.fillsOfOrder orderRecordId, 0 < f.filledQuantity
  total : ((db.fillsOfOrder orderRecordId).map (·.filledQuantity)).sum = (trades.map Prod.snd).sum
  oneEach : ((db.fillsOfOrder orderRecordId).map (·.tradeId)).Perm (trades.map fun t => some t.1)

/-- The fills match the trades of every report once it was persisted. -/
def Conserved (orderRecordId : String) : Database → List FillReport → Prop
  | _, [] => True
  | db, r :: rest =>
    FillsMatch (r.call.apply db) orderRecordId r.trades ∧ Conserved orderRecordId (r.call.apply db) rest

/-! ## The condition on a step -/

/-- The trades that a report adds. -/
def FillReport.added (r : FillReport) (known : List (String × ℚ)) : List (String × ℚ) :=
  r.trades.filter fun t => decide (t.1 ∉ known.map Prod.fst)

/-- The mean quantity of the trades of a report, to eight decimals. -/
def FillReport.mean (r : FillReport) : ℚ := quantize ((r.trades.map Prod.snd).sum / r.trades.length)

/-- Trades filled a quantity each, on the average. -/
def FilledEach (quantity : ℚ) (trades : List (String × ℚ)) : Prop := (trades.map Prod.snd).sum = trades.length * quantity

/-- If the last trade of a report is new, the known trades filled the mean, and the mean for each of the others leaves it
something; if it is known, the added trades filled the mean. -/
structure FillReport.Balanced (r : FillReport) (known : List (String × ℚ)) : Prop where
  newLast : ∀ t ∈ r.trades.getLast?, t.1 ∉ known.map Prod.fst →
    FilledEach r.mean known ∧ (1 < (r.added known).length → 0 < r.mean) ∧
      (r.trades.length - 1) * r.mean < (r.trades.map Prod.snd).sum
  knownLast : ∀ t ∈ r.trades.getLast?, t.1 ∈ known.map Prod.fst → FilledEach r.mean (r.added known) ∧ 0 < r.mean

/-- Nothing else stops the call: an entry can be stored, and an exit is the first report of its order, whose intent waits for its
fill. -/
def FillReport.Unhindered (r : FillReport) (db : Database) (orderRecordId exchangeOrderId : String)
    (known : List (String × ℚ)) : Prop :=
  match r.call with
  | .entry a => ∃ o, o.orderRecordId = orderRecordId ∧ a.Storable db o exchangeOrderId
  | .exit a => known = [] ∧ ∃ o p, o.orderRecordId = orderRecordId ∧ db.orderOfClientId a.result.clientOrderId = some o ∧
      a.Grounded db exchangeOrderId p ∧ p.state ≠ .closed ∧ (db.exitIntentState a.result.clientOrderId).pending = true ∧
      (p.state = .quarantined → p.quantity ≤ a.result.reducedQuantity + 1 / 100000000)

/-- A report adds no trade, or is not hindered and is balanced. -/
def FillReport.Fits (r : FillReport) (db : Database) (orderRecordId exchangeOrderId : String) (known : List (String × ℚ)) :
    Prop :=
  r.added known = [] ∨ (r.Unhindered db orderRecordId exchangeOrderId known ∧ r.Balanced known)

/-- Every report of a run fits. -/
def ReportsFit (orderRecordId exchangeOrderId : String) : List (String × ℚ) → Database → List FillReport → Prop
  | _, _, [] => True
  | known, db, r :: rest =>
    r.Fits db orderRecordId exchangeOrderId known ∧
      ReportsFit orderRecordId exchangeOrderId r.trades (r.call.apply db) rest

/-! ## Growing lists of trades -/

/-- A growing list is the old one and what it adds. -/
theorem FillReport.trades_perm {known : List (String × ℚ)} (hknown : (known.map Prod.fst).Nodup)
    (hnodup : (r.trades.map Prod.fst).Nodup) (hsub : known ⊆ r.trades) : (known ++ r.added known).Perm r.trades := by
  have hkept : (r.trades.filter fun t => !decide (t.1 ∉ known.map Prod.fst)).Perm known := by
    refine (List.perm_ext_iff_of_nodup (hnodup.of_map.filter _) hknown.of_map).mpr fun t => ?_
    simp only [List.mem_filter, Bool.not_eq_true', decide_eq_false_iff_not, not_not]
    constructor
    · rintro ⟨ht, hid⟩
      obtain ⟨t', ht', heq⟩ := List.mem_map.mp hid
      rwa [← List.inj_on_of_nodup_map hnodup (hsub ht') ht heq]
    · exact fun ht => ⟨hsub ht, List.mem_map_of_mem ht⟩
  have hparts := List.filter_append_perm (fun t => decide (t.1 ∉ known.map Prod.fst)) r.trades
  exact (List.perm_append_comm.trans ((List.Perm.refl _).append hkept.symm)).trans hparts

/-! ## The shares -/

/-- The shares a report gives to trades. -/
def FillReport.shares (r : FillReport) : List (String × ℚ) :=
  splitQuantity (r.trades.map Prod.snd).sum (r.trades.map Prod.fst)

/-- The shares of the trades that a report adds. -/
def FillReport.addedShares (r : FillReport) (known : List (String × ℚ)) : List (String × ℚ) :=
  r.shares.filter fun s => decide (s.1 ∉ known.map Prod.fst)

theorem FillReport.shares_fst (r : FillReport) : r.shares.map Prod.fst = r.trades.map Prod.fst := splitQuantity_fst _ _

/-- The ids of the shares of the added trades are those of the added trades. -/
theorem FillReport.addedShares_fst (r : FillReport) (known : List (String × ℚ)) :
    (r.addedShares known).map Prod.fst = (r.added known).map Prod.fst := by
  have hfilter : ∀ l : List (String × ℚ), (l.filter fun s => decide (s.1 ∉ known.map Prod.fst)).map Prod.fst =
      (l.map Prod.fst).filter fun id => decide (id ∉ known.map Prod.fst) := by
    intro l
    rw [List.filter_map]
    rfl
  unfold FillReport.addedShares FillReport.added
  rw [hfilter, hfilter, r.shares_fst]

/-- Every trade but the last gets the mean, the last one what is left. -/
theorem FillReport.shares_append {r : FillReport} {l : List (String × ℚ)} {t : String × ℚ} (h : r.trades = l ++ [t]) :
    r.shares = l.map (fun x => (x.1, r.mean)) ++ [(t.1, (r.trades.map Prod.snd).sum - l.length * r.mean)] := by
  unfold FillReport.shares FillReport.mean
  have hfst : r.trades.map Prod.fst = l.map Prod.fst ++ [t.1] := by rw [h, List.map_append, List.map_singleton]
  have hlength : r.trades.length = (l.map Prod.fst ++ [t.1]).length := by rw [← hfst, List.length_map]
  rw [hfst, splitQuantity_append, ← hlength, List.map_map, List.length_map]
  rfl

/-- The shares of the added trades are positive and add up to what these trades filled. -/
def FillReport.SplitsEvenly (r : FillReport) (known : List (String × ℚ)) : Prop :=
  (∀ s ∈ r.addedShares known, 0 < s.2) ∧ ((r.addedShares known).map Prod.snd).sum = ((r.added known).map Prod.snd).sum

/-- A balanced report splits evenly over the trades it adds. -/
theorem FillReport.Balanced.splitsEvenly {known : List (String × ℚ)} (h : r.Balanced known)
    (hperm : (known ++ r.added known).Perm r.trades) : r.SplitsEvenly known := by
  have hlength := hperm.length_eq
  have hsum := (hperm.map Prod.snd).sum_eq
  rw [List.length_append] at hlength
  rw [List.map_append, List.sum_append] at hsum
  rcases List.eq_nil_or_concat r.trades with hnil | ⟨l, t, htrades⟩
  · have hshares : r.shares = [] := by
      unfold FillReport.shares splitQuantity
      rw [hnil]
      rfl
    unfold FillReport.SplitsEvenly FillReport.addedShares FillReport.added
    rw [hshares, hnil]
    exact ⟨fun s hs => absurd hs List.not_mem_nil, rfl⟩
  · rw [List.concat_eq_append] at htrades
    have hlast : t ∈ r.trades.getLast? := by rw [htrades, List.getLast?_concat]; rfl
    -- the new ones among all trades but the last
    obtain ⟨new, hnew⟩ : ∃ new, new = l.filter fun x => decide (x.1 ∉ known.map Prod.fst) := ⟨_, rfl⟩
    have hadded : r.added known = new ++ if t.1 ∉ known.map Prod.fst then [t] else [] := by
      unfold FillReport.added
      rw [htrades, List.filter_append, ← hnew, List.filter_singleton, Bool.cond_decide]
    have hshares : r.addedShares known = new.map (fun x => (x.1, r.mean)) ++
        if t.1 ∉ known.map Prod.fst then [(t.1, (r.trades.map Prod.snd).sum - l.length * r.mean)] else [] := by
      unfold FillReport.addedShares
      rw [r.shares_append htrades, List.filter_append, List.filter_map, List.filter_singleton, Bool.cond_decide, hnew]
      rfl
    have hmeans : ((new.map fun x => (x.1, r.mean)).map Prod.snd).sum = new.length * r.mean := by
      rw [List.map_map, ← nsmul_eq_mul, ← List.sum_replicate, ← List.map_const]
      rfl
    unfold FillReport.SplitsEvenly
    by_cases hold : t.1 ∈ known.map Prod.fst
    · obtain ⟨hfilled, hmean⟩ := h.knownLast t hlast hold
      rw [if_neg (not_not.mpr hold), List.append_nil] at hadded hshares
      rw [hshares, hadded, hmeans]
      refine ⟨fun s hs => ?_, (hadded ▸ hfilled).symm⟩
      obtain ⟨x, -, rfl⟩ := List.mem_map.mp hs
      exact hmean
    · obtain ⟨hfilled, hmean, hleft⟩ := h.newLast t hlast hold
      rw [if_pos hold] at hadded hshares
      have hcount : (r.trades.length : ℚ) = l.length + 1 := by rw [htrades]; simp
      have hparts : (known.length : ℚ) + new.length = l.length := by
        rw [hadded, htrades, List.length_append, List.length_append, List.length_singleton] at hlength
        exact_mod_cast (by omega : known.length + new.length = l.length)
      rw [hshares]
      constructor
      · intro s hs
        rcases List.mem_append.mp hs with hs | hs
        · obtain ⟨x, hx, rfl⟩ := List.mem_map.mp hs
          refine hmean ?_
          rw [hadded, List.length_append, List.length_singleton]
          have := List.length_pos_of_mem hx
          omega
        · rw [List.mem_singleton.mp hs]
          rw [hcount] at hleft
          linarith
      · rw [List.map_append, List.sum_append, hmeans, List.map_singleton, List.sum_singleton]
        unfold FilledEach at hfilled
        rw [hfilled] at hsum
        have hmeansAll : known.length * r.mean + new.length * r.mean = l.length * r.mean := by rw [← hparts, add_mul]
        change new.length * r.mean + ((r.trades.map Prod.snd).sum - l.length * r.mean) = ((r.added known).map Prod.snd).sum
        linarith

section

variable {db db' : Database} {orderRecordId exchangeOrderId : String} {known trades : List (String × ℚ)}

/-! ## A report that adds nothing -/

/-- A trade that is stored is not stored again. -/
theorem saveFillOnce_stored {r : FillReceipt} {tradeId : String} (hstored : (db.fillByTrade "binance_testnet" tradeId).isSome = true)
    (h : saveFillOnce db r tradeId = .ok db') : db' = db := by
  obtain ⟨f, hf⟩ := Option.isSome_iff_exists.mp hstored
  unfold saveFillOnce at h
  simp only [hf] at h
  split at h
  · nomatch h
  · exact (Except.ok.inj h).symm

/-- A loop whose steps write nothing writes nothing. -/
theorem foldlM_unchanged {α : Type} {f : Database → α → Except PyError Database} {l : List α}
    (hf : ∀ x ∈ l, ∀ db', f db x = .ok db' → db' = db) (h : l.foldlM f db = .ok db') : db' = db := by
  induction l with
  | nil => exact (Except.ok.inj h).symm
  | cons x l ih =>
    rw [List.foldlM_cons] at h
    obtain ⟨db₁, hfirst, hrest⟩ := Loops.bind_eq_ok.mp h
    rw [hf x List.mem_cons_self db₁ hfirst] at hrest
    exact ih (fun y hy => hf y (List.mem_cons_of_mem x hy)) hrest

/-- An entry whose trades are stored adds no fill. -/
theorem persistEntryAndProtection_stored {a : EntryFacts} (hsource : a.entryResult.fillSource ≠ "BINANCE_ORDER_STATUS_RECOVERY")
    (hstored : ∀ t ∈ a.entryResult.tradeIds, (db.fillByTrade "binance_testnet" t).isSome = true)
    (h : persistEntryAndProtection db a = .ok db') : db'.fills = db.fills := by
  unfold persistEntryAndProtection at h
  split at h
  · nomatch h
  · split at h
    · rw [Except.ok.inj h]
    · obtain ⟨db₁, hcycle, h⟩ := Loops.bind_eq_ok.mp h
      obtain ⟨db₂, hintent, h⟩ := Loops.bind_eq_ok.mp h
      split at h
      · nomatch h
      · obtain ⟨db₃, hack, h⟩ := Loops.bind_eq_ok.mp h
        obtain ⟨⟨orderRecordId, db₄⟩, horder, h⟩ := Loops.bind_eq_ok.mp h
        obtain ⟨db₅, hreceipt, h⟩ := Loops.bind_eq_ok.mp h
        obtain ⟨db₆, hfills, h⟩ := Loops.bind_eq_ok.mp h
        obtain ⟨db₇, hreconcile, h⟩ := Loops.bind_eq_ok.mp h
        obtain ⟨db₈, hproject, hprotect⟩ := Loops.bind_eq_ok.mp h
        have hfills₅ : db₅.fills = db.fills := by
          rw [((saveExchangeOrderReceipt_touches hreceipt).fills (by decide)), ((ensureOrder_touches horder).fills (by decide)),
            ((acknowledgeIntent_touches hack).fills (by decide)), ((ensureEntryIntent_touches hintent).fills (by decide)),
            ((ensureDecision_touches db₁ a.decisionId).fills (by decide)), ((ensureCycle_touches hcycle).fills (by decide))]
        have hstored₅ : ∀ s ∈ a.shares, (db₅.fillByTrade "binance_testnet" s.1).isSome = true := by
          intro s hs
          unfold Database.fillByTrade
          rw [hfills₅]
          exact hstored s.1 (a.shares_fst ▸ List.mem_map_of_mem hs)
        unfold saveEntryFills at hfills
        rw [if_neg hsource] at hfills
        have hunchanged : db₆ = db₅ := foldlM_unchanged (fun s hs db' => saveFillOnce_stored (hstored₅ s hs)) hfills
        rw [((saveEntryProtection_touches hprotect).fills (by decide)), ((projectEntry_touches hproject).fills (by decide)),
          ((reconcileIntentFromConfirmedFill_touches hreconcile).fills (by decide)), hunchanged]
        exact hfills₅

/-- The last transaction of an exit whose trades are stored adds no fill. -/
theorem persistExitFills_stored {a : ExitFacts}
    (hstored : ∀ t ∈ a.result.tradeIds, (db.fillByTrade "binance_testnet" t).isSome = true)
    (h : persistExitFills db a = .ok db') : db'.fills = db.fills := by
  unfold persistExitFills at h
  obtain ⟨⟨p, e, eo⟩, -, h⟩ := Loops.bind_eq_ok.mp h
  dsimp only at h
  split at h
  · nomatch h
  · obtain ⟨db₁, hfills, h⟩ := Loops.bind_eq_ok.mp h
    obtain ⟨db₂, hmove, h⟩ := Loops.bind_eq_ok.mp h
    obtain ⟨db₃, hexit, h⟩ := Loops.bind_eq_ok.mp h
    have hstored₁ : ∀ s ∈ splitQuantity a.result.reducedQuantity a.result.tradeIds,
        (db.fillByTrade "binance_testnet" s.1).isSome = true := by
      intro s hs
      refine hstored s.1 ?_
      rw [← splitQuantity_fst a.result.reducedQuantity a.result.tradeIds]
      exact List.mem_map_of_mem hs
    unfold saveExitFills at hfills
    have hunchanged : db₁ = db := foldlM_unchanged (fun s hs db' => saveFillOnce_stored (hstored₁ s hs)) hfills
    rw [((Touches.foldlM settleExitedProtection_touches h).fills (by decide)),
        ((settleExitedPosition_touches db₃ p a.result).fills (by decide)),
      ((moveExitedPosition_touches hexit).fills (by decide)), ((transitionIntent_touches hmove).fills (by decide)), hunchanged]

/-- An exit whose trades are stored adds no fill, whether it returns or raises. -/
theorem persistExitResult_stored {a : ExitFacts}
    (hstored : ∀ t ∈ a.result.tradeIds, (db.fillByTrade "binance_testnet" t).isSome = true) :
    (persistExitResult db a).2.fills = db.fills := by
  have hconfirmed : (persistConfirmedExit db a).2.fills = db.fills := by
    unfold persistConfirmedExit
    cases hfirst : persistExitIntentBeforeSubmission db a.identity with
    | error e => rfl
    | ok db₁ =>
      have hfills₁ := (persistExitIntentBeforeSubmission_touches hfirst).fills (by decide)
      cases hsecond : persistExitSubmissionResult db₁ a.positionId a.result with
      | error e =>
        simp only [transaction_ok, hsecond, transaction_error]
        exact hfills₁
      | ok db₂ =>
        have hfills₂ : db₂.fills = db.fills := ((persistExitSubmissionResult_touches hsecond).fills (by decide)).trans hfills₁
        simp only [transaction_ok, hsecond]
        cases hthird : persistExitFills db₂ a with
        | error e => exact hfills₂
        | ok db₃ =>
          refine (persistExitFills_stored ?_ hthird).trans hfills₂
          intro t ht
          unfold Database.fillByTrade
          rw [hfills₂]
          exact hstored t ht
  unfold persistExitResult
  split
  · rfl
  · split
    · rfl
    · split
      · rfl
      · split
        · exact hconfirmed
        · split <;> rfl

/-! ## One report -/

/-- The fills match the trades, and are all of the one account. -/
structure FillsKept (db : Database) (orderRecordId : String) (trades : List (String × ℚ)) : Prop
    extends FillsMatch db orderRecordId trades where
  account : ∀ f ∈ db.fillsOfOrder orderRecordId, f.accountId = "binance_testnet"

/-- The trades of matching fills are found. -/
theorem FillsKept.stored (h : FillsKept db orderRecordId trades) {t : String × ℚ} (ht : t ∈ trades) :
    (db.fillByTrade "binance_testnet" t.1).isSome = true := by
  have hmem : some t.1 ∈ (db.fillsOfOrder orderRecordId).map (·.tradeId) :=
    h.oneEach.mem_iff.mpr (List.mem_map.mpr ⟨t, ht, rfl⟩)
  obtain ⟨f, hf, htrade⟩ := List.mem_map.mp hmem
  rw [Option.isSome_iff_ne_none]
  intro hnone
  exact fillByTrade_none.mp hnone f (List.mem_filter.mp hf).1 (h.account f hf) htrade

/-- Fills that are the same match the same trades in another order. -/
theorem FillsKept.of_fills (h : FillsKept db orderRecordId known) (hfills : db'.fills = db.fills) (hperm : known.Perm trades) :
    FillsKept db' orderRecordId trades := by
  have hsame : db'.fillsOfOrder orderRecordId = db.fillsOfOrder orderRecordId := by
    unfold Database.fillsOfOrder
    rw [hfills]
  refine ⟨⟨?_, ?_, ?_⟩, ?_⟩
  · rw [hsame]
    exact h.positive
  · rw [hsame, h.total]
    exact (hperm.map Prod.snd).sum_eq
  · rw [hsame]
    exact h.oneEach.trans (hperm.map _)
  · rw [hsame]
    exact h.account

/-- A report that adds nothing leaves the fills of every order as they were. -/
theorem FillReport.apply_unchanged (hof : r.Of exchangeOrderId) (hkept : FillsKept db orderRecordId known)
    (hnone : r.added known = []) : (r.call.apply db).fills = db.fills := by
  have hstored : ∀ t ∈ r.trades.map Prod.fst, (db.fillByTrade "binance_testnet" t).isSome = true := by
    intro id hid
    obtain ⟨t, ht, rfl⟩ := List.mem_map.mp hid
    have hnot := List.filter_eq_nil_iff.mp hnone t ht
    rw [decide_eq_true_eq, not_not] at hnot
    obtain ⟨t', ht', heq⟩ := List.mem_map.mp hnot
    rw [← heq]
    exact hkept.stored ht'
  obtain ⟨call, trades⟩ := r
  cases call with
  | entry a =>
    have hreports : a.Reports exchangeOrderId trades := hof
    change (transaction db (persistEntryAndProtection db a)).2.fills = db.fills
    cases hcall : persistEntryAndProtection db a with
    | error e => rfl
    | ok db' => exact persistEntryAndProtection_stored hreports.source (hreports.tradeIds ▸ hstored) hcall
  | exit a =>
    obtain ⟨-, htradeIds, -⟩ := hof
    exact persistExitResult_stored (htradeIds ▸ hstored)

/-- The rows of the shares of the added trades make the fills match the report, if the shares are as they should be. -/
theorem FillsKept.add {receipt : FillReceipt} {rows : List FillRow} (hkept : FillsKept db orderRecordId known)
    (hknown : (known.map Prod.fst).Nodup) (hnodup : (r.trades.map Prod.fst).Nodup) (hsub : known ⊆ r.trades)
    (hsplit : r.SplitsEvenly known) (hrecord : receipt.exchangeOrderRecordId = orderRecordId)
    (haccount : receipt.accountId = "binance_testnet") (hfills : db'.fills = db.fills ++ rows)
    (hrows : FillRows receipt rows (r.addedShares known)) : FillsKept db' orderRecordId r.trades := by
  have hperm := r.trades_perm hknown hnodup hsub
  have hofOrder : db'.fillsOfOrder orderRecordId = db.fillsOfOrder orderRecordId ++ rows := by
    have hown := hrows.ofOrder
    rw [hrecord] at hown
    unfold Database.fillsOfOrder
    rw [hfills, List.filter_append, hown]
  refine ⟨⟨fun f hf => ?_, ?_, ?_⟩, fun f hf => ?_⟩
  · rw [hofOrder] at hf
    rcases List.mem_append.mp hf with hold | hadded
    · exact hkept.positive f hold
    · obtain ⟨share, hshare, fillId, rfl⟩ := hrows.row hadded
      exact hsplit.1 share hshare
  · rw [hofOrder, List.map_append, List.sum_append, hkept.total, hrows.quantities, hsplit.2, ← List.sum_append,
      ← List.map_append]
    exact (hperm.map Prod.snd).sum_eq
  · have hsplitIds : (r.trades.map fun t => some t.1).Perm
        ((known.map fun t => some t.1) ++ (r.added known).map fun t => some t.1) := by
      rw [← List.map_append]
      exact (hperm.map fun t => some t.1).symm
    have haddedIds : rows.map (·.tradeId) = (r.added known).map fun t => some t.1 := by
      rw [hrows.tradeIds, r.addedShares_fst, List.map_map]
      rfl
    rw [hofOrder, List.map_append, haddedIds]
    exact (hkept.oneEach.append_right _).trans hsplitIds.symm
  · rw [hofOrder] at hf
    rcases List.mem_append.mp hf with hold | hadded
    · exact hkept.account f hold
    · obtain ⟨share, -, fillId, rfl⟩ := hrows.row hadded
      exact haccount

/-- The new shares of an entry are those of the trades it adds. -/
theorem newShares_added {r : FillReport} {a : EntryFacts} {o : OrderRow} (hreports : a.Reports exchangeOrderId r.trades)
    (hkept : FillsKept db o.orderRecordId known) (hstorable : a.Storable db o exchangeOrderId) :
    db.newShares a.shares = r.addedShares known := by
  have hshares : a.shares = r.shares := by
    unfold EntryFacts.shares FillReport.shares
    rw [hreports.quantity, hreports.tradeIds]
  unfold Database.newShares FillReport.addedShares
  rw [← hshares]
  refine List.filter_congr fun s hs => ?_
  rw [Bool.eq_iff_iff, Option.isNone_iff_eq_none, decide_eq_true_eq]
  constructor
  · intro hnone hknown
    obtain ⟨t, ht, heq⟩ := List.mem_map.mp hknown
    have hstored := hkept.stored ht
    rw [heq, hnone] at hstored
    nomatch hstored
  · intro hunknown
    by_contra hsome
    obtain ⟨f, hf⟩ := Option.ne_none_iff_exists'.mp hsome
    obtain ⟨hmem, haccount, htrade⟩ := fillByTrade_some hf
    have hid : s.1 ∈ a.entryResult.tradeIds := a.shares_fst ▸ List.mem_map_of_mem hs
    obtain ⟨-, horder, -⟩ := hstorable.owned f hmem haccount s.1 hid htrade
    have hfill : f ∈ db.fillsOfOrder o.orderRecordId := List.mem_filter.mpr ⟨hmem, decide_eq_true horder⟩
    have htradeId : some s.1 ∈ (db.fillsOfOrder o.orderRecordId).map (·.tradeId) := htrade ▸ List.mem_map_of_mem hfill
    obtain ⟨t, ht, heq⟩ := List.mem_map.mp (hkept.oneEach.mem_iff.mp htradeId)
    exact hunknown (List.mem_map.mpr ⟨t, ht, Option.some.inj heq⟩)

/-- A report that fits keeps the fills of its order. -/
theorem FillReport.apply_keeps (hof : r.Of exchangeOrderId) (hkept : FillsKept db orderRecordId known)
    (hknown : (known.map Prod.fst).Nodup) (hnodup : (r.trades.map Prod.fst).Nodup) (hsub : known ⊆ r.trades)
    (hfits : r.Fits db orderRecordId exchangeOrderId known) : FillsKept (r.call.apply db) orderRecordId r.trades := by
  have hperm := r.trades_perm hknown hnodup hsub
  rcases hfits with hnone | ⟨hunhindered, hbalanced⟩
  · rw [hnone, List.append_nil] at hperm
    exact hkept.of_fills (r.apply_unchanged hof hkept hnone) hperm
  · have hsplit := hbalanced.splitsEvenly hperm
    cases hcall : r.call with
    | entry a =>
      unfold FillReport.Of at hof
      unfold FillReport.Unhindered at hunhindered
      rw [hcall] at hof hunhindered
      obtain ⟨o, rfl, hstorable⟩ := hunhindered
      have hnew := newShares_added hof hkept hstorable
      obtain ⟨db', rows, hstores, hfills, hrows⟩ :=
        persistEntryAndProtection_stores hof hnodup hstorable (hnew ▸ hsplit.1)
      have happly : (FillCall.entry a).apply db = db' := by
        change (transaction db (persistEntryAndProtection db a)).2 = db'
        rw [hstores]
        rfl
      rw [happly]
      exact hkept.add hknown hnodup hsub hsplit rfl rfl hfills (hnew ▸ hrows)
    | exit a =>
      unfold FillReport.Of at hof
      unfold FillReport.Unhindered at hunhindered
      rw [hcall] at hof hunhindered
      obtain ⟨-, htradeIds, hquantity⟩ := hof
      obtain ⟨rfl, o, p, rfl, ho, hg, hopen, hpending, hcovered⟩ := hunhindered
      have hshares : a.result.shares = r.addedShares [] := by
        unfold ExitExecutionResult.shares FillReport.addedShares FillReport.shares
        rw [htradeIds, hquantity]
        simp
      obtain ⟨db₁, db₂, ir, eo, hack⟩ := hg.acknowledged hopen hg.quantity
      obtain ⟨-, -, -, hsame, -⟩ := p.startedReducing_facts
      obtain ⟨db₃, hthird, hsettled⟩ := persistExitFills_settles hack.fillable
        ⟨ir.acked_state.mpr (hack.state ▸ hpending), hshares ▸ hsplit.1,
          fun hq => hsame ▸ hcovered (p.startedReducing_quarantined.mp hq)⟩
      obtain ⟨rows, hfills, hrows⟩ := hsettled.fills
      have happly : (FillCall.exit a).apply db = db₃ := by
        change (persistExitResult db a).2 = db₃
        rw [persistExitResult_grounded hg hopen hack, hthird]
        rfl
      rw [happly]
      exact hkept.add hknown hnodup hsub hsplit (hack.recorded o ho).symm rfl
        (hfills.trans (congrArg (· ++ rows) (hack.touches.fills (by decide)))) (hshares ▸ hrows)

end

/-! ## An acknowledged entry -/

/-- An acknowledged entry order of which no fill is stored. -/
def sampleEntryDatabase : Database where
  cycles := [{ cycleId := "cycle-0", fencingToken := "token-0" }]
  intents := [{ intentId := "entry", cycleId := "cycle-0", decisionId := none, symbol := "BTC/USDT", direction := .long,
                candidateKey := "trend", candidateType := .primary, executionMode := .binanceTestnet,
                initialRiskUsdt := some 5, state := .exchangeAcknowledged, version := 2 }]
  orders := [{ orderRecordId := "entry-order", intentId := "entry", clientOrderId := "entry-client",
               exchangeOrderId := some "100", quantity := 4, leverage := 3 }]
  uuids := sampleUuids

/-- A report of trades of the entry, which projects no position. -/
def sampleEntryReport (trades : List (String × ℚ)) : FillReport where
  trades := trades
  call := .entry
    { cycleId := "cycle-0", decisionId := none, intentId := "entry", symbol := "BTC/USDT", direction := .long,
      candidateKey := "trend", candidateType := .primary, executionMode := .binanceTestnet, fencingToken := "token-0",
      leverage := 3,
      entryResult :=
        { status := .filled, intentState := .filled, clientOrderId := "entry-client", exchangeOrderId := some "100",
          tradeIds := trades.map Prod.fst, filledQuantity := (trades.map Prod.snd).sum, averageFillPrice := some 100 },
      positionId := "position", protectionResult := none, stopLossPrice := none, takeProfitPrice := none,
      stopClientOrderId := none, tpClientOrderId := none, projectPosition := false }

/-- A trade of 1, and then a trade of 3: the second report gives the new trade half of 4. -/
def sampleReports : List FillReport := [sampleEntryReport [("1", 1)], sampleEntryReport [("1", 1), ("2", 3)]]

theorem sampleEntryReport_of {trades : List (String × ℚ)} (htrades : trades ≠ []) (hpositive : 0 < (trades.map Prod.snd).sum) :
    (sampleEntryReport trades).Of "100" := by
  have hsource : ("BINANCE_USER_TRADE" : String) ≠ "BINANCE_ORDER_STATUS_RECOVERY" := by decide
  refine ⟨?_, hsource, rfl, rfl, rfl⟩
  simp [EntryExecutionResult.positionProjectable, given, htrades, hpositive]

end TradingPlatform
