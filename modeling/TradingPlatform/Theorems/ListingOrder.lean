import Mathlib.Algebra.BigOperators.Group.Multiset.Basic
import TradingPlatform.Lib.Lists
import TradingPlatform.Theorems.Reconciliation

/-!
# Reconciliation and the order of its listings

The loops of `reconcile` only add to what they collect, so the order of what they read is forgotten with the order of what they
find. One thing reads an order: an exchange position whose references fit two local positions is claimed by the first of them.
-/

namespace TradingPlatform

open ReconcileAux Collect

variable {snapshot : AuthoritativeAccountSnapshot} {f : Findings}

/-! ## The statement -/

/-- Two listings of one account and one local state. -/
structure Relisted (snapshot snapshot' : AuthoritativeAccountSnapshot) (l l' : LocalStateView) : Prop where
  exchangePositions : snapshot.positions.Perm snapshot'.positions
  pendingOrders : snapshot.pendingOrders.Perm snapshot'.pendingOrders
  positions : l.positions.Perm l'.positions
  intents : l.intents.Perm l'.intents
  baseline : l.externalBaselinePositions.entries.Perm l'.externalBaselinePositions.entries
  known : l.knownClientOrderIds = l'.knownClientOrderIds
  gaps : l.historicalLedgerGapIntentIds = l'.historicalLedgerGapIntentIds

/-- Two results that differ in nothing but order. -/
structure SameReport (r r' : ReconciliationResult) : Prop where
  status : r.status = r'.status
  entryBlocked : ∀ symbol, symbol ∈ r.entryBlockedSymbols ↔ symbol ∈ r'.entryBlockedSymbols
  discrepancies : r.discrepancies.Perm r'.discrepancies
  quarantineCandidates : r.quarantineCandidates.Perm r'.quarantineCandidates
  recoveryRefs : r.recoveryRequiredRefs.Perm r'.recoveryRequiredRefs

/-- Two runs that return results of that kind, or raise the same error. -/
def SameOutcome (x x' : Except PyError ReconciliationResult) : Prop :=
  match x, x' with
  | .ok r, .ok r' => SameReport r r'
  | .error e, .error e' => e = e'
  | _, _ => False

/-- The references of no exchange position fit two local positions. -/
def ClaimsOne (l : LocalStateView) (refs : ClaimRefs) : Prop :=
  ∀ key, ∀ p ∈ l.positions, ∀ q ∈ l.positions, (∃ k ∈ p.claimKeys, k ∈ (refs.lookup key).getD []) →
    (∃ k ∈ q.claimKeys, k ∈ (refs.lookup key).getD []) → p = q

/-- The symbols that a result blocks are those its discrepancies name. -/
def BlocksNamed (r : ReconciliationResult) : Prop :=
  ∀ symbol, symbol ∈ r.entryBlockedSymbols ↔ ∃ d ∈ r.discrepancies, d.symbol = some symbol

namespace ListingAux

/-! ## Findings as a monoid -/

/-- The findings of one loop after those of another. -/
def append (f g : Findings) : Findings where
  discrepancies := f.discrepancies ++ g.discrepancies
  entryBlocked := f.entryBlocked ++ g.entryBlocked
  quarantineCandidates := f.quarantineCandidates ++ g.quarantineCandidates
  recoveryRefs := f.recoveryRefs ++ g.recoveryRefs
  matchedPositionIds := f.matchedPositionIds ++ g.matchedPositionIds

instance : Zero Findings := ⟨{}⟩

instance : Add Findings := ⟨append⟩

theorem append_zero (f : Findings) : f + 0 = f := by
  change append f {} = f
  unfold append
  simp only [List.append_nil]

theorem append_assoc (f g h : Findings) : f + g + h = f + (g + h) := by
  change append (append f g) h = append f (append g h)
  unfold append
  simp only [List.append_assoc]

instance : AddMonoid Findings where
  add_assoc := append_assoc
  zero_add _ := rfl
  add_zero := append_zero
  nsmul := nsmulRec

/-- What was found, without its order. -/
abbrev Bag := Multiset Discrepancy × Multiset String × Multiset String × Multiset String × Multiset String

/-- The findings without their order. -/
def bag : Findings →+ Bag where
  toFun f := (f.discrepancies, f.entryBlocked, f.quarantineCandidates, f.recoveryRefs, f.matchedPositionIds)
  map_zero' := rfl
  map_add' _ _ := rfl

/-- Findings of one bag are permutations of each other. -/
theorem perm_of_bag {f f' : Findings} (h : bag f = bag f') :
    f.discrepancies.Perm f'.discrepancies ∧ f.entryBlocked.Perm f'.entryBlocked ∧
      f.quarantineCandidates.Perm f'.quarantineCandidates ∧ f.recoveryRefs.Perm f'.recoveryRefs ∧
      f.matchedPositionIds.Perm f'.matchedPositionIds := by
  obtain ⟨hdiscrepancies, hrest⟩ := Prod.mk.inj h
  obtain ⟨hblocked, hrest⟩ := Prod.mk.inj hrest
  obtain ⟨hquarantine, hrest⟩ := Prod.mk.inj hrest
  obtain ⟨hrefs, hmatched⟩ := Prod.mk.inj hrest
  exact ⟨Multiset.coe_eq_coe.mp hdiscrepancies, Multiset.coe_eq_coe.mp hblocked, Multiset.coe_eq_coe.mp hquarantine,
    Multiset.coe_eq_coe.mp hrefs, Multiset.coe_eq_coe.mp hmatched⟩

/-! ## The steps add -/

theorem adds_report (d : Discrepancy) (refs : List String) : Adds fun f : Findings => f.report d refs := by
  refine adds_of_eq (({} : Findings).report d refs) fun f => ?_
  change f.report d refs = append f (({} : Findings).report d refs)
  unfold Findings.report append
  simp only [List.append_nil, List.nil_append]

theorem adds_reportIf (c : Bool) (d : Discrepancy) (refs : List String) : Adds fun f : Findings => f.reportIf c d refs :=
  (adds_report d refs).ite adds_id

theorem adds_intent (i : LocalIntentView) : Adds fun f => reconcileIntent f i :=
  (adds_reportIf _ _ _).comp (adds_reportIf _ _ _)

theorem adds_claimed (snapshot : AuthoritativeAccountSnapshot) (l : LocalStateView) (e : ExchangePositionSnapshot)
    (p : LocalPositionView) : Adds fun f => reconcileClaimed snapshot l f e p := by
  have hmatched : Adds fun f : Findings => { f with matchedPositionIds := f.matchedPositionIds ++ [p.positionId] } := by
    refine adds_of_eq { matchedPositionIds := [p.positionId] } fun f => ?_
    change _ = append f _
    unfold append
    simp only [List.append_nil]
  exact (((hmatched.comp (adds_reportIf _ _ _)).comp (adds_reportIf _ _ _)).comp (adds_reportIf _ _ _)).comp
    (adds_reportIf _ _ _)

theorem adds_exchangePosition (snapshot : AuthoritativeAccountSnapshot) (l : LocalStateView) (refs : ClaimRefs)
    (e : ExchangePositionSnapshot) : Adds fun f => reconcileExchangePosition snapshot l refs f e := by
  unfold reconcileExchangePosition
  dsimp only
  cases claimedBy l refs e with
  | some p => exact (adds_reportIf _ _ _).comp (adds_claimed snapshot l e p)
  | none =>
    have hquarantine : Adds fun f : Findings =>
        { f.report { code := .externalPositionUnclaimable, symbol := some e.symbol, exchangeRef := some e.key } with
          quarantineCandidates := f.quarantineCandidates ++ [e.key] } := by
      refine adds_of_eq
        { discrepancies := [{ code := .externalPositionUnclaimable, symbol := some e.symbol, exchangeRef := some e.key }]
          entryBlocked := [e.symbol]
          quarantineCandidates := [e.key] } fun f => ?_
      change _ = append f _
      unfold append Findings.report
      simp only [List.append_nil]
      rfl
    exact (adds_reportIf _ _ _).comp (adds_id.ite (adds_id.ite hquarantine))

theorem adds_order (l : LocalStateView) (o : ExchangeOrderSnapshot) : Adds fun f => reconcileOrder l f o := by
  unfold reconcileOrder
  cases o.clientOrderId with
  | none => exact adds_report _ _
  | some clientId => exact adds_id.ite (adds_reportIf _ _ _)

/-! ## The two loops that read more -/

/-- The loop over the local positions, given the ids that are matched. -/
def missingStep (matched : List String) (f : Findings) (p : LocalPositionView) : Findings :=
  f.reportIf (decide (p.state ≠ .closed ∧ p.state ≠ .quarantined ∧ p.positionId ∉ matched))
    { code := .localPositionMissingAtExchange, symbol := some p.symbol, localPositionId := some p.positionId }
    [p.positionId]

/-- The loop over the local positions reads the ids that were matched before it. -/
theorem foldl_localPosition (positions : List LocalPositionView) (f : Findings) :
    positions.foldl reconcileLocalPosition f = positions.foldl (missingStep f.matchedPositionIds) f := by
  suffices h : ∀ (matched : List String) (f : Findings), f.matchedPositionIds = matched →
      positions.foldl reconcileLocalPosition f = positions.foldl (missingStep matched) f from h _ f rfl
  intro matched f hmatched
  induction positions generalizing f with
  | nil => rfl
  | cons p rest ih =>
    have hstep : reconcileLocalPosition f p = missingStep matched f p := by
      unfold reconcileLocalPosition missingStep
      rw [hmatched]
    rw [List.foldl_cons, List.foldl_cons, hstep]
    refine ih _ ?_
    unfold missingStep
    rw [reportIf_matched, hmatched]

/-- The step of a baseline entry whose key splits. -/
def driftStep (snapshot : AuthoritativeAccountSnapshot) (f : Findings) (entry : Sigma fun _ : String => ℚ) : Findings :=
  if entry.1 ∈ snapshot.positions.map (·.key) then f
  else f.report { code := .manualBaselineDrift, symbol := (splitPositionKey entry.1).toOption.map (·.1),
                  exchangeRef := some entry.1 }

/-- A baseline entry that is in the snapshot, or whose key splits. -/
def Splits (snapshot : AuthoritativeAccountSnapshot) (entry : Sigma fun _ : String => ℚ) : Prop :=
  entry.1 ∈ snapshot.positions.map (·.key) ∨ ∃ parts, splitPositionKey entry.1 = .ok parts

/-- The error of a key that does not split. -/
def unsplit : PyError := .valueError "not enough values to unpack (expected 2, got 1)"

theorem splitPositionKey_cases (key : String) : splitPositionKey key = .error unsplit ∨ ∃ parts, splitPositionKey key = .ok parts := by
  unfold splitPositionKey
  dsimp only
  split
  · exact .inl rfl
  · exact .inr ⟨_, rfl⟩

theorem reconcileBaseline_of_splits {entry : Sigma fun _ : String => ℚ}
    (h : Splits snapshot entry) (f : Findings) : reconcileBaseline snapshot f entry = .ok (driftStep snapshot f entry) := by
  unfold reconcileBaseline driftStep
  by_cases hkey : entry.1 ∈ snapshot.positions.map (·.key)
  · rw [if_pos hkey, if_pos hkey]
  · obtain ⟨parts, hparts⟩ := h.resolve_left hkey
    rw [if_neg hkey, if_neg hkey, hparts]
    rfl

theorem reconcileBaseline_of_not_splits {entry : Sigma fun _ : String => ℚ}
    (h : ¬Splits snapshot entry) (f : Findings) : reconcileBaseline snapshot f entry = .error unsplit := by
  obtain ⟨hkey, hparts⟩ := not_or.mp h
  unfold reconcileBaseline
  rw [if_neg hkey, (splitPositionKey_cases entry.1).resolve_right hparts]
  rfl

/-- The loop over the baseline adds if every key splits, and raises the one error if one does not. -/
theorem foldlM_baseline (snapshot : AuthoritativeAccountSnapshot) (entries : List (Sigma fun _ : String => ℚ)) (f : Findings) :
    ((∀ entry ∈ entries, Splits snapshot entry) →
        entries.foldlM (reconcileBaseline snapshot) f = .ok (entries.foldl (driftStep snapshot) f)) ∧
      ((∃ entry ∈ entries, ¬Splits snapshot entry) → entries.foldlM (reconcileBaseline snapshot) f = .error unsplit) := by
  induction entries generalizing f with
  | nil => exact ⟨fun _ => rfl, fun ⟨_, hmem, _⟩ => absurd hmem List.not_mem_nil⟩
  | cons entry rest ih =>
    rw [List.foldlM_cons]
    by_cases hsplits : Splits snapshot entry
    · rw [reconcileBaseline_of_splits hsplits]
      refine ⟨fun hall => (ih _).1 fun e he => hall e (List.mem_cons_of_mem _ he), ?_⟩
      rintro ⟨e, he, hnot⟩
      rcases List.mem_cons.mp he with rfl | he
      · exact absurd hsplits hnot
      · exact (ih _).2 ⟨e, he, hnot⟩
    · rw [reconcileBaseline_of_not_splits hsplits]
      exact ⟨fun hall => absurd (hall entry List.mem_cons_self) hsplits, fun _ => rfl⟩

theorem adds_missing (matched : List String) (p : LocalPositionView) : Adds fun f => missingStep matched f p :=
  adds_reportIf _ _ _

theorem adds_drift (snapshot : AuthoritativeAccountSnapshot) (entry : Sigma fun _ : String => ℚ) :
    Adds fun f => driftStep snapshot f entry := by
  unfold driftStep
  exact adds_id.ite (adds_report _ _)

/-! ## What the steps read -/

section Relisted

variable {snapshot snapshot' : AuthoritativeAccountSnapshot} {l l' : LocalStateView} {refs : ClaimRefs}

/-- The first item that fits does not depend on the order if only one fits. -/
theorem find?_perm {α : Type} {P : α → Bool} {list list' : List α} (hperm : list.Perm list')
    (hone : ∀ p ∈ list, ∀ q ∈ list, P p = true → P q = true → p = q) : list.find? P = list'.find? P := by
  cases hfound : list'.find? P with
  | none =>
    rw [List.find?_eq_none] at hfound ⊢
    exact fun p hp => hfound p (hperm.subset hp)
  | some q =>
    have hq := hperm.symm.subset (List.mem_of_find?_eq_some hfound)
    cases hother : list.find? P with
    | none => exact absurd (List.find?_some hfound) (List.find?_eq_none.mp hother q hq)
    | some p =>
      exact congrArg some (hone p (List.mem_of_find?_eq_some hother) q hq (List.find?_some hother) (List.find?_some hfound))

theorem claimedBy_relisted (h : Relisted snapshot snapshot' l l') (hone : ClaimsOne l refs) (e : ExchangePositionSnapshot) :
    claimedBy l refs e = claimedBy l' refs e := by
  unfold claimedBy claimExchangePosition
  have hfits : ∀ p : LocalPositionView, (p.claimKeys.any fun k => decide (k ∈ (refs.lookup e.key).getD [])) = true →
      ∃ k ∈ p.claimKeys, k ∈ (refs.lookup e.key).getD [] := by
    intro p hp
    obtain ⟨k, hk, href⟩ := List.any_eq_true.mp hp
    exact ⟨k, hk, of_decide_eq_true href⟩
  rw [find?_perm h.positions fun p hp q hq hp' hq' => hone e.key p hp q hq (hfits p hp') (hfits q hq')]

theorem baselineOf_relisted (h : Relisted snapshot snapshot' l l') (e : ExchangePositionSnapshot) :
    l.baselineOf e = l'.baselineOf e :=
  AList.perm_lookup h.baseline

theorem missingProtection_relisted (h : Relisted snapshot snapshot' l l') (p : LocalPositionView) :
    missingProtection snapshot p = missingProtection snapshot' p := by
  unfold missingProtection
  exact List.filter_congr fun id _ => decide_eq_decide.mpr (not_congr (h.pendingOrders.map _).mem_iff)

theorem reconcileClaimed_relisted (h : Relisted snapshot snapshot' l l') (f : Findings) (e : ExchangePositionSnapshot)
    (p : LocalPositionView) : reconcileClaimed snapshot l f e p = reconcileClaimed snapshot' l' f e p := by
  unfold reconcileClaimed
  rw [baselineOf_relisted h, missingProtection_relisted h]

theorem reconcileExchangePosition_relisted (h : Relisted snapshot snapshot' l l') (hone : ClaimsOne l refs) :
    reconcileExchangePosition snapshot l refs = reconcileExchangePosition snapshot' l' refs := by
  funext f e
  unfold reconcileExchangePosition
  rw [baselineOf_relisted h, claimedBy_relisted h hone]
  cases claimedBy l' refs e with
  | none => rfl
  | some p => exact reconcileClaimed_relisted h _ e p

theorem mem_keys_relisted (h : Relisted snapshot snapshot' l l') (key : String) :
    key ∈ snapshot.positions.map (·.key) ↔ key ∈ snapshot'.positions.map (·.key) :=
  (h.exchangePositions.map _).mem_iff

theorem driftStep_relisted (h : Relisted snapshot snapshot' l l') : driftStep snapshot = driftStep snapshot' := by
  funext f entry
  unfold driftStep
  rw [if_congr (mem_keys_relisted h entry.1) rfl rfl]

theorem splits_relisted (h : Relisted snapshot snapshot' l l') (entry : Sigma fun _ : String => ℚ) :
    Splits snapshot entry ↔ Splits snapshot' entry :=
  or_congr (mem_keys_relisted h entry.1) Iff.rfl

theorem reconcileOrder_relisted (h : Relisted snapshot snapshot' l l') : reconcileOrder l = reconcileOrder l' := by
  funext f o
  unfold reconcileOrder
  rw [h.known]

/-- The findings of two listings have one bag, or both runs raise the error of a key that does not split. -/
theorem reconcileFindings_relisted (h : Relisted snapshot snapshot' l l') (hone : ClaimsOne l refs) :
    (∃ f f', reconcileFindings snapshot l refs = .ok f ∧ reconcileFindings snapshot' l' refs = .ok f' ∧ bag f = bag f') ∨
      (reconcileFindings snapshot l refs = .error unsplit ∧ reconcileFindings snapshot' l' refs = .error unsplit) := by
  have hintents : bag (l.intents.foldl reconcileIntent {}) = bag (l'.intents.foldl reconcileIntent {}) :=
    map_foldl_perm bag adds_intent h.intents rfl
  have hexchange := map_foldl_perm bag (adds_exchangePosition snapshot' l' refs) h.exchangePositions hintents
  unfold reconcileFindings
  dsimp only
  rw [reconcileExchangePosition_relisted h hone]
  generalize snapshot.positions.foldl (reconcileExchangePosition snapshot' l' refs) (l.intents.foldl reconcileIntent {}) = f
    at hexchange ⊢
  generalize snapshot'.positions.foldl (reconcileExchangePosition snapshot' l' refs) (l'.intents.foldl reconcileIntent {}) = f'
    at hexchange ⊢
  -- both runs have matched the same ids
  have hstep : missingStep f.matchedPositionIds = missingStep f'.matchedPositionIds := by
    funext g p
    obtain ⟨-, -, -, -, hmatched⟩ := perm_of_bag hexchange
    unfold missingStep
    simp only [hmatched.mem_iff]
  have hlocal := map_foldl_perm bag (adds_missing f'.matchedPositionIds) h.positions hexchange
  rw [foldl_localPosition, foldl_localPosition, hstep]
  generalize l.positions.foldl (missingStep f'.matchedPositionIds) f = g at hlocal ⊢
  generalize l'.positions.foldl (missingStep f'.matchedPositionIds) f' = g' at hlocal ⊢
  by_cases hall : ∀ entry ∈ l.externalBaselinePositions.entries, Splits snapshot entry
  · have hall' : ∀ entry ∈ l'.externalBaselinePositions.entries, Splits snapshot' entry := fun entry hentry =>
      (splits_relisted h entry).mp (hall entry (h.baseline.symm.subset hentry))
    rw [(foldlM_baseline snapshot _ g).1 hall, (foldlM_baseline snapshot' _ g').1 hall', driftStep_relisted h,
      reconcileOrder_relisted h]
    refine .inl ⟨_, _, rfl, rfl, ?_⟩
    exact map_foldl_perm bag (adds_order l') h.pendingOrders
      (map_foldl_perm bag (adds_drift snapshot') h.baseline hlocal)
  · simp only [not_forall] at hall
    obtain ⟨entry, hentry, hunsplit⟩ := hall
    rw [(foldlM_baseline snapshot _ g).2 ⟨entry, hentry, hunsplit⟩, (foldlM_baseline snapshot' _ g').2
      ⟨entry, h.baseline.subset hentry, fun hsplits => hunsplit ((splits_relisted h entry).mpr hsplits)⟩]
    exact .inr ⟨rfl, rfl⟩

end Relisted

/-! ## The blocked symbols -/

/-- The blocked symbols are those the discrepancies name. -/
def Named (f : Findings) : Prop := ∀ symbol, symbol ∈ f.entryBlocked ↔ ∃ d ∈ f.discrepancies, d.symbol = some symbol

theorem named_report (h : Named f) (d : Discrepancy) (refs : List String) : Named (f.report d refs) := by
  intro symbol
  change symbol ∈ f.entryBlocked ++ d.symbol.toList ↔ ∃ d' ∈ f.discrepancies ++ [d], d'.symbol = some symbol
  rw [List.mem_append, h symbol, Option.mem_toList]
  constructor
  · rintro (⟨d', hd', hsymbol⟩ | hsymbol)
    · exact ⟨d', List.mem_append_left _ hd', hsymbol⟩
    · exact ⟨d, List.mem_append_right _ (List.mem_singleton_self d), hsymbol⟩
  · rintro ⟨d', hd', hsymbol⟩
    rcases List.mem_append.mp hd' with hd' | hd'
    · exact .inl ⟨d', hd', hsymbol⟩
    · rw [List.mem_singleton.mp hd'] at hsymbol
      exact .inr hsymbol

theorem named_reportIf {f : Findings} (h : Named f) (c : Bool) (d : Discrepancy) (refs : List String) :
    Named (f.reportIf c d refs) := by
  cases c with
  | true => exact named_report h d refs
  | false => exact h

theorem named_claimed (h : Named f) (snapshot : AuthoritativeAccountSnapshot) (l : LocalStateView)
    (e : ExchangePositionSnapshot) (p : LocalPositionView) : Named (reconcileClaimed snapshot l f e p) := by
  have hmatched : Named { f with matchedPositionIds := f.matchedPositionIds ++ [p.positionId] } := h
  exact named_reportIf (named_reportIf (named_reportIf (named_reportIf hmatched _ _ _) _ _ _) _ _ _) _ _ _

theorem named_exchangePosition (h : Named f) (snapshot : AuthoritativeAccountSnapshot) (l : LocalStateView)
    (refs : ClaimRefs) (e : ExchangePositionSnapshot) : Named (reconcileExchangePosition snapshot l refs f e) := by
  have hdrift := named_reportIf h (driftsBelow (l.baselineOf e) e.quantity)
    { code := .manualBaselineDrift, symbol := some e.symbol, exchangeRef := some e.key } []
  unfold reconcileExchangePosition
  dsimp only
  cases claimedBy l refs e with
  | some p => exact named_claimed hdrift snapshot l e p
  | none =>
    dsimp only
    split
    · exact hdrift
    · split
      · exact hdrift
      · exact named_report hdrift { code := .externalPositionUnclaimable, symbol := some e.symbol, exchangeRef := some e.key } []

theorem named_baseline {f f' : Findings} {entry : Sigma fun _ : String => ℚ}
    (h : Named f) (hok : reconcileBaseline snapshot f entry = .ok f') : Named f' := by
  unfold reconcileBaseline at hok
  split at hok
  · rw [← Except.ok.inj hok]
    exact h
  · obtain ⟨⟨symbol, direction⟩, -, hok⟩ := Loops.bind_eq_ok.mp hok
    rw [← Except.ok.inj hok]
    exact named_report h _ _

theorem named_order {f : Findings} (h : Named f) (l : LocalStateView) (o : ExchangeOrderSnapshot) :
    Named (reconcileOrder l f o) := by
  unfold reconcileOrder
  split
  · exact named_report h _ _
  · split
    · exact h
    · exact named_reportIf h _ _ _

theorem reconcileFindings_named {l : LocalStateView} {refs : ClaimRefs}
    (h : reconcileFindings snapshot l refs = .ok f) : Named f := by
  unfold reconcileFindings at h
  obtain ⟨g, hbaseline, hok⟩ := Loops.bind_eq_ok.mp h
  rw [← Except.ok.inj hok]
  have hintents : Named (l.intents.foldl reconcileIntent {}) := by
    refine Loops.foldl_keeps (P := Named) (fun f i hf => named_reportIf (named_reportIf hf _ _ _) _ _ _) _ _ fun symbol => ?_
    exact iff_of_false List.not_mem_nil fun ⟨d, hd, _⟩ => absurd hd List.not_mem_nil
  have hexchange := Loops.foldl_keeps (P := Named) (fun f e hf => named_exchangePosition hf snapshot l refs e) snapshot.positions _ hintents
  have hlocal := Loops.foldl_keeps (P := Named) (f := reconcileLocalPosition) (fun f p hf => named_reportIf hf _ _ _) l.positions _ hexchange
  have hdrift := Loops.foldlM_keeps (P := Named) (fun f entry f' hf hok => named_baseline hf hok) _ hlocal hbaseline
  exact Loops.foldl_keeps (P := Named) (fun f o hf => named_order hf l o) snapshot.pendingOrders _ hdrift

/-! ## The result -/

theorem nodup_eraseDups (l : List String) : l.eraseDups.Nodup := by
  induction h : l.length using Nat.strong_induction_on generalizing l with
  | _ n ih =>
    cases l with
    | nil => exact List.nodup_nil
    | cons a rest =>
      rw [List.eraseDups_cons, List.nodup_cons]
      refine ⟨fun hmem => ?_, ih _ ?_ _ rfl⟩
      · have hne := (List.mem_filter.mp (List.mem_eraseDups.mp hmem)).2
        simp at hne
      · rw [← h]
        exact Nat.lt_succ_of_le (List.length_filter_le _ _)

theorem eraseDups_perm {l l' : List String} (h : l.Perm l') : l.eraseDups.Perm l'.eraseDups :=
  (List.perm_ext_iff_of_nodup (nodup_eraseDups l) (nodup_eraseDups l')).mpr fun a => by
    rw [List.mem_eraseDups, List.mem_eraseDups, h.mem_iff]

theorem resolveStatus_perm {ds ds' : List Discrepancy} (h : ds.Perm ds') : resolveStatus ds = resolveStatus ds' := by
  unfold resolveStatus
  rw [h.any_eq]
  by_cases hnil : ds = []
  · subst hnil
    obtain rfl : ds' = [] := h.nil_eq.symm
    rfl
  · have hnil' : ds' ≠ [] := fun heq => hnil (List.perm_nil.mp (heq ▸ h))
    rw [if_neg hnil, if_neg hnil']

end ListingAux

open ListingAux

/-- If no references fit two local positions, the order of the listings changes nothing but order; and the symbols that are
blocked are always those the discrepancies name. -/
theorem reconcile_relisted (snapshot snapshot' : AuthoritativeAccountSnapshot) (l l' : LocalStateView) (reason : Option String)
    (refs : Option ClaimRefs) (h : Relisted snapshot snapshot' l l') (hone : ClaimsOne l (refs.getD ∅)) :
    SameOutcome (reconcile (some snapshot) l reason refs) (reconcile (some snapshot') l' reason refs) ∧
      ∀ r, reconcile (some snapshot) l reason refs = .ok r → BlocksNamed r := by
  constructor
  · unfold reconcile
    dsimp only
    rcases reconcileFindings_relisted h hone with ⟨f, f', hf, hf', hbag⟩ | ⟨hraise, hraise'⟩
    · rw [hf, hf']
      obtain ⟨hdiscrepancies, hblocked, hquarantine, hrefs, -⟩ := perm_of_bag hbag
      exact ⟨resolveStatus_perm hdiscrepancies, fun symbol => hblocked.mem_iff, hdiscrepancies, hquarantine,
        eraseDups_perm hrefs⟩
    · rw [hraise, hraise']
      rfl
  · intro r hr
    obtain ⟨f, hf, hok⟩ := Loops.bind_eq_ok.mp hr
    rw [← Except.ok.inj hok]
    exact reconcileFindings_named hf

/-! ## References that fit two positions -/

namespace ListingAux

/-- Two managed positions of one coin. -/
def firstCoin : LocalPositionView := managedCoin "p1" "BTC/USDT" ["a"]

def secondCoin : LocalPositionView := managedCoin "p2" "BTC/USDT" ["b"]

theorem coins_relisted : Relisted oneCoinSnapshot oneCoinSnapshot (managedCoins [firstCoin, secondCoin])
    (managedCoins [secondCoin, firstCoin]) :=
  ⟨List.Perm.refl _, List.Perm.refl _, List.Perm.swap _ _ _, List.Perm.refl _, List.Perm.refl _, rfl, rfl⟩

/-- What is found of the two positions, when the coin is claimed by the other one. -/
def unclaimed (positionId : String) : ReconciliationResult where
  status := .recoveryRequired
  discrepancies := [{ code := .localPositionMissingAtExchange, symbol := some "BTC/USDT", localPositionId := some positionId }]
  entryBlockedSymbols := ["BTC/USDT"]
  recoveryRequiredRefs := [positionId]

end ListingAux

/-- The coin is claimed by whichever position is listed first, and the other one is missing. -/
theorem reconcile_relisted_false :
    ¬∀ (snapshot snapshot' : AuthoritativeAccountSnapshot) (l l' : LocalStateView) (reason : Option String)
      (refs : Option ClaimRefs), UniquePositions snapshot → DisjointClaims l → Relisted snapshot snapshot' l l' →
        SameOutcome (reconcile (some snapshot) l reason refs) (reconcile (some snapshot') l' reason refs) := by
  intro h
  have hsame := h oneCoinSnapshot oneCoinSnapshot (managedCoins [firstCoin, secondCoin]) (managedCoins [secondCoin, firstCoin])
    none (some (AList.insert "BTC/USDT:long" ["a", "b"] ∅)) (List.pairwise_singleton _ _)
    (by simp [DisjointClaims, managedCoins, firstCoin, secondCoin, managedCoin]) coins_relisted
  have hfirst : reconcile (some oneCoinSnapshot) (managedCoins [firstCoin, secondCoin]) none
      (some (AList.insert "BTC/USDT:long" ["a", "b"] ∅)) = .ok (unclaimed "p2") := by decide +kernel
  have hsecond : reconcile (some oneCoinSnapshot) (managedCoins [secondCoin, firstCoin]) none
      (some (AList.insert "BTC/USDT:long" ["a", "b"] ∅)) = .ok (unclaimed "p1") := by decide +kernel
  rw [hfirst, hsecond] at hsame
  have hrefs : ["p2"].Perm ["p1"] := SameReport.recoveryRefs hsame
  exact absurd (List.perm_singleton.mp hrefs) (by decide)

/-- With references of the first position alone, either order finds the second one missing. -/
theorem reconcile_relisted_coins :
    SameOutcome (reconcile (some oneCoinSnapshot) (managedCoins [firstCoin, secondCoin]) none (some (oneCoinRefs "a")))
        (reconcile (some oneCoinSnapshot) (managedCoins [secondCoin, firstCoin]) none (some (oneCoinRefs "a"))) ∧
      ∀ r, reconcile (some oneCoinSnapshot) (managedCoins [firstCoin, secondCoin]) none (some (oneCoinRefs "a")) = .ok r →
        BlocksNamed r := by
  refine reconcile_relisted _ _ _ _ none (some (oneCoinRefs "a")) coins_relisted fun key p hp q hq hkey hkey' => ?_
  -- the references hold no identity of the second position
  have hfirst : ∀ p ∈ [firstCoin, secondCoin], (∃ k ∈ p.claimKeys, k ∈ ((oneCoinRefs "a").lookup key).getD []) → p = firstCoin := by
    rintro p hp ⟨k, hk, href⟩
    have hk' : k = "a" := by
      unfold oneCoinRefs at href
      by_cases heq : key = "BTC/USDT:long"
      · rw [heq, AList.lookup_insert] at href
        exact List.mem_singleton.mp href
      · rw [AList.lookup_insert_ne heq, AList.lookup_empty] at href
        exact absurd href List.not_mem_nil
    rcases List.mem_cons.mp hp with rfl | hp
    · rfl
    · rw [List.mem_singleton.mp hp, hk'] at hk
      exact absurd (List.mem_singleton.mp hk) (by decide)
  rw [hfirst p hp hkey, hfirst q hq hkey']

end TradingPlatform
