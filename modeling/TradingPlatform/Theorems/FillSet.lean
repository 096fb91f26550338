import Mathlib.Algebra.BigOperators.Group.Finset.Basic
import Mathlib.Data.String.Basic
import TradingPlatform.Domain.Gain
import TradingPlatform.Lib.Dedup
import TradingPlatform.Engine.FillNormalizer

/-!
# Fills as a set

`deduplicate_fills` collects fills under their order and trade, and sorts them by instant and trade. The order is left out of
the sort, so two fills of different orders may be tied, and then their sequence is the one in which they were seen. What is
aggregated does not depend on it.
-/

namespace TradingPlatform

open scoped BigOperators

/-! ## The statement -/

/-- Two fills of the sequence are of one trade and differ. -/
def Conflicting (fills : List NormalizedFill) : Prop :=
  ∃ f ∈ fills, ∃ g ∈ fills, f.exchangeOrderId = g.exchangeOrderId ∧ f.tradeId = g.tradeId ∧ f ≠ g

/-- Two different fills of the sequence have one instant and one trade id. -/
def Tied (fills : List NormalizedFill) : Prop :=
  ∃ f ∈ fills, ∃ g ∈ fills, f.fillTimestamp = g.fillTimestamp ∧ f.tradeId = g.tradeId ∧ f ≠ g

/-- Every fill is counted once. -/
structure TradesCountedOnce (fills : List NormalizedFill) (total : FillAggregate) : Prop where
  quantity : total.quantity = ∑ f ∈ fills.toFinset, f.filledQuantity
  notional : ∀ vwap, total.vwap = some vwap → vwap * total.quantity = ∑ f ∈ fills.toFinset, f.filledQuantity * f.fillPrice
  fee : total.fee = ∑ f ∈ fills.toFinset, f.fee

/-- De-duplication as an operation on sets. -/
structure SetOperation (fills : List NormalizedFill) : Prop where
  raises : (∃ e, deduplicateFills fills = .error e) ↔ Conflicting fills
  distinct : ∀ out, deduplicateFills fills = .ok out → out.Nodup ∧ ∀ f, f ∈ out ↔ f ∈ fills
  determined : ∀ out fills', deduplicateFills fills = .ok out → (∀ f, f ∈ fills' ↔ f ∈ fills) →
    deduplicateFills fills' = .ok out
  counted : ∀ out, deduplicateFills fills = .ok out → TradesCountedOnce fills (aggregateFills (out.map NormalizedFill.receipt))

namespace FillSetAux

open Dedup

variable {fills fills' out : List NormalizedFill}

/-- The loop is the library's. -/
theorem observeFill_eq : observeFill = add NormalizedFill.key conflictingDuplicate := by
  funext unique fill
  unfold observeFill add
  cases unique.find? fun f => decide (f.key = fill.key) <;> rfl

theorem consistent_iff : Consistent NormalizedFill.key fills ↔ ¬Conflicting fills := by
  unfold Consistent Conflicting NormalizedFill.key
  simp only [Prod.mk.injEq, not_exists, not_and, not_not, and_imp]

theorem notAfter_trans (f g k : NormalizedFill) (h : f.notAfter g = true) (h' : g.notAfter k = true) :
    f.notAfter k = true := by
  unfold NormalizedFill.notAfter at *
  rw [decide_eq_true_eq] at *
  rcases h with h | ⟨h, ht⟩ <;> rcases h' with h' | ⟨h', ht'⟩
  · exact .inl (h.trans h')
  · exact .inl (h' ▸ h)
  · exact .inl (h ▸ h')
  · exact .inr ⟨h.trans h', ht.trans ht'⟩

theorem notAfter_total (f g : NormalizedFill) : (f.notAfter g || g.notAfter f) = true := by
  unfold NormalizedFill.notAfter
  rw [Bool.or_eq_true, decide_eq_true_eq, decide_eq_true_eq]
  rcases lt_trichotomy f.fillTimestamp g.fillTimestamp with h | h | h
  · exact .inl (.inl h)
  · rcases le_total f.tradeId g.tradeId with ht | ht
    · exact .inl (.inr ⟨h, ht⟩)
    · exact .inr (.inr ⟨h.symm, ht⟩)
  · exact .inr (.inl h)

/-- Fills stand on both sides of each other exactly if they are tied. -/
theorem tied_iff {f g : NormalizedFill} : f.notAfter g = true ∧ g.notAfter f = true ↔
    f.fillTimestamp = g.fillTimestamp ∧ f.tradeId = g.tradeId := by
  unfold NormalizedFill.notAfter
  rw [decide_eq_true_eq, decide_eq_true_eq]
  constructor
  · rintro ⟨h, h'⟩
    have hstamp : f.fillTimestamp = g.fillTimestamp := by omega
    have ht : f.tradeId ≤ g.tradeId := by
      rcases h with h | h
      · omega
      · exact h.2
    have ht' : g.tradeId ≤ f.tradeId := by
      rcases h' with h' | h'
      · omega
      · exact h'.2
    exact ⟨hstamp, le_antisymm ht ht'⟩
  · rintro ⟨hstamp, ht⟩
    exact ⟨.inr ⟨hstamp, ht.le⟩, .inr ⟨hstamp.symm, ht.ge⟩⟩

theorem deduplicateFills_eq_ok : deduplicateFills fills = .ok out ↔
    ∃ unique, fills.foldlM (add NormalizedFill.key conflictingDuplicate) [] = .ok unique ∧
      out = unique.mergeSort NormalizedFill.notAfter := by
  unfold deduplicateFills
  rw [observeFill_eq, Loops.bind_eq_ok]
  exact exists_congr fun unique => and_congr_right fun _ => ⟨fun h => (Except.ok.inj h).symm, fun h => congrArg Except.ok h.symm⟩

/-- Fills are de-duplicated exactly if no two of them conflict. -/
theorem deduplicateFills_isOk_iff : (∃ out, deduplicateFills fills = .ok out) ↔ ¬Conflicting fills := by
  have hcollect : (∃ unique, fills.foldlM (add NormalizedFill.key conflictingDuplicate) [] = .ok unique) ↔
      Consistent NormalizedFill.key fills := collect_isOk_iff
  rw [← consistent_iff, ← hcollect]
  constructor
  · rintro ⟨out, h⟩
    obtain ⟨unique, hunique, -⟩ := deduplicateFills_eq_ok.mp h
    exact ⟨unique, hunique⟩
  · rintro ⟨unique, hunique⟩
    exact ⟨_, deduplicateFills_eq_ok.mpr ⟨unique, hunique, rfl⟩⟩

theorem deduplicateFills_raises : (∃ e, deduplicateFills fills = .error e) ↔ Conflicting fills := by
  rw [← not_iff_not, ← deduplicateFills_isOk_iff]
  cases deduplicateFills fills <;> simp

/-- Every fill is returned once. -/
theorem deduplicateFills_distinct (h : deduplicateFills fills = .ok out) : out.Nodup ∧ ∀ f, f ∈ out ↔ f ∈ fills := by
  obtain ⟨unique, hunique, rfl⟩ := deduplicateFills_eq_ok.mp h
  have hnodup : unique.Nodup := List.Nodup.of_map _ (collect_nodup nodup_none hunique)
  refine ⟨(List.mergeSort_perm unique _).nodup_iff.mpr hnodup, fun f => ?_⟩
  rw [List.mem_mergeSort, mem_collect hunique]
  exact or_iff_right List.not_mem_nil

/-- What is aggregated from distinct fills counts each of them once. -/
theorem aggregateFills_counted (hnodup : out.Nodup) (hmem : ∀ f, f ∈ out ↔ f ∈ fills) :
    TradesCountedOnce fills (aggregateFills (out.map NormalizedFill.receipt)) := by
  have hset : out.toFinset = fills.toFinset := by
    ext f
    rw [List.mem_toFinset, List.mem_toFinset, hmem]
  have hsum : ∀ w : ExchangeFillReceipt → ℚ, ((out.map NormalizedFill.receipt).map w).sum =
      ∑ f ∈ fills.toFinset, w f.receipt := by
    intro w
    rw [List.map_map, ← hset, List.sum_toFinset _ hnodup]
    rfl
  refine ⟨hsum _, fun vwap hvwap => ?_, hsum _⟩
  unfold aggregateFills at hvwap ⊢
  dsimp only at hvwap ⊢
  split at hvwap
  · rename_i hpos
    rw [← Option.some.inj hvwap, div_mul_cancel₀ _ hpos.ne']
    exact hsum _
  · nomatch hvwap

/-- Fills that are not tied are returned in a sequence that depends on their set only. -/
theorem deduplicateFills_determined (h : deduplicateFills fills = .ok out) (hsame : ∀ f, f ∈ fills' ↔ f ∈ fills)
    (hties : ¬Tied fills) : deduplicateFills fills' = .ok out := by
  have hconsistent : ¬Conflicting fills' := by
    have hnot := deduplicateFills_isOk_iff.mp ⟨out, h⟩
    rintro ⟨f, hf, g, hg, hconflict⟩
    exact hnot ⟨f, (hsame f).mp hf, g, (hsame g).mp hg, hconflict⟩
  obtain ⟨out', h'⟩ := deduplicateFills_isOk_iff.mpr hconsistent
  obtain ⟨unique, hunique, rfl⟩ := deduplicateFills_eq_ok.mp h
  obtain ⟨unique', hunique', rfl⟩ := deduplicateFills_eq_ok.mp h'
  rw [h', sorted_eq notAfter_trans notAfter_total hunique hunique' hsame]
  intro f hf g hg hfg hgf
  by_contra hne
  obtain ⟨hstamp, ht⟩ := tied_iff.mp ⟨hfg, hgf⟩
  exact hties ⟨f, hf, g, hg, hstamp, ht, hne⟩

/-- Fills that are tied are returned in the order in which they were seen. -/
theorem deduplicateFills_undetermined (h : deduplicateFills fills = .ok out) (hties : Tied fills) :
    ∃ fills', (∀ f, f ∈ fills' ↔ f ∈ fills) ∧ deduplicateFills fills' ≠ .ok out := by
  obtain ⟨f, hf, g, hg, hstamp, ht, hne⟩ := hties
  have hconsistent := deduplicateFills_isOk_iff.mp ⟨out, h⟩
  have hkey : f.key ≠ g.key := by
    intro hkey
    exact hconsistent ⟨f, hf, g, hg, (Prod.mk.inj hkey).1, (Prod.mk.inj hkey).2, hne⟩
  have hsame : ∀ a b : NormalizedFill, a ∈ fills → b ∈ fills → ∀ k, k ∈ a :: b :: fills ↔ k ∈ fills := by
    intro a b ha hb k
    simp only [List.mem_cons]
    constructor
    · rintro (rfl | rfl | hk)
      · exact ha
      · exact hb
      · exact hk
    · exact fun hk => .inr (.inr hk)
  by_contra hall
  have hdetermined : ∀ fills', (∀ k, k ∈ fills' ↔ k ∈ fills) → deduplicateFills fills' = .ok out := by
    intro fills' hfills'
    by_contra hne'
    exact hall ⟨fills', hfills', hne'⟩
  obtain ⟨unique, hunique, hout⟩ := deduplicateFills_eq_ok.mp (hdetermined _ (hsame f g hf hg))
  obtain ⟨unique', hunique', hout'⟩ := deduplicateFills_eq_ok.mp (hdetermined _ (hsame g f hg hf))
  obtain ⟨hfg, hgf⟩ := tied_iff.mpr ⟨hstamp, ht⟩
  exact sorted_ne notAfter_trans notAfter_total hkey hfg hgf hunique hunique' (hout.symm.trans hout')

/-- A fetch goes through its trades only if every one of them can be normalized. -/
theorem observed_ok {trades : List (Except PyError NormalizedFill)} {unique unique' : List NormalizedFill}
    (h : trades.foldlM (fun unique trade => trade >>= observeFill unique) unique = .ok unique') :
    ∃ fills : List NormalizedFill, trades = fills.map .ok ∧ fills.foldlM observeFill unique = .ok unique' := by
  induction trades generalizing unique with
  | nil => exact ⟨[], rfl, h⟩
  | cons trade rest ih =>
    rw [List.foldlM_cons] at h
    obtain ⟨next, hnext, hrest⟩ := Loops.bind_eq_ok.mp h
    obtain ⟨fill, rfl, hfill⟩ := Loops.bind_eq_ok.mp hnext
    obtain ⟨fills, rfl, hfills⟩ := ih hrest
    refine ⟨fill :: fills, rfl, ?_⟩
    rw [List.foldlM_cons, hfill]
    exact hfills

end FillSetAux

open FillSetAux

/-- De-duplication is a set operation exactly on the sequences that raise or have no two different fills of one instant and
one trade id. -/
theorem fillSet_iff (fills : List NormalizedFill) : SetOperation fills ↔ Conflicting fills ∨ ¬Tied fills := by
  constructor
  · intro h
    by_cases hconflict : Conflicting fills
    · exact .inl hconflict
    · obtain ⟨out, hout⟩ := deduplicateFills_isOk_iff.mpr hconflict
      refine .inr fun hties => ?_
      obtain ⟨fills', hsame, hne⟩ := deduplicateFills_undetermined hout hties
      exact hne (h.determined out fills' hout hsame)
  · intro h
    refine ⟨deduplicateFills_raises, fun out => deduplicateFills_distinct, fun out fills' hout hsame => ?_, fun out hout => ?_⟩
    · have hnot := deduplicateFills_isOk_iff.mp ⟨out, hout⟩
      exact deduplicateFills_determined hout hsame (h.resolve_left hnot)
    · obtain ⟨hnodup, hmem⟩ := deduplicateFills_distinct hout
      exact aggregateFills_counted hnodup hmem

/-- The receipts of a fetch that succeeds are those of its trades, each of them counted once however often it was listed. -/
theorem fillReceipts_counted {trades : List (Except PyError NormalizedFill)} {receipts : List ExchangeFillReceipt}
    (h : fillReceipts trades = .ok receipts) :
    ∃ fills : List NormalizedFill, trades = fills.map .ok ∧ TradesCountedOnce fills (aggregateFills receipts) := by
  unfold fillReceipts at h
  dsimp only at h
  split at h
  · nomatch h
  · rename_i unique hunique
    obtain ⟨fills, rfl, hfills⟩ := observed_ok hunique
    refine ⟨fills, rfl, ?_⟩
    rw [← Except.ok.inj h]
    have hout : deduplicateFills fills = .ok (unique.mergeSort NormalizedFill.notAfter) := by
      unfold deduplicateFills
      rw [hfills]
      rfl
    obtain ⟨hnodup, hmem⟩ := deduplicateFills_distinct hout
    exact aggregateFills_counted hnodup hmem

/-- A fill of one coin at 100, of the given order. -/
def fillOf (exchangeOrderId : String) (h : exchangeOrderId ≠ "") : NormalizedFill where
  exchangeOrderId := exchangeOrderId
  tradeId := "7"
  filledQuantity := 1
  fillPrice := 100
  fee := 0
  fillTimestamp := 1000
  ids_nonempty := ⟨h, by decide⟩
  filledQuantity_pos := SampleLevels.one_pos
  fillPrice_pos := SampleLevels.hundred_pos
  fee_nonneg := SampleLevels.zero_nonneg

/-- Two orders have a trade of one id at one instant: their sequence is the order of arrival. -/
theorem fillSet_false : ¬SetOperation [fillOf "1" (by decide), fillOf "2" (by decide)] := by
  intro h
  have hconsistent : ¬Conflicting [fillOf "1" (by decide), fillOf "2" (by decide)] := by
    unfold Conflicting
    decide +kernel
  have hties : Tied [fillOf "1" (by decide), fillOf "2" (by decide)] := by
    unfold Tied
    decide +kernel
  obtain ⟨out, hout⟩ := deduplicateFills_isOk_iff.mpr hconsistent
  obtain ⟨fills', hsame, hne⟩ := deduplicateFills_undetermined hout hties
  exact hne (h.determined out fills' hout hsame)

end TradingPlatform
