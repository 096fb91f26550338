import Mathlib.Algebra.Order.BigOperators.Group.List
import Mathlib.Data.List.Nodup
import Mathlib.Tactic.Abel

/-!
# Keyed weights

A budget is a sum of weights over items with distinct keys. If every item is covered by an earlier one of the same key that
weighs at least as much, the sum has not grown.
-/

namespace TradingPlatform.Budget

variable {α κ M : Type} [AddCommMonoid M] [PartialOrder M] [IsOrderedAddMonoid M]

/-- The sum over items that are covered, key by key, is at most the sum over the items that cover them. -/
theorem sum_le_of_covered (key : α → κ) {w : α → M} {items items' : List α} (hnd : (items'.map key).Nodup)
    (hw : ∀ x ∈ items, 0 ≤ w x) (hcover : ∀ x' ∈ items', ∃ x ∈ items, key x = key x' ∧ w x' ≤ w x) :
    (items'.map w).sum ≤ (items.map w).sum := by
  induction items' generalizing items with
  | nil =>
    rw [List.map_nil, List.sum_nil]
    refine List.sum_nonneg fun y hy => ?_
    obtain ⟨x, hx, rfl⟩ := List.mem_map.mp hy
    exact hw x hx
  | cons x' rest ih =>
    obtain ⟨x, hx, hkey, hle⟩ := hcover x' List.mem_cons_self
    obtain ⟨l, r, rfl⟩ := List.append_of_mem hx
    rw [List.map_cons, List.nodup_cons] at hnd
    -- the rest has other keys, so it is covered without the item taken out
    have hrest : (rest.map w).sum ≤ ((l ++ r).map w).sum := by
      refine ih hnd.2 (fun y hy => hw y ?_) fun y' hy' => ?_
      · rcases List.mem_append.mp hy with hy | hy
        · exact List.mem_append_left _ hy
        · exact List.mem_append_right _ (List.mem_cons_of_mem _ hy)
      · obtain ⟨y, hy, hykey, hyle⟩ := hcover y' (List.mem_cons_of_mem _ hy')
        refine ⟨y, ?_, hykey, hyle⟩
        have hne : y ≠ x := by
          intro heq
          rw [heq, hkey] at hykey
          exact hnd.1 (hykey ▸ List.mem_map_of_mem hy')
        rcases List.mem_append.mp hy with hy | hy
        · exact List.mem_append_left _ hy
        · rcases List.mem_cons.mp hy with hy | hy
          · exact absurd hy hne
          · exact List.mem_append_right _ hy
    calc ((x' :: rest).map w).sum = w x' + (rest.map w).sum := by rw [List.map_cons, List.sum_cons]
      _ ≤ w x + ((l ++ r).map w).sum := add_le_add hle hrest
      _ = ((l ++ x :: r).map w).sum := by
        simp only [List.map_append, List.map_cons, List.sum_append, List.sum_cons]
        exact add_left_comm _ _ _

/-- A sum is the sum over the keys of what each key weighs. -/
theorem sum_by_key {M : Type} [AddCommMonoid M] [DecidableEq κ] (key : α → κ) (w : α → M) {keys : List κ} (hnd : keys.Nodup)
    {items : List α} (hkeys : ∀ x ∈ items, key x ∈ keys) :
    (keys.map fun k => ((items.filter fun x => decide (key x = k)).map w).sum).sum = (items.map w).sum := by
  induction items with
  | nil => simp
  | cons x rest ih =>
    have hrest := ih fun y hy => hkeys y (List.mem_cons_of_mem _ hy)
    obtain ⟨l, r, rfl⟩ := List.append_of_mem (hkeys x List.mem_cons_self)
    -- the item counts under its own key only
    have hother : ∀ k ∈ l ++ r, ((x :: rest).filter fun y => decide (key y = k)) = rest.filter fun y => decide (key y = k) := by
      intro k hk
      have hne : key x ≠ k := by
        rintro rfl
        exact (List.nodup_middle.mp hnd).notMem hk
      rw [List.filter_cons_of_neg (by simpa using hne)]
    have hown : ((x :: rest).filter fun y => decide (key y = key x)) = x :: rest.filter fun y => decide (key y = key x) := by
      rw [List.filter_cons_of_pos (by simp)]
    have hcongr : ∀ {l' : List κ}, (∀ k ∈ l', k ∈ l ++ r) →
        (l'.map fun k => (((x :: rest).filter fun y => decide (key y = k)).map w).sum) =
          l'.map fun k => ((rest.filter fun y => decide (key y = k)).map w).sum := by
      intro l' hl'
      exact List.map_congr_left fun k hk => by rw [hother k (hl' k hk)]
    rw [List.map_append, List.map_cons, List.sum_append, List.sum_cons] at hrest ⊢
    rw [hcongr fun k hk => List.mem_append_left _ hk, hcongr fun k hk => List.mem_append_right _ hk, hown, List.map_cons,
      List.sum_cons, List.map_cons, List.sum_cons, ← hrest]
    abel

/-- A sum over the items that a condition selects. -/
theorem sum_filter {M : Type} [AddCommMonoid M] (w : α → M) (p : α → Bool) (items : List α) :
    ((items.filter p).map w).sum = (items.map fun x => (if p x then 1 else 0) • w x).sum := by
  induction items with
  | nil => rfl
  | cons x rest ih =>
    rw [List.map_cons, List.sum_cons, ← ih]
    by_cases hp : p x
    · rw [List.filter_cons_of_pos hp, List.map_cons, List.sum_cons, if_pos hp, one_nsmul]
    · rw [List.filter_cons_of_neg hp, if_neg hp, zero_nsmul, zero_add]

/-- The sums over the items that conditions select weigh every item as often as it is selected. -/
theorem sum_selected {M : Type} [AddCommMonoid M] (w : α → M) (ps : List (α → Bool)) (items : List α) :
    (ps.map fun p => ((items.filter p).map w).sum).sum = (items.map fun x => ps.countP (fun p => p x) • w x).sum := by
  induction ps with
  | nil => simp
  | cons p ps ih =>
    rw [List.map_cons, List.sum_cons, ih, sum_filter, ← List.sum_map_add]
    refine congrArg List.sum (List.map_congr_left fun x _ => ?_)
    rw [List.countP_cons, add_nsmul, add_comm]

end TradingPlatform.Budget
