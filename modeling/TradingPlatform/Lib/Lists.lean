import Mathlib.Algebra.GroupWithZero.Nat
import Mathlib.Data.List.DropRight
import Mathlib.Algebra.BigOperators.Group.List.Basic
import Mathlib.Data.List.Sort

/-!
# Lists

Prefixes, windows, changes, pairs, stable sorts and loops that only add.
-/

namespace TradingPlatform.Prefix

/-!
## Tests that hold on a prefix

Where a list is in an order, a test that goes down with the order holds on a prefix of it. What is kept of the list, and of
what is left after its first elements are dropped, is then a part of that prefix.
-/

variable {α : Type} {p p' : α → Bool} {l l' : List α}

/-- A test holds on a prefix of a list: of two elements, it holds of the first if it holds of the second. -/
def Cuts (p : α → Bool) (l : List α) : Prop := l.Pairwise fun a b => p b = true → p a = true

theorem Cuts.filter (h : Cuts p l) (q : α → Bool) : Cuts p (l.filter q) := List.Pairwise.sublist List.filter_sublist h

theorem Cuts.nil_of_head {a : α} (h : Cuts p (a :: l)) (ha : p a = false) : l.filter p = [] := by
  refine List.filter_eq_nil_iff.mpr fun b hb hpb => ?_
  rw [(List.pairwise_cons.mp h).1 b hb hpb] at ha
  nomatch ha

/-- A list is its prefix and the rest. -/
theorem Cuts.filter_append (h : Cuts p l) : l.filter p ++ l.filter (fun a => !p a) = l := by
  induction l with
  | nil => rfl
  | cons a l ih =>
    have hrest := (List.pairwise_cons.mp h).2
    by_cases ha : p a = true
    · simp [ha, ih hrest]
    · have hnil := h.nil_of_head (by simpa using ha)
      have hself := ih hrest
      rw [hnil, List.nil_append] at hself
      simp [ha, hnil, hself]

theorem Cuts.takeWhile_eq (h : Cuts p l) : l.takeWhile p = l.filter p := by
  induction l with
  | nil => rfl
  | cons a l ih =>
    by_cases ha : p a = true
    · simp [ha, ih (List.pairwise_cons.mp h).2]
    · simp [ha, h.nil_of_head (by simpa using ha)]

/-- What is dropped from the list is dropped from the prefix. -/
theorem Cuts.filter_drop (h : Cuts p l) (n : ℕ) : (l.drop n).filter p = (l.filter p).drop n := by
  induction l generalizing n with
  | nil => simp
  | cons a l ih =>
    cases n with
    | zero => simp
    | succ n =>
      have hrest := ih (List.pairwise_cons.mp h).2 n
      by_cases ha : p a = true
      · simpa [ha] using hrest
      · have hnil := h.nil_of_head (by simpa using ha)
        simpa [ha, hnil] using hrest

/-- The last elements of two lists, as many as one likes, pass their tests alike exactly if the lists do, and the lists are
equally long unless nothing passes. -/
theorem lasts_alike_iff (h : Cuts p l) (h' : Cuts p' l') :
    (∀ k, (l.drop (l.length - k)).filter p = (l'.drop (l'.length - k)).filter p') ↔
      l.filter p = l'.filter p' ∧ (l.filter p ≠ [] → l.length = l'.length) := by
  simp only [h.filter_drop, h'.filter_drop]
  constructor
  · intro hlasts
    have hall : l.filter p = l'.filter p' := by
      have hlong := hlasts (l.length + l'.length)
      simpa using hlong
    refine ⟨hall, fun hsome => ?_⟩
    -- the longer list is left with something where the other one is left with nothing
    have hle : (l.filter p).length ≤ l.length := List.length_filter_le p l
    have hle' : (l'.filter p').length ≤ l'.length := List.length_filter_le p' l'
    have hpos : 0 < (l.filter p).length := List.length_pos_iff.mpr hsome
    have hlength : (l'.filter p').length = (l.filter p).length := by rw [hall]
    have hdropped := congrArg List.length (hlasts (l.length - (l.filter p).length + 1))
    have hdropped' := congrArg List.length (hlasts (l'.length - (l.filter p).length + 1))
    simp only [List.length_drop] at hdropped hdropped'
    omega
  · rintro ⟨hall, hlength⟩ k
    by_cases hnone : l.filter p = []
    · rw [← hall, hnone, List.drop_nil, List.drop_nil]
    · rw [← hall, hlength hnone]

end TradingPlatform.Prefix

namespace TradingPlatform.Window

/-!
## The last elements of a list

A function that reads the last `k` elements of a list is the same on any two windows of the list that hold as many.
-/

variable {α β γ : Type} {k m n : ℕ} {l l' : List α}

theorem rtake_eq_self (h : l.length ≤ n) : l.rtake n = l := by
  rw [List.rtake, Nat.sub_eq_zero_of_le h]
  exact List.drop_zero

theorem length_rtake (n : ℕ) (l : List α) : (l.rtake n).length = min n l.length := by
  rw [List.rtake, List.length_drop]
  omega

theorem rtake_rtake (m n : ℕ) (l : List α) : (l.rtake n).rtake m = l.rtake (min m n) := by
  rw [List.rtake_eq_reverse_take_reverse, List.rtake_eq_reverse_take_reverse, List.rtake_eq_reverse_take_reverse, List.reverse_reverse,
    List.take_take]

/-- The last elements of two parts: those of the second, and what is left of the first. -/
theorem rtake_append (n : ℕ) (l l' : List α) : (l ++ l').rtake n = l.rtake (n - l'.length) ++ l'.rtake n := by
  rw [List.rtake_eq_reverse_take_reverse, List.rtake_eq_reverse_take_reverse, List.rtake_eq_reverse_take_reverse, List.reverse_append,
    List.take_append, List.reverse_append, List.length_reverse]

/-- A suffix that is long enough has the same last elements. -/
theorem rtake_of_suffix (h : l' <:+ l) (hlength : n ≤ l'.length) : l.rtake n = l'.rtake n := by
  obtain ⟨before, rfl⟩ := h
  rw [rtake_append, Nat.sub_eq_zero_of_le hlength, List.rtake_zero, List.nil_append]

/-- The last elements without the very last of them. -/
theorem rdrop_rtake (m n : ℕ) (l : List α) : (l.rtake (m + n)).rdrop m = (l.rdrop m).rtake n := by
  rw [List.rdrop_eq_reverse_drop_reverse, List.rtake_eq_reverse_take_reverse, List.rtake_eq_reverse_take_reverse,
    List.rdrop_eq_reverse_drop_reverse, List.reverse_reverse, List.reverse_reverse, List.drop_take, Nat.add_sub_cancel_left]

theorem rtake_suffix (n : ℕ) (l : List α) : l.rtake n <:+ l := List.drop_suffix _ l

/-- The function reads no more than the last `k` elements. -/
def ReadsLast (k : ℕ) (f : List α → β) : Prop := ∀ l, f l = f (l.rtake k)

/-- Windows that hold what is read look alike. -/
theorem ReadsLast.alike {f : List α → β} (h : ReadsLast k f) (hm : k ≤ m) (hn : k ≤ n) (l : List α) :
    f (l.rtake m) = f (l.rtake n) := by
  rw [h (l.rtake m), h (l.rtake n), rtake_rtake, rtake_rtake, Nat.min_eq_left hm, Nat.min_eq_left hn]

theorem ReadsLast.mono {f : List α → β} (h : ReadsLast k f) (hm : k ≤ m) : ReadsLast m f := by
  intro l
  rw [h l, h (l.rtake m), rtake_rtake, Nat.min_eq_left hm]

theorem readsLast_getLast? : ReadsLast 1 fun l : List α => l.getLast? := by
  intro l
  induction l using List.reverseRecOn with
  | nil => rfl
  | append_singleton l a ih => rw [rtake_append]; simp [List.rtake]

end TradingPlatform.Window

namespace TradingPlatform.Changes

/-!
## Changes of keyed observations

What is left of a sequence of observations when each one that repeats the latest of its key is dropped.
-/

variable {α κ : Type} [DecidableEq α] [DecidableEq κ] (key : α → κ)

/-- The latest observation of a key. -/
def latest (l : List α) (k : κ) : Option α := (l.filter fun x => decide (key x = k)).getLast?

/-- One observation more: it is kept unless it repeats the latest of its key. -/
def observe (kept : List α) (x : α) : List α := if latest key kept (key x) = some x then kept else kept ++ [x]

/-- The changes of a sequence. -/
def changes (l : List α) : List α := l.foldl (observe key) []

/-- No observation repeats the one before it of its key. -/
def NoRepeat (l : List α) : Prop := ∀ pre x post, l = pre ++ x :: post → latest key pre (key x) ≠ some x

theorem changes_snoc (l : List α) (x : α) : changes key (l ++ [x]) = observe key (changes key l) x := by
  unfold changes
  rw [List.foldl_append]
  rfl

theorem length_changes_le (l : List α) : (changes key l).length ≤ l.length := by
  induction l using List.reverseRecOn with
  | nil => exact Nat.le_refl _
  | append_singleton l x ih =>
    rw [changes_snoc, List.length_append, List.length_singleton]
    unfold observe
    split
    · omega
    · rw [List.length_append, List.length_singleton]
      omega

omit [DecidableEq α] in
theorem noRepeat_snoc {l : List α} {x : α} : NoRepeat key (l ++ [x]) ↔ NoRepeat key l ∧ latest key l (key x) ≠ some x := by
  constructor
  · intro h
    refine ⟨fun pre y post heq => h pre y (post ++ [x]) ?_, h l x [] rfl⟩
    rw [heq, List.append_assoc, List.cons_append]
  · rintro ⟨h, hlast⟩ pre y post heq
    rcases List.eq_nil_or_concat post with rfl | ⟨post, z, rfl⟩
    · obtain ⟨rfl, hsingle⟩ := List.append_inj' heq rfl
      obtain ⟨rfl, -⟩ := List.cons.inj hsingle
      exact hlast
    · have hsplit : l ++ [x] = (pre ++ y :: post) ++ [z] := by
        rw [heq, List.concat_eq_append, List.append_assoc, List.cons_append]
      exact h pre y post (List.append_inj' hsplit rfl).1

/-- Nothing is dropped exactly if nothing repeats. -/
theorem changes_eq_self_iff (l : List α) : changes key l = l ↔ NoRepeat key l := by
  induction l using List.reverseRecOn with
  | nil => exact iff_of_true rfl fun pre x post heq => absurd heq (by simp)
  | append_singleton l x ih =>
    rw [noRepeat_snoc, ← ih, changes_snoc]
    unfold observe
    split
    · rename_i hrepeats
      refine iff_of_false (fun heq => ?_) fun h => ?_
      · have hle := length_changes_le key l
        rw [heq, List.length_append, List.length_singleton] at hle
        omega
      · rw [h.1] at hrepeats
        exact h.2 hrepeats
    · rename_i hchanged
      rw [List.append_left_inj]
      refine ⟨fun heq => ⟨heq, ?_⟩, fun h => h.1⟩
      rw [heq] at hchanged
      exact hchanged

end TradingPlatform.Changes

namespace TradingPlatform.Pairs

/-!
## Pairs of a list

A sum over the pairs of a list, the earlier element first, and what a swap of neighbours changes of it. What no swap of neighbours
changes, no permutation changes.
-/

variable {α β : Type*}

/-- The sum of a function over the pairs of a list. -/
def pairSum (f : α → α → ℕ) : List α → ℕ
  | [] => 0
  | x :: rest => (rest.map (f x)).sum + pairSum f rest

@[simp] theorem pairSum_nil (f : α → α → ℕ) : pairSum f [] = 0 := rfl

@[simp] theorem pairSum_cons (f : α → α → ℕ) (x : α) (rest : List α) : pairSum f (x :: rest) = (rest.map (f x)).sum + pairSum f rest := rfl

theorem pairSum_append (f : α → α → ℕ) (l l' : List α) :
    pairSum f (l ++ l') = pairSum f l + pairSum f l' + (l.map fun x => (l'.map (f x)).sum).sum := by
  induction l with
  | nil => simp
  | cons x rest ih =>
    simp only [List.cons_append, pairSum_cons, List.map_append, List.sum_append, List.map_cons, List.sum_cons, ih]
    omega

/-- A sum over pairs in which one element is that of every pair that counts. -/
theorem pairSum_around {f : α → α → ℕ} {p : α} {before behind : List α} (hbefore : ∀ x ∈ before, ∀ y ∈ before ++ behind, f x y = 0)
    (hbehind : ∀ x ∈ behind, ∀ y ∈ behind, f x y = 0) :
    pairSum f (before ++ p :: behind) = (before.map fun x => f x p).sum + (behind.map (f p)).sum := by
  have hzero : ∀ l : List α, (∀ x ∈ l, ∀ y ∈ l, f x y = 0) → pairSum f l = 0 := by
    intro l hl
    induction l with
    | nil => rfl
    | cons x rest ih =>
      have hrest : (rest.map (f x)).sum = 0 := List.sum_eq_zero (by
        intro n hn
        obtain ⟨y, hy, rfl⟩ := List.mem_map.mp hn
        exact hl x List.mem_cons_self y (List.mem_cons_of_mem x hy))
      rw [pairSum_cons, hrest, ih fun y hy z hz => hl y (List.mem_cons_of_mem x hy) z (List.mem_cons_of_mem x hz)]
  have hcross : before.map (fun x => ((p :: behind).map (f x)).sum) = before.map fun x => f x p := by
    refine List.map_congr_left fun x hx => ?_
    have hrest : (behind.map (f x)).sum = 0 := List.sum_eq_zero (by
      intro n hn
      obtain ⟨y, hy, rfl⟩ := List.mem_map.mp hn
      exact hbefore x hx y (List.mem_append_right _ hy))
    rw [List.map_cons, List.sum_cons, hrest, Nat.add_zero]
  rw [pairSum_append, pairSum_cons, hcross, hzero before fun x hx y hy => hbefore x hx y (List.mem_append_left _ hy), hzero behind hbehind]
  omega

/-- What no swap of neighbours changes, no permutation changes. -/
theorem eq_of_perm_of_swap {F : List α → β} {l l' : List α} (h : l.Perm l')
    (hswap : ∀ before x y behind, (before ++ x :: y :: behind).Perm l → F (before ++ x :: y :: behind) = F (before ++ y :: x :: behind)) :
    F l = F l' := by
  have hgeneral : ∀ before, (∀ before' x y behind, (before' ++ x :: y :: behind).Perm (before ++ l) →
      F (before' ++ x :: y :: behind) = F (before' ++ y :: x :: behind)) → F (before ++ l) = F (before ++ l') := by
    clear hswap
    induction h with
    | nil => intro _ _; rfl
    | cons x _ ih =>
      intro before hswap
      have hstep := ih (before ++ [x]) (by simpa using hswap)
      simpa using hstep
    | swap x y behind =>
      intro before hswap
      exact hswap before y x behind (List.Perm.refl _)
    | trans h₁ _ ih₁ ih₂ =>
      intro before hswap
      exact (ih₁ before hswap).trans (ih₂ before fun before' x y behind hperm =>
        hswap before' x y behind (hperm.trans (h₁.symm.append_left before)))
  exact hgeneral [] (by simpa using hswap)

end TradingPlatform.Pairs

namespace TradingPlatform

/-!
## Sorting by a key

A stable sort by a key. Where no two values have one key, the sorted list does not depend on the order the values came in.
-/

variable {α β γ : Type*} [LinearOrder γ]

/-- The order of the keys. -/
def byKey (key : α → γ) (a b : α) : Prop := key a ≤ key b

instance (key : α → γ) : DecidableRel (byKey key) := fun a b => inferInstanceAs (Decidable (key a ≤ key b))

instance (key : α → γ) : Std.Total (byKey key) := ⟨fun a b => le_total (key a) (key b)⟩

instance (key : α → γ) : IsTrans α (byKey key) := ⟨fun _ _ _ h h' => le_trans h h'⟩

/-- The values in the order of their keys. -/
def sortOn (key : α → γ) (l : List α) : List α := l.insertionSort (byKey key)

variable {key : α → γ} {l l' : List α}

theorem sortOn_perm (key : α → γ) (l : List α) : (sortOn key l).Perm l := List.perm_insertionSort _ l

theorem sortOn_eq_self (h : l.Pairwise (byKey key)) : sortOn key l = l := h.insertionSort_eq

/-- Values that are mapped without a change of their keys stay in order. -/
theorem map_sortOn {key' : β → γ} {f : α → β} (h : ∀ a, key' (f a) = key a) (l : List α) :
    (sortOn key l).map f = sortOn key' (l.map f) := by
  refine List.map_insertionSort _ _ f l fun a _ b _ => ?_
  rw [byKey, byKey, h, h]

theorem sortOn_eq_of_perm (hkeys : (l.map key).Nodup) (h : l.Perm l') : sortOn key l = sortOn key l' := by
  refine List.Perm.eq_of_pairwise (fun a b ha hb hab hba => ?_) (List.pairwise_insertionSort (byKey key) l)
    (List.pairwise_insertionSort (byKey key) l') ((sortOn_perm key l).trans (h.trans (sortOn_perm key l').symm))
  have ha' : a ∈ l := (sortOn_perm key l).mem_iff.mp ha
  have hb' : b ∈ l := h.mem_iff.mpr ((sortOn_perm key l').mem_iff.mp hb)
  exact List.inj_on_of_nodup_map hkeys ha' hb' (le_antisymm hab hba)

end TradingPlatform

namespace TradingPlatform.Collect

/-!
## Loops that only add

A step that adds to an accumulator what it makes of an empty one. A loop of such steps is a sum, and where the accumulator is
mapped to a commutative monoid, the order of its items does not matter.
-/

variable {α M N : Type} [AddMonoid M] [AddCommMonoid N]

/-- A step adds what it makes of nothing. -/
def Adds (step : M → M) : Prop := ∀ m, step m = m + step 0

theorem adds_id : Adds fun m : M => m := fun m => (add_zero m).symm

theorem adds_of_eq {step : M → M} (a : M) (h : ∀ m, step m = m + a) : Adds step := by
  intro m
  rw [h, h 0, zero_add]

theorem Adds.comp {step step' : M → M} (h : Adds step) (h' : Adds step') : Adds fun m => step' (step m) := by
  intro m
  change step' (step m) = m + step' (step 0)
  rw [h' (step m), h m, add_assoc, ← h' (step 0)]

theorem Adds.ite {c : Prop} [Decidable c] {step step' : M → M} (h : Adds step) (h' : Adds step') :
    Adds fun m => if c then step m else step' m := by
  intro m
  by_cases hc : c
  · simp only [if_pos hc]
    exact h m
  · simp only [if_neg hc]
    exact h' m

/-- A loop of steps that add is a sum. -/
theorem foldl_eq_sum {step : M → α → M} (h : ∀ a, Adds fun m => step m a) (l : List α) (m : M) :
    l.foldl step m = m + (l.map fun a => step 0 a).sum := by
  induction l generalizing m with
  | nil => exact (add_zero m).symm
  | cons a l ih =>
    rw [List.foldl_cons, ih, List.map_cons, List.sum_cons, ← add_assoc]
    exact congrArg (· + _) (h a m)

/-- Where order is forgotten, the loop does not depend on it. -/
theorem map_foldl_perm (φ : M →+ N) {step : M → α → M} (h : ∀ a, Adds fun m => step m a) {l l' : List α} (hperm : l.Perm l')
    {m m' : M} (hm : φ m = φ m') : φ (l.foldl step m) = φ (l'.foldl step m') := by
  rw [foldl_eq_sum h, foldl_eq_sum h, map_add, map_add, hm, map_list_sum, map_list_sum]
  exact congrArg (φ m' + ·) ((hperm.map _).map _).sum_eq

end TradingPlatform.Collect
