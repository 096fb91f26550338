import Mathlib.Data.List.Nodup
import TradingPlatform.Lib.Loops

/-!
# Keyed sets of observations

Observations arrive in any order and any number of times. They are collected under a key: an observation that is there already
changes nothing, another one under its key is a conflict. What is collected is sorted by an order in which different
observations may be equal; exactly if they are not, the sorted list is a function of the set.
-/

namespace TradingPlatform.Dedup

variable {ε α κ : Type} [DecidableEq α] [DecidableEq κ]

/-- One observation more. -/
def add (key : α → κ) (conflict : α → ε) (unique : List α) (x : α) : Except ε (List α) :=
  match unique.find? fun y => decide (key y = key x) with
  | some previous => if previous = x then .ok unique else .error (conflict x)
  | none => .ok (unique ++ [x])

/-- Observations under one key are one observation. -/
def Consistent (key : α → κ) (l : List α) : Prop := ∀ x ∈ l, ∀ y ∈ l, key x = key y → x = y

section Add

variable {key : α → κ} {conflict : α → ε} {unique unique' l out : List α} {x y : α}

/-- An observation is added exactly if the others of its key are equal to it. -/
theorem add_isOk_iff (hnodup : (unique.map key).Nodup) :
    (∃ unique', add key conflict unique x = .ok unique') ↔ ∀ y ∈ unique, key y = key x → y = x := by
  unfold add
  cases hfind : unique.find? fun y => decide (key y = key x) with
  | none =>
    refine ⟨fun _ y hy hkey => ?_, fun _ => ⟨_, rfl⟩⟩
    exact absurd (decide_eq_true hkey) (List.find?_eq_none.mp hfind y hy)
  | some previous =>
    have hprevious : key previous = key x := by simpa using List.find?_some hfind
    have hmem : previous ∈ unique := List.mem_of_find?_eq_some hfind
    by_cases heq : previous = x
    · refine ⟨fun _ y hy hkey => ?_, fun _ => ⟨unique, if_pos heq⟩⟩
      exact (List.inj_on_of_nodup_map hnodup hy hmem (hkey.trans hprevious.symm)).trans heq
    · dsimp only
      rw [if_neg heq]
      refine ⟨fun ⟨_, h⟩ => (nomatch h), fun h => absurd (h previous hmem hprevious) heq⟩

/-- What one observation more makes of the list. -/
theorem add_ok (h : add key conflict unique x = .ok unique') :
    (unique' = unique ∧ x ∈ unique) ∨ (unique' = unique ++ [x] ∧ ∀ y ∈ unique, key y ≠ key x) := by
  unfold add at h
  split at h
  · rename_i previous hfind
    split at h
    · rename_i heq
      exact .inl ⟨(Except.ok.inj h).symm, heq ▸ List.mem_of_find?_eq_some hfind⟩
    · nomatch h
  · rename_i hfind
    refine .inr ⟨(Except.ok.inj h).symm, fun y hy hkey => ?_⟩
    exact absurd (decide_eq_true hkey) (List.find?_eq_none.mp hfind y hy)

theorem add_nodup (hnodup : (unique.map key).Nodup) (h : add key conflict unique x = .ok unique') :
    (unique'.map key).Nodup := by
  rcases add_ok h with ⟨rfl, -⟩ | ⟨rfl, hnew⟩
  · exact hnodup
  · rw [List.map_append, List.map_singleton, List.nodup_append]
    refine ⟨hnodup, List.nodup_singleton _, fun k hk k' hk' heq => ?_⟩
    obtain ⟨y, hy, rfl⟩ := List.mem_map.mp hk
    exact hnew y hy (heq.trans (List.mem_singleton.mp hk'))

theorem mem_add (h : add key conflict unique x = .ok unique') : y ∈ unique' ↔ y ∈ unique ∨ y = x := by
  rcases add_ok h with ⟨rfl, hx⟩ | ⟨rfl, -⟩
  · exact ⟨.inl, fun hy => hy.elim id fun heq => heq ▸ hx⟩
  · rw [List.mem_append, List.mem_singleton]

theorem prefix_add (h : add key conflict unique x = .ok unique') : unique <+: unique' := by
  rcases add_ok h with ⟨rfl, -⟩ | ⟨rfl, -⟩
  · exact List.prefix_refl _
  · exact List.prefix_append _ _

/-! ## Every observation -/

theorem collect_nodup (hnodup : (unique.map key).Nodup) (h : l.foldlM (add key conflict) unique = .ok out) :
    (out.map key).Nodup :=
  Loops.foldlM_keeps (fun _ _ _ hu hadd => add_nodup hu hadd) l hnodup h

theorem mem_collect (h : l.foldlM (add key conflict) unique = .ok out) : y ∈ out ↔ y ∈ unique ∨ y ∈ l := by
  induction l generalizing unique with
  | nil =>
    cases h
    simp
  | cons x rest ih =>
    rw [List.foldlM_cons] at h
    obtain ⟨unique', hadd, h⟩ := Loops.bind_eq_ok.mp h
    rw [ih h, mem_add hadd, List.mem_cons, or_assoc]

theorem prefix_collect (h : l.foldlM (add key conflict) unique = .ok out) : unique <+: out := by
  induction l generalizing unique with
  | nil =>
    cases h
    exact List.prefix_refl _
  | cons x rest ih =>
    rw [List.foldlM_cons] at h
    obtain ⟨unique', hadd, h⟩ := Loops.bind_eq_ok.mp h
    exact (prefix_add hadd).trans (ih h)

/-- Observations are collected exactly if no two of them conflict. -/
theorem collect_isOk_iff_from (hnodup : (unique.map key).Nodup) :
    (∃ out, l.foldlM (add key conflict) unique = .ok out) ↔
      ∀ x ∈ l, ∀ y, y ∈ unique ∨ y ∈ l → key x = key y → x = y := by
  induction l generalizing unique with
  | nil => exact ⟨fun _ x hx => absurd hx List.not_mem_nil, fun _ => ⟨unique, rfl⟩⟩
  | cons x rest ih =>
    have hfirst : (∃ unique', add key conflict unique x = .ok unique') ↔ ∀ y ∈ unique, key y = key x → y = x :=
      add_isOk_iff hnodup
    constructor
    · rintro ⟨out, h⟩
      have hout := mem_collect (y := x) h
      rw [List.foldlM_cons] at h
      obtain ⟨unique', hadd, h⟩ := Loops.bind_eq_ok.mp h
      have hall := collect_nodup (add_nodup hnodup hadd) h
      intro a ha b hb hkey
      have hmem : ∀ c, c ∈ unique ∨ c ∈ x :: rest → c ∈ out := by
        intro c hc
        rw [mem_collect h, mem_add hadd]
        rcases hc with hc | hc
        · exact .inl (.inl hc)
        · rcases List.mem_cons.mp hc with rfl | hc
          · exact .inl (.inr rfl)
          · exact .inr hc
      exact List.inj_on_of_nodup_map hall (hmem a (.inr ha)) (hmem b hb) hkey
    · intro hconsistent
      obtain ⟨unique', hadd⟩ := hfirst.mpr fun y hy hkey =>
        (hconsistent x List.mem_cons_self y (.inl hy) hkey.symm).symm
      obtain ⟨out, hout⟩ := (ih (add_nodup hnodup hadd)).mpr fun a ha b hb hkey => by
        refine hconsistent a (List.mem_cons_of_mem _ ha) b ?_ hkey
        rcases hb with hb | hb
        · rcases (mem_add hadd).mp hb with hb | rfl
          · exact .inl hb
          · exact .inr List.mem_cons_self
        · exact .inr (List.mem_cons_of_mem _ hb)
      exact ⟨out, by rw [List.foldlM_cons, hadd]; exact hout⟩

omit [DecidableEq α] [DecidableEq κ] in
theorem nodup_none : (([] : List α).map key).Nodup := List.nodup_nil

theorem collect_isOk_iff : (∃ out, l.foldlM (add key conflict) [] = .ok out) ↔ Consistent key l := by
  rw [collect_isOk_iff_from nodup_none]
  refine ⟨fun h x hx y hy => h x hx y (.inr hy), fun h x hx y hy => h x hx y (hy.resolve_left List.not_mem_nil)⟩

end Add

/-! ## The sorted list -/

section Sorted

variable {key : α → κ} {conflict : α → ε} {l l' out out' : List α} {le : α → α → Bool}
  (trans : ∀ a b c, le a b = true → le b c = true → le a c = true) (total : ∀ a b, (le a b || le b a) = true)

include trans total

/-- Without ties, the same observations are sorted to the same list. -/
theorem sorted_eq (h : l.foldlM (add key conflict) [] = .ok out) (h' : l'.foldlM (add key conflict) [] = .ok out')
    (hsame : ∀ x, x ∈ l' ↔ x ∈ l) (hties : ∀ x ∈ l, ∀ y ∈ l, le x y = true → le y x = true → x = y) :
    out'.mergeSort le = out.mergeSort le := by
  have hnodup : out.Nodup := List.Nodup.of_map _ (collect_nodup nodup_none h)
  have hnodup' : out'.Nodup := List.Nodup.of_map _ (collect_nodup nodup_none h')
  have hmem : ∀ x, x ∈ out' ↔ x ∈ out := by
    intro x
    rw [mem_collect h, mem_collect h', hsame]
  have hperm : out'.Perm out := (List.perm_ext_iff_of_nodup hnodup' hnodup).mpr hmem
  refine List.Perm.eq_of_pairwise (fun x y hx hy hxy hyx => ?_) (List.pairwise_mergeSort trans total out')
    (List.pairwise_mergeSort trans total out) (((List.mergeSort_perm _ _).trans hperm).trans (List.mergeSort_perm _ _).symm)
  have hin : ∀ z, z ∈ out → z ∈ l := fun z hz => ((mem_collect h).mp hz).resolve_left List.not_mem_nil
  refine hties x (hin x ?_) y (hin y ?_) hxy hyx
  · exact (hmem x).mp (List.mem_mergeSort.mp hx)
  · exact List.mem_mergeSort.mp hy

/-- Two observations that are tied appear in the order of their arrival. -/
theorem sorted_pair {x y : α} {rest : List α} (hne : key x ≠ key y) (hle : le x y = true)
    (h : (x :: y :: rest).foldlM (add key conflict) [] = .ok out) : [x, y].Sublist (out.mergeSort le) := by
  have hfirst : ([x, y] : List α).foldlM (add key conflict) [] = .ok [x, y] := by
    have hnone : ([x].find? fun z => decide (key z = key y)) = none := by simp [hne]
    simp only [List.foldlM_cons, List.foldlM_nil, add, List.find?_nil, List.nil_append, bind, Except.bind, hnone,
      List.singleton_append]
    rfl
  have hprefix : [x, y] <+: out := by
    have hsplit : (x :: y :: rest).foldlM (add key conflict) [] = rest.foldlM (add key conflict) [x, y] := by
      rw [show x :: y :: rest = [x, y] ++ rest from rfl, List.foldlM_append, hfirst]
      rfl
    rw [hsplit] at h
    exact prefix_collect h
  exact List.pair_sublist_mergeSort trans total hle hprefix.sublist

omit [DecidableEq α] trans total in
/-- Two items of a list without repetitions stand in one order only. -/
theorem one_order {x y : α} {l : List α} (hnodup : l.Nodup) (hxy : [x, y].Sublist l) (hyx : [y, x].Sublist l) : False := by
  induction l with
  | nil => nomatch hxy
  | cons z rest ih =>
    obtain ⟨hz, hrest⟩ := List.nodup_cons.mp hnodup
    have hmem : ∀ {a b : α}, [a, b].Sublist (z :: rest) → [a, b].Sublist rest ∨ (a = z ∧ b ∈ rest) := by
      intro a b h
      rcases List.sublist_cons_iff.mp h with h | ⟨r, heq, h⟩
      · exact .inl h
      · obtain ⟨rfl, rfl⟩ := List.cons.inj heq
        exact .inr ⟨rfl, List.singleton_sublist.mp h⟩
    rcases hmem hxy with hfirst | ⟨rfl, hy⟩
    · rcases hmem hyx with hsecond | ⟨rfl, -⟩
      · exact ih hrest hfirst hsecond
      · exact hz (hfirst.subset (List.mem_cons_of_mem _ List.mem_cons_self))
    · rcases hmem hyx with hsecond | ⟨rfl, -⟩
      · exact hz (hsecond.subset (List.mem_cons_of_mem _ List.mem_cons_self))
      · exact hz hy

/-- With a tie, the sorted list depends on the order of arrival. -/
theorem sorted_ne {x y : α} {rest : List α} (hne : key x ≠ key y) (hle : le x y = true) (hge : le y x = true)
    (h : (x :: y :: rest).foldlM (add key conflict) [] = .ok out)
    (h' : (y :: x :: rest).foldlM (add key conflict) [] = .ok out') : out.mergeSort le ≠ out'.mergeSort le := by
  intro heq
  have hxy := sorted_pair trans total hne hle h
  have hyx := sorted_pair trans total hne.symm hge h'
  have hnodup : (out.mergeSort le).Nodup :=
    (List.mergeSort_perm out le).nodup_iff.mpr (List.Nodup.of_map _ (collect_nodup nodup_none h))
  rw [← heq] at hyx
  exact one_order hnodup hxy hyx

end Sorted

end TradingPlatform.Dedup
