import Mathlib.Algebra.GroupWithZero.Nat
import Mathlib.Algebra.BigOperators.Group.List.Basic

/-!
# Bounded mailboxes

A mailbox of a bound that gives up its oldest message for a new one. What the reader has taken and what waits for it are always a
subsequence of what was offered, and what waits is the end of it.
-/

namespace TradingPlatform.Mailbox

variable {α : Type} {bound : ℕ} {offered taken waiting : List α}

/-- There is no place left; a bound of zero is none. -/
def full (bound : ℕ) (waiting : List α) : Bool := decide (0 < bound ∧ bound ≤ waiting.length)

/-- A new message: a full mailbox gives up its oldest one first. -/
def offer (bound : ℕ) (waiting : List α) (a : α) : List α :=
  (if full bound waiting then waiting.tail else waiting) ++ [a]

/-- How many messages were given up. -/
def skipped (offered taken waiting : List α) : ℕ := offered.length - (taken ++ waiting).length

/-- What was taken and what waits come in the order of the offers, and what waits are the latest ones. -/
structure Keeps (bound : ℕ) (offered taken waiting : List α) : Prop where
  sublist : (taken ++ waiting).Sublist offered
  suffix : waiting <:+ offered
  bounded : waiting.length ≤ bound

theorem full_iff (hbound : 1 ≤ bound) : full bound waiting = true ↔ bound ≤ waiting.length := by
  unfold full
  simp only [decide_eq_true_eq]
  omega

theorem Keeps.empty (bound : ℕ) : Keeps bound ([] : List α) [] [] :=
  ⟨List.Sublist.refl _, List.suffix_refl _, Nat.zero_le _⟩

theorem offer_full (a : α) (h : full bound waiting = true) : offer bound waiting a = waiting.tail ++ [a] := by
  simp [offer, h]

theorem offer_not_full (a : α) (h : ¬full bound waiting = true) : offer bound waiting a = waiting ++ [a] := by
  simp [offer, h]

theorem suffix_snoc {l l' : List α} (h : l <:+ l') (a : α) : l ++ [a] <:+ l' ++ [a] := by
  obtain ⟨before, rfl⟩ := h
  exact ⟨before, (List.append_assoc ..).symm⟩

/-- A new message is kept, in its place. -/
theorem Keeps.offer (hbound : 1 ≤ bound) (h : Keeps bound offered taken waiting) (a : α) :
    Keeps bound (offered ++ [a]) taken (offer bound waiting a) := by
  have hbounded := h.bounded
  by_cases hfull : full bound waiting = true
  · rw [offer_full a hfull]
    refine ⟨?_, ?_, ?_⟩
    · rw [← List.append_assoc]
      exact (((List.tail_sublist waiting).append_left taken).trans h.sublist).append (List.Sublist.refl [a])
    · exact suffix_snoc ((List.tail_suffix waiting).trans h.suffix) a
    · rw [full_iff hbound] at hfull
      simp only [List.length_append, List.length_tail, List.length_singleton]
      omega
  · rw [offer_not_full a hfull]
    refine ⟨?_, ?_, ?_⟩
    · rw [← List.append_assoc]
      exact h.sublist.append (List.Sublist.refl [a])
    · exact suffix_snoc h.suffix a
    · rw [full_iff hbound] at hfull
      simp only [List.length_append, List.length_singleton]
      omega

/-- The reader takes the message that waits longest. -/
theorem Keeps.take {a : α} (h : Keeps bound offered taken (a :: waiting)) : Keeps bound offered (taken ++ [a]) waiting := by
  refine ⟨?_, (List.suffix_cons a waiting).trans h.suffix, ?_⟩
  · rw [List.append_assoc]
    exact h.sublist
  · have hbounded := h.bounded
    rw [List.length_cons] at hbounded
    omega

theorem skipped_take (offered taken waiting : List α) (a : α) :
    skipped offered (taken ++ [a]) waiting = skipped offered taken (a :: waiting) := by
  simp [skipped]

/-- One message is given up for a new one exactly if the mailbox is full. -/
theorem skipped_offer (hbound : 1 ≤ bound) (h : Keeps bound offered taken waiting) (a : α) :
    skipped (offered ++ [a]) taken (offer bound waiting a) =
      skipped offered taken waiting + if full bound waiting then 1 else 0 := by
  have hlength := h.sublist.length_le
  unfold skipped
  by_cases hfull : full bound waiting = true
  · rw [offer_full a hfull, if_pos hfull]
    rw [full_iff hbound] at hfull
    simp only [List.length_append, List.length_tail, List.length_singleton] at hlength ⊢
    omega
  · rw [offer_not_full a hfull, if_neg hfull]
    simp only [List.length_append, List.length_singleton] at hlength ⊢
    omega

/-! ## Many mailboxes -/

/-- A sum over some of the mailboxes of a list, each of them a number larger where a test holds. -/
theorem sum_map_add_countP (l : List ℕ) (f : ℕ → ℕ) (p : ℕ → Bool) :
    (l.map fun i => f i + if p i then 1 else 0).sum = (l.map f).sum + l.countP p := by
  induction l with
  | nil => rfl
  | cons i l ih =>
    rw [List.map_cons, List.sum_cons, ih, List.map_cons, List.sum_cons, List.countP_cons]
    omega

end TradingPlatform.Mailbox
