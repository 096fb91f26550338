import Mathlib.Algebra.Order.Field.Basic

/-!
# Falls from a peak

The falls of a path over its first steps, each relative to the value it starts from. On a path that is never negative the deepest
fall to a point is the one from the highest value so far, so the deepest of all is known step by step from the peak.
-/

namespace TradingPlatform.Drawdown

variable {K : Type*} [Field K] [LinearOrder K]

/-- The fall from one value to another, relative to the first. -/
def fall (a b : K) : K := (a - b) / a

/-- The falls of a path from a positive value to a later one, up to a step. -/
def falls (e : ℕ → K) (n : ℕ) : Set K := {d | ∃ i j, i ≤ j ∧ j ≤ n ∧ 0 < e i ∧ d = fall (e i) (e j)}

/-- The values of a path up to a step. -/
def values (e : ℕ → K) (n : ℕ) : Set K := {x | ∃ i, i ≤ n ∧ x = e i}

variable {e : ℕ → K} {n : ℕ} {p m d : K}

omit [LinearOrder K] in
theorem fall_self (a : K) : fall a a = 0 := by simp [fall]

theorem falls_mono {n' : ℕ} (h : n ≤ n') : falls e n ⊆ falls e n' := by
  rintro d ⟨i, j, hij, hj, hpos, rfl⟩
  exact ⟨i, j, hij, hj.trans h, hpos, rfl⟩

omit [Field K] in
theorem isGreatest_values_zero (e : ℕ → K) : IsGreatest (values e 0) (e 0) := by
  refine ⟨⟨0, le_rfl, rfl⟩, ?_⟩
  rintro x ⟨i, hi, rfl⟩
  rw [Nat.le_zero.mp hi]

omit [Field K] in
/-- The peak after one more step. -/
theorem isGreatest_values_succ (h : IsGreatest (values e n) p) : IsGreatest (values e (n + 1)) (max p (e (n + 1))) := by
  obtain ⟨⟨k, hk, hpeak⟩, hbound⟩ := h
  constructor
  · rcases max_choice p (e (n + 1)) with hmax | hmax
    · exact ⟨k, Nat.le_succ_of_le hk, hmax.trans hpeak⟩
    · exact ⟨n + 1, le_rfl, hmax⟩
  · rintro x ⟨i, hi, rfl⟩
    rcases Nat.lt_or_ge n i with hlt | hle
    · rw [Nat.le_antisymm hi hlt]
      exact le_max_right _ _
    · exact le_max_of_le_left (hbound ⟨i, hle, rfl⟩)

theorem isGreatest_falls_zero (h : 0 < e 0) : IsGreatest (falls e 0) 0 := by
  refine ⟨⟨0, 0, le_rfl, le_rfl, h, (fall_self _).symm⟩, ?_⟩
  rintro d ⟨i, j, hij, hj, -, rfl⟩
  rw [Nat.le_zero.mp hj, Nat.le_zero.mp (hij.trans hj), fall_self]

variable [IsStrictOrderedRing K]

/-- To a value that is not negative, the fall from a higher value is deeper. -/
theorem fall_le_fall {a b x : K} (ha : 0 < a) (hab : a ≤ b) (hx : 0 ≤ x) : fall a x ≤ fall b x := by
  have hb : 0 < b := ha.trans_le hab
  unfold fall
  rw [sub_div, sub_div, div_self ha.ne', div_self hb.ne']
  exact sub_le_sub_left (div_le_div_of_nonneg_left hx ha hab) 1

theorem fall_le_one {a x : K} (ha : 0 < a) (hx : 0 ≤ x) : fall a x ≤ 1 := by
  unfold fall
  rw [div_le_one ha]
  exact sub_le_self a hx

/-- The deepest fall after one more step is the deepest so far or the one from the peak. -/
theorem isGreatest_falls_succ (hfalls : IsGreatest (falls e n) m) (hpeak : IsGreatest (values e (n + 1)) p) (hpos : 0 < p)
    (hlast : 0 ≤ e (n + 1)) : IsGreatest (falls e (n + 1)) (max m (fall p (e (n + 1)))) := by
  obtain ⟨hmem, hbound⟩ := hfalls
  obtain ⟨⟨k, hk, rfl⟩, hhighest⟩ := hpeak
  constructor
  · rcases max_choice m (fall (e k) (e (n + 1))) with hmax | hmax
    · rw [hmax]
      exact falls_mono (Nat.le_succ n) hmem
    · rw [hmax]
      exact ⟨k, n + 1, hk, le_rfl, hpos, rfl⟩
  · rintro d ⟨i, j, hij, hj, hi, rfl⟩
    rcases Nat.lt_or_ge n j with hlt | hle
    · obtain rfl : j = n + 1 := Nat.le_antisymm hj hlt
      exact le_max_of_le_right (fall_le_fall hi (hhighest ⟨i, hij, rfl⟩) hlast)
    · exact le_max_of_le_left (hbound ⟨i, j, hij, hle, hi, rfl⟩)

/-- The deepest fall of a path that starts above zero and is never negative lies between nothing and all. -/
theorem isGreatest_falls_bounds (h : IsGreatest (falls e n) m) (hstart : 0 < e 0) (hnonneg : ∀ i ≤ n, 0 ≤ e i) :
    0 ≤ m ∧ m ≤ 1 := by
  constructor
  · exact h.2 ⟨0, 0, le_rfl, Nat.zero_le n, hstart, (fall_self _).symm⟩
  · obtain ⟨i, j, -, hj, hi, rfl⟩ := h.1
    exact fall_le_one hi (hnonneg j hj)

end TradingPlatform.Drawdown
