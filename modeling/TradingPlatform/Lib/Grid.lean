import Mathlib.Algebra.Order.Floor.Ring

/-!
# Rounding to a grid

The multiples of a positive step, the nearest one on either side of a value, and the nearest one of all. A multiple lies in a
half-open interval exactly if the value at its closed end, rounded into the interval, does not leave it.
-/

namespace TradingPlatform.Grid

variable {K : Type} [Field K] [LinearOrder K] [IsStrictOrderedRing K] [FloorRing K] {step x y : K}

/-- A multiple of the step. -/
def OnGrid (step x : K) : Prop := ∃ k : ℤ, x = k * step

/-- The least multiple that is not below a value. -/
def up (step x : K) : K := ⌈x / step⌉ * step

/-- The greatest multiple that is not above a value. -/
def down (step x : K) : K := ⌊x / step⌋ * step

/-- The nearest multiple; a tie goes away from zero. -/
def nearest (step x : K) : K := if 0 ≤ x then ⌊x / step + 1 / 2⌋ * step else ⌈x / step - 1 / 2⌉ * step

omit [IsStrictOrderedRing K] in
theorem onGrid_up : OnGrid step (up step x) := ⟨_, rfl⟩

omit [IsStrictOrderedRing K] in
theorem onGrid_down : OnGrid step (down step x) := ⟨_, rfl⟩

theorem le_up (h : 0 < step) : x ≤ up step x := (div_le_iff₀ h).mp (Int.le_ceil _)

theorem down_le (h : 0 < step) : down step x ≤ x := (le_div_iff₀ h).mp (Int.floor_le _)

theorem up_le (h : 0 < step) (hy : OnGrid step y) (hxy : x ≤ y) : up step x ≤ y := by
  obtain ⟨k, rfl⟩ := hy
  have hk : ⌈x / step⌉ ≤ k := Int.ceil_le.mpr ((div_le_iff₀ h).mpr hxy)
  exact mul_le_mul_of_nonneg_right (Int.cast_le.mpr hk) h.le

theorem le_down (h : 0 < step) (hy : OnGrid step y) (hyx : y ≤ x) : y ≤ down step x := by
  obtain ⟨k, rfl⟩ := hy
  have hk : k ≤ ⌊x / step⌋ := Int.le_floor.mpr ((le_div_iff₀ h).mpr hyx)
  exact mul_le_mul_of_nonneg_right (Int.cast_le.mpr hk) h.le

theorem down_mono (h : 0 < step) (hxy : x ≤ y) : down step x ≤ down step y :=
  le_down h onGrid_down ((down_le h).trans hxy)

/-- Rounding up stays below a bound exactly if some multiple lies between. -/
theorem up_lt_iff (h : 0 < step) : up step x < y ↔ ∃ z, OnGrid step z ∧ x ≤ z ∧ z < y := by
  constructor
  · intro hlt
    exact ⟨up step x, onGrid_up, le_up h, hlt⟩
  · rintro ⟨z, hz, hxz, hzy⟩
    exact (up_le h hz hxz).trans_lt hzy

/-- Rounding down stays above a bound exactly if some multiple lies between. -/
theorem lt_down_iff (h : 0 < step) : y < down step x ↔ ∃ z, OnGrid step z ∧ y < z ∧ z ≤ x := by
  constructor
  · intro hlt
    exact ⟨down step x, onGrid_down, hlt, down_le h⟩
  · rintro ⟨z, hz, hyz, hzx⟩
    exact hyz.trans_le (le_down h hz hzx)

theorem down_nonneg (h : 0 < step) (hx : 0 ≤ x) : 0 ≤ down step x :=
  le_down h ⟨0, by rw [Int.cast_zero, zero_mul]⟩ hx

/-! ## The nearest multiple -/

omit [IsStrictOrderedRing K] in
theorem onGrid_nearest : OnGrid step (nearest step x) := by
  unfold nearest
  split
  · exact ⟨_, rfl⟩
  · exact ⟨_, rfl⟩

/-- A multiple of the step is its own nearest one. -/
theorem nearest_of_onGrid (h : 0 < step) (hx : OnGrid step x) : nearest step x = x := by
  obtain ⟨k, rfl⟩ := hx
  have hquotient : (k * step : K) / step = k := mul_div_cancel_right₀ _ h.ne'
  unfold nearest
  rw [hquotient]
  split
  · have hfloor : ⌊(k : K) + 1 / 2⌋ = k := Int.floor_eq_iff.mpr ⟨by linarith, by linarith⟩
    rw [hfloor]
  · have hceil : ⌈(k : K) - 1 / 2⌉ = k := Int.ceil_eq_iff.mpr ⟨by linarith, by linarith⟩
    rw [hceil]

theorem nearest_nearest (h : 0 < step) : nearest step (nearest step x) = nearest step x :=
  nearest_of_onGrid h onGrid_nearest

/-- A value of half a step or more does not round to zero. -/
theorem nearest_pos (h : 0 < step) (hx : step / 2 ≤ x) : 0 < nearest step x := by
  have hquotient : 1 / 2 ≤ x / step := (le_div_iff₀ h).mpr (by linarith)
  have hfloor : 1 ≤ ⌊x / step + 1 / 2⌋ := Int.le_floor.mpr (by rw [Int.cast_one]; linarith)
  unfold nearest
  rw [if_pos (by linarith)]
  exact mul_pos (Int.cast_pos.mpr (by omega)) h

/-- Rounding to the nearest multiple keeps the order. -/
theorem nearest_mono (h : 0 < step) (hxy : x ≤ y) : nearest step x ≤ nearest step y := by
  have hquotient : x / step ≤ y / step := div_le_div_of_nonneg_right hxy h.le
  unfold nearest
  split_ifs with hx hy hy
  · have hfloor : ⌊x / step + 1 / 2⌋ ≤ ⌊y / step + 1 / 2⌋ := Int.floor_le_floor (by linarith)
    exact mul_le_mul_of_nonneg_right (Int.cast_le.mpr hfloor) h.le
  · exact absurd (hx.trans hxy) hy
  · have hbelow : ⌈x / step - 1 / 2⌉ ≤ 0 := by
      have hneg : x / step < 0 := div_neg_of_neg_of_pos (not_le.mp hx) h
      exact Int.ceil_le.mpr (by rw [Int.cast_zero]; linarith)
    have habove : 0 ≤ ⌊y / step + 1 / 2⌋ := by
      have hpos : 0 ≤ y / step := div_nonneg hy h.le
      exact Int.le_floor.mpr (by rw [Int.cast_zero]; linarith)
    exact mul_le_mul_of_nonneg_right (Int.cast_le.mpr (hbelow.trans habove)) h.le
  · have hceil : ⌈x / step - 1 / 2⌉ ≤ ⌈y / step - 1 / 2⌉ := Int.ceil_le_ceil (by linarith)
    exact mul_le_mul_of_nonneg_right (Int.cast_le.mpr hceil) h.le

end TradingPlatform.Grid
