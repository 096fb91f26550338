import Mathlib.Tactic.Linarith
import TradingPlatform.Domain.State

/-!
# Moves in the direction of a position

A price move counted positive in the direction of the position. A price is on the losing side of a reference when the move from
the reference to it is negative.
-/

namespace TradingPlatform

/-- The move from a reference to a price, in the direction of the position. -/
def Direction.gain (side : Direction) (reference price : ℚ) : ℚ :=
  match side with
  | .long => price - reference
  | .short => reference - price

/-- The price at a distance in the direction of the position. -/
def Direction.ahead (side : Direction) (reference distance : ℚ) : ℚ :=
  match side with
  | .long => reference + distance
  | .short => reference - distance

namespace Direction

variable (side : Direction)

@[simp] theorem gain_self (x : ℚ) : side.gain x x = 0 := by
  cases side
  · exact sub_self x
  · exact sub_self x

@[simp] theorem gain_ahead (x d : ℚ) : side.gain x (side.ahead x d) = d := by
  cases side
  · exact add_sub_cancel_left x d
  · exact sub_sub_cancel x d

/-- A move compares two prices by the moves to them. -/
theorem gain_eq_sub (x y z : ℚ) : side.gain y z = side.gain x z - side.gain x y := by
  cases side
  · exact (sub_sub_sub_cancel_right z y x).symm
  · exact (sub_sub_sub_cancel_left z y x).symm

/-- The distance between two prices is the size of the move. -/
theorem abs_gain (x y : ℚ) : |x - y| = |side.gain x y| := by
  cases side
  · exact abs_sub_comm x y
  · rfl

end Direction

/-! ## The numbers of the sample records -/

namespace SampleLevels

theorem one_pos : (0 : ℚ) < 1 := by norm_num

theorem two_pos : (0 : ℚ) < 2 := by norm_num

theorem twenty_pos : (0 : ℚ) < 20 := by norm_num

theorem ninetyFive_pos : (0 : ℚ) < 95 := by norm_num

theorem ninetyNine_pos : (0 : ℚ) < 99 := by norm_num

theorem hundred_pos : (0 : ℚ) < 100 := by norm_num

theorem thousandth_pos : (0 : ℚ) < 1 / 1000 := by norm_num

theorem zero_nonneg : (0 : ℚ) ≤ 0 := le_refl 0

theorem none_pos : ∀ q ∈ (none : Option ℚ), 0 < q := by simp

theorem long_stop_behind : Direction.long.gain 100 95 < 0 := by
  unfold Direction.gain
  norm_num

end SampleLevels

end TradingPlatform
