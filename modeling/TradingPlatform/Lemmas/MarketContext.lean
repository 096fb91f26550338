import TradingPlatform.Engine.MarketContext

/-!
# What the features of a context read

Every feature reads so many of the last bars of its window, and the direction its first and last. What a reader passes to the
builder is sorted and closed, so that the builder keeps it as it is.
-/

namespace TradingPlatform

open Window

/-- A window that is nothing but its bars. -/
def bareWindow (bars : List OHLCVBar) : BarWindow :=
  { timeframe := .m1, bars, lastClosedAt := none, expectedIntervalSeconds := 0, gapCount := 0 }

/-! ## True ranges -/

theorem trueRangesFrom_append (previousClose : Option ℚ) (bars bars' : List OHLCVBar) :
    trueRangesFrom previousClose (bars ++ bars') =
      trueRangesFrom previousClose bars ++ trueRangesFrom ((bars.getLast?.map (·.close)).or previousClose) bars' := by
  induction bars generalizing previousClose with
  | nil => simp [trueRangesFrom]
  | cons bar rest ih =>
    rw [List.cons_append, trueRangesFrom, trueRangesFrom, ih, List.cons_append]
    cases rest with
    | nil => rfl
    | cons bar' rest => simp [List.getLast?_cons]

theorem length_trueRangesFrom (previousClose : Option ℚ) (bars : List OHLCVBar) :
    (trueRangesFrom previousClose bars).length = bars.length := by
  induction bars generalizing previousClose with
  | nil => rfl
  | cons bar rest ih => simp [trueRangesFrom, ih]

/-- Only the first range depends on the close before the bars. -/
theorem trueRangesFrom_rtake {n : ℕ} {bars : List OHLCVBar} (h : n < bars.length) (previousClose previousClose' : Option ℚ) :
    (trueRangesFrom previousClose bars).rtake n = (trueRangesFrom previousClose' bars).rtake n := by
  cases bars with
  | nil => exact absurd h (Nat.not_lt_zero n)
  | cons bar rest =>
    have hlength : n ≤ (trueRangesFrom (some bar.close) rest).length := by
      rw [length_trueRangesFrom]
      exact Nat.lt_succ_iff.mp h
    unfold trueRangesFrom
    rw [rtake_of_suffix (List.suffix_cons _ _) hlength, rtake_of_suffix (List.suffix_cons _ _) hlength]

/-- The last true ranges are those of one bar more. -/
theorem readsLast_trueRanges (k : ℕ) : ReadsLast (k + 1) fun bars => (trueRanges bars).rtake k := by
  intro bars
  dsimp only
  by_cases hlong : k + 1 ≤ bars.length
  · obtain ⟨before, hbars⟩ := rtake_suffix (k + 1) bars
    have hlength : (bars.rtake (k + 1)).length = k + 1 := by
      rw [length_rtake]
      omega
    have hranges := trueRangesFrom_append none before (bars.rtake (k + 1))
    rw [hbars] at hranges
    unfold trueRanges
    rw [hranges, rtake_of_suffix (List.suffix_append _ _) (by rw [length_trueRangesFrom]; omega)]
    exact trueRangesFrom_rtake (by omega) _ _
  · rw [rtake_eq_self (by omega : bars.length ≤ k + 1)]

/-! ## Features -/

theorem structureOf_bareWindow (window : BarWindow) : structureOf (bareWindow window.bars) = structureOf window := rfl

theorem readsLast_structureOf : ReadsLast 48 fun bars => structureOf (bareWindow bars) := by
  intro bars
  unfold structureOf bareWindow
  dsimp only
  rw [rtake_rtake, Nat.min_self]

theorem readsLast_returnOf : ReadsLast 2 fun bars => returnOf (bareWindow bars) := by
  intro bars
  have hreverse : (bars.rtake 2).reverse = bars.reverse.take 2 := by
    rw [List.rtake_eq_reverse_take_reverse, List.reverse_reverse]
  unfold returnOf bareWindow
  dsimp only
  rw [hreverse]
  match bars.reverse with
  | [] => rfl
  | [last] => rfl
  | last :: previous :: rest => rfl

theorem readsLast_volumeOf : ReadsLast 20 fun bars => volumeOf (bareWindow bars) := by
  intro bars
  have hlast := (readsLast_getLast?.mono (by omega : 1 ≤ 20)) bars
  unfold volumeOf bareWindow
  dsimp only
  rw [← hlast, rtake_rtake, Nat.min_self]

theorem readsLast_volatilityOf : ReadsLast 20 fun bars => volatilityOf (bareWindow bars) := by
  intro bars
  cases bars with
  | nil => rfl
  | cons bar rest =>
    obtain ⟨bar', rest', hwindow⟩ : ∃ bar' rest', (bar :: rest).rtake 20 = bar' :: rest' := by
      refine List.exists_cons_of_ne_nil fun hnil => ?_
      have hlength := length_rtake 20 (bar :: rest)
      rw [hnil, List.length_nil, List.length_cons] at hlength
      omega
    have hread : ∀ {k}, k ≤ 20 → (bar' :: rest').rtake k = (bar :: rest).rtake k := by
      intro k hk
      rw [← hwindow, rtake_rtake, Nat.min_eq_left hk]
    unfold volatilityOf bareWindow
    dsimp only
    rw [hwindow]
    simp only [hread (by omega : 15 ≤ 20), hread (le_refl 20), hwindow]

theorem readsLast_scoresOfRanges : ReadsLast 20 scoresOfRanges := by
  intro ranges
  have hlength : (ranges.rtake 20).length < 10 ↔ ranges.length < 10 := by
    rw [length_rtake]
    omega
  have hlast := (readsLast_getLast?.mono (by omega : 1 ≤ 20)) ranges
  unfold scoresOfRanges
  simp only [hlength, ← hlast, rtake_rtake, rdrop_rtake 5 15 ranges, Nat.min_self, (by decide : min 5 20 = 5)]

theorem readsLast_volatilityScores : ReadsLast 21 fun bars => volatilityScores (bareWindow bars) := by
  intro bars
  change scoresOfRanges (trueRanges bars) = scoresOfRanges (trueRanges (bars.rtake 21))
  rw [readsLast_scoresOfRanges (trueRanges bars), readsLast_scoresOfRanges (trueRanges (bars.rtake 21))]
  exact congrArg scoresOfRanges (readsLast_trueRanges 20 bars)

end TradingPlatform
