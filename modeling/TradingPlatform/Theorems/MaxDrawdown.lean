import Mathlib.Tactic.IntervalCases
import TradingPlatform.Lib.Drawdown
import TradingPlatform.Engine.ReplayWindows
import TradingPlatform.Engine.ValidationMetrics

/-!
# The drawdown is the deepest fall

The pass over the profits ends with the deepest of all falls of the running equity. The two loops differ in the order of their
guards only, and agree on every list.
-/

namespace TradingPlatform

open Drawdown

namespace MaxDrawdownAux

variable {s : DrawdownLoop} {pnl initialEquity : ℚ} {pnls : List ℚ}

/-! ## One step -/

/-- Both conditional updates are maxima. -/
theorem next_eq (s : DrawdownLoop) (pnl : ℚ) :
    s.next pnl =
      { equity := s.equity + pnl, peak := max s.peak (s.equity + pnl),
        maxDrawdown := max s.maxDrawdown (if max s.peak (s.equity + pnl) > 0 then
          fall (max s.peak (s.equity + pnl)) (s.equity + pnl) else 0) } := by
  simp only [DrawdownLoop.next, fall, max_def_lt, gt_iff_lt]

/-- A peak that is positive stays positive. -/
theorem peak_next (h : 0 < s.peak) : 0 < (s.next pnl).peak := by
  rw [next_eq]
  exact lt_max_of_lt_left h

theorem maxDrawdown_next (s : DrawdownLoop) (pnl : ℚ) : s.maxDrawdown ≤ (s.next pnl).maxDrawdown := by
  rw [next_eq]
  exact le_max_left _ _

/-- From a positive peak the two loops take the same step. -/
theorem nextReturn_eq (h : 0 < s.peak) (pnl : ℚ) : s.nextReturn pnl = s.next pnl := by
  have hpeak : max s.peak (s.equity + pnl) > 0 := lt_max_of_lt_left h
  rw [next_eq, if_pos hpeak]
  unfold DrawdownLoop.nextReturn fall
  dsimp only
  rw [if_pos hpeak]

/-! ## The pass -/

theorem foldl_nextReturn (h : 0 < s.peak) (pnls : List ℚ) :
    pnls.foldl DrawdownLoop.nextReturn s = pnls.foldl DrawdownLoop.next s := by
  induction pnls generalizing s with
  | nil => rfl
  | cons pnl pnls ih =>
    rw [List.foldl_cons, List.foldl_cons, nextReturn_eq h]
    exact ih (peak_next h)

theorem maxDrawdown_foldl (s : DrawdownLoop) (pnls : List ℚ) :
    s.maxDrawdown ≤ (pnls.foldl DrawdownLoop.next s).maxDrawdown := by
  induction pnls generalizing s with
  | nil => exact le_rfl
  | cons pnl pnls ih => exact (maxDrawdown_next s pnl).trans (ih _)

theorem equityAfter_succ {n : ℕ} (hn : n < pnls.length) :
    equityAfter initialEquity pnls (n + 1) = equityAfter initialEquity pnls n + pnls[n] := by
  unfold equityAfter
  rw [List.take_succ_eq_append_getElem hn, List.sum_append, List.sum_singleton, add_assoc]

/-- What the loop holds after the first profits. -/
structure Tracks (e : ℕ → ℚ) (n : ℕ) (s : DrawdownLoop) : Prop where
  equity : s.equity = e n
  peak : IsGreatest (values e n) s.peak
  maxDrawdown : IsGreatest (falls e n) s.maxDrawdown

theorem Tracks.start (h : 0 < initialEquity) : Tracks (equityAfter initialEquity pnls) 0 (.start initialEquity) := by
  have hzero : equityAfter initialEquity pnls 0 = initialEquity := by simp [equityAfter]
  have hpeak := isGreatest_values_zero (equityAfter initialEquity pnls)
  have hfalls := isGreatest_falls_zero (e := equityAfter initialEquity pnls) (by rwa [hzero])
  rw [hzero] at hpeak
  exact ⟨hzero.symm, hpeak, hfalls⟩

theorem Tracks.next {e : ℕ → ℚ} {n : ℕ} (h : Tracks e n s) (hstep : e (n + 1) = e n + pnl) (hstart : 0 < e 0)
    (hlast : 0 ≤ e (n + 1)) : Tracks e (n + 1) (s.next pnl) := by
  have hequity : s.equity + pnl = e (n + 1) := by rw [h.equity, hstep]
  have hpeak := isGreatest_values_succ h.peak
  -- the peak is at least the initial equity
  have hpos : 0 < max s.peak (e (n + 1)) := hstart.trans_le (hpeak.2 ⟨0, Nat.zero_le _, rfl⟩)
  rw [next_eq, hequity, if_pos hpos]
  exact ⟨rfl, hpeak, isGreatest_falls_succ h.maxDrawdown hpeak hpos hlast⟩

/-- The pass over the first profits tracks them. -/
theorem tracks_take (hinitial : 0 < initialEquity) (hequity : ∀ i ≤ pnls.length, 0 ≤ equityAfter initialEquity pnls i) {n : ℕ}
    (hn : n ≤ pnls.length) :
    Tracks (equityAfter initialEquity pnls) n ((pnls.take n).foldl DrawdownLoop.next (.start initialEquity)) := by
  induction n with
  | zero => exact .start hinitial
  | succ n ih =>
    have hlt : n < pnls.length := hn
    rw [List.take_succ_eq_append_getElem hlt, List.foldl_append]
    have hstart : 0 < equityAfter initialEquity pnls 0 := by simpa [equityAfter] using hinitial
    exact (ih hlt.le).next (equityAfter_succ hlt) hstart (hequity (n + 1) hn)

theorem maxDrawdownFromPnls_eq (hinitial : 0 < initialEquity) (pnls : List ℚ) :
    ValidationMetrics.maxDrawdownFromPnls pnls initialEquity = .ok (pnls.foldl DrawdownLoop.next (.start initialEquity)).maxDrawdown :=
  if_neg (not_le.mpr hinitial)

end MaxDrawdownAux

open MaxDrawdownAux

/-- The drawdown of profits that never take the equity below zero is the deepest fall of the running equity. It lies between
nothing and all, further profits never lower it, and the replay computes it too, for an initial equity of one. -/
theorem maxDrawdown_deepestFall (pnls : List ℚ) :
    (∀ initialEquity, 0 < initialEquity → (∀ i ≤ pnls.length, 0 ≤ equityAfter initialEquity pnls i) →
      ∃ m, ValidationMetrics.maxDrawdownFromPnls pnls initialEquity = .ok m ∧
        IsGreatest (falls (equityAfter initialEquity pnls) pnls.length) m ∧ 0 ≤ m ∧ m ≤ 1 ∧
        ∀ more, ∃ m', ValidationMetrics.maxDrawdownFromPnls (pnls ++ more) initialEquity = .ok m' ∧ m ≤ m') ∧
    ValidationMetrics.maxDrawdownFromPnls pnls 1 = .ok (replayDrawdown pnls) := by
  constructor
  · intro initialEquity hinitial hequity
    have htracks := tracks_take hinitial hequity le_rfl
    rw [List.take_length] at htracks
    have hstart : 0 < equityAfter initialEquity pnls 0 := by simpa [equityAfter] using hinitial
    obtain ⟨hnonneg, hone⟩ := isGreatest_falls_bounds htracks.maxDrawdown hstart hequity
    refine ⟨_, maxDrawdownFromPnls_eq hinitial pnls, htracks.maxDrawdown, hnonneg, hone, fun more => ?_⟩
    refine ⟨_, maxDrawdownFromPnls_eq hinitial (pnls ++ more), ?_⟩
    rw [List.foldl_append]
    exact maxDrawdown_foldl _ more
  · have hpeak : 0 < (DrawdownLoop.start 1).peak := one_pos
    rw [maxDrawdownFromPnls_eq one_pos]
    unfold replayDrawdown
    rw [foldl_nextReturn hpeak]

/-- A gain, a loss of half of the peak and a recovery. -/
theorem maxDrawdown_deepestFall_half :
    ∃ m, ValidationMetrics.maxDrawdownFromPnls [100, -100, 50] 100 = .ok m ∧ IsGreatest (falls (equityAfter 100 [100, -100, 50]) 3) m := by
  have hequity : ∀ i ≤ [(100 : ℚ), -100, 50].length, 0 ≤ equityAfter 100 [100, -100, 50] i := by
    intro i hi
    change i ≤ 3 at hi
    interval_cases i <;> norm_num [equityAfter]
  obtain ⟨m, hm, hfalls, -⟩ := (maxDrawdown_deepestFall [100, -100, 50]).1 100 (by norm_num) hequity
  exact ⟨m, hm, hfalls⟩

end TradingPlatform
