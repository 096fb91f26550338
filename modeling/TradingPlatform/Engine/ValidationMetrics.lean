import Mathlib.Algebra.Order.Ring.Rat
import TradingPlatform.Domain.State

/-!
# The drawdown of a list of profits

`max_drawdown_from_pnls` of `services/validation/metrics.py` and `_drawdown` of `services/validation/proposal_replay.py`: one pass
each over the profits, with the running equity, its peak and the deepest fall from it so far.
-/

namespace TradingPlatform

/-- The variables of both loops. -/
structure DrawdownLoop where
  equity : ℚ
  peak : ℚ
  maxDrawdown : ℚ

/-- The loop before its first profit. -/
def DrawdownLoop.start (initialEquity : ℚ) : DrawdownLoop :=
  { equity := initialEquity, peak := initialEquity, maxDrawdown := 0 }

/-- The body of the loop of `max_drawdown_from_pnls`. -/
def DrawdownLoop.next (s : DrawdownLoop) (pnl : ℚ) : DrawdownLoop :=
  let equity := s.equity + pnl
  let peak := if equity > s.peak then equity else s.peak
  let drawdown := if peak > 0 then (peak - equity) / peak else 0
  { equity, peak, maxDrawdown := if drawdown > s.maxDrawdown then drawdown else s.maxDrawdown }

/-- `max_drawdown_from_pnls`. -/
def ValidationMetrics.maxDrawdownFromPnls (pnls : List ℚ) (initialEquity : ℚ) : Except PyError ℚ :=
  if initialEquity ≤ 0 then .error (.valueError "initial_equity must be positive")
  else .ok (pnls.foldl DrawdownLoop.next (.start initialEquity)).maxDrawdown

/-- The body of the loop of `_drawdown`. -/
def DrawdownLoop.nextReturn (s : DrawdownLoop) (value : ℚ) : DrawdownLoop :=
  let equity := s.equity + value
  let peak := max s.peak equity
  { equity, peak, maxDrawdown := if peak > 0 then max s.maxDrawdown ((peak - equity) / peak) else s.maxDrawdown }

/-- `_drawdown` of the proposal replay. -/
def replayDrawdown (returns : List ℚ) : ℚ := (returns.foldl DrawdownLoop.nextReturn (.start 1)).maxDrawdown

/-- The running equity after the first profits. -/
def equityAfter (initialEquity : ℚ) (pnls : List ℚ) (i : ℕ) : ℚ := initialEquity + (pnls.take i).sum

end TradingPlatform
