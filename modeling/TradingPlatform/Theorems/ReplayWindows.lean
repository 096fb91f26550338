import Mathlib.Algebra.Group.Action.Defs
import TradingPlatform.Engine.ReplayWindows
import TradingPlatform.Lib.Budget

/-!
# Validation windows and the trades on their edges

Both ends belong to a period, so a trade that closes at the split or at an inner edge of the walk-forward windows is counted on
either side. Every other trade is counted once.
-/

namespace TradingPlatform

/-- Parts that count every trade of a whole once, so that they add up to it. -/
structure Partitions (whole : ReplayMetrics) (parts : List ReplayMetrics) : Prop where
  once : ∀ t ∈ whole.trades, parts.countP (fun m => decide (t ∈ m.trades)) = 1
  totalTrades : (parts.map (·.totalTrades)).sum = whole.totalTrades
  netReturn : (parts.map (·.netReturn)).sum = whole.netReturn

/-- An instant belongs to a period. -/
def covers (period : ℤ × ℤ) (t : ℤ) : Bool := decide (period.1 ≤ t) && decide (t ≤ period.2)

/-- The float sum of the net returns of any of the trades is exact. -/
def ValidationService.SumsExactly (svc : ValidationService) (trades : List ReplayTrade) : Prop :=
  ∀ l : List ReplayTrade, l.Subperm trades → svc.floatSum (l.map (·.netReturn)) = (l.map (·.netReturn)).sum

namespace ReplayWindowsAux

variable {svc : ValidationService} {r : ReplayMetrics} {startAt endAt : ℤ} {t : ReplayTrade}

/-! ### The metrics of a period -/

theorem mem_trades (svc : ValidationService) (r : ReplayMetrics) (period : ℤ × ℤ) (t : ReplayTrade) :
    t ∈ (svc.metricsForPeriod r period.1 period.2).trades ↔ t ∈ r.trades ∧ covers period t.closedAt = true := by
  simp [ValidationService.metricsForPeriod, ValidationService.metrics, List.mem_insertionSort, covers]

theorem totalTrades_eq (svc : ValidationService) (r : ReplayMetrics) (period : ℤ × ℤ) :
    (svc.metricsForPeriod r period.1 period.2).totalTrades =
      ((r.trades.filter fun t => covers period t.closedAt).map fun _ => 1).sum := by
  simp [ValidationService.metricsForPeriod, ValidationService.metrics, List.length_insertionSort, covers]

theorem netReturn_eq {svc : ValidationService} {r : ReplayMetrics} (hexact : svc.SumsExactly r.trades) (period : ℤ × ℤ) :
    (svc.metricsForPeriod r period.1 period.2).netReturn =
      ((r.trades.filter fun t => covers period t.closedAt).map (·.netReturn)).sum := by
  have hperm := List.perm_insertionSort ReplayTrade.closesBefore (r.trades.filter fun t => covers period t.closedAt)
  exact (hexact _ (hperm.subperm.trans List.filter_sublist.subperm)).trans (hperm.map _).sum_eq

/-- Numbers that are nowhere above others of the same sum are the same. -/
theorem eq_of_sum_eq {α : Type} {f g : α → ℕ} {l : List α} (hle : ∀ x ∈ l, g x ≤ f x) (hsum : (l.map f).sum = (l.map g).sum) :
    ∀ x ∈ l, f x = g x := by
  induction l with
  | nil => exact fun x hx => absurd hx List.not_mem_nil
  | cons x l ih =>
    rw [List.forall_mem_cons] at hle
    rw [List.map_cons, List.map_cons, List.sum_cons, List.sum_cons] at hsum
    have hrest : (l.map g).sum ≤ (l.map f).sum := List.sum_le_sum hle.2
    have hx := hle.1
    rw [List.forall_mem_cons]
    exact ⟨by omega, ih hle.2 (by omega)⟩

/-- Periods partition the trades of a whole exactly when each trade lies in as many of them as of the whole. -/
theorem partitions_iff {svc : ValidationService} {r : ReplayMetrics} (hexact : svc.SumsExactly r.trades) (startAt endAt : ℤ)
    (periods : List (ℤ × ℤ)) :
    Partitions (svc.metricsForPeriod r startAt endAt) (periods.map fun p => svc.metricsForPeriod r p.1 p.2) ↔
      ∀ t ∈ r.trades, periods.countP (fun p => covers p t.closedAt) = if covers (startAt, endAt) t.closedAt then 1 else 0 := by
  -- how often a trade is counted is how many periods it lies in
  have hcount : ∀ t ∈ r.trades, (periods.map fun p => svc.metricsForPeriod r p.1 p.2).countP (fun m => decide (t ∈ m.trades)) =
      periods.countP fun p => covers p t.closedAt := by
    intro t ht
    rw [List.countP_map]
    refine List.countP_congr fun p _ => ?_
    simp [mem_trades, ht]
  have htotal : ((periods.map fun p => svc.metricsForPeriod r p.1 p.2).map (·.totalTrades)).sum =
      (r.trades.map fun t => periods.countP (fun p => covers p t.closedAt) • 1).sum := by
    have hsum := Budget.sum_selected (fun _ : ReplayTrade => (1 : ℕ)) (periods.map fun p t => covers p t.closedAt) r.trades
    simp only [List.map_map, List.countP_map] at hsum
    simp only [List.map_map, Function.comp_def, totalTrades_eq]
    exact hsum
  have hnet : ((periods.map fun p => svc.metricsForPeriod r p.1 p.2).map (·.netReturn)).sum =
      (r.trades.map fun t => periods.countP (fun p => covers p t.closedAt) • t.netReturn).sum := by
    have hsum := Budget.sum_selected (fun t : ReplayTrade => t.netReturn) (periods.map fun p t => covers p t.closedAt) r.trades
    simp only [List.map_map, List.countP_map] at hsum
    simp only [List.map_map, Function.comp_def, netReturn_eq hexact]
    exact hsum
  have hwhole := totalTrades_eq svc r (startAt, endAt)
  rw [Budget.sum_filter] at hwhole
  constructor
  · intro h
    have honce : ∀ t ∈ r.trades, covers (startAt, endAt) t.closedAt = true → periods.countP (fun p => covers p t.closedAt) = 1 := by
      intro t ht hc
      rw [← hcount t ht]
      exact h.once t ((mem_trades svc r (startAt, endAt) t).mpr ⟨ht, hc⟩)
    have hsame := h.totalTrades
    rw [htotal, hwhole] at hsame
    simp only [smul_eq_mul, mul_one] at hsame
    refine eq_of_sum_eq (fun t ht => ?_) hsame
    split
    · rename_i hc
      rw [honce t ht hc]
    · exact Nat.zero_le _
  · intro h
    refine ⟨fun t ht => ?_, ?_, ?_⟩
    · obtain ⟨ht, hc⟩ := (mem_trades svc r (startAt, endAt) t).mp ht
      rw [hcount t ht, h t ht, if_pos hc]
    · rw [htotal, hwhole]
      exact congrArg List.sum (List.map_congr_left fun t ht => by rw [h t ht])
    · rw [hnet, netReturn_eq hexact (startAt, endAt), Budget.sum_filter]
      exact congrArg List.sum (List.map_congr_left fun t ht => by rw [h t ht])

/-! ### Edges -/

/-- Windows of one width from a start, and what lies beyond the last: an instant is met once, and once more at every edge. -/
theorem countP_windows {width x : ℤ} (hwidth : 0 ≤ width) (hx : startAt ≤ x) (m : ℕ) :
    (List.range m).countP (fun i => covers (startAt + width * (i : ℕ), startAt + width * ((i : ℕ) + 1)) x) +
        (if startAt + width * m ≤ x then 1 else 0) =
      1 + (List.range m).countP fun i => decide (x = startAt + width * ((i : ℕ) + 1)) := by
  induction m with
  | zero => simp [hx]
  | succ m ih =>
    rw [List.range_succ, List.countP_append, List.countP_append, List.countP_singleton, List.countP_singleton]
    have hedge : startAt + width * (m : ℤ) ≤ startAt + width * ((m : ℤ) + 1) := by
      rw [mul_add]
      omega
    simp only [covers, Bool.and_eq_true, decide_eq_true_eq, Nat.cast_add, Nat.cast_one] at ih ⊢
    split_ifs at ih ⊢ <;> omega

/-- The training and the out-of-sample period meet at the split only. -/
theorem countP_split {split x : ℤ} (hx : covers (startAt, endAt) x = true) :
    [(startAt, split), (split, endAt)].countP (fun p => covers p x) = 1 ↔ x ≠ split := by
  simp only [covers, Bool.and_eq_true, decide_eq_true_eq] at hx
  simp only [List.countP_cons, List.countP_nil, covers, Bool.and_eq_true, decide_eq_true_eq]
  split_ifs <;> omega

theorem windowPeriod_inner {i : ℕ} (hi : (i : ℤ) ≠ svc.walkForwardWindows - 1) :
    svc.windowPeriod startAt endAt i =
      (startAt + svc.windowWidth startAt endAt * i, startAt + svc.windowWidth startAt endAt * (i + 1)) := by
  unfold ValidationService.windowPeriod
  dsimp only
  rw [if_neg hi]

theorem windowPeriod_last {i : ℕ} (hi : (i : ℤ) = svc.walkForwardWindows - 1) :
    svc.windowPeriod startAt endAt i = (startAt + svc.windowWidth startAt endAt * i, endAt) := by
  unfold ValidationService.windowPeriod
  dsimp only
  rw [if_pos hi]

/-- The windows meet at the inner edges only. -/
theorem countP_windowPeriod {x : ℤ} (hn : 1 ≤ svc.walkForwardWindows) (hse : startAt < endAt)
    (hx : covers (startAt, endAt) x = true) :
    ((List.range svc.walkForwardWindows.toNat).map (svc.windowPeriod startAt endAt)).countP (fun p => covers p x) = 1 ↔
      ∀ i : ℕ, 1 ≤ i → (i : ℤ) < svc.walkForwardWindows → x ≠ startAt + svc.windowWidth startAt endAt * i := by
  obtain ⟨m, hm⟩ : ∃ m : ℕ, svc.walkForwardWindows = m + 1 := ⟨svc.walkForwardWindows.toNat - 1, by omega⟩
  have hwidth : 0 ≤ svc.windowWidth startAt endAt := timedeltaDiv_nonneg (by omega) (by omega)
  simp only [covers, Bool.and_eq_true, decide_eq_true_eq] at hx
  have hinner : ∀ i ∈ List.range m, covers (svc.windowPeriod startAt endAt i) x =
      covers (startAt + svc.windowWidth startAt endAt * (i : ℕ), startAt + svc.windowWidth startAt endAt * ((i : ℕ) + 1)) x := by
    intro i hi
    have hlt := List.mem_range.mp hi
    rw [windowPeriod_inner (by omega)]
  have hlast : covers (svc.windowPeriod startAt endAt m) x = decide (startAt + svc.windowWidth startAt endAt * m ≤ x) := by
    rw [windowPeriod_last (by omega)]
    simp [covers, hx.2]
  have hcount := countP_windows hwidth hx.1 m
  have htoNat : svc.walkForwardWindows.toNat = m + 1 := by omega
  rw [htoNat, List.countP_map, List.range_succ, List.countP_append, List.countP_singleton]
  simp only [Function.comp_def, hlast, decide_eq_true_eq]
  rw [List.countP_congr fun i hi => iff_of_eq (congrArg (· = true) (hinner i hi))]
  rw [hcount, Nat.add_eq_left, List.countP_eq_zero]
  constructor
  · intro h i hi hlt heq
    refine h (i - 1) (List.mem_range.mpr (by omega)) ?_
    rw [decide_eq_true_eq, heq, show ((i - 1 : ℕ) : ℤ) + 1 = i by omega]
  · intro h i hi heq
    rw [decide_eq_true_eq] at heq
    have hlt := List.mem_range.mp hi
    exact h (i + 1) (by omega) (by omega) (by rw [heq]; push_cast; rfl)

end ReplayWindowsAux

/-- Neither the split nor an inner edge of the walk-forward windows. -/
def ValidationService.OffEdges (svc : ValidationService) (startAt endAt t : ℤ) : Prop :=
  t ≠ svc.splitAt startAt endAt ∧
    ∀ i : ℕ, 1 ≤ i → (i : ℤ) < svc.walkForwardWindows → t ≠ startAt + svc.windowWidth startAt endAt * i

/-- No period and no window reaches the instant. -/
def ValidationService.Unseen (svc : ValidationService) (startAt endAt t : ℤ) : Prop :=
  ¬covers (startAt, svc.splitAt startAt endAt) t ∧ ¬covers (svc.splitAt startAt endAt, endAt) t ∧
    ∀ i : ℕ, (i : ℤ) < svc.walkForwardWindows → ¬covers (svc.windowPeriod startAt endAt i) t

/-- Training and out-of-sample, and the walk-forward windows, partition the trades of a result. -/
def ValidationService.Partitioned (svc : ValidationService) (r : ReplayMetrics) (windows : List ReplayMetrics)
    (startAt endAt : ℤ) : Prop :=
  Partitions (svc.metricsForPeriod r startAt endAt) [(svc.compareResult r startAt endAt).train, (svc.compareResult r startAt endAt).oos] ∧
    Partitions (svc.metricsForPeriod r startAt endAt) windows

namespace ReplayWindowsAux

variable {svc : ValidationService} {r : ReplayMetrics} {startAt endAt : ℤ}

/-- One result: its trades are partitioned exactly when those of the period close off the edges and no other is reached. -/
theorem partitioned_iff (hexact : svc.SumsExactly r.trades) (hn : 1 ≤ svc.walkForwardWindows) (hse : startAt < endAt) :
    svc.Partitioned r (((List.range svc.walkForwardWindows.toNat).map (svc.windowPeriod startAt endAt)).map
        fun p => svc.metricsForPeriod r p.1 p.2) startAt endAt ↔
      ∀ t ∈ r.trades, (covers (startAt, endAt) t.closedAt = true → svc.OffEdges startAt endAt t.closedAt) ∧
        (covers (startAt, endAt) t.closedAt = false → svc.Unseen startAt endAt t.closedAt) := by
  have hsplit := partitions_iff hexact startAt endAt
    [(startAt, svc.splitAt startAt endAt), (svc.splitAt startAt endAt, endAt)]
  have hwindows := partitions_iff hexact startAt endAt
    ((List.range svc.walkForwardWindows.toNat).map (svc.windowPeriod startAt endAt))
  unfold ValidationService.Partitioned
  rw [hwindows]
  refine (and_congr_left' hsplit).trans ?_
  rw [← forall₂_and]
  refine forall₂_congr fun t _ => ?_
  cases hc : covers (startAt, endAt) t.closedAt with
  | true =>
    simp only [if_true, countP_split hc, countP_windowPeriod hn hse hc, true_implies, Bool.true_eq_false, false_implies, and_true]
    rfl
  | false =>
    simp only [Bool.false_eq_true, if_false, false_implies, true_and, true_implies, List.countP_eq_zero, List.forall_mem_cons,
      List.not_mem_nil, implies_true, and_true, and_assoc]
    unfold ValidationService.Unseen
    refine and_congr_right fun _ => and_congr_right fun _ => ?_
    rw [List.forall_mem_map]
    exact forall_congr' fun i => by rw [List.mem_range]; exact imp_congr_left (by omega)

end ReplayWindowsAux

/-- A trade that closes at an instant, and the result of a replay with one. -/
def tradeClosedAt (closedAt : ℤ) : ReplayTrade :=
  OpenPosition.close { symbol := "BTC/USDT", side := .long, openedAt := 0, entryPrice := 100, stopPrice := 90, takePrice := 110,
                       feeBps := 10, slippageBps := 12, originalStop := 90 } closedAt 110 .takeprofit 1

/-- A service whose sums do not round. -/
def exactService : ValidationService := { annualizedSharpe := fun _ _ => 0, floatSum := List.sum }

def resultClosedAt (closedAt : ℤ) : ReplayMetrics :=
  exactService.metrics "breakout" [tradeClosedAt closedAt] 1 [] (some 0) (some 100) "15m"

end TradingPlatform
