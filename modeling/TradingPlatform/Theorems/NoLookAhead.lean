import TradingPlatform.Engine.TechnicalReplay

/-!
# No look-ahead in the replay

At an entry bar the replay shows its pipeline the bars that have opened by the open of that bar, and the pipeline keeps those that
the wall clock has closed. A bar of a longer timeframe that has opened and not yet closed is among them.
-/

namespace TradingPlatform

/-- The bars that have opened by an instant. -/
def HistoricalMarketDataView.visible (view : HistoricalMarketDataView) (symbol timeframe : String) (cutoff : ℤ) :
    List OHLCVBar :=
  (view.bars symbol timeframe).filter (OHLCVBar.openedBy cutoff)

/-- The visible bars that have closed by an instant. -/
def HistoricalMarketDataView.finished (view : HistoricalMarketDataView) (symbol timeframe : String) (duration cutoff t : ℤ) :
    List OHLCVBar :=
  (view.visible symbol timeframe cutoff).filter (OHLCVBar.closedBy duration t)

/-- The visible bars that have not closed by an instant. -/
def HistoricalMarketDataView.unfinished (view : HistoricalMarketDataView) (symbol timeframe : String)
    (duration cutoff t : ℤ) : List OHLCVBar :=
  (view.visible symbol timeframe cutoff).filter fun bar => !bar.closedBy duration t

/-- Two views have the same bars among those closed by an instant. -/
def SameClosedBars (view view' : HistoricalMarketDataView) (t : ℤ) : Prop :=
  ∀ symbol timeframe duration, timeframeDuration timeframe = some duration →
    (view.bars symbol timeframe).filter (OHLCVBar.closedBy duration t) =
      (view'.bars symbol timeframe).filter (OHLCVBar.closedBy duration t)

/-- Whatever the pipeline and the open position, the replays of two views decide alike at an entry bar; the wall clock shows
`now` in the one and `now'` in the other. -/
def SameEntryDecisions {Position Trade : Type} (rules : ReplayRules Position Trade) (view view' : HistoricalMarketDataView)
    (symbol entryTimeframe : String) (bar : OHLCVBar) (now now' : ℤ) : Prop :=
  ∀ pipeline position, rules.entryDecision view pipeline symbol entryTimeframe now position bar =
    rules.entryDecision view' pipeline symbol entryTimeframe now' position bar

/-- Of one symbol and timeframe, the bars that are open at an entry bar and close after `t` are not told apart. -/
structure UnfinishedAlike (view view' : HistoricalMarketDataView) (symbol timeframe : String) (duration cutoff t now now' : ℤ) :
    Prop where
  /-- The wall clocks have closed the same of the bars closed by `t`. -/
  clock : (view.finished symbol timeframe duration cutoff t).filter (OHLCVBar.closedBy duration now) =
    (view.finished symbol timeframe duration cutoff t).filter (OHLCVBar.closedBy duration now')
  /-- The unfinished bars that the wall clocks have closed are the same. -/
  bars : (view.unfinished symbol timeframe duration cutoff t).filter (OHLCVBar.closedBy duration now) =
    (view'.unfinished symbol timeframe duration cutoff t).filter (OHLCVBar.closedBy duration now')
  /-- There are equally many unfinished bars, unless nothing is read. -/
  number : view.finished symbol timeframe duration cutoff now ≠ [] →
    (view.unfinished symbol timeframe duration cutoff t).length = (view'.unfinished symbol timeframe duration cutoff t).length

/-- No bar that is open at an entry bar and closes after `t` is told apart. -/
def AllUnfinishedAlike (view view' : HistoricalMarketDataView) (cutoff t now now' : ℤ) : Prop :=
  ∀ symbol timeframe duration, timeframeDuration timeframe = some duration →
    UnfinishedAlike view view' symbol timeframe duration cutoff t now now'

namespace NoLookAheadAux

variable {view view' : HistoricalMarketDataView} {symbol timeframe : String} {duration cutoff t now now' : ℤ}

theorem openedBy_cuts (view : HistoricalMarketDataView) (symbol timeframe : String) (instant : ℤ) :
    Prefix.Cuts (OHLCVBar.openedBy instant) (view.bars symbol timeframe) := by
  refine (view.sorted symbol timeframe).imp fun {a b} hab hb => ?_
  simp only [OHLCVBar.openedBy, decide_eq_true_eq] at hb ⊢
  omega

theorem closedBy_cuts (view : HistoricalMarketDataView) (symbol timeframe : String) (duration instant : ℤ) :
    Prefix.Cuts (OHLCVBar.closedBy duration instant) (view.bars symbol timeframe) := by
  refine (view.sorted symbol timeframe).imp fun {a b} hab hb => ?_
  simp only [OHLCVBar.closedBy, decide_eq_true_eq] at hb ⊢
  omega

theorem visible_cuts (view : HistoricalMarketDataView) (symbol timeframe : String) (cutoff duration instant : ℤ) :
    Prefix.Cuts (OHLCVBar.closedBy duration instant) (view.visible symbol timeframe cutoff) :=
  (closedBy_cuts view symbol timeframe duration instant).filter _

/-- `bisect_right` finds the end of the visible bars. -/
theorem take_bisectRight (view : HistoricalMarketDataView) (symbol timeframe : String) (cutoff : ℤ) :
    (view.bars symbol timeframe).take (bisectRight ((view.bars symbol timeframe).map OHLCVBar.timestamp) cutoff) =
      view.visible symbol timeframe cutoff := by
  have hcount : bisectRight ((view.bars symbol timeframe).map OHLCVBar.timestamp) cutoff =
      ((view.bars symbol timeframe).takeWhile (OHLCVBar.openedBy cutoff)).length := by
    rw [bisectRight, List.takeWhile_map, List.length_map]
    rfl
  rw [hcount, ← List.prefix_iff_eq_take.mp (List.takeWhile_prefix _), (openedBy_cuts view symbol timeframe cutoff).takeWhile_eq]
  rfl

theorem listOhlcvBars_setCutoff (view : HistoricalMarketDataView) (symbol timeframe : String) (cutoff : ℤ) (limit : Option ℤ) :
    (view.setCutoff cutoff).listOhlcvBars symbol timeframe limit = match limit with
      | some limit => sliceFrom (view.visible symbol timeframe cutoff) (-limit)
      | none => view.visible symbol timeframe cutoff := by
  rw [← take_bisectRight]
  rfl

/-- What a pipeline reads at an entry bar. -/
theorem reads_eq (hduration : timeframeDuration timeframe = some duration) (limit : Option ℤ) :
    (view.setCutoff cutoff).reads now symbol timeframe limit = .ok ((match limit with
      | some limit => sliceFrom (view.visible symbol timeframe cutoff) (-limit)
      | none => view.visible symbol timeframe cutoff).filter (OHLCVBar.closedBy duration now)) := by
  rw [HistoricalMarketDataView.reads, closedBarsForDecision, hduration, listOhlcvBars_setCutoff]

/-- The bars of a timeframe are read alike, at every limit, exactly if those that the wall clocks have closed are the same, and
equally many are visible unless nothing is read. -/
theorem reads_alike_iff (hduration : timeframeDuration timeframe = some duration) :
    (∀ limit, (view.setCutoff cutoff).reads now symbol timeframe limit =
        (view'.setCutoff cutoff).reads now' symbol timeframe limit) ↔
      view.finished symbol timeframe duration cutoff now = view'.finished symbol timeframe duration cutoff now' ∧
        (view.finished symbol timeframe duration cutoff now ≠ [] →
          (view.visible symbol timeframe cutoff).length = (view'.visible symbol timeframe cutoff).length) := by
  have hcuts := visible_cuts view symbol timeframe cutoff duration now
  have hcuts' := visible_cuts view' symbol timeframe cutoff duration now'
  simp only [reads_eq hduration, Except.ok.injEq]
  have hlasts := Prefix.lasts_alike_iff hcuts hcuts'
  have hlast : ∀ (bars : List OHLCVBar) (k : ℕ), 0 < k → sliceFrom bars (-(k : ℤ)) = bars.drop (bars.length - k) := by
    intro bars k hk
    have hnegative : -(k : ℤ) < 0 := by omega
    have hplace : ((bars.length : ℤ) + -(k : ℤ)).toNat = bars.length - k := by omega
    rw [sliceFrom, if_pos hnegative, hplace]
  constructor
  · intro hreads
    refine hlasts.mp fun k => ?_
    rcases Nat.eq_zero_or_pos k with rfl | hk
    · simp
    · have hk' := hreads (some k)
      simp only [hlast _ k hk] at hk'
      exact hk'
  · intro hboth limit
    cases limit with
    | none => exact hboth.1
    | some limit =>
      by_cases hpos : 0 < limit
      · obtain ⟨k, rfl⟩ := Int.eq_ofNat_of_zero_le (le_of_lt hpos)
        have hk : 0 < k := by omega
        simp only [hlast _ k hk]
        exact hlasts.mpr hboth k
      · have hstart : ¬ -limit < 0 := by omega
        simp only [sliceFrom, if_neg hstart, hcuts.filter_drop, hcuts'.filter_drop]
        exact congrArg (List.drop (-limit).toNat) hboth.1

/-! ## What is shared, and what is not -/

theorem finished_same (hsame : SameClosedBars view view' t) (hduration : timeframeDuration timeframe = some duration)
    (symbol : String) (cutoff : ℤ) :
    view.finished symbol timeframe duration cutoff t = view'.finished symbol timeframe duration cutoff t := by
  unfold HistoricalMarketDataView.finished HistoricalMarketDataView.visible
  rw [List.filter_comm, hsame symbol timeframe duration hduration, List.filter_comm]

/-- The visible bars are those closed by an instant and the unfinished ones. -/
theorem finished_append_unfinished (view : HistoricalMarketDataView) (symbol timeframe : String) (duration cutoff t : ℤ) :
    view.finished symbol timeframe duration cutoff t ++ view.unfinished symbol timeframe duration cutoff t =
      view.visible symbol timeframe cutoff :=
  (visible_cuts view symbol timeframe cutoff duration t).filter_append

/-- The bars that are read are the same exactly if those of the bars closed by `t` are, and those of the unfinished ones. -/
theorem finished_now_iff (hshared : view.finished symbol timeframe duration cutoff t =
      view'.finished symbol timeframe duration cutoff t) :
    view.finished symbol timeframe duration cutoff now = view'.finished symbol timeframe duration cutoff now' ↔
      (view.finished symbol timeframe duration cutoff t).filter (OHLCVBar.closedBy duration now) =
          (view.finished symbol timeframe duration cutoff t).filter (OHLCVBar.closedBy duration now') ∧
        (view.unfinished symbol timeframe duration cutoff t).filter (OHLCVBar.closedBy duration now) =
          (view'.unfinished symbol timeframe duration cutoff t).filter (OHLCVBar.closedBy duration now') := by
  constructor
  · intro hread
    have hfinished := congrArg (List.filter (OHLCVBar.closedBy duration t)) hread
    have hunfinished := congrArg (List.filter fun bar => !OHLCVBar.closedBy duration t bar) hread
    simp only [HistoricalMarketDataView.finished, HistoricalMarketDataView.unfinished] at hfinished hunfinished hshared ⊢
    rw [List.filter_comm (OHLCVBar.closedBy duration t), List.filter_comm (OHLCVBar.closedBy duration t), ← hshared] at hfinished
    rw [List.filter_comm _ (OHLCVBar.closedBy duration now), List.filter_comm _ (OHLCVBar.closedBy duration now')] at hunfinished
    exact ⟨hfinished, hunfinished⟩
  · rintro ⟨hfinished, hunfinished⟩
    have hread : ∀ (v : HistoricalMarketDataView) (n : ℤ), v.finished symbol timeframe duration cutoff n =
        (v.finished symbol timeframe duration cutoff t).filter (OHLCVBar.closedBy duration n) ++
          (v.unfinished symbol timeframe duration cutoff t).filter (OHLCVBar.closedBy duration n) := by
      intro v n
      rw [← List.filter_append, finished_append_unfinished]
      rfl
    rw [hread view now, hread view' now', hfinished, hunfinished, hshared]

theorem visible_length_iff (hshared : view.finished symbol timeframe duration cutoff t =
      view'.finished symbol timeframe duration cutoff t) :
    (view.visible symbol timeframe cutoff).length = (view'.visible symbol timeframe cutoff).length ↔
      (view.unfinished symbol timeframe duration cutoff t).length =
        (view'.unfinished symbol timeframe duration cutoff t).length := by
  rw [← finished_append_unfinished view symbol timeframe duration cutoff t,
    ← finished_append_unfinished view' symbol timeframe duration cutoff t, List.length_append, List.length_append, hshared]
  omega

/-- Where two views share what has closed, everything is read alike exactly if the unfinished bars are alike. -/
theorem allReads_alike_iff (hsame : SameClosedBars view view' t) :
    (view.setCutoff cutoff).reads now = (view'.setCutoff cutoff).reads now' ↔
      AllUnfinishedAlike view view' cutoff t now now' := by
  constructor
  · intro hreads symbol timeframe duration hduration
    have hshared := finished_same hsame hduration symbol cutoff
    have hlimits : ∀ limit, (view.setCutoff cutoff).reads now symbol timeframe limit =
        (view'.setCutoff cutoff).reads now' symbol timeframe limit :=
      fun limit => congrFun (congrFun (congrFun hreads symbol) timeframe) limit
    obtain ⟨hread, hnumber⟩ := (reads_alike_iff hduration).mp hlimits
    obtain ⟨hclock, hbars⟩ := (finished_now_iff hshared).mp hread
    exact ⟨hclock, hbars, fun hsome => (visible_length_iff hshared).mp (hnumber hsome)⟩
  · intro halike
    funext symbol timeframe limit
    cases hduration : timeframeDuration timeframe with
    | none => simp only [HistoricalMarketDataView.reads, closedBarsForDecision, hduration]
    | some duration =>
      have hshared := finished_same hsame hduration symbol cutoff
      obtain ⟨hclock, hbars, hnumber⟩ := halike symbol timeframe duration hduration
      exact (reads_alike_iff hduration).mpr ⟨(finished_now_iff hshared).mpr ⟨hclock, hbars⟩,
        fun hsome => (visible_length_iff hshared).mpr (hnumber hsome)⟩ limit

end NoLookAheadAux

open NoLookAheadAux

/-- Where two sets of market data have the same bars closed by `t`, the replay decides alike at an entry bar, whatever the pipeline
and the open position, exactly if the bars that are open at that entry bar and close after `t` are not told apart. -/
theorem noLookAhead_iff {Position Trade : Type} (rules : ReplayRules Position Trade) (data data' : MarketData)
    (symbol entryTimeframe : String) (bar : OHLCVBar) (t now now' : ℤ)
    (hsame : SameClosedBars (.ofMarketData data) (.ofMarketData data') t) :
    SameEntryDecisions rules (.ofMarketData data) (.ofMarketData data') symbol entryTimeframe bar now now' ↔
      AllUnfinishedAlike (.ofMarketData data) (.ofMarketData data') bar.timestamp t now now' := by
  rw [← allReads_alike_iff hsame]
  constructor
  · intro hdecisions
    by_contra hne
    -- a pipeline that trades on what the one replay reads
    have htold := hdecisions (fun _ _ reads => .ok
      { direction := some .long, atr := none,
        shouldTrade := @decide (reads = ((HistoricalMarketDataView.ofMarketData data).setCutoff bar.timestamp).reads now)
          (Classical.propDecidable _) }) none
    simp [ReplayRules.entryDecision, ReplayRules.advance, evaluateAt, bind, Except.bind, pure, Except.pure, Ne.symm hne] at htold
  · intro hreads pipeline position
    simp only [ReplayRules.entryDecision, evaluateAt, hreads]

/-! ## Whole replays -/

section

variable {Position Trade : Type} (rules : ReplayRules Position Trade)

end

/-! ## A bar that is still open -/

/-- Market data of one symbol: an entry bar of one hour, and the bar of four hours that opens with it and closes at a price. -/
def openingBars (close : ℚ) : MarketData := fun symbol timeframe =>
  if symbol ≠ "ETH/USDT" then []
  else if timeframe = "1h" then [⟨0, 100, 101, 99, 100, 1⟩]
  else if timeframe = "4h" then [⟨0, 100, 120, 80, close, 1⟩]
  else []

/-- A pipeline that goes long if the last bar of four hours has gained. -/
def trendPipeline : Pipeline := fun symbol _ reads => do
  let bars ← reads symbol "4h" (some 240)
  return { direction := some .long, shouldTrade := bars.getLast?.any fun bar => decide (bar.openPrice < bar.close),
           atr := none }

/-- A replay that opens nothing. -/
def signalRules : ReplayRules Unit Unit where
  advanceOpenPosition _ _ := ([], none)
  openPosition _ _ := .ok none
  closeAtEnd _ _ := []

/-- What two of these sets of market data have in common they have but in the bar of four hours. -/
theorem openingBars_cases {P : String → String → List OHLCVBar → List OHLCVBar → Prop} (close close' : ℚ)
    (hnone : ∀ symbol timeframe, P symbol timeframe [] [])
    (hhour : P "ETH/USDT" "1h" [⟨0, 100, 101, 99, 100, 1⟩] [⟨0, 100, 101, 99, 100, 1⟩])
    (hlong : P "ETH/USDT" "4h" [⟨0, 100, 120, 80, close, 1⟩] [⟨0, 100, 120, 80, close', 1⟩]) (symbol timeframe : String) :
    P symbol timeframe ((HistoricalMarketDataView.ofMarketData (openingBars close)).bars symbol timeframe)
      ((HistoricalMarketDataView.ofMarketData (openingBars close')).bars symbol timeframe) := by
  simp only [HistoricalMarketDataView.ofMarketData, openingBars]
  by_cases hsymbol : symbol ≠ "ETH/USDT"
  · rw [if_pos hsymbol, if_pos hsymbol]
    exact hnone symbol timeframe
  · rw [if_neg hsymbol, if_neg hsymbol, not_not.mp hsymbol]
    by_cases htimeframe : timeframe = "1h"
    · rw [if_pos htimeframe, if_pos htimeframe, htimeframe]
      exact hhour
    · rw [if_neg htimeframe, if_neg htimeframe]
      by_cases htimeframe : timeframe = "4h"
      · rw [if_pos htimeframe, if_pos htimeframe, htimeframe]
        exact hlong
      · rw [if_neg htimeframe, if_neg htimeframe]
        exact hnone "ETH/USDT" timeframe

/-- After an hour the bar of four hours has three to go. -/
theorem openingBars_same (close close' : ℚ) :
    SameClosedBars (.ofMarketData (openingBars close)) (.ofMarketData (openingBars close')) 3600000000 := by
  intro symbol timeframe
  refine openingBars_cases (P := fun _ timeframe bars bars' => ∀ duration, timeframeDuration timeframe = some duration →
    bars.filter (OHLCVBar.closedBy duration 3600000000) = bars'.filter (OHLCVBar.closedBy duration 3600000000)) close close'
    (fun _ _ _ _ => rfl) (fun _ _ => rfl) (fun duration hduration => ?_) symbol timeframe
  obtain rfl : duration = 14400000000 := (Option.some.inj hduration).symm
  rfl

/-- Decided as the entry bar closes, the bar of four hours is not seen. -/
theorem openBar_unseen : SameEntryDecisions signalRules (.ofMarketData (openingBars 110)) (.ofMarketData (openingBars 90))
    "ETH/USDT" "1h" ⟨0, 100, 101, 99, 100, 1⟩ 3600000000 3600000000 := by
  refine (noLookAhead_iff signalRules (openingBars 110) (openingBars 90) "ETH/USDT" "1h" ⟨0, 100, 101, 99, 100, 1⟩ 3600000000
    3600000000 3600000000 (openingBars_same 110 90)).mpr fun symbol timeframe duration hduration => ⟨rfl, ?_, fun _ => ?_⟩
  · simp only [HistoricalMarketDataView.unfinished, HistoricalMarketDataView.visible]
    refine openingBars_cases (P := fun _ timeframe bars bars' => timeframeDuration timeframe = some duration →
      ((bars.filter (OHLCVBar.openedBy 0)).filter fun bar => !bar.closedBy duration 3600000000).filter
          (OHLCVBar.closedBy duration 3600000000) =
        ((bars'.filter (OHLCVBar.openedBy 0)).filter fun bar => !bar.closedBy duration 3600000000).filter
          (OHLCVBar.closedBy duration 3600000000)) 110 90 (fun _ _ _ => rfl) (fun _ => rfl) (fun hlong => ?_) symbol timeframe
      hduration
    obtain rfl : duration = 14400000000 := (Option.some.inj hlong).symm
    rfl
  · simp only [HistoricalMarketDataView.unfinished, HistoricalMarketDataView.visible]
    refine openingBars_cases (P := fun _ _ bars bars' =>
      ((bars.filter (OHLCVBar.openedBy 0)).filter fun bar => !bar.closedBy duration 3600000000).length =
        ((bars'.filter (OHLCVBar.openedBy 0)).filter fun bar => !bar.closedBy duration 3600000000).length) 110 90
      (fun _ _ => rfl) rfl ?_ symbol timeframe
    by_cases hclosed : duration ≤ 3600000000
    · simp [OHLCVBar.closedBy, OHLCVBar.openedBy, hclosed]
    · simp [OHLCVBar.closedBy, OHLCVBar.openedBy, hclosed]

/-- The entry bar closes after an hour. What the bar of four hours will have gained by then decides. -/
theorem openBar_decides :
    SameClosedBars (.ofMarketData (openingBars 110)) (.ofMarketData (openingBars 90)) 3600000000 ∧
      ¬ SameEntryDecisions signalRules (.ofMarketData (openingBars 110)) (.ofMarketData (openingBars 90)) "ETH/USDT" "1h"
        ⟨0, 100, 101, 99, 100, 1⟩ 1000000000000 1000000000000 := by
  refine ⟨openingBars_same 110 90, fun hdecisions => ?_⟩
  have hlong : signalRules.entryDecision (.ofMarketData (openingBars 110)) trendPipeline "ETH/USDT" "1h" 1000000000000 none
      ⟨0, 100, 101, 99, 100, 1⟩ = .ok (some { direction := .long, atr := none }) := by
    decide +kernel
  have hnone : signalRules.entryDecision (.ofMarketData (openingBars 90)) trendPipeline "ETH/USDT" "1h" 1000000000000 none
      ⟨0, 100, 101, 99, 100, 1⟩ = .ok none := by
    decide +kernel
  have hsame := hdecisions trendPipeline none
  rw [hlong, hnone] at hsame
  nomatch hsame

end TradingPlatform
