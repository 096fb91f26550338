import Mathlib.Algebra.Order.Field.Basic
import Mathlib.Tactic.Linarith
import TradingPlatform.Lemmas.MarketContext

/-!
# The facts of research and of the runtime

Both readers pass their bars to one builder, and choose them on their own: the runtime takes the latest stored bars, of which one may
still form, and no extras; the research takes bars that have closed, few of the short timeframes, and the latest funding rate. Each
decodes the stored numbers in a way of its own.
-/

namespace TradingPlatform

open Window

/-! ## The statement -/

/-- Two contexts have the same score and the same facts. -/
structure SameFacts (a b : MarketContext) : Prop where
  score : regimeScore a = regimeScore b
  structural : a.structural = b.structural
  momentum : a.momentum = b.momentum
  volume : a.volume = b.volume
  volatility : a.volatility = b.volatility
  derivatives : a.derivatives = b.derivatives
  freshness : a.freshness = b.freshness
  missingFeatures : a.missingFeatures = b.missingFeatures

/-- The stored bars that have closed at an instant. -/
def MarketHistory.closedAt (h : MarketHistory) (timeframe : ContextTimeframe) (t : ℤ) : List OHLCVBar :=
  (h.bars timeframe).filter (OHLCVBar.closedBy timeframe.delta t)

/-- The stored bars that have opened and not closed at an instant. -/
def MarketHistory.formingAt (h : MarketHistory) (timeframe : ContextTimeframe) (t : ℤ) : List OHLCVBar :=
  (h.bars timeframe).filter fun b => b.openedBy t && !b.closedBy timeframe.delta t

/-- The closed bars among the latest 80 that are stored. -/
def MarketHistory.latestClosed (h : MarketHistory) (timeframe : ContextTimeframe) (t : ℤ) : List OHLCVBar :=
  (h.closedAt timeframe t).rtake (80 - (h.formingAt timeframe t).length)

/-- The return from the first of some bars to the last, zero over a close that is not positive. -/
def openingReturn (bars : List OHLCVBar) : ℚ :=
  match bars.head?, bars.getLast? with
  | some first, some last => if first.close ≤ 0 then 0 else (last.close - first.close) / first.close
  | _, _ => 0

/-- The returns over two windows are equal, or both at least three per cent up, or both at least three per cent down. -/
def SameTrend (bars bars' : List OHLCVBar) : Prop :=
  openingReturn bars = openingReturn bars' ∨ (3 / 100 ≤ openingReturn bars ∧ 3 / 100 ≤ openingReturn bars') ∨
    (openingReturn bars ≤ -(3 / 100) ∧ openingReturn bars' ≤ -(3 / 100))

/-- Each bar opens as the one before it closes. -/
def Contiguous (timeframe : ContextTimeframe) (bars : List OHLCVBar) : Prop :=
  bars.IsChain fun a b => b.timestamp - a.timestamp = timeframe.delta

/-- The numbers of the closed bars that the runtime reads are decoded alike by both readers. -/
def DecodedAlike (runtime research : ℚ → ℚ) (stored : MarketHistory) (t : ℤ) : Prop :=
  ∀ timeframe, ∀ b ∈ stored.latestClosed timeframe t, b.decoded runtime = b.decoded research

/-- What both readers choose at an instant comes to the same: there is no funding rate yet, the trend of each timeframe does not
turn on whether its window opens at the 80th last closed bar, and there is a gap in what the one reads if there is one in what
the other does. -/
structure ReadAlike (h : MarketHistory) (r : ResearchRange) (t : ℤ) : Prop where
  unfunded : ∀ e ∈ h.extras, r.warmupStart ≤ e.timestamp → e.timestamp ≤ t → e.fundingRate = none
  trends : ∀ timeframe ∈ [ContextTimeframe.m15, .h1, .h4],
    SameTrend (h.latestClosed timeframe t) ((h.closedAt timeframe t).rtake 80)
  gaps : (∃ timeframe, ¬Contiguous timeframe (h.latestClosed timeframe t)) ↔
    ∃ timeframe, ¬Contiguous timeframe ((h.closedAt timeframe t).rtake (windowLength timeframe))

namespace SameFactsAux

/-! ## The bars that are read -/

variable {symbol : String} {h : MarketHistory} {r : ResearchRange} {timeframe : ContextTimeframe} {t : ℤ}

theorem delta_pos (timeframe : ContextTimeframe) : 0 < timeframe.delta := by
  cases timeframe <;> decide

theorem sorted_bars (h : MarketHistory) (timeframe : ContextTimeframe) : (h.bars timeframe).Pairwise OHLCVBar.opensBefore := by
  refine (h.apart timeframe).imp fun {a b} hab => ?_
  have hdelta := delta_pos timeframe
  unfold OHLCVBar.opensBefore
  omega

theorem closedBy_iff {b : OHLCVBar} {duration : ℤ} : b.closedBy duration t = true ↔ b.timestamp + duration ≤ t := decide_eq_true_iff

theorem openedBy_iff {b : OHLCVBar} : b.openedBy t = true ↔ b.timestamp ≤ t := decide_eq_true_iff

theorem closed_cuts {bars : List OHLCVBar} (hsorted : bars.Pairwise OHLCVBar.opensBefore) (duration t : ℤ) :
    Prefix.Cuts (OHLCVBar.closedBy duration t) bars := by
  refine hsorted.imp fun {a b} hab hb => ?_
  unfold OHLCVBar.opensBefore at hab
  rw [closedBy_iff] at hb ⊢
  omega

/-- The builder keeps the closed bars of a sorted list in their order. -/
theorem closedWindow_bars {bars : List OHLCVBar} (hsorted : bars.Pairwise OHLCVBar.opensBefore) :
    (closedWindow timeframe bars t).bars = bars.filter (OHLCVBar.closedBy timeframe.delta t) :=
  (hsorted.sublist List.filter_sublist).insertionSort_eq

/-- The bars that have opened are those that have closed, then those that form. -/
theorem opened_eq (h : MarketHistory) (timeframe : ContextTimeframe) (t : ℤ) :
    (h.bars timeframe).filter (OHLCVBar.openedBy t) = h.closedAt timeframe t ++ h.formingAt timeframe t := by
  have hcuts := (closed_cuts (sorted_bars h timeframe) timeframe.delta t).filter (OHLCVBar.openedBy t)
  have hclosed : ((h.bars timeframe).filter (OHLCVBar.openedBy t)).filter (OHLCVBar.closedBy timeframe.delta t) =
      h.closedAt timeframe t := by
    unfold MarketHistory.closedAt
    rw [List.filter_filter]
    refine List.filter_congr fun b _ => ?_
    have hdelta := delta_pos timeframe
    rw [Bool.eq_iff_iff, Bool.and_eq_true, closedBy_iff, openedBy_iff]
    omega
  have hforming : ((h.bars timeframe).filter (OHLCVBar.openedBy t)).filter (fun b => !b.closedBy timeframe.delta t) =
      h.formingAt timeframe t := by
    unfold MarketHistory.formingAt
    rw [List.filter_filter]
    exact List.filter_congr fun b _ => Bool.and_comm _ _
  rw [← hclosed, ← hforming]
  exact hcuts.filter_append.symm

/-- At most one bar of a timeframe forms. -/
theorem forming_length (h : MarketHistory) (timeframe : ContextTimeframe) (t : ℤ) : (h.formingAt timeframe t).length ≤ 1 := by
  have hapart : (h.formingAt timeframe t).Pairwise fun a b => a.timestamp + timeframe.delta ≤ b.timestamp :=
    (h.apart timeframe).sublist List.filter_sublist
  have hmem : ∀ b ∈ h.formingAt timeframe t, b.timestamp ≤ t ∧ t < b.timestamp + timeframe.delta := by
    intro b hb
    have htest := (List.mem_filter.mp hb).2
    rw [Bool.and_eq_true, openedBy_iff, Bool.not_eq_true', ← Bool.not_eq_true, closedBy_iff] at htest
    exact ⟨htest.1, not_le.mp htest.2⟩
  match hbars : h.formingAt timeframe t with
  | [] => exact Nat.zero_le 1
  | [b] => exact Nat.le_refl 1
  | a :: b :: rest =>
    rw [hbars] at hapart hmem
    have hab := (List.pairwise_cons.mp hapart).1 b List.mem_cons_self
    have ha := hmem a List.mem_cons_self
    have hb := hmem b (List.mem_cons_of_mem a List.mem_cons_self)
    omega

/-- The bars of the runtime. -/
theorem runtime_bars (symbol : String) (h : MarketHistory) (timeframe : ContextTimeframe) (t : ℤ) :
    ((runtimeContext symbol (h.upTo t) t).window timeframe).bars = h.latestClosed timeframe t := by
  have hsorted : ((h.upTo t).listOhlcvBars timeframe 80).Pairwise OHLCVBar.opensBefore :=
    (sorted_bars (h.upTo t) timeframe).sublist (rtake_suffix _ _).sublist
  have hlength := forming_length h timeframe t
  have hclosed : ∀ b ∈ (h.closedAt timeframe t).rtake (80 - (h.formingAt timeframe t).length),
      b.closedBy timeframe.delta t = true := by
    intro b hb
    exact (List.mem_filter.mp ((rtake_suffix _ _).sublist.mem hb)).2
  have hforming : ∀ b ∈ (h.formingAt timeframe t).rtake 80, ¬b.closedBy timeframe.delta t = true := by
    intro b hb
    have htest := (List.mem_filter.mp ((rtake_suffix _ _).sublist.mem hb)).2
    rw [Bool.and_eq_true, Bool.not_eq_true'] at htest
    exact Bool.eq_false_iff.mp htest.2
  change (closedWindow timeframe ((h.upTo t).listOhlcvBars timeframe 80) t).bars = _
  rw [closedWindow_bars hsorted]
  change (((h.bars timeframe).filter (OHLCVBar.openedBy t)).rtake 80).filter _ = _
  rw [opened_eq, rtake_append, List.filter_append, List.filter_eq_self.mpr hclosed, List.filter_eq_nil_iff.mpr hforming,
    List.append_nil]
  rfl

/-- A window of a sorted series is the last of its closed bars. -/
theorem rawWindow_eq {series : List OHLCVBar} (hsorted : series.Pairwise OHLCVBar.opensBefore) (n : ℕ) :
    rawWindow series timeframe t n = (series.filter (OHLCVBar.closedBy timeframe.delta t)).rtake n := by
  have hcount : bisectRight (series.map OHLCVBar.timestamp) (t - timeframe.delta) =
      (series.takeWhile (OHLCVBar.closedBy timeframe.delta t)).length := by
    rw [bisectRight, List.takeWhile_map, List.length_map]
    congr 2
    funext b
    have hsame : b.timestamp ≤ t - timeframe.delta ↔ b.timestamp + timeframe.delta ≤ t := by omega
    exact decide_eq_decide.mpr hsame
  unfold rawWindow
  dsimp only
  rw [hcount, ← List.prefix_iff_eq_take.mp (List.takeWhile_prefix _), (closed_cuts hsorted timeframe.delta t).takeWhile_eq]
  rfl

/-- The closed bars of the research are a suffix of the stored ones. -/
theorem loaded_suffix (hend : t ≤ r.endAt) :
    (h.loadSeries r timeframe).filter (OHLCVBar.closedBy timeframe.delta t) <:+ h.closedAt timeframe t := by
  have hdelta := delta_pos timeframe
  have hsorted : (h.closedAt timeframe t).Pairwise OHLCVBar.opensBefore := (sorted_bars h timeframe).sublist List.filter_sublist
  have hcuts : Prefix.Cuts (fun b : OHLCVBar => decide (b.timestamp < r.warmupStart)) (h.closedAt timeframe t) := by
    refine hsorted.imp fun {a b} hab hb => ?_
    unfold OHLCVBar.opensBefore at hab
    rw [decide_eq_true_iff] at hb ⊢
    omega
  have hrest : (h.loadSeries r timeframe).filter (OHLCVBar.closedBy timeframe.delta t) =
      (h.closedAt timeframe t).filter fun b => !decide (b.timestamp < r.warmupStart) := by
    unfold MarketHistory.loadSeries MarketHistory.closedAt
    rw [List.filter_filter, List.filter_filter]
    refine List.filter_congr fun b _ => ?_
    rw [Bool.eq_iff_iff, Bool.and_eq_true, Bool.and_eq_true, closedBy_iff, decide_eq_true_iff, Bool.not_eq_true', decide_eq_false_iff_not]
    omega
  rw [hrest]
  exact ⟨_, hcuts.filter_append⟩

/-- The window of the research, where it is full. -/
theorem rawWindow_loadSeries (hend : t < r.endAt)
    (hfull : windowLength timeframe ≤ (rawWindow (h.loadSeries r timeframe) timeframe t (windowLength timeframe)).length) :
    rawWindow (h.loadSeries r timeframe) timeframe t (windowLength timeframe) =
      (h.closedAt timeframe t).rtake (windowLength timeframe) := by
  have hsorted : (h.loadSeries r timeframe).Pairwise OHLCVBar.opensBefore := (sorted_bars h timeframe).sublist List.filter_sublist
  rw [rawWindow_eq hsorted] at hfull ⊢
  rw [length_rtake] at hfull
  exact (rtake_of_suffix (loaded_suffix hend.le) (by omega)).symm

/-- The context that the research builds at an instant. -/
abbrev researchContext (symbol : String) (h : MarketHistory) (r : ResearchRange) (t : ℤ) : MarketContext :=
  buildContext symbol t (fun timeframe => rawWindow (h.loadSeries r timeframe) timeframe t (windowLength timeframe))
    (latestFunding (h.loadFundingSeries r) t).toList ["binance_vision_ohlcv"]

/-- A context of the research is built at an instant at which all of its windows are full. -/
theorem mem_contextsAndNextBars {context : MarketContext} {next : OHLCVBar} (hmem : (context, next) ∈ contextsAndNextBars symbol h r) :
    ∃ t, t < r.endAt ∧
      (∀ timeframe, windowLength timeframe ≤ (rawWindow (h.loadSeries r timeframe) timeframe t (windowLength timeframe)).length) ∧
      context = researchContext symbol h r t := by
  unfold contextsAndNextBars at hmem
  obtain ⟨index, -, hturn⟩ := List.mem_filterMap.mp hmem
  split at hturn
  case h_2 => nomatch hturn
  case h_1 signal following hsignal hfollowing =>
    unfold contextAndNextBar at hturn
    dsimp only at hturn
    split at hturn
    · nomatch hturn
    · split at hturn
      · nomatch hturn
      · rename_i hshort
        have hapart : (h.loadSeries r .m15).Pairwise fun a b => a.timestamp + ContextTimeframe.delta .m15 ≤ b.timestamp :=
          (h.apart .m15).sublist List.filter_sublist
        obtain ⟨hlt, rfl⟩ := List.getElem?_eq_some_iff.mp hfollowing
        obtain ⟨_, rfl⟩ := List.getElem?_eq_some_iff.mp hsignal
        have hnext := List.pairwise_iff_getElem.mp hapart index (index + 1) (by omega) hlt (Nat.lt_succ_self index)
        have hend := (List.mem_filter.mp (List.getElem_mem hlt)).2
        rw [decide_eq_true_iff] at hend
        have hdelta : ContextTimeframe.delta .m15 = 15 * 60 := rfl
        refine ⟨_, by omega, fun timeframe => ?_, (Prod.mk.inj (Option.some.inj hturn)).1.symm⟩
        rw [List.any_eq_true, not_exists] at hshort
        have hone := hshort timeframe
        rw [decide_eq_true_iff, not_and, not_lt] at hone
        exact hone (by cases timeframe <;> decide)

/-- The bars of the research. -/
theorem research_bars (symbol : String) (hend : t < r.endAt)
    (hfull : windowLength timeframe ≤ (rawWindow (h.loadSeries r timeframe) timeframe t (windowLength timeframe)).length) :
    ((researchContext symbol h r t).window timeframe).bars = (h.closedAt timeframe t).rtake (windowLength timeframe) := by
  change (closedWindow timeframe (rawWindow (h.loadSeries r timeframe) timeframe t (windowLength timeframe)) t).bars = _
  rw [rawWindow_loadSeries hend hfull, closedWindow_bars]
  · refine List.filter_eq_self.mpr fun b hb => ?_
    exact (List.mem_filter.mp ((rtake_suffix _ _).sublist.mem hb)).2
  · exact ((sorted_bars h timeframe).sublist List.filter_sublist).sublist (rtake_suffix _ _).sublist

theorem closedAt_length (hend : t < r.endAt)
    (hfull : windowLength timeframe ≤ (rawWindow (h.loadSeries r timeframe) timeframe t (windowLength timeframe)).length) :
    windowLength timeframe ≤ (h.closedAt timeframe t).length := by
  rw [rawWindow_loadSeries hend hfull, length_rtake] at hfull
  omega

/-! ## Directions -/

theorem clamp_cases (u : ℚ) : (1 ≤ u ∧ max (-1) (min 1 u) = 1) ∨ (u ≤ -1 ∧ max (-1) (min 1 u) = -1) ∨
    (-1 < u ∧ u < 1 ∧ max (-1) (min 1 u) = u) := by
  rcases le_or_gt 1 u with high | hlow
  · exact Or.inl ⟨high, by rw [min_eq_left high]; norm_num⟩
  · rw [min_eq_right hlow.le]
    rcases le_or_gt u (-1) with hdown | hup
    · exact Or.inr (Or.inl ⟨hdown, max_eq_left hdown⟩)
    · exact Or.inr (Or.inr ⟨hup, hlow, max_eq_right hup.le⟩)

theorem clamp_eq_iff (u v : ℚ) : max (-1) (min 1 u) = max (-1) (min 1 v) ↔ u = v ∨ (1 ≤ u ∧ 1 ≤ v) ∨ (u ≤ -1 ∧ v ≤ -1) := by
  constructor
  · intro heq
    rcases clamp_cases u with ⟨hu, hcu⟩ | ⟨hu, hcu⟩ | ⟨hu, hu', hcu⟩ <;>
      rcases clamp_cases v with ⟨hv, hcv⟩ | ⟨hv, hcv⟩ | ⟨hv, hv', hcv⟩ <;> rw [hcu, hcv] at heq
    · exact Or.inr (Or.inl ⟨hu, hv⟩)
    · exact absurd heq (by norm_num)
    · exact absurd heq hv'.ne'
    · exact absurd heq (by norm_num)
    · exact Or.inr (Or.inr ⟨hu, hv⟩)
    · exact absurd heq hv.ne
    · exact absurd heq hu'.ne
    · exact absurd heq hu.ne'
    · exact Or.inl heq
  · rintro (rfl | ⟨hu, hv⟩ | ⟨hu, hv⟩)
    · rfl
    · rw [min_eq_left hu, min_eq_left hv]
    · rw [min_eq_right (by linarith), min_eq_right (by linarith), max_eq_left hu, max_eq_left hv]

theorem directionOf_eq {window : BarWindow} (hlong : 2 ≤ window.bars.length) :
    directionOf window = max (-1) (min 1 (openingReturn window.bars / (3 / 100))) := by
  obtain ⟨first, rest, hbars⟩ := List.exists_cons_of_length_pos (by omega : 0 < window.bars.length)
  have hlast := List.getLast?_eq_some_getLast (by rw [hbars]; exact List.cons_ne_nil first rest : window.bars ≠ [])
  have hhead : window.bars.head? = some first := by rw [hbars, List.head?_cons]
  unfold directionOf openingReturn
  rw [hhead, hlast]
  dsimp only
  rw [if_neg (by omega)]
  split_ifs
  · norm_num
  · rfl

theorem directions_eq_iff {window window' : BarWindow} (hlong : 2 ≤ window.bars.length) (hlong' : 2 ≤ window'.bars.length) :
    directionOf window = directionOf window' ↔ SameTrend window.bars window'.bars := by
  rw [directionOf_eq hlong, directionOf_eq hlong', clamp_eq_iff]
  have hpos : (0 : ℚ) < 3 / 100 := by norm_num
  unfold SameTrend
  rw [div_left_inj' hpos.ne', one_le_div hpos, one_le_div hpos, div_le_iff₀ hpos, div_le_iff₀ hpos]
  norm_num

/-! ## Gaps -/

theorem gapCount_eq_zero_iff (bars : List OHLCVBar) :
    ((successive bars).countP fun (previous, current) => decide (current.timestamp - previous.timestamp ≠ timeframe.delta)) = 0 ↔
      Contiguous timeframe bars := by
  unfold successive Contiguous
  induction bars with
  | nil => simp
  | cons a rest ih =>
    cases rest with
    | nil => simp
    | cons b rest =>
      rw [List.isChain_cons_cons, ← ih, List.tail_cons, List.zip_cons_cons, List.countP_cons, List.tail_cons]
      by_cases hgap : b.timestamp - a.timestamp = timeframe.delta
      · simp [hgap]
      · simp [hgap]

theorem hasGaps_iff (symbol : String) (t : ℤ) (bars : ContextTimeframe → List OHLCVBar) (extras : List MarketExtras)
    (sourceIds : List String) :
    (buildContext symbol t bars extras sourceIds).freshness.hasGaps = true ↔
      ∃ timeframe, ¬Contiguous timeframe ((buildContext symbol t bars extras sourceIds).window timeframe).bars := by
  have hany : (buildContext symbol t bars extras sourceIds).freshness.hasGaps =
      ContextTimeframe.all.any fun timeframe =>
        decide (0 < ((buildContext symbol t bars extras sourceIds).window timeframe).gapCount) := rfl
  rw [hany, List.any_eq_true]
  constructor
  · rintro ⟨timeframe, -, hgap⟩
    refine ⟨timeframe, fun hchain => ?_⟩
    rw [decide_eq_true_iff] at hgap
    exact hgap.ne' ((gapCount_eq_zero_iff _).mpr hchain)
  · rintro ⟨timeframe, hgap⟩
    refine ⟨timeframe, by cases timeframe <;> decide, ?_⟩
    rw [decide_eq_true_iff]
    exact Nat.pos_of_ne_zero fun hzero => hgap ((gapCount_eq_zero_iff _).mp hzero)

/-! ## Funding -/

theorem rising_funding (h : MarketHistory) (r : ResearchRange) :
    (h.loadFundingSeries r).Pairwise fun a b => a.1 < b.1 := by
  unfold MarketHistory.loadFundingSeries
  refine List.Pairwise.filterMap _ (fun a a' hrising b hb b' hb' => ?_) (h.rising.sublist List.filter_sublist)
  obtain ⟨_, _, rfl⟩ := Option.map_eq_some_iff.mp hb
  obtain ⟨_, _, rfl⟩ := Option.map_eq_some_iff.mp hb'
  exact hrising

/-- The latest funding rate is the last one that was observed. -/
theorem latestFunding_eq {funding : List (ℤ × ℚ)} (hrising : funding.Pairwise fun a b => a.1 < b.1) (t : ℤ) :
    latestFunding funding t = (funding.filter fun p => decide (p.1 ≤ t)).getLast?.map fun (observedAt, rate) =>
      { timestamp := observedAt, fundingRate := some rate } := by
  have hcuts : Prefix.Cuts (fun p : ℤ × ℚ => decide (p.1 ≤ t)) funding := by
    refine hrising.imp fun {a b} hab hb => ?_
    rw [decide_eq_true_iff] at hb ⊢
    omega
  have hcount : bisectRight (funding.map Prod.fst) t = (funding.filter fun p => decide (p.1 ≤ t)).length := by
    rw [bisectRight, List.takeWhile_map, List.length_map, ← hcuts.takeWhile_eq]
    rfl
  have hprefix : (funding.filter fun p => decide (p.1 ≤ t)) <+: funding := by
    rw [← hcuts.takeWhile_eq]
    exact List.takeWhile_prefix _
  unfold latestFunding
  rw [hcount, List.getLast?_eq_getElem?]
  match hlength : (funding.filter fun p => decide (p.1 ≤ t)).length with
  | 0 => rw [List.length_eq_zero_iff.mp hlength]; rfl
  | index + 1 =>
    have hread := List.prefix_iff_getElem?.mp hprefix index (by omega)
    rw [hlength]
    dsimp only
    rw [hread]
    exact congrArg _ (List.getElem?_eq_getElem _).symm

/-- The derivatives are those of no extras exactly if no funding rate is stored up to the instant. -/
theorem derivatives_eq_iff (hend : t < r.endAt) :
    derivativesOf [] t = derivativesOf (latestFunding (h.loadFundingSeries r) t).toList t ↔
      ∀ e ∈ h.extras, r.warmupStart ≤ e.timestamp → e.timestamp ≤ t → e.fundingRate = none := by
  rw [latestFunding_eq (rising_funding h r)]
  constructor
  · intro hsame e he hwarm ht
    rw [Option.eq_none_iff_forall_ne_some]
    intro rate hrate
    have hmem : (e.timestamp, rate) ∈ (h.loadFundingSeries r).filter fun p => decide (p.1 ≤ t) := by
      refine List.mem_filter.mpr ⟨List.mem_filterMap.mpr ⟨e, List.mem_filter.mpr ⟨he, ?_⟩, ?_⟩, decide_eq_true ht⟩
      · exact decide_eq_true ⟨hwarm, by omega⟩
      · rw [hrate]; rfl
    obtain ⟨last, hlast⟩ : ∃ last, ((h.loadFundingSeries r).filter fun p => decide (p.1 ≤ t)).getLast? = some last :=
      ⟨_, List.getLast?_eq_some_getLast (List.ne_nil_of_mem hmem)⟩
    have hseen := (List.mem_filter.mp (List.mem_of_getLast? hlast)).2
    -- the one rate that is passed on was observed by the instant
    have hrates := congrArg DerivativesFeatures.fundingRate hsame
    rw [hlast] at hrates
    simp [derivativesOf, of_decide_eq_true hseen] at hrates
  · intro hnone
    have hnil : (h.loadFundingSeries r).filter (fun p => decide (p.1 ≤ t)) = [] := by
      refine List.filter_eq_nil_iff.mpr fun p hp ht => ?_
      obtain ⟨e, he, hrate⟩ := List.mem_filterMap.mp hp
      obtain ⟨he, hrange⟩ := List.mem_filter.mp he
      obtain ⟨rate, hsome, rfl⟩ := Option.map_eq_some_iff.mp hrate
      have hunfunded := hnone e he (of_decide_eq_true hrange).1 (of_decide_eq_true ht)
      rw [hunfunded] at hsome
      nomatch hsome
    rw [hnil]
    rfl

/-! ## Scores -/

theorem regimeScore_congr {a b : MarketContext} (h15m : directionOf (a.window .m15) = directionOf (b.window .m15))
    (h1h : directionOf (a.window .h1) = directionOf (b.window .h1)) (h4h : directionOf (a.window .h4) = directionOf (b.window .h4))
    (hvolatility : volatilityScores (a.window .m15) = volatilityScores (b.window .m15)) (hfreshness : a.freshness = b.freshness)
    (hmissing : a.missingFeatures = b.missingFeatures) : regimeScore a = regimeScore b := by
  unfold regimeScore
  rw [h15m, h1h, h4h, hvolatility, hfreshness, hmissing]

/-! ## Features -/

theorem missingOf_congr {window window' : ContextTimeframe → BarWindow} {derivatives derivatives' : DerivativesFeatures}
    (hbars : ∀ timeframe, (window timeframe).bars = [] ↔ (window' timeframe).bars = []) (hderivatives : derivatives = derivatives') :
    missingOf window derivatives = missingOf window' derivatives' := by
  unfold missingOf
  simp only [hbars, hderivatives]

theorem momentum_congr {symbol symbol' : String} {bars bars' : ContextTimeframe → List OHLCVBar} {extras extras' : List MarketExtras}
    {sourceIds sourceIds' : List String}
    (hreturn : ∀ timeframe, returnOf ((buildContext symbol t bars extras sourceIds).window timeframe) =
      returnOf ((buildContext symbol' t bars' extras' sourceIds').window timeframe)) :
    (buildContext symbol t bars extras sourceIds).momentum = (buildContext symbol' t bars' extras' sourceIds').momentum :=
  MomentumFeatures.ext (hreturn .m15) (hreturn .h1) (hreturn .h4)

/-- Of the freshness of two windows that end with the same bar, only the gaps can differ. -/
theorem freshness_eq_iff {symbol symbol' : String} {bars bars' : ContextTimeframe → List OHLCVBar} {extras extras' : List MarketExtras}
    {sourceIds sourceIds' : List String}
    (hlast : ∀ timeframe, ((buildContext symbol t bars extras sourceIds).window timeframe).bars.getLast? =
      ((buildContext symbol' t bars' extras' sourceIds').window timeframe).bars.getLast?) :
    (buildContext symbol t bars extras sourceIds).freshness = (buildContext symbol' t bars' extras' sourceIds').freshness ↔
      (buildContext symbol t bars extras sourceIds).freshness.hasGaps =
        (buildContext symbol' t bars' extras' sourceIds').freshness.hasGaps := by
  have hage : ∀ timeframe, (closedWindow timeframe (bars timeframe) t).age t = (closedWindow timeframe (bars' timeframe) t).age t := by
    intro timeframe
    exact congrArg (fun last : Option OHLCVBar => (last.map fun b => b.timestamp + timeframe.delta).map fun closedAt => max 0 (t - closedAt))
      (hlast timeframe)
  have hstale : ∀ timeframe,
      (closedWindow timeframe (bars timeframe) t).isStale t = (closedWindow timeframe (bars' timeframe) t).isStale t := by
    intro timeframe
    unfold BarWindow.isStale
    rw [hage timeframe]
    rfl
  constructor
  · exact congrArg DataFreshness.hasGaps
  · intro hgaps
    refine DataFreshness.mk.injEq .. ▸ ⟨?_, ?_, hgaps⟩
    · exact List.map_congr_left fun timeframe _ => by rw [hage timeframe]
    · exact List.filter_congr fun timeframe _ => hstale timeframe

/-- What reads only the last bars does not tell the readers apart. -/
theorem readers_alike {β : Type} {k : ℕ} {f : List OHLCVBar → β} (hf : ReadsLast k f) (hk : k ≤ 79) (hwindow : k ≤ windowLength timeframe) :
    f (h.latestClosed timeframe t) = f ((h.closedAt timeframe t).rtake (windowLength timeframe)) := by
  have hforming := forming_length h timeframe t
  exact hf.alike (by omega) hwindow _

theorem windowLength_pos (timeframe : ContextTimeframe) : 2 ≤ windowLength timeframe := by
  cases timeframe <;> decide

/-- The gaps of the readers are alike exactly if there is a gap in what the one reads if there is one in what the other does. -/
theorem hasGaps_eq_iff (hend : t < r.endAt)
    (hfull : ∀ timeframe, windowLength timeframe ≤ (rawWindow (h.loadSeries r timeframe) timeframe t (windowLength timeframe)).length) :
    (runtimeContext symbol (h.upTo t) t).freshness.hasGaps = (researchContext symbol h r t).freshness.hasGaps ↔
      ((∃ timeframe, ¬Contiguous timeframe (h.latestClosed timeframe t)) ↔
        ∃ timeframe, ¬Contiguous timeframe ((h.closedAt timeframe t).rtake (windowLength timeframe))) := by
  rw [Bool.eq_iff_iff]
  refine iff_congr ((hasGaps_iff ..).trans (exists_congr fun timeframe => ?_)) ((hasGaps_iff ..).trans (exists_congr fun timeframe => ?_))
  · rw [← runtime_bars symbol h timeframe t]
    rfl
  · rw [← research_bars symbol hend (hfull timeframe)]

/-- The directions of the readers are alike exactly if the trend does not turn on where the window opens. -/
theorem readers_direction_iff (hend : t < r.endAt) (h80 : windowLength timeframe = 80)
    (hfull : windowLength timeframe ≤ (rawWindow (h.loadSeries r timeframe) timeframe t (windowLength timeframe)).length) :
    directionOf ((runtimeContext symbol (h.upTo t) t).window timeframe) = directionOf ((researchContext symbol h r t).window timeframe) ↔
      SameTrend (h.latestClosed timeframe t) ((h.closedAt timeframe t).rtake 80) := by
  have hlength := closedAt_length hend hfull
  have hforming := forming_length h timeframe t
  rw [directions_eq_iff, runtime_bars, research_bars symbol hend hfull, h80]
  · rw [runtime_bars, MarketHistory.latestClosed, length_rtake]
    omega
  · rw [research_bars symbol hend hfull, length_rtake]
    omega

/-- The readers of one history decide on the same facts exactly if what they choose comes to the same. -/
theorem sameFacts_iff_readAlike {context : MarketContext} {next : OHLCVBar}
    (hmem : (context, next) ∈ contextsAndNextBars symbol h r) :
    SameFacts (runtimeContext symbol (h.upTo context.decisionTime) context.decisionTime) context ↔
      ReadAlike h r context.decisionTime := by
  obtain ⟨t, hend, hfull, rfl⟩ := mem_contextsAndNextBars hmem
  change SameFacts (runtimeContext symbol (h.upTo t) t) (researchContext symbol h r t) ↔ ReadAlike h r t
  have hread : ∀ timeframe {β : Type} {k : ℕ} {f : List OHLCVBar → β}, ReadsLast k f → k ≤ 79 → k ≤ windowLength timeframe →
      f ((runtimeContext symbol (h.upTo t) t).window timeframe).bars = f ((researchContext symbol h r t).window timeframe).bars := by
    intro timeframe β k f hf hk hwindow
    rw [runtime_bars, research_bars symbol hend (hfull timeframe)]
    exact readers_alike hf hk hwindow
  have hfreshness : (runtimeContext symbol (h.upTo t) t).freshness = (researchContext symbol h r t).freshness ↔ _ :=
    freshness_eq_iff fun timeframe => hread timeframe readsLast_getLast? (by omega) (by have := windowLength_pos timeframe; omega)
  constructor
  · intro hsame
    refine ⟨(derivatives_eq_iff hend).mp hsame.derivatives, fun timeframe htimeframe => ?_,
      (hasGaps_eq_iff hend hfull).mp (congrArg DataFreshness.hasGaps hsame.freshness)⟩
    have hevidence := congrArg RegimeScore.evidence hsame.score
    simp only [List.mem_cons, List.not_mem_nil, or_false] at htimeframe
    rcases htimeframe with rfl | rfl | rfl
    · exact (readers_direction_iff hend rfl (hfull _)).mp (congrArg RegimeEvidence.direction15m hevidence)
    · exact (readers_direction_iff hend rfl (hfull _)).mp (congrArg RegimeEvidence.direction1h hevidence)
    · exact (readers_direction_iff hend rfl (hfull _)).mp (congrArg RegimeEvidence.direction4h hevidence)
  · intro halike
    have hderivatives : (runtimeContext symbol (h.upTo t) t).derivatives = (researchContext symbol h r t).derivatives :=
      (derivatives_eq_iff hend).mpr halike.unfunded
    have hfresh := hfreshness.mpr ((hasGaps_eq_iff hend hfull).mpr halike.gaps)
    have hmissing : (runtimeContext symbol (h.upTo t) t).missingFeatures = (researchContext symbol h r t).missingFeatures := by
      refine missingOf_congr (fun timeframe => ?_) hderivatives
      have hlast := hread timeframe readsLast_getLast? (by omega) (by have := windowLength_pos timeframe; omega)
      rw [← List.getLast?_eq_none_iff, ← List.getLast?_eq_none_iff]
      exact hlast ▸ Iff.rfl
    have hdirection : ∀ timeframe ∈ [ContextTimeframe.m15, .h1, .h4], windowLength timeframe = 80 →
        directionOf ((runtimeContext symbol (h.upTo t) t).window timeframe) =
          directionOf ((researchContext symbol h r t).window timeframe) :=
      fun timeframe htimeframe h80 => (readers_direction_iff hend h80 (hfull _)).mpr (halike.trends timeframe htimeframe)
    have hstructure : structureOf ((runtimeContext symbol (h.upTo t) t).window .m15) =
        structureOf ((researchContext symbol h r t).window .m15) :=
      (hread .m15 readsLast_structureOf (by omega) (by decide)).trans (structureOf_bareWindow _)
    exact {
      score := regimeScore_congr (hdirection .m15 (by simp) rfl) (hdirection .h1 (by simp) rfl) (hdirection .h4 (by simp) rfl)
        (hread .m15 readsLast_volatilityScores (by omega) (by decide)) hfresh hmissing
      structural := hstructure
      momentum := momentum_congr fun timeframe => hread timeframe readsLast_returnOf (by omega) (windowLength_pos timeframe)
      volume := hread .m15 readsLast_volumeOf (by omega) (by decide)
      volatility := hread .m15 readsLast_volatilityOf (by omega) (by decide)
      derivatives := hderivatives
      freshness := hfresh
      missingFeatures := hmissing }

/-! ## Decoding -/

theorem latestClosed_decoded (decode : ℚ → ℚ) (stored : MarketHistory) (timeframe : ContextTimeframe) (t : ℤ) :
    (stored.decoded decode).latestClosed timeframe t = (stored.latestClosed timeframe t).map (OHLCVBar.decoded decode) := by
  have hfilter : ∀ p : OHLCVBar → Bool, (∀ b, p (b.decoded decode) = p b) →
      ((stored.decoded decode).bars timeframe).filter p = ((stored.bars timeframe).filter p).map (OHLCVBar.decoded decode) := by
    intro p hp
    unfold MarketHistory.decoded
    rw [List.filter_map]
    exact congrArg _ (List.filter_congr fun b _ => hp b)
  unfold MarketHistory.latestClosed MarketHistory.closedAt MarketHistory.formingAt
  rw [hfilter _ fun _ => rfl, hfilter _ fun _ => rfl, List.length_map, List.rtake_eq_reverse_take_reverse,
    List.rtake_eq_reverse_take_reverse, ← List.map_reverse, ← List.map_take, ← List.map_reverse]

/-- A context depends on the windows of its bars. -/
theorem buildContext_congr {bars bars' : ContextTimeframe → List OHLCVBar} {extras : List MarketExtras} {sourceIds : List String}
    (hbars : ∀ timeframe, (closedWindow timeframe (bars timeframe) t).bars = (closedWindow timeframe (bars' timeframe) t).bars) :
    buildContext symbol t bars extras sourceIds = buildContext symbol t bars' extras sourceIds := by
  have hwindow : ∀ timeframe, closedWindow timeframe (bars timeframe) t = closedWindow timeframe (bars' timeframe) t := by
    intro timeframe
    have hclosed := hbars timeframe
    unfold closedWindow at hclosed ⊢
    dsimp only at hclosed
    rw [hclosed]
  unfold buildContext
  simp only [hwindow]

/-- The runtime does not tell decodings apart that agree on the closed bars it reads. -/
theorem runtimeContext_decoded {runtime research : ℚ → ℚ} {stored : MarketHistory} (halike : DecodedAlike runtime research stored t) :
    runtimeContext symbol ((stored.decoded runtime).upTo t) t = runtimeContext symbol ((stored.decoded research).upTo t) t := by
  refine buildContext_congr fun timeframe => ?_
  have hruntime := runtime_bars symbol (stored.decoded runtime) timeframe t
  have hresearch := runtime_bars symbol (stored.decoded research) timeframe t
  rw [latestClosed_decoded, List.map_congr_left (halike timeframe), ← latestClosed_decoded] at hruntime
  exact hruntime.trans hresearch.symm

end SameFactsAux

open SameFactsAux

namespace SameFactsAux

def steadyBar (timestamp : ℤ) : OHLCVBar := { timestamp, openPrice := 100, high := 101, low := 99, close := 100, volume := 5 }

/-- The instant at which a bar of every timeframe closes and the next one opens. -/
def steadyInstant : ℤ := 1704067200

/-- Of each timeframe 81 bars have closed at the instant, and one more has opened. -/
def steadyHistory (extras : List MarketExtras) (hrising : extras.Pairwise fun a b => a.timestamp < b.timestamp) : MarketHistory where
  bars timeframe := (List.range 82).map fun i : ℕ => steadyBar (steadyInstant + ((i : ℤ) - 81) * timeframe.delta)
  extras := extras
  rising := hrising
  apart timeframe := by
    rw [List.pairwise_map]
    refine List.pairwise_lt_range.imp fun {i j} hij => ?_
    have hdelta := delta_pos timeframe
    have hsteps : ((i : ℤ) - 81 + 1) * timeframe.delta ≤ ((j : ℤ) - 81) * timeframe.delta :=
      mul_le_mul_of_nonneg_right (by omega) hdelta.le
    unfold steadyBar
    dsimp only
    rw [add_mul, one_mul] at hsteps
    omega

def steadyRange : ResearchRange :=
  { warmupStart := 0, endAt := 2000000000, evaluationStart := 0, evaluationEnd := 2000000000 }

def unfundedHistory : MarketHistory := steadyHistory [] List.Pairwise.nil

/-- The same bars, and a funding rate eight hours before the instant. -/
def fundedHistory : MarketHistory :=
  steadyHistory [{ timestamp := steadyInstant - 28800, fundingRate := some (1 / 10000) }] (List.pairwise_singleton _ _)

end SameFactsAux

end TradingPlatform
