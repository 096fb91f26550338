import TradingPlatform.Lemmas.ShadowReplay

/-!
# The results of the shadow replay

Both engines of the exit-policy shadow replay share one contract: the legs are the whole position, they close at or after the fill in
the order of the bars, and a result is ambiguous where the bar that stopped the trade also reached an open target.
-/

namespace TradingPlatform
namespace ExitPolicyShadow

/-- The levels of an entry under a policy. -/
def policyLevels (entry : RealEntry) (policy : ExitPolicyId) (atr14 : Option ℚ) (regime : Regime) : Levels :=
  let geometry := initialGeometry entry policy atr14 regime
  if effectivePolicy policy regime = .scaleOutRunner then
    ⟨geometry.1, (ladderRungs entry.side entry.averageFillPrice |entry.averageFillPrice - geometry.1|).map (·.target)⟩
  else ⟨geometry.1, [geometry.2]⟩

/-- A leg closed at the stop on a bar that also reached a target still open. -/
def StopReachedTarget (entry : RealEntry) (levels : Levels) (bars : List Bar) (o : ShadowOutcome) : Prop :=
  ∃ leg ∈ o.legs, leg.reason = .stop ∧ ∃ before bar after, bars = before ++ bar :: after ∧ bar.time = leg.filledAt ∧
    ∃ target, NewlyReached entry levels before bar target

/-- The contract of a result. -/
structure WellFormed (entry : RealEntry) (levels : Levels) (bars : List Bar) (o : ShadowOutcome) : Prop where
  quantities : (o.legs.map (·.quantity)).sum = entry.filledQuantity
  fractions : (o.legs.map (·.quantityFraction)).sum = 1
  not_before_fill : ∀ leg ∈ o.legs, entry.fillTimestamp ≤ leg.filledAt
  in_order : o.legs.Pairwise (·.filledAt ≤ ·.filledAt)
  ambiguous : o.ambiguousIntrabar = true ↔ StopReachedTarget entry levels bars o

/-- The bars close the position without a case the replay misses: there is a bar at or after the fill (for one target, no bar at all
does as well), the prices at which legs close are positive, and the bar that stops a ladder reaches no open target. A bar is visited
until one has ended the trade. -/
structure ClosesCleanly (entry : RealEntry) (levels : Levels) (ladder : Prop) (bars : List Bar) : Prop where
  seen : (∃ bar ∈ bars, entry.fillTimestamp ≤ bar.time) ∨ bars = [] ∧ ¬ladder
  priced : ∀ before bar after, Breaks.Visits (EndsAt entry levels) bars before bar after → PricedAt entry levels before bar
  closed : ∀ before bar, Breaks.Visits (EndsAt entry levels) bars before bar [] → ¬EndsAt entry levels before bar → 0 < bar.close
  alone : ladder → ∀ before bar after, Breaks.Visits (EndsAt entry levels) bars before bar after → StopsAt entry levels before bar →
    ∀ target, ¬NewlyReached entry levels before bar target

namespace ShadowReplayAux

variable {entry : RealEntry} {policy : ExitPolicyId} {regime : Regime} {bars : List Bar} {geometry : ℚ × ℚ}

/-- The bars of a chronological list are known by their times. -/
theorem split_unique (hchron : bars.Pairwise (·.time < ·.time)) {before before' after after' : List Bar} {bar bar' : Bar}
    (h : bars = before ++ bar :: after) (h' : bars = before' ++ bar' :: after') (htime : bar'.time = bar.time) :
    before' = before ∧ bar' = bar := by
  rcases Breaks.split_cases h h' with ⟨hbefore, hbar, -⟩ | ⟨s, hbefore, -⟩ | ⟨s, hbefore, -⟩
  · exact ⟨hbefore, hbar⟩
  · exact absurd htime (earlier_of_split hchron h bar' (by simp [hbefore])).ne
  · exact absurd htime (earlier_of_split hchron h' bar (by simp [hbefore])).ne'

/-- The last bar of a chronological list is at or after the fill as soon as some bar is. -/
theorem last_held (hchron : bars.Pairwise (·.time < ·.time)) {before : List Bar} {last bar : Bar} (hsplit : bars = before ++ [last])
    (hbar : bar ∈ bars) (hheld : entry.fillTimestamp ≤ bar.time) : entry.fillTimestamp ≤ last.time := by
  rw [hsplit, List.mem_append, List.mem_singleton] at hbar
  rcases hbar with hbar | rfl
  · exact hheld.trans (earlier_of_split hchron hsplit bar hbar).le
  · exact hheld

/-! ## One target -/

/-- The price of an exit at a bar is positive exactly if the levels that close the position are. -/
theorem singleExit_price_iff {stop target : ℚ} {before : List Bar} {bar : Bar} {e : SingleExit}
    (hopen : reached entry before target = false) (hheld : entry.fillTimestamp ≤ bar.time)
    (he : singleExitAt entry.side stop (some target) bar = some e) :
    0 < e.price ↔ PricedAt entry ⟨stop, [target]⟩ before bar := by
  have hstop : StopsAt entry ⟨stop, [target]⟩ before bar ↔ barTouches entry.side bar stop .stop = true := by
    rw [StopsAt, stopAfter_single hopen]
    exact and_iff_right hheld
  simp only [PricedAt, NewlyReached, hstop, stopAfter_single hopen, List.mem_singleton]
  unfold singleExitAt at he
  cases hs : barTouches entry.side bar stop .stop <;> cases ht : barTouches entry.side bar target .target <;>
    simp [hs, ht, Option.filter] at he <;> subst he <;> simp [hheld, hopen, ht]

/-- A bar that does not end the trade closes no leg. -/
theorem pricedAt_of_goes {stop target : ℚ} {before : List Bar} {bar : Bar} (hgoes : ¬EndsAt entry ⟨stop, [target]⟩ before bar) :
    PricedAt entry ⟨stop, [target]⟩ before bar := by
  refine ⟨fun h => absurd (.inl h) hgoes, fun hheld _ t hnew => absurd (.inr ⟨hheld, fun t' ht' => ?_⟩) hgoes⟩
  obtain ⟨ht, htouch, -⟩ := hnew
  rw [List.mem_singleton.mp ht', ← List.mem_singleton.mp ht, reached_append_held before hheld, htouch, Bool.or_true]

/-- The exit at a bar is ambiguous exactly if it is at the stop and the bar reaches the target. -/
theorem singleExit_ambiguous_iff {stop target : ℚ} {bar : Bar} {e : SingleExit}
    (he : singleExitAt entry.side stop (some target) bar = some e) :
    e.bar = bar ∧ (e.intrabar ≠ .unambiguous ↔ e.reason = .stop ∧ barTouches entry.side bar target .target = true) := by
  unfold singleExitAt at he
  cases hs : barTouches entry.side bar stop .stop <;> cases ht : barTouches entry.side bar target .target <;>
    simp [hs, ht, Option.filter] at he <;> subst he <;> simp

theorem wellFormed_single {levels : Levels} {o : ShadowOutcome} {leg : ExitLeg} (hlegs : o.legs = [leg])
    (hquantity : leg.quantity = entry.filledQuantity) (hfraction : leg.quantityFraction = 1) :
    WellFormed entry levels bars o ↔
      entry.fillTimestamp ≤ leg.filledAt ∧ (o.ambiguousIntrabar = true ↔ StopReachedTarget entry levels bars o) := by
  constructor
  · intro h
    exact ⟨h.not_before_fill leg (by simp [hlegs]), h.ambiguous⟩
  · rintro ⟨hfill, hambiguous⟩
    exact ⟨by simp [hlegs, hquantity], by simp [hlegs, hfraction], by simpa [hlegs] using hfill, by simp [hlegs], hambiguous⟩

/-- Where the position closes at a bar, the result is well formed exactly if it is returned: at a price that is positive. -/
theorem single_broke {stop target : ℚ} {before after : List Bar} {bar : Bar} {s : SingleRun} (hchron : bars.Pairwise (·.time < ·.time))
    (hsided : Sided entry.side entry.averageFillPrice (stop, target))
    (hvisit : Breaks.Visits (EndsAt entry ⟨stop, [target]⟩) bars before bar after) (hends : EndsAt entry ⟨stop, [target]⟩ before bar)
    (hclosed : SingleClosed entry stop target before bar s)
    (hrun : forIn bars ({} : SingleRun) (singleStep entry stop (some target)) = .ok s) :
    (∃ o, replaySingleTarget entry policy bars stop (some target) regime = .ok o ∧ WellFormed entry ⟨stop, [target]⟩ bars o) ↔
      PricedAt entry ⟨stop, [target]⟩ before bar := by
  have hheld := hends.held
  obtain ⟨e, he⟩ := Option.ne_none_iff_exists'.mp ((endsAt_single hclosed.unreached hheld).mp hends)
  obtain ⟨hbar, hambiguous⟩ := singleExit_ambiguous_iff he
  have hexit : s.exitOrLast entry bars = e := by simp [SingleRun.exitOrLast, hclosed.exit, he]
  obtain ⟨hok, herror⟩ := replaySingleTarget_of_run policy regime hsided hrun
  rw [hexit] at hok herror
  rw [← singleExit_price_iff hclosed.unreached hheld he]
  constructor
  · rintro ⟨o, ho, -⟩
    by_contra hprice
    obtain ⟨error, herror⟩ := herror hprice
    rw [herror] at ho
    nomatch ho
  · intro hprice
    obtain ⟨o, leg, ho, hlegs, hquantity, hfraction, htime, hreason, -, hmark⟩ := hok hprice
    refine ⟨o, ho, (wellFormed_single hlegs hquantity hfraction).mpr ⟨by rw [htime, hbar]; exact hheld, ?_⟩⟩
    rw [hmark, decide_eq_true_eq, hambiguous]
    constructor
    · rintro ⟨hstop, htouch⟩
      exact ⟨leg, by simp [hlegs], hreason.trans hstop, before, bar, after, hvisit.split, by rw [htime, hbar], target,
        List.mem_singleton_self target, htouch, hclosed.unreached⟩
    · rintro ⟨leg', hleg', hstop, before', bar', after', hsplit, htime', t, ht, htouch, -⟩
      rw [hlegs, List.mem_singleton] at hleg'
      subst hleg'
      obtain ⟨-, rfl⟩ := split_unique hchron hvisit.split hsplit (by rw [htime', htime, hbar])
      exact ⟨hreason ▸ hstop, List.mem_singleton.mp ht ▸ htouch⟩

/-- Where no bar closes the position, the result is well formed exactly if some bar is at or after the fill, or none is there at all,
and the last close is positive. -/
theorem single_ran {stop target : ℚ} {s : SingleRun} (hchron : bars.Pairwise (·.time < ·.time))
    (hsided : Sided entry.side entry.averageFillPrice (stop, target)) (hopen : SingleOpen entry target bars s)
    (hrun : forIn bars ({} : SingleRun) (singleStep entry stop (some target)) = .ok s) :
    (∃ o, replaySingleTarget entry policy bars stop (some target) regime = .ok o ∧ WellFormed entry ⟨stop, [target]⟩ bars o) ↔
      ((∃ bar ∈ bars, entry.fillTimestamp ≤ bar.time) ∨ bars = []) ∧ ∀ before last, bars = before ++ [last] → 0 < last.close := by
  obtain ⟨hok, herror⟩ := replaySingleTarget_of_run policy regime hsided hrun
  have hnoStop : ∀ o : ShadowOutcome, ∀ leg, o.legs = [leg] → leg.reason = .dataExhausted →
      ¬StopReachedTarget entry ⟨stop, [target]⟩ bars o := by
    rintro o leg hlegs hreason ⟨leg', hleg', hstop, -⟩
    rw [hlegs, List.mem_singleton] at hleg'
    rw [hleg', hreason] at hstop
    nomatch hstop
  rcases List.eq_nil_or_concat bars with hnil | ⟨before, last, hlast⟩
  · have hexit : s.exitOrLast entry bars = ⟨entry.fillBar, entry.averageFillPrice, .dataExhausted, .unambiguous, none⟩ := by
      simp [SingleRun.exitOrLast, hopen.exit, hnil, RealEntry.fillBar]
    rw [hexit] at hok
    obtain ⟨o, leg, ho, hlegs, hquantity, hfraction, htime, hreason, -, hmark⟩ := hok entry.price_pos
    refine iff_of_true ⟨o, ho, (wellFormed_single hlegs hquantity hfraction).mpr ⟨htime.ge, ?_⟩⟩ ⟨.inr hnil, ?_⟩
    · exact iff_of_false (by simp [hmark]) (hnoStop o leg hlegs hreason)
    · intro before last hsplit
      simp [hnil] at hsplit
  · rw [List.concat_eq_append] at hlast
    have hexit : s.exitOrLast entry bars = ⟨last, last.close, .dataExhausted, .unambiguous, none⟩ := by
      simp [SingleRun.exitOrLast, hopen.exit, hlast]
    rw [hexit] at hok herror
    constructor
    · rintro ⟨o, ho, hwell⟩
      have hprice : 0 < last.close := by
        by_contra hprice
        obtain ⟨error, herror⟩ := herror hprice
        rw [herror] at ho
        nomatch ho
      obtain ⟨o', leg, ho', hlegs, -, -, htime, -⟩ := hok hprice
      obtain rfl : o' = o := Except.ok.inj (ho'.symm.trans ho)
      refine ⟨.inl ⟨last, by simp [hlast], htime ▸ hwell.not_before_fill leg (by simp [hlegs])⟩, fun before' last' hsplit => ?_⟩
      obtain ⟨-, hsame⟩ := List.append_inj' (hlast.symm.trans hsplit) rfl
      exact List.cons.inj hsame |>.1 ▸ hprice
    · rintro ⟨hseen, hclose⟩
      obtain ⟨o, leg, ho, hlegs, hquantity, hfraction, htime, hreason, -, hmark⟩ := hok (hclose before last hlast)
      obtain ⟨bar, hbar, hheld⟩ := hseen.resolve_right (by simp [hlast])
      refine ⟨o, ho, (wellFormed_single hlegs hquantity hfraction).mpr ⟨htime ▸ last_held hchron hlast hbar hheld, ?_⟩⟩
      exact iff_of_false (by simp [hmark]) (hnoStop o leg hlegs hreason)

theorem single_wellFormed_iff (hchron : bars.Pairwise (·.time < ·.time)) (hsided : Sided entry.side entry.averageFillPrice geometry) :
    (∃ o, replaySingleTarget entry policy bars geometry.1 (some geometry.2) regime = .ok o ∧
      WellFormed entry ⟨geometry.1, [geometry.2]⟩ bars o) ↔ ClosesCleanly entry ⟨geometry.1, [geometry.2]⟩ False bars := by
  have hstart : SingleOpen entry geometry.2 [] {} := ⟨rfl, rfl, rfl⟩
  rcases (single_spec geometry.1 bars).outcome hstart with ⟨-, hvisit, hends, hfinal, hrun⟩ | ⟨-, hgoes, hfinal, hrun⟩ | ⟨-, hunsafe, -⟩
  · rw [single_broke hchron hsided hvisit hends hfinal hrun]
    constructor
    · intro hpriced
      refine ⟨.inl ⟨_, hvisit.mem, hends.held⟩, fun b y r hy => ?_, fun b y hy hnot => ?_, fun h => nomatch h⟩
      · rcases hvisit.eq_or_before hends hy with ⟨rfl, rfl, -⟩ | ⟨hgoes, -⟩
        · exact hpriced
        · exact pricedAt_of_goes hgoes
      · rcases hvisit.eq_or_before hends hy with ⟨rfl, rfl, -⟩ | ⟨-, hmore⟩
        · exact absurd hends hnot
        · exact absurd rfl hmore
    · exact fun h => h.priced _ _ _ hvisit
  · rw [single_ran hchron hsided hfinal hrun]
    constructor
    · rintro ⟨hseen, hclose⟩
      exact ⟨hseen.imp_right fun h => ⟨h, not_false⟩, fun b y r hy => pricedAt_of_goes (hgoes b y r hy),
        fun b y hy _ => hclose b y hy.split, fun h => nomatch h⟩
    · intro h
      refine ⟨h.seen.imp_right And.left, fun before last hsplit => ?_⟩
      have hvisit := Breaks.visits_of_split hgoes hsplit
      exact h.closed before last hvisit (hgoes _ _ _ hvisit)
  · exact absurd trivial hunsafe

/-! ## The ladder -/

/-- The legs of a run that is the whole position are a well-formed result, but for the ambiguity. -/
theorem wellFormed_ladder {levels : Levels} {o : ShadowOutcome} {before : List Bar} {s : LadderRun} (hkept : LegsKept entry before s)
    (hdone : s.remaining = 0) (hlegs : o.legs = s.legs) (hmark : o.ambiguousIntrabar = false) :
    WellFormed entry levels bars o ↔ ¬StopReachedTarget entry levels bars o := by
  constructor
  · intro h hreached
    rw [h.ambiguous.mpr hreached] at hmark
    nomatch hmark
  · intro hnot
    have hwhole := hkept.quantities
    have hparts := hkept.fractions
    rw [hdone, add_zero] at hwhole hparts
    refine ⟨by rw [hlegs, hwhole], ?_, fun leg hleg => ?_, by rw [hlegs]; exact hkept.ordered, iff_of_false (by simp [hmark]) hnot⟩
    · rw [hlegs]
      exact (mul_eq_left₀ entry.quantity_pos.ne').mp hparts
    · obtain ⟨bar, hbar, htime⟩ := hkept.times leg (hlegs ▸ hleg)
      rw [htime]
      exact ((mem_heldBars entry bar).mp hbar).2

/-- The run of the ladder at its break: a leg closed at the stop on a bar that reached an open target exactly if the bar that stopped
the trade did. -/
theorem climbed_stopReachedTarget {levels : Levels} {o : ShadowOutcome} {before after : List Bar} {bar : Bar} {s : LadderRun}
    (hchron : bars.Pairwise (·.time < ·.time)) (hsplit : bars = before ++ bar :: after) (hclimbed : Climbed entry levels before bar s)
    (hlegs : o.legs = s.legs) :
    StopReachedTarget entry levels bars o ↔ StopsAt entry levels before bar ∧ ∃ target, NewlyReached entry levels before bar target := by
  constructor
  · rintro ⟨leg, hleg, hstop, before', bar', after', hsplit', htime, target, hnew⟩
    obtain ⟨hstops, hfilled⟩ := hclimbed.stopLeg leg (hlegs ▸ hleg) hstop
    obtain ⟨rfl, rfl⟩ := split_unique hchron hsplit hsplit' (htime.trans hfilled)
    exact ⟨hstops, target, hnew⟩
  · rintro ⟨hstops, target, hnew⟩
    obtain ⟨leg, hleg, hstop, htime⟩ := hclimbed.stopped hstops
    exact ⟨leg, hlegs ▸ hleg, hstop, before, bar, after, hsplit, htime.symm, target, hnew⟩

/-- What a run leaves open when the bars run out is closed at the last close, if that is positive. -/
theorem exhaustLadder_ok {before : List Bar} {last : Bar} {stop : ℚ} {rungs : List Rung} {s : LadderRun}
    (hchron : bars.Pairwise (·.time < ·.time)) (hsplit : bars = before ++ [last]) (hheld : entry.fillTimestamp ≤ last.time)
    (hclimbing : Climbing entry stop rungs bars s) :
    (0 < last.close → ∃ s', exhaustLadder entry s = .ok s' ∧ LegsKept entry bars s' ∧ s'.remaining = 0 ∧
      ∀ leg ∈ s'.legs, leg.reason ≠ .stop) ∧
    (¬0 < last.close → ∃ e, exhaustLadder entry s = .error e) := by
  have hlast : s.barsUntilExit.getLast? = some last := by
    rw [hclimbing.kept.bars, hsplit, heldBars_append, heldBars_singleton hheld]
    simp
  have hexhaust : exhaustLadder entry s = closeRest entry "exhausted" last.close last .dataExhausted s := by
    rw [exhaustLadder, hlast]
    exact if_pos hclimbing.left
  rw [hexhaust]
  refine ⟨fun hclose => ?_, fun hclose => closeRest_error entry last s "exhausted" .dataExhausted hclose⟩
  obtain ⟨leg, hquantity, hfraction, htime, hreason, hok⟩ :=
    closeRest_ok entry last "exhausted" .dataExhausted hclose hclimbing.left hclimbing.kept.remaining_le
  refine ⟨_, hok, ⟨?_, ?_, ?_, ?_, hclimbing.kept.bars⟩, rfl, ?_⟩
  · simpa [hquantity] using hclimbing.kept.quantities
  · have hparts := hclimbing.kept.fractions
    simpa [hfraction, mul_add, mul_div_cancel₀ _ entry.quantity_pos.ne'] using hparts
  · intro l hl
    rcases List.mem_append.mp hl with hl | hl
    · exact hclimbing.kept.times l hl
    · exact ⟨last, (mem_heldBars entry last).mpr ⟨by simp [hsplit], hheld⟩, by rw [List.mem_singleton.mp hl, htime]⟩
  · refine List.pairwise_append.mpr ⟨hclimbing.kept.ordered, List.pairwise_singleton _ _, fun l hl l' hl' => ?_⟩
    obtain ⟨bar, hbar, hfilled⟩ := hclimbing.kept.times l hl
    rw [hfilled, List.mem_singleton.mp hl', htime]
    have hmem := ((mem_heldBars entry bar).mp hbar).1
    rw [hsplit, List.mem_append, List.mem_singleton] at hmem
    rcases hmem with hmem | rfl
    · exact (earlier_of_split hchron hsplit bar hmem).le
    · exact le_rfl
  · intro l hl
    rcases List.mem_append.mp hl with hl | hl
    · exact hclimbing.noStop l hl
    · rw [List.mem_singleton.mp hl, hreason]
      exact fun h => nomatch h

/-- Where the bars run out, the result is well formed exactly if some bar is at or after the fill and the last close is positive. -/
theorem ladder_ran {s : LadderRun} (hchron : bars.Pairwise (·.time < ·.time)) {rungs : List Rung} {levels : Levels}
    (hrungs : rungs = ladderRungs entry.side entry.averageFillPrice |entry.averageFillPrice - geometry.1|)
    (hsided : Sided entry.side entry.averageFillPrice geometry) (hclimbing : Climbing entry geometry.1 rungs bars s)
    (hrun : forIn bars ({ remaining := entry.filledQuantity, stop := geometry.1 } : LadderRun) (ladderStep entry rungs) = .ok s) :
    (∃ o, replayScaleOut entry bars geometry.1 (some geometry.2) regime policy = .ok o ∧ WellFormed entry levels bars o) ↔
      (∃ bar ∈ bars, entry.fillTimestamp ≤ bar.time) ∧ ∀ before last, bars = before ++ [last] → 0 < last.close := by
  subst hrungs
  obtain ⟨hok, herror⟩ := replayScaleOut_of_run policy regime hsided hrun
  by_cases hseen : ∃ bar ∈ bars, entry.fillTimestamp ≤ bar.time
  · obtain ⟨bar, hbar, hheld⟩ := hseen
    obtain ⟨before, last, hlast⟩ := List.eq_nil_or_concat bars |>.resolve_left (List.ne_nil_of_mem hbar)
    rw [List.concat_eq_append] at hlast
    obtain ⟨hclosed, hraised⟩ := exhaustLadder_ok hchron hlast (last_held hchron hlast hbar hheld) hclimbing
    constructor
    · rintro ⟨o, ho, -⟩
      refine ⟨⟨bar, hbar, hheld⟩, fun before' last' hsplit => ?_⟩
      by_contra hclose
      obtain ⟨-, hsame⟩ := List.append_inj' (hlast.symm.trans hsplit) rfl
      obtain ⟨error, hfails⟩ := hraised ((List.cons.inj hsame).1 ▸ hclose)
      rw [herror error hfails] at ho
      nomatch ho
    · rintro ⟨-, hclose⟩
      obtain ⟨s', hs', hkept, hdone, hnoStop⟩ := hclosed (hclose before last hlast)
      obtain ⟨o, ho, hlegs, -, hmark⟩ := hok s' hs' hkept.quantities
      refine ⟨o, ho, (wellFormed_ladder hkept hdone hlegs hmark).mpr ?_⟩
      rintro ⟨leg, hleg, hstop, -⟩
      exact hnoStop leg (hlegs ▸ hleg) hstop
  · -- no bar is seen, so no leg closes and the whole position remains
    refine iff_of_false ?_ fun h => hseen h.1
    rintro ⟨o, ho, hwell⟩
    have hnone : heldBars entry bars = [] := List.filter_eq_nil_iff.mpr fun bar hbar hheld =>
      hseen ⟨bar, hbar, by simpa using hheld⟩
    have hlegsNil : s.legs = [] := by
      refine List.eq_nil_iff_forall_not_mem.mpr fun leg hleg => ?_
      obtain ⟨bar, hbar, -⟩ := hclimbing.kept.times leg hleg
      rw [hnone] at hbar
      nomatch hbar
    have hexhaust : exhaustLadder entry s = .ok s := by rw [exhaustLadder, hclimbing.kept.bars, hnone]; rfl
    obtain ⟨o', ho', hlegs, -, -⟩ := hok s hexhaust hclimbing.kept.quantities
    obtain rfl : o' = o := Except.ok.inj (ho'.symm.trans ho)
    have hsum := hwell.quantities
    rw [hlegs, hlegsNil] at hsum
    exact entry.quantity_pos.ne hsum

theorem ladder_wellFormed_iff (hchron : bars.Pairwise (·.time < ·.time)) (hsided : Sided entry.side entry.averageFillPrice geometry)
    {rungs : List Rung} (hrungs : rungs = ladderRungs entry.side entry.averageFillPrice |entry.averageFillPrice - geometry.1|) :
    (∃ o, replayScaleOut entry bars geometry.1 (some geometry.2) regime policy = .ok o ∧
      WellFormed entry ⟨geometry.1, rungs.map (·.target)⟩ bars o) ↔
      ClosesCleanly entry ⟨geometry.1, rungs.map (·.target)⟩ True bars := by
  have hwhole : WholeLadder rungs := hrungs ▸ ladderRungs_whole ..
  rcases (ladder_spec hchron hwhole).outcome (climbing_start geometry.1 hwhole) with
    ⟨hpriced, hvisit, hends, hfinal, hrun⟩ | ⟨hpriced, hgoes, hfinal, hrun⟩ | ⟨hvisit, hunpriced, hrun⟩
  · obtain ⟨hok, -⟩ := replayScaleOut_of_run policy regime hsided (hrungs ▸ hrun)
    have hexhaust : exhaustLadder entry _ = .ok _ := exhaustLadder_done hfinal.remaining
    obtain ⟨o, ho, hlegs, -, hmark⟩ := hok _ hexhaust hfinal.kept.quantities
    have hresult : (∃ o, replayScaleOut entry bars geometry.1 (some geometry.2) regime policy = .ok o ∧
        WellFormed entry ⟨geometry.1, rungs.map (·.target)⟩ bars o) ↔
        ¬StopReachedTarget entry ⟨geometry.1, rungs.map (·.target)⟩ bars o := by
      rw [← wellFormed_ladder hfinal.kept hfinal.remaining hlegs hmark]
      constructor
      · rintro ⟨o', ho', hwell⟩
        exact Except.ok.inj (ho'.symm.trans ho) ▸ hwell
      · exact fun hwell => ⟨o, ho, hwell⟩
    rw [hresult, climbed_stopReachedTarget hchron hvisit.split hfinal hlegs]
    constructor
    · intro halone
      refine ⟨.inl ⟨_, hvisit.mem, hends.held⟩, hpriced, fun b y hy hnot => ?_, fun _ b y r hy hstops target hnew => ?_⟩
      · rcases hvisit.eq_or_before hends hy with ⟨rfl, rfl, -⟩ | ⟨-, hmore⟩
        · exact absurd hends hnot
        · exact absurd rfl hmore
      · rcases hvisit.eq_or_before hends hy with ⟨rfl, rfl, -⟩ | ⟨hgoes, -⟩
        · exact halone ⟨hstops, target, hnew⟩
        · exact hgoes (.inl hstops)
    · rintro h ⟨hstops, target, hnew⟩
      exact h.alone trivial _ _ _ hvisit hstops target hnew
  · rw [ladder_ran hchron hrungs hsided hfinal hrun]
    constructor
    · rintro ⟨hseen, hclose⟩
      exact ⟨.inl hseen, hpriced, fun b y hy _ => hclose b y hy.split, fun _ b y r hy hstops => absurd (.inl hstops) (hgoes b y r hy)⟩
    · intro h
      refine ⟨h.seen.resolve_right fun hnil => hnil.2 trivial, fun before last hsplit => ?_⟩
      have hvisit := Breaks.visits_of_split hgoes hsplit
      exact h.closed before last hvisit (hgoes _ _ _ hvisit)
  · refine iff_of_false ?_ fun h => hunpriced (h.priced _ _ _ hvisit)
    rintro ⟨o, ho, -⟩
    rw [replayScaleOut_of_error hsided (hrungs ▸ hrun)] at ho
    nomatch ho

end ShadowReplayAux

open ShadowReplayAux

/-- A shadow replay returns a well-formed result exactly if the bars close the position cleanly. -/
theorem replayEntry_wellFormed (entry : RealEntry) (policy : ExitPolicyId) (atr14 : Option ℚ) (regime : Regime) {bars : List Bar}
    (hchron : bars.Pairwise (·.time < ·.time)) :
    (∃ o, replayEntry entry policy bars atr14 regime = .ok o ∧ WellFormed entry (policyLevels entry policy atr14 regime) bars o) ↔
      ClosesCleanly entry (policyLevels entry policy atr14 regime) (effectivePolicy policy regime = .scaleOutRunner) bars := by
  have hsided := initialGeometry_sided entry policy atr14 regime
  unfold replayEntry
  rw [buildInitialGeometry_eq]
  by_cases hladder : effectivePolicy policy regime = .scaleOutRunner
  · simp only [policyLevels, if_pos hladder]
    rw [ladder_wellFormed_iff hchron hsided rfl, hladder]
    simp only
  · simp only [policyLevels, if_neg hladder]
    rw [single_wellFormed_iff hchron hsided, eq_false hladder]

/-- A long of one unit at 100. -/
def sampleEntry : RealEntry where
  positionId := "p-1"
  symbol := "BTC/USDT"
  side := .long
  averageFillPrice := 100
  fillTimestamp := 0
  filledQuantity := 1
  entryFeeUsdt := 0
  price_pos := SampleLevels.hundred_pos
  quantity_pos := SampleLevels.one_pos
  fee_nonneg := SampleLevels.zero_nonneg

/-- A bar around the entry. -/
def quietBar : Bar := ⟨60000000, 100, 101, 99, 100, 5, by norm_num⟩

theorem replayEntry_wellFormed_quiet :
    ∃ o, replayEntry sampleEntry .scaleOutRunner [quietBar] (some 2) .trend = .ok o ∧
      WellFormed sampleEntry (policyLevels sampleEntry .scaleOutRunner (some 2) .trend) [quietBar] o := by
  refine (replayEntry_wellFormed sampleEntry .scaleOutRunner (some 2) .trend (List.pairwise_singleton _ _)).mpr ?_
  have honly : ∀ before bar after, [quietBar] = before ++ bar :: after → before = [] ∧ bar = quietBar := by
    intro before bar after h
    cases before with
    | nil => exact ⟨rfl, (List.cons.inj h).1.symm⟩
    | cons b before => simp at h
  have hstop : ¬StopsAt sampleEntry (policyLevels sampleEntry .scaleOutRunner (some 2) .trend) [] quietBar := by decide +kernel
  have hreach : ∀ target ∈ (policyLevels sampleEntry .scaleOutRunner (some 2) .trend).targets,
      barTouches .long quietBar target .target = false := by decide +kernel
  refine ⟨.inl ⟨quietBar, List.mem_cons_self, by decide⟩, ?_, ?_, ?_⟩
  · intro before bar after h
    obtain ⟨rfl, rfl⟩ := honly _ _ _ h.split
    exact ⟨fun hs => absurd hs hstop, fun _ _ target hnew => absurd hnew.2.1 (by simp [sampleEntry, hreach target hnew.1])⟩
  · intro before bar h _
    obtain ⟨-, rfl⟩ := honly _ _ _ h.split
    norm_num [quietBar]
  · intro _ before bar after h hs
    obtain ⟨rfl, rfl⟩ := honly _ _ _ h.split
    exact absurd hs hstop

/-- A bar that touches the stop at 97 and the first target at 103. -/
def wideBar : Bar := ⟨60000000, 100, 104, 96, 100, 5, by norm_num⟩

/-- A ladder that is stopped on a bar that reaches its first target is reported as unambiguous. -/
theorem replayEntry_wellFormed_stopAndTarget :
    ¬∃ o, replayEntry sampleEntry .scaleOutRunner [wideBar] (some 2) .trend = .ok o ∧
      WellFormed sampleEntry (policyLevels sampleEntry .scaleOutRunner (some 2) .trend) [wideBar] o := by
  rintro ⟨o, ho, hwell⟩
  have hrun : (replayEntry sampleEntry .scaleOutRunner [wideBar] (some 2) .trend).map
      (fun o => (o.ambiguousIntrabar, o.legs.map fun leg => (leg.reason, leg.filledAt))) = .ok (false, [(.stop, 60000000)]) := by
    decide +kernel
  rw [ho] at hrun
  obtain ⟨hmark, hlegs⟩ := Prod.mk.inj (Except.ok.inj hrun)
  obtain ⟨leg, hleg, hfacts⟩ := List.mem_map.mp (hlegs ▸ List.mem_cons_self)
  obtain ⟨hstop, htime⟩ := Prod.mk.inj hfacts
  have hnew : NewlyReached sampleEntry (policyLevels sampleEntry .scaleOutRunner (some 2) .trend) [] wideBar 103 := by
    refine ⟨?_, ?_, rfl⟩ <;> decide +kernel
  have hreached := hwell.ambiguous.mpr ⟨leg, hleg, hstop, [], wideBar, [], rfl, htime.symm, 103, hnew⟩
  rw [hmark] at hreached
  nomatch hreached

end ExitPolicyShadow
end TradingPlatform
