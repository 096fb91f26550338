import Mathlib.Algebra.BigOperators.Ring.List
import Mathlib.Tactic.Positivity
import TradingPlatform.Engine.ExitPolicyShadow
import TradingPlatform.Lib.Breaks
import TradingPlatform.Lib.Budget
import TradingPlatform.Lib.Loops

/-!
# Replay of a shadow exit

The levels of a position, the runs over the bars that reach them, and the outcome.
-/

namespace TradingPlatform
namespace ExitPolicyShadow

/-!
## The levels of a shadow exit and the bars that reach them

A position has a stop and targets. A target is reached by a bar at or after the fill; the stop is the entry once the first target is
reached. A bar ends the trade if it touches the stop in force, or if with it every target is reached. Both replay loops break exactly
at the first such bar.
-/

/-- The prices that close a position: the initial stop and the targets. -/
structure Levels where
  stop : ℚ
  targets : List ℚ

section Levels

variable (entry : RealEntry) (levels : Levels) (before : List Bar) (bar : Bar)

/-- The bars at or after the fill. -/
def heldBars (bars : List Bar) : List Bar := bars.filter fun bar => decide (entry.fillTimestamp ≤ bar.time)

/-- A bar at or after the fill reaches the target. -/
def reached (bars : List Bar) (target : ℚ) : Bool := (heldBars entry bars).any (barTouches entry.side · target .target)

/-- The stop in force after some bars: the entry, once the first target is reached. -/
def stopAfter : ℚ := if levels.targets.head?.any (reached entry before) then entry.averageFillPrice else levels.stop

/-- The bar touches the stop in force. -/
def StopsAt : Prop := entry.fillTimestamp ≤ bar.time ∧ barTouches entry.side bar (stopAfter entry levels before) .stop = true

instance : Decidable (StopsAt entry levels before bar) := inferInstanceAs (Decidable (_ ∧ _))

/-- The bar ends the trade: it touches the stop, or with it every target is reached. -/
def EndsAt : Prop :=
  StopsAt entry levels before bar ∨
    entry.fillTimestamp ≤ bar.time ∧ ∀ target ∈ levels.targets, reached entry (before ++ [bar]) target = true

instance : Decidable (EndsAt entry levels before bar) := inferInstanceAs (Decidable (_ ∨ _))

/-- The bar reaches a target that no bar before it did. -/
def NewlyReached (target : ℚ) : Prop :=
  target ∈ levels.targets ∧ barTouches entry.side bar target .target = true ∧ reached entry before target = false

/-- The prices at which legs close at the bar are positive: the stop in force, or else the targets newly reached. -/
def PricedAt : Prop :=
  (StopsAt entry levels before bar → 0 < stopAfter entry levels before) ∧
    (entry.fillTimestamp ≤ bar.time → ¬StopsAt entry levels before bar →
      ∀ target, NewlyReached entry levels before bar target → 0 < target)

theorem heldBars_append (bars bars' : List Bar) : heldBars entry (bars ++ bars') = heldBars entry bars ++ heldBars entry bars' :=
  List.filter_append ..

theorem mem_heldBars {bars : List Bar} : bar ∈ heldBars entry bars ↔ bar ∈ bars ∧ entry.fillTimestamp ≤ bar.time := by
  simp [heldBars]

variable {entry bar}

theorem heldBars_singleton (h : entry.fillTimestamp ≤ bar.time) : heldBars entry [bar] = [bar] := by simp [heldBars, h]

theorem heldBars_singleton_early (h : bar.time < entry.fillTimestamp) : heldBars entry [bar] = [] := by simp [heldBars, h]

theorem reached_append_held (h : entry.fillTimestamp ≤ bar.time) (target : ℚ) :
    reached entry (before ++ [bar]) target = (reached entry before target || barTouches entry.side bar target .target) := by
  simp [reached, heldBars_append, heldBars_singleton h]

theorem reached_append_early (h : bar.time < entry.fillTimestamp) (target : ℚ) :
    reached entry (before ++ [bar]) target = reached entry before target := by
  simp [reached, heldBars_append, heldBars_singleton_early h]

theorem EndsAt.held {levels : Levels} {before : List Bar} (h : EndsAt entry levels before bar) :
    entry.fillTimestamp ≤ bar.time := by
  rcases h with h | h
  · exact h.1
  · exact h.1

end Levels

/-! ## One target -/

section Single

variable {entry : RealEntry} {stop target : ℚ}

theorem singleExitAt_eq_none {side : Direction} {bar : Bar} :
    singleExitAt side stop (some target) bar = none ↔
      barTouches side bar stop .stop = false ∧ barTouches side bar target .target = false := by
  unfold singleExitAt
  cases hs : barTouches side bar stop .stop <;> cases ht : barTouches side bar target .target <;>
    simp [ht, Option.filter]

/-- The loop of one target, on the way: nothing has closed the position. -/
structure SingleOpen (entry : RealEntry) (target : ℚ) (before : List Bar) (s : SingleRun) : Prop where
  exit : s.exit = none
  bars : s.barsUntilExit = heldBars entry before
  unreached : reached entry before target = false

/-- The loop of one target, at its break. -/
structure SingleClosed (entry : RealEntry) (stop target : ℚ) (before : List Bar) (bar : Bar) (s : SingleRun) : Prop where
  exit : s.exit = singleExitAt entry.side stop (some target) bar
  bars : s.barsUntilExit = heldBars entry (before ++ [bar])
  unreached : reached entry before target = false

/-- Before its only target is reached, a position has its initial stop. -/
theorem stopAfter_single {before : List Bar} (h : reached entry before target = false) :
    stopAfter entry ⟨stop, [target]⟩ before = stop := by
  simp [stopAfter, h]

/-- A position with one target ends at a bar exactly if the bar has an exit. -/
theorem endsAt_single {before : List Bar} {bar : Bar} (h : reached entry before target = false)
    (hheld : entry.fillTimestamp ≤ bar.time) :
    EndsAt entry ⟨stop, [target]⟩ before bar ↔ singleExitAt entry.side stop (some target) bar ≠ none := by
  rw [Ne, singleExitAt_eq_none]
  simp only [EndsAt, StopsAt, stopAfter_single h, reached_append_held before hheld, hheld]
  cases barTouches entry.side bar stop .stop <;> simp [h]

variable (stop) in
theorem single_spec (bars : List Bar) :
    Breaks.Spec (SingleOpen entry target) (EndsAt entry ⟨stop, [target]⟩) (fun _ _ => True) (SingleClosed entry stop target)
      (singleStep entry stop (some target)) bars where
  raises _ _ hunsafe := absurd trivial hunsafe
  breaks := by
    intro before bar _ s _ hs _ hends
    have hheld := hends.held
    obtain ⟨e, he⟩ := Option.ne_none_iff_exists'.mp ((endsAt_single hs.unreached hheld).mp hends)
    refine ⟨{ barsUntilExit := s.barsUntilExit ++ [bar], exit := some e }, ?_, ⟨he.symm, ?_, hs.unreached⟩⟩
    · simp [singleStep, not_lt.mpr hheld, he]
    · simp [heldBars_append, heldBars_singleton hheld, hs.bars]
  goes := by
    intro before bar _ s _ hs _ hends
    by_cases hheld : entry.fillTimestamp ≤ bar.time
    · have hnone : singleExitAt entry.side stop (some target) bar = none := by
        by_contra hne
        exact hends ((endsAt_single hs.unreached hheld).mpr hne)
      refine ⟨{ s with barsUntilExit := s.barsUntilExit ++ [bar] }, ?_, ⟨hs.exit, ?_, ?_⟩⟩
      · simp [singleStep, not_lt.mpr hheld, hnone]
      · simp [heldBars_append, heldBars_singleton hheld, hs.bars]
      · rw [reached_append_held before hheld, hs.unreached, (singleExitAt_eq_none.mp hnone).2]
        rfl
    · have hearly := not_le.mp hheld
      refine ⟨s, by simp [singleStep, hearly], ⟨hs.exit, ?_, ?_⟩⟩
      · simp [heldBars_append, heldBars_singleton_early hearly, hs.bars]
      · rw [reached_append_early before hearly, hs.unreached]

end Single

end ExitPolicyShadow
end TradingPlatform

namespace TradingPlatform
namespace ExitPolicyShadow

/-!
## The run of the shadow ladder

A bar sells the rungs it touches that are not sold yet. The legs of a run, with what remains, are always the whole position, and the
run breaks at the bar that ends the trade.
-/

variable {entry : RealEntry} {bar : Bar}

/-- The fractions of some rungs, together. -/
def fractionOf (rungs : List Rung) : ℚ := (rungs.map (·.fraction)).sum

/-- What a bar adds to the run of the ladder, where it sells the rungs `hit`. -/
structure Sold (entry : RealEntry) (bar : Bar) (hit : List Rung) (s s' : LadderRun) : Prop where
  remaining : s'.remaining = s.remaining - entry.filledQuantity * fractionOf hit
  indices : s'.filledTargetIndices = s.filledTargetIndices ++ hit.map (·.index)
  stop : s'.stop = if 0 ∈ hit.map (·.index) then entry.averageFillPrice else s.stop
  bars : s'.barsUntilExit = s.barsUntilExit
  reason : 0 < s'.remaining → s'.finalReason = s.finalReason
  legs : ∃ new, s'.legs = s.legs ++ new ∧ (∀ leg ∈ new, leg.filledAt = bar.time ∧ leg.reason ≠ .stop) ∧
    new.map (·.quantity) = hit.map (entry.filledQuantity * ·.fraction) ∧ new.map (·.quantityFraction) = hit.map (·.fraction)

theorem Sold.refl (s : LadderRun) : Sold entry bar [] s s where
  remaining := by simp [fractionOf]
  indices := by simp
  stop := by simp
  bars := rfl
  reason _ := rfl
  legs := ⟨[], by simp⟩

/-- Selling one rung and then others. -/
theorem Sold.cons {rung : Rung} {hit : List Rung} {s s₁ s' : LadderRun} (h : Sold entry bar [rung] s s₁) (h' : Sold entry bar hit s₁ s')
    (hle : s'.remaining ≤ s₁.remaining) : Sold entry bar (rung :: hit) s s' where
  remaining := by
    rw [h'.remaining, h.remaining]
    simp only [fractionOf, List.map_cons, List.map_nil, List.sum_cons, List.sum_nil]
    ring
  indices := by rw [h'.indices, h.indices]; simp
  stop := by
    rw [h'.stop, h.stop]
    by_cases hrung : 0 = rung.index <;> simp [hrung]
  bars := h'.bars.trans h.bars
  reason hpos := (h'.reason hpos).trans (h.reason (lt_of_lt_of_le hpos hle))
  legs := by
    obtain ⟨new, hlegs, hnew, hquantity, hfraction⟩ := h.legs
    obtain ⟨new', hlegs', hnew', hquantity', hfraction'⟩ := h'.legs
    refine ⟨new ++ new', by rw [hlegs', hlegs, List.append_assoc], ?_, ?_, ?_⟩
    · intro leg hleg
      rcases List.mem_append.mp hleg with hleg | hleg
      · exact hnew leg hleg
      · exact hnew' leg hleg
    · rw [List.map_append, hquantity, hquantity']
      rfl
    · rw [List.map_append, hfraction, hfraction']
      rfl

/-- The rungs a bar sells: those it touches that are not sold yet. -/
def hitRungs (entry : RealEntry) (bar : Bar) (s : LadderRun) (rungs : List Rung) : List Rung :=
  rungs.filter fun rung => decide (rung.index ∉ s.filledTargetIndices) && barTouches entry.side bar rung.target .target

/-- The rungs that are not sold yet. -/
def openRungs (s : LadderRun) (rungs : List Rung) : List Rung := rungs.filter fun rung => decide (rung.index ∉ s.filledTargetIndices)

/-- The rungs of a ladder: parts of the position under different indices. -/
structure Ladder (rungs : List Rung) : Prop where
  fractions : ∀ rung ∈ rungs, 0 < rung.fraction ∧ rung.fraction ≤ 1
  indices : (rungs.map (·.index)).Nodup

theorem Ladder.tail {rung : Rung} {rungs : List Rung} (h : Ladder (rung :: rungs)) : Ladder rungs where
  fractions r hr := h.fractions r (List.mem_cons_of_mem rung hr)
  indices := (List.nodup_cons.mp h.indices).2

theorem fractionOf_nonneg {rungs : List Rung} (h : ∀ rung ∈ rungs, 0 < rung.fraction) : 0 ≤ fractionOf rungs := by
  refine List.sum_nonneg fun x hx => ?_
  obtain ⟨rung, hrung, rfl⟩ := List.mem_map.mp hx
  exact (h rung hrung).le

theorem fractionOf_pos {rungs : List Rung} (h : ∀ rung ∈ rungs, 0 < rung.fraction) (hne : rungs ≠ []) : 0 < fractionOf rungs := by
  obtain ⟨rung, rest, rfl⟩ := List.exists_cons_of_ne_nil hne
  have hrest : 0 ≤ fractionOf rest := fractionOf_nonneg fun r hr => h r (List.mem_cons_of_mem rung hr)
  have hrung := h rung List.mem_cons_self
  simp only [fractionOf, List.map_cons, List.sum_cons] at hrest ⊢
  linarith

variable (bar) in
/-- A rung is sold at its price, in full, where enough is left. -/
theorem sellRung_ok {rung : Rung} {s : LadderRun} (hfraction : 0 < rung.fraction ∧ rung.fraction ≤ 1)
    (hleft : entry.filledQuantity * rung.fraction ≤ s.remaining) (hprice : 0 < rung.target) :
    ∃ leg : ExitLeg, leg.quantity = entry.filledQuantity * rung.fraction ∧ leg.quantityFraction = rung.fraction ∧
      leg.filledAt = bar.time ∧ leg.reason ≠ .stop ∧
      sellRung entry bar rung s = .ok
        { s with legs := s.legs ++ [leg], remaining := s.remaining - entry.filledQuantity * rung.fraction } := by
  have hquantity : 0 < entry.filledQuantity * rung.fraction := mul_pos entry.quantity_pos hfraction.1
  refine ⟨⟨rung.label, rung.target, entry.filledQuantity * rung.fraction, rung.fraction, bar.time,
    if rung.index < 2 then .partialTarget else .target, .unambiguous, hprice, hquantity, hfraction.1, hfraction.2⟩,
    rfl, rfl, rfl, ?_, ?_⟩
  · dsimp only
    split <;> simp
  · simp [sellRung, ExitLeg.new, min_eq_left hleft, hquantity, hprice, hfraction, bind, Except.bind, pure, Except.pure]

variable (bar) in
theorem sellRung_error {rung : Rung} {s : LadderRun} (hfraction : 0 < rung.fraction)
    (hleft : entry.filledQuantity * rung.fraction ≤ s.remaining) (hprice : ¬0 < rung.target) :
    ∃ e, sellRung entry bar rung s = .error e := by
  have hquantity : 0 < entry.filledQuantity * rung.fraction := mul_pos entry.quantity_pos hfraction
  exact ⟨.valueError "price", by simp [sellRung, ExitLeg.new, min_eq_left hleft, hquantity, hprice, bind, Except.bind]⟩

theorem hitRungs_cons_skip {rung : Rung} {rungs : List Rung} {s : LadderRun}
    (h : rung.index ∈ s.filledTargetIndices ∨ barTouches entry.side bar rung.target .target = false) :
    hitRungs entry bar s (rung :: rungs) = hitRungs entry bar s rungs := by
  unfold hitRungs
  rcases h with h | h <;> simp [h]

theorem openRungs_cons {rung : Rung} {rungs : List Rung} {s : LadderRun} (h : rung.index ∉ s.filledTargetIndices) :
    openRungs s (rung :: rungs) = rung :: openRungs s rungs := by
  simp [openRungs, h]

theorem mem_hitRungs {rung : Rung} {rungs : List Rung} {s : LadderRun} :
    rung ∈ hitRungs entry bar s rungs ↔
      rung ∈ rungs ∧ rung.index ∉ s.filledTargetIndices ∧ barTouches entry.side bar rung.target .target = true := by
  simp [hitRungs]

theorem mem_openRungs {rung : Rung} {rungs : List Rung} {s : LadderRun} :
    rung ∈ openRungs s rungs ↔ rung ∈ rungs ∧ rung.index ∉ s.filledTargetIndices := by
  simp [openRungs]

variable (entry bar) in
/-- The other rungs do not notice that a rung is sold. -/
theorem sold_others {rung : Rung} {rungs : List Rung} {s s₁ : LadderRun} (hladder : Ladder (rung :: rungs))
    (h : s₁.filledTargetIndices = s.filledTargetIndices ++ [rung.index]) :
    hitRungs entry bar s₁ rungs = hitRungs entry bar s rungs ∧ openRungs s₁ rungs = openRungs s rungs := by
  have hne : ∀ r ∈ rungs, (r.index ∉ s₁.filledTargetIndices ↔ r.index ∉ s.filledTargetIndices) := by
    intro r hr
    have hother : r.index ≠ rung.index := by
      intro heq
      have hmem : r.index ∈ rungs.map (·.index) := List.mem_map_of_mem hr
      rw [heq] at hmem
      exact (List.nodup_cons.mp hladder.indices).1 hmem
    simp [h, hother]
  constructor
  · exact List.filter_congr fun r hr => by rw [decide_eq_decide.mpr (hne r hr)]
  · exact List.filter_congr fun r hr => decide_eq_decide.mpr (hne r hr)

theorem hitRungs_of_open {rungs : List Rung} {s : LadderRun} (h : openRungs s rungs = []) : hitRungs entry bar s rungs = [] := by
  refine List.filter_eq_nil_iff.mpr fun rung hrung => ?_
  have hfilled := List.filter_eq_nil_iff.mp h rung hrung
  simp only [decide_eq_true_eq] at hfilled
  simp [hfilled]

/-- The state after a rung is sold, before the loop asks whether anything is left. -/
def afterRung (entry : RealEntry) (rung : Rung) (leg : ExitLeg) (s : LadderRun) : LadderRun :=
  { s with
    legs := s.legs ++ [leg], remaining := s.remaining - entry.filledQuantity * rung.fraction
    filledTargetIndices := s.filledTargetIndices ++ [rung.index]
    stop := if rung.index = 0 then entry.averageFillPrice else s.stop }

theorem Sold.one {rung : Rung} {leg : ExitLeg} {s : LadderRun} (hquantity : leg.quantity = entry.filledQuantity * rung.fraction)
    (hpart : leg.quantityFraction = rung.fraction) (htime : leg.filledAt = bar.time) (hreason : leg.reason ≠ .stop) :
    Sold entry bar [rung] s (afterRung entry rung leg s) where
  remaining := by simp [afterRung, fractionOf]
  indices := rfl
  stop := by by_cases h : rung.index = 0 <;> simp [afterRung, h, eq_comm]
  bars := rfl
  reason _ := rfl
  legs := ⟨[leg], rfl, by simp [htime, hreason], by simp [hquantity], by simp [hpart]⟩

/-- A run that sold everything records that the targets ended it. -/
theorem Sold.ended {hit : List Rung} {s s' : LadderRun} (h : Sold entry bar hit s s') (hdone : s'.remaining ≤ 0) :
    Sold entry bar hit s { s' with finalReason := .target } :=
  { h with reason := fun hpos => absurd hdone (not_le.mpr hpos) }

/-- The loop over the rungs at a bar: it sells the rungs the bar touches, unless one of them has no price. -/
theorem fillRungs_spec {rungs : List Rung} {s : LadderRun} (hladder : Ladder rungs)
    (hleft : entry.filledQuantity * fractionOf (openRungs s rungs) ≤ s.remaining) :
    ((∀ rung ∈ hitRungs entry bar s rungs, 0 < rung.target) →
      ∃ s', fillRungs entry bar rungs s = .ok s' ∧ Sold entry bar (hitRungs entry bar s rungs) s s') ∧
    (∀ rung ∈ hitRungs entry bar s rungs, ¬0 < rung.target → ∃ e, fillRungs entry bar rungs s = .error e) := by
  induction rungs generalizing s with
  | nil => exact ⟨fun _ => ⟨s, rfl, Sold.refl s⟩, fun rung hrung => nomatch hrung⟩
  | cons rung rungs ih =>
    by_cases hfilled : rung.index ∈ s.filledTargetIndices
    · have hopen : openRungs s (rung :: rungs) = openRungs s rungs := by simp [openRungs, hfilled]
      rw [hitRungs_cons_skip (.inl hfilled), fillRungs, if_pos hfilled]
      exact ih hladder.tail (hopen ▸ hleft)
    · rw [openRungs_cons hfilled] at hleft
      have hfraction := hladder.fractions rung List.mem_cons_self
      have hrest : 0 ≤ fractionOf (openRungs s rungs) := fractionOf_nonneg fun r hr =>
        (hladder.tail.fractions r (mem_openRungs.mp hr).1).1
      have hsplit : entry.filledQuantity * rung.fraction + entry.filledQuantity * fractionOf (openRungs s rungs) ≤ s.remaining := by
        rw [← mul_add]
        simpa [fractionOf] using hleft
      have hothers : 0 ≤ entry.filledQuantity * fractionOf (openRungs s rungs) := mul_nonneg entry.quantity_pos.le hrest
      by_cases htouch : barTouches entry.side bar rung.target .target = true
      · have hhit : hitRungs entry bar s (rung :: rungs) = rung :: hitRungs entry bar s rungs := by
          simp [hitRungs, hfilled, htouch]
        rw [hhit, fillRungs, if_neg hfilled, if_pos htouch]
        by_cases hprice : 0 < rung.target
        · obtain ⟨leg, hquantity, hpart, htime, hreason, hsell⟩ := sellRung_ok bar hfraction (by linarith) hprice
          rw [hsell]
          have hsold := Sold.one (s := s) hquantity hpart htime hreason
          obtain ⟨hhits, hopens⟩ := sold_others entry bar hladder hsold.indices
          by_cases hdone : s.remaining - entry.filledQuantity * rung.fraction ≤ 0
          · -- nothing is left, so no rung is open that the loop could skip
            have hnone : openRungs s rungs = [] := by
              by_contra hne
              have hpos := fractionOf_pos (fun r hr => (hladder.tail.fractions r (mem_openRungs.mp hr).1).1) hne
              have := mul_pos entry.quantity_pos hpos
              linarith
            rw [hitRungs_of_open hnone]
            refine ⟨fun _ => ⟨_, if_pos hdone, hsold.ended hdone⟩, fun r hr hbad => ?_⟩
            rw [List.mem_singleton.mp hr] at hbad
            exact absurd hprice hbad
          · have hleft₁ : entry.filledQuantity * fractionOf (openRungs (afterRung entry rung leg s) rungs) ≤
                (afterRung entry rung leg s).remaining := by
              rw [hopens]
              exact le_sub_iff_add_le'.mpr hsplit
            have hsome : 0 ≤ entry.filledQuantity * fractionOf (hitRungs entry bar s rungs) :=
              mul_nonneg entry.quantity_pos.le (fractionOf_nonneg fun r hr =>
                (hladder.tail.fractions r (List.mem_filter.mp hr).1).1)
            obtain ⟨hok, herror⟩ := ih hladder.tail hleft₁
            rw [hhits] at hok herror
            refine ⟨fun hall => ?_, fun r hr hbad => ?_⟩
            · obtain ⟨s', hs', hsold'⟩ := hok fun r hr => hall r (List.mem_cons_of_mem rung hr)
              exact ⟨s', (if_neg hdone).trans hs', hsold.cons hsold' (by rw [hsold'.remaining]; linarith)⟩
            · rcases List.mem_cons.mp hr with rfl | hr
              · exact absurd hprice hbad
              · obtain ⟨e, he⟩ := herror r hr hbad
                exact ⟨e, (if_neg hdone).trans he⟩
        · obtain ⟨e, he⟩ := sellRung_error bar (s := s) hfraction.1 (by linarith) hprice
          rw [he]
          exact ⟨fun h => absurd (h rung List.mem_cons_self) hprice, fun _ _ _ => ⟨e, rfl⟩⟩
      · have hmiss : barTouches entry.side bar rung.target .target = false := by simpa using htouch
        rw [hitRungs_cons_skip (.inr hmiss), fillRungs, if_neg hfilled, if_neg htouch]
        have hpart : 0 ≤ entry.filledQuantity * rung.fraction := mul_nonneg entry.quantity_pos.le hfraction.1.le
        exact ih hladder.tail (by linarith)

/-! ## The run -/

/-- The legs of a run and what remains are the whole position, and the legs closed in the order of the bars. -/
structure LegsKept (entry : RealEntry) (before : List Bar) (s : LadderRun) : Prop where
  quantities : (s.legs.map (·.quantity)).sum + s.remaining = entry.filledQuantity
  fractions : entry.filledQuantity * (s.legs.map (·.quantityFraction)).sum + s.remaining = entry.filledQuantity
  times : ∀ leg ∈ s.legs, ∃ bar ∈ heldBars entry before, leg.filledAt = bar.time
  ordered : s.legs.Pairwise (·.filledAt ≤ ·.filledAt)
  bars : s.barsUntilExit = heldBars entry before

/-- New legs of a bar keep the legs of the bars before it. -/
theorem LegsKept.append {before : List Bar} {s s' : LadderRun} {new : List ExitLeg} (h : LegsKept entry before s)
    (hheld : entry.fillTimestamp ≤ bar.time) (hlater : ∀ b ∈ before, b.time ≤ bar.time) (hlegs : s'.legs = s.legs ++ new)
    (hnew : ∀ leg ∈ new, leg.filledAt = bar.time) (hbars : s'.barsUntilExit = s.barsUntilExit ++ [bar])
    (hquantity : (new.map (·.quantity)).sum + s'.remaining = s.remaining)
    (hfraction : entry.filledQuantity * (new.map (·.quantityFraction)).sum + s'.remaining = s.remaining) :
    LegsKept entry (before ++ [bar]) s' where
  quantities := by
    rw [hlegs, List.map_append, List.sum_append, add_assoc, hquantity]
    exact h.quantities
  fractions := by
    rw [hlegs, List.map_append, List.sum_append, mul_add, add_assoc, hfraction]
    exact h.fractions
  times := by
    rw [hlegs, heldBars_append, heldBars_singleton hheld]
    intro leg hleg
    rcases List.mem_append.mp hleg with hleg | hleg
    · obtain ⟨b, hb, htime⟩ := h.times leg hleg
      exact ⟨b, List.mem_append_left _ hb, htime⟩
    · exact ⟨bar, by simp, hnew leg hleg⟩
  ordered := by
    rw [hlegs]
    refine List.pairwise_append.mpr ⟨h.ordered, ?_, ?_⟩
    · exact List.pairwise_of_forall_mem_list fun leg hleg leg' hleg' => by rw [hnew leg hleg, hnew leg' hleg']
    · intro leg hleg leg' hleg'
      obtain ⟨b, hb, htime⟩ := h.times leg hleg
      rw [htime, hnew leg' hleg']
      exact hlater b ((mem_heldBars entry b).mp hb).1
  bars := by rw [hbars, h.bars, heldBars_append, heldBars_singleton hheld]

/-- A bar before the fill leaves the legs as they are. -/
theorem LegsKept.early {before : List Bar} {s : LadderRun} (h : LegsKept entry before s) (hearly : bar.time < entry.fillTimestamp) :
    LegsKept entry (before ++ [bar]) s := by
  have hheld : heldBars entry (before ++ [bar]) = heldBars entry before := by
    rw [heldBars_append, heldBars_singleton_early hearly, List.append_nil]
  exact ⟨h.quantities, h.fractions, hheld ▸ h.times, h.ordered, hheld ▸ h.bars⟩

/-- The run of the ladder, on the way: the rungs sold are those reached, and something is left. -/
structure Climbing (entry : RealEntry) (stop : ℚ) (rungs : List Rung) (before : List Bar) (s : LadderRun) : Prop where
  kept : LegsKept entry before s
  filled : ∀ rung ∈ rungs, rung.index ∈ s.filledTargetIndices ↔ reached entry before rung.target = true
  remaining : s.remaining = entry.filledQuantity * fractionOf (openRungs s rungs)
  left : 0 < s.remaining
  stop : s.stop = stopAfter entry ⟨stop, rungs.map (·.target)⟩ before
  noStop : ∀ leg ∈ s.legs, leg.reason ≠ .stop
  reason : s.finalReason = .dataExhausted

/-- The run of the ladder at its break: nothing is left, and a leg closed at the stop exactly if the bar stopped the trade. -/
structure Climbed (entry : RealEntry) (levels : Levels) (before : List Bar) (bar : Bar) (s : LadderRun) : Prop where
  kept : LegsKept entry (before ++ [bar]) s
  remaining : s.remaining = 0
  stopped : StopsAt entry levels before bar → ∃ leg ∈ s.legs, leg.reason = .stop ∧ leg.filledAt = bar.time
  stopLeg : ∀ leg ∈ s.legs, leg.reason = .stop → StopsAt entry levels before bar ∧ leg.filledAt = bar.time
  last : ∃ leg, s.legs.getLast? = some leg ∧ leg.filledAt = bar.time

/-- A ladder whose rungs are the whole position, the first of them with index 0. -/
structure WholeLadder (rungs : List Rung) : Prop extends Ladder rungs where
  total : fractionOf rungs = 1
  first : ∃ rung rest, rungs = rung :: rest ∧ rung.index = 0

section Run

variable {stop : ℚ} {rungs : List Rung} {before : List Bar} {s s' : LadderRun}

/-- The bar joins the bars a run has seen. -/
def LadderRun.saw (s : LadderRun) (bar : Bar) : LadderRun := { s with barsUntilExit := s.barsUntilExit ++ [bar] }

@[simp] theorem LadderRun.saw_filled : (s.saw bar).filledTargetIndices = s.filledTargetIndices := rfl
@[simp] theorem LadderRun.saw_remaining : (s.saw bar).remaining = s.remaining := rfl
@[simp] theorem LadderRun.saw_stop : (s.saw bar).stop = s.stop := rfl

theorem Climbing.mem_hitRungs (h : Climbing entry stop rungs before s) {rung : Rung} :
    rung ∈ hitRungs entry bar (s.saw bar) rungs ↔
      rung ∈ rungs ∧ reached entry before rung.target = false ∧ barTouches entry.side bar rung.target .target = true := by
  rw [ExitPolicyShadow.mem_hitRungs, LadderRun.saw_filled]
  refine and_congr_right fun hrung => and_congr_left fun _ => ?_
  rw [h.filled rung hrung, Bool.not_eq_true]

/-- A rung of the ladder is known by its index. -/
theorem Ladder.index_mem {rungs hit : List Rung} (h : Ladder rungs) (hsub : ∀ r ∈ hit, r ∈ rungs) {rung : Rung} (hrung : rung ∈ rungs) :
    rung.index ∈ hit.map (·.index) ↔ rung ∈ hit := by
  refine ⟨fun hmem => ?_, fun hmem => List.mem_map_of_mem hmem⟩
  obtain ⟨r, hr, hindex⟩ := List.mem_map.mp hmem
  exact List.inj_on_of_nodup_map h.indices (hsub r hr) hrung hindex ▸ hr

/-- After the bar, a rung is sold exactly if it is reached. -/
theorem Climbing.filled_after (h : Climbing entry stop rungs before s) (hladder : Ladder rungs) (hheld : entry.fillTimestamp ≤ bar.time)
    (hsold : Sold entry bar (hitRungs entry bar (s.saw bar) rungs) (s.saw bar) s') {rung : Rung} (hrung : rung ∈ rungs) :
    rung.index ∈ s'.filledTargetIndices ↔ reached entry (before ++ [bar]) rung.target = true := by
  rw [hsold.indices, List.mem_append, hladder.index_mem (fun r hr => (h.mem_hitRungs.mp hr).1) hrung, h.mem_hitRungs,
    reached_append_held before hheld]
  rw [LadderRun.saw_filled, h.filled rung hrung]
  cases reached entry before rung.target <;> simp [hrung]

/-- The open rungs are those the bar sells and those still open after it. -/
theorem Climbing.remaining_after (h : Climbing entry stop rungs before s) (hladder : Ladder rungs)
    (hsold : Sold entry bar (hitRungs entry bar (s.saw bar) rungs) (s.saw bar) s') :
    s'.remaining = entry.filledQuantity * fractionOf (openRungs s' rungs) := by
  have hsplit : fractionOf (hitRungs entry bar (s.saw bar) rungs) + fractionOf (openRungs s' rungs) = fractionOf (openRungs s rungs) := by
    have htwo := Budget.sum_selected (·.fraction)
      [fun rung : Rung => decide (rung.index ∉ s.filledTargetIndices) && barTouches entry.side bar rung.target .target,
        fun rung => decide (rung.index ∉ s'.filledTargetIndices)] rungs
    have hone := Budget.sum_selected (·.fraction) [fun rung : Rung => decide (rung.index ∉ s.filledTargetIndices)] rungs
    simp only [List.map_cons, List.map_nil, List.sum_cons, List.sum_nil, add_zero] at htwo hone
    refine htwo.trans (Eq.trans (congrArg List.sum (List.map_congr_left fun rung hrung => ?_)) hone.symm)
    have hmem : rung.index ∈ s'.filledTargetIndices ↔
        rung.index ∈ s.filledTargetIndices ∨ reached entry before rung.target = false ∧ barTouches entry.side bar rung.target .target = true := by
      rw [hsold.indices, List.mem_append, hladder.index_mem (fun r hr => (h.mem_hitRungs.mp hr).1) hrung, h.mem_hitRungs]
      simp [hrung]
    have hfilled := h.filled rung hrung
    by_cases hold : rung.index ∈ s.filledTargetIndices <;>
      by_cases htouch : barTouches entry.side bar rung.target .target = true <;>
      simp_all
  rw [hsold.remaining, LadderRun.saw_remaining, h.remaining, ← hsplit]
  ring

/-- After the bar, the stop in force is the one the reached targets set. -/
theorem Climbing.stop_after (h : Climbing entry stop rungs before s) (hladder : WholeLadder rungs) (hheld : entry.fillTimestamp ≤ bar.time)
    (hsold : Sold entry bar (hitRungs entry bar (s.saw bar) rungs) (s.saw bar) s') :
    s'.stop = stopAfter entry ⟨stop, rungs.map (·.target)⟩ (before ++ [bar]) := by
  obtain ⟨rung, rest, hrungs, hindex⟩ := hladder.first
  have hmem : rung ∈ rungs := hrungs ▸ List.mem_cons_self
  have hhead : (rungs.map (·.target)).head? = some rung.target := by rw [hrungs]; rfl
  have hzero : 0 ∈ (hitRungs entry bar (s.saw bar) rungs).map (·.index) ↔ rung ∈ hitRungs entry bar (s.saw bar) rungs := by
    rw [← hindex]
    exact hladder.toLadder.index_mem (fun r hr => (h.mem_hitRungs.mp hr).1) hmem
  rw [hsold.stop, LadderRun.saw_stop, h.stop]
  simp only [stopAfter, hhead, Option.any_some, hzero, h.mem_hitRungs, reached_append_held before hheld]
  cases reached entry before rung.target <;> simp [hmem]

/-- After the bar, the legs and what remains are the whole position, and no leg closed at the stop. -/
theorem Climbing.kept_after (h : Climbing entry stop rungs before s) (hheld : entry.fillTimestamp ≤ bar.time)
    (hlater : ∀ b ∈ before, b.time ≤ bar.time)
    (hsold : Sold entry bar (hitRungs entry bar (s.saw bar) rungs) (s.saw bar) s') :
    LegsKept entry (before ++ [bar]) s' ∧ ∀ leg ∈ s'.legs, leg.reason ≠ .stop := by
  obtain ⟨new, hlegs, hnew, hquantity, hfraction⟩ := hsold.legs
  constructor
  · refine h.kept.append hheld hlater hlegs (fun leg hleg => (hnew leg hleg).1) hsold.bars ?_ ?_
    · have hmul := List.sum_map_mul_left (hitRungs entry bar (s.saw bar) rungs) (·.fraction) entry.filledQuantity
      rw [hquantity, hmul, hsold.remaining, LadderRun.saw_remaining]
      simp only [fractionOf]
      ring
    · rw [hfraction, hsold.remaining, LadderRun.saw_remaining]
      simp only [fractionOf]
      ring
  · intro leg hleg
    rw [hlegs] at hleg
    rcases List.mem_append.mp hleg with hleg | hleg
    · exact h.noStop leg hleg
    · exact (hnew leg hleg).2

variable (entry bar) in
/-- What is left is closed at a price that is positive. -/
theorem closeRest_ok (label : String) (reason : ExitReason) {price : ℚ} (hprice : 0 < price) (hleft : 0 < s.remaining)
    (hle : s.remaining ≤ entry.filledQuantity) :
    ∃ leg : ExitLeg, leg.quantity = s.remaining ∧ leg.quantityFraction = s.remaining / entry.filledQuantity ∧
      leg.filledAt = bar.time ∧ leg.reason = reason ∧
      closeRest entry label price bar reason s = .ok { s with legs := s.legs ++ [leg], remaining := 0 } := by
  have hfraction : 0 < s.remaining / entry.filledQuantity ∧ s.remaining / entry.filledQuantity ≤ 1 :=
    ⟨div_pos hleft entry.quantity_pos, (div_le_one entry.quantity_pos).mpr hle⟩
  refine ⟨⟨label, price, s.remaining, s.remaining / entry.filledQuantity, bar.time, reason, .unambiguous, hprice, hleft,
    hfraction.1, hfraction.2⟩, rfl, rfl, rfl, rfl, ?_⟩
  simp [closeRest, ExitLeg.new, hprice, hleft, hfraction, bind, Except.bind, pure, Except.pure]

variable (entry bar s) in
theorem closeRest_error (label : String) (reason : ExitReason) {price : ℚ} (hprice : ¬0 < price) :
    ∃ e, closeRest entry label price bar reason s = .error e :=
  ⟨.valueError "price", by simp [closeRest, ExitLeg.new, hprice, bind, Except.bind]⟩

theorem LegsKept.remaining_le (h : LegsKept entry before s) : s.remaining ≤ entry.filledQuantity := by
  have hsum : 0 ≤ (s.legs.map (·.quantity)).sum := by
    refine List.sum_nonneg fun x hx => ?_
    obtain ⟨leg, -, rfl⟩ := List.mem_map.mp hx
    exact leg.quantity_pos.le
  have hwhole := h.quantities
  linarith

/-- The legs with the one that closes what is left are the whole position. -/
theorem LegsKept.close (h : LegsKept entry before s) (hheld : entry.fillTimestamp ≤ bar.time) (hlater : ∀ b ∈ before, b.time ≤ bar.time)
    {leg : ExitLeg} (hquantity : leg.quantity = s.remaining) (hfraction : leg.quantityFraction = s.remaining / entry.filledQuantity)
    (htime : leg.filledAt = bar.time) (hlegs : s'.legs = s.legs ++ [leg]) (hdone : s'.remaining = 0)
    (hbars : s'.barsUntilExit = s.barsUntilExit ++ [bar]) : LegsKept entry (before ++ [bar]) s' := by
  have hne : entry.filledQuantity ≠ 0 := entry.quantity_pos.ne'
  refine h.append hheld hlater hlegs (fun l hl => ?_) hbars ?_ ?_
  · rw [List.mem_singleton.mp hl, htime]
  · simp [hquantity, hdone]
  · simp [hfraction, hdone, mul_div_cancel₀ _ hne]

theorem bind_pure_eq_map {ε α β : Type} {x : Except ε α} {f : α → β} : (x >>= fun a => pure (f a)) = x.map f := by cases x <;> rfl

theorem ladderStep_early (hearly : bar.time < entry.fillTimestamp) : ladderStep entry rungs bar s = .ok (.yield s) := if_pos hearly

theorem ladderStep_stop (hheld : entry.fillTimestamp ≤ bar.time) (hleft : 0 < s.remaining)
    (htouch : barTouches entry.side bar s.stop .stop = true) :
    ladderStep entry rungs bar s =
      (closeRest entry "stop" s.stop bar .stop (s.saw bar)).map fun s' => .done { s' with finalReason := .stop } := by
  unfold ladderStep
  rw [if_neg (not_lt.mpr hheld)]
  dsimp only
  rw [if_pos htouch, if_pos hleft]
  exact bind_pure_eq_map

theorem ladderStep_climb (hheld : entry.fillTimestamp ≤ bar.time) (htouch : ¬barTouches entry.side bar s.stop .stop = true) :
    ladderStep entry rungs bar s =
      (fillRungs entry bar rungs (s.saw bar)).map fun s' => if s'.remaining ≤ 0 then .done s' else .yield s' := by
  unfold ladderStep
  rw [if_neg (not_lt.mpr hheld)]
  dsimp only
  rw [if_neg htouch]
  exact bind_pure_eq_map

/-- The run is stopped at the bar exactly if the bar touches its stop. -/
theorem Climbing.stopsAt_iff (h : Climbing entry stop rungs before s) (hheld : entry.fillTimestamp ≤ bar.time) :
    StopsAt entry ⟨stop, rungs.map (·.target)⟩ before bar ↔ barTouches entry.side bar s.stop .stop = true := by
  rw [StopsAt, h.stop]
  exact and_iff_right hheld

/-- Where nothing is left, no rung is open. -/
theorem remaining_pos_iff (hladder : Ladder rungs) (h : s.remaining = entry.filledQuantity * fractionOf (openRungs s rungs)) :
    0 < s.remaining ↔ ∃ rung ∈ rungs, rung.index ∉ s.filledTargetIndices := by
  rw [h]
  constructor
  · intro hpos
    by_contra hnone
    have hnil : openRungs s rungs = [] := by
      refine List.filter_eq_nil_iff.mpr fun rung hrung hopen => hnone ⟨rung, hrung, by simpa using hopen⟩
    simp [hnil, fractionOf] at hpos
  · rintro ⟨rung, hrung, hopen⟩
    have hmem := mem_openRungs.mpr ⟨hrung, hopen⟩
    exact mul_pos entry.quantity_pos
      (fractionOf_pos (fun r hr => (hladder.fractions r (mem_openRungs.mp hr).1).1) (List.ne_nil_of_mem hmem))

/-- A target the bar newly reaches is that of a rung it sells. -/
theorem Climbing.newlyReached_iff (h : Climbing entry stop rungs before s) {target : ℚ} :
    NewlyReached entry ⟨stop, rungs.map (·.target)⟩ before bar target ↔
      ∃ rung ∈ hitRungs entry bar (s.saw bar) rungs, rung.target = target := by
  simp only [NewlyReached, List.mem_map, h.mem_hitRungs]
  constructor
  · rintro ⟨⟨rung, hrung, rfl⟩, htouch, hopen⟩
    exact ⟨rung, ⟨hrung, hopen, htouch⟩, rfl⟩
  · rintro ⟨rung, ⟨hrung, hopen, htouch⟩, rfl⟩
    exact ⟨⟨rung, hrung, rfl⟩, htouch, hopen⟩

/-- The loop over the rungs at a bar of the run. -/
theorem Climbing.fillRungs_spec (h : Climbing entry stop rungs before s) (hladder : Ladder rungs) :
    ((∀ rung ∈ hitRungs entry bar (s.saw bar) rungs, 0 < rung.target) →
      ∃ s', fillRungs entry bar rungs (s.saw bar) = .ok s' ∧ Sold entry bar (hitRungs entry bar (s.saw bar) rungs) (s.saw bar) s') ∧
    (∀ rung ∈ hitRungs entry bar (s.saw bar) rungs, ¬0 < rung.target → ∃ e, fillRungs entry bar rungs (s.saw bar) = .error e) :=
  ExitPolicyShadow.fillRungs_spec hladder h.remaining.ge

/-- After the bar, something is left exactly if some target is not reached. -/
theorem Climbing.left_after_iff (h : Climbing entry stop rungs before s) (hladder : Ladder rungs)
    (hheld : entry.fillTimestamp ≤ bar.time) (hsold : Sold entry bar (hitRungs entry bar (s.saw bar) rungs) (s.saw bar) s') :
    0 < s'.remaining ↔ ¬∀ target ∈ rungs.map (·.target), reached entry (before ++ [bar]) target = true := by
  rw [remaining_pos_iff hladder (h.remaining_after hladder hsold), List.forall_mem_map, not_forall₂]
  refine exists_congr fun rung => ⟨fun ⟨hrung, hopen⟩ => ⟨hrung, ?_⟩, fun ⟨hrung, hopen⟩ => ⟨hrung, ?_⟩⟩
  · rwa [h.filled_after hladder hheld hsold hrung] at hopen
  · rwa [h.filled_after hladder hheld hsold hrung]

/-- What the end of the data closes, with the legs, is the whole position, and the reason stays. -/
theorem exhaustLadder_keeps (h : Climbing entry stop rungs before s) (hs' : exhaustLadder entry s = .ok s') :
    (s'.legs.map (·.quantity)).sum + s'.remaining = entry.filledQuantity ∧ s'.finalReason = s.finalReason := by
  unfold exhaustLadder at hs'
  split at hs'
  · rename_i last _
    rw [if_pos h.left] at hs'
    by_cases hclose : 0 < last.close
    · obtain ⟨leg, hquantity, -, -, -, hok⟩ := closeRest_ok entry last "exhausted" .dataExhausted hclose h.left h.kept.remaining_le
      cases hok.symm.trans hs'
      exact ⟨by simpa [hquantity] using h.kept.quantities, rfl⟩
    · obtain ⟨e, he⟩ := closeRest_error entry last s "exhausted" .dataExhausted hclose
      rw [he] at hs'
      nomatch hs'
  · cases hs'
    exact ⟨h.kept.quantities, rfl⟩

/-- The bar that sells what is left closes the last leg. -/
theorem Climbing.last_after (h : Climbing entry stop rungs before s)
    (hsold : Sold entry bar (hitRungs entry bar (s.saw bar) rungs) (s.saw bar) s') (hdone : s'.remaining ≤ 0) :
    ∃ leg, s'.legs.getLast? = some leg ∧ leg.filledAt = bar.time := by
  obtain ⟨new, hlegs, hnew, hquantity, -⟩ := hsold.legs
  rcases List.eq_nil_or_concat new with hnil | ⟨front, leg, hlast⟩
  · -- a bar that sells nothing leaves what was left
    have hhit : hitRungs entry bar (s.saw bar) rungs = [] := by
      rw [hnil] at hquantity
      simpa using hquantity.symm
    have hsame := hsold.remaining
    rw [hhit, LadderRun.saw_remaining] at hsame
    simp only [fractionOf, List.map_nil, List.sum_nil, mul_zero, sub_zero] at hsame
    exact absurd h.left (by rw [← hsame]; exact not_lt.mpr hdone)
  · rw [List.concat_eq_append] at hlast
    exact ⟨leg, by rw [hlegs, hlast, ← List.append_assoc, List.getLast?_concat], (hnew leg (by simp [hlast])).1⟩

theorem Climbing.early (h : Climbing entry stop rungs before s) (hearly : bar.time < entry.fillTimestamp) :
    Climbing entry stop rungs (before ++ [bar]) s where
  kept := h.kept.early hearly
  filled rung hrung := by rw [reached_append_early before hearly, h.filled rung hrung]
  remaining := h.remaining
  left := h.left
  stop := by
    rw [h.stop]
    unfold stopAfter
    cases (rungs.map (·.target)).head? with
    | none => rfl
    | some target => simp [reached_append_early before hearly]
  noStop := h.noStop
  reason := h.reason

/-- The run of the ladder, at its start. -/
theorem climbing_start (stop : ℚ) (hladder : WholeLadder rungs) :
    Climbing entry stop rungs [] { remaining := entry.filledQuantity, stop := stop } := by
  refine ⟨⟨by simp, by simp, fun leg hleg => (nomatch hleg), List.Pairwise.nil, rfl⟩, ?_, ?_, entry.quantity_pos, ?_,
    fun leg hleg => (nomatch hleg), rfl⟩
  · simp [reached, heldBars]
  · simp [openRungs, hladder.total]
  · cases hhead : (rungs.map (·.target)).head? <;> simp [stopAfter, hhead, reached, heldBars]

/-- Every bar before one of a chronological list is earlier. -/
theorem earlier_of_split {bars after : List Bar} (hchron : bars.Pairwise (·.time < ·.time)) (hsplit : bars = before ++ bar :: after) :
    ∀ b ∈ before, b.time < bar.time := by
  rw [hsplit] at hchron
  exact fun b hb => (List.pairwise_append.mp hchron).2.2 b hb bar List.mem_cons_self

theorem ladder_spec {bars : List Bar} (hchron : bars.Pairwise (·.time < ·.time)) (hladder : WholeLadder rungs) :
    Breaks.Spec (Climbing entry stop rungs) (EndsAt entry ⟨stop, rungs.map (·.target)⟩) (PricedAt entry ⟨stop, rungs.map (·.target)⟩)
      (Climbed entry ⟨stop, rungs.map (·.target)⟩) (ladderStep entry rungs) bars where
  raises := by
    intro before bar _ s _ hs hunpriced
    by_cases hheld : entry.fillTimestamp ≤ bar.time
    · by_cases hstops : StopsAt entry ⟨stop, rungs.map (·.target)⟩ before bar
      · have hprice : ¬0 < s.stop := by
          rw [hs.stop]
          exact fun hpos => hunpriced ⟨fun _ => hpos, fun _ hno => absurd hstops hno⟩
        obtain ⟨e, he⟩ := closeRest_error entry bar (s.saw bar) "stop" .stop hprice
        exact ⟨e, by rw [ladderStep_stop hheld hs.left ((hs.stopsAt_iff hheld).mp hstops), he]; rfl⟩
      · have hbad : ∃ rung ∈ hitRungs entry bar (s.saw bar) rungs, ¬0 < rung.target := by
          by_contra hnone
          refine hunpriced ⟨fun h => absurd h hstops, fun _ _ target hnew => ?_⟩
          obtain ⟨rung, hrung, rfl⟩ := hs.newlyReached_iff.mp hnew
          by_contra hprice
          exact hnone ⟨rung, hrung, hprice⟩
        obtain ⟨rung, hrung, hprice⟩ := hbad
        obtain ⟨e, he⟩ := (hs.fillRungs_spec hladder.toLadder).2 rung hrung hprice
        exact ⟨e, by rw [ladderStep_climb hheld fun h => hstops ((hs.stopsAt_iff hheld).mpr h), he]; rfl⟩
    · exact absurd ⟨fun h => absurd h.1 hheld, fun h => absurd h hheld⟩ hunpriced
  breaks := by
    intro before bar _ s hsplit hs hpriced hends
    have hheld := hends.held
    have hlater := fun b hb => (earlier_of_split hchron hsplit b hb).le
    by_cases hstops : StopsAt entry ⟨stop, rungs.map (·.target)⟩ before bar
    · have hprice : 0 < (s.saw bar).stop := hs.stop ▸ hpriced.1 hstops
      obtain ⟨leg, hquantity, hfraction, htime, hreason, hclose⟩ :=
        closeRest_ok entry bar (s := s.saw bar) "stop" .stop hprice hs.left hs.kept.remaining_le
      refine ⟨_, (ladderStep_stop hheld hs.left ((hs.stopsAt_iff hheld).mp hstops)).trans (congrArg (Except.map _) hclose), ?_⟩
      exact
        { kept := hs.kept.close hheld hlater hquantity hfraction htime rfl rfl rfl
          remaining := rfl
          stopped := fun _ => ⟨leg, List.mem_append_right _ List.mem_cons_self, hreason, htime⟩
          stopLeg := fun l hl hstop => by
            rcases List.mem_append.mp hl with hl | hl
            · exact absurd hstop (hs.noStop l hl)
            · rw [List.mem_singleton.mp hl]
              exact ⟨hstops, htime⟩
          last := ⟨leg, List.getLast?_concat, htime⟩ }
    · have hall : ∀ rung ∈ hitRungs entry bar (s.saw bar) rungs, 0 < rung.target := fun rung hrung =>
        hpriced.2 hheld hstops rung.target (hs.newlyReached_iff.mpr ⟨rung, hrung, rfl⟩)
      obtain ⟨s', hs', hsold⟩ := (hs.fillRungs_spec hladder.toLadder).1 hall
      obtain ⟨hkept, hnoStop⟩ := hs.kept_after hheld hlater hsold
      have hdone : s'.remaining ≤ 0 := by
        rw [← not_lt, hs.left_after_iff hladder.toLadder hheld hsold, not_not]
        exact (hends.resolve_left hstops).2
      have hzero : s'.remaining = 0 := le_antisymm hdone (by
        rw [hs.remaining_after hladder.toLadder hsold]
        exact mul_nonneg entry.quantity_pos.le (fractionOf_nonneg fun r hr => (hladder.fractions r (mem_openRungs.mp hr).1).1))
      refine ⟨s', ?_, ⟨hkept, hzero, fun h => absurd h hstops, fun leg hleg hstop => absurd hstop (hnoStop leg hleg),
        hs.last_after hsold hdone⟩⟩
      rw [ladderStep_climb hheld fun h => hstops ((hs.stopsAt_iff hheld).mpr h), hs']
      exact congrArg Except.ok (if_pos hdone)
  goes := by
    intro before bar _ s hsplit hs hpriced hends
    by_cases hheld : entry.fillTimestamp ≤ bar.time
    · have hlater := fun b hb => (earlier_of_split hchron hsplit b hb).le
      have hstops : ¬StopsAt entry ⟨stop, rungs.map (·.target)⟩ before bar := fun h => hends (.inl h)
      have hall : ∀ rung ∈ hitRungs entry bar (s.saw bar) rungs, 0 < rung.target := fun rung hrung =>
        hpriced.2 hheld hstops rung.target (hs.newlyReached_iff.mpr ⟨rung, hrung, rfl⟩)
      obtain ⟨s', hs', hsold⟩ := (hs.fillRungs_spec hladder.toLadder).1 hall
      obtain ⟨hkept, hnoStop⟩ := hs.kept_after hheld hlater hsold
      have hleft : 0 < s'.remaining :=
        (hs.left_after_iff hladder.toLadder hheld hsold).mpr fun hreached => hends (.inr ⟨hheld, hreached⟩)
      refine ⟨s', ?_, ⟨hkept, fun rung hrung => hs.filled_after hladder.toLadder hheld hsold hrung,
        hs.remaining_after hladder.toLadder hsold, hleft, hs.stop_after hladder hheld hsold, hnoStop, (hsold.reason hleft).trans hs.reason⟩⟩
      rw [ladderStep_climb hheld fun h => hstops ((hs.stopsAt_iff hheld).mpr h), hs']
      exact congrArg Except.ok (if_neg (not_le.mpr hleft))
    · exact ⟨s, ladderStep_early (not_le.mp hheld), hs.early (not_le.mp hheld)⟩

end Run

end ExitPolicyShadow
end TradingPlatform

namespace TradingPlatform
namespace ExitPolicyShadow

/-!
## What a shadow replay returns

The initial levels of a policy are on their sides of the fill and the excursions have their signs, so an outcome fails its checks only
where a leg does: at a price that is not positive.
-/

/-! ## Levels -/

/-- A stop behind an entry and a target ahead of it. -/
structure Sided (side : Direction) (entryPrice : ℚ) (geometry : ℚ × ℚ) : Prop where
  stop : side.gain entryPrice geometry.1 < 0
  target : 0 < side.gain entryPrice geometry.2

theorem Sided.risk_pos {side : Direction} {entryPrice : ℚ} {geometry : ℚ × ℚ} (h : Sided side entryPrice geometry) :
    0 < |entryPrice - geometry.1| := by
  rw [side.abs_gain]
  exact abs_pos.mpr h.stop.ne

theorem geometryAt_sided {side : Direction} {entryPrice stopDistance targetDistance : ℚ} (hstop : 0 < stopDistance)
    (htarget : 0 < targetDistance) : Sided side entryPrice (geometryAt side entryPrice stopDistance targetDistance) where
  stop := by simpa [geometryAt] using hstop
  target := by simpa [geometryAt] using htarget

theorem saneAtr_pos {entryPrice : ℚ} (hprice : 0 < entryPrice) (atr14 : Option ℚ) : 0 < saneAtr entryPrice atr14 := by
  unfold saneAtr
  dsimp only
  split
  · positivity
  · exact not_le.mp ‹_›

theorem concreteGeometry_sided {policy : ExitPolicyId} {side : Direction} {entryPrice : ℚ} (hprice : 0 < entryPrice)
    (atr14 : Option ℚ) : Sided side entryPrice (concreteGeometry policy side entryPrice atr14) := by
  have hatr := saneAtr_pos hprice atr14
  have hcontrol : 0 < max (6 / 5 * atr14.getD 0) (entryPrice * (35 / 10000)) := lt_max_of_lt_right (by positivity)
  cases policy <;> exact geometryAt_sided (by positivity) (by positivity)

/-- The levels of an entry under a policy that does not delegate. -/
def initialGeometry (entry : RealEntry) (policy : ExitPolicyId) (atr14 : Option ℚ) (regime : Regime) : ℚ × ℚ :=
  concreteGeometry (effectivePolicy policy regime) entry.side entry.averageFillPrice atr14

theorem buildInitialGeometry_eq (entry : RealEntry) (policy : ExitPolicyId) (atr14 : Option ℚ) (regime : Regime) :
    buildInitialGeometry policy entry.side entry.averageFillPrice atr14 regime =
      ((initialGeometry entry policy atr14 regime).1, some (initialGeometry entry policy atr14 regime).2) := by
  cases policy <;> rfl

theorem initialGeometry_sided (entry : RealEntry) (policy : ExitPolicyId) (atr14 : Option ℚ) (regime : Regime) :
    Sided entry.side entry.averageFillPrice (initialGeometry entry policy atr14 regime) :=
  concreteGeometry_sided entry.price_pos atr14

theorem ladderRungs_whole (side : Direction) (entryPrice risk : ℚ) : WholeLadder (ladderRungs side entryPrice risk) where
  fractions := by
    intro rung hrung
    simp only [ladderRungs, List.mem_cons, List.not_mem_nil, or_false] at hrung
    rcases hrung with rfl | rfl | rfl <;> norm_num
  indices := by simp [ladderRungs]
  total := by norm_num [fractionOf, ladderRungs]
  first := ⟨_, _, rfl, rfl⟩

/-! ## Excursions -/

theorem best_nonneg {best move : ℚ} (h : 0 ≤ best) : 0 ≤ if best < move then move else best := by
  split
  · exact h.trans (le_of_lt ‹_›)
  · exact h

theorem worst_nonpos {worst move : ℚ} (h : worst ≤ 0) : (if move < worst then move else worst) ≤ 0 := by
  split
  · exact (le_of_lt ‹_›).trans h
  · exact h

theorem excursionStep_signs (side : Direction) (entryPrice : ℚ) (bar : Bar) {acc : ℚ × ℚ} (h : 0 ≤ acc.1 ∧ acc.2 ≤ 0) :
    0 ≤ (excursionStep side entryPrice acc bar).1 ∧ (excursionStep side entryPrice acc bar).2 ≤ 0 :=
  ⟨best_nonneg h.1, worst_nonpos h.2⟩

theorem computeExcursions_ok (side : Direction) {entryPrice : ℚ} (hprice : 0 < entryPrice) (quantity risk : ℚ) (bars : List Bar) :
    ∃ excursions, computeExcursions side entryPrice quantity bars risk = .ok excursions := by
  have hsigns := Loops.foldl_keeps (P := fun acc : ℚ × ℚ => 0 ≤ acc.1 ∧ acc.2 ≤ 0)
    (fun _ bar h => excursionStep_signs side entryPrice bar h) bars (0, 0) ⟨le_rfl, le_rfl⟩
  unfold computeExcursions
  rw [if_neg (not_le.mpr hprice)]
  dsimp only
  generalize bars.foldl (excursionStep side entryPrice) (0, 0) = acc at hsigns
  have hmfe : 0 ≤ acc.1 / entryPrice * 100 := mul_nonneg (div_nonneg hsigns.1 hprice.le) (by norm_num)
  have hmae : acc.2 / entryPrice * 100 ≤ 0 := mul_nonpos_of_nonpos_of_nonneg (div_nonpos_of_nonpos_of_nonneg hsigns.2 hprice.le) (by norm_num)
  exact ⟨_, by rw [ExcursionMetrics.new, dif_pos hmfe, dif_pos hmae]⟩

/-! ## Outcomes -/

variable {entry : RealEntry} {policy : ExitPolicyId} {regime : Regime} {bars : List Bar} {geometry : ℚ × ℚ}

theorem ExitLeg.new_ok (label : String) {price quantity fraction : ℚ} (filledAt : ℤ) (reason : ExitReason)
    (intrabar : IntrabarResolution) (hprice : 0 < price) (hquantity : 0 < quantity) (hfraction : 0 < fraction ∧ fraction ≤ 1) :
    ExitLeg.new label price quantity fraction filledAt reason intrabar =
      .ok ⟨label, price, quantity, fraction, filledAt, reason, intrabar, hprice, hquantity, hfraction.1, hfraction.2⟩ := by
  rw [ExitLeg.new, dif_pos hprice, dif_pos hquantity, dif_pos hfraction]

theorem validateQuantities_ok {f : ShadowFields} (hallocated : (f.legs.map (·.quantity)).sum + f.remainingQuantity = f.entryQuantity)
    (hstop : f.side.gain f.entryPrice f.initialStopPrice < 0) (htarget : ∀ t ∈ f.initialTargetPrice, 0 < f.side.gain f.entryPrice t) :
    ∃ o : ShadowOutcome, f.validateQuantities = .ok o ∧ o.toShadowFields = f :=
  ⟨{ f with allocated := hallocated, stop_behind := hstop, target_ahead := htarget },
    by rw [ShadowFields.validateQuantities, dif_pos hallocated, dif_pos hstop, dif_pos htarget], rfl⟩

variable (policy regime) in
/-- The outcome of a run with one target: one leg, at the price of the exit, unless that is not positive. -/
theorem replaySingleTarget_of_run {s : SingleRun} (hsided : Sided entry.side entry.averageFillPrice geometry)
    (hrun : forIn bars ({} : SingleRun) (singleStep entry geometry.1 (some geometry.2)) = .ok s) :
    (0 < (s.exitOrLast entry bars).price →
      ∃ (o : ShadowOutcome) (leg : ExitLeg), replaySingleTarget entry policy bars geometry.1 (some geometry.2) regime = .ok o ∧
        o.legs = [leg] ∧ leg.quantity = entry.filledQuantity ∧ leg.quantityFraction = 1 ∧
        leg.filledAt = (s.exitOrLast entry bars).bar.time ∧ leg.reason = (s.exitOrLast entry bars).reason ∧
        o.finalReason = (s.exitOrLast entry bars).reason ∧
        o.ambiguousIntrabar = decide ((s.exitOrLast entry bars).intrabar ≠ .unambiguous)) ∧
    (¬0 < (s.exitOrLast entry bars).price →
      ∃ e, replaySingleTarget entry policy bars geometry.1 (some geometry.2) regime = .error e) := by
  obtain ⟨excursions, hexcursions⟩ := computeExcursions_ok entry.side entry.price_pos entry.filledQuantity
    |entry.averageFillPrice - geometry.1| s.barsUntilExit
  constructor
  · intro hprice
    have hleg := ExitLeg.new_ok "exit" (s.exitOrLast entry bars).bar.time (s.exitOrLast entry bars).reason
      (s.exitOrLast entry bars).intrabar hprice entry.quantity_pos ⟨one_pos, le_rfl⟩
    generalize hnew : ExitLeg.mk _ _ _ _ _ _ _ _ _ _ _ = leg at hleg
    obtain ⟨o, ho, hfields⟩ := validateQuantities_ok
      (f := singleFields entry policy regime geometry.1 (some geometry.2) (s.exitOrLast entry bars) leg excursions)
      (by simp [singleFields, ← hnew]) hsided.stop (fun t ht => Option.some.inj ht ▸ hsided.target)
    refine ⟨o, leg, ?_, ?_⟩
    · simp only [replaySingleTarget, hrun, hexcursions, hleg, ho, bind, Except.bind]
    · rw [hfields, ← hnew]
      exact ⟨rfl, rfl, rfl, rfl, rfl, rfl, rfl⟩
  · intro hprice
    refine ⟨.valueError "price", ?_⟩
    simp only [replaySingleTarget, hrun, hexcursions, bind, Except.bind, ExitLeg.new, dif_neg hprice]

variable (policy regime) in
/-- The outcome of a run of the ladder: its legs, unless what is left cannot be closed. -/
theorem replayScaleOut_of_run {s : LadderRun} (hsided : Sided entry.side entry.averageFillPrice geometry)
    (hrun : forIn bars ({ remaining := entry.filledQuantity, stop := geometry.1 } : LadderRun)
      (ladderStep entry (ladderRungs entry.side entry.averageFillPrice |entry.averageFillPrice - geometry.1|)) = .ok s) :
    (∀ s', exhaustLadder entry s = .ok s' → (s'.legs.map (·.quantity)).sum + s'.remaining = entry.filledQuantity →
      ∃ o : ShadowOutcome, replayScaleOut entry bars geometry.1 (some geometry.2) regime policy = .ok o ∧ o.legs = s'.legs ∧
        o.finalReason = s'.finalReason ∧ o.ambiguousIntrabar = false) ∧
    (∀ e, exhaustLadder entry s = .error e → replayScaleOut entry bars geometry.1 (some geometry.2) regime policy = .error e) := by
  have hrisk := hsided.risk_pos
  have hnot : ¬|entry.averageFillPrice - geometry.1| ≤ 0 := not_le.mpr hrisk
  constructor
  · intro s' hs' hsum
    obtain ⟨excursions, hexcursions⟩ := computeExcursions_ok entry.side entry.price_pos entry.filledQuantity
      |entry.averageFillPrice - geometry.1| s'.barsUntilExit
    have htarget : ∀ t ∈ some (entry.side.ahead entry.averageFillPrice |entry.averageFillPrice - geometry.1|),
        0 < entry.side.gain entry.averageFillPrice t := by
      intro t ht
      rw [← Option.some.inj ht, Direction.gain_ahead]
      exact hrisk
    obtain ⟨o, ho, hfields⟩ := validateQuantities_ok
      (f := ladderFields entry policy regime geometry.1
        (entry.side.ahead entry.averageFillPrice |entry.averageFillPrice - geometry.1|) s' excursions) hsum hsided.stop htarget
    refine ⟨o, ?_, ?_⟩
    · simp only [replayScaleOut, if_neg hnot, hrun, hs', hexcursions, ho, bind, Except.bind]
    · rw [hfields]
      exact ⟨rfl, rfl, rfl⟩
  · intro e he
    simp only [replayScaleOut, if_neg hnot, hrun, he, bind, Except.bind]

theorem exhaustLadder_done {s : LadderRun} (h : s.remaining = 0) : exhaustLadder entry s = .ok s := by
  unfold exhaustLadder
  cases s.barsUntilExit.getLast? with
  | none => rfl
  | some last => exact if_neg (by simp [h])

/-- A run of the ladder that raises leaves no outcome. -/
theorem replayScaleOut_of_error {e : PyError} (hsided : Sided entry.side entry.averageFillPrice geometry)
    (hrun : forIn bars ({ remaining := entry.filledQuantity, stop := geometry.1 } : LadderRun)
      (ladderStep entry (ladderRungs entry.side entry.averageFillPrice |entry.averageFillPrice - geometry.1|)) = .error e) :
    replayScaleOut entry bars geometry.1 (some geometry.2) regime policy = .error e := by
  simp only [replayScaleOut, if_neg hsided.risk_pos.not_ge, hrun, bind, Except.bind]

end ExitPolicyShadow
end TradingPlatform
