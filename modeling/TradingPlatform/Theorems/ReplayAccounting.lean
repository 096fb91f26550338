import Mathlib.Tactic.FieldSimp
import TradingPlatform.Theorems.LadderRun

/-!
# What a trade of the replay is worth in R

The R multiple of a trade is its move over the initial risk of the position, unless the stop that closed it was one that two
levels had moved: that trade is measured against the moved stop.
-/

namespace TradingPlatform

/-- The trades of a position are recorded as worth, in its initial risk, what the price moved. -/
structure RAccounting (round : ℚ → ℚ) (e : ReplayEntry) (trades : List ReplayTrade) : Prop where
  each : ∀ t ∈ trades, (t.recordedIn round).2 = e.side.gain e.entryPrice t.exitPrice / |e.entryPrice - e.stopPrice|
  total : e.entryPrice ≠ e.stopPrice →
    (trades.map fun t => t.quantityFraction * (t.recordedIn round).2).sum * |e.entryPrice - e.stopPrice| =
      (trades.map fun t => (t.recordedIn round).1).sum * e.entryPrice

/-- The operations of `_close` on the prices and the fraction of a trade need no rounding. -/
structure ReplayTrade.ExactIn (round : ℚ → ℚ) (t : ReplayTrade) : Prop where
  move : Function.IsFixedPt round (t.side.gain t.entryPrice t.exitPrice)
  moved : Function.IsFixedPt round (t.side.gain t.entryPrice t.exitPrice / t.entryPrice)
  gross : Function.IsFixedPt round (t.side.gain t.entryPrice t.exitPrice / t.entryPrice * t.quantityFraction)
  distance : Function.IsFixedPt round |t.entryPrice - t.stopPrice|
  risk : Function.IsFixedPt round (|t.entryPrice - t.stopPrice| / t.entryPrice)
  multiple : Function.IsFixedPt round
    (t.side.gain t.entryPrice t.exitPrice / t.entryPrice / (|t.entryPrice - t.stopPrice| / t.entryPrice))

/-- Every step of a position through bars meets a condition. -/
def OpenPosition.eachStep (exitMode : ExitMode) (P : OpenPosition → OHLCVBar → Prop) (p : OpenPosition) : List OHLCVBar → Prop
  | [] => True
  | bar :: bars => P p bar ∧ ∀ closed q, p.advance exitMode bar = .ok (closed, some q) → q.eachStep exitMode P bars

/-- If the bar reaches a stop that two levels moved, the first level lies at one R. -/
def LockedAtOneR (p : OpenPosition) (bar : OHLCVBar) : Prop :=
  ∀ ladder first second rest, p.ladder = some ladder → ladder.levels = first :: second :: rest → second.executed = true →
    stopReached p.side ladder.currentStopPrice bar = true → first.rMultiple = 1

namespace ReplayAccountingAux

open LadderAux LadderRunAux Loops

variable {e : ReplayEntry} {start : ExitLadderState} {k : ℕ} {p q : OpenPosition} {bar : OHLCVBar} {trades : List ReplayTrade}

/-! ### One trade -/

/-- The R multiple of a close is the move over the distance to the stop it is measured against. -/
theorem close_rMultiple (p : OpenPosition) (closedAt : ℤ) (price : ℚ) (reason : ReplayExitReason) {f : ℚ}
    (stop take r : Option ℚ) (hentry : 0 < p.entryPrice) (h₀ : 0 < f) (h₁ : f ≤ 1) :
    (p.close closedAt price reason f stop take r).rMultiple =
      p.side.gain p.entryPrice price / |p.entryPrice - stop.getD p.originalStop| := by
  have hfraction : max 0 (min 1 f) = f := by rw [min_eq_right h₁, max_eq_right h₀.le]
  unfold OpenPosition.close
  dsimp only
  rw [hfraction]
  by_cases hrisk : p.entryPrice - stop.getD p.originalStop = 0
  · simp [hrisk]
  · have hpos : 0 < |p.entryPrice - stop.getD p.originalStop| := abs_pos.mpr hrisk
    rw [if_pos ⟨div_pos hpos hentry, h₀⟩]
    cases p.side <;> (simp only [Direction.gain]; field_simp)

/-- Where every operation is exact, nothing that is recorded of a trade is rounded. -/
theorem recordedIn_of_exactIn {round : ℚ → ℚ} {t : ReplayTrade} (h : t.ExactIn round) : t.recordedIn round = t.recordedIn id := by
  obtain ⟨hmove, hmoved, hgross, hdistance, hrisk, hmultiple⟩ := h
  unfold ReplayTrade.recordedIn
  simp only [id, hmove.eq, hmoved.eq, hgross.eq, hdistance.eq, hrisk.eq, Prod.mk.injEq, true_and]
  split_ifs with hpos
  · rw [mul_div_cancel_right₀ _ hpos.2.ne', hmoved.eq, hmultiple.eq]
  · rfl

/-- What is recorded of a trade is what it is worth, if nothing rounds. -/
def Unrounded (t : ReplayTrade) : Prop := t.recordedIn id = (t.grossReturn, t.rMultiple)

theorem close_recorded (p : OpenPosition) (closedAt : ℤ) (price : ℚ) (reason : ReplayExitReason) (f : ℚ) (stop take r : Option ℚ) :
    Unrounded (p.close closedAt price reason f stop take r) := by
  unfold Unrounded ReplayTrade.recordedIn OpenPosition.close
  cases p.side <;> rfl

/-- The gross return of a close is its fraction of the move over the entry. -/
theorem close_grossReturn (p : OpenPosition) (closedAt : ℤ) (price : ℚ) (reason : ReplayExitReason) (f : ℚ)
    (stop take r : Option ℚ) (hentry : 0 < p.entryPrice) :
    (p.close closedAt price reason f stop take r).grossReturn * p.entryPrice =
      (p.close closedAt price reason f stop take r).quantityFraction * p.side.gain p.entryPrice price := by
  unfold OpenPosition.close
  dsimp only
  cases p.side <;> (simp only [Direction.gain]; field_simp)

/-- A trade of the position, whatever stop it is measured against. -/
def ofEntry (e : ReplayEntry) (t : ReplayTrade) : Prop :=
  t.grossReturn * e.entryPrice = t.quantityFraction * e.side.gain e.entryPrice t.exitPrice

/-- A trade measured against the initial risk. -/
def inInitialRisk (e : ReplayEntry) (t : ReplayTrade) : Prop :=
  t.rMultiple = e.side.gain e.entryPrice t.exitPrice / |e.entryPrice - e.stopPrice|

/-- The trades add up once each is measured against the initial risk. -/
theorem accounting_iff {round : ℚ → ℚ} (hexact : ∀ t ∈ trades, t.ExactIn round) (hrecorded : ∀ t ∈ trades, Unrounded t)
    (hgross : ∀ t ∈ trades, ofEntry e t) : RAccounting round e trades ↔ ∀ t ∈ trades, inInitialRisk e t := by
  have hvalues : ∀ t ∈ trades, t.recordedIn round = (t.grossReturn, t.rMultiple) := fun t ht =>
    (recordedIn_of_exactIn (hexact t ht)).trans (hrecorded t ht)
  have hmultiple : ∀ t ∈ trades, (t.recordedIn round).2 = t.rMultiple := fun t ht => congrArg Prod.snd (hvalues t ht)
  have hreturn : ∀ t ∈ trades, (t.recordedIn round).1 = t.grossReturn := fun t ht => congrArg Prod.fst (hvalues t ht)
  refine ⟨fun h t ht => (hmultiple t ht).symm.trans (h.each t ht),
    fun h => ⟨fun t ht => (hmultiple t ht).trans (h t ht), fun hne => ?_⟩⟩
  rw [List.map_congr_left hreturn, List.map_congr_left fun t ht => congrArg (t.quantityFraction * ·) (hmultiple t ht)]
  clear hexact hrecorded hvalues hmultiple hreturn
  have hrisk : |e.entryPrice - e.stopPrice| ≠ 0 := (abs_pos.mpr (sub_ne_zero.mpr hne)).ne'
  induction trades with
  | nil => simp
  | cons t trades ih =>
    rw [List.forall_mem_cons] at hgross h
    have ht : t.quantityFraction * t.rMultiple * |e.entryPrice - e.stopPrice| = t.grossReturn * e.entryPrice := by
      rw [hgross.1, h.1]
      field_simp
    rw [List.map_cons, List.map_cons, List.sum_cons, List.sum_cons, add_mul, add_mul, ih hgross.2 h.2, ht]

/-! ### A position of an entry -/

/-- A position that an entry opened, whatever part of it is left. -/
structure Of (e : ReplayEntry) (p : OpenPosition) : Prop where
  side : p.side = e.side
  entry : p.entryPrice = e.entryPrice
  originalStop : p.originalStop = e.stopPrice
  remaining_pos : 0 < p.remainingFraction
  remaining_le : p.remainingFraction ≤ 1

theorem Of.ofEntry (h : Of e p) (hentry : 0 < e.entryPrice) (closedAt : ℤ) (price : ℚ) (reason : ReplayExitReason) (f : ℚ)
    (stop take r : Option ℚ) : ofEntry e (p.close closedAt price reason f stop take r) := by
  have hgross := close_grossReturn p closedAt price reason f stop take r (h.entry ▸ hentry)
  rw [h.entry, h.side] at hgross
  exact hgross

/-- A close that is measured against the initial stop. -/
theorem Of.inInitialRisk (h : Of e p) (hentry : 0 < e.entryPrice) (closedAt : ℤ) (price : ℚ) (reason : ReplayExitReason) {f : ℚ}
    (stop take r : Option ℚ) (h₀ : 0 < f) (h₁ : f ≤ 1) (hstop : stop.getD e.stopPrice = e.stopPrice) :
    inInitialRisk e (p.close closedAt price reason f stop take r) := by
  have hr := close_rMultiple p closedAt price reason stop take r (h.entry ▸ hentry) h₀ h₁
  rw [h.entry, h.side, h.originalStop, hstop] at hr
  exact hr

theorem Of.recordExcursion (h : Of e p) (bar : OHLCVBar) (x : Option (ℚ × ReplayExitReason)) : Of e (p.recordExcursion bar x) where
  side := by simpa using h.side
  entry := by simpa using h.entry
  originalStop := by simpa using h.originalStop
  remaining_pos := by simpa using h.remaining_pos
  remaining_le := by simpa using h.remaining_le

/-! ### One bar -/

/-- Without a ladder the position is held whole, or closed whole. -/
theorem advanceFixed_spec (h : Of e p) (hentry : 0 < e.entryPrice) (bar : OHLCVBar) :
    (∃ q, p.advanceFixed bar = ([], some q) ∧ Of e q ∧ q.ladder = p.ladder) ∨
      ∃ t, p.advanceFixed bar = ([t], none) ∧ ofEntry e t ∧ inInitialRisk e t := by
  unfold OpenPosition.advanceFixed
  dsimp only
  split
  · exact Or.inl ⟨_, rfl, h.recordExcursion bar _, recordExcursion_ladder p bar _⟩
  · rename_i price reason _
    have hr := h.recordExcursion bar (p.protectiveExit bar)
    exact Or.inr ⟨_, rfl, hr.ofEntry hentry _ _ _ _ _ _ _,
      hr.inInitialRisk hentry _ _ _ none none none hr.remaining_pos hr.remaining_le rfl⟩

/-- The levels that filled, as the condition reads them. -/
theorem lockedAtOneR_iff (hopened : Opened start) (hp : Climbing start k p) {first : LadderLevel}
    (hfirst : start.levels.head? = some first) :
    LockedAtOneR p bar ↔ (2 ≤ k → stopReached start.side (stopAfter start k) bar = true → first.rMultiple = 1) := by
  obtain ⟨locked, hladder⟩ := hp.ladder
  obtain ⟨levels, hlevels⟩ : ∃ levels, start.levels = first :: levels := by
    cases hl : start.levels with
    | nil => exact absurd hl hopened.levels_ne
    | cons l levels =>
      rw [hl] at hfirst
      cases hfirst
      exact ⟨levels, rfl⟩
  unfold LockedAtOneR
  constructor
  · intro h htwo hstop
    obtain ⟨k, rfl⟩ := Nat.exists_eq_add_of_le htwo
    cases levels with
    | nil =>
      have hbound := hp.bound
      rw [hlevels] at hbound
      simp only [List.length_cons, List.length_nil] at hbound
      omega
    | cons second rest =>
      have hmarked : marked (levelTriggerPrice start) (2 + k) start.levels =
          { first with executed := true, triggerPrice := some (levelTriggerPrice start first) } ::
            { second with executed := true, triggerPrice := some (levelTriggerPrice start second) } ::
              marked (levelTriggerPrice start) k rest := by
        rw [hlevels, Nat.add_comm 2 k]
        rfl
      have hrun := h _ _ _ _ hladder hmarked rfl
      rw [hp.side, climbed_currentStopPrice] at hrun
      exact hrun hstop
  · intro h ladder first' second rest hsome hl hexec hstop
    rw [hladder, Option.some.injEq] at hsome
    subst hsome
    rw [climbed_levels] at hl
    have htwo : 1 < k := (executed_marked_iff hopened.fresh (show (marked (levelTriggerPrice start) k start.levels)[1]? =
      some second by rw [hl]; rfl)).mp hexec
    rw [hp.side, climbed_currentStopPrice] at hstop
    have hone := h htwo hstop
    obtain ⟨k, rfl⟩ := Nat.exists_eq_add_of_lt htwo
    rw [hlevels] at hl
    injection hl with hhead _
    rw [← hhead]
    exact hone

/-- A close at the stop of `k` levels is worth the move to it, except that two levels and more make it one R. -/
theorem stopped_inInitialRisk_iff (hopened : Opened start) (hp : Climbing start k p) (hof : Of e p) (hentry : 0 < e.entryPrice)
    (hrisk : start.riskDistance = |e.entryPrice - e.stopPrice|) {first : LadderLevel}
    (hfirst : start.levels.head? = some first) :
    inInitialRisk e ((p.recordExcursion bar).close bar.timestamp (stopAfter start k) .stoploss p.remainingFraction
      (some (stopAfter start k))) ↔ (2 ≤ k → first.rMultiple = 1) := by
  have hr := hof.recordExcursion bar none
  have hmultiple := close_rMultiple (p.recordExcursion bar) bar.timestamp (stopAfter start k) .stoploss (some (stopAfter start k)) none
    none (hr.entry ▸ hentry) hof.remaining_pos hof.remaining_le
  rw [hr.entry, hr.side, Option.getD_some] at hmultiple
  have hside : start.side = e.side := hp.side.symm.trans hof.side
  have hstart : start.entryPrice = e.entryPrice := hp.entry.symm.trans hof.entry
  unfold inInitialRisk
  rw [hmultiple]
  change e.side.gain e.entryPrice (stopAfter start k) / _ = e.side.gain e.entryPrice (stopAfter start k) / _ ↔ _
  match k, hp with
  | 0, hp =>
    have hstop : stopAfter start 0 = e.stopPrice := hp.originalStop.symm.trans hof.originalStop
    simp [hstop]
  | 1, _ =>
    have hstop : stopAfter start 1 = e.entryPrice := hstart
    simp [hstop]
  | k + 2, _ =>
    obtain ⟨first', hfirst', hacc⟩ := exists_first hopened
    rw [hfirst, Option.some.injEq] at hfirst'
    subst hfirst'
    have hgain := gain_stopAfter_succ first hfirst (k + 1)
    rw [if_neg k.succ_ne_zero, hside, hstart, hrisk] at hgain
    have hpos : 0 < |e.entryPrice - e.stopPrice| := hrisk ▸ hopened.risk_pos
    have hmul := mul_pos hpos hacc.rMultiple_pos
    rw [Direction.abs_gain e.side e.entryPrice (stopAfter start (k + 2)), hgain, abs_of_pos hmul, div_self hmul.ne']
    simp only [Nat.le_add_left, true_implies]
    rw [mul_div_cancel_left₀ _ hpos.ne']
    exact eq_comm

/-! ### The run -/

/-- A run of a position that an entry opened: its trades are measured against the initial risk exactly when every step meets the
condition. -/
def Accounts (e : ReplayEntry) (exitMode : ExitMode) (p : OpenPosition) (bars : List OHLCVBar) : Prop :=
  ∃ trades left, p.drive exitMode bars = .ok (trades, left) ∧ (∀ t ∈ trades, ofEntry e t) ∧ (∀ q, left = some q → Of e q) ∧
    ((∀ t ∈ trades, inInitialRisk e t) ↔ p.eachStep exitMode LockedAtOneR bars)

variable {exitMode : ExitMode} {closed : List ReplayTrade} {bars : List OHLCVBar}

theorem accounts_nil (h : Of e p) : Accounts e exitMode p [] := by
  refine ⟨[], some p, rfl, fun t ht => absurd ht List.not_mem_nil, fun q hq => ?_, ?_⟩
  · cases hq
    exact h
  · simp [OpenPosition.eachStep]

/-- A bar that closes the position ends the run. -/
theorem accounts_shut (hadvance : p.advance exitMode bar = .ok (closed, none)) (hof : ∀ t ∈ closed, ofEntry e t)
    (hstep : (∀ t ∈ closed, inInitialRisk e t) ↔ LockedAtOneR p bar) : Accounts e exitMode p (bar :: bars) := by
  refine ⟨closed, none, bind_eq_ok.mpr ⟨_, hadvance, rfl⟩, hof, fun q hq => (nomatch hq), hstep.trans ?_⟩
  refine ⟨fun h => ⟨h, fun closed' q hq => ?_⟩, fun h => h.1⟩
  rw [hadvance] at hq
  nomatch hq

/-- A bar that leaves it open is followed by the run of what is left. -/
theorem accounts_open (hadvance : p.advance exitMode bar = .ok (closed, some q)) (hof : ∀ t ∈ closed, ofEntry e t)
    (hstep : (∀ t ∈ closed, inInitialRisk e t) ↔ LockedAtOneR p bar) (hrest : Accounts e exitMode q bars) :
    Accounts e exitMode p (bar :: bars) := by
  obtain ⟨later, left, hdrive, hlater, hleft, hiff⟩ := hrest
  refine ⟨closed ++ later, left, bind_eq_ok.mpr ⟨_, hadvance, bind_eq_ok.mpr ⟨_, hdrive, rfl⟩⟩, ?_, hleft, ?_⟩
  · rw [List.forall_mem_append]
    exact ⟨hof, hlater⟩
  · rw [List.forall_mem_append, hstep, hiff]
    refine and_congr_right fun _ => ⟨fun h closed' q' hq' => ?_, fun h => h closed q hadvance⟩
    rw [hadvance] at hq'
    cases hq'
    exact h

/-- Without a ladder there is no stop to lock. -/
theorem accounts_fixed (hentry : 0 < e.entryPrice) (bars : List OHLCVBar) : ∀ {p : OpenPosition}, Of e p → p.ladder = none →
    Accounts e exitMode p bars := by
  induction bars with
  | nil => exact fun h _ => accounts_nil h
  | cons bar bars ih =>
    intro p h hnone
    have hlocked : LockedAtOneR p bar := by
      intro ladder _ _ _ hsome
      rw [hnone] at hsome
      nomatch hsome
    have hadvance : p.advance exitMode bar = .ok (p.advanceFixed bar) := by
      unfold OpenPosition.advance
      rw [hnone]
    rcases advanceFixed_spec h hentry bar with ⟨q, hstep, hq, hladder⟩ | ⟨t, hstep, hof, hrisk⟩
    · rw [hstep] at hadvance
      exact accounts_open hadvance (fun t ht => absurd ht List.not_mem_nil) (by simpa using hlocked)
        (ih hq (hladder.trans hnone))
    · rw [hstep] at hadvance
      exact accounts_shut hadvance (by simpa using hof) (by simpa [hrisk] using hlocked)

/-- On a ladder the stop that two levels moved is the only one that is not the initial risk. -/
theorem accounts_ladder (hopened : Opened start) (hentry : 0 < e.entryPrice)
    (hrisk : start.riskDistance = |e.entryPrice - e.stopPrice|) (hinitial : start.initialStopPrice = e.stopPrice)
    (bars : List OHLCVBar) : ∀ {k : ℕ} {p : OpenPosition}, Climbing start k p → Of e p → Accounts e .exitLadder p bars := by
  induction bars with
  | nil => exact fun _ h => accounts_nil h
  | cons bar bars ih =>
    intro k p hp h
    obtain ⟨first, hfirst, _⟩ := exists_first hopened
    have hlocked : LockedAtOneR p bar ↔ (2 ≤ k → stopReached start.side (stopAfter start k) bar = true → first.rMultiple = 1) :=
      lockedAtOneR_iff hopened hp hfirst
    have hr := h.recordExcursion bar none
    -- what is left is still a position of the entry
    have hof : ∀ {q : OpenPosition} {k' : ℕ}, Climbing start k' q → Of e q := fun hq =>
      ⟨(hq.side.trans hp.side.symm).trans h.side, (hq.entry.trans hp.entry.symm).trans h.entry, hq.originalStop.trans hinitial,
        hq.remaining_pos, hq.remaining_le⟩
    -- a level is measured against the initial stop
    have hlevel : ∀ {level : LadderLevel}, start.levels[k]? = some level →
        ∀ t ∈ [(p.recordExcursion bar).close bar.timestamp (levelTriggerPrice start level) (.exitLadder level.rMultiple)
          (min p.remainingFraction level.closeFraction) (some start.initialStopPrice) (some (levelTriggerPrice start level))
          (some level.rMultiple)], ofEntry e t ∧ inInitialRisk e t := by
      intro level hk t ht
      obtain ⟨hpos, hone⟩ := fill_bounds hopened hp hk
      rw [List.mem_singleton.mp ht]
      exact ⟨hr.ofEntry hentry _ _ _ _ _ _ _, hr.inInitialRisk hentry _ _ _ _ _ _ hpos hone hinitial⟩
    have hunlocked : stopReached start.side (stopAfter start k) bar = false → LockedAtOneR p bar := by
      intro hstop
      rw [hlocked, hstop]
      exact fun _ h => absurd h (by decide)
    obtain ⟨out, hadvance, hstep⟩ := advanceLadder_step hopened hp bar
    cases hstep with
    | stopped hstop =>
      refine accounts_shut hadvance ?_ ?_
      · intro t ht
        rw [List.mem_singleton.mp ht]
        exact hr.ofEntry hentry _ _ _ _ _ _ _
      · rw [hlocked, List.forall_mem_singleton, stopped_inInitialRisk_iff hopened hp h hentry hrisk hfirst, hstop]
        simp
    | finished hstop hk _ =>
      exact accounts_shut hadvance (fun t ht => (hlevel hk t ht).1) ⟨fun _ => hunlocked hstop, fun _ t ht => (hlevel hk t ht).2⟩
    | filled hstop hk hq _ =>
      exact accounts_open hadvance (fun t ht => (hlevel hk t ht).1) ⟨fun _ => hunlocked hstop, fun _ t ht => (hlevel hk t ht).2⟩
        (ih hq (hof hq))
    | held hstop hq _ _ =>
      exact accounts_open hadvance (fun t ht => absurd ht List.not_mem_nil)
        ⟨fun _ => hunlocked hstop, fun _ t ht => absurd ht List.not_mem_nil⟩ (ih hq (hof hq))

theorem accounts_openPosition {p₀ : OpenPosition} (hopen : e.openPosition exitMode = .ok p₀) (hentry : 0 < e.entryPrice)
    (bars : List OHLCVBar) : Accounts e exitMode p₀ bars := by
  obtain ⟨hside, hprice, hstop, hone, hladder⟩ := openPosition_spec hopen
  have hof : Of e p₀ := ⟨hside, hprice, hstop, by rw [hone]; exact one_pos, hone.le⟩
  rcases hladder with hnone | ⟨rfl, levels, hconfig, hne, hsome⟩
  · exact accounts_fixed hentry bars hof hnone
  · exact accounts_ladder (opened_entryLadder hconfig hne) hentry rfl rfl bars (climbing_open hopen hsome) hof

/-- The trades of a bar are closes, which are recorded as they are where nothing rounds. -/
theorem advance_recorded {out : List ReplayTrade × Option OpenPosition} (h : p.advance exitMode bar = .ok out) :
    ∀ t ∈ out.1, Unrounded t := by
  have hfixed : ∀ t ∈ (p.advanceFixed bar).1, Unrounded t := by
    unfold OpenPosition.advanceFixed
    dsimp only
    split
    · exact fun t ht => absurd ht List.not_mem_nil
    · exact List.forall_mem_singleton.mpr (close_recorded _ _ _ _ _ _ _ _)
  unfold OpenPosition.advance at h
  split at h
  · unfold OpenPosition.advanceLadder OpenPosition.fillLevel at h
    dsimp only at h
    split at h
    · rw [← Except.ok.inj h]
      exact List.forall_mem_singleton.mpr (close_recorded _ _ _ _ _ _ _ _)
    · split at h
      · split at h
        · obtain ⟨filled, -, h⟩ := bind_eq_ok.mp h
          split_ifs at h <;> rw [← Except.ok.inj h] <;> exact List.forall_mem_singleton.mpr (close_recorded _ _ _ _ _ _ _ _)
        · rw [← Except.ok.inj h]
          exact fun t ht => absurd ht List.not_mem_nil
      · rw [← Except.ok.inj h]
        exact fun t ht => absurd ht List.not_mem_nil
  · rw [← Except.ok.inj h]
    exact hfixed

theorem drive_recorded {left : Option OpenPosition} (h : p.drive exitMode bars = .ok (trades, left)) : ∀ t ∈ trades, Unrounded t := by
  induction bars generalizing p trades left with
  | nil =>
    obtain ⟨rfl, -⟩ := Prod.mk.inj (Except.ok.inj h)
    exact fun t ht => absurd ht List.not_mem_nil
  | cons bar bars ih =>
    obtain ⟨⟨closed, position⟩, hadvance, h⟩ := bind_eq_ok.mp h
    have hclosed := advance_recorded hadvance
    cases position with
    | none =>
      obtain ⟨rfl, -⟩ := Prod.mk.inj (Except.ok.inj h)
      exact hclosed
    | some q =>
      obtain ⟨⟨later, left'⟩, hdrive, h⟩ := bind_eq_ok.mp h
      obtain ⟨rfl, -⟩ := Prod.mk.inj (Except.ok.inj h)
      exact List.forall_mem_append.mpr ⟨hclosed, ih hdrive⟩

end ReplayAccountingAux

/-- The R multiples of the trades of an entry on the ladder, beside their moves over the initial risk. -/
def ladderMultiples (e : ReplayEntry) (bars : List OHLCVBar) : Option (List (ℚ × ℚ)) :=
  match (e.openPosition .exitLadder).bind fun p => p.drive .exitLadder bars with
  | .error _ => none
  | .ok (trades, _) =>
    some (trades.map fun t => (t.rMultiple, e.side.gain e.entryPrice t.exitPrice / |e.entryPrice - e.stopPrice|))

end TradingPlatform
