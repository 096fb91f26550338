import TradingPlatform.Lib.Grid
import TradingPlatform.Lemmas.Protection
import TradingPlatform.Theorems.EntrySubmission

/-!
# Rounding a protection plan

`build_protection_plan` rounds the stop and the target of a fill towards the fill, so a plan never risks more than the candidate
allows. It is made exactly if some multiple of the tick is left on either side between the raw price and the fill.
-/

namespace TradingPlatform

open Grid

/-! ## The statement -/

/-- A plan whose prices are on the tick, within the distances of the candidate and on their side of the fill. -/
structure ProtectionPlan.Tight (plan : ProtectionPlan) (candidate : TradeCandidate) (fill tickSize : ℚ) : Prop where
  stop_onTick : OnGrid tickSize plan.stopPrice
  target_onTick : ∀ t ∈ plan.takeProfitPrice, OnGrid tickSize t
  stop_within : |fill - plan.stopPrice| ≤ candidate.stopDistance
  target_within : ∀ t ∈ plan.takeProfitPrice, ∃ d ∈ candidate.takeProfitDistance, |t - fill| ≤ d
  target_kept : plan.takeProfitPrice.isSome = candidate.takeProfitDistance.isSome
  ordered : match candidate.side with
    | .long => 0 < plan.stopPrice ∧ plan.stopPrice < fill ∧ ∀ t ∈ plan.takeProfitPrice, fill < t
    | .short => 0 < fill ∧ fill < plan.stopPrice ∧ ∀ t ∈ plan.takeProfitPrice, 0 < t ∧ t < fill

/-- A tick is left between the fill and either raw price, and the raw price below the fill is positive. -/
def TradeCandidate.Placeable (candidate : TradeCandidate) (fill tickSize : ℚ) : Prop :=
  match candidate.side with
  | .long =>
    (0 < fill - candidate.stopDistance ∧ ∃ x, OnGrid tickSize x ∧ fill - candidate.stopDistance ≤ x ∧ x < fill) ∧
      ∀ d ∈ candidate.takeProfitDistance, ∃ x, OnGrid tickSize x ∧ fill < x ∧ x ≤ fill + d
  | .short =>
    (∃ x, OnGrid tickSize x ∧ fill < x ∧ x ≤ fill + candidate.stopDistance) ∧
      ∀ d ∈ candidate.takeProfitDistance, 0 < fill - d ∧ ∃ x, OnGrid tickSize x ∧ fill - d ≤ x ∧ x < fill

/-- What `build_protection_plan` and the client ids ask of their other arguments. -/
structure LegalFill (positionId : String) (fill quantity tickSize : ℚ) (attempt : ℕ) : Prop where
  position : positionId ≠ ""
  attempt : 1 ≤ attempt
  fill : 0 < fill
  quantity : 0 < quantity
  tickSize : 0 < tickSize

namespace RoundingAux

variable {positionId : String} {candidate : TradeCandidate} {fill quantity tickSize : ℚ} {attempt : ℕ} {plan : ProtectionPlan}

/-- A price rounded to the tick, towards the entry. -/
def ticked (tickSize price : ℚ) (direction : Direction) (leg : ProtectionLeg) : ℚ :=
  match leg, direction with
  | .stop, .long | .target, .short => up tickSize price
  | .stop, .short | .target, .long => down tickSize price

theorem roundToTick_eq_ok {price p : ℚ} {direction : Direction} {leg : ProtectionLeg} :
    roundToTick price tickSize direction leg = .ok p ↔ 0 < tickSize ∧ p = ticked tickSize price direction leg := by
  unfold roundToTick ticked
  by_cases h : tickSize ≤ 0
  · simp [h, not_lt.mpr h]
  · have hceil : (price / tickSize).ceil = ⌈price / tickSize⌉ := by
      rw [Rat.ceil_eq_neg_floor_neg]
      rfl
    have hfloor : (price / tickSize).floor = ⌊price / tickSize⌋ := rfl
    rw [if_neg h]
    unfold up down
    rw [hceil, hfloor]
    cases leg <;> cases direction <;> simp [not_le.mp h, eq_comm]

theorem roundTarget_eq_ok {target p : Option ℚ} {direction : Direction} (htick : 0 < tickSize) :
    roundTarget target tickSize direction = .ok p ↔ p = target.map fun t => ticked tickSize t direction .target := by
  unfold roundTarget
  cases target with
  | none => simp [eq_comm]
  | some t =>
    have hround : roundToTick t tickSize direction .target = .ok (ticked tickSize t direction .target) :=
      roundToTick_eq_ok.mpr ⟨htick, rfl⟩
    dsimp only
    rw [hround]
    simp [Except.map, eq_comm]

/-- The sign of a gain. -/
def away (direction : Direction) : ℚ :=
  match direction with
  | .long => 1
  | .short => -1

theorem resolveProtectionPrices_eq_ok {prices : ℚ × Option ℚ} (hfill : 0 < fill) :
    candidate.resolveProtectionPrices fill = .ok prices ↔
      0 < fill - away candidate.side * candidate.stopDistance ∧
        (∀ d ∈ candidate.takeProfitDistance, 0 < fill + away candidate.side * d) ∧
        prices = (fill - away candidate.side * candidate.stopDistance,
          candidate.takeProfitDistance.map fun d => fill + away candidate.side * d) := by
  unfold TradeCandidate.resolveProtectionPrices
  rw [if_neg (not_le.mpr hfill)]
  dsimp only
  change (if fill - away candidate.side * candidate.stopDistance ≤ 0 then _ else
    if ∃ t ∈ candidate.takeProfitDistance.map fun d => fill + away candidate.side * d, t ≤ 0 then _ else _) = _ ↔ _
  by_cases hstop : fill - away candidate.side * candidate.stopDistance ≤ 0
  · rw [if_pos hstop]
    exact ⟨fun h => (nomatch h), fun h => absurd h.1 (not_lt.mpr hstop)⟩
  rw [if_neg hstop]
  by_cases htake : ∃ t ∈ candidate.takeProfitDistance.map fun d => fill + away candidate.side * d, t ≤ 0
  · rw [if_pos htake]
    refine ⟨fun h => (nomatch h), fun h => ?_⟩
    obtain ⟨t, ht, hnot⟩ := htake
    obtain ⟨d, hd, rfl⟩ := Option.map_eq_some_iff.mp ht
    exact absurd (h.2.1 d hd) (not_lt.mpr hnot)
  · rw [if_neg htake]
    constructor
    · intro h
      refine ⟨not_le.mp hstop, fun d hd => ?_, (Except.ok.inj h).symm⟩
      by_contra hnot
      exact htake ⟨_, Option.mem_map_of_mem _ hd, not_lt.mp hnot⟩
    · rintro ⟨-, -, rfl⟩
      rfl

/-- The stop of a fill, rounded. -/
def stopOf (candidate : TradeCandidate) (fill tickSize : ℚ) : ℚ :=
  ticked tickSize (fill - away candidate.side * candidate.stopDistance) candidate.side .stop

/-- The target of a fill, rounded, if the candidate has one. -/
def targetOf (candidate : TradeCandidate) (fill tickSize : ℚ) : Option ℚ :=
  candidate.takeProfitDistance.map fun d => ticked tickSize (fill + away candidate.side * d) candidate.side .target

/-- Both raw prices are positive. -/
def RawPositive (candidate : TradeCandidate) (fill : ℚ) : Prop :=
  0 < fill - away candidate.side * candidate.stopDistance ∧
    ∀ d ∈ candidate.takeProfitDistance, 0 < fill + away candidate.side * d

/-- A plan that is made is one of a legal fill, with the rounded prices of positive raw ones. -/
theorem buildProtectionPlan_terms
    (h : buildProtectionPlan positionId candidate fill quantity tickSize attempt = .ok plan) :
    LegalFill positionId fill quantity tickSize attempt ∧ RawPositive candidate fill ∧ plan.direction = candidate.side ∧
      plan.averageFillPrice = fill ∧ plan.stopPrice = stopOf candidate fill tickSize ∧
      plan.takeProfitPrice = targetOf candidate fill tickSize := by
  unfold buildProtectionPlan at h
  split at h
  · nomatch h
  rename_i hfill
  split at h
  · nomatch h
  rename_i hquantity
  obtain ⟨⟨rawStop, rawTarget⟩, hraw, h⟩ := Loops.bind_eq_ok.mp h
  obtain ⟨hstopRaw, htargetRaw, hprices⟩ := (resolveProtectionPrices_eq_ok (not_le.mp hfill)).mp hraw
  cases hprices
  obtain ⟨stop, hstop, h⟩ := Loops.bind_eq_ok.mp h
  obtain ⟨htick, rfl⟩ := roundToTick_eq_ok.mp hstop
  obtain ⟨target, htarget, h⟩ := Loops.bind_eq_ok.mp h
  obtain rfl := (roundTarget_eq_ok htick).mp htarget
  obtain ⟨stopId, hstopId, h⟩ := Loops.bind_eq_ok.mp h
  obtain ⟨tpId, htpId, h⟩ := Loops.bind_eq_ok.mp h
  obtain ⟨-, -, -, -, htp⟩ := check_ok h
  obtain ⟨hstopPrice, -, hdirection, -⟩ := check_terms h
  refine ⟨⟨positionId_ne_empty_of_stop hstopId, revision_pos_of_stop hstopId, not_le.mp hfill, not_le.mp hquantity, htick⟩,
    ⟨hstopRaw, htargetRaw⟩, hdirection, check_fill h, hstopPrice, ?_⟩
  rw [htp]
  unfold targetOf
  rw [Option.map_map]
  rfl

/-- A plan is made of a legal fill with positive raw prices exactly if the rounded prices are on their sides of the fill. -/
theorem buildProtectionPlan_isOk_iff : (∃ plan, buildProtectionPlan positionId candidate fill quantity tickSize attempt = .ok plan) ↔
    LegalFill positionId fill quantity tickSize attempt ∧ RawPositive candidate fill ∧ 0 < stopOf candidate fill tickSize ∧
      candidate.side.Worse (stopOf candidate fill tickSize) fill ∧
      ∀ t ∈ targetOf candidate fill tickSize, candidate.side.Worse fill t := by
  constructor
  · rintro ⟨plan, hplan⟩
    obtain ⟨hlegal, hraw, hdirection, hfill, hstop, htarget⟩ := buildProtectionPlan_terms hplan
    rw [← hstop, ← htarget, ← hdirection, ← hfill]
    exact ⟨hfill ▸ hlegal, hfill ▸ hraw, plan.stopPrice_pos, plan.stop_worse, plan.target_better⟩
  · rintro ⟨hlegal, ⟨hstopRaw, htargetRaw⟩, hstop, hworse, hbetter⟩
    obtain ⟨stopId, hstopId⟩ : ∃ c, stopClientOrderId positionId attempt = .ok c :=
      protectionClientOrderId_isOk hlegal.position hlegal.attempt .stop "stop"
    obtain ⟨tpId, htpId⟩ := targetIdFor_isOk hlegal.position hlegal.attempt (targetOf candidate fill tickSize)
    have hraw := (resolveProtectionPrices_eq_ok hlegal.fill).mpr ⟨hstopRaw, htargetRaw, rfl⟩
    have hstopTick : roundToTick (fill - away candidate.side * candidate.stopDistance) tickSize candidate.side .stop =
        .ok (stopOf candidate fill tickSize) := roundToTick_eq_ok.mpr ⟨hlegal.tickSize, rfl⟩
    have htargetTick : roundTarget (candidate.takeProfitDistance.map fun d => fill + away candidate.side * d) tickSize
        candidate.side = .ok (targetOf candidate fill tickSize) := by
      rw [roundTarget_eq_ok hlegal.tickSize, Option.map_map]
      rfl
    unfold buildProtectionPlan
    rw [if_neg (not_le.mpr hlegal.fill), if_neg (not_le.mpr hlegal.quantity), hraw]
    dsimp only [bind, Except.bind]
    rw [hstopTick, htargetTick]
    dsimp only
    rw [hstopId, htpId]
    dsimp only
    exact check_isOk_iff.mpr ⟨hlegal.quantity, hstop, hworse, hbetter⟩

/-- The rounded prices are on their sides of the fill exactly if a tick is left on either side. -/
theorem placeable_iff (htick : 0 < tickSize) (hfill : 0 < fill) : candidate.Placeable fill tickSize ↔
    RawPositive candidate fill ∧ 0 < stopOf candidate fill tickSize ∧
      candidate.side.Worse (stopOf candidate fill tickSize) fill ∧
      ∀ t ∈ targetOf candidate fill tickSize, candidate.side.Worse fill t := by
  have htargets : (∀ t ∈ targetOf candidate fill tickSize, candidate.side.Worse fill t) ↔
      ∀ d ∈ candidate.takeProfitDistance,
        candidate.side.Worse fill (ticked tickSize (fill + away candidate.side * d) candidate.side .target) := by
    unfold targetOf
    cases candidate.takeProfitDistance <;> simp
  rw [htargets]
  have hdistance := candidate.stopDistance_pos
  have hprofit := candidate.takeProfitDistance_pos
  unfold TradeCandidate.Placeable RawPositive stopOf ticked away Direction.Worse
  cases candidate.side with
  | long =>
    simp only [one_mul, up_lt_iff htick, lt_down_iff htick]
    constructor
    · rintro ⟨⟨hraw, hstop⟩, htarget⟩
      exact ⟨⟨hraw, fun d hd => by linarith [hprofit d hd]⟩, hraw.trans_le (le_up htick), hstop, htarget⟩
    · rintro ⟨⟨hraw, -⟩, -, hstop, htarget⟩
      exact ⟨⟨hraw, hstop⟩, htarget⟩
  | short =>
    simp only [neg_mul, one_mul, sub_neg_eq_add, ← sub_eq_add_neg, up_lt_iff htick, lt_down_iff htick]
    constructor
    · rintro ⟨hstop, htarget⟩
      refine ⟨⟨by linarith, fun d hd => (htarget d hd).1⟩, ?_, hstop, fun d hd => (htarget d hd).2⟩
      obtain ⟨x, hx, hfillx, hle⟩ := hstop
      exact ⟨x, hx, hfill.trans hfillx, hle⟩
    · rintro ⟨⟨-, hraw⟩, -, hstop, htarget⟩
      exact ⟨hstop, fun d hd => ⟨hraw d hd, htarget d hd⟩⟩

/-- Rounding goes towards the fill, so the rounded prices keep the distances. -/
theorem tight_of_made (h : buildProtectionPlan positionId candidate fill quantity tickSize attempt = .ok plan) :
    plan.Tight candidate fill tickSize := by
  obtain ⟨hlegal, ⟨hstopRaw, htargetRaw⟩, hdirection, hfillEq, hstop, htarget⟩ := buildProtectionPlan_terms h
  have htick := hlegal.tickSize
  have hworse : candidate.side.Worse plan.stopPrice fill := hdirection ▸ hfillEq ▸ plan.stop_worse
  have hbetter : ∀ t ∈ plan.takeProfitPrice, candidate.side.Worse fill t := by
    intro t ht
    have hplan := plan.target_better t ht
    rw [hdirection, hfillEq] at hplan
    exact hplan
  have htargets : ∀ t ∈ plan.takeProfitPrice, ∃ d ∈ candidate.takeProfitDistance,
      t = ticked tickSize (fill + away candidate.side * d) candidate.side .target := by
    intro t ht
    rw [htarget] at ht
    obtain ⟨d, hd, hdt⟩ := Option.map_eq_some_iff.mp ht
    exact ⟨d, hd, hdt.symm⟩
  have hkept : plan.takeProfitPrice.isSome = candidate.takeProfitDistance.isSome := by
    rw [htarget]
    exact Option.isSome_map
  have hpos := plan.stopPrice_pos
  have hfill := hlegal.fill
  unfold stopOf at hstop
  cases hside : candidate.side with
  | long =>
    rw [hside] at hstop htargets hworse hbetter
    simp only [ticked, away, one_mul] at hstop htargets
    refine ⟨?_, fun t ht => ?_, ?_, fun t ht => ?_, hkept, ?_⟩
    · rw [hstop]
      exact onGrid_up
    · obtain ⟨d, -, rfl⟩ := htargets t ht
      exact onGrid_down
    · have hclose : fill - candidate.stopDistance ≤ plan.stopPrice := hstop ▸ le_up htick
      rw [abs_of_pos (sub_pos.mpr hworse)]
      linarith
    · obtain ⟨d, hd, hdt⟩ := htargets t ht
      have hclose : t ≤ fill + d := hdt ▸ down_le htick
      refine ⟨d, hd, ?_⟩
      rw [abs_of_pos (sub_pos.mpr (hbetter t ht))]
      linarith
    · rw [hside]
      exact ⟨hpos, hworse, hbetter⟩
  | short =>
    rw [hside] at hstop htargets hworse hbetter
    simp only [ticked, away, neg_mul, one_mul, sub_neg_eq_add, ← sub_eq_add_neg] at hstop htargets
    refine ⟨?_, fun t ht => ?_, ?_, fun t ht => ?_, hkept, ?_⟩
    · rw [hstop]
      exact onGrid_down
    · obtain ⟨d, -, rfl⟩ := htargets t ht
      exact onGrid_up
    · have hclose : plan.stopPrice ≤ fill + candidate.stopDistance := hstop ▸ down_le htick
      rw [abs_of_neg (sub_neg.mpr hworse)]
      linarith
    · obtain ⟨d, hd, hdt⟩ := htargets t ht
      have hclose : fill - d ≤ t := hdt ▸ le_up htick
      refine ⟨d, hd, ?_⟩
      rw [abs_of_neg (sub_neg.mpr (hbetter t ht))]
      linarith
    · rw [hside]
      refine ⟨hfill, hworse, fun t ht => ⟨?_, hbetter t ht⟩⟩
      obtain ⟨d, hd, rfl⟩ := htargets t ht
      have hraw : 0 < fill - d := by
        have := htargetRaw d hd
        rw [hside] at this
        simpa only [away, neg_mul, one_mul, ← sub_eq_add_neg] using this
      exact hraw.trans_le (le_up htick)

end RoundingAux

open RoundingAux

/-- Protection rounding never widens risk: a plan that is made is on the tick, within the distances and on its sides of the
fill; and it is made exactly of a legal fill that leaves a tick on either side. -/
theorem protectionRounding (positionId : String) (candidate : TradeCandidate) (fill quantity tickSize : ℚ) (attempt : ℕ) :
    (∀ plan, buildProtectionPlan positionId candidate fill quantity tickSize attempt = .ok plan →
      plan.Tight candidate fill tickSize) ∧
    ((∃ plan, buildProtectionPlan positionId candidate fill quantity tickSize attempt = .ok plan) ↔
      LegalFill positionId fill quantity tickSize attempt ∧ candidate.Placeable fill tickSize) := by
  refine ⟨fun plan => tight_of_made, ?_⟩
  rw [buildProtectionPlan_isOk_iff]
  exact and_congr_right fun hlegal => (placeable_iff hlegal.tickSize hlegal.fill).symm

/-- A tick is left on either side of the fill, but nothing was filled. -/
theorem protectionRounding_nothingFilled :
    (sampleCandidate "BTC/USDT").Placeable 100 (1 / 10) ∧
    ¬∃ plan, buildProtectionPlan "position-1" (sampleCandidate "BTC/USDT") 100 0 (1 / 10) = .ok plan := by
  constructor
  · refine ⟨⟨by norm_num [sampleCandidate], 99, ⟨990, by norm_num⟩, by norm_num [sampleCandidate], by norm_num⟩, ?_⟩
    rintro d hd
    obtain rfl : (2 : ℚ) = d := Option.some.inj hd
    exact ⟨102, ⟨1020, by norm_num⟩, by norm_num, by norm_num⟩
  · rintro ⟨plan, hplan⟩
    exact absurd (buildProtectionPlan_terms hplan).1.quantity (lt_irrefl 0)

/-- A raw stop between two ticks moves up towards the fill. -/
example : (buildProtectionPlan "position-1" (sampleCandidate "BTC/USDT") (10003 / 100) 1 (1 / 10)).toOption.map (·.stopPrice) =
    some (991 / 10) := by decide +kernel

end TradingPlatform
