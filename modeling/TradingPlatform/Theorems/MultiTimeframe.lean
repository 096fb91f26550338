import TradingPlatform.Engine.MultiTimeframe

/-!
# The rule of the multi-timeframe confirmation

Outside the uncertain regime every higher timeframe has to agree; in it, two of the three timeframes are meant to be enough. The
code keeps to that except where the higher state timeframe agrees and the confirmation timeframe does not, and where the state
timeframe is the entry timeframe.
-/

namespace TradingPlatform

/-- A higher timeframe has the direction of the entry signals. -/
def MtfInput.Agrees (i : MtfInput) (timeframe : String) : Prop :=
  ∃ d, i.mainDirection = some d ∧ dominantSignalDirection (i.technicalSignals timeframe) = some d

/-- The documented rule: a result is returned; outside the uncertain regime it passes only if the higher timeframes agree; in it,
with two higher timeframes that have a direction, it passes exactly if one of them agrees. -/
def MtfInput.FollowsRule (i : MtfInput) : Prop :=
  ∃ r, i.multiTimeframeConfirmation = .ok r ∧
    (i.regime ≠ some .uncertain → r.passed = true →
      (∀ state, i.rules.higherState i.timeframe = some state → i.Agrees state) ∧
        (i.confirmTimeframe ≠ i.timeframe → i.Agrees i.confirmTimeframe)) ∧
    (i.regime = some .uncertain → ∀ state, i.rules.higherState i.timeframe = some state → i.confirmTimeframe ≠ i.timeframe →
      (dominantSignalDirection (i.technicalSignals state)).isSome →
      (dominantSignalDirection (i.technicalSignals i.confirmTimeframe)).isSome →
      (r.passed = true ↔ i.Agrees state ∨ i.Agrees i.confirmTimeframe))

/-- In the uncertain regime, where the entry signals and those of a higher confirmation timeframe have directions and a state
timeframe is set: it is not the entry timeframe, and if it agrees so does the confirmation timeframe. -/
def MtfInput.Covered (i : MtfInput) : Prop :=
  i.regime = some .uncertain → ∀ state, configured i.rules.stateTimeframe = some state → i.confirmTimeframe ≠ i.timeframe →
    ∀ d c, i.mainDirection = some d → dominantSignalDirection (i.technicalSignals i.confirmTimeframe) = some c →
      state ≠ i.timeframe ∧ (dominantSignalDirection (i.technicalSignals state) = some d → c = d)

namespace MultiTimeframeAux

variable {i : MtfInput} {state : String}

/-- Signals with a direction are not none. -/
theorem ne_nil_of_dominant {signals : List TradeSignal} {d : Direction} (h : dominantSignalDirection signals = some d) :
    signals ≠ [] := by
  rintro rfl
  nomatch h

theorem stateSignals_eq (h : i.rules.higherState i.timeframe = some state) : i.stateSignals = i.technicalSignals state := by
  unfold MtfInput.stateSignals
  rw [h]
  rfl

theorem confirmSignals_eq (h : i.confirmTimeframe ≠ i.timeframe) : i.confirmSignals = i.technicalSignals i.confirmTimeframe :=
  if_neg h

theorem higherState_eq_some_iff : i.rules.higherState i.timeframe = some state ↔
    configured i.rules.stateTimeframe = some state ∧ state ≠ i.timeframe := by
  simp [TimeframeRules.higherState, Option.filter_eq_some_iff]

theorem not_agrees_of_none (h : i.mainDirection = none) (timeframe : String) : ¬i.Agrees timeframe := by
  rintro ⟨d, hd, _⟩
  rw [h] at hd
  nomatch hd

theorem agrees_iff {timeframe : String} {d c : Direction} (hd : i.mainDirection = some d)
    (hc : dominantSignalDirection (i.technicalSignals timeframe) = some c) : i.Agrees timeframe ↔ d = c := by
  unfold MtfInput.Agrees
  rw [hd, hc]
  simp [eq_comm]

/-! ### The end of the function -/

theorem confirm_same (h : i.confirmTimeframe = i.timeframe) (stateDisagrees : Option Bool) :
    ∃ r, i.confirm stateDisagrees = .ok r ∧ r.passed = true := by
  unfold MtfInput.confirm
  rw [if_pos h]
  exact ⟨_, rfl, rfl⟩

/-- Without a direction of its own or of the entry signals a confirmation timeframe refuses. -/
theorem confirm_unavailable (h : i.confirmTimeframe ≠ i.timeframe)
    (hnone : i.mainDirection = none ∨ dominantSignalDirection (i.technicalSignals i.confirmTimeframe) = none)
    (stateDisagrees : Option Bool) : ∃ r, i.confirm stateDisagrees = .ok r ∧ r.passed = false := by
  have hclosed : i.confirmSignals = [] ∨ i.mainDirection = none ∨ i.confirmDirection = none := by
    unfold MtfInput.confirmDirection
    rw [confirmSignals_eq h]
    exact Or.inr hnone
  unfold MtfInput.confirm
  rw [if_neg h, if_pos hclosed]
  exact ⟨_, rfl, rfl⟩

/-- With both directions no check before the comparison fails. -/
theorem confirm_open (h : i.confirmTimeframe ≠ i.timeframe) {d c : Direction} (hd : i.mainDirection = some d)
    (hc : dominantSignalDirection (i.technicalSignals i.confirmTimeframe) = some c) : i.confirmDirection = some c ∧
      ¬(i.confirmSignals = [] ∨ i.mainDirection = none ∨ i.confirmDirection = none) := by
  have hdirection : i.confirmDirection = some c := by
    unfold MtfInput.confirmDirection
    rw [confirmSignals_eq h, hc]
  refine ⟨hdirection, ?_⟩
  rw [confirmSignals_eq h, hd, hdirection]
  simp [ne_nil_of_dominant hc]

/-- With both directions it passes exactly if they are the same, provided the local of the state timeframe is bound where it is
read. -/
theorem confirm_judged (h : i.confirmTimeframe ≠ i.timeframe) {d c : Direction} (hd : i.mainDirection = some d)
    (hc : dominantSignalDirection (i.technicalSignals i.confirmTimeframe) = some c) (stateDisagrees : Option Bool)
    (hbound : i.regime = some .uncertain → (configured i.rules.stateTimeframe).isSome → stateDisagrees.isSome) :
    ∃ r, i.confirm stateDisagrees = .ok r ∧ (r.passed = true ↔ d = c) := by
  obtain ⟨hdirection, hopen⟩ := confirm_open h hd hc
  unfold MtfInput.confirm
  rw [if_neg h, if_neg hopen]
  dsimp only
  rw [hd, hdirection]
  split
  · rename_i huncertain
    obtain ⟨b, hb⟩ := Option.isSome_iff_exists.mp (hbound huncertain.1 huncertain.2)
    rw [hb]
    cases b <;> exact ⟨_, rfl, by simp⟩
  · exact ⟨_, rfl, by simp⟩

/-- Where it is not bound the function raises. -/
theorem confirm_unbound (h : i.confirmTimeframe ≠ i.timeframe) {d c : Direction} (hd : i.mainDirection = some d)
    (hc : dominantSignalDirection (i.technicalSignals i.confirmTimeframe) = some c) (huncertain : i.regime = some .uncertain)
    (hstate : (configured i.rules.stateTimeframe).isSome) : i.confirm none = .error ⟨"state_disagrees"⟩ := by
  obtain ⟨hdirection, hopen⟩ := confirm_open h hd hc
  unfold MtfInput.confirm
  rw [if_neg h, if_neg hopen]
  dsimp only
  rw [if_pos ⟨huncertain, hstate⟩]

/-! ### The whole function -/

section

variable (hmode : i.rules.confirmationMode ≠ "entry_plus_one_higher")
include hmode

theorem multi_of_none (hstate : i.rules.higherState i.timeframe = none) : i.multiTimeframeConfirmation = i.confirm none := by
  unfold MtfInput.multiTimeframeConfirmation
  rw [if_neg hmode, hstate]

/-- Without a direction of its own or of the entry signals a state timeframe refuses. -/
theorem multi_unavailable (hstate : i.rules.higherState i.timeframe = some state)
    (hnone : i.mainDirection = none ∨ dominantSignalDirection (i.technicalSignals state) = none) :
    ∃ r, i.multiTimeframeConfirmation = .ok r ∧ r.passed = false := by
  have hclosed : i.stateSignals = [] ∨ i.mainDirection = none ∨ i.stateDirection = none := by
    unfold MtfInput.stateDirection
    rw [stateSignals_eq hstate]
    exact Or.inr hnone
  unfold MtfInput.multiTimeframeConfirmation
  rw [if_neg hmode, hstate]
  dsimp only
  rw [if_pos hclosed]
  exact ⟨_, rfl, rfl⟩

/-- With both directions a disagreement refuses outside the uncertain regime. -/
theorem multi_judged (hstate : i.rules.higherState i.timeframe = some state) {d s : Direction} (hd : i.mainDirection = some d)
    (hs : dominantSignalDirection (i.technicalSignals state) = some s) :
    (d ≠ s ∧ i.regime ≠ some .uncertain ∧ ∃ r, i.multiTimeframeConfirmation = .ok r ∧ r.passed = false) ∨
      ((d = s ∨ i.regime = some .uncertain) ∧ i.multiTimeframeConfirmation = i.confirm (some (decide (d ≠ s)))) := by
  have hdirection : i.stateDirection = some s := by
    unfold MtfInput.stateDirection
    rw [stateSignals_eq hstate, hs]
  have hopen : ¬(i.stateSignals = [] ∨ i.mainDirection = none ∨ i.stateDirection = none) := by
    rw [stateSignals_eq hstate, hd, hdirection]
    simp [ne_nil_of_dominant hs]
  unfold MtfInput.multiTimeframeConfirmation
  rw [if_neg hmode, hstate]
  dsimp only
  rw [if_neg hopen, hd, hdirection]
  by_cases hsame : d = s
  · refine Or.inr ⟨Or.inl hsame, ?_⟩
    simp [hsame]
  · by_cases huncertain : i.regime = some .uncertain
    · refine Or.inr ⟨Or.inr huncertain, ?_⟩
      simp [hsame, huncertain]
    · refine Or.inl ⟨hsame, huncertain, ?_⟩
      simp [hsame, huncertain]

end

/-- A refusal follows the rule outside the uncertain regime, and in it where no higher timeframe that counts agrees. -/
theorem follows_of_refused {r : MtfResult} (hr : i.multiTimeframeConfirmation = .ok r) (hpassed : r.passed = false)
    (hnone : i.regime = some .uncertain → ∀ state, i.rules.higherState i.timeframe = some state → i.confirmTimeframe ≠ i.timeframe →
      (dominantSignalDirection (i.technicalSignals state)).isSome →
      (dominantSignalDirection (i.technicalSignals i.confirmTimeframe)).isSome →
      ¬(i.Agrees state ∨ i.Agrees i.confirmTimeframe)) : i.FollowsRule := by
  refine ⟨r, hr, fun _ h => ?_, fun huncertain state hstate hc hs hcs => ?_⟩
  · rw [hpassed] at h
    nomatch h
  · have hno := hnone huncertain state hstate hc hs hcs
    simp [hpassed, hno]

/-- A result that passes exactly if the confirmation timeframe agrees follows the rule if the state timeframe agrees too outside the
uncertain regime, and in it if the state timeframe agrees only with the confirmation timeframe. -/
theorem follows_of_judged {r : MtfResult} {d c : Direction} (hr : i.multiTimeframeConfirmation = .ok r)
    (hd : i.mainDirection = some d) (hc : dominantSignalDirection (i.technicalSignals i.confirmTimeframe) = some c)
    (hpassed : r.passed = true ↔ d = c)
    (hstrict : i.regime ≠ some .uncertain → ∀ state, i.rules.higherState i.timeframe = some state → i.Agrees state)
    (hmajority : i.regime = some .uncertain → ∀ state, i.rules.higherState i.timeframe = some state → i.Agrees state → d = c) :
    i.FollowsRule := by
  refine ⟨r, hr, fun hregime h => ⟨hstrict hregime, fun _ => ⟨d, hd, ?_⟩⟩, fun huncertain state hstate _ _ _ => ?_⟩
  · rw [hc, hpassed.mp h]
  · rw [agrees_iff hd hc, hpassed]
    exact ⟨Or.inr, fun h => h.elim (hmajority huncertain state hstate) id⟩

section

variable (hmode : i.rules.confirmationMode ≠ "entry_plus_one_higher")
include hmode

/-- No state timeframe above the entry timeframe. -/
theorem follows_iff_of_none (hnone : i.rules.higherState i.timeframe = none) : i.FollowsRule ↔ i.Covered := by
  have hmulti := multi_of_none hmode hnone
  have hno : ∀ {P : String → Prop}, ∀ state, i.rules.higherState i.timeframe = some state → P state := by
    intro P state hstate
    rw [hnone] at hstate
    nomatch hstate
  by_cases hconfirm : i.confirmTimeframe = i.timeframe
  · obtain ⟨r, hr, hpassed⟩ := confirm_same hconfirm none
    refine iff_of_true ⟨r, hmulti.trans hr, fun _ _ => ⟨hno, fun h => absurd hconfirm h⟩, fun _ => hno⟩ ?_
    exact fun _ _ _ h => absurd hconfirm h
  cases hd : i.mainDirection with
  | none =>
    obtain ⟨r, hr, hpassed⟩ := confirm_unavailable hconfirm (Or.inl hd) none
    refine iff_of_true (follows_of_refused (hmulti.trans hr) hpassed fun _ => hno) ?_
    intro _ _ _ _ d _ hd'
    rw [hd] at hd'
    nomatch hd'
  | some d =>
    cases hc : dominantSignalDirection (i.technicalSignals i.confirmTimeframe) with
    | none =>
      obtain ⟨r, hr, hpassed⟩ := confirm_unavailable hconfirm (Or.inr hc) none
      refine iff_of_true (follows_of_refused (hmulti.trans hr) hpassed fun _ => hno) ?_
      intro _ _ _ _ _ c _ hc'
      rw [hc] at hc'
      nomatch hc'
    | some c =>
      by_cases hunbound : i.regime = some .uncertain ∧ (configured i.rules.stateTimeframe).isSome
      · -- the state timeframe is the entry timeframe: the local is not bound
        have herror := hmulti.trans (confirm_unbound hconfirm hd hc hunbound.1 hunbound.2)
        obtain ⟨state, hstate⟩ := Option.isSome_iff_exists.mp hunbound.2
        refine iff_of_false ?_ fun hcovered => ?_
        · rintro ⟨r, hr, _⟩
          rw [herror] at hr
          nomatch hr
        · have hne := (hcovered hunbound.1 state hstate hconfirm d c hd hc).1
          exact hno (P := fun _ => False) state (higherState_eq_some_iff.mpr ⟨hstate, hne⟩)
      · obtain ⟨r, hr, hpassed⟩ := confirm_judged hconfirm hd hc none fun h hs => absurd ⟨h, hs⟩ hunbound
        refine iff_of_true (follows_of_judged (hmulti.trans hr) hd hc hpassed (fun _ => hno) fun _ => hno) ?_
        intro huncertain state hstate
        exact absurd ⟨huncertain, Option.isSome_iff_exists.mpr ⟨state, hstate⟩⟩ hunbound

/-- A state timeframe above the entry timeframe. -/
theorem follows_iff_of_some (hstate : i.rules.higherState i.timeframe = some state) : i.FollowsRule ↔ i.Covered := by
  obtain ⟨hset, hne⟩ := higherState_eq_some_iff.mp hstate
  have honly : ∀ {P : String → Prop}, P state → ∀ state', i.rules.higherState i.timeframe = some state' → P state' := by
    intro P hP state' h
    rw [hstate, Option.some.injEq] at h
    exact h ▸ hP
  cases hd : i.mainDirection with
  | none =>
    obtain ⟨r, hr, hpassed⟩ := multi_unavailable hmode hstate (Or.inl hd)
    refine iff_of_true (follows_of_refused hr hpassed fun _ state' _ _ _ _ => ?_) ?_
    · exact not_or.mpr ⟨not_agrees_of_none hd _, not_agrees_of_none hd _⟩
    · intro _ _ _ _ d _ hd'
      rw [hd] at hd'
      nomatch hd'
  | some d =>
    cases hs : dominantSignalDirection (i.technicalSignals state) with
    | none =>
      obtain ⟨r, hr, hpassed⟩ := multi_unavailable hmode hstate (Or.inr hs)
      refine iff_of_true (follows_of_refused hr hpassed fun _ => honly fun _ hsome => ?_) ?_
      · rw [hs] at hsome
        nomatch hsome
      · intro _ state' hset' _ _ _ _ _
        rw [hset, Option.some.injEq] at hset'
        subst hset'
        refine ⟨hne, fun hs' => ?_⟩
        rw [hs] at hs'
        nomatch hs'
    | some s =>
      rcases multi_judged hmode hstate hd hs with ⟨_, hregime, r, hr, hpassed⟩ | ⟨hgoes, hmulti⟩
      · exact iff_of_true (follows_of_refused hr hpassed fun h => absurd h hregime) fun h => absurd h hregime
      have hagrees : i.regime ≠ some .uncertain → i.Agrees state := fun hregime =>
        (agrees_iff hd hs).mpr (hgoes.resolve_right hregime)
      by_cases hconfirm : i.confirmTimeframe = i.timeframe
      · obtain ⟨r, hr, hpassed⟩ := confirm_same hconfirm (some (decide (d ≠ s)))
        refine iff_of_true ⟨r, hmulti.trans hr, fun hregime _ => ⟨honly (hagrees hregime), fun h => absurd hconfirm h⟩,
          fun _ _ _ h => absurd hconfirm h⟩ fun _ _ _ h => absurd hconfirm h
      cases hc : dominantSignalDirection (i.technicalSignals i.confirmTimeframe) with
      | none =>
        obtain ⟨r, hr, hpassed⟩ := confirm_unavailable hconfirm (Or.inr hc) (some (decide (d ≠ s)))
        refine iff_of_true (follows_of_refused (hmulti.trans hr) hpassed fun _ _ _ _ _ hsome => ?_) ?_
        · rw [hc] at hsome
          nomatch hsome
        · intro _ _ _ _ _ c _ hc'
          rw [hc] at hc'
          nomatch hc'
      | some c =>
        obtain ⟨r, hr, hpassed⟩ := confirm_judged hconfirm hd hc (some (decide (d ≠ s))) fun _ _ => rfl
        constructor
        · -- the rule in the uncertain regime: one of the two is enough
          rintro ⟨r', hr', _, hmajority⟩ huncertain state' hset' _ d' c' hd' hc'
          rw [hset, Option.some.injEq] at hset'
          subst hset'
          rw [hd, Option.some.injEq] at hd'
          rw [hc, Option.some.injEq] at hc'
          subst hd' hc'
          refine ⟨hne, fun hs' => ?_⟩
          rw [hmulti.trans hr, Except.ok.injEq] at hr'
          subst hr'
          have hiff := hmajority huncertain state hstate hconfirm (by rw [hs]; rfl) (by rw [hc]; rfl)
          exact (hpassed.mp (hiff.mpr (Or.inl ⟨d, hd, hs'⟩))).symm
        · intro hcovered
          refine follows_of_judged (hmulti.trans hr) hd hc hpassed (fun hregime => honly (hagrees hregime)) fun huncertain =>
            honly fun hstateAgrees => ?_
          have hsame := (agrees_iff hd hs).mp hstateAgrees
          exact ((hcovered huncertain state hset hconfirm d c hd hc).2 (hsame ▸ hs)).symm

end

end MultiTimeframeAux

/-- A long at 15 minutes in the uncertain regime, with the 4-hour signals against it; the 1-hour signals are long. -/
def againstFourHours (stateTimeframe : String) : MtfInput where
  rules := { stateTimeframe := some stateTimeframe, directionTimeframe := some "4h", entryTimeframe := some "15m" }
  timeframe := "15m"
  mainSignals := [{ side := .long, source := "technical_macd" }]
  technicalSignals t := [{ side := if t = "4h" then .short else .long, source := "technical_adx" }]
  regime := some .uncertain

end TradingPlatform
