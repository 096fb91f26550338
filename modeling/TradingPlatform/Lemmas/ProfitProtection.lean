import TradingPlatform.Lemmas.Repository

/-!
# What profit protection does

A tightened stop lies beyond the entry, on the winning side, whatever the mark price and the tick are. What the loop does to the
records follows from what one tightening does to them.
-/

namespace TradingPlatform

/-! ## The stop -/

/-- A stop of the policy is on the winning side of the entry. -/
theorem p1ProfitProtection_worse {direction : Direction} {entryPrice originalStop mark trigger lock stop : ℚ}
    (h : p1ProfitProtection direction entryPrice originalStop mark = some (trigger, lock, stop)) :
    direction.Worse entryPrice stop := by
  have hrisk : ¬|entryPrice - originalStop| ≤ 0 := by
    intro hnone
    unfold p1ProfitProtection at h
    dsimp only at h
    rw [if_pos hnone] at h
    nomatch h
  have hpos : 0 < |entryPrice - originalStop| := not_le.mp hrisk
  unfold p1ProfitProtection at h
  dsimp only at h
  rw [if_neg hrisk] at h
  cases direction with
  | long =>
    dsimp only at h
    change entryPrice < stop
    split_ifs at h with hfull hpart
    all_goals
      obtain ⟨-, hrest⟩ := Prod.mk.inj (Option.some.inj h)
      rw [← (Prod.mk.inj hrest).2]
      linarith
  | short =>
    dsimp only at h
    change stop < entryPrice
    split_ifs at h with hfull hpart
    all_goals
      obtain ⟨-, hrest⟩ := Prod.mk.inj (Option.some.inj h)
      rw [← (Prod.mk.inj hrest).2]
      linarith

/-- The stop of a tightening: rounded to the tick, away from the entry. -/
def tickedStop (direction : Direction) (stop tickSize : ℚ) : ℚ :=
  match direction with
  | .long => (stop / tickSize).ceil * tickSize
  | .short => (stop / tickSize).floor * tickSize

theorem tickedStop_worse {direction : Direction} {entryPrice stop tickSize : ℚ} (htick : 0 < tickSize)
    (h : direction.Worse entryPrice stop) : direction.Worse entryPrice (tickedStop direction stop tickSize) := by
  cases direction with
  | long =>
    have hround : stop ≤ ((stop / tickSize).ceil : ℚ) * tickSize := (div_le_iff₀ htick).mp Rat.le_ceil
    exact lt_of_lt_of_le h hround
  | short =>
    have hround : ((stop / tickSize).floor : ℚ) * tickSize ≤ stop := (le_div_iff₀ htick).mp (Rat.floor_le _)
    exact lt_of_le_of_lt hround h

/-- What a tightening that is due was decided from. -/
structure Due (p : LocalPositionView) (symbol : String) (snapshot : AuthoritativeAccountSnapshot) (tickSize : ℚ)
    (t : Tightening) : Prop where
  symbol_eq : p.symbol = symbol
  isOpen : p.state ≠ .closed ∧ p.state ≠ .quarantined
  decided : ∃ e original current trigger lock stop, snapshot.positionOf p.symbol p.direction = some e ∧
    p.originalStopPrice = some original ∧ p.currentStopPrice = some current ∧
    p1ProfitProtection p.direction p.entryPrice original e.markPrice = some (trigger, lock, stop) ∧
    p.direction.Worse current stop ∧ t.safeStop = tickedStop p.direction stop tickSize
  revision_eq : t.revision = max (p.protectionVersion + 1) 1
  oldStop : ∃ ref ∈ p.protectionOrderRefs, ref.2.2 = "HARD_STOP" ∧ t.oldStopExchangeOrderId = ref.1

theorem due_of_tightening {p : LocalPositionView} {symbol : String} {snapshot : AuthoritativeAccountSnapshot} {tickSize : ℚ}
    {t : Tightening} (h : p.tightening symbol snapshot tickSize = some t) : Due p symbol snapshot tickSize t := by
  unfold LocalPositionView.tightening at h
  split at h
  · nomatch h
  · rename_i hskip
    rw [not_or, not_or, not_not] at hskip
    split at h
    · rename_i e original current hposition horiginal hcurrent
      split at h
      · rename_i trigger lock stop oldStop _ _ hp1 href
        split at h
        · rename_i hworse
          cases h
          refine ⟨hskip.1, hskip.2, ⟨e, original, current, trigger, lock, stop, hposition, horiginal, hcurrent, hp1, hworse, ?_⟩,
            rfl, ⟨_, List.mem_of_find?_eq_some href, ?_, rfl⟩⟩
          · unfold tickedStop
            cases p.direction <;> rfl
          · have hfound := List.find?_some href
            exact of_decide_eq_true hfound
        · nomatch h
      · nomatch h
    · nomatch h

/-- A tightening that is due puts the stop beyond the entry. -/
theorem Due.safeStop_worse {p : LocalPositionView} {symbol : String} {snapshot : AuthoritativeAccountSnapshot} {tickSize : ℚ}
    {t : Tightening} (h : Due p symbol snapshot tickSize t) (htick : 0 < tickSize) :
    p.direction.Worse p.entryPrice t.safeStop := by
  obtain ⟨_, _, _, _, _, _, -, -, -, hp1, -, hsafe⟩ := h.decided
  rw [hsafe]
  exact tickedStop_worse htick (p1ProfitProtection_worse hp1)

/-! ## The records -/

section Records

variable {P : Database → Prop} {symbol : String} {snapshot : AuthoritativeAccountSnapshot} {tickSize : ℚ}
  {failure : StoreFailure}

/-- A record that the store takes is the one of `update_protection_stop`. -/
theorem recordTightening_eq_ok {db db' : Database} {protectionId : String} {safeStop : ℚ} {stopId exchangeId : String} :
    recordTightening failure db protectionId safeStop stopId exchangeId = .ok db' ↔
      failure protectionId = none ∧ updateProtectionStop db protectionId safeStop stopId exchangeId = .ok db' := by
  unfold recordTightening
  cases failure protectionId with
  | none => exact (and_iff_right rfl).symm
  | some e => exact iff_of_false nofun fun h => nomatch h.1

/-- What every record of a tightening that is due keeps, one tightening keeps. -/
theorem tightenStop_keeps {w : World} {p : LocalPositionView} {t : Tightening} (h : P w.db)
    (hstep : ∀ stopId exchangeId db', updateProtectionStop w.db (p.protectionId.getD "") t.safeStop stopId exchangeId = .ok db' →
      P db') : P (tightenStop w p t failure).2.db := by
  unfold tightenStop
  split
  · exact h
  · dsimp only
    split
    · exact h
    · split
      · exact h
      · rename_i clientOrderId _ _ receipt _ _ _ _ _ _
        cases hrecord : recordTightening failure w.db (p.protectionId.getD "") t.safeStop clientOrderId
            receipt.exchangeOrderId with
        | error e => exact h
        | ok db' => exact hstep _ _ _ (recordTightening_eq_ok.mp hrecord).2

/-- What each tightening of the loop keeps, the loop keeps. -/
theorem tightenStops_keeps (views : List LocalPositionView) (w : World) (h : P w.db)
    (hstep : ∀ p ∈ views, ∀ t, Due p symbol snapshot tickSize t → ∀ db stopId exchangeId db', P db →
      updateProtectionStop db (p.protectionId.getD "") t.safeStop stopId exchangeId = .ok db' → P db') :
    P (tightenStops symbol snapshot tickSize failure views w).2.db := by
  induction views generalizing w with
  | nil => exact h
  | cons p rest ih =>
    have hrest : ∀ w : World, P w.db → P (tightenStops symbol snapshot tickSize failure rest w).2.db := by
      intro w hw
      exact ih w hw fun q hq => hstep q (List.mem_cons_of_mem p hq)
    unfold tightenStops
    cases htightening : p.tightening symbol snapshot tickSize with
    | none => exact hrest w h
    | some t =>
      have hone : P (tightenStop w p t failure).2.db :=
        tightenStop_keeps h fun stopId exchangeId db' =>
          hstep p List.mem_cons_self t (due_of_tightening htightening) w.db stopId exchangeId db' h
      dsimp only
      split
      · rename_i e w' hraised
        rw [hraised] at hone
        exact hone
      · rename_i w' hdone
        rw [hdone] at hone
        exact hrest w' hone

/-- What each tightening keeps, a call of `_apply_profit_protection` keeps: a raise rolls the records back. -/
theorem applyProfitProtection_keeps {w : World} {localState : LocalStateView} (h : P w.db)
    (hstep : ∀ p ∈ localState.positions, ∀ t, Due p symbol snapshot tickSize t → ∀ db stopId exchangeId db', P db →
      updateProtectionStop db (p.protectionId.getD "") t.safeStop stopId exchangeId = .ok db' → P db') :
    P (applyProfitProtection w symbol snapshot localState tickSize failure).2.db := by
  have hloop : P (tightenStops symbol snapshot tickSize failure localState.positions w).2.db :=
    tightenStops_keeps localState.positions w h hstep
  unfold applyProfitProtection
  split
  · exact h
  · rename_i w' hdone
    rw [hdone] at hloop
    exact hloop

end Records

end TradingPlatform
