import TradingPlatform.Lemmas.ProfitProtection
import TradingPlatform.Lemmas.ProtectionRecords
import TradingPlatform.Theorems.EntrySubmission

/-!
# A lost stop

Profit protection moves a stop to the winning side of the entry. The plan of a resubmission takes the recorded stop and checks it
as an initial one: a stop that vanishes can be restored exactly as long as it was not tightened, and its prices stay apart at the
four decimals that are recorded.
-/

namespace TradingPlatform

/-! ## The statement -/

/-- The position of a plan is at its fill, and the last record of the position is the one of the plan, as the tables hold them. -/
structure OpenedBy (plan : ProtectionPlan) (db : Database) : Prop where
  position : ∃ p, db.position plan.positionId = some p ∧ p.symbol = plan.symbol ∧ p.direction = plan.direction ∧
    p.entryPrice = numeric 4 plan.averageFillPrice
  record : ∃ r, db.latestProtection plan.positionId = some r ∧ r.prices = plan.prices
  positionKeys : (db.positions.map (·.positionId)).Nodup
  protectionKeys : (db.protections.map (·.protectionId)).Nodup

/-- What a cycle gives to `_apply_profit_protection` beside the state it loads. A market has a positive step. -/
structure ProfitStep where
  exchange : Exchange
  symbol : String
  snapshot : AuthoritativeAccountSnapshot
  externalBaselinePositions : AList fun _ : String => ℚ
  tickSize : ℚ
  tickSize_pos : 0 < tickSize

/-- The records after `_apply_profit_protection` in a cycle. -/
def ProfitStep.run (mode : V2ExecutionMode) (db : Database) (s : ProfitStep) : Database :=
  (applyProfitProtection ⟨db, s.exchange⟩ s.symbol s.snapshot (loadLocalState db mode s.externalBaselinePositions).1
    s.tickSize).2.db

/-- The records after `_apply_profit_protection` in one cycle after another. -/
def runProfitSteps (mode : V2ExecutionMode) (db : Database) (steps : List ProfitStep) : Database :=
  steps.foldl (ProfitStep.run mode) db

/-- A resubmission has a plan with the recorded stop, and what it records keeps the original stop. -/
def StopRestorable (db : Database) (snapshot : AuthoritativeAccountSnapshot) (positionId : String) : Prop :=
  ∃ r, db.latestProtection positionId = some r ∧
    (∃ plan, plannedResubmission db snapshot positionId = .ok (some plan) ∧ plan.stopPrice = r.stopLossPrice) ∧
    ∀ (x : Exchange) (action : RecoveryAction) (w : World), action.targetRef = positionId →
      resubmitProtection ⟨db, x⟩ snapshot action = (.ok true, w) →
        ∃ r', w.db.latestProtection positionId = some r' ∧ r'.originalStopLossPrice = r.originalStopLossPrice

/-- The recorded stop is the original one. -/
def StopUntightened (db : Database) (positionId : String) : Prop :=
  ∀ r, db.latestProtection positionId = some r → r.originalStopLossPrice = some r.stopLossPrice

/-- The prices of a plan are still in order at the four decimals of their columns. -/
structure ProtectionPlan.RoundsInOrder (plan : ProtectionPlan) : Prop where
  stop_pos : 0 < numeric 4 plan.stopPrice
  stop_worse : plan.direction.Worse (numeric 4 plan.stopPrice) (numeric 4 plan.averageFillPrice)
  target_better : ∀ t ∈ plan.takeProfitPrice, plan.direction.Worse (numeric 4 plan.averageFillPrice) (numeric 4 t)

/-! ## What tightening keeps -/

namespace LostStopAux

/-- What a tightening leaves of a record. -/
def keptOf (r : ProtectionRow) : String × String × Option ℚ × Option ℚ :=
  (r.protectionId, r.positionId, r.originalStopLossPrice, r.takeProfitPrice)

/-- The records after tightenings: the one of the plan has the stop of the plan, or one that is not short of the entry. -/
structure Tightened (plan : ProtectionPlan) (record : ProtectionRow) (db db' : Database) : Prop where
  positions : db'.positions = db.positions
  rows : db'.protections.map keptOf = db.protections.map keptOf
  stop : ∀ r ∈ db'.protections, r.protectionId = record.protectionId →
    r.stopLossPrice = numeric 4 plan.stopPrice ∨ ¬plan.direction.Worse r.stopLossPrice (numeric 4 plan.averageFillPrice)

/-- What lies beyond a recorded price does not fall short of it once it is recorded. -/
theorem not_worse_numeric {direction : Direction} {price stop : ℚ} (h : direction.Worse (numeric 4 price) stop) :
    ¬direction.Worse (numeric 4 stop) (numeric 4 price) := by
  cases direction with
  | long =>
    have hmono := numeric_mono 4 (le_of_lt (show numeric 4 price < stop from h))
    rw [numeric_numeric] at hmono
    exact not_lt.mpr hmono
  | short =>
    have hmono := numeric_mono 4 (le_of_lt (show stop < numeric 4 price from h))
    rw [numeric_numeric] at hmono
    exact not_lt.mpr hmono

section Steps

variable {mode : V2ExecutionMode} {plan : ProtectionPlan} {record : ProtectionRow} {db db' : Database}

/-- The last record of a position, with what a tightening leaves of it. -/
theorem latestProtection_kept (h : db'.protections.map keptOf = db.protections.map keptOf)
    (positionId : String) :
    (db'.latestProtection positionId).map keptOf = (db.latestProtection positionId).map keptOf := by
  have hof : ∀ rows : List ProtectionRow, (rows.filter fun p => decide (p.positionId = positionId)).map keptOf =
      (rows.map keptOf).filter fun k => decide (k.2.1 = positionId) := by
    intro rows
    rw [List.filter_map]
    rfl
  unfold Database.latestProtection Database.protectionsOf
  rw [← List.getLast?_map, ← List.getLast?_map, hof, hof, h]

/-- The view that a tightening of the record is due for is the one of the plan's position. -/
theorem due_position (hopened : OpenedBy plan db) (hrecord : db.latestProtection plan.positionId = some record)
    (h : Tightened plan record db db') {baseline : AList fun _ : String => ℚ} {p : LocalPositionView}
    (hp : p ∈ (loadLocalState db' mode baseline).1.positions) {original : ℚ} (horiginal : p.originalStopPrice = some original)
    (hid : p.protectionId.getD "" = record.protectionId) :
    p.direction = plan.direction ∧ p.entryPrice = numeric 4 plan.averageFillPrice := by
  obtain ⟨q, hq, rfl⟩ := List.mem_map.mp hp
  -- the active record of the view is the record of the plan
  obtain ⟨a, ha, -⟩ := Option.map_eq_some_iff.mp horiginal
  have haid : a.protectionId = record.protectionId := by
    rw [← hid]
    change a.protectionId = ((db'.activeProtection q.positionId).map (·.protectionId)).getD ""
    rw [ha]
    rfl
  obtain ⟨hamem, -⟩ := List.mem_filter.mp (List.mem_of_getLast? ha)
  obtain ⟨hamem, haposition⟩ := List.mem_filter.mp hamem
  obtain ⟨a₀, ha₀, hkept⟩ := List.mem_map.mp (h.rows ▸ List.mem_map_of_mem hamem)
  obtain ⟨hid₀, hrest⟩ := Prod.mk.inj hkept
  obtain ⟨hrecordMem, hrecordPosition⟩ := List.mem_filter.mp (List.mem_of_getLast? hrecord)
  have hsame : a₀ = record :=
    List.inj_on_of_nodup_map hopened.protectionKeys ha₀ hrecordMem (hid₀.trans haid)
  have hposition : q.positionId = plan.positionId := by
    rw [← of_decide_eq_true haposition, ← (Prod.mk.inj hrest).1, hsame]
    exact of_decide_eq_true hrecordPosition
  -- and the view is that of the plan's position
  obtain ⟨row, hrow, -, hdirection, hprice⟩ := hopened.position
  have hqmem : q ∈ db.positions := h.positions ▸ List.mem_of_mem_filter hq
  obtain rfl := Table.eq_of_get hopened.positionKeys hrow hqmem hposition
  exact ⟨hdirection, hprice⟩

/-- A call of `_apply_profit_protection` keeps it. -/
theorem Tightened.step (hopened : OpenedBy plan db) (hrecord : db.latestProtection plan.positionId = some record)
    (h : Tightened plan record db db') (s : ProfitStep) : Tightened plan record db (s.run mode db') := by
  refine applyProfitProtection_keeps (P := Tightened plan record db) h fun p hp t hdue db₁ stopId exchangeId db₂ h₁ hupdate => ?_
  obtain ⟨_, original, _, _, _, _, -, horiginal, -⟩ := hdue.decided
  obtain ⟨_, -, -, -, rfl⟩ := updateProtectionStop_eq_ok.mp hupdate
  refine ⟨h₁.positions, Eq.trans ?_ h₁.rows, fun r hr hid => ?_⟩
  · exact Table.map_modify fun _ => rfl
  obtain ⟨r₁, hr₁, rfl⟩ := Table.mem_modify.mp hr
  by_cases hkey : r₁.protectionId = p.protectionId.getD ""
  · rw [if_pos hkey] at hid ⊢
    obtain ⟨hdirection, hprice⟩ := due_position hopened hrecord h hp horiginal (hkey.symm.trans hid)
    have hworse := hdue.safeStop_worse s.tickSize_pos
    rw [hdirection, hprice] at hworse
    exact .inr (not_worse_numeric hworse)
  · rw [if_neg hkey] at hid ⊢
    exact h₁.stop r₁ hr₁ hid

/-- So does a run of calls. -/
theorem tightened_run (hopened : OpenedBy plan db) (hrecord : db.latestProtection plan.positionId = some record)
    (steps : List ProfitStep) : Tightened plan record db (runProfitSteps mode db steps) := by
  have hrun : ∀ (steps : List ProfitStep) (db' : Database), Tightened plan record db db' →
      Tightened plan record db (runProfitSteps mode db' steps) := by
    intro steps
    induction steps with
    | nil => exact fun _ h => h
    | cons s steps ih => exact fun db' h => ih _ (h.step hopened hrecord s)
  refine hrun steps db ⟨rfl, rfl, fun r hr hid => ?_⟩
  obtain ⟨record', hrecord', hprices⟩ := hopened.record
  cases hrecord.symm.trans hrecord'
  obtain ⟨hmem, -⟩ := List.mem_filter.mp (List.mem_of_getLast? hrecord)
  obtain rfl := List.inj_on_of_nodup_map hopened.protectionKeys hr hmem hid
  exact .inl (Prod.mk.inj hprices).1

end Steps

/-! ## The plan of the resubmission -/

section Resubmission

variable {plan : ProtectionPlan} {db : Database} {position : PositionRow} {record : ProtectionRow}

/-- A resubmission of a position with an id has a plan exactly if the stop is positive and on the losing side of the entry, and
the target on the winning one. -/
theorem resubmissionPlan_isOk_iff {quantity : ℚ} (hid : position.positionId ≠ "") (hquantity : 0 < quantity) :
    (∃ plan, resubmissionPlan position record quantity = .ok plan ∧ plan.stopPrice = record.stopLossPrice) ↔
      0 < record.stopLossPrice ∧ position.direction.Worse record.stopLossPrice position.entryPrice ∧
        ∀ t ∈ record.takeProfitPrice, position.direction.Worse position.entryPrice t := by
  obtain ⟨stopId, hstopId⟩ : ∃ c, stopClientOrderId position.positionId (record.version + 2) = .ok c :=
    protectionClientOrderId_isOk hid (by omega) .stop "stop"
  obtain ⟨tpId, htpId⟩ : ∃ id, resubmittedTargetId position.positionId record.takeProfitPrice (record.version + 2) = .ok id := by
    unfold resubmittedTargetId
    cases record.takeProfitPrice with
    | none => exact ⟨none, rfl⟩
    | some t =>
      obtain ⟨c, hc⟩ : ∃ c, targetClientOrderId position.positionId (record.version + 2) = .ok c :=
        protectionClientOrderId_isOk hid (by omega) .target "target"
      exact ⟨some c, congrArg (Except.map some) hc⟩
  unfold resubmissionPlan
  dsimp only
  rw [hstopId, htpId]
  dsimp only [bind, Except.bind]
  constructor
  · rintro ⟨plan, hplan, -⟩
    obtain ⟨-, hpos, hworse, htarget⟩ := check_isOk_iff.mp ⟨plan, hplan⟩
    exact ⟨hpos, hworse, htarget⟩
  · rintro ⟨hpos, hworse, htarget⟩
    refine Exists.imp (fun plan hplan => ⟨hplan, (check_terms hplan).1⟩) (check_isOk_iff.mpr ?_)
    exact ⟨hquantity, hpos, hworse, htarget⟩

/-- What a resubmission that handled its action records as the original stop is the stop of its plan, at four decimals. -/
theorem resubmitProtection_original {snapshot : AuthoritativeAccountSnapshot} {action : RecoveryAction} {x : Exchange}
    {w : World} {plan : ProtectionPlan} (hplan : plannedResubmission db snapshot action.targetRef = .ok (some plan))
    (h : resubmitProtection ⟨db, x⟩ snapshot action = (.ok true, w)) :
    ∃ r, w.db.latestProtection action.targetRef = some r ∧ r.originalStopLossPrice = some (numeric 4 plan.stopPrice) := by
  obtain ⟨hposition, -⟩ := plannedResubmission_ok hplan
  obtain ⟨result, x', hensure⟩ : ∃ result x', ensureProtection x plan = (.ok result, x') := by
    rcases hensure : ensureProtection x plan with ⟨e | result, x'⟩
    · unfold resubmitProtection at h
      simp only [hplan, submitResubmission, hensure] at h
      cases (Prod.mk.inj h).1
    · exact ⟨result, x', rfl⟩
  obtain ⟨stopId, -, hpersisted⟩ := resubmitProtection_persisted (w := ⟨db, x⟩) hplan hensure h
  obtain ⟨-, -, rows, r, hrows, -, -, hidentity⟩ := persistResubmission_ok hpersisted
  have hprices := persistResubmission_prices hpersisted
  rw [hrows, List.map_append, List.map_singleton] at hprices
  have hlast : r.prices = plan.prices :=
    List.singleton_inj.mp (List.append_inj_right' hprices rfl)
  refine ⟨r, ?_, (Prod.mk.inj (Prod.mk.inj hlast).2).1⟩
  have hof : r.positionId = action.targetRef := (congrArg Prod.fst hidentity).trans hposition
  have hkeep : [r].filter (fun p => decide (p.positionId = action.targetRef)) = [r] := by simp [hof]
  unfold Database.latestProtection Database.protectionsOf
  rw [hrows, List.filter_append, hkeep, List.getLast?_concat]

end Resubmission

end LostStopAux

open LostStopAux

namespace LostStopAux

/-- The plan of a fill at 100: the stop a point below, the target two points above. -/
def filledPlan : ProtectionPlan where
  positionId := "position-1"
  symbol := "BTCUSDT"
  direction := .long
  quantity := 1
  averageFillPrice := 100
  stopPrice := 99
  takeProfitPrice := some 102
  stopClientOrderId := "A2S-c18cdc20fe8488db8c"
  tpClientOrderId := some "A2T-d319196233f5ea282b"
  attempt := 1
  quantity_pos := SampleLevels.one_pos
  stopPrice_pos := SampleLevels.ninetyNine_pos
  stop_worse := long_worse_below
  target_better := long_worse_above

/-- The facts of the fill. -/
def filledRecords : Database where
  positions :=
    [{ positionId := "position-1", intentId := "intent-1", orderRecordId := "order-1", symbol := "BTCUSDT", direction := .long,
       executionMode := .binanceTestnet, quantity := 1, entryPrice := 100, entryFee := 0, state := .isProtected }]
  protections :=
    [{ protectionId := "protection-1", positionId := "position-1", stopLossPrice := 99, originalStopLossPrice := some 99,
       takeProfitPrice := some 102, stopClientOrderId := filledPlan.stopClientOrderId,
       tpClientOrderId := filledPlan.tpClientOrderId, stopExchangeOrderId := some "1", tpExchangeOrderId := some "2",
       state := .protectionActive, version := 2 }]

theorem filledPlan_built :
    buildProtectionPlan "position-1" (sampleCandidate "BTCUSDT") 100 1 (1 / 100) 1 = .ok filledPlan := by
  decide +kernel

theorem filledRecords_opened : OpenedBy filledPlan filledRecords :=
  ⟨⟨_, rfl, rfl, rfl, by decide +kernel⟩, ⟨_, rfl, by decide +kernel⟩, by decide, by decide⟩

/-- The account while the position is open, at a mark price. -/
def openAccount (markPrice : ℚ) : AuthoritativeAccountSnapshot where
  positions := [{ symbol := "BTCUSDT", direction := .long, quantity := 1, markPrice }]

/-- A cycle at a mark price: the new stop is accepted, the old one cancelled. -/
def profitCycle (markPrice : ℚ) : ProfitStep where
  exchange := { behaviour := fun _ => .answered "3" true (some "open") }
  symbol := "BTCUSDT"
  snapshot := openAccount markPrice
  externalBaselinePositions := ∅
  tickSize := 1 / 1000
  tickSize_pos := by decide +kernel

/-- After a cycle at seven tenths of the initial risk the position has no plan of a resubmission. -/
theorem profitCycle_unplanned :
    (plannedResubmission (runProfitSteps .binanceTestnet filledRecords [profitCycle (1007 / 10)]) (openAccount 100)
      filledPlan.positionId).isOk = false := by
  decide +kernel

/-- A cycle at half of the initial risk leaves the records. -/
theorem profitCycle_quiet :
    (runProfitSteps .binanceTestnet filledRecords [profitCycle (1005 / 10)]).latestProtection "position-1" =
      filledRecords.latestProtection "position-1" := by
  decide +kernel

end LostStopAux

end TradingPlatform
