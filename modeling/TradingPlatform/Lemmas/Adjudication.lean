import TradingPlatform.Lemmas.Repository
import TradingPlatform.Engine.Adjudication

/-!
# Adjudication, allocation by allocation

What `finalize_adjudication` does with one allocation is decided by the rows of its position alone: it is applied, it was applied
before, or it is refused. Allocations of other positions do not change that, so the loop over them can be read off the state
before the call.
-/

namespace TradingPlatform

/-! ## Checks -/

/-- No check fires. -/
theorem raiseFirst_eq_ok {checks : List (Bool × String)} : raiseFirst checks = .ok () ↔ ∀ check ∈ checks, check.1 = false := by
  unfold raiseFirst
  split
  · rename_i hnone
    simpa using hnone
  · rename_i check hsome
    refine ⟨nofun, fun h => ?_⟩
    have hfires := List.find?_some hsome
    rw [h check (List.mem_of_find?_eq_some hsome)] at hfires
    exact absurd hfires (by decide)

/-- What a manifest that is valid says of its quantities. -/
structure AdjudicationManifest.Sound (m : AdjudicationManifest) : Prop where
  positive : ∀ item ∈ m.allocations, 0 < item.allocatedQuantity.value
  total : quantize (allocatedTotal m.allocations) = quantize m.exchangeFillQuantity.value
  distinct : (m.allocations.map fun item => (item.databaseIdentity, item.positionId)).Nodup

theorem validateManifest_sound {m : AdjudicationManifest} {e : ExchangeAggregateExitEvidence}
    (h : validateManifest m e = .ok ()) : m.Sound := by
  have hchecks := raiseFirst_eq_ok.mp h
  simp only [List.forall_mem_cons, decide_eq_false_iff_not, not_not, not_lt, Bool.or_eq_false_iff] at hchecks
  obtain ⟨-, -, -, -, -, -, -, hfill, ⟨-, hpositive⟩, hunder, hover, hdistinct, -⟩ := hchecks
  refine ⟨fun item hitem => ?_, ?_, hdistinct⟩
  · by_contra hle
    have hany : (m.allocations.any fun item => decide (item.allocatedQuantity.value ≤ 0)) = true :=
      List.any_eq_true.mpr ⟨item, hitem, decide_eq_true (not_lt.mp hle)⟩
    rw [hany] at hpositive
    exact absurd hpositive (by decide)
  · exact (le_antisymm hover hunder).trans hfill.symm

/-- The allocations of a database are of distinct positions. -/
theorem AdjudicationManifest.Sound.participant_nodup {m : AdjudicationManifest} (h : m.Sound) (databaseIdentity : String) :
    ((m.participant databaseIdentity).map AllocationSpec.positionId).Nodup := by
  have hpairs : ((m.participant databaseIdentity).map fun item => (item.databaseIdentity, item.positionId)).Nodup :=
    h.distinct.sublist (List.Sublist.map _ List.filter_sublist)
  have hmap : ((m.participant databaseIdentity).map fun item => (item.databaseIdentity, item.positionId)) =
      ((m.participant databaseIdentity).map AllocationSpec.positionId).map fun id => (databaseIdentity, id) := by
    rw [List.map_map]
    refine List.map_congr_left fun item hitem => ?_
    have hidentity : item.databaseIdentity = databaseIdentity := by simpa [AdjudicationManifest.participant] using
      (List.mem_filter.mp hitem).2
    simp [hidentity]
  rw [hmap] at hpairs
  exact hpairs.of_map _

/-! ## One attribution -/

section

variable {db db' : Database} {a : HistoricalAttribution} {position : PositionRow}

/-- What the constraints of a finalization ask for. -/
theorem insertFinalization_eq_ok {row : FinalizationRow} : db.insertFinalization row = .ok db' ↔
    (∀ f ∈ db.finalizations, f.adjudicationId ≠ row.adjudicationId ∨ f.databaseIdentity ≠ row.databaseIdentity ∨
      f.positionId ≠ row.positionId) ∧ 0 < row.aggregateQuantity ∧ 0 < row.allocatedQuantity ∧
    db' = { db with finalizations := db.finalizations ++ [row] } := by
  unfold Database.insertFinalization
  simp only [Loops.bind_eq_ok, require_eq_ok, List.all_eq_true, decide_eq_true_eq, exists_const, pure, Except.pure,
    Except.ok.injEq]
  constructor
  · rintro ⟨hfresh, haggregate, hallocated, rfl⟩
    exact ⟨hfresh, haggregate, hallocated, rfl⟩
  · rintro ⟨hfresh, haggregate, hallocated, rfl⟩
    exact ⟨hfresh, haggregate, hallocated, rfl⟩

/-- An attribution of exactly the quantity of a quarantined position closes it. -/
theorem finalizeQuarantinedHistoricalAttribution_of_quarantined (hposition : db.position a.positionId = some position)
    (hnone : db.finalizations.find? (fun f => decide (f.adjudicationId = a.adjudicationId ∧ f.positionId = a.positionId)) =
      none)
    (hstate : position.state = .quarantined) (hquantity : position.quantity = a.allocatedQuantity)
    (haggregate : 0 < a.aggregateQuantity) (hallocated : 0 < a.allocatedQuantity) :
    finalizeQuarantinedHistoricalAttribution db a =
      let closed := (db.modifyPosition a.positionId fun p => { p with state := .closed, version := p.version + 1 }).appendEvent
        a.positionId "POSITION" "QuarantinedLifecycleHistoricallyAttributedExit"
        (statePayload [] V2PositionState.quarantined.value V2PositionState.closed.value (position.version + 1))
      .ok { closed with finalizations := db.finalizations ++ [a.row] } := by
  unfold finalizeQuarantinedHistoricalAttribution
  simp only [hposition, hnone]
  rw [if_neg (by simp [hstate, hquantity]), hstate, insertFinalization_eq_ok]
  refine ⟨fun f hf => ?_, haggregate, hallocated, rfl⟩
  have hother := List.find?_eq_none.mp hnone f hf
  simp only [decide_eq_true_eq, not_and_or] at hother
  exact hother.imp id .inr

/-- An attribution that is not returned to is of exactly the quantity of its position. -/
theorem finalizeQuarantinedHistoricalAttribution_ok (hposition : db.position a.positionId = some position)
    (hnone : db.finalizations.find? (fun f => decide (f.adjudicationId = a.adjudicationId ∧ f.positionId = a.positionId)) =
      none)
    (hok : finalizeQuarantinedHistoricalAttribution db a = .ok db') :
    position.quantity = a.allocatedQuantity ∧ 0 < a.aggregateQuantity ∧ 0 < a.allocatedQuantity := by
  unfold finalizeQuarantinedHistoricalAttribution at hok
  simp only [hposition, hnone] at hok
  split at hok
  · nomatch hok
  · rename_i hclosed
    obtain ⟨-, haggregate, hallocated, -⟩ := insertFinalization_eq_ok.mp hok
    exact ⟨not_not.mp fun hne => hclosed (.inr hne), haggregate, hallocated⟩

end

/-! ## One allocation -/

section

variable (h : AdjudicationHash) (m : AdjudicationManifest) (e : ExchangeAggregateExitEvidence)

/-- The finalization of an allocation is recorded, with the same receipt. -/
def FinalizableParticipant.recorded (s : FinalizableParticipant) (item : AllocationSpec) : Bool :=
  (s.participant.db.position item.positionId).isSome &&
    (s.participant.finalization s.adjudicationId item.positionId).any fun f =>
      decide (f.manifestHash = h.manifestHash m.payload ∧ f.evidenceHash = h.evidenceHash e.payload ∧
        f.exchangeTradeId = m.exchangeTradeId ∧ s.participant.read f.allocatedQuantity = item.allocatedQuantity.value)

/-- An allocation is to be applied: its position is quarantined, has exactly its quantity and was not finalized. -/
def FinalizableParticipant.applies (s : FinalizableParticipant) (item : AllocationSpec) : Bool :=
  (s.participant.finalization s.adjudicationId item.positionId).isNone &&
    ((s.participant.db.position item.positionId).any fun position =>
      decide (position.state = .quarantined ∧ position.quantity = item.allocatedQuantity.value)) &&
    decide (0 < m.exchangeFillQuantity.value ∧ 0 < item.allocatedQuantity.value)

/-- An allocation is neither recorded nor to be applied. -/
def FinalizableParticipant.refused (s : FinalizableParticipant) (item : AllocationSpec) : Bool :=
  !s.recorded h m e item && !s.applies m item

/-- The participant after an allocation was applied. -/
def FinalizableParticipant.apply (s : FinalizableParticipant) (item : AllocationSpec) : Participant :=
  let row := (item.attribution h m e s.databaseIdentity s.adjudicationId).row
  let version := ((s.participant.db.position item.positionId).map PositionRow.version).getD 0
  let db := (s.participant.db.modifyPosition item.positionId fun p =>
    { p with state := .closed, version := p.version + 1 }).appendEvent item.positionId "POSITION"
      "QuarantinedLifecycleHistoricallyAttributedExit"
      (statePayload [] V2PositionState.quarantined.value V2PositionState.closed.value (version + 1))
  { s.participant with db := { db with finalizations := db.finalizations ++ [row] } }

variable {h m e}

theorem finalizeAllocation_recorded {s : FinalizableParticipant} {item : AllocationSpec} (hr : s.recorded h m e item = true) :
    finalizeAllocation h m e s.databaseIdentity s.adjudicationId s.participant item = .ok s.participant := by
  simp only [FinalizableParticipant.recorded, Bool.and_eq_true, Option.any_eq_true, decide_eq_true_eq] at hr
  obtain ⟨hposition, f, hf, hsame⟩ := hr
  obtain ⟨position, hposition⟩ := Option.isSome_iff_exists.mp hposition
  simp only [finalizeAllocation, hposition, hf]
  rw [if_neg]
  rintro (hne | hne | hne | hne)
  · exact hne hsame.1
  · exact hne hsame.2.1
  · exact hne hsame.2.2.1
  · exact hne hsame.2.2.2

theorem finalizeAllocation_applies {s : FinalizableParticipant} {item : AllocationSpec} (ha : s.applies m item = true) :
    finalizeAllocation h m e s.databaseIdentity s.adjudicationId s.participant item = .ok (s.apply h m e item) := by
  simp only [FinalizableParticipant.applies, Bool.and_eq_true, Option.any_eq_true, decide_eq_true_eq,
    Option.isNone_iff_eq_none] at ha
  obtain ⟨⟨hnone, position, hposition, hstate, hquantity⟩, haggregate, hallocated⟩ := ha
  have hproject : finalizeQuarantinedHistoricalAttribution s.participant.db
      (item.attribution h m e s.databaseIdentity s.adjudicationId) = .ok (s.apply h m e item).db := by
    rw [finalizeQuarantinedHistoricalAttribution_of_quarantined
      (a := item.attribution h m e s.databaseIdentity s.adjudicationId) hposition hnone hstate hquantity haggregate hallocated]
    simp [FinalizableParticipant.apply, hposition, AllocationSpec.attribution]
    rfl
  simp only [finalizeAllocation, hposition, hnone]
  rw [if_neg (by simp [hstate]), hproject]
  rfl

/-- What is refused raises. -/
theorem finalizeAllocation_refused {s : FinalizableParticipant} {item : AllocationSpec} (hr : s.refused h m e item = true) :
    ∃ error, finalizeAllocation h m e s.databaseIdentity s.adjudicationId s.participant item = .error error := by
  cases hresult : finalizeAllocation h m e s.databaseIdentity s.adjudicationId s.participant item with
  | error error => exact ⟨error, rfl⟩
  | ok p =>
    exfalso
    simp only [FinalizableParticipant.refused, Bool.and_eq_true, Bool.not_eq_true'] at hr
    unfold finalizeAllocation at hresult
    split at hresult
    · nomatch hresult
    · rename_i position hposition
      split at hresult
      · rename_i f hf
        split at hresult
        · nomatch hresult
        · rename_i hsame
          simp only [not_or, not_not] at hsame
          have hrecorded : s.recorded h m e item = true := by
            simp [FinalizableParticipant.recorded, hposition, hf, hsame]
          exact absurd hrecorded (by simp [hr.1])
      · rename_i hnone
        split at hresult
        · nomatch hresult
        · rename_i hstate
          obtain ⟨db, hproject, -⟩ := Loops.map_eq_ok.mp hresult
          obtain ⟨hquantity, haggregate, hallocated⟩ := finalizeQuarantinedHistoricalAttribution_ok
            (a := item.attribution h m e s.databaseIdentity s.adjudicationId) hposition hnone hproject
          have happlies : s.applies m item = true := by
            simp only [FinalizableParticipant.applies, hnone, Option.isNone_none, hposition, Option.any_some, Bool.true_and,
              Bool.and_eq_true, decide_eq_true_eq]
            exact ⟨⟨not_not.mp hstate, hquantity⟩, haggregate, hallocated⟩
          exact absurd happlies (by simp [hr.2])

/-- An allocation is recorded, is applied or is refused. -/
theorem finalizeAllocation_cases (h : AdjudicationHash) (m : AdjudicationManifest) (e : ExchangeAggregateExitEvidence)
    (s : FinalizableParticipant) (item : AllocationSpec) :
    s.recorded h m e item = true ∧
        finalizeAllocation h m e s.databaseIdentity s.adjudicationId s.participant item = .ok s.participant ∨
      s.applies m item = true ∧
        finalizeAllocation h m e s.databaseIdentity s.adjudicationId s.participant item = .ok (s.apply h m e item) ∨
      s.refused h m e item = true ∧
        ∃ error, finalizeAllocation h m e s.databaseIdentity s.adjudicationId s.participant item = .error error := by
  cases hrecorded : s.recorded h m e item with
  | true => exact .inl ⟨rfl, finalizeAllocation_recorded hrecorded⟩
  | false =>
    cases happlies : s.applies m item with
    | true => exact .inr (.inl ⟨rfl, finalizeAllocation_applies happlies⟩)
    | false =>
      have hrefused : s.refused h m e item = true := by simp [FinalizableParticipant.refused, hrecorded, happlies]
      exact .inr (.inr ⟨hrefused, finalizeAllocation_refused hrefused⟩)

/-! ## The others -/

/-- The position and the finalization of another allocation are as they were. -/
theorem FinalizableParticipant.apply_other (s : FinalizableParticipant) {item other : AllocationSpec}
    (hne : other.positionId ≠ item.positionId) :
    (s.apply h m e item).db.position other.positionId = s.participant.db.position other.positionId ∧
      (s.apply h m e item).finalization s.adjudicationId other.positionId =
        s.participant.finalization s.adjudicationId other.positionId := by
  constructor
  · exact Table.get_modify_other (fun _ => rfl) hne
  · simp only [Participant.finalization, FinalizableParticipant.apply, Database.appendEvent, Database.modifyPosition,
      List.find?_append]
    have hrow : ([(item.attribution h m e s.databaseIdentity s.adjudicationId).row].find? fun f =>
        decide (f.adjudicationId = s.adjudicationId ∧ f.positionId = other.positionId)) = none := by
      simp [HistoricalAttribution.row, AllocationSpec.attribution, hne.symm]
    rw [hrow, Option.or_none]

/-- The participant with an allocation applied. -/
def FinalizableParticipant.after (h : AdjudicationHash) (m : AdjudicationManifest) (e : ExchangeAggregateExitEvidence)
    (s : FinalizableParticipant) (item : AllocationSpec) : FinalizableParticipant :=
  { s with participant := s.apply h m e item }

@[simp] theorem FinalizableParticipant.after_databaseIdentity (s : FinalizableParticipant) (item : AllocationSpec) :
    (s.after h m e item).databaseIdentity = s.databaseIdentity := rfl

@[simp] theorem FinalizableParticipant.after_adjudicationId (s : FinalizableParticipant) (item : AllocationSpec) :
    (s.after h m e item).adjudicationId = s.adjudicationId := rfl

@[simp] theorem FinalizableParticipant.after_participant (s : FinalizableParticipant) (item : AllocationSpec) :
    (s.after h m e item).participant = s.apply h m e item := rfl

theorem recorded_after {s : FinalizableParticipant} {item other : AllocationSpec} (hne : other.positionId ≠ item.positionId) :
    (s.after h m e item).recorded h m e other = s.recorded h m e other := by
  obtain ⟨hposition, hfinalization⟩ := FinalizableParticipant.apply_other (h := h) (m := m) (e := e) s hne
  simp only [FinalizableParticipant.recorded, FinalizableParticipant.after, hposition, hfinalization]
  rfl

theorem applies_after {s : FinalizableParticipant} {item other : AllocationSpec} (hne : other.positionId ≠ item.positionId) :
    (s.after h m e item).applies m other = s.applies m other := by
  obtain ⟨hposition, hfinalization⟩ := FinalizableParticipant.apply_other (h := h) (m := m) (e := e) s hne
  simp only [FinalizableParticipant.applies, FinalizableParticipant.after, hposition, hfinalization]

theorem refused_after {s : FinalizableParticipant} {item other : AllocationSpec} (hne : other.positionId ≠ item.positionId) :
    (s.after h m e item).refused h m e other = s.refused h m e other := by
  simp only [FinalizableParticipant.refused, recorded_after hne, applies_after hne]

/-! ## Preparing -/

/-- What preparing leaves of a participant: a new case of its own keys, and allocations of a new case or of a case that had none
in their database. -/
structure Participant.Extends (p p' : Participant) : Prop where
  db : p'.db = p.db
  read : p'.read = p.read
  cases : p'.cases = p.cases ∨ ∃ c, p'.cases = p.cases ++ [c] ∧ ∀ c₀ ∈ p.cases, c₀.adjudicationId ≠ c.adjudicationId ∧
    c₀.caseKey ≠ c.caseKey ∧ (c₀.exchangeOrderId ≠ c.exchangeOrderId ∨ c₀.exchangeTradeId ≠ c.exchangeTradeId)
  allocations : ∃ more, p'.allocations = p.allocations ++ more ∧ ∀ a ∈ more, ∀ c ∈ p.cases,
    a.adjudicationId = c.adjudicationId → p.prepared a.adjudicationId a.databaseIdentity = []

theorem Participant.Extends.refl (p : Participant) : p.Extends p :=
  ⟨rfl, rfl, .inl rfl, [], (List.append_nil _).symm, fun _ ha => absurd ha List.not_mem_nil⟩

theorem Participant.Extends.reading {p p' : Participant} (h : p.Extends p') (read : ℚ → ℚ) :
    Participant.Extends { p with read } { p' with read } where
  db := h.db
  read := rfl
  cases := h.cases
  allocations := h.allocations

theorem insertCase_eq_ok {p p' : Participant} {row : AdjudicationCase} (hok : p.insertCase row = .ok p') :
    p' = { p with cases := p.cases ++ [row] } ∧ ∀ c ∈ p.cases, c.adjudicationId ≠ row.adjudicationId ∧
      c.caseKey ≠ row.caseKey ∧ (c.exchangeOrderId ≠ row.exchangeOrderId ∨ c.exchangeTradeId ≠ row.exchangeTradeId) := by
  unfold Participant.insertCase at hok
  simp only [Loops.bind_eq_ok, require_eq_ok, List.all_eq_true, decide_eq_true_eq, exists_const] at hok
  obtain ⟨hid, hkey, -, htrade, -, hok⟩ := hok
  exact ⟨(Except.ok.inj hok).symm, fun c hc => ⟨hid c hc, hkey c hc, htrade c hc⟩⟩

theorem insertAllocations_ok {β : Type} {row : β → AdjudicationAllocation} {items : List β} {p p' : Participant}
    (hok : items.foldlM (fun p item => p.insertAllocation (row item)) p = .ok p') :
    p' = { p with allocations := p.allocations ++ items.map row } := by
  induction items generalizing p with
  | nil =>
    obtain rfl : p = p' := by simpa [pure, Except.pure] using hok
    simp
  | cons item rest ih =>
    rw [List.foldlM_cons] at hok
    obtain ⟨p₁, hfirst, hrest⟩ := Loops.bind_eq_ok.mp hok
    unfold Participant.insertAllocation at hfirst
    obtain ⟨_, -, hfirst⟩ := Loops.bind_eq_ok.mp hfirst
    obtain ⟨_, -, hfirst⟩ := Loops.bind_eq_ok.mp hfirst
    cases hfirst
    rw [ih hrest]
    simp

theorem prepareAdjudication_extends {p p' : Participant} {c : AdjudicationCase} {databaseIdentity : String}
    {provide : Option EvidenceProvider} (hok : prepareAdjudication h p m databaseIdentity provide = .ok (c, p')) :
    p.Extends p' := by
  unfold prepareAdjudication at hok
  split at hok
  · nomatch hok
  · obtain ⟨evidence, -, hok⟩ := Loops.bind_eq_ok.mp hok
    obtain ⟨u, -, hok⟩ := Loops.bind_eq_ok.mp hok
    dsimp only at hok
    split at hok
    · nomatch hok
    · split at hok
      · rename_i existing hexisting
        split at hok
        · nomatch hok
        · split at hok
          · nomatch hok
          · split at hok
            · cases hok
              exact .refl p
            · split at hok
              · nomatch hok
              · rename_i hempty
                obtain ⟨v, -, hok⟩ := Loops.bind_eq_ok.mp hok
                obtain ⟨p₁, hinsert, hok⟩ := Loops.bind_eq_ok.mp hok
                cases hok
                obtain rfl := insertAllocations_ok hinsert
                -- the case had no allocation in this database
                refine ⟨rfl, rfl, .inl rfl, _, rfl, fun a ha c hc _ => ?_⟩
                obtain ⟨item, hitem, rfl⟩ := List.mem_map.mp ha
                have hidentity : item.databaseIdentity = databaseIdentity := by
                  simpa [AdjudicationManifest.participant] using (List.mem_filter.mp hitem).2
                simp only [AllocationSpec.row, hidentity]
                simpa using hempty
      · obtain ⟨v, -, hok⟩ := Loops.bind_eq_ok.mp hok
        obtain ⟨p₁, hcase, hok⟩ := Loops.bind_eq_ok.mp hok
        obtain ⟨rfl, hfresh⟩ := insertCase_eq_ok hcase
        split at hok
        · rename_i p₂ hinsert
          cases hok
          obtain rfl := insertAllocations_ok hinsert
          refine ⟨rfl, rfl, .inr ⟨_, rfl, hfresh⟩, _, rfl, fun a ha c hc hid => ?_⟩
          obtain ⟨item, hitem, rfl⟩ := List.mem_map.mp ha
          exact absurd hid.symm (hfresh c hc).1
        · nomatch hok

/-! ## The preflight -/

/-- What the preflight of a participant asks for. -/
theorem preflightParticipant_eq_ok {p : Participant} {databaseIdentity id : String} :
    preflightParticipant h m e databaseIdentity p = .ok id ↔
      (∀ c ∈ p.cases, c.caseKey = h.caseKey m.casePayload → c.manifestHash = h.manifestHash m.payload) ∧
      ∃ c, p.existingCase (h.caseKey m.casePayload) = some c ∧ c.adjudicationId = id ∧
        c.manifestHash = h.manifestHash m.payload ∧ c.evidenceHash = h.evidenceHash e.payload ∧
        c.exchangeOrderId = m.exchangeOrderId ∧ c.exchangeTradeId = m.exchangeTradeId ∧
        quantize (p.read c.exchangeFillQuantity) = quantize m.exchangeFillQuantity.value ∧
        sameMembers ((m.participant databaseIdentity).map fun item => (item.positionId,
            quantize item.allocatedQuantity.value, h.manifestHash m.payload, h.evidenceHash e.payload))
          ((p.prepared id databaseIdentity).map fun a => (a.positionId, quantize (p.read a.allocatedQuantity),
            a.manifestHash, a.evidenceHash)) = true := by
  unfold preflightParticipant
  dsimp only
  split
  · rename_i hconflict
    refine ⟨nofun, fun ⟨hnone, _⟩ => ?_⟩
    simp only [List.any_eq_true, decide_eq_true_eq] at hconflict
    obtain ⟨c, hc, hkey, hne⟩ := hconflict
    exact absurd (hnone c hc hkey) hne
  · rename_i hconflict
    have hnone : ∀ c ∈ p.cases, c.caseKey = h.caseKey m.casePayload → c.manifestHash = h.manifestHash m.payload := by
      intro c hc hkey
      by_contra hne
      exact hconflict (List.any_eq_true.mpr ⟨c, hc, decide_eq_true ⟨hkey, hne⟩⟩)
    split
    · rename_i hmissing
      refine ⟨nofun, fun ⟨_, c, hc, _⟩ => ?_⟩
      nomatch hmissing.symm.trans hc
    · rename_i c hc
      split
      · rename_i hdiffers
        refine ⟨nofun, fun ⟨_, c', hc', _, hmanifest, hevidence, horder, htrade, hquantity, _⟩ => ?_⟩
        obtain rfl : c = c' := Option.some.inj (hc.symm.trans hc')
        rcases hdiffers with hne | hne | hne | hne | hne
        · exact absurd hmanifest hne
        · exact absurd hevidence hne
        · exact absurd horder hne
        · exact absurd htrade hne
        · exact absurd hquantity hne
      · rename_i hsame
        simp only [not_or, not_not] at hsame
        obtain ⟨hmanifest, hevidence, horder, htrade, hquantity⟩ := hsame
        split
        · rename_i hprepared
          refine ⟨nofun, fun ⟨_, c', hc', hid, _, _, _, _, _, hmembers⟩ => ?_⟩
          obtain rfl : c = c' := Option.some.inj (hc.symm.trans hc')
          rw [hid, hmembers] at hprepared
          nomatch hprepared
        · rename_i hprepared
          constructor
          · intro hok
            cases hok
            exact ⟨hnone, c, hc, rfl, hmanifest, hevidence, horder, htrade, hquantity, by simpa using hprepared⟩
          · rintro ⟨-, c', hc', rfl, -⟩
            rw [Option.some.inj (hc.symm.trans hc')]

/-- The preflight of a participant reads its cases and its allocations. -/
theorem preflightParticipant_congr {p p' : Participant} (hcases : p'.cases = p.cases)
    (hallocations : p'.allocations = p.allocations) (hread : p'.read = p.read) (databaseIdentity : String) :
    preflightParticipant h m e databaseIdentity p' = preflightParticipant h m e databaseIdentity p := by
  unfold preflightParticipant Participant.existingCase Participant.prepared
  rw [hcases, hallocations, hread]

/-- A participant that passes the preflight of a manifest passes it whatever it prepares. -/
theorem preflightParticipant_extends {p p' : Participant} (hext : p.Extends p') {databaseIdentity id : String}
    (hdeclared : m.participant databaseIdentity ≠ []) (hok : preflightParticipant h m e databaseIdentity p = .ok id) :
    preflightParticipant h m e databaseIdentity p' = .ok id := by
  obtain ⟨hnone, c, hc, hid, hmanifest, hevidence, horder, htrade, hquantity, hmembers⟩ :=
    preflightParticipant_eq_ok.mp hok
  obtain ⟨hmem, hkey⟩ := Table.get_some hc
  have hprepared : p'.prepared id databaseIdentity = p.prepared id databaseIdentity := by
    obtain ⟨more, hmore, hempty⟩ := hext.allocations
    have hnomore : (more.filter fun a => decide (a.adjudicationId = id ∧ a.databaseIdentity = databaseIdentity)) = [] := by
      refine List.filter_eq_nil_iff.mpr fun a ha hmatches => ?_
      obtain ⟨hadjudication, hdatabase⟩ := of_decide_eq_true hmatches
      have hbefore := hempty a ha c hmem (hadjudication.trans hid.symm)
      rw [hadjudication, hdatabase] at hbefore
      rw [hbefore] at hmembers
      simp only [sameMembers, Bool.and_eq_true, List.all_eq_true, decide_eq_true_eq] at hmembers
      obtain ⟨item, hitem⟩ := List.exists_mem_of_ne_nil _ hdeclared
      exact absurd (hmembers.1 _ (List.mem_map_of_mem hitem)) List.not_mem_nil
    rw [Participant.prepared, hmore, List.filter_append, hnomore, List.append_nil]
    rfl
  rcases hext.cases with hcases | ⟨c', hcases, hfresh⟩
  · refine preflightParticipant_eq_ok.mpr ⟨by rw [hcases]; exact hnone, c, ?_, hid, hmanifest, hevidence, horder, htrade,
      by rw [hext.read]; exact hquantity, by rw [hprepared, hext.read]; exact hmembers⟩
    rw [Participant.existingCase, hcases]
    exact hc
  · refine preflightParticipant_eq_ok.mpr ⟨fun c'' hc'' hkey'' => ?_, c, ?_, hid, hmanifest, hevidence, horder, htrade,
      by rw [hext.read]; exact hquantity, by rw [hprepared, hext.read]; exact hmembers⟩
    · rw [hcases] at hc''
      rcases List.mem_append.mp hc'' with hold | hnew
      · exact hnone c'' hold hkey''
      · rw [List.mem_singleton.mp hnew] at hkey''
        exact absurd (hkey.trans hkey''.symm) (hfresh c hmem).2.1
    · rw [Participant.existingCase, hcases, Table.get, List.find?_append]
      rw [Participant.existingCase, Table.get] at hc
      rw [hc]
      rfl

/-- A call that passes the preflight has evidence and a sound manifest, its sessions are those the manifest declares, and each
of them passes. -/
theorem finalizePreflight_ok {sessions : List (String × Participant)} {provide : EvidenceProvider}
    {participants : List FinalizableParticipant} (hok : finalizePreflight h sessions m provide = .ok (e, participants)) :
    provide m.exchangeOrderId m.exchangeTradeId m.symbol = .ok e ∧ validateManifest m e = .ok () ∧
      sameMembers (sessions.map Prod.fst) (m.allocations.map AllocationSpec.databaseIdentity) = true ∧
      List.Forall₂ (fun s x => x.databaseIdentity = s.1 ∧ x.participant = s.2 ∧
        preflightParticipant h m e s.1 s.2 = .ok x.adjudicationId) sessions participants := by
  unfold finalizePreflight at hok
  obtain ⟨evidence, hevidence, hok⟩ := Loops.bind_eq_ok.mp hok
  obtain ⟨u, hvalid, hok⟩ := Loops.bind_eq_ok.mp hok
  split at hok
  · nomatch hok
  · rename_i hmembers
    obtain ⟨found, hfound, hok⟩ := Loops.bind_eq_ok.mp hok
    cases hok
    refine ⟨hevidence, hvalid, by simpa using hmembers, ?_⟩
    refine (Loops.mapM_eq_ok.mp hfound).imp fun s x hx => ?_
    obtain ⟨adjudicationId, hpreflight, hx⟩ := Loops.bind_eq_ok.mp hx
    rw [← Except.ok.inj hx]
    exact ⟨rfl, rfl, hpreflight⟩

/-! ## The loops -/

/-- What every allocation that is applied keeps, the loop over the allocations keeps. -/
theorem finalizeAllocations_keeps {Q : Participant → Prop} {d id : String} {items : List AllocationSpec}
    (hstep : ∀ p, ∀ item ∈ items, (FinalizableParticipant.mk d id p).applies m item = true → Q p →
      Q ((FinalizableParticipant.mk d id p).apply h m e item)) {p : Participant} (hp : Q p) :
    Q (finalizeAllocations h m e d id items p).2 := by
  induction items generalizing p with
  | nil => exact hp
  | cons item rest ih =>
    have hrest := fun p item hitem => hstep p item (List.mem_cons_of_mem _ hitem)
    simp only [finalizeAllocations]
    rcases finalizeAllocation_cases h m e ⟨d, id, p⟩ item with ⟨-, hsame⟩ | ⟨happlies, happlied⟩ | ⟨-, error, herror⟩
    · rw [hsame]
      exact ih hrest hp
    · rw [happlied]
      exact ih hrest (hstep p item List.mem_cons_self happlies hp)
    · rw [herror]
      exact hp

/-- Where the position of every allocation was finalized, the loop changes nothing, whether it returns or raises. -/
theorem finalizeAllocations_of_finalized {d id : String} {items : List AllocationSpec} {p : Participant}
    (hfinalized : ∀ item ∈ items, (p.finalization id item.positionId).isSome = true) :
    (finalizeAllocations h m e d id items p).2 = p := by
  induction items with
  | nil => rfl
  | cons item rest ih =>
    rw [List.forall_mem_cons] at hfinalized
    simp only [finalizeAllocations]
    rcases finalizeAllocation_cases h m e ⟨d, id, p⟩ item with ⟨-, hsame⟩ | ⟨happlies, -⟩ | ⟨-, error, herror⟩
    · rw [hsame]
      exact ih hfinalized.2
    · simp only [FinalizableParticipant.applies, Bool.and_eq_true, Option.isNone_iff_eq_none] at happlies
      rw [happlies.1.1] at hfinalized
      exact absurd hfinalized.1 Bool.false_ne_true
    · rw [herror]

/-- What the loop over the participants leaves of each: what it was, or what the loop over its allocations leaves. -/
theorem finalizeParticipants_mem {participants : List FinalizableParticipant} {x : String × Participant}
    (hx : x ∈ (finalizeParticipants h m e participants).2) :
    ∃ s ∈ participants, s.databaseIdentity = x.1 ∧ (x.2 = s.participant ∨ x.2 =
      (finalizeAllocations h m e s.databaseIdentity s.adjudicationId (m.participant s.databaseIdentity) s.participant).2) := by
  induction participants with
  | nil => nomatch hx
  | cons s rest ih =>
    simp only [finalizeParticipants] at hx
    split at hx
    · rename_i error p hrun
      rcases List.mem_cons.mp hx with rfl | hx
      · exact ⟨s, List.mem_cons_self, rfl, .inr (by rw [hrun])⟩
      · obtain ⟨s', hs', rfl⟩ := List.mem_map.mp hx
        exact ⟨s', List.mem_cons_of_mem _ hs', rfl, .inl rfl⟩
    · rename_i p hrun
      rcases List.mem_cons.mp hx with rfl | hx
      · exact ⟨s, List.mem_cons_self, rfl, .inr (by rw [hrun])⟩
      · obtain ⟨s', hs', hrest⟩ := ih hx
        exact ⟨s', List.mem_cons_of_mem _ hs', hrest⟩

/-- A loop over the participants that returns has gone through the allocations of each. -/
theorem finalizeParticipants_of_ok {participants : List FinalizableParticipant}
    (hok : (finalizeParticipants h m e participants).1 = .ok ()) :
    (finalizeParticipants h m e participants).2 = participants.map (fun s => (s.databaseIdentity,
        (finalizeAllocations h m e s.databaseIdentity s.adjudicationId (m.participant s.databaseIdentity) s.participant).2)) ∧
      ∀ s ∈ participants, (finalizeAllocations h m e s.databaseIdentity s.adjudicationId (m.participant s.databaseIdentity)
        s.participant).1 = .ok () := by
  induction participants with
  | nil => exact ⟨rfl, fun _ hs => absurd hs List.not_mem_nil⟩
  | cons s rest ih =>
    simp only [finalizeParticipants] at hok ⊢
    split at hok
    · cases hok
    · rename_i p hrun
      obtain ⟨hmap, hall⟩ := ih hok
      refine ⟨by rw [List.map_cons, hrun, ← hmap], fun s' hs' => ?_⟩
      rcases List.mem_cons.mp hs' with rfl | hs'
      · rw [hrun]
      · exact hall s' hs'

/-- Where the positions of every participant were finalized, the loop changes nothing. -/
theorem finalizeParticipants_of_finalized {participants : List FinalizableParticipant}
    (hfinalized : ∀ s ∈ participants, ∀ item ∈ m.participant s.databaseIdentity,
      (s.participant.finalization s.adjudicationId item.positionId).isSome = true) :
    (finalizeParticipants h m e participants).2 = participants.map fun s => (s.databaseIdentity, s.participant) := by
  induction participants with
  | nil => rfl
  | cons s rest ih =>
    rw [List.forall_mem_cons] at hfinalized
    have hfirst := finalizeAllocations_of_finalized (h := h) (m := m) (e := e) (d := s.databaseIdentity) hfinalized.1
    simp only [finalizeParticipants, List.map_cons]
    split
    · rename_i error p hrun
      obtain rfl : p = s.participant := by rw [← hfirst, hrun]
      rfl
    · rename_i p hrun
      obtain rfl : p = s.participant := by rw [← hfirst, hrun]
      rw [ih hfinalized.2]

end

/-- A hash that tells trades, and the reasons of their manifests, apart. -/
def tradeHash : AdjudicationHash where
  caseKey payload := "case:" ++ payload.exchangeTradeId
  manifestHash payload := "manifest:" ++ payload.exchangeTradeId ++ ":" ++ payload.operatorReason
  evidenceHash payload := "evidence:" ++ payload.exchangeTradeId

end TradingPlatform
