import TradingPlatform.Lemmas.Commitments
import TradingPlatform.Theorems.EntrySubmission

/-!
# Reservations that are given back

An entry reserves its risk before its order goes out. A cycle that then sends nothing gives the reservation back at some of its
exits only.
-/

namespace TradingPlatform

/-! ## What a cycle that submits nothing owes -/

/-- The tables without an intent. -/
def Database.withoutIntent (db : Database) (intentId : String) : Database :=
  { db with intents := db.intents.filter fun r => decide (r.intentId ≠ intentId) }

/-- No row is of the intent. -/
structure Database.Unused (db : Database) (intentId : String) : Prop where
  intents : ∀ r ∈ db.intents, r.intentId ≠ intentId
  positions : ∀ p ∈ db.positions, p.intentId ≠ intentId

/-- The intent reserves nothing: the exposures are those without it, and it is in no state that commits a risk. -/
structure Released (db : Database) (intentId : String) : Prop where
  exposures : ∀ mode, listActiveInitialRiskExposures db mode = listActiveInitialRiskExposures (db.withoutIntent intentId) mode
  inactive : ∀ r, db.intent intentId = some r → r.state.active = false

/-- `execute_entry` reaches `adapter.submit_market_order`. -/
def EntryStage.callsSubmit (s : EntryStage) (c : RuntimeControlReads) (w : World) : Bool :=
  let (intentId, db) := w.db.uuid4
  let (reserved, run) := s.reserve c intentId { w with db }
  let (enabled₁, run) := s.recheck c 1 run
  let (enabled₂, _) := s.recheck c 2 run
  reserved && enabled₁ && enabled₂ && (s.order intentId).submittedQuantity.isSome

/-- The row of the runtime control as read `n` finds it. -/
def RuntimeControlReads.row (c : RuntimeControlReads) (start : Option Bool) : ℕ → Option Bool
  | 0 => c.interfere 0 start
  | n + 1 => c.interfere (n + 1) (c.row start n)

/-- Entries are found enabled by a read. -/
def RuntimeControlReads.enabledAt (c : RuntimeControlReads) (start : Option Bool) (n : ℕ) : Prop :=
  c.fails n = false ∧ c.row start n = some true

/-- The order is turned away before the activation of the engine is asked for: such an attempt is cancelled. -/
def EntryOrder.TurnedAway (o : EntryOrder) : Prop :=
  o.candidate.lane = .shadow ∨ o.candidate.candidateType = .research ∨ o.gateResult.approved = false ∨
    ∃ q, roundQuantityToStep o.quantity o.snapshot.stepSize = .ok q ∧ (q ≤ 0 ∨ q * o.snapshot.currentPrice < o.snapshot.minNotional)

/-- A reservation is refused: its risk is not positive, its budget check stops it, or the row of its cycle is missing and its
fencing token is taken. -/
def EntryReservation.Refused (a : EntryReservation) (db : Database) : Prop :=
  a.initialRiskUsdt ≤ 0 ∨ reservationBlock db a ≠ none ∨
    ((∀ cy ∈ db.cycles, cy.cycleId ≠ a.cycleId) ∧ ∃ cy ∈ db.cycles, cy.fencingToken = a.fencingToken)

/-- The reservation of the entry is refused, by the tables it finds. -/
def EntryStage.Refused (s : EntryStage) (c : RuntimeControlReads) (w : World) : Prop :=
  (s.reservation w.db.uuid4.1).Refused { w.db.uuid4.2 with entryEnabled := c.row w.db.entryEnabled 0 }

/-- The entry is given up in a way that gives the reservation back: it is refused, or its order is turned away while both
reads after it find entries enabled. -/
def EntryStage.GivenUp (s : EntryStage) (c : RuntimeControlReads) (w : World) : Prop :=
  s.Refused c w ∨
    (c.enabledAt w.db.entryEnabled 1 ∧ c.enabledAt w.db.entryEnabled 2 ∧ (s.order w.db.uuid4.1).TurnedAway)

namespace ReservationAux

variable {db db' : Database} {id : String}

/-! ## Exposures without an intent -/

theorem intent_withoutIntent {other : String} (h : other ≠ id) : (db.withoutIntent id).intent other = db.intent other := by
  unfold Database.withoutIntent Database.intent Table.get
  rw [List.find?_filter]
  refine congrArg (fun q => List.find? q db.intents) (funext fun r => ?_)
  by_cases hr : r.intentId = other
  · simp [hr, h]
  · simp [hr]

theorem released_of_inactive (hpositions : ∀ p ∈ db.positions, p.intentId ≠ id)
    (hinactive : ∀ r ∈ db.intents, r.intentId = id → r.state.active = false) : Released db id := by
  constructor
  · intro mode
    have hcommitments : db.commitments mode = (db.withoutIntent id).commitments mode := by
      have hpos : (db.activePositions mode).map db.positionCommitment =
          ((db.withoutIntent id).activePositions mode).map (db.withoutIntent id).positionCommitment := by
        refine List.map_congr_left fun p hp => ?_
        unfold Database.positionCommitment
        rw [intent_withoutIntent (hpositions p (mem_activePositions.mp hp).1)]
      have hint : db.reservingIntents mode = (db.withoutIntent id).reservingIntents mode := by
        unfold Database.reservingIntents Database.withoutIntent
        rw [List.filter_filter]
        refine List.filter_congr fun r hr => ?_
        by_cases hid : r.intentId = id
        · simp [hid, hinactive r hr hid]
        · simp [hid]
      unfold Database.commitments
      rw [hpos, hint]
    unfold listActiveInitialRiskExposures
    rw [hcommitments]
  · intro r hr
    obtain ⟨hmem, hid⟩ := Table.get_some hr
    exact hinactive r hmem hid

theorem released_of_unused (h : db.Unused id) : Released db id :=
  released_of_inactive h.positions fun r hr hid => absurd hid (h.intents r hr)

/-! ## The reservation and the checks after it -/

/-- The intent is there once, submitting, and no position is of it. -/
structure Reserved (db : Database) (id : String) : Prop where
  row : ∃ others r, db.intents = others ++ [r] ∧ (∀ o ∈ others, o.intentId ≠ id) ∧ r.intentId = id ∧
    r.state = .exchangeSubmitting
  positions : ∀ p ∈ db.positions, p.intentId ≠ id

theorem Reserved.intent (h : Reserved db id) : ∃ r, db.intent id = some r ∧ r.state = .exchangeSubmitting := by
  obtain ⟨others, r, hdb, hothers, hid, hstate⟩ := h.row
  refine ⟨r, ?_, hstate⟩
  unfold Database.intent
  rw [hdb, ← hid]
  exact Table.get_append_singleton fun o ho => hid ▸ hothers o ho

theorem Reserved.not_released (h : Reserved db id) : ¬Released db id := by
  obtain ⟨r, hr, hstate⟩ := h.intent
  intro hreleased
  have hinactive := hreleased.inactive r hr
  rw [hstate] at hinactive
  nomatch hinactive

theorem ensureCycle_frame {cycleId token : String} (h : ensureCycle db cycleId token = .ok db') :
    db'.intents = db.intents ∧ db'.positions = db.positions ∧ db'.entryEnabled = db.entryEnabled := by
  unfold ensureCycle at h
  split at h
  · cases h
    exact ⟨rfl, rfl, rfl⟩
  · obtain ⟨-, -, rfl⟩ := insertCycle_eq_ok.mp h
    exact ⟨rfl, rfl, rfl⟩

/-- The row of a cycle can be had unless it is missing and its token is taken. -/
theorem ensureCycle_isOk_iff {cycleId token : String} : (∃ db', ensureCycle db cycleId token = .ok db') ↔
    ¬((∀ cy ∈ db.cycles, cy.cycleId ≠ cycleId) ∧ ∃ cy ∈ db.cycles, cy.fencingToken = token) := by
  unfold ensureCycle
  split
  · rename_i hthere
    obtain ⟨cy, hcy, hid⟩ := List.any_eq_true.mp hthere
    refine ⟨fun _ hno => hno.1 cy hcy (of_decide_eq_true hid), fun _ => ⟨db, rfl⟩⟩
  · rename_i hmissing
    have hnone : ∀ cy ∈ db.cycles, cy.cycleId ≠ cycleId := by
      intro cy hcy hid
      exact hmissing (List.any_eq_true.mpr ⟨cy, hcy, decide_eq_true hid⟩)
    constructor
    · rintro ⟨db', hdb'⟩ ⟨-, cy, hcy, htoken⟩
      exact (insertCycle_eq_ok.mp hdb').2.1 cy hcy htoken
    · intro hfree
      refine ⟨_, insertCycle_eq_ok.mpr ⟨hnone, fun cy hcy htoken => hfree ⟨hnone, cy, hcy, htoken⟩, rfl⟩⟩

theorem ensureDecision_frame (db : Database) (decisionId : Option String) :
    (ensureDecision db decisionId).intents = db.intents ∧ (ensureDecision db decisionId).positions = db.positions ∧
      (ensureDecision db decisionId).entryEnabled = db.entryEnabled := by
  unfold ensureDecision
  split
  · exact ⟨rfl, rfl, rfl⟩
  · split <;> exact ⟨rfl, rfl, rfl⟩

/-- A reservation of an unused intent that is refused: nothing is written. -/
theorem persistEntryIntentBeforeSubmission_refused {a : EntryReservation} (h : a.Refused db) :
    (∃ e, persistEntryIntentBeforeSubmission db a = .error e) ∨
      ∃ reason, persistEntryIntentBeforeSubmission db a = .ok (some reason, db) := by
  unfold persistEntryIntentBeforeSubmission
  split
  · exact .inl ⟨_, rfl⟩
  · rename_i hrisk
    cases hblock : reservationBlock db a with
    | some reason => exact .inr ⟨reason, rfl⟩
    | none =>
      obtain h | h | htaken := h
      · exact absurd h hrisk
      · exact absurd hblock h
      · cases hcycle : ensureCycle db a.cycleId a.fencingToken with
        | error e => exact .inl ⟨e, rfl⟩
        | ok db₁ => exact absurd htaken (ensureCycle_isOk_iff.mp ⟨db₁, hcycle⟩)

/-- A reservation of an unused intent that is not: the intent is there, submitting. -/
theorem persistEntryIntentBeforeSubmission_made {a : EntryReservation} (hunused : db.Unused a.intentId) (h : ¬a.Refused db) :
    ∃ db', persistEntryIntentBeforeSubmission db a = .ok (none, db') ∧ db'.entryEnabled = db.entryEnabled ∧
      Reserved db' a.intentId := by
  unfold EntryReservation.Refused at h
  rw [not_or, not_or] at h
  obtain ⟨hrisk, hblock, hcycle⟩ := h
  obtain ⟨db₁, hdb₁⟩ := ensureCycle_isOk_iff.mpr hcycle
  obtain ⟨hintents₁, hpositions₁, henabled₁⟩ := ensureCycle_frame hdb₁
  obtain ⟨hintents₂, hpositions₂, henabled₂⟩ := ensureDecision_frame db₁ a.decisionId
  have hfresh : ∀ r ∈ (ensureDecision db₁ a.decisionId).intents, r.intentId ≠ a.intentId := by
    rw [hintents₂, hintents₁]
    exact hunused.intents
  have hnone : (ensureDecision db₁ a.decisionId).intent a.intentId = none := Table.get_none.mpr hfresh
  obtain ⟨db', hcreate⟩ : ∃ db', createSubmittingIntent (ensureDecision db₁ a.decisionId)
      (a.intentRow (some a.initialRiskUsdt)) "EntrySubmitting" = .ok db' := by
    refine ⟨_, (createSubmittingIntent_eq_ok rfl).mpr ⟨fun risk hsome => ?_, hfresh, rfl⟩⟩
    cases hsome
    exact not_le.mp hrisk
  refine ⟨db', ?_, ?_⟩
  · unfold persistEntryIntentBeforeSubmission
    rw [if_neg hrisk, not_not.mp hblock]
    dsimp only
    rw [hdb₁]
    dsimp only [bind, Except.bind]
    rw [hnone]
    dsimp only
    rw [hcreate]
    rfl
  · obtain ⟨-, -, rfl⟩ := (createSubmittingIntent_eq_ok rfl).mp hcreate
    refine ⟨henabled₂.trans henabled₁, ⟨_, (a.intentRow (some a.initialRiskUsdt)).submitting, rfl, hfresh, rfl, rfl⟩, ?_⟩
    change ∀ p ∈ (ensureDecision db₁ a.decisionId).positions, p.intentId ≠ a.intentId
    rw [hpositions₂, hpositions₁]
    exact hunused.positions

section Stage

variable {s : EntryStage} {c : RuntimeControlReads} {run run' : EntryRun}

/-- The reservation of a cycle: refused, and nothing is of the intent; or made. -/
theorem reserve_cases {b : Bool} (hfacts : s.persistFacts = true) (hunused : run.db.Unused id)
    (h : s.reserve c id run = (b, run')) :
    run'.db.entryEnabled = c.row run.db.entryEnabled 0 ∧ run'.exchange = run.exchange ∧
      ((b = false ∧ (s.reservation id).Refused (EntryStage.interfered c 0 run).db ∧ run'.db.Unused id) ∨
        (b = true ∧ ¬(s.reservation id).Refused (EntryStage.interfered c 0 run).db ∧ Reserved run'.db id)) := by
  have hunused₀ : (EntryStage.interfered c 0 run).db.Unused id := ⟨hunused.intents, hunused.positions⟩
  unfold EntryStage.reserve at h
  rw [if_neg (by simp [hfacts])] at h
  dsimp only at h
  by_cases hrefused : (s.reservation id).Refused (EntryStage.interfered c 0 run).db
  · rcases persistEntryIntentBeforeSubmission_refused hrefused with ⟨e, he⟩ | ⟨reason, hreason⟩
    · rw [he] at h
      cases h
      exact ⟨rfl, rfl, .inl ⟨rfl, hrefused, hunused₀⟩⟩
    · rw [hreason] at h
      cases h
      exact ⟨rfl, rfl, .inl ⟨rfl, hrefused, hunused₀⟩⟩
  · obtain ⟨db', hmade, henabled, hreserved⟩ := persistEntryIntentBeforeSubmission_made hunused₀ hrefused
    rw [hmade] at h
    cases h
    exact ⟨henabled, rfl, .inr ⟨rfl, hrefused, hreserved⟩⟩

/-- A check of the runtime control writes nothing of its own. -/
theorem recheck_cases {b : Bool} {n : ℕ} {start : Option Bool} (hfacts : s.persistFacts = true)
    (hrow : run.db.entryEnabled = c.row start n) (h : s.recheck c (n + 1) run = (b, run')) :
    run'.db = { run.db with entryEnabled := c.row start (n + 1) } ∧ run'.exchange = run.exchange ∧
      (b = true ↔ c.enabledAt start (n + 1)) := by
  have hfound : (EntryStage.interfered c (n + 1) run).db.entryEnabled = c.row start (n + 1) := by
    change c.interfere (n + 1) run.db.entryEnabled = c.interfere (n + 1) (c.row start n)
    rw [hrow]
  have hdb : (EntryStage.interfered c (n + 1) run).db = { run.db with entryEnabled := c.row start (n + 1) } := by
    rw [← hfound]
    rfl
  have henabled : EntryStage.runtimeEntryEnabled c (n + 1) (EntryStage.interfered c (n + 1) run) = true ↔
      c.enabledAt start (n + 1) := by
    unfold EntryStage.runtimeEntryEnabled RuntimeControlReads.enabledAt
    rw [hfound]
    cases c.row start (n + 1) <;> simp
  unfold EntryStage.recheck at h
  rw [if_neg (by simp [hfacts])] at h
  dsimp only at h
  split at h
  · rename_i hon
    cases h
    exact ⟨hdb, rfl, fun _ => henabled.mp hon, fun _ => rfl⟩
  · rename_i hoff
    cases h
    exact ⟨hdb, rfl, fun h => (nomatch h), fun h => absurd (henabled.mpr h) hoff⟩

theorem Reserved.congr (h : Reserved db id) (hintents : db'.intents = db.intents) (hpositions : db'.positions = db.positions) :
    Reserved db' id := by
  obtain ⟨others, r, hdb, hrest⟩ := h.row
  exact ⟨⟨others, r, hintents.trans hdb, hrest⟩, fun p hp => h.positions p (hpositions ▸ hp)⟩

/-! ## An entry that sends nothing -/

/-- An order that is not sent changes nothing at the exchange; it ends cancelled if it is turned away, rehearsed otherwise. -/
theorem executeEntry_unsent {x x' : Exchange} {o : EntryOrder} {r : EntryExecutionResult} (hunsent : o.submittedQuantity = none)
    (h : executeEntry x o = (.ok r, x')) :
    x' = x ∧ r.exchangeOrderId = none ∧ r.guardExchangeOrderId = none ∧
      ((o.TurnedAway ∧ r.status = .notAttempted) ∨ (¬o.TurnedAway ∧ r.status = .shadowRehearsed)) := by
  unfold executeEntry at h
  split at h
  · nomatch (Prod.mk.inj h).1
  dsimp only at h
  unfold EntryOrder.submittedQuantity at hunsent
  unfold EntryOrder.TurnedAway
  by_cases hlane : o.candidate.lane = .shadow ∨ o.candidate.candidateType = .research
  · rw [if_pos hlane] at h
    obtain ⟨hr, rfl⟩ := Prod.mk.inj h
    cases hr
    exact ⟨rfl, rfl, rfl, .inl ⟨hlane.elim .inl fun h => .inr (.inl h), rfl⟩⟩
  rw [if_neg hlane] at h
  cases happroved : o.gateResult.approved with
  | false =>
    rw [happroved, if_pos (show (!false) = true from rfl)] at h
    obtain ⟨hr, rfl⟩ := Prod.mk.inj h
    cases hr
    exact ⟨rfl, rfl, rfl, .inl ⟨.inr (.inr (.inl rfl)), rfl⟩⟩
  | true =>
    rw [happroved, if_neg (show ¬(!true) = true by decide)] at h
    rw [not_or] at hlane
    rw [if_neg (by simp [hlane.1, hlane.2, happroved])] at hunsent
    cases hround : roundQuantityToStep o.quantity o.snapshot.stepSize with
    | error e =>
      rw [hround] at h
      nomatch (Prod.mk.inj h).1
    | ok q =>
      rw [hround] at h hunsent
      dsimp only at h hunsent
      by_cases hq : q ≤ 0
      · rw [if_pos hq] at h
        obtain ⟨hr, rfl⟩ := Prod.mk.inj h
        cases hr
        exact ⟨rfl, rfl, rfl, .inl ⟨.inr (.inr (.inr ⟨q, rfl, .inl hq⟩)), rfl⟩⟩
      rw [if_neg hq] at h
      by_cases hnotional : q * o.snapshot.currentPrice < o.snapshot.minNotional
      · rw [if_pos hnotional] at h
        obtain ⟨hr, rfl⟩ := Prod.mk.inj h
        cases hr
        exact ⟨rfl, rfl, rfl, .inl ⟨.inr (.inr (.inr ⟨q, rfl, .inr hnotional⟩)), rfl⟩⟩
      rw [if_neg hnotional] at h
      have hactivation : o.engineActivation ≠ .active := by
        intro hactive
        simp [hq, hnotional, hactive] at hunsent
      rw [if_pos hactivation] at h
      obtain ⟨hr, rfl⟩ := Prod.mk.inj h
      cases hr
      refine ⟨rfl, rfl, rfl, .inr ⟨?_, rfl⟩⟩
      rintro (h | h | h | ⟨q', hq', h⟩)
      · exact hlane.1 h
      · exact hlane.2 h
      · nomatch h
      · cases hq'
        exact h.elim hq hnotional

/-- A reserved intent that is cancelled reserves nothing any more. -/
theorem Reserved.cancelled (h : Reserved db id) (leverage : ℤ) {r : EntryExecutionResult} (hstatus : r.status = .notAttempted) :
    ∃ db', persistEntrySubmissionResult db id leverage r = .ok db' ∧ Released db' id := by
  obtain ⟨row, hrow, hstate⟩ := h.intent
  obtain ⟨db', hcancel⟩ : ∃ db', transitionIntent db id row.state .cancelled "EntryCancelledBeforeSubmit" = .ok db' :=
    ⟨_, transitionIntent_eq_ok.mpr ⟨row, hrow, rfl, .inr (by rw [hstate]; decide), rfl⟩⟩
  refine ⟨db', ?_, ?_⟩
  · unfold persistEntrySubmissionResult
    rw [hrow]
    dsimp only
    rw [hstatus]
    exact hcancel
  · obtain ⟨-, -, -, -, rfl⟩ := transitionIntent_eq_ok.mp hcancel
    refine released_of_inactive h.positions fun r' hr' hr'id => ?_
    obtain ⟨r₀, -, rfl⟩ := List.mem_map.mp hr'
    by_cases hr₀ : r₀.intentId = id
    · rw [if_pos hr₀]
      rfl
    · rw [if_neg hr₀] at hr'id
      exact absurd hr'id hr₀

/-- A submission that was rehearsed leaves the tables as they are. -/
theorem persistEntrySubmissionResult_rehearsed {leverage : ℤ} {r : EntryExecutionResult} {row : IntentRow}
    (hrow : db.intent id = some row) (hstatus : r.status = .shadowRehearsed) (hexchange : r.exchangeOrderId = none) :
    persistEntrySubmissionResult db id leverage r = .ok db := by
  unfold persistEntrySubmissionResult
  rw [hrow]
  dsimp only
  rw [hstatus, hexchange]
  rfl

/-- What a cycle makes of an order that was not sent: its intent is given back exactly if the order is turned away. -/
theorem submit_unsent (hfacts : s.persistFacts = true) (hreserved : Reserved run.db id)
    (hunsent : (s.order id).submittedQuantity = none) (h : s.submit id run = (.ok (), run')) :
    Released run'.db id ↔ (s.order id).TurnedAway := by
  unfold EntryStage.submit at h
  split at h
  · nomatch (Prod.mk.inj h).1
  rename_i r x' hexecute
  cases h
  obtain ⟨-, hexchange, hguard, hstatus⟩ := executeEntry_unsent hunsent hexecute
  have hprojectable : r.positionProjectable = false := by
    unfold EntryExecutionResult.positionProjectable
    rw [hexchange]
    simp [given]
  have hsettled : (s.settle id r { run with exchange := x' }).db =
      (transaction run.db (persistEntrySubmissionResult run.db id s.leverage r)).2 := by
    unfold EntryStage.settle
    dsimp only
    have hnoguard : (given none && given r.guardClientOrderId) = false := rfl
    rw [hguard, hnoguard, hprojectable, if_neg Bool.false_ne_true, if_pos (show (!false) = true from rfl), hfacts]
    cases (transaction run.db (persistEntrySubmissionResult run.db id s.leverage r)).1 <;> rfl
  rw [hsettled]
  rcases hstatus with ⟨haway, hstatus⟩ | ⟨hnot, hstatus⟩
  · obtain ⟨db', hdb', hreleased⟩ := hreserved.cancelled s.leverage hstatus
    rw [hdb']
    exact ⟨fun _ => haway, fun _ => hreleased⟩
  · obtain ⟨row, hrow, -⟩ := hreserved.intent
    rw [persistEntrySubmissionResult_rehearsed hrow hstatus hexchange]
    exact ⟨fun hreleased => absurd hreleased hreserved.not_released, fun haway => absurd haway hnot⟩

end Stage

end ReservationAux

open ReservationAux

/-- The entry of a cycle that returned without a submission. -/
theorem EntryStage.run_unsent {s : EntryStage} {c : RuntimeControlReads} {w : World} {run : EntryRun}
    (hfacts : s.persistFacts = true) (hunused : w.db.uuid4.2.Unused w.db.uuid4.1) (hunsent : s.callsSubmit c w = false)
    (h : s.run c w = (.ok (), run)) : Released run.db w.db.uuid4.1 ↔ s.GivenUp c w := by
  unfold EntryStage.run at h
  unfold EntryStage.callsSubmit at hunsent
  dsimp only at h hunsent
  cases hreserve : s.reserve c w.db.uuid4.1 { w with db := w.db.uuid4.2 } with
  | mk b₀ run₀ =>
  obtain ⟨hrow₀, -, hmade⟩ := reserve_cases hfacts hunused hreserve
  rw [hreserve] at h hunsent
  have hrefused : (s.reservation w.db.uuid4.1).Refused
      (EntryStage.interfered c 0 { w with db := w.db.uuid4.2 }).db ↔ s.Refused c w := Iff.rfl
  rcases hmade with ⟨rfl, hr, hunused'⟩ | ⟨rfl, hr, hreserved⟩
  · cases h
    exact ⟨fun _ => .inl (hrefused.mp hr), fun _ => released_of_unused hunused'⟩
  have hmust : s.GivenUp c w ↔
      c.enabledAt w.db.entryEnabled 1 ∧ c.enabledAt w.db.entryEnabled 2 ∧ (s.order w.db.uuid4.1).TurnedAway :=
    ⟨fun hg => hg.resolve_left (hr ∘ hrefused.mpr), .inr⟩
  dsimp only at h hunsent
  cases hfirst : s.recheck c 1 run₀ with
  | mk b₁ run₁ =>
  obtain ⟨hdb₁, -, henabled₁⟩ := recheck_cases hfacts hrow₀ hfirst
  have hreserved₁ : Reserved run₁.db w.db.uuid4.1 := hreserved.congr (by rw [hdb₁]) (by rw [hdb₁])
  rw [hfirst] at h hunsent
  dsimp only at h hunsent
  cases b₁ with
  | false =>
    cases h
    refine ⟨fun hreleased => absurd hreleased hreserved₁.not_released, fun hg => ?_⟩
    nomatch henabled₁.mpr (hmust.mp hg).1
  | true =>
  dsimp only at h
  cases hsecond : s.recheck c 2 run₁ with
  | mk b₂ run₂ =>
  obtain ⟨hdb₂, -, henabled₂⟩ := recheck_cases hfacts (by rw [hdb₁]) hsecond
  have hreserved₂ : Reserved run₂.db w.db.uuid4.1 := hreserved₁.congr (by rw [hdb₂]) (by rw [hdb₂])
  rw [hsecond] at h hunsent
  dsimp only at h hunsent
  cases b₂ with
  | false =>
    cases h
    refine ⟨fun hreleased => absurd hreleased hreserved₂.not_released, fun hg => ?_⟩
    nomatch henabled₂.mpr (hmust.mp hg).2.1
  | true =>
    rw [hmust, submit_unsent hfacts hreserved₂ (by simpa using hunsent) h]
    exact ⟨fun haway => ⟨henabled₁.mp rfl, henabled₂.mp rfl, haway⟩, fun hg => hg.2.2⟩

/-- A cycle that submits nothing reserves nothing exactly if it gives its entry up before it is reserved, or at a check of
`execute_entry` that turns the order away. A runtime control that is found off after the reservation, or an engine that is not
active, leaves the reservation behind. -/
theorem reservationReleased_iff (before : World → Option EntryStage × World) (c : RuntimeControlReads) (w w' : World)
    (s : EntryStage) (run : EntryRun) (hbefore : before w = (some s, w')) (hfacts : s.persistFacts = true)
    (hunused : w'.db.uuid4.2.Unused w'.db.uuid4.1) (hunsent : s.callsSubmit c w' = false)
    (hreturns : runEntryCycle before c w = (.ok (), run)) :
    Released run.db w'.db.uuid4.1 ↔ s.GivenUp c w' := by
  unfold runEntryCycle at hreturns
  rw [hbefore] at hreturns
  exact s.run_unsent hfacts hunused hunsent hreturns

/-- An entry that passed its gates. -/
def sampleStage : EntryStage where
  cycleId := "cycle-1"
  decisionId := none
  symbol := "BTC/USDT"
  candidate := sampleCandidate "BTC/USDT"
  candidateKey := "strategy"
  executionMode := .binanceTestnet
  fencingToken := "token-1"
  gateResult := sampleOrder.gateResult
  snapshotMarket := sampleOrder.snapshot
  quantity := 1
  leverage := 3
  engineActivation := .active
  canarySampling := true
  equity := 10000
  maxMarginFraction := none
  initialRiskUsdt := 1
  maxOpenPositions := 5

/-- Nothing is recorded yet, and entries are switched on. -/
def enabledWorld : World := { db := { entryEnabled := some true }, exchange := exchangeReplying (.answered "77" true (some "open")) }

/-- The operator switches entries off between the reservation and the check after it. -/
def switchedOffAfterReservation : RuntimeControlReads where
  interfere n row := if n = 1 then some false else row

/-- The cycle stops at the check after its reservation and leaves the intent submitting. -/
theorem reservationReleased_false :
    sampleStage.callsSubmit switchedOffAfterReservation enabledWorld = false ∧
    ∃ run, runEntryCycle (fun w => (some sampleStage, w)) switchedOffAfterReservation enabledWorld = (.ok (), run) ∧
      ¬Released run.db enabledWorld.db.uuid4.1 := by
  refine ⟨by decide +kernel, (sampleStage.run switchedOffAfterReservation enabledWorld).2, Prod.ext ?_ rfl, ?_⟩
  · decide +kernel
  · intro hreleased
    have hactive : ((sampleStage.run switchedOffAfterReservation enabledWorld).2.db.intent enabledWorld.db.uuid4.1).map
        (·.state.active) = some true := by decide +kernel
    obtain ⟨r, hr, hsubmitting⟩ := Option.map_eq_some_iff.mp hactive
    rw [hreleased.inactive r hr] at hsubmitting
    nomatch hsubmitting

/-- An order whose notional is too small is cancelled, and its reservation is given back. -/
theorem reservationReleased_tooSmall :
    Released (({ sampleStage with quantity := 1 / 100 } : EntryStage).run {} enabledWorld).2.db enabledWorld.db.uuid4.1 :=
  (reservationReleased_iff (fun w => (some { sampleStage with quantity := 1 / 100 }, w)) {} enabledWorld enabledWorld
    { sampleStage with quantity := 1 / 100 } _ rfl rfl ⟨by decide, by decide⟩ (by decide +kernel)
    (Prod.ext (by decide +kernel) rfl)).mpr
    (.inr ⟨⟨rfl, rfl⟩, ⟨rfl, rfl⟩, .inr (.inr (.inr ⟨1 / 100, by decide +kernel, .inr (by decide +kernel)⟩))⟩)

end TradingPlatform
