import TradingPlatform.Theorems.RiskBudget

/-!
# Open positions and their reservations

The cap on open positions over whole runs, and the reservations that outlive their purpose.
-/

namespace TradingPlatform

/-!
## The cap on open positions over whole runs

The gate counts the positions that are open when a reservation is made, not the reservations still in flight. The cap holds
over every run whose reservations are made while positions and reservations together are below it, and whose fills are of
live reservations.
-/

/-- The fill is of an intent that is there, is neither cancelled nor expired, is no exit, and is of the mode of the facts. -/
def EntryFacts.ofLiveReservation (a : EntryFacts) (db : Database) : Bool :=
  (db.intent a.intentId).any fun r => !r.state.correctable && !isExitKey r.candidateKey &&
    decide (r.executionMode = a.executionMode)

/-- The condition on a step: a reservation that passes the gate is made below the cap, counting reservations in flight, and a
fill is of a live reservation. -/
def PersistOp.countsInFlight (cap : ℕ) (db : Database) : PersistOp → Prop
  | .reserve a => reservationBlock db a = none →
    (db.activePositions a.executionMode).length + (db.reservingIntents a.executionMode).length < cap
  | .entryAndProtection a => a.entryResult.positionProjectable = true → a.ofLiveReservation db = true
  | .reconcileIntent intentId => ((db.intent intentId).any fun r => r.state.correctable) = false
  | _ => True

namespace CapAux

variable {cap : ℕ} {db : Database} {mode : V2ExecutionMode} {c : Commitment}

/-- What every state of a run keeps. -/
structure Invariant (cap : ℕ) (db : Database) : Prop where
  keyed : db.Keyed
  backed : db.Backed
  committed : ∀ mode, (db.commitments mode).length ≤ cap

theorem length_commitments (db : Database) (mode : V2ExecutionMode) :
    (db.commitments mode).length = (db.activePositions mode).length + (db.reservingIntents mode).length := by
  simp [Database.commitments]

/-- A commitment was there before, or the gate admitted it. -/
def Counted (db : Database) (op : PersistOp) (mode : V2ExecutionMode) (c : Commitment) : Prop :=
  ∃ c₀ ∈ db.commitments mode ++ BudgetAux.admitted db mode op, c₀.intentId = c.intentId

theorem counted_of_mem {op : PersistOp} {c₀ : Commitment} (hmem : c₀ ∈ db.commitments mode)
    (hid : c₀.intentId = c.intentId) : Counted db op mode c :=
  ⟨c₀, List.mem_append_left _ hmem, hid⟩

/-- An operation that revives nothing and adds at most exits. -/
theorem counted_of_quiet {op : PersistOp} {s : Scope} {db' : Database} (hb : db.Backed) (h : Effect s db db')
    (hrevives : ∀ id, ¬s.revives id) (hintent : ∀ r, s.newIntent r → isExitKey r.candidateKey = true)
    (hposition : ∀ p, ¬s.newPosition p) (hc : c ∈ db'.commitments mode) : Counted db op mode c := by
  cases commitment_origin hb h hc with
  | kept c₀ hmem hid => exact counted_of_mem hmem hid
  | handedOver p _ hnew => exact absurd hnew (hposition p)
  | reserved r _ hnew _ hkey =>
    rw [hintent r hnew] at hkey
    nomatch hkey
  | revived hid => exact absurd hid (hrevives _)

theorem counted_reserve {a : EntryReservation} (hinv : Invariant cap db)
    (hc : c ∈ ((PersistOp.reserve a).apply db).commitments mode) : Counted db (.reserve a) mode c := by
  have heffect := (PersistOp.reserve a).apply_effect hinv.keyed
  rcases PersistOp.reserve_cases db a with hsame | ⟨hblock, -⟩
  · rw [hsame] at hc
    exact counted_of_mem hc rfl
  · cases commitment_origin hinv.backed heffect hc with
    | kept c₀ hmem hid => exact counted_of_mem hmem hid
    | handedOver p _ hnew => exact hnew.elim
    | reserved r _ hnew hmode _ heq =>
      refine ⟨(a.intentRow (some a.initialRiskUsdt)).commitment, List.mem_append_right _ ?_, ?_⟩
      · have hadmitted : reservationBlock db a = none ∧ a.executionMode = mode := ⟨hblock, hnew.1.mode.symm.trans hmode⟩
        simp only [BudgetAux.admitted, hadmitted, and_self, if_true, List.mem_singleton]
      · rw [heq]
        exact hnew.1.id.symm
    | revived hid => exact hid.elim

/-- A fill of a live reservation takes the place of the reservation. -/
theorem counted_entry {a : EntryFacts} (hinv : Invariant cap db)
    (hop : (PersistOp.entryAndProtection a).countsInFlight cap db)
    (hc : c ∈ ((PersistOp.entryAndProtection a).apply db).commitments mode) :
    Counted db (.entryAndProtection a) mode c := by
  have heffect := (PersistOp.entryAndProtection a).apply_effect hinv.keyed
  rcases PersistOp.entryAndProtection_cases db a with hsame | ⟨hp, hres⟩
  · rw [hsame] at hc
    exact counted_of_mem hc rfl
  · obtain ⟨r, hr, hlive⟩ := (Option.any_eq_true _ _).mp (hop hp)
    simp only [Bool.and_eq_true, Bool.not_eq_true', decide_eq_true_eq] at hlive
    obtain ⟨⟨hcorrectable, hkey⟩, hrmode⟩ := hlive
    have hactive : r.state.active = true :=
      V2IntentState.active_of_live (persistEntryAndProtection_not_rejected hres hp hr) hcorrectable
    cases commitment_origin hinv.backed heffect hc with
    | kept c₀ hmem hid => exact counted_of_mem hmem hid
    | handedOver p _ hnew hmode heq hfree =>
      obtain ⟨-, hpid, -, -, hpmode⟩ := hnew
      have hreserving : r ∈ db.reservingIntents mode :=
        reserving_of_free hr ((hrmode.trans hpmode.symm).trans hmode) hactive hkey fun q hq => hpid ▸ hfree q hq
      refine counted_of_mem (mem_commitments.mpr (.inr ⟨r, hreserving, rfl⟩)) ?_
      rw [heq]
      exact (Table.get_some hr).2.trans hpid.symm
    | reserved r' _ hnew =>
      refine absurd ?_ hnew.2.2
      rw [hr]
      rfl
    | revived hid r' hr' hcid hstate =>
      have hget := Table.get_of_mem hinv.keyed.intents hr'
      rw [hcid.trans hid] at hget
      cases hget.symm.trans hr
      rw [hstate] at hactive
      nomatch hactive

theorem counted_reconcile {intentId : String} (hinv : Invariant cap db)
    (hop : (PersistOp.reconcileIntent intentId).countsInFlight cap db)
    (hc : c ∈ ((PersistOp.reconcileIntent intentId).apply db).commitments mode) :
    Counted db (.reconcileIntent intentId) mode c := by
  have heffect := (PersistOp.reconcileIntent intentId).apply_effect hinv.keyed
  rcases PersistOp.reconcileIntent_cases db intentId with hsame | hres
  · rw [hsame] at hc
    exact counted_of_mem hc rfl
  · cases commitment_origin hinv.backed heffect hc with
    | kept c₀ hmem hid => exact counted_of_mem hmem hid
    | handedOver p _ hnew => exact hnew.elim
    | reserved r _ hnew => exact hnew.elim
    | revived hid r hr hcid hstate =>
      obtain ⟨r', hr', hlive, -⟩ := reconcileIntentFromConfirmedFill_ok hres
      have hget := Table.get_of_mem hinv.keyed.intents hr
      rw [hcid.trans hid] at hget
      cases hget.symm.trans hr'
      have hcorrectable := correctable_of_reconciled hlive hstate
      simp [PersistOp.countsInFlight, hr', hcorrectable] at hop

theorem counted {op : PersistOp} (hinv : Invariant cap db) (hop : op.countsInFlight cap db)
    (hc : c ∈ (op.apply db).commitments mode) : Counted db op mode c := by
  have heffect := op.apply_effect hinv.keyed
  cases op with
  | reserve a => exact counted_reserve hinv hc
  | entryAndProtection a => exact counted_entry hinv hop hc
  | reconcileIntent intentId => exact counted_reconcile hinv hop hc
  | exitIntent a => exact counted_of_quiet hinv.backed heffect (fun _ h => h) (fun _ h => h.2.1) (fun _ h => h) hc
  | exitResult a => exact counted_of_quiet hinv.backed heffect (fun _ h => h) (fun _ h => h.2.1) (fun _ h => h) hc
  | _ => exact counted_of_quiet hinv.backed heffect (fun _ h => h) (fun _ h => h.elim) (fun _ h => h) hc

/-- The number of commitments grows only by what the gate admitted. -/
theorem length_commitments_step {op : PersistOp} (hinv : Invariant cap db) (hop : op.countsInFlight cap db)
    (mode : V2ExecutionMode) :
    ((op.apply db).commitments mode).length ≤ (db.commitments mode).length + (BudgetAux.admitted db mode op).length := by
  have heffect := op.apply_effect hinv.keyed
  have hsum := Budget.sum_le_of_covered (w := fun _ => 1) Commitment.intentId (heffect.keyed.commitments_nodup mode)
    (fun _ _ => Nat.zero_le 1) fun c hc => by
      obtain ⟨c₀, hc₀, hid⟩ := counted hinv hop hc
      exact ⟨c₀, hc₀, hid, le_refl 1⟩
  simpa using hsum

theorem invariant_step {op : PersistOp} (hinv : Invariant cap db) (hop : op.countsInFlight cap db) :
    Invariant cap (op.apply db) where
  keyed := (op.apply_effect hinv.keyed).keyed
  backed := PersistOp.apply_backed hinv.keyed hinv.backed op
  committed := fun mode => by
    have hstep := length_commitments_step hinv hop mode
    have hbefore := hinv.committed mode
    cases op with
    | reserve a =>
      by_cases hadmitted : reservationBlock db a = none ∧ a.executionMode = mode
      · have hbelow := hop hadmitted.1
        rw [hadmitted.2, ← length_commitments] at hbelow
        simp only [BudgetAux.admitted, hadmitted, and_self, if_true, List.length_singleton] at hstep
        omega
      · simp only [BudgetAux.admitted, hadmitted, if_false, List.length_nil] at hstep
        omega
    | _ => exact hstep.trans hbefore

theorem invariant_empty (cap : ℕ) (h : db.Empty) : Invariant cap db := by
  obtain ⟨-, -, hintents, -, -, hpositions, -⟩ := h
  refine ⟨⟨by simp [hintents], by simp [hpositions], by simp [hpositions]⟩, ?_, ?_⟩
  · intro p hp
    rw [hpositions] at hp
    cases hp
  · intro mode
    simp [length_commitments, Database.activePositions, Database.reservingIntents, hintents, hpositions]

end CapAux

open CapAux in
/-- In every state of every run whose reservations count what is in flight and whose fills are of live reservations, at most
the cap of positions are projected, protected or reducing, in each mode. -/
theorem activePositions_le_cap {cap : ℕ} {db : Database} (hdb : db.Empty) {ops : List PersistOp}
    (hops : Loops.Meets PersistOp.apply (fun db op => op.countsInFlight cap db) db ops) (mode : V2ExecutionMode) :
    ((runOps db ops).activePositions mode).length ≤ cap := by
  have hinv : Invariant cap (runOps db ops) :=
    Loops.run_keeps (fun _ _ hs hop => invariant_step hs hop) (invariant_empty cap hdb) hops
  have hcommitted := hinv.committed mode
  rw [length_commitments] at hcommitted
  omega

/-- A reservation that is checked against a cap of one position. -/
def cappedReservation (name symbol : String) : PersistOp :=
  .reserve { sampleIdentity name symbol "breakout" with
    initialRiskUsdt := 10, accountEquity := some 10000, maxOpenPositions := 1 }

/-- The reservation is checked, with the cap given. -/
def PersistOp.reservesUnderCap (cap : ℕ) : PersistOp → Bool
  | .reserve a => a.accountEquity.isSome && a.portfolioRiskEnforced && decide (a.maxOpenPositions = cap)
  | _ => true

/-- One reservation and its fill. -/
def cappedRun : List PersistOp := [cappedReservation "a" "AAA/USDT", .entryAndProtection (sampleFacts "a" "AAA/USDT" 10)]

theorem activePositions_le_cap_one :
    ((runOps {} cappedRun).activePositions .binanceTestnet).length = 1 ∧
      ((runOps {} cappedRun).activePositions .binanceTestnet).length ≤ 1 := by
  refine ⟨by decide +kernel, activePositions_le_cap ⟨rfl, rfl, rfl, rfl, rfl, rfl, rfl⟩ ?_ _⟩
  refine ⟨fun _ => ?_, fun _ => ?_, trivial⟩
  · decide +kernel
  · decide +kernel

/-- Two reservations pass a cap of one before either is filled. -/
def crowdedRun : List PersistOp :=
  [cappedReservation "a" "AAA/USDT", cappedReservation "b" "BBB/USDT", .entryAndProtection (sampleFacts "a" "AAA/USDT" 10),
    .entryAndProtection (sampleFacts "b" "BBB/USDT" 10)]

theorem activePositions_le_cap_false :
    (∀ op ∈ crowdedRun, op.reservesUnderCap 1 = true) ∧
      ¬((runOps {} crowdedRun).activePositions .binanceTestnet).length ≤ 1 := by
  decide +kernel

/-!
## No ghost reservation

A reservation is keyed on the intent and released by a position row of that intent. A filled intent that never gets such a row
keeps its reservation for good: a fill that is merged into an open position, or one that is persisted without a projection.
-/

/-- The intent is on its way to the exchange. -/
def V2IntentState.inFlight (s : V2IntentState) : Bool :=
  decide (s = .intentCreated ∨ s = .exchangeSubmitting ∨ s = .exchangeUnknown ∨ s = .exchangeAcknowledged)

/-- With no intent in flight and no position open, nothing is reserved. -/
def NoGhost (db : Database) (mode : V2ExecutionMode) : Prop :=
  (∀ r ∈ db.intents, r.state.inFlight = false) → (∀ p ∈ db.positions, p.executionMode = mode → p.isOpen = false) →
    (listActiveInitialRiskExposures db mode).1 = []

/-- The risk of a filled entry whose position is open is counted exactly once. -/
def CountedOnce (db : Database) (mode : V2ExecutionMode) : Prop :=
  ∀ r ∈ db.intents, r.state = .filled → ∀ p ∈ db.activePositions mode, p.intentId = r.intentId →
    ∀ risk, knownRisk r.initialRiskUsdt = some risk →
      ((db.commitments mode).filter fun c => decide (c.intentId = r.intentId)).filterMap Commitment.exposure =
        [{ symbol := p.symbol, direction := p.direction, initialRiskUsdt := risk, source := .position }]

/-- The condition on a step: a fill is projected to a row of its own, under the mode of its intent, and an exit is persisted
for an exit. Bare transitions to filled are no operation of the persistence layer. -/
@[grind =] def PersistOp.projectsEveryFill (db : Database) : PersistOp → Bool
  | .entryAndProtection a => !a.entryResult.positionProjectable ||
    (a.projectPosition && !a.merges db && (db.intent a.intentId).all fun r => decide (r.executionMode = a.executionMode))
  | .exitResult a => (db.intent (exitIntentId a.result.clientOrderId)).all fun r => isExitKey r.candidateKey
  | .transitionIntent _ _ nextState _ => decide (nextState ≠ .filled)
  | .reconcileIntent _ => false
  | _ => true

namespace GhostAux

variable {db : Database}

/-- A filled entry has a position of its mode. -/
def Projected (db : Database) : Prop :=
  ∀ r ∈ db.intents, r.state = .filled → isExitKey r.candidateKey = false →
    ∃ p ∈ db.positions, p.intentId = r.intentId ∧ p.executionMode = r.executionMode

/-- What every state of a run keeps. -/
structure Invariant (db : Database) : Prop where
  keyed : db.Keyed
  backed : db.Backed
  projected : Projected db

/-- A fill that is persisted under the condition leaves its position. -/
theorem projected_entry {a : EntryFacts} (hinv : Invariant db)
    (hop : (PersistOp.entryAndProtection a).projectsEveryFill db = true) {r' : IntentRow}
    (hr' : r' ∈ ((PersistOp.entryAndProtection a).apply db).intents) (hid : r'.intentId = a.intentId)
    (hmode : db.intent a.intentId = none → r'.executionMode = a.executionMode)
    (hsame : (PersistOp.entryAndProtection a).apply db = db →
      ∃ p ∈ db.positions, p.intentId = r'.intentId ∧ p.executionMode = r'.executionMode) :
    ∃ p ∈ ((PersistOp.entryAndProtection a).apply db).positions, p.intentId = r'.intentId ∧
      p.executionMode = r'.executionMode := by
  rcases PersistOp.entryAndProtection_cases db a with heq | ⟨hp, hres⟩
  · obtain ⟨p, hpmem, hpid⟩ := hsame heq
    rw [heq]
    exact ⟨p, hpmem, hpid⟩
  · simp only [PersistOp.projectsEveryFill, hp, Bool.not_true, Bool.false_or, Bool.and_eq_true, Bool.not_eq_true'] at hop
    obtain ⟨⟨hproject, hmerge⟩, hown⟩ := hop
    obtain ⟨p, hpmem, hpid, hpmode⟩ := persistEntryAndProtection_projects hinv.keyed hres hp hproject hmerge
    refine ⟨p, hpmem, hpid.trans hid.symm, hpmode.trans ?_⟩
    cases hr : db.intent a.intentId with
    | none => exact (hmode hr).symm
    | some r =>
      have heffect := (PersistOp.entryAndProtection a).apply_effect hinv.keyed
      obtain ⟨r'', hr'', hkept⟩ := heffect.intent_some hr
      have hget := Table.get_of_mem heffect.keyed.intents hr'
      rw [hid] at hget
      cases hget.symm.trans hr''
      have hrmode : r.executionMode = a.executionMode := by
        rw [hr] at hown
        exact of_decide_eq_true hown
      rw [hkept.mode, hrmode]

theorem projected_step {op : PersistOp} (hinv : Invariant db) (hop : op.projectsEveryFill db = true) :
    Projected (op.apply db) := by
  intro r' hr' hfilled hkey
  have heffect := op.apply_effect hinv.keyed
  rcases heffect.intents.origin (fun _ _ hkept => hkept.id) heffect.keyed.intents hr' with ⟨r, hr, hkept⟩ | ⟨hnew, hfresh⟩
  · rcases hkept.filled hfilled with hwas | hfills
    · -- filled before: its position is still there
      obtain ⟨p, hp, hpid, hpmode⟩ := hinv.projected r hr hwas (hkept.key ▸ hkey)
      obtain ⟨p', hp', hpkept⟩ := heffect.positions.successor hp
      exact ⟨p', hp', (hpkept.intent.trans hpid).trans hkept.id.symm, (hpkept.mode.trans hpmode).trans hkept.mode.symm⟩
    · have hget := Table.get_of_mem hinv.keyed.intents hr
      cases op with
      | entryAndProtection a =>
        have hid : r.intentId = a.intentId := hfills
        rw [hid] at hget
        refine projected_entry hinv hop hr' (hkept.id.trans hid) (fun hnone => ?_) fun heq => ?_
        · have hsome : db.intent a.intentId = some r := hget
          rw [hsome] at hnone
          nomatch hnone
        · exact hinv.projected r' (heq ▸ hr') hfilled hkey
      | transitionIntent intentId current next eventType =>
        exact absurd hfills.2 (of_decide_eq_true hop)
      | reconcileIntent intentId => nomatch hop
      | exitResult a =>
        rw [show r.intentId = exitIntentId a.result.clientOrderId from hfills] at hget
        have hfound : db.intent (exitIntentId a.result.clientOrderId) = some r := hget
        have hexit : isExitKey r.candidateKey = true := by
          simpa only [PersistOp.projectsEveryFill, hfound, Option.all_some] using hop
        rw [← hkept.key, hkey] at hexit
        nomatch hexit
      | _ => exact hfills.elim
  · cases op with
    | reserve a => exact absurd hfilled hnew.2
    | entryAndProtection a =>
      refine projected_entry hinv hop hr' hnew.1 (fun _ => hnew.2.1) fun heq => ?_
      exact absurd rfl (hfresh r' (heq ▸ hr'))
    | exitIntent a =>
      rw [hnew.2.1] at hkey
      nomatch hkey
    | exitResult a =>
      rw [hnew.2.1] at hkey
      nomatch hkey
    | _ => exact hnew.elim

theorem invariant_step {op : PersistOp} (hinv : Invariant db) (hop : op.projectsEveryFill db = true) :
    Invariant (op.apply db) where
  keyed := (op.apply_effect hinv.keyed).keyed
  backed := PersistOp.apply_backed hinv.keyed hinv.backed op
  projected := projected_step hinv hop

theorem invariant_empty (h : db.Empty) : Invariant db := by
  obtain ⟨-, -, hintents, -, -, hpositions, -⟩ := h
  refine ⟨⟨by simp [hintents], by simp [hpositions], by simp [hpositions]⟩, ?_, ?_⟩
  · intro p hp
    rw [hpositions] at hp
    cases hp
  · intro r hr
    rw [hintents] at hr
    cases hr

theorem noGhost_of_invariant (hinv : Invariant db) (mode : V2ExecutionMode) : NoGhost db mode := by
  intro hintents hpositions
  have hactive : db.activePositions mode = [] := by
    refine List.eq_nil_iff_forall_not_mem.mpr fun p hp => ?_
    obtain ⟨hmem, hmode, hstate⟩ := mem_activePositions.mp hp
    have hclosed := hpositions p hmem hmode
    unfold PositionRow.isOpen at hclosed
    cases hs : p.state <;> simp_all [V2PositionState.active]
  have hreserving : db.reservingIntents mode = [] := by
    refine List.eq_nil_iff_forall_not_mem.mpr fun r hr => ?_
    obtain ⟨hmem, hmode, hstate, hfree, hkey⟩ := mem_reservingIntents.mp hr
    -- the only active state that is not in flight is filled
    have hfilled : r.state = .filled := by
      have hflight := hintents r hmem
      cases hs : r.state <;> simp_all [V2IntentState.active, V2IntentState.inFlight]
    obtain ⟨p, hp, hpid, hpmode⟩ := hinv.projected r hmem hfilled hkey
    exact hfree p hp (hpmode.trans hmode) hpid
  unfold listActiveInitialRiskExposures Database.commitments
  rw [hactive, hreserving]
  rfl

theorem countedOnce_of_invariant (hinv : Invariant db) (mode : V2ExecutionMode) : CountedOnce db mode := by
  intro r hr _ p hp hpid risk hrisk
  have hmem : db.positionCommitment p ∈ db.commitments mode := mem_commitments.mpr (.inl ⟨p, hp, rfl⟩)
  have hone := Table.filter_key (hinv.keyed.commitments_nodup mode) hmem
  have hid : (db.positionCommitment p).intentId = r.intentId := hpid
  rw [hid] at hone
  rw [hone]
  have hget : db.intent r.intentId = some r := Table.get_of_mem hinv.keyed.intents hr
  simp [Database.positionCommitment, Commitment.exposure, hpid, hget, hrisk]

end GhostAux

open GhostAux in
/-- In every state of every run that projects each fill to a row of its own, no reservation outlives its position, and the
risk of an open entry is counted once, in each mode. -/
theorem no_ghost_reservation {db : Database} (hdb : db.Empty) {ops : List PersistOp}
    (hops : Loops.Meets PersistOp.apply (fun db op => op.projectsEveryFill db = true) db ops) (mode : V2ExecutionMode) :
    NoGhost (runOps db ops) mode ∧ CountedOnce (runOps db ops) mode := by
  have hinv : Invariant (runOps db ops) :=
    Loops.run_keeps (fun _ _ hs hop => invariant_step hs hop) (invariant_empty hdb) hops
  exact ⟨noGhost_of_invariant hinv mode, countedOnce_of_invariant hinv mode⟩

/-- An entry is reserved, filled and projected, and its position is quarantined. -/
def quarantinedRun : List PersistOp :=
  [sampleReservation "a" "AAA/USDT" 70, .entryAndProtection (sampleFacts "a" "AAA/USDT" 70),
    .transitionPosition "position-a" .positionProjected .quarantined "PositionQuarantined"]

theorem quarantinedRun_no_ghost :
    (listActiveInitialRiskExposures (runOps {} (quarantinedRun.take 2)) .binanceTestnet).1.length = 1 ∧
      NoGhost (runOps {} quarantinedRun) .binanceTestnet ∧ CountedOnce (runOps {} quarantinedRun) .binanceTestnet := by
  refine ⟨by decide +kernel, no_ghost_reservation ⟨rfl, rfl, rfl, rfl, rfl, rfl, rfl⟩ ?_ _⟩
  exact ⟨rfl, by decide +kernel, rfl, trivial⟩

/-- A second fill is merged into the open position, which is then quarantined. -/
def mergedRun : List PersistOp :=
  [sampleReservation "a" "AAA/USDT" 70, .entryAndProtection (sampleFacts "a" "AAA/USDT" 70),
    sampleReservation "b" "AAA/USDT" 50,
    .entryAndProtection { sampleFacts "b" "AAA/USDT" 50 with allowExistingPositionAggregation := true },
    .transitionPosition "position-a" .positionProjected .quarantined "PositionQuarantined"]

/-- A fill is persisted without a projection. -/
def unprojectedRun : List PersistOp :=
  [sampleReservation "a" "AAA/USDT" 70, .entryAndProtection { sampleFacts "a" "AAA/USDT" 70 with projectPosition := false }]

theorem no_ghost_reservation_false :
    ¬NoGhost (runOps {} mergedRun) .binanceTestnet ∧ ¬NoGhost (runOps {} unprojectedRun) .binanceTestnet := by
  unfold NoGhost
  decide +kernel

end TradingPlatform
