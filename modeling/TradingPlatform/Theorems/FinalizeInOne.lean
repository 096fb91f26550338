import Mathlib.Data.List.TakeWhile
import TradingPlatform.Lemmas.Adjudication

/-!
# Finalizing in one

`finalize_adjudication` checks the cases and the prepared allocations of every participant before it writes, but the positions
only while it writes: where a position refuses its allocation, the allocations before it have been applied.
-/

namespace TradingPlatform

/-- What `finalize_adjudication` writes in a participant: the positions, the events and the finalizations. -/
def Participant.written (p : Participant) : List PositionRow × List EventRow × List FinalizationRow :=
  (p.db.positions, p.db.events, p.db.finalizations)

section

variable (h : AdjudicationHash)

/-- If `finalize_adjudication` raises, it has changed nothing in any session. -/
def AllOrNothing (sessions : List (String × Participant)) (manifest : AdjudicationManifest)
    (evidenceProvider : EvidenceProvider) : Prop :=
  ∀ error, (finalizeAdjudication h sessions manifest evidenceProvider).1 = .error error →
    (finalizeAdjudication h sessions manifest evidenceProvider).2.map (fun s => (s.1, s.2.written)) =
      sessions.map fun s => (s.1, s.2.written)

/-- The allocations in the order of the loops: participant by participant. -/
def allocationOrder (manifest : AdjudicationManifest) (participants : List FinalizableParticipant) :
    List (FinalizableParticipant × AllocationSpec) :=
  participants.flatMap fun s => (manifest.participant s.databaseIdentity).map fun item => (s, item)

/-- The condition on the state before the call: if the preflight passes and an allocation is refused, none of those before the
first refused one is to be applied. -/
def RefusesBeforeItApplies (sessions : List (String × Participant)) (manifest : AdjudicationManifest)
    (evidenceProvider : EvidenceProvider) : Prop :=
  ∀ evidence participants, finalizePreflight h sessions manifest evidenceProvider = .ok (evidence, participants) →
    (∃ x ∈ allocationOrder manifest participants, x.1.refused h manifest evidence x.2 = true) →
    ∀ x ∈ (allocationOrder manifest participants).takeWhile (fun x => !x.1.refused h manifest evidence x.2),
      x.1.applies manifest x.2 = false

end

namespace FinalizeInOneAux

variable {h : AdjudicationHash} {m : AdjudicationManifest} {e : ExchangeAggregateExitEvidence}

/-- What is recorded is not applied again. -/
theorem not_applies_of_recorded {s : FinalizableParticipant} {item : AllocationSpec} (hr : s.recorded h m e item = true) :
    s.applies m item = false := by
  simp only [FinalizableParticipant.recorded, Bool.and_eq_true, Option.any_eq_true] at hr
  obtain ⟨-, f, hf, -⟩ := hr
  simp [FinalizableParticipant.applies, hf]

/-! ## The loop over the allocations -/

/-- The loop keeps the events that were there. -/
theorem finalizeAllocations_events (s : FinalizableParticipant) {items : List AllocationSpec}
    (hnd : (items.map AllocationSpec.positionId).Nodup) :
    s.participant.db.events.length ≤
      (finalizeAllocations h m e s.databaseIdentity s.adjudicationId items s.participant).2.db.events.length := by
  induction items generalizing s with
  | nil => exact le_refl _
  | cons item rest ih =>
    rw [List.map_cons, List.nodup_cons] at hnd
    simp only [finalizeAllocations]
    rcases finalizeAllocation_cases h m e s item with ⟨-, hsame⟩ | ⟨-, happlied⟩ | ⟨-, error, herror⟩
    · rw [hsame]
      exact ih s hnd.2
    · rw [happlied]
      refine le_trans ?_ (ih (s.after h m e item) hnd.2)
      simp [FinalizableParticipant.after, FinalizableParticipant.apply, Database.appendEvent, Database.modifyPosition]
    · rw [herror]

/-- The loop returns exactly if no allocation is refused. -/
theorem finalizeAllocations_ok_iff (s : FinalizableParticipant) {items : List AllocationSpec}
    (hnd : (items.map AllocationSpec.positionId).Nodup) :
    (finalizeAllocations h m e s.databaseIdentity s.adjudicationId items s.participant).1 = .ok () ↔
      ∀ item ∈ items, s.refused h m e item = false := by
  induction items generalizing s with
  | nil => simp [finalizeAllocations]
  | cons item rest ih =>
    rw [List.map_cons, List.nodup_cons] at hnd
    simp only [finalizeAllocations, List.forall_mem_cons]
    rcases finalizeAllocation_cases h m e s item with ⟨hrecorded, hsame⟩ | ⟨happlies, happlied⟩ | ⟨hrefused, error, herror⟩
    · have hrefused : s.refused h m e item = false := by simp [FinalizableParticipant.refused, hrecorded]
      rw [hsame]
      simpa [hrefused] using ih s hnd.2
    · have hrefused : s.refused h m e item = false := by simp [FinalizableParticipant.refused, happlies]
      rw [happlied]
      have hrest : (∀ other ∈ rest, (s.after h m e item).refused h m e other = false) ↔
          ∀ other ∈ rest, s.refused h m e other = false := by
        refine forall₂_congr fun other hother => ?_
        rw [refused_after fun heq => hnd.1 (heq ▸ List.mem_map_of_mem hother)]
      simpa [hrest, hrefused] using ih (s.after h m e item) hnd.2
    · rw [herror]
      simp [hrefused]

/-- The loop writes nothing exactly if none of the allocations before the first refused one is to be applied. -/
theorem finalizeAllocations_written_iff (s : FinalizableParticipant) {items : List AllocationSpec}
    (hnd : (items.map AllocationSpec.positionId).Nodup) :
    (finalizeAllocations h m e s.databaseIdentity s.adjudicationId items s.participant).2.written = s.participant.written ↔
      ∀ item ∈ items.takeWhile (fun item => !s.refused h m e item), s.applies m item = false := by
  induction items with
  | nil => simp [finalizeAllocations]
  | cons item rest ih =>
    rw [List.map_cons, List.nodup_cons] at hnd
    simp only [finalizeAllocations]
    rcases finalizeAllocation_cases h m e s item with ⟨hrecorded, hsame⟩ | ⟨happlies, happlied⟩ | ⟨hrefused, error, herror⟩
    · have hrefused : s.refused h m e item = false := by simp [FinalizableParticipant.refused, hrecorded]
      have happlies : s.applies m item = false := not_applies_of_recorded hrecorded
      rw [hsame, List.takeWhile_cons_of_pos (by simp [hrefused]), List.forall_mem_cons]
      simpa [happlies] using ih hnd.2
    · have hrefused : s.refused h m e item = false := by simp [FinalizableParticipant.refused, happlies]
      rw [happlied, List.takeWhile_cons_of_pos (by simp [hrefused]), List.forall_mem_cons]
      -- the event of the allocation stays
      refine ⟨fun hsame => ?_, fun hnone => absurd hnone.1 (by simp [happlies])⟩
      have hevents := congrArg (fun w => w.2.1.length) hsame
      have hmore := finalizeAllocations_events (h := h) (m := m) (e := e) (s.after h m e item) hnd.2
      have hone : (s.apply h m e item).db.events.length = s.participant.db.events.length + 1 := by
        simp [FinalizableParticipant.apply, Database.appendEvent, Database.modifyPosition]
      simp only [Participant.written] at hevents
      simp only [FinalizableParticipant.after_databaseIdentity, FinalizableParticipant.after_adjudicationId,
        FinalizableParticipant.after_participant] at hmore
      omega
    · rw [herror, List.takeWhile_cons_of_neg (by simp [hrefused])]
      simp

/-! ## The loop over the participants -/

/-- A list that holds an element that fails the test is left in it. -/
theorem takeWhile_append_of_mem {α : Type} {p : α → Bool} {l l' : List α} {x : α} (hx : x ∈ l) (hfails : p x = false) :
    (l ++ l').takeWhile p = l.takeWhile p := by
  rw [List.takeWhile_append, if_neg]
  intro hlength
  have hself : l.takeWhile p = l := (List.takeWhile_prefix p).eq_of_length hlength
  have hpasses := List.takeWhile_eq_self_iff.mp hself x hx
  exact absurd hpasses (by simp [hfails])

/-- The allocations of one participant before the first refused one, among its own. -/
theorem takeWhile_participant (s : FinalizableParticipant) (items : List AllocationSpec) :
    (items.map fun item => (s, item)).takeWhile (fun x => !x.1.refused h m e x.2) =
      (items.takeWhile fun item => !s.refused h m e item).map fun item => (s, item) := by
  rw [List.takeWhile_map]
  rfl

/-- The loop over the participants returns exactly if no allocation is refused, and it writes nothing exactly if none of the
allocations before the first refused one is to be applied. -/
theorem finalizeParticipants_iff (hm : m.Sound) (participants : List FinalizableParticipant) :
    ((finalizeParticipants h m e participants).1 = .ok () ↔
      ∀ x ∈ allocationOrder m participants, x.1.refused h m e x.2 = false) ∧
    ((finalizeParticipants h m e participants).2.map (fun s => (s.1, s.2.written)) =
        participants.map (fun s => (s.databaseIdentity, s.participant.written)) ↔
      ∀ x ∈ (allocationOrder m participants).takeWhile (fun x => !x.1.refused h m e x.2), x.1.applies m x.2 = false) := by
  induction participants with
  | nil => simp [finalizeParticipants, allocationOrder]
  | cons s rest ih =>
    have hnd := hm.participant_nodup s.databaseIdentity
    have hok := finalizeAllocations_ok_iff (h := h) (m := m) (e := e) s hnd
    have hwritten := finalizeAllocations_written_iff (h := h) (m := m) (e := e) s hnd
    have horder : allocationOrder m (s :: rest) =
        (m.participant s.databaseIdentity).map (fun item => (s, item)) ++ allocationOrder m rest := List.flatMap_cons
    rw [horder]
    simp only [finalizeParticipants]
    generalize hrun : finalizeAllocations h m e s.databaseIdentity s.adjudicationId (m.participant s.databaseIdentity)
      s.participant = run at hok hwritten ⊢
    obtain ⟨result, p⟩ := run
    cases result with
    | error error =>
      -- the loop ends here
      have hsome : ∃ x ∈ (m.participant s.databaseIdentity).map (fun item => (s, item)), x.1.refused h m e x.2 = true := by
        by_contra hnone
        have hall := hok.mpr fun item hitem => by
          by_contra hrefused
          exact hnone ⟨(s, item), List.mem_map_of_mem hitem, by simpa using hrefused⟩
        cases hall
      constructor
      · refine ⟨fun hok => (by cases hok), fun hall => ?_⟩
        obtain ⟨x, hx, hrefused⟩ := hsome
        rw [hall x (List.mem_append_left _ hx)] at hrefused
        cases hrefused
      · obtain ⟨x, hx, hrefused⟩ := hsome
        rw [takeWhile_append_of_mem hx (by simp [hrefused]), takeWhile_participant]
        simpa [Function.comp_def] using hwritten
    | ok u =>
      have hall : ∀ x ∈ (m.participant s.databaseIdentity).map (fun item => (s, item)), x.1.refused h m e x.2 = false := by
        intro x hx
        obtain ⟨item, hitem, rfl⟩ := List.mem_map.mp hx
        exact hok.mp rfl item hitem
      have hcut : (m.participant s.databaseIdentity).takeWhile (fun item => !s.refused h m e item) =
          m.participant s.databaseIdentity := by
        exact List.takeWhile_eq_self_iff.mpr fun item hitem => by simp [hok.mp rfl item hitem]
      rw [hcut] at hwritten
      constructor
      · rw [List.forall_mem_append]
        exact ⟨fun hrest => ⟨hall, ih.1.mp hrest⟩, fun hboth => ih.1.mpr hboth.2⟩
      · rw [List.takeWhile_append_of_pos fun x hx => by simp [hall x hx], List.forall_mem_append, List.map_cons, List.map_cons,
          List.cons.injEq, ih.2]
        refine and_congr ?_ Iff.rfl
        rw [Prod.mk.injEq, List.forall_mem_map]
        simpa using hwritten

/-- The participants of a preflight are the sessions of the call. -/
theorem participants_eq {sessions : List (String × Participant)} {provide : EvidenceProvider}
    {participants : List FinalizableParticipant} (hok : finalizePreflight h sessions m provide = .ok (e, participants)) :
    participants.map (fun s => (s.databaseIdentity, s.participant)) = sessions := by
  obtain ⟨-, -, -, hsessions⟩ := finalizePreflight_ok hok
  have hnames : List.Forall₂ (· = ·) sessions (participants.map fun s => (s.databaseIdentity, s.participant)) := by
    rw [List.forall₂_map_right_iff]
    exact hsessions.imp fun s x hx => (Prod.ext hx.1 hx.2.1).symm
  rw [List.forall₂_eq_eq_eq] at hnames
  exact hnames.symm

end FinalizeInOneAux

open FinalizeInOneAux

/-- `finalize_adjudication` is all or nothing exactly if it refuses an allocation before it applies one. -/
theorem allOrNothing_iff (h : AdjudicationHash) (sessions : List (String × Participant)) (manifest : AdjudicationManifest)
    (evidenceProvider : EvidenceProvider) :
    AllOrNothing h sessions manifest evidenceProvider ↔ RefusesBeforeItApplies h sessions manifest evidenceProvider := by
  unfold AllOrNothing RefusesBeforeItApplies finalizeAdjudication
  cases hpreflight : finalizePreflight h sessions manifest evidenceProvider with
  | error error =>
    refine ⟨fun _ evidence participants hok => ?_, fun _ _ _ => rfl⟩
    nomatch hok
  | ok plan =>
    obtain ⟨evidence, participants⟩ := plan
    obtain ⟨-, hvalid, -⟩ := finalizePreflight_ok hpreflight
    have hsound := validateManifest_sound hvalid
    have hsessions := participants_eq hpreflight
    obtain ⟨hok, hwritten⟩ := finalizeParticipants_iff (h := h) (e := evidence) hsound participants
    have hbefore : participants.map (fun s => (s.databaseIdentity, s.participant.written)) =
        sessions.map fun s => (s.1, s.2.written) := by
      rw [← hsessions, List.map_map]
      rfl
    rw [hbefore] at hwritten
    constructor
    · rintro hnothing evidence' participants' hsame ⟨x, hx, hrefused⟩
      cases hsame
      cases hresult : (finalizeParticipants h manifest evidence participants).1 with
      | ok u =>
        have hnone := hok.mp hresult x hx
        rw [hrefused] at hnone
        nomatch hnone
      | error error => exact hwritten.mp (hnothing error hresult)
    · intro hrefuses error herror
      refine hwritten.mpr (hrefuses evidence participants rfl ?_)
      by_contra hnone
      have hall := hok.mpr fun x hx => by
        by_contra hrefused
        exact hnone ⟨x, hx, by simpa using hrefused⟩
      rw [hall] at herror
      nomatch herror

/-! ## A position that has moved on -/

/-- An exit of two positions in two databases. -/
def sharedExit : AdjudicationManifest :=
  { adjudicationId := "adj-1", symbol := "ETHUSDT", exchangeOrderId := "1001", exchangeTradeId := "7",
    exchangeFillQuantity := ⟨3, 0⟩, exchangeFillSide := "SELL", exchangeFillPrice := ⟨2000, 0⟩, exchangeFillTimestamp := 0,
    operatorIdentity := "operator", operatorReason := "aggregate exit",
    allocations := [⟨"paper", "p-1", ⟨1, 0⟩⟩, ⟨"testnet", "p-2", ⟨2, 0⟩⟩], accountScopeKey := "account" }

def sharedExitEvidence : ExchangeAggregateExitEvidence :=
  { exchangeOrderId := "1001", exchangeTradeId := "7", symbol := "ETHUSDT", side := "SELL", reduceOnly := true,
    executedQuantity := ⟨3, 0⟩, tradeQuantity := ⟨3, 0⟩, price := ⟨2000, 0⟩, exchangeEventTime := 0,
    verificationReference := "binance-read:1001/7" }

/-- A participant that has prepared its part of the exit, with its position in a state. -/
def preparedParticipant (databaseIdentity positionId : String) (quantity : ℚ) (state : V2PositionState) : Participant where
  db :=
    { positions :=
        [{ positionId := positionId, intentId := "i", orderRecordId := "o", symbol := "ETHUSDT", direction := .long,
           executionMode := .binanceTestnet, quantity := quantity, entryPrice := 1900, entryFee := 0, state := state }] }
  cases := [sharedExit.case tradeHash sharedExitEvidence]
  allocations :=
    [{ adjudicationId := "adj-1", manifestHash := tradeHash.manifestHash sharedExit.payload,
       evidenceHash := tradeHash.evidenceHash sharedExitEvidence.payload, databaseIdentity := databaseIdentity,
       positionId := positionId, allocatedQuantity := quantity }]

/-- The position of the second participant was closed after it was prepared: the call raises, and the position of the first is
closed. -/
theorem sharedExit_partly :
    let sessions := [("paper", preparedParticipant "paper" "p-1" 1 .quarantined),
      ("testnet", preparedParticipant "testnet" "p-2" 2 .closed)]
    (finalizeAdjudication tradeHash sessions sharedExit fun _ _ _ => .ok sharedExitEvidence).1 =
        .error (.valueError "RECOVERY_FINALIZATION_INCOMPLETE") ∧
      ¬ AllOrNothing tradeHash sessions sharedExit fun _ _ _ => .ok sharedExitEvidence := by
  intro sessions
  have hraises : (finalizeAdjudication tradeHash sessions sharedExit fun _ _ _ => .ok sharedExitEvidence).1 =
      .error (.valueError "RECOVERY_FINALIZATION_INCOMPLETE") := by
    decide +kernel
  refine ⟨hraises, fun h => ?_⟩
  have hstates := congrArg (List.map fun s => s.2.1.map PositionRow.state) (h _ hraises)
  revert hstates
  decide +kernel

end TradingPlatform
