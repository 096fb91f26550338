import Mathlib.Data.List.Sort
import TradingPlatform.Engine.AccountWriter
import TradingPlatform.Engine.FactPersistence

/-!
# Adjudication

`application/adjudication.py`: an operator attributes one historical exit of the exchange to quarantined positions, which may be
in several databases. Each participating database prepares the manifest, and all are finalized together. Hashes are functions of
what they hash; sums are exact; sides are ASCII. Instants are microseconds in the time zone of the database.
-/

namespace TradingPlatform

/-! ## Manifests -/

/-- A finite `Decimal`: two of them are equal if their values are, and their texts say how they are written. -/
structure PyDecimal where
  coefficient : ℤ
  exponent : ℤ
  deriving DecidableEq, Repr

/-- The number a decimal stands for. -/
def PyDecimal.value (d : PyDecimal) : ℚ :=
  if 0 ≤ d.exponent then d.coefficient * 10 ^ d.exponent.toNat else d.coefficient / 10 ^ (-d.exponent).toNat

/-- `AllocationSpec`. -/
structure AllocationSpec where
  databaseIdentity : String
  positionId : String
  allocatedQuantity : PyDecimal
  deriving DecidableEq, Repr

/-- `ExchangeAggregateExitEvidence`. -/
structure ExchangeAggregateExitEvidence where
  exchangeOrderId : String
  exchangeTradeId : String
  symbol : String
  side : String
  reduceOnly : Bool
  executedQuantity : PyDecimal
  tradeQuantity : PyDecimal
  price : PyDecimal
  exchangeEventTime : ℤ
  verificationReference : String := ""
  deriving DecidableEq, Repr

/-- `AdjudicationManifest`; its allocations are normalized. -/
structure AdjudicationManifest where
  adjudicationId : String
  symbol : String
  exchangeOrderId : String
  exchangeTradeId : String
  exchangeFillQuantity : PyDecimal
  exchangeFillSide : String
  exchangeFillPrice : PyDecimal
  exchangeFillTimestamp : ℤ
  operatorIdentity : String
  operatorReason : String
  allocations : List AllocationSpec
  accountScopeKey : String
  deriving DecidableEq, Repr

/-! ## What is hashed -/

/-- The payload of `case_key`. -/
structure CasePayload where
  accountScopeKey : String
  symbol : String
  exchangeOrderId : String
  exchangeTradeId : String
  deriving DecidableEq, Repr

/-- The payload of `manifest_hash`; a decimal is in it as it is written. -/
structure ManifestPayload where
  symbol : String
  accountScopeKey : String
  exchangeOrderId : String
  exchangeTradeId : String
  exchangeFillQuantity : PyDecimal
  exchangeFillSide : String
  exchangeFillPrice : PyDecimal
  exchangeFillTimestamp : ℤ
  operatorIdentity : String
  operatorReason : String
  allocations : List AllocationSpec
  deriving DecidableEq, Repr

/-- The payload of `evidence_hash`. -/
structure EvidencePayload where
  exchangeOrderId : String
  exchangeTradeId : String
  symbol : String
  side : String
  reduceOnly : Bool
  executedQuantity : PyDecimal
  tradeQuantity : PyDecimal
  price : PyDecimal
  exchangeEventTime : ℤ
  deriving DecidableEq, Repr

/-- The order in which a manifest hashes its allocations. -/
def AllocationSpec.before (a b : AllocationSpec) : Prop :=
  a.databaseIdentity < b.databaseIdentity ∨ a.databaseIdentity = b.databaseIdentity ∧ a.positionId ≤ b.positionId

instance : DecidableRel AllocationSpec.before := fun _ _ => inferInstanceAs (Decidable (_ ∨ _))

/-- What `case_key` hashes. -/
def AdjudicationManifest.casePayload (m : AdjudicationManifest) : CasePayload :=
  { accountScopeKey := m.accountScopeKey, symbol := m.symbol, exchangeOrderId := m.exchangeOrderId,
    exchangeTradeId := m.exchangeTradeId }

/-- What `manifest_hash` hashes: not the id of the adjudication. -/
def AdjudicationManifest.payload (m : AdjudicationManifest) : ManifestPayload :=
  { symbol := m.symbol, accountScopeKey := m.accountScopeKey, exchangeOrderId := m.exchangeOrderId,
    exchangeTradeId := m.exchangeTradeId, exchangeFillQuantity := m.exchangeFillQuantity,
    exchangeFillSide := m.exchangeFillSide.toUpper, exchangeFillPrice := m.exchangeFillPrice,
    exchangeFillTimestamp := m.exchangeFillTimestamp, operatorIdentity := m.operatorIdentity,
    operatorReason := m.operatorReason, allocations := m.allocations.insertionSort AllocationSpec.before }

/-- What `evidence_hash` hashes: not the reference of its verification. -/
def ExchangeAggregateExitEvidence.payload (e : ExchangeAggregateExitEvidence) : EvidencePayload :=
  { exchangeOrderId := e.exchangeOrderId, exchangeTradeId := e.exchangeTradeId, symbol := e.symbol,
    side := e.side.toUpper, reduceOnly := e.reduceOnly, executedQuantity := e.executedQuantity,
    tradeQuantity := e.tradeQuantity, price := e.price, exchangeEventTime := e.exchangeEventTime }

/-- The SHA-256 of the JSON of a payload. -/
structure AdjudicationHash where
  caseKey : CasePayload → String
  manifestHash : ManifestPayload → String
  evidenceHash : EvidencePayload → String

/-! ## Validation -/

/-- The first check that fires raises. -/
def raiseFirst (checks : List (Bool × String)) : Except PyError Unit :=
  match checks.find? Prod.fst with
  | none => .ok ()
  | some check => .error (.valueError check.2)

/-- The quantities of a list of allocations. -/
def allocatedTotal (allocations : List AllocationSpec) : ℚ := (allocations.map fun item => item.allocatedQuantity.value).sum

/-- `_validate_manifest`. -/
def validateManifest (manifest : AdjudicationManifest) (evidence : ExchangeAggregateExitEvidence) : Except PyError Unit :=
  let allocations := manifest.allocations
  let total := allocatedTotal allocations
  raiseFirst
    [(decide (strip evidence.verificationReference = ""), "UNVERIFIED_EXCHANGE_EVIDENCE"),
      (decide (strip manifest.operatorIdentity = "" ∨ strip manifest.operatorReason = ""),
        "operator identity and reason are mandatory"),
      (decide (manifest.symbol ≠ evidence.symbol), "ADJUDICATION_SYMBOL_MISMATCH"),
      (decide (manifest.exchangeOrderId ≠ evidence.exchangeOrderId ∨ manifest.exchangeTradeId ≠ evidence.exchangeTradeId),
        "ADJUDICATION_EXCHANGE_ID_MISMATCH"),
      (decide (manifest.exchangeFillSide.toUpper ≠ evidence.side.toUpper) || !evidence.reduceOnly,
        "ADJUDICATION_SIDE_OR_REDUCE_ONLY_MISMATCH"),
      (decide (manifest.exchangeFillPrice.value ≠ evidence.price.value ∨
        manifest.exchangeFillTimestamp ≠ evidence.exchangeEventTime), "ADJUDICATION_RECEIPT_MISMATCH"),
      (decide (quantize evidence.executedQuantity.value ≠ quantize evidence.tradeQuantity.value), "AMBIGUOUS_AGGREGATE_FILL"),
      (decide (quantize manifest.exchangeFillQuantity.value ≠ quantize evidence.executedQuantity.value),
        "ADJUDICATION_QUANTITY_MISMATCH"),
      (allocations.isEmpty || allocations.any fun item => decide (item.allocatedQuantity.value ≤ 0),
        "INVALID_ALLOCATION_QUANTITY"),
      (decide (quantize total < quantize evidence.executedQuantity.value), "UNALLOCATED_EXCHANGE_QUANTITY"),
      (decide (quantize evidence.executedQuantity.value < quantize total), "OVER_ALLOCATED_EXCHANGE_QUANTITY"),
      (decide ¬(allocations.map fun item => (item.databaseIdentity, item.positionId)).Nodup, "DUPLICATE_ALLOCATION")]

/-! ## Participants -/

/-- `V2AdjudicationCase`. -/
structure AdjudicationCase where
  adjudicationId : String
  caseKey : String
  manifestHash : String
  evidenceHash : String
  exchangeOrderId : String
  exchangeTradeId : String
  exchangeFillQuantity : ℚ
  deriving DecidableEq

/-- `V2AdjudicationAllocation`. -/
structure AdjudicationAllocation where
  adjudicationId : String
  manifestHash : String
  evidenceHash : String
  databaseIdentity : String
  positionId : String
  allocatedQuantity : ℚ
  deriving DecidableEq

/-- The database of a participant with its tables of the protocol. `read` is what its session gives back of a stored quantity:
itself, or the decimal of a float near it (SQLite). -/
structure Participant where
  db : Database
  cases : List AdjudicationCase := []
  allocations : List AdjudicationAllocation := []
  read : ℚ → ℚ := id

/-- Insertion of a case. -/
def Participant.insertCase (p : Participant) (row : AdjudicationCase) : Except PyError Participant := do
  require (p.cases.all fun c => decide (c.adjudicationId ≠ row.adjudicationId)) "v2_adjudication_cases.adjudication_id"
  require (p.cases.all fun c => decide (c.caseKey ≠ row.caseKey)) "v2_adjudication_cases.case_key"
  require (p.cases.all fun c => decide (c.manifestHash ≠ row.manifestHash)) "v2_adjudication_cases.manifest_hash"
  require (p.cases.all fun c => decide (c.exchangeOrderId ≠ row.exchangeOrderId ∨ c.exchangeTradeId ≠ row.exchangeTradeId))
    "uq_v2_adjudication_exchange_trade"
  require (decide (0 < row.exchangeFillQuantity)) "ck_v2_adjudication_quantity_positive"
  return { p with cases := p.cases ++ [row] }

/-- Insertion of an allocation. -/
def Participant.insertAllocation (p : Participant) (row : AdjudicationAllocation) : Except PyError Participant := do
  require (p.allocations.all fun a => decide (a.adjudicationId ≠ row.adjudicationId ∨
    a.databaseIdentity ≠ row.databaseIdentity ∨ a.positionId ≠ row.positionId)) "uq_v2_adjudication_participant"
  require (decide (0 < row.allocatedQuantity)) "ck_v2_adjudication_allocation_positive"
  return { p with allocations := p.allocations ++ [row] }

/-- `_existing_case`. -/
def Participant.existingCase (p : Participant) (caseKey : String) : Option AdjudicationCase :=
  Table.get AdjudicationCase.caseKey p.cases caseKey

/-- The allocations a participant has prepared for a case. -/
def Participant.prepared (p : Participant) (adjudicationId databaseIdentity : String) : List AdjudicationAllocation :=
  p.allocations.filter fun a => decide (a.adjudicationId = adjudicationId ∧ a.databaseIdentity = databaseIdentity)

/-- Two lists are equal as sets. -/
def sameMembers {α : Type} [DecidableEq α] (a b : List α) : Bool :=
  (a.all fun x => decide (x ∈ b)) && b.all fun x => decide (x ∈ a)

/-- The allocations a manifest declares for a database. -/
def AdjudicationManifest.participant (m : AdjudicationManifest) (databaseIdentity : String) : List AllocationSpec :=
  m.allocations.filter fun item => decide (item.databaseIdentity = databaseIdentity)

/-! ## Preparing -/

/-- The checks of `_validate_participant` on one allocation. -/
def validateAllocation (p : Participant) (manifest : AdjudicationManifest) (item : AllocationSpec) : Except PyError Unit :=
  match p.db.position item.positionId with
  | none => .error (.valueError "adjudication requires a QUARANTINED lifecycle")
  | some position =>
    let expectedSide := match position.direction with
      | .short => "BUY"
      | .long => "SELL"
    raiseFirst
      [(decide (position.state ≠ .quarantined), "adjudication requires a QUARANTINED lifecycle"),
        (decide (position.symbol ≠ manifest.symbol), "ADJUDICATION_SYMBOL_MISMATCH"),
        (decide (manifest.exchangeFillSide.toUpper ≠ expectedSide), "ADJUDICATION_SIDE_OR_DIRECTION_MISMATCH"),
        (decide (position.quantity ≠ item.allocatedQuantity.value), "AMBIGUOUS_AGGREGATE_FILL"),
        (p.db.fills.any fun f => decide (f.tradeId = some manifest.exchangeTradeId), "AMBIGUOUS_AGGREGATE_FILL"),
        (p.allocations.any fun a => decide (a.positionId = item.positionId ∧ a.adjudicationId ≠ manifest.adjudicationId),
          "lifecycle allocation is already consumed")]

/-- `_validate_participant`. -/
def validateParticipant (p : Participant) (manifest : AdjudicationManifest) (participant : List AllocationSpec) :
    Except PyError Unit :=
  participant.forM (validateAllocation p manifest)

/-- What asks the exchange for the evidence of an order and a trade. -/
abbrev EvidenceProvider := String → String → String → Except PyError ExchangeAggregateExitEvidence

section

variable (h : AdjudicationHash)

/-- The row of a prepared allocation. -/
def AllocationSpec.row (manifest : AdjudicationManifest) (evidence : ExchangeAggregateExitEvidence) (adjudicationId : String)
    (item : AllocationSpec) : AdjudicationAllocation :=
  { adjudicationId, manifestHash := h.manifestHash manifest.payload, evidenceHash := h.evidenceHash evidence.payload,
    databaseIdentity := item.databaseIdentity, positionId := item.positionId,
    allocatedQuantity := item.allocatedQuantity.value }

/-- The case of a manifest. -/
def AdjudicationManifest.case (manifest : AdjudicationManifest) (evidence : ExchangeAggregateExitEvidence) :
    AdjudicationCase :=
  { adjudicationId := manifest.adjudicationId, caseKey := h.caseKey manifest.casePayload,
    manifestHash := h.manifestHash manifest.payload, evidenceHash := h.evidenceHash evidence.payload,
    exchangeOrderId := manifest.exchangeOrderId, exchangeTradeId := manifest.exchangeTradeId,
    exchangeFillQuantity := manifest.exchangeFillQuantity.value }

/-- `prepare_adjudication`: the case, and the participant that has prepared it. A raise leaves the participant as it was. -/
def prepareAdjudication (p : Participant) (manifest : AdjudicationManifest) (databaseIdentity : String)
    (evidenceProvider : Option EvidenceProvider) : Except PyError (AdjudicationCase × Participant) := do
  match evidenceProvider with
  | none => throw (.valueError "UNVERIFIED_EXCHANGE_EVIDENCE")
  | some provide =>
    let evidence ← provide manifest.exchangeOrderId manifest.exchangeTradeId manifest.symbol
    validateManifest manifest evidence
    let participant := manifest.participant databaseIdentity
    if participant.isEmpty then
      throw (.valueError "database identity is not declared in adjudication manifest")
    else
      match p.existingCase (h.caseKey manifest.casePayload) with
      | some existing =>
        if existing.manifestHash ≠ h.manifestHash manifest.payload then throw (.valueError "ADJUDICATION_MANIFEST_CONFLICT")
        else if existing.evidenceHash ≠ h.evidenceHash evidence.payload then
          throw (.valueError "ADJUDICATION_EVIDENCE_CHANGED")
        else
          let declared := participant.map fun item => (item.positionId, item.allocatedQuantity.value)
          let actual := (p.prepared existing.adjudicationId databaseIdentity).map fun a => (a.positionId, p.read a.allocatedQuantity)
          if sameMembers actual declared then return (existing, p)
          else if !actual.isEmpty then
            throw (.valueError "adjudication manifest conflicts with prepared allocation")
          else
            validateParticipant p manifest participant
            let p ← participant.foldlM (fun p item =>
              p.insertAllocation (item.row h manifest evidence existing.adjudicationId)) p
            return (existing, p)
      | none =>
        validateParticipant p manifest participant
        let case := manifest.case h evidence
        let p ← p.insertCase case
        match participant.foldlM (fun p item => p.insertAllocation (item.row h manifest evidence manifest.adjudicationId)) p with
        | .ok p => return (case, p)
        | .error _ => throw (.valueError "ADJUDICATION_MANIFEST_CONFLICT")

/-! ## Finalizing -/

/-- The preflight of `finalize_adjudication` on one participant: the id of its case. -/
def preflightParticipant (manifest : AdjudicationManifest) (evidence : ExchangeAggregateExitEvidence)
    (databaseIdentity : String) (p : Participant) : Except PyError String :=
  let manifestHash := h.manifestHash manifest.payload
  let evidenceHash := h.evidenceHash evidence.payload
  let caseKey := h.caseKey manifest.casePayload
  if p.cases.any fun c => decide (c.caseKey = caseKey ∧ c.manifestHash ≠ manifestHash) then
    .error (.valueError "FINALIZABLE exchange trade is already prepared by a different adjudication")
  else
    match p.existingCase caseKey with
    | none => .error (.valueError "FINALIZABLE requires every participant prepared with the same manifest")
    | some case =>
      if case.manifestHash ≠ manifestHash ∨ case.evidenceHash ≠ evidenceHash ∨
          case.exchangeOrderId ≠ manifest.exchangeOrderId ∨ case.exchangeTradeId ≠ manifest.exchangeTradeId ∨
          quantize (p.read case.exchangeFillQuantity) ≠ quantize manifest.exchangeFillQuantity.value then
        .error (.valueError "FINALIZABLE requires every participant prepared with the same manifest")
      else
        let expectedPrepared := (manifest.participant databaseIdentity).map fun item =>
          (item.positionId, quantize item.allocatedQuantity.value, manifestHash, evidenceHash)
        let prepared := (p.prepared case.adjudicationId databaseIdentity).map fun a =>
          (a.positionId, quantize (p.read a.allocatedQuantity), a.manifestHash, a.evidenceHash)
        if !sameMembers expectedPrepared prepared then
          .error (.valueError "FINALIZABLE requires every declared allocation to be prepared")
        else .ok case.adjudicationId

/-- A participant that has passed the preflight, with its name and its case. -/
structure FinalizableParticipant where
  databaseIdentity : String
  adjudicationId : String
  participant : Participant

/-- `finalize_adjudication` up to its first write: the evidence, and the participants. -/
def finalizePreflight (sessions : List (String × Participant)) (manifest : AdjudicationManifest)
    (evidenceProvider : EvidenceProvider) : Except PyError (ExchangeAggregateExitEvidence × List FinalizableParticipant) := do
  let evidence ← evidenceProvider manifest.exchangeOrderId manifest.exchangeTradeId manifest.symbol
  validateManifest manifest evidence
  if !sameMembers (sessions.map Prod.fst) (manifest.allocations.map AllocationSpec.databaseIdentity) then
    throw (.valueError "FINALIZABLE requires one session per declared database")
  else
    let participants ← sessions.mapM fun s => do
      let adjudicationId ← preflightParticipant h manifest evidence s.1 s.2
      return { databaseIdentity := s.1, adjudicationId, participant := s.2 }
    return (evidence, participants)

/-- The attribution of one allocation. -/
def AllocationSpec.attribution (manifest : AdjudicationManifest) (evidence : ExchangeAggregateExitEvidence)
    (databaseIdentity adjudicationId : String) (item : AllocationSpec) : HistoricalAttribution :=
  { positionId := item.positionId, adjudicationId, exchangeOrderId := manifest.exchangeOrderId,
    exchangeTradeId := manifest.exchangeTradeId, manifestHash := h.manifestHash manifest.payload,
    evidenceHash := h.evidenceHash evidence.payload, databaseIdentity,
    aggregateQuantity := manifest.exchangeFillQuantity.value, allocatedQuantity := item.allocatedQuantity.value }

/-- The finalization of a position by an adjudication. -/
def Participant.finalization (p : Participant) (adjudicationId positionId : String) : Option FinalizationRow :=
  p.db.finalizations.find? fun f => decide (f.adjudicationId = adjudicationId ∧ f.positionId = positionId)

/-- The body of the loop over the allocations. -/
def finalizeAllocation (manifest : AdjudicationManifest) (evidence : ExchangeAggregateExitEvidence)
    (databaseIdentity adjudicationId : String) (p : Participant) (item : AllocationSpec) : Except PyError Participant :=
  match p.db.position item.positionId with
  | none => .error (.valueError "RECOVERY_FINALIZATION_INCOMPLETE")
  | some position =>
    match p.finalization adjudicationId item.positionId with
    | some finalization =>
      if finalization.manifestHash ≠ h.manifestHash manifest.payload ∨
          finalization.evidenceHash ≠ h.evidenceHash evidence.payload ∨
          finalization.exchangeTradeId ≠ manifest.exchangeTradeId ∨
          p.read finalization.allocatedQuantity ≠ item.allocatedQuantity.value then
        .error (.valueError "RECOVERY_FINALIZATION_CONFLICT")
      else .ok p
    | none =>
      if position.state ≠ .quarantined then .error (.valueError "RECOVERY_FINALIZATION_INCOMPLETE")
      else
        (finalizeQuarantinedHistoricalAttribution p.db
          (item.attribution h manifest evidence databaseIdentity adjudicationId)).map fun db => { p with db }

/-- The loop over the allocations of a participant. What it wrote before it raises stays. -/
@[grind =] def finalizeAllocations (manifest : AdjudicationManifest) (evidence : ExchangeAggregateExitEvidence)
    (databaseIdentity adjudicationId : String) : List AllocationSpec → Participant → Except PyError Unit × Participant
  | [], p => (.ok (), p)
  | item :: rest, p =>
    match finalizeAllocation h manifest evidence databaseIdentity adjudicationId p item with
    | .error e => (.error e, p)
    | .ok p => finalizeAllocations manifest evidence databaseIdentity adjudicationId rest p

/-- The loop over the participants. -/
@[grind =] def finalizeParticipants (manifest : AdjudicationManifest) (evidence : ExchangeAggregateExitEvidence) :
    List FinalizableParticipant → Except PyError Unit × List (String × Participant)
  | [] => (.ok (), [])
  | s :: rest =>
    match finalizeAllocations h manifest evidence s.databaseIdentity s.adjudicationId (manifest.participant s.databaseIdentity)
        s.participant with
    | (.error e, p) => (.error e, (s.databaseIdentity, p) :: rest.map fun s => (s.databaseIdentity, s.participant))
    | (.ok (), p) =>
      let finalized := finalizeParticipants manifest evidence rest
      (finalized.1, (s.databaseIdentity, p) :: finalized.2)

/-- `finalize_adjudication`: what it returns, and what the sessions hold after it, also if it raises. -/
def finalizeAdjudication (sessions : List (String × Participant)) (manifest : AdjudicationManifest)
    (evidenceProvider : EvidenceProvider) : Except PyError Unit × List (String × Participant) :=
  match finalizePreflight h sessions manifest evidenceProvider with
  | .error e => (.error e, sessions)
  | .ok (evidence, participants) => finalizeParticipants h manifest evidence participants

/-! ## Calls in any order -/

/-- The databases that may take part, by their names. -/
abbrev Participants := String → Participant

/-- A call. A caller whose finalization raised keeps what was written in some databases and rolls the others back. -/
inductive AdjudicationOp where
  | prepare (manifest : AdjudicationManifest) (databaseIdentity : String) (evidenceProvider : Option EvidenceProvider)
  | finalize (manifest : AdjudicationManifest) (databaseIdentities : List String) (evidenceProvider : EvidenceProvider)
    (kept : String → Bool)

/-- The manifest of a call. -/
def AdjudicationOp.manifest : AdjudicationOp → AdjudicationManifest
  | .prepare manifest _ _ => manifest
  | .finalize manifest _ _ _ => manifest

/-- The sessions of a finalization. -/
def Participants.sessions (w : Participants) (databaseIdentities : List String) : List (String × Participant) :=
  databaseIdentities.dedup.map fun d => (d, w d)

/-- The databases after those of a session are written. -/
def Participants.write (w : Participants) (sessions : List (String × Participant)) (kept : String → Bool) : Participants :=
  fun d => (((sessions.find? fun s => decide (s.1 = d)).filter fun _ => kept d).map Prod.snd).getD (w d)

/-- A call runs. -/
def Participants.step (w : Participants) : AdjudicationOp → Participants
  | .prepare manifest databaseIdentity evidenceProvider =>
    match prepareAdjudication h (w databaseIdentity) manifest databaseIdentity evidenceProvider with
    | .ok (_, p) => Function.update w databaseIdentity p
    | .error _ => w
  | .finalize manifest databaseIdentities evidenceProvider kept =>
    match finalizeAdjudication h (w.sessions databaseIdentities) manifest evidenceProvider with
    | (.ok (), sessions) => w.write sessions fun _ => true
    | (.error _, sessions) => w.write sessions kept

/-- The databases in sessions that read stored quantities back in a way of their own. -/
def Participants.reading (w : Participants) (read : String → ℚ → ℚ) : Participants := fun d => { w d with read := read d }

/-- A call, and how its sessions read. -/
structure AdjudicationCall where
  op : AdjudicationOp
  read : String → ℚ → ℚ := fun _ => id

/-- The databases after a call. -/
def Participants.call (w : Participants) (c : AdjudicationCall) : Participants := (w.reading c.read).step h c.op

/-- The databases after a run. -/
def Participants.run (w : Participants) (calls : List AdjudicationCall) : Participants := calls.foldl (Participants.call h) w

end

end TradingPlatform
