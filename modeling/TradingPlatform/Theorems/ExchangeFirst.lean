import TradingPlatform.Lemmas.ExchangeFirst
import TradingPlatform.Theorems.RiskBudget

/-!
# The exchange comes first

The records of the engine rest on facts of the exchange, in every state its persistence layer reaches. A receipt alone may be
written over: an order that was filled under one exchange id takes another, and the intent is filled with no fill behind it.
-/

namespace TradingPlatform

/-- An operation of the persistence layer, with the recovery of a margin guard. -/
inductive FactOp where
  | reserve (a : EntryReservation)
  | submissionResult (intentId : String) (leverage : ℤ) (result : EntryExecutionResult)
  | entryAndProtection (a : EntryFacts)
  | exitIntent (a : ExitIdentity)
  | exitSubmissionResult (positionId : String) (result : ExitExecutionResult)
  | exitResult (a : ExitFacts)
  | closedProtections (mode : V2ExecutionMode) (symbol : String) (exchangeOpenOrderIds : List String)
  | marginGuard (a : MarginGuard)

/-- The database after an operation. -/
def FactOp.apply (db : Database) : FactOp → Database
  | .reserve a => (PersistOp.reserve a).apply db
  | .submissionResult intentId leverage result => (PersistOp.submissionResult intentId leverage result).apply db
  | .entryAndProtection a => (PersistOp.entryAndProtection a).apply db
  | .exitIntent a => (PersistOp.exitIntent a).apply db
  | .exitSubmissionResult positionId result => (PersistOp.exitSubmissionResult positionId result).apply db
  | .exitResult a => (PersistOp.exitResult a).apply db
  | .closedProtections mode symbol openIds => (PersistOp.closedProtections mode symbol openIds).apply db
  | .marginGuard a => (recoverConfirmedMarginGuardLifecycle db a).2

/-- The database after a run. -/
def runFacts (db : Database) (ops : List FactOp) : Database := ops.foldl FactOp.apply db

/-- What the records say, the exchange said before. -/
structure ExchangeFirst (db : Database) : Prop where
  filled : ∀ r ∈ db.intents, r.state = .filled → ∃ o ∈ db.orders, o.intentId = r.intentId ∧
    ∃ id, o.exchangeOrderId = some id ∧ id ≠ "" ∧ ∃ f ∈ db.fills, f.intentId = r.intentId ∧ f.exchangeOrderId = id
  positions : ∀ p ∈ db.positions, ∃ o, db.order p.orderRecordId = some o ∧ o.intentId = p.intentId ∧
    (∃ id, o.exchangeOrderId = some id ∧ id ≠ "") ∧ db.fillsOfOrder p.orderRecordId ≠ []
  protections : ∀ r ∈ db.protections, r.state = .protectionActive → ∃ stop, r.stopExchangeOrderId = some stop ∧ stop ≠ ""

/-- An intent that is filled or rejected stays so. -/
def FinalStays (db db' : Database) : Prop :=
  ∀ r ∈ db.intents, r.state = .filled ∨ r.state = .rejected → ∃ r', db'.intent r.intentId = some r' ∧ r'.state = r.state

/-- The exchange comes first in every state of a run, and what is final in one is so in every later one. -/
def ExchangeFirstLaw (db : Database) (ops : List FactOp) : Prop :=
  ∀ earlier later, ops = earlier ++ later →
    ExchangeFirst (runFacts db earlier) ∧ FinalStays (runFacts db earlier) (runFacts db ops)

/-- The condition on a step: an exchange id that it writes over the order of a filled intent leaves the intent a fill. -/
def FactOp.receiptsStand (db : Database) : FactOp → Bool
  | .submissionResult intentId _ result =>
    result.bareReceipt.all fun y => (db.orderOfIntent intentId).all fun o => !db.isFilled intentId || db.receiptStands o y
  | .exitSubmissionResult _ result =>
    result.receipt.all fun y => (db.orderOfClientId result.clientOrderId).all fun o =>
      !db.isFilled o.intentId || db.receiptStands o y
  | .exitResult a =>
    !a.result.confirmed || ((db.position a.positionId).all fun p => decide (p.state = .closed)) ||
      (db.orderOfClientId a.result.clientOrderId).all fun o =>
        decide (o.intentId ≠ exitIntentId a.result.clientOrderId) || !db.isFilled o.intentId ||
          db.receiptStands o (a.result.exchangeOrderId.getD "")
  | .marginGuard a =>
    -- the recovery may fill the intent it is for before it writes to the order of the guard
    (db.orderOfClientId a.guardClientOrderId).all fun o =>
      decide (o.intentId ≠ exitIntentId a.guardClientOrderId) || !(db.isFilled o.intentId || decide (o.intentId = a.intentId)) ||
        db.receiptStands o a.guardExchangeOrderId
  | _ => true

namespace ExchangeFirstAux

variable {db db' db'' : Database}

/-! ## What is final stays -/

theorem FinalStays.refl (hk : db.Keyed) : FinalStays db db :=
  fun r hr _ => ⟨r, Table.get_of_mem hk.intents hr, rfl⟩

theorem FinalStays.trans (h : FinalStays db db') (h' : FinalStays db' db'') : FinalStays db db'' := by
  intro r hr hfinal
  obtain ⟨r', hr', hstate⟩ := h r hr hfinal
  obtain ⟨hmem, hid⟩ := Table.get_some hr'
  obtain ⟨r'', hr'', hstate'⟩ := h' r' hmem (hstate ▸ hfinal)
  exact ⟨r'', hid ▸ hr'', hstate'.trans hstate⟩

/-- An operation leaves the keys unique and what is final alone. -/
structure Lasts (db db' : Database) : Prop where
  keyed : db'.Keyed
  final : FinalStays db db'

theorem Lasts.of_effect {s : Scope} (h : Effect s db db') : Lasts db db' := by
  refine ⟨h.keyed, fun r hr hfinal => ?_⟩
  obtain ⟨r', hr', hkept⟩ := h.intents.successor hr
  have hget := Table.get_of_mem h.keyed.intents hr'
  rw [hkept.id] at hget
  exact ⟨r', hget, hkept.settled hfinal⟩

theorem Lasts.trans (h : Lasts db db') (h' : Lasts db' db'') : Lasts db db'' := ⟨h'.keyed, FinalStays.trans h.final h'.final⟩

theorem persistGuard_lasts (hk : db.Keyed) (a : MarginGuard) (e : GuardedEntry) : Lasts db (persistGuard db a e).2 := by
  have hentry : Lasts db (persistGuardedEntry db e).2 := by
    unfold persistGuardedEntry
    split
    · exact ⟨hk, FinalStays.refl hk⟩
    · exact Lasts.of_effect (transaction_effect hk fun _ h => persistEntryAndProtection_effect hk h)
  unfold persistGuard
  rcases hfirst : persistGuardedEntry db e with ⟨err | _, db₁⟩
  · rw [hfirst] at hentry
    exact hentry
  · rw [hfirst] at hentry
    have hexit : Lasts db₁ (persistExitResult db₁ (e.exit a)).2 := Lasts.of_effect (persistExitResult_effect hentry.keyed)
    dsimp only
    split
    · exact hentry
    · rcases hsecond : persistExitResult db₁ (e.exit a) with ⟨err | _, db₂⟩
      · rw [hsecond] at hexit
        exact hentry.trans hexit
      · rw [hsecond] at hexit
        exact hentry.trans hexit

theorem step_lasts (hk : db.Keyed) (op : FactOp) : Lasts db (op.apply db) := by
  cases op with
  | reserve a => exact Lasts.of_effect ((PersistOp.reserve a).apply_effect hk)
  | submissionResult intentId leverage result =>
    exact Lasts.of_effect ((PersistOp.submissionResult intentId leverage result).apply_effect hk)
  | entryAndProtection a => exact Lasts.of_effect ((PersistOp.entryAndProtection a).apply_effect hk)
  | exitIntent a => exact Lasts.of_effect ((PersistOp.exitIntent a).apply_effect hk)
  | exitSubmissionResult positionId result =>
    exact Lasts.of_effect ((PersistOp.exitSubmissionResult positionId result).apply_effect hk)
  | exitResult a => exact Lasts.of_effect ((PersistOp.exitResult a).apply_effect hk)
  | closedProtections mode symbol openIds =>
    exact Lasts.of_effect ((PersistOp.closedProtections mode symbol openIds).apply_effect hk)
  | marginGuard a =>
    change Lasts db (recoverConfirmedMarginGuardLifecycle db a).2
    unfold recoverConfirmedMarginGuardLifecycle
    split
    · exact ⟨hk, FinalStays.refl hk⟩
    · exact ⟨hk, FinalStays.refl hk⟩
    · exact persistGuard_lasts hk a _

theorem run_lasts (hk : db.Keyed) (ops : List FactOp) : Lasts db (runFacts db ops) := by
  induction ops generalizing db with
  | nil => exact ⟨hk, FinalStays.refl hk⟩
  | cons op ops ih =>
    have hstep := step_lasts hk op
    exact hstep.trans (ih hstep.keyed)

/-! ## What the records rest on -/

theorem exchangeFirst_of_factsFirst (h : db.FactsFirst fun _ => False) : ExchangeFirst db where
  filled := by
    intro r hr hfilled
    obtain ⟨o, ho, hof, hexecuted⟩ := h.filled r hr hfilled fun hf => hf
    obtain ⟨id, hack, hunder⟩ := executedBy_eq_true.mp hexecuted
    obtain ⟨hexchange, hne⟩ := OrderRow.acknowledgedId_eq_some.mp hack
    obtain ⟨f, hf, hfof, hfid⟩ := fillUnder_eq_true.mp hunder
    exact ⟨o, ho, hof, id, hexchange, hne, f, hf, hfof.trans hof, hfid⟩
  positions := by
    intro p hp
    obtain ⟨o, ho, hrecord, hof, hack, f, hf, hfof⟩ := h.positions p hp
    obtain ⟨id, hack⟩ := Option.isSome_iff_exists.mp hack
    refine ⟨o, ?_, hof, ⟨id, OrderRow.acknowledgedId_eq_some.mp hack⟩, ?_⟩
    · have hget := Table.get_of_mem h.records ho
      rw [hrecord] at hget
      exact hget
    · exact List.ne_nil_of_mem (List.mem_filter.mpr ⟨hf, decide_eq_true hfof⟩)
  protections := h.protections

theorem factsFirst_empty (h : db.Empty) : db.FactsFirst fun _ => False := by
  obtain ⟨-, -, hintents, horders, -, hpositions, hprotections⟩ := h
  refine ⟨⟨?_, ?_, ?_⟩, ?_, ?_, ?_, ?_⟩
  · simp [hintents]
  · simp [hpositions]
  · simp [hpositions]
  · simp [horders]
  · simp [hintents]
  · simp [hpositions]
  · simp [hprotections]

/-- A step under the condition keeps what the records rest on. -/
theorem step_first {op : FactOp} (h : db.FactsFirst fun _ => False) (hop : op.receiptsStand db = true) :
    (op.apply db).FactsFirst fun _ => False := by
  cases op with
  | reserve a =>
    refine transaction_first h fun db' hok => ?_
    cases hres : persistEntryIntentBeforeSubmission db a with
    | error e => simp [hres, Except.map] at hok
    | ok result =>
      obtain ⟨reason, db₁⟩ := result
      rw [hres] at hok
      cases hok
      exact persistEntryIntentBeforeSubmission_first h hres
  | submissionResult intentId leverage result =>
    refine transaction_first h fun db' hok => persistEntrySubmissionResult_first h (fun y hy o ho hfilled => ?_) hok
    simpa [FactOp.receiptsStand, hy, ho, hfilled] using hop
  | entryAndProtection a => exact transaction_first h fun db' hok => persistEntryAndProtection_first h hok
  | exitIntent a => exact transaction_first h fun db' hok => (persistExitIntentBeforeSubmission_first h hok).1
  | exitSubmissionResult positionId result =>
    refine transaction_first h fun db' hok => persistExitSubmissionResult_first h (fun y hy o ho hfilled => ?_) hok
    simpa [FactOp.receiptsStand, hy, ho, hfilled] using hop
  | exitResult a =>
    refine persistExitResult_first h fun hconfirmed p hp hopen o ho hof hfilled => ?_
    rw [hof] at hfilled
    simpa [FactOp.receiptsStand, hconfirmed, hp, hopen, ho, hof, hfilled] using hop
  | closedProtections mode symbol openIds =>
    refine transaction_first h fun db' hok => ?_
    have ht := reconcileClosedPositionProtections_touches hok
    exact h.protected ((ht.book (by decide)).effect h.keyed) (ht.mono (by decide))
        (reconcileClosedPositionProtections_placed h.protections hok)
  | marginGuard a =>
    refine recoverConfirmedMarginGuardLifecycle_first h fun o ho hof hfilled => ?_
    have hcondition : (db.isFilled o.intentId || decide (o.intentId = a.intentId)) = true := by
      rw [Bool.or_eq_true, decide_eq_true_eq]
      exact hfilled
    simpa only [FactOp.receiptsStand, ho, Option.all_some, hof.symm, ne_eq, not_true_eq_false, decide_false, hcondition,
      Bool.not_true, Bool.or_self, Bool.false_or] using hop

end ExchangeFirstAux

open ExchangeFirstAux in
/-- In every run that writes an exchange id over the order of a filled intent only where a fill stays behind it, the exchange
comes first in every state; what is final is so in every run. -/
theorem exchangeFirst_run {db : Database} (hdb : db.Empty) {ops : List FactOp}
    (hops : Loops.Meets FactOp.apply (fun db op => op.receiptsStand db = true) db ops) : ExchangeFirstLaw db ops := by
  rintro earlier later rfl
  have hfirst : (runFacts db earlier).FactsFirst fun _ => False :=
    Loops.run_keeps (fun _ _ h hop => step_first h hop) (factsFirst_empty hdb) (Loops.meets_append.mp hops).1
  refine ⟨exchangeFirst_of_factsFirst hfirst, ?_⟩
  have hrun : runFacts db (earlier ++ later) = runFacts (runFacts db earlier) later := List.foldl_append
  rw [hrun]
  exact (run_lasts hfirst.keyed later).final

/-- A reservation of the sample, as an operation of the persistence layer. -/
def sampleFact (name symbol : String) (risk : ℚ) : FactOp :=
  .reserve { sampleIdentity name symbol "breakout" with initialRiskUsdt := risk, accountEquity := some 10000 }

/-- The entry is reported filled once more, under an exchange id. -/
def reportedAgain (exchangeOrderId : String) : FactOp :=
  .submissionResult "intent-a" 5 { sampleFill "a" with exchangeOrderId := some exchangeOrderId }

/-- An entry is reserved, filled and projected, and reported once more under the same exchange id. -/
def repeatedReceiptRun : List FactOp :=
  [sampleFact "a" "AAA/USDT" 70, .entryAndProtection (sampleFacts "a" "AAA/USDT" 70), reportedAgain "order-a"]

theorem repeatedReceiptRun_exchangeFirst :
    ((runFacts {} repeatedReceiptRun).intents.map (·.state) = [.filled]) ∧ ExchangeFirstLaw {} repeatedReceiptRun := by
  refine ⟨by decide +kernel, exchangeFirst_run ⟨rfl, rfl, rfl, rfl, rfl, rfl, rfl⟩ ?_⟩
  exact ⟨rfl, rfl, by decide +kernel, trivial⟩

/-- The same under another exchange id. -/
def overwrittenReceiptRun : List FactOp :=
  [sampleFact "a" "AAA/USDT" 70, .entryAndProtection (sampleFacts "a" "AAA/USDT" 70), reportedAgain "order-99"]

theorem exchangeFirst_false : ¬ExchangeFirstLaw {} overwrittenReceiptRun := by
  intro hlaw
  have hfilled := (hlaw overwrittenReceiptRun [] rfl).1.filled
  have hnone : ∀ r ∈ (runFacts {} overwrittenReceiptRun).intents, r.state = .filled ∧
      (runFacts {} overwrittenReceiptRun).orders.all fun o =>
        (runFacts {} overwrittenReceiptRun).fills.all fun f => decide (o.exchangeOrderId ≠ some f.exchangeOrderId) := by
    decide +kernel
  have hsome : (runFacts {} overwrittenReceiptRun).intents ≠ [] := by decide +kernel
  obtain ⟨r, hr⟩ := List.exists_mem_of_ne_nil _ hsome
  obtain ⟨hstate, hall⟩ := hnone r hr
  obtain ⟨o, ho, -, id, hexchange, -, f, hf, -, rfl⟩ := hfilled r hr hstate
  rw [List.all_eq_true] at hall
  have hno := List.all_eq_true.mp (hall o ho) f hf
  exact of_decide_eq_true hno hexchange

end TradingPlatform
